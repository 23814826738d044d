import MediaServer.HlsSegmenter

/-! The window of segments. A call publishes at most one segment, under the next number; the window is
the end of everything that was published. -/
namespace MediaServer.HlsSegmenter
open Bytes Controller

def Effect.segment : Effect → Option Segment
  | .published segment => some segment
  | _ => none

def publishedOf (effects : List Effect) : List Segment := effects.filterMap Effect.segment

def Small (effects : List Effect) : Prop :=
  ∀ size, .wrote size ∈ effects → size ≤ maxSegmentBytes

/- The calls of ts_write for one packet. Whatever blocks they get, the segment does not outgrow the
limit; when all of them are taken it has grown by the blocks. -/
structure Wrote (current : Bytes) (blocks : List Bytes) (last : Bytes) (effects : List Effect)
    (ok : Bool) : Prop where
  fits : current.length ≤ maxSegmentBytes → last.length ≤ maxSegmentBytes
  small : current.length ≤ maxSegmentBytes → Small effects
  plain : publishedOf effects = [] ∧ .discarded ∉ effects
  whole : ok = true → last = current ++ blocks.flatten
  full : ok = false → maxSegmentBytes < (current ++ blocks.flatten).length

theorem wrote (current : Bytes) (blocks : List Bytes) :
    Wrote current blocks (tsWrites current blocks).1 (tsWrites current blocks).2.1
      (tsWrites current blocks).2.2 := by
  induction blocks generalizing current with
  | nil =>
    exact ⟨id,fun _ => by simp [Small,tsWrites],⟨rfl,nofun⟩,fun _ => by simp [tsWrites],nofun⟩
  | cons block rest ih =>
    simp only [tsWrites,tsWrite]
    split
    · rename_i refused
      refine ⟨id,fun _ => by simp [Small],⟨rfl,nofun⟩,nofun,?_⟩
      intro _
      split at refused
      · rw [List.flatten_cons,List.length_append,List.length_append]
        omega
      · contradiction
    · rename_i next taken
      split at taken
      · contradiction
      · rename_i room
        cases Option.some.inj taken
        have later := ih (current ++ block)
        have grown : current.length ≤ maxSegmentBytes →
            (current ++ block).length ≤ maxSegmentBytes := by
          intro fits
          rw [List.length_append]
          omega
        refine ⟨fun fits => later.fits (grown fits),?_,⟨later.plain.1,?_⟩,?_,?_⟩
        · intro fits size member
          rcases List.mem_cons.mp member with same | rest
          · cases same
            exact grown fits
          · exact later.small (grown fits) size rest
        · simpa using later.plain.2
        · intro ok
          rw [later.whole ok]
          simp
        · intro failed
          have more := later.full failed
          rw [List.append_assoc] at more
          exact more

section
variable {μ : Type} (muxer : TsMuxer μ)

inductive Written (g : Segmenter μ) (frame : MediaFrame) (faults : Faults) (now : Int) :
    Segmenter μ → List Effect → Prop where
  | stuck (none : g.muxer = none) : Written g frame faults now g []
  | added {m m' blocks effects} (here : g.muxer = some m)
      (out : muxer.write m (packet frame) = (blocks,m'))
      (wrote : Wrote g.currentSegment blocks (g.currentSegment ++ blocks.flatten) effects true) :
      Written g frame faults now
        {g with
          muxer := some m'
          currentSegment := g.currentSegment ++ blocks.flatten
          segmentMaxPtsNs := max g.segmentMaxPtsNs frame.ptsNs} effects
  | discarded {m m' blocks last effects ok} (here : g.muxer = some m)
      (out : muxer.write m (packet frame) = (blocks,m'))
      (wrote : Wrote g.currentSegment (faults.blocks blocks) last effects ok)
      (fails : faults.write ≠ none ∨ maxSegmentBytes < (g.currentSegment ++ blocks.flatten).length) :
      Written g frame faults now (g.discardSegment muxer faults.again now).1 (effects ++ [.discarded])

theorem written (g : Segmenter μ) (frame : MediaFrame) (faults : Faults) (now : Int) :
    Written muxer g frame faults now (g.write muxer frame faults now).1
      (g.write muxer frame faults now).2 := by
  unfold Segmenter.write
  split
  · rename_i none_
    exact .stuck none_
  · rename_i m here
    have calls := wrote g.currentSegment (faults.blocks (muxer.write m (packet frame)).1)
    dsimp only
    split
    · rename_i good
      rw [Bool.and_eq_true,Option.isNone_iff_eq_none] at good
      have blocks : faults.blocks (muxer.write m (packet frame)).1 =
          (muxer.write m (packet frame)).1 := by rw [Faults.blocks,good.2]
      rw [blocks] at calls good ⊢
      have whole := calls.whole good.1
      rw [good.1,whole] at calls
      rw [whole]
      exact .added here rfl calls
    · rename_i bad
      refine .discarded here rfl calls ?_
      by_cases own : faults.write = none
      · refine .inr ?_
        have blocks : faults.blocks (muxer.write m (packet frame)).1 =
            (muxer.write m (packet frame)).1 := by rw [Faults.blocks,own]
        rw [blocks] at calls bad
        exact calls.full (by simpa [own] using bad)
      · exact .inl own

def Segmenter.keyFrame (g : Segmenter μ) (frame : MediaFrame) : Bool :=
  (g.tracks.find? fun track => track.id = frame.track).any fun track =>
    track.kind = .video && frame.keyFrame

def Segmenter.accepts (g : Segmenter μ) (frame : MediaFrame) : Bool :=
  g.endedAt.isNone && (g.tracks.find? fun track => track.id = frame.track).isSome &&
    (!g.waitingForKeyFrame || g.keyFrame frame)

def window (segments : List Segment) : List Segment :=
  segments.drop (segments.length - Hls.segmentWindowSize)

def Segmenter.push (g : Segmenter μ) (segment : Segment) : Segmenter μ :=
  {g with
    segments := window (g.segments ++ [segment])
    nextSequence := g.nextSequence + 1
    currentSegment := []}

inductive Move (g : Segmenter μ) : Event → Segmenter μ → List Effect → Prop where
  | ended {e} (spent : g.endedAt.isSome = true) : Move g e g []
  | ignored {frame faults now} (going : g.endedAt = none) (out : g.accepts frame = false) :
      Move g (.onFrame frame faults now) g []
  | written {frame faults now g' effects} (ok : g.accepts frame = true)
      (write : Written muxer (g.opened frame.ptsNs) frame faults now g' effects) :
      Move g (.onFrame frame faults now) g' effects
  | renewed {frame faults now segment g' effects} (ok : g.accepts frame = true)
      (full : g.currentSegment ≠ []) (key : g.hasVideo = true → g.keyFrame frame = true)
      (number : segment.sequence = g.nextSequence) (data : segment.data = g.currentSegment)
      (write : Written muxer
        (Segmenter.begin {(g.opened frame.ptsNs).push segment with
          muxer := some (muxer.create g.tracks)} frame.ptsNs) frame faults now g' effects) :
      Move g (.onFrame frame faults now) g' (.published segment :: effects)
  | closed {frame faults now segment} (ok : g.accepts frame = true) (fails : faults.next = false)
      (full : g.currentSegment ≠ []) (number : segment.sequence = g.nextSequence)
      (data : segment.data = g.currentSegment) :
      Move g (.onFrame frame faults now)
        {(g.opened frame.ptsNs).push segment with muxer := none, endedAt := some now}
        [.published segment]
  | finished {now} (going : g.endedAt = none) (empty : g.currentSegment = []) :
      Move g (.finish now) {g with muxer := none, endedAt := some now} []
  | published {now segment} (going : g.endedAt = none) (full : g.currentSegment ≠ [])
      (number : segment.sequence = g.nextSequence) (data : segment.data = g.currentSegment) :
      Move g (.finish now) {g.push segment with muxer := none, endedAt := some now}
        [.published segment]

theorem openedSame (g : Segmenter μ) (ptsNs : Int) :
    (g.opened ptsNs).tracks = g.tracks ∧ (g.opened ptsNs).segments = g.segments ∧
      (g.opened ptsNs).currentSegment = g.currentSegment ∧ (g.opened ptsNs).muxer = g.muxer ∧
      (g.opened ptsNs).nextSequence = g.nextSequence ∧ (g.opened ptsNs).endedAt = g.endedAt ∧
      (g.opened ptsNs).hasVideo = g.hasVideo ∧ (g.opened ptsNs).waitingForKeyFrame = false := by
  unfold Segmenter.opened
  dsimp only
  split <;> exact ⟨rfl,rfl,rfl,rfl,rfl,rfl,rfl,rfl⟩

variable {g g' : Segmenter μ} {frame : MediaFrame} {effects : List Effect} {next : Nat}
  {published : List Segment}

theorem finishSegmentFull (full : g.currentSegment ≠ []) (endPtsNs : Int) :
    g.finishSegment endPtsNs =
      (g.push ⟨g.nextSequence,g.duration endPtsNs,g.currentSegment⟩,
        [.published ⟨g.nextSequence,g.duration endPtsNs,g.currentSegment⟩]) := by
  unfold Segmenter.finishSegment
  rw [if_neg (by simpa using full)]
  rfl

theorem onTrackMove {track : MediaTrack} (going : g.endedAt = none)
    (found : (g.tracks.find? fun track => track.id = frame.track) = some track) (faults : Faults)
    (now : Int) :
    Move muxer g (.onFrame frame faults now) (g.onTrack muxer track frame faults now).1
      (g.onTrack muxer track frame faults now).2 := by
  have key : g.keyFrame frame = (track.kind = .video && frame.keyFrame) := by
    rw [Segmenter.keyFrame,found]
    rfl
  unfold Segmenter.onTrack
  rw [← key]
  split
  · rename_i waits
    rw [Bool.and_eq_true,Bool.not_eq_true'] at waits
    refine .ignored going ?_
    simp [Segmenter.accepts,waits.1,waits.2]
  · rename_i goes
    have ok : g.accepts frame = true := by
      simp only [Segmenter.accepts,going,found]
      cases waits : g.waitingForKeyFrame with
      | false => rfl
      | true => simpa [waits] using goes
    obtain ⟨tracks,segments,current,mux,next,ended,video,_⟩ := openedSame g frame.ptsNs
    dsimp only
    split
    · rename_i boundary
      simp only [Segmenter.boundary,Bool.and_eq_true,Bool.or_eq_true,Bool.not_eq_true',← key,
        current,video] at boundary
      obtain ⟨⟨starts,_⟩,some_⟩ := boundary
      have full : g.currentSegment ≠ [] := by simpa using some_
      have starts : g.hasVideo = true → g.keyFrame frame = true := by
        intro has
        exact starts.resolve_left (by simp [has])
      simp only [Segmenter.renew,finishSegmentFull (current.symm ▸ full)]
      split
      · rw [List.singleton_append]
        refine .renewed ok full starts next current ?_
        rw [← tracks]
        exact written muxer _ frame faults now
      · rename_i fails
        exact .closed ok (by simpa using fails) full next current
    · exact .written ok (written muxer _ frame faults now)

theorem endedStep (spent : g.endedAt.isSome = true) (e : Event) : step muxer g e = (g,[]) := by
  cases e <;> simp [step,Segmenter.onFrame,Segmenter.finish,spent]

theorem move (g : Segmenter μ) (e : Event) :
    Move muxer g e (step muxer g e).1 (step muxer g e).2 := by
  cases spent : g.endedAt with
  | some ended =>
    have some_ : g.endedAt.isSome = true := by rw [spent]; rfl
    rw [endedStep muxer some_]
    exact .ended some_
  | none =>
    cases e with
    | onFrame frame faults now =>
      simp only [step,Segmenter.onFrame,spent,Option.isSome_none,Bool.false_eq_true,if_false]
      split
      · rename_i track found
        exact onTrackMove muxer spent found faults now
      · rename_i absent
        refine .ignored spent ?_
        simp [Segmenter.accepts,absent]
    | finish now =>
      simp only [step,Segmenter.finish,spent,Option.isSome_none,Bool.false_eq_true,if_false]
      by_cases empty : g.currentSegment = []
      · have same : g.finishSegment g.segmentMaxPtsNs = (g,[]) := by
          rw [Segmenter.finishSegment,if_pos (by simp [empty])]
        rw [same]
        exact .finished spent empty
      · rw [finishSegmentFull empty]
        exact .published spent empty rfl rfl

variable {muxer}

theorem publishedAppend (first second : List Effect) :
    publishedOf (first ++ second) = publishedOf first ++ publishedOf second :=
  List.filterMap_append

theorem Small.append {first second : List Effect} (a : Small first) (b : Small second) :
    Small (first ++ second) := by
  intro size member
  rcases List.mem_append.mp member with early | late
  · exact a size early
  · exact b size late

structure Pushes (g g' : Segmenter μ) (effects : List Effect) : Prop where
  segments : g'.segments = g.segments ∧ publishedOf effects = [] ∧ g'.nextSequence = g.nextSequence ∨
    ∃ segment, publishedOf effects = [segment] ∧ segment.sequence = g.nextSequence ∧
      g'.segments = window (g.segments ++ [segment]) ∧ g'.nextSequence = g.nextSequence + 1
  fits : g'.currentSegment.length ≤ maxSegmentBytes
  small : Small effects

theorem Written.pushes {faults : Faults} {now : Int}
    (write : Written muxer g frame faults now g' effects)
    (fits : g.currentSegment.length ≤ maxSegmentBytes) :
    g'.segments = g.segments ∧ g'.nextSequence = g.nextSequence ∧ publishedOf effects = [] ∧
      g'.currentSegment.length ≤ maxSegmentBytes ∧ Small effects := by
  cases write with
  | stuck => exact ⟨rfl,rfl,rfl,fits,by simp [Small]⟩
  | added here out wrote => exact ⟨rfl,rfl,wrote.plain.1,wrote.fits fits,wrote.small fits⟩
  | discarded here out wrote =>
    refine ⟨rfl,rfl,?_,Nat.zero_le _,(wrote.small fits).append (by simp [Small])⟩
    rw [publishedAppend,wrote.plain.1]
    rfl

theorem Move.pushes {e : Event} (moved : Move muxer g e g' effects)
    (fits : g.currentSegment.length ≤ maxSegmentBytes) : Pushes g g' effects := by
  have nothing : Small [] := by simp [Small]
  have alone (segment : Segment) : Small [.published segment] := by simp [Small]
  cases moved with
  | ended => exact ⟨.inl ⟨rfl,rfl,rfl⟩,fits,nothing⟩
  | ignored => exact ⟨.inl ⟨rfl,rfl,rfl⟩,fits,nothing⟩
  | @written frame _ _ _ _ ok write =>
    obtain ⟨_,segments,current,_,next,_⟩ := openedSame g frame.ptsNs
    obtain ⟨same,number,quiet,last,small⟩ := write.pushes (by rw [current]; exact fits)
    exact ⟨.inl ⟨same.trans segments,quiet,number.trans next⟩,last,small⟩
  | @renewed frame _ _ segment _ effects ok full key number data write =>
    obtain ⟨_,segments,_,_,next,_⟩ := openedSame g frame.ptsNs
    obtain ⟨same,numbers,quiet,last,small⟩ := write.pushes (Nat.zero_le _)
    refine ⟨.inr ⟨segment,?_,number,?_,?_⟩,last,(alone segment).append small⟩
    · rw [← List.singleton_append,publishedAppend,quiet]
      rfl
    · rw [same,← segments]
      rfl
    · rw [numbers,← next]
      rfl
  | @closed frame _ _ segment ok fails full number data =>
    obtain ⟨_,segments,_,_,next,_⟩ := openedSame g frame.ptsNs
    refine ⟨.inr ⟨segment,rfl,number,?_,?_⟩,Nat.zero_le _,alone segment⟩
    · rw [← segments]
      rfl
    · rw [← next]
      rfl
  | finished => exact ⟨.inl ⟨rfl,rfl,rfl⟩,fits,nothing⟩
  | @published _ segment going full number data =>
    exact ⟨.inr ⟨segment,rfl,number,rfl,rfl⟩,Nat.zero_le _,alone segment⟩

def publishedIn (past : List (Round (Segmenter μ) Event Effect)) : List Segment :=
  past.flatMap fun r => publishedOf r.effects

structure Ledger (past : List (Round (Segmenter μ) Event Effect)) (g : Segmenter μ) : Prop where
  numbers : (publishedIn past).map Segment.sequence = List.range g.nextSequence
  window : g.segments = window (publishedIn past)
  fits : g.currentSegment.length ≤ maxSegmentBytes
  small : ∀ r ∈ past, Small r.effects

theorem windowPush (segments : List Segment) (segment : Segment) :
    window (window segments ++ [segment]) = window (segments ++ [segment]) := by
  simp only [window,List.length_append,List.length_drop,List.length_singleton]
  rw [← List.drop_append_of_le_length (by omega),List.drop_drop]
  congr 1
  omega

theorem publishedSnoc (past : List (Round (Segmenter μ) Event Effect))
    (r : Round (Segmenter μ) Event Effect) :
    publishedIn (past ++ [r]) = publishedIn past ++ publishedOf r.effects := by
  simp [publishedIn]

theorem ledgerStep (muxer : TsMuxer μ) (past : List (Round (Segmenter μ) Event Effect))
    (g : Segmenter μ) (e : Event) (ledger : Ledger past g) :
    Ledger (past ++ [.of (step muxer) g e]) (step muxer g e).1 := by
  have pushes := (move muxer g e).pushes ledger.fits
  have small : ∀ r ∈ past ++ [.of (step muxer) g e], Small r.effects := by
    intro r member
    rcases List.mem_append.mp member with earlier | last
    · exact ledger.small r earlier
    · cases List.mem_singleton.mp last
      exact pushes.small
  refine ⟨?_,?_,pushes.fits,small⟩
  · rw [publishedSnoc,List.map_append,ledger.numbers]
    rcases pushes.segments with ⟨_,quiet,next⟩ | ⟨segment,new,number,_,next⟩
    · rw [next]
      simp [Round.of,quiet]
    · rw [next,List.range_succ]
      simp [Round.of,new,number]
  · rw [publishedSnoc]
    rcases pushes.segments with ⟨same,quiet,_⟩ | ⟨segment,new,_,same,_⟩
    · rw [same,ledger.window]
      simp [Round.of,quiet]
    · rw [same,ledger.window,windowPush]
      simp [Round.of,new]

theorem ledgerStart {tracks : List MediaTrack} {created : Bool}
    (start : startup muxer tracks created = some g) : Ledger [] g := by
  unfold startup at start
  dsimp only at start
  split at start
  · contradiction
  · cases Option.some.inj start
    exact ⟨rfl,rfl,Nat.zero_le _,by simp⟩

def PlaylistLine.listed : PlaylistLine → Option Nat
  | .uri sequence => some sequence
  | _ => none

def listed (playlist : List PlaylistLine) : List Nat := playlist.filterMap PlaylistLine.listed

theorem playlistListed (g : Segmenter μ) : listed g.playlist = g.segments.map Segment.sequence := by
  have lines (segments : List Segment) :
      listed (segments.flatMap fun item => [.extInf item.duration,.uri item.sequence]) =
        segments.map Segment.sequence := by
    induction segments with
    | nil => rfl
    | cons item rest ih =>
      rw [List.flatMap_cons,listed,List.filterMap_append]
      exact congrArg _ ih
  simp only [Segmenter.playlist,listed,List.filterMap_append] at lines ⊢
  rw [lines]
  split <;> exact List.append_nil _

theorem playlistMedia (g : Segmenter μ) (number : Nat) :
    .mediaSequence number ∈ g.playlist ↔
      number = (listed g.playlist).head?.getD g.nextSequence := by
  rw [playlistListed]
  simp [Segmenter.playlist]

theorem bufferListed (g : Segmenter μ) (number : Nat) :
    number ∈ listed g.playlist ↔ (g.segmentBuffer number).isSome = true := by
  rw [playlistListed]
  simp [Segmenter.segmentBuffer]

theorem windowNumbers {segments : List Segment}
    (numbers : segments.map Segment.sequence = List.range next) :
    (window segments).length ≤ Hls.segmentWindowSize ∧
      (window segments).length ≤ next ∧
      (window segments).map Segment.sequence =
        List.range' (next - (window segments).length) (window segments).length := by
  have length : segments.length = next := by simpa using congrArg List.length numbers
  have few : (window segments).length = segments.length - (segments.length - Hls.segmentWindowSize) :=
    List.length_drop
  refine ⟨by omega,by omega,?_⟩
  rw [few,window,List.map_drop,numbers,length,List.range_eq_range',List.drop_range']
  congr 1
  omega

structure Windowed (published : List Segment) (g : Segmenter μ) : Prop where
  size : g.segments.length ≤ Hls.segmentWindowSize
  consecutive : g.segments.length ≤ g.nextSequence ∧ g.segments.map Segment.sequence =
    List.range' (g.nextSequence - g.segments.length) g.segments.length
  once : published.map Segment.sequence = List.range g.nextSequence
  kept : g.segments <:+ published
  media : ∀ number, .mediaSequence number ∈ g.playlist ↔
    number = (listed g.playlist).head?.getD g.nextSequence
  listed : listed g.playlist = g.segments.map Segment.sequence ∧
    ∀ number, number ∈ listed g.playlist ↔ (g.segmentBuffer number).isSome = true
  buffer : ∀ number data, g.segmentBuffer number = some data →
    ∃ segment ∈ published, segment.sequence = number ∧ segment.data = data
  limit : g.currentSegment.length ≤ maxSegmentBytes

theorem bufferPublished (kept : g.segments <:+ published) {number : Nat} {data : Bytes}
    (found : g.segmentBuffer number = some data) :
    ∃ segment ∈ published, segment.sequence = number ∧ segment.data = data := by
  obtain ⟨segment,here,same⟩ := Option.map_eq_some_iff.mp found
  refine ⟨segment,kept.subset (List.mem_of_find?_eq_some here),?_,same⟩
  simpa using List.find?_some here

theorem Ledger.windowed {past : List (Round (Segmenter μ) Event Effect)} (ledger : Ledger past g) :
    Windowed (publishedIn past) g := by
  have numbers := windowNumbers ledger.numbers
  rw [← ledger.window] at numbers
  have kept : g.segments <:+ publishedIn past := by
    rw [ledger.window]
    exact List.drop_suffix ..
  exact ⟨numbers.1,numbers.2,ledger.numbers,kept,playlistMedia g,⟨playlistListed g,bufferListed g⟩,
    fun _ _ => bufferPublished kept,ledger.fits⟩

theorem sameNumber {a b : Segment} (once : published.map Segment.sequence = List.range next)
    (first : a ∈ published) (second : b ∈ published) (same : a.sequence = b.sequence) : a = b := by
  have unique : (published.map Segment.sequence).Nodup := by
    rw [once]
    exact List.nodup_range
  exact List.inj_on_of_nodup_map unique first second same

theorem hlsWindow (muxer : TsMuxer μ) (tracks : List MediaTrack) (created : Bool) {g : Segmenter μ}
    (start : startup muxer tracks created = some g) (events : List Event) :
    Windowed (publishedIn (rounds (step muxer) g events)) (final (step muxer) g events) ∧
    (∀ r ∈ rounds (step muxer) g events, Small r.effects ∧
      (r.state.endedAt.isSome = true → r.next = r.state ∧ r.effects = [])) ∧
    ∀ r ∈ rounds (step muxer) g events, ∀ later ∈ rounds (step muxer) g events, ∀ number a b,
      r.next.segmentBuffer number = some a → later.next.segmentBuffer number = some b → a = b := by
  have ledger : Ledger (rounds (step muxer) g events) (final (step muxer) g events) :=
    finalHistory (P := Ledger) (ledgerStart start) (ledgerStep muxer)
  have after : ∀ r ∈ rounds (step muxer) g events, r = .of (step muxer) r.state r.event ∧
      ∀ number data, r.next.segmentBuffer number = some data →
        ∃ segment ∈ publishedIn (rounds (step muxer) g events),
          segment.sequence = number ∧ segment.data = data := by
    intro r member
    obtain ⟨before,later,cut⟩ := List.append_of_mem member
    obtain ⟨then_,same⟩ := roundsHistory (ledgerStart start) (ledgerStep muxer) cut
    refine ⟨same,?_⟩
    intro number data found
    have now := ledgerStep muxer _ _ r.event then_
    rw [same] at found
    obtain ⟨segment,inside,rest⟩ := now.windowed.buffer number data found
    refine ⟨segment,?_,rest⟩
    rw [← same] at inside
    rw [cut,publishedIn,List.append_cons,List.flatMap_append]
    exact List.mem_append_left _ inside
  refine ⟨ledger.windowed,?_,?_⟩
  · intro r member
    refine ⟨ledger.small r member,?_⟩
    intro spent
    have same := (after r member).1
    have still := endedStep muxer spent r.event
    rw [same]
    simp [Round.of,still]
  · intro r member later second number a b first last
    obtain ⟨x,inside,number_,data⟩ := (after r member).2 number a first
    obtain ⟨y,too,other,data'⟩ := (after later second).2 number b last
    have same := sameNumber ledger.numbers inside too (number_.trans other.symm)
    rw [← data,← data',same]

end

def blockMuxer : TsMuxer Unit := ⟨fun _ => (),fun _ packet => ([71 :: packet.payload],())⟩

def windowTracks : List MediaTrack := [avcTrack,⟨2,.audio,.opus,48000,2,[]⟩]

def keyFrameAt (seconds : Int) : Event :=
  .onFrame ⟨1,seconds * 1000000000,seconds * 1000000000,true,[]⟩ ⟨true,none,true⟩ seconds

def windowEvents : List Event :=
  [keyFrameAt 0,keyFrameAt 2,keyFrameAt 4,keyFrameAt 6,keyFrameAt 8,keyFrameAt 10,keyFrameAt 12,
    keyFrameAt 14,keyFrameAt 16,.finish 17]

theorem hlsWindowRun : ∃ g, startup blockMuxer windowTracks true = some g ∧
    (final (step blockMuxer) g windowEvents).nextSequence = 9 ∧
    Windowed (publishedIn (rounds (step blockMuxer) g windowEvents))
      (final (step blockMuxer) g windowEvents) := by
  obtain ⟨g,start,nine⟩ : ∃ g, startup blockMuxer windowTracks true = some g ∧
      (final (step blockMuxer) g windowEvents).nextSequence = 9 := ⟨_,rfl,by decide +kernel⟩
  exact ⟨g,start,nine,(hlsWindow blockMuxer windowTracks true start windowEvents).1⟩

end MediaServer.HlsSegmenter
