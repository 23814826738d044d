import MediaServer.HlsWindow

/-! What is in the segments. The accepted frames fall into runs, one after the other: every run is
what one muxer got from its creation on, and ends as a published segment, as a discarded one or as the
current one. -/
namespace MediaServer.HlsSegmenter
open Bytes Controller

section
variable {μ : Type} (muxer : TsMuxer μ)

def produce (m : μ) : List MediaFrame → Bytes × μ
  | [] => ([],m)
  | frame :: rest =>
    ((muxer.write m (packet frame)).1.flatten ++ (produce (muxer.write m (packet frame)).2 rest).1,
      (produce (muxer.write m (packet frame)).2 rest).2)

def output (tracks : List MediaTrack) (run : List MediaFrame) : Bytes :=
  (produce muxer (muxer.create tracks) run).1

theorem produceAppend (m : μ) (first second : List MediaFrame) :
    produce muxer m (first ++ second) =
      ((produce muxer m first).1 ++ (produce muxer (produce muxer m first).2 second).1,
        (produce muxer (produce muxer m first).2 second).2) := by
  induction first generalizing m with
  | nil => rfl
  | cons frame rest ih =>
    simp only [List.cons_append,produce,ih,List.append_assoc]

structure Produces : Prop where
  blocks : ∀ m packet, (muxer.write m packet).1 ≠ []
  bytes : ∀ m packet, ∀ block ∈ (muxer.write m packet).1, block ≠ []

variable {muxer}

theorem Produces.some_ (produces : Produces muxer) (m : μ) (packet : TsPacket) :
    (muxer.write m packet).1.flatten ≠ [] := by
  obtain ⟨block,rest,same⟩ := List.exists_cons_of_ne_nil (produces.blocks m packet)
  have bytes := produces.bytes m packet block (by rw [same]; exact List.mem_cons_self ..)
  rw [same,List.flatten_cons]
  simp [bytes]

variable {tracks : List MediaTrack} {past : List (Round (Segmenter μ) Event Effect)}
  {first g : Segmenter μ} {frame : MediaFrame} {r : Round (Segmenter μ) Event Effect}

theorem Produces.outputs (produces : Produces muxer) {run : List MediaFrame}
    (none_ : output muxer tracks run = []) : run = [] := by
  cases run with
  | nil => rfl
  | cons frame rest =>
    have bytes := (List.append_eq_nil_iff.mp none_).1
    exact absurd bytes (produces.some_ _ _)

def acceptedAt (r : Round (Segmenter μ) Event Effect) : Option MediaFrame :=
  match r.event with
  | .onFrame frame _ _ => if r.state.accepts frame then some frame else none
  | .finish _ => none

def acceptedIn (past : List (Round (Segmenter μ) Event Effect)) : List (Nat × MediaFrame) :=
  past.zipIdx.filterMap fun (r,n) => (acceptedAt r).map (n,·)

inductive Piece where
  | published (segment : Segment) (run : List (Nat × MediaFrame))
  | discarded (run : List (Nat × MediaFrame))

def Piece.run : Piece → List (Nat × MediaFrame)
  | .published _ run | .discarded run => run

def Piece.segment : Piece → Option Segment
  | .published segment _ => some segment
  | .discarded _ => none

/- The write of this frame failed: the library said so, or the segment would have become too long. -/
def WriteFailed (muxer : TsMuxer μ) (past : List (Round (Segmenter μ) Event Effect))
    (tracks : List MediaTrack) (run : List (Nat × MediaFrame)) (n : Nat) (frame : MediaFrame) : Prop :=
  ∃ r faults now, past[n]? = some r ∧ r.event = .onFrame frame faults now ∧
    .discarded ∈ r.effects ∧
    (faults.write ≠ none ∨ maxSegmentBytes < (output muxer tracks (run.map Prod.snd)).length)

def Starts (first : Segmenter μ) (run : List (Nat × MediaFrame)) : Prop :=
  ∃ n frame rest, run = (n,frame) :: rest ∧ (first.hasVideo = true → first.keyFrame frame = true)

inductive Piece.Sound (muxer : TsMuxer μ) (past : List (Round (Segmenter μ) Event Effect))
    (first : Segmenter μ) : Piece → Prop where
  | published {segment run} (starts : Starts first run)
      (data : segment.data = output muxer first.tracks (run.map Prod.snd)) :
      Sound muxer past first (.published segment run)
  | discarded {before n frame} (starts : Starts first (before ++ [(n,frame)]))
      (failed : WriteFailed muxer past first.tracks (before ++ [(n,frame)]) n frame) :
      Sound muxer past first (.discarded (before ++ [(n,frame)]))

variable {pieces : List Piece}

variable {piece : Piece} {run : List (Nat × MediaFrame)} {u g' : Segmenter μ} {faults : Faults}
  {now : Int} {effects : List Effect} {created : Bool}

theorem Piece.Sound.later (sound : piece.Sound muxer past first)
    (more : List (Round (Segmenter μ) Event Effect)) : piece.Sound muxer (past ++ more) first := by
  cases sound with
  | published starts data => exact .published starts data
  | discarded starts failed =>
    obtain ⟨r,faults,now,here,rest⟩ := failed
    have inside := (List.getElem?_eq_some_iff.mp here).1
    exact .discarded starts ⟨r,faults,now,by rw [List.getElem?_append_left inside]; exact here,rest⟩

structure Holds (muxer : TsMuxer μ) (first g : Segmenter μ) (run : List (Nat × MediaFrame)) :
    Prop where
  tracks : g.tracks = first.tracks
  video : g.hasVideo = first.hasVideo
  going : g.endedAt = none
  current : g.currentSegment = output muxer first.tracks (run.map Prod.snd)
  muxer_ : g.muxer = some (produce muxer (muxer.create first.tracks) (run.map Prod.snd)).2

theorem outputSnoc {m m' : μ} {blocks : List Bytes} (n : Nat)
    (here : m = (produce muxer (muxer.create tracks) (run.map Prod.snd)).2)
    (out : muxer.write m (packet frame) = (blocks,m')) :
    output muxer tracks ((run ++ [(n,frame)]).map Prod.snd) =
        output muxer tracks (run.map Prod.snd) ++ blocks.flatten ∧
      (produce muxer (muxer.create tracks) ((run ++ [(n,frame)]).map Prod.snd)).2 = m' := by
  subst here
  simp only [output,List.map_append,List.map_cons,List.map_nil,produceAppend,produce,out,
    List.append_nil,and_self]

theorem Holds.written {n : Nat} (holds : Holds muxer first u run)
    (write : Written muxer u frame faults now g effects) (again : faults.again = true)
    (starts : Starts first (run ++ [(n,frame)])) (place : past[n]? = some r)
    (event : r.event = .onFrame frame faults now) (ordered : ∀ effect ∈ effects, effect ∈ r.effects) :
    (effects.filterMap Effect.segment = [] ∧ Holds muxer first g (run ++ [(n,frame)])) ∨
    (effects.filterMap Effect.segment = [] ∧ Holds muxer first g [] ∧
      g.waitingForKeyFrame = first.hasVideo ∧
      (Piece.discarded (run ++ [(n,frame)])).Sound muxer past first) := by
  cases write with
  | stuck none_ =>
    rw [holds.muxer_] at none_
    contradiction
  | added here out wrote =>
    rw [holds.muxer_] at here
    obtain ⟨grown,next⟩ := outputSnoc n (Option.some.inj here).symm out
    refine .inl ⟨wrote.plain.1,holds.tracks,holds.video,holds.going,?_,?_⟩
    · rw [grown,← holds.current]
    · rw [next]
  | discarded here out wrote fails =>
    rw [holds.muxer_] at here
    obtain ⟨grown,_⟩ := outputSnoc n (Option.some.inj here).symm out
    refine .inr ⟨?_,⟨holds.tracks,holds.video,?_,rfl,?_⟩,holds.video,.discarded starts
      ⟨r,faults,now,place,event,ordered _ (List.mem_append_right _ (List.mem_cons_self ..)),?_⟩⟩
    · rw [List.filterMap_append]
      exact List.append_eq_nil_iff.mpr ⟨wrote.plain.1,rfl⟩
    · simp [Segmenter.discardSegment,again,holds.going]
    · simp [Segmenter.discardSegment,again,holds.tracks,produce]
    · rw [grown,← holds.current]
      exact fails

structure Account (muxer : TsMuxer μ) (first : Segmenter μ)
    (past : List (Round (Segmenter μ) Event Effect)) (g : Segmenter μ) (pieces : List Piece)
    (run : List (Nat × MediaFrame)) : Prop where
  accepted : acceptedIn past = (pieces.map Piece.run).flatten ++ run
  published : publishedIn past = pieces.filterMap Piece.segment
  sound : ∀ piece ∈ pieces, piece.Sound muxer past first
  starts : run ≠ [] → Starts first run
  current : g.currentSegment = output muxer first.tracks (run.map Prod.snd)
  holds : g.endedAt = none → Holds muxer first g run
  waits : g.endedAt = none → run = [] → g.waitingForKeyFrame = first.hasVideo
  spent : g.endedAt.isSome = true → run = []

theorem acceptedSnoc (past : List (Round (Segmenter μ) Event Effect))
    (r : Round (Segmenter μ) Event Effect) :
    acceptedIn (past ++ [r]) =
      acceptedIn past ++ ((acceptedAt r).map (past.length,·)).toList := by
  simp only [acceptedIn,List.zipIdx_append,List.filterMap_append]
  cases found : acceptedAt r <;> simp [found]

theorem Account.extend (account : Account muxer first past g pieces run) (more : List Piece)
    (run' : List (Nat × MediaFrame))
    (split : run ++ ((acceptedAt r).map (past.length,·)).toList =
      (more.map Piece.run).flatten ++ run')
    (published : publishedOf r.effects = more.filterMap Piece.segment)
    (sound : ∀ piece ∈ more, piece.Sound muxer (past ++ [r]) first)
    (starts : run' ≠ [] → Starts first run')
    (current : g'.currentSegment = output muxer first.tracks (run'.map Prod.snd))
    (holds : g'.endedAt = none → Holds muxer first g' run')
    (waits : g'.endedAt = none → run' = [] → g'.waitingForKeyFrame = first.hasVideo)
    (spent : g'.endedAt.isSome = true → run' = []) :
    Account muxer first (past ++ [r]) g' (pieces ++ more) run' where
  accepted := by
    rw [acceptedSnoc,account.accepted,List.append_assoc,split,List.map_append,List.flatten_append,
      List.append_assoc]
  published := by rw [publishedSnoc,account.published,published,List.filterMap_append]
  sound := by
    intro piece member
    rcases List.mem_append.mp member with old | new
    · exact (account.sound piece old).later [r]
    · exact sound piece new
  starts := starts
  current := current
  holds := holds
  waits := waits
  spent := spent

theorem Starts.snoc (starts : Starts first run) (last : Nat × MediaFrame) :
    Starts first (run ++ [last]) := by
  obtain ⟨n,frame,rest,rfl,key⟩ := starts
  exact ⟨n,frame,rest ++ [last],rfl,key⟩

theorem keyFrameSame (tracks : g.tracks = first.tracks) (frame : MediaFrame) :
    g.keyFrame frame = first.keyFrame frame := by
  unfold Segmenter.keyFrame
  rw [tracks]

theorem acceptsGoing (ok : g.accepts frame = true) :
    g.endedAt = none ∧ (g.waitingForKeyFrame = true → g.keyFrame frame = true) := by
  simp only [Segmenter.accepts,Bool.and_eq_true,Option.isNone_iff_eq_none,Bool.or_eq_true,
    Bool.not_eq_true'] at ok
  refine ⟨ok.1.1,?_⟩
  intro waits
  exact ok.2.resolve_left (by simp [waits])

theorem Account.startsNext (account : Account muxer first past g pieces run)
    (ok : g.accepts frame = true) (n : Nat) : Starts first (run ++ [(n,frame)]) := by
  obtain ⟨going,key⟩ := acceptsGoing ok
  by_cases fresh : run = []
  · subst fresh
    refine ⟨n,frame,[],rfl,?_⟩
    intro video
    rw [← keyFrameSame (account.holds going).tracks]
    exact key (by rw [account.waits going rfl,video])
  · exact (account.starts fresh).snoc _

theorem Holds.opened (holds : Holds muxer first g run) (ptsNs : Int) :
    Holds muxer first (g.opened ptsNs) run := by
  obtain ⟨tracks,_,current,mux,_,ended,video,_⟩ := openedSame g ptsNs
  exact ⟨tracks.trans holds.tracks,video.trans holds.video,ended.trans holds.going,
    current.trans holds.current,mux.trans holds.muxer_⟩

theorem Holds.renewed (holds : Holds muxer first g run) (segment : Segment) (ptsNs : Int) :
    Holds muxer first (Segmenter.begin {(g.opened ptsNs).push segment with
      muxer := some (muxer.create g.tracks)} ptsNs) [] := by
  have opened := holds.opened ptsNs
  refine ⟨opened.tracks,opened.video,opened.going,rfl,?_⟩
  exact congrArg (fun tracks => some (muxer.create tracks)) holds.tracks

theorem Account.write {next : List (Nat × MediaFrame)}
    (account : Account muxer first past g pieces run) (more : List Piece) (early : List Effect)
    (accepted : acceptedAt r = some frame) (event : r.event = .onFrame frame faults now)
    (ordered : r.effects = early ++ effects) (again : faults.again = true)
    (split : run = (more.map Piece.run).flatten ++ next)
    (published : publishedOf early = more.filterMap Piece.segment)
    (sound : ∀ piece ∈ more, piece.Sound muxer (past ++ [r]) first)
    (holds : Holds muxer first u next) (starts : Starts first (next ++ [(past.length,frame)]))
    (write : Written muxer u frame faults now g' effects) :
    ∃ pieces' run', Account muxer first (past ++ [r]) g' pieces' run' := by
  have place : (past ++ [r])[past.length]? = some r := by simp
  have subset : ∀ effect ∈ effects, effect ∈ r.effects := by
    intro effect member
    rw [ordered]
    exact List.mem_append_right _ member
  rcases holds.written write again starts place event subset with
    ⟨quiet,after⟩ | ⟨quiet,after,waits,lost⟩
  · refine ⟨_,_,account.extend more (next ++ [(past.length,frame)]) ?_ ?_ sound
      (fun _ => starts) after.current (fun _ => after) ?_ ?_⟩
    · rw [accepted,split]
      simp
    · rw [ordered,publishedAppend,published,publishedOf,quiet,List.append_nil]
    · intro _ empty
      simp at empty
    · intro spent
      rw [after.going] at spent
      contradiction
  · refine ⟨_,_,account.extend (more ++ [.discarded (next ++ [(past.length,frame)])]) [] ?_
      ?_ ?_ (fun some_ => absurd rfl some_) after.current (fun _ => after) (fun _ _ => waits)
      (fun _ => rfl)⟩
    · rw [accepted,split]
      simp [Piece.run]
    · rw [ordered,publishedAppend,published,publishedOf,quiet,List.filterMap_append]
      rfl
    · intro piece member
      rcases List.mem_append.mp member with old | new
      · exact sound piece old
      · cases List.mem_singleton.mp new
        exact lost

def Event.creates : Event → Prop
  | .onFrame _ faults _ => faults.next = true ∧ faults.again = true
  | .finish _ => True

theorem accountStep (produces : Produces muxer) (account : Account muxer first past g pieces run)
    {e : Event} (creates : e.creates) :
    ∃ pieces' run', Account muxer first (past ++ [.of (step muxer) g e]) (step muxer g e).1
      pieces' run' := by
  have moved := move muxer g e
  obtain ⟨r,same⟩ : ∃ r, r = Round.of (step muxer) g e := ⟨_,rfl⟩
  have event : r.event = e := by rw [same]; rfl
  have state : r.state = g := by rw [same]; rfl
  have effects : r.effects = (step muxer g e).2 := by rw [same]; rfl
  rw [← same]
  rw [← effects] at moved
  generalize (step muxer g e).1 = g' at moved
  clear same effects
  have still (none_ : acceptedAt r = none) (quiet : r.effects = []) :
      ∃ pieces' run', Account muxer first (past ++ [r]) g pieces' run' :=
    ⟨_,_,account.extend [] run (by simp [none_]) (by rw [quiet]; rfl) (by simp) account.starts
      account.current account.holds account.waits account.spent⟩
  have taken {segment : Segment} (full : g.currentSegment ≠ [])
      (data : segment.data = g.currentSegment) :
      (Piece.published segment run).Sound muxer (past ++ [r]) first := by
    refine .published (account.starts ?_) (data.trans account.current)
    intro fresh
    subst fresh
    exact full account.current
  generalize ordered : r.effects = effects at moved
  cases moved with
  | ended spent =>
    refine still ?_ ordered
    unfold acceptedAt
    rw [event,state]
    cases e with
    | onFrame frame faults now =>
      have out : g.accepts frame = false := by
        rw [Segmenter.accepts,Option.isNone_eq_false_iff.mpr spent]
        rfl
      simp [out]
    | finish now => rfl
  | ignored going out =>
    refine still ?_ ordered
    simp [acceptedAt,event,state,out]
  | @written frame faults now _ _ ok write =>
    have accepted : acceptedAt r = some frame := by simp [acceptedAt,event,state,ok]
    have holds := account.holds (acceptsGoing ok).1
    exact account.write [] [] accepted event ordered creates.2 rfl rfl (by simp)
      (holds.opened frame.ptsNs) (account.startsNext ok _) write
  | @renewed frame faults now segment _ effects ok full key number data write =>
    have accepted : acceptedAt r = some frame := by simp [acceptedAt,event,state,ok]
    have holds := account.holds (acceptsGoing ok).1
    refine account.write [.published segment run] [.published segment] accepted event ordered
      creates.2 ?_ rfl ?_ (holds.renewed segment frame.ptsNs) ?_ write
    · simp [Piece.run]
    · intro piece member
      cases List.mem_singleton.mp member
      exact taken full data
    · refine ⟨_,frame,[],rfl,?_⟩
      intro video
      rw [← keyFrameSame holds.tracks]
      exact key (holds.video.trans video)
  | closed ok fails full number data =>
    rw [creates.1] at fails
    contradiction
  | finished going empty =>
    have fresh : run = [] := List.map_eq_nil_iff.mp
      (produces.outputs (account.current.symm.trans empty))
    refine ⟨_,_,account.extend [] run ?_ ?_ (by simp) account.starts account.current (by simp) (by simp)
      (fun _ => fresh)⟩
    · simp [acceptedAt,event]
    · rw [ordered]
      rfl
  | @published now segment going full number data =>
    refine ⟨_,_,account.extend [.published segment run] [] ?_ ?_ ?_ (fun some_ => absurd rfl some_)
      rfl (by simp) (by simp) (fun _ => rfl)⟩
    · simp [acceptedAt,event,Piece.run]
    · rw [ordered]
      rfl
    · intro piece member
      cases List.mem_singleton.mp member
      exact taken full data

theorem accountStart (start : startup muxer tracks created = some first) :
    Account muxer first [] first [] [] := by
  unfold startup at start
  dsimp only at start
  split at start
  · contradiction
  · cases Option.some.inj start
    exact ⟨rfl,rfl,nofun,fun some_ => absurd rfl some_,rfl,fun _ => ⟨rfl,rfl,rfl,rfl,rfl⟩,
      fun _ _ => rfl,fun _ => rfl⟩

def Accounted (muxer : TsMuxer μ) (first : Segmenter μ)
    (past : List (Round (Segmenter μ) Event Effect)) (g : Segmenter μ) : Prop :=
  (∀ r ∈ past, r.event.creates) → ∃ pieces run, Account muxer first past g pieces run

theorem accountedStart (start : startup muxer tracks created = some first) :
    Accounted muxer first [] first := by
  intro _
  exact ⟨[],[],accountStart start⟩

theorem accountedStep (produces : Produces muxer) (past : List (Round (Segmenter μ) Event Effect))
    (g : Segmenter μ) (e : Event) (before : Accounted muxer first past g) :
    Accounted muxer first (past ++ [.of (step muxer) g e]) (step muxer g e).1 := by
  intro all
  obtain ⟨pieces,run,account⟩ := before fun r member => all r (List.mem_append_left _ member)
  exact accountStep produces account (all _ (List.mem_append_right _ (List.mem_singleton_self _)))

theorem acceptedOrder (past : List (Round (Segmenter μ) Event Effect)) :
    (acceptedIn past).Pairwise fun a b => a.1 < b.1 := by
  have order : past.zipIdx.Pairwise fun a b => a.2 < b.2 := by
    have numbers : (past.zipIdx.map Prod.snd).Pairwise (· < ·) := by
      rw [List.zipIdx_map_snd]
      exact List.pairwise_lt_range'
    exact List.pairwise_map.mp numbers
  refine order.filterMap _ ?_
  intro a b less x isX y isY
  obtain ⟨_,_,rfl⟩ := Option.map_eq_some_iff.mp isX
  obtain ⟨_,_,rfl⟩ := Option.map_eq_some_iff.mp isY
  exact less

theorem Piece.Sound.published_or_lost (sound : piece.Sound muxer past first) :
    (∃ segment, piece = .published segment piece.run) ∨
    ∃ before n frame, piece = .discarded (before ++ [(n,frame)]) ∧
      WriteFailed muxer past first.tracks (before ++ [(n,frame)]) n frame := by
  cases sound with
  | published => exact .inl ⟨_,rfl⟩
  | discarded starts failed => exact .inr ⟨_,_,_,rfl,failed⟩

theorem hlsContent (muxer : TsMuxer μ) (produces : Produces muxer) (tracks : List MediaTrack)
    (created : Bool) {first : Segmenter μ} (start : startup muxer tracks created = some first)
    (events : List Event) (creates : ∀ e ∈ events, e.creates) :
    ∃ (pieces : List Piece) (run : List (Nat × MediaFrame)),
      acceptedIn (rounds (step muxer) first events) = (pieces.map Piece.run).flatten ++ run ∧
      (acceptedIn (rounds (step muxer) first events)).Pairwise (fun a b => a.1 < b.1) ∧
      publishedIn (rounds (step muxer) first events) = pieces.filterMap Piece.segment ∧
      (∀ piece ∈ pieces, piece.Sound muxer (rounds (step muxer) first events) first) ∧
      (run ≠ [] → Starts first run) ∧
      (final (step muxer) first events).currentSegment =
        output muxer first.tracks (run.map Prod.snd) ∧
      ∀ accepted ∈ acceptedIn (rounds (step muxer) first events),
        (∃ segment run', .published segment run' ∈ pieces ∧ accepted ∈ run') ∨ accepted ∈ run ∨
        ∃ before n frame, .discarded (before ++ [(n,frame)]) ∈ pieces ∧
          accepted ∈ before ++ [(n,frame)] ∧
          WriteFailed muxer (rounds (step muxer) first events) first.tracks
            (before ++ [(n,frame)]) n frame := by
  have history : Accounted muxer first (rounds (step muxer) first events)
      (final (step muxer) first events) :=
    finalHistory (P := Accounted muxer first) (accountedStart start) (accountedStep produces)
  obtain ⟨pieces,run,account⟩ := history fun r member => creates _ (roundsEvent r member)
  refine ⟨pieces,run,account.accepted,acceptedOrder _,account.published,account.sound,
    account.starts,account.current,?_⟩
  intro accepted member
  rw [account.accepted] at member
  rcases List.mem_append.mp member with old | current
  · obtain ⟨taken,isRun,inside⟩ := List.mem_flatten.mp old
    obtain ⟨piece,here,rfl⟩ := List.mem_map.mp isRun
    rcases (account.sound piece here).published_or_lost with
      ⟨segment,same⟩ | ⟨before,n,frame,same,failed⟩
    · exact .inl ⟨segment,piece.run,same ▸ here,inside⟩
    · subst same
      exact .inr (.inr ⟨before,n,frame,here,inside,failed⟩)
  · exact .inr (.inl current)

end

def contentEvents : List Event :=
  [keyFrameAt 0,.onFrame ⟨1,1000000000,1000000000,false,[]⟩ ⟨true,some 0,true⟩ 1,keyFrameAt 2,
    keyFrameAt 4,.finish 5]

theorem hlsContentRun : ∃ first, startup blockMuxer windowTracks true = some first ∧
    (acceptedIn (rounds (step blockMuxer) first contentEvents)).length = 4 ∧
    (publishedIn (rounds (step blockMuxer) first contentEvents)).length = 2 ∧
    ∃ pieces : List Piece,
      publishedIn (rounds (step blockMuxer) first contentEvents) =
        pieces.filterMap Piece.segment ∧
      ∀ piece ∈ pieces,
        piece.Sound blockMuxer (rounds (step blockMuxer) first contentEvents) first := by
  obtain ⟨first,start,four,two⟩ : ∃ first, startup blockMuxer windowTracks true = some first ∧
      (acceptedIn (rounds (step blockMuxer) first contentEvents)).length = 4 ∧
      (publishedIn (rounds (step blockMuxer) first contentEvents)).length = 2 :=
    ⟨_,rfl,by decide +kernel,by decide +kernel⟩
  have produces : Produces blockMuxer := ⟨nofun,by simp [blockMuxer]⟩
  have creates : ∀ e ∈ contentEvents, e.creates := by
    simp [contentEvents,keyFrameAt,Event.creates]
  obtain ⟨pieces,_,_,_,published,sound,_⟩ :=
    hlsContent blockMuxer produces windowTracks true start contentEvents creates
  exact ⟨first,start,four,two,pieces,published,sound⟩

end MediaServer.HlsSegmenter
