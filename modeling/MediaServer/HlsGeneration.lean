import MediaServer.Hls

/-! Which stream a returned segmenter was started on. The table is keyed by stream id and
keeps an ended segmenter for the retention time, so a later stream of the same id is answered
with the segmenter of an earlier one until that one has expired. -/
namespace MediaServer.Hls
open Transition

section
variable {Stream Id : Type}
variable {idOf : Stream → Id} {tracksOf : Stream → List MediaTrack}
variable {s t : State Stream Id} {a : Action Stream} {g k : Segmenter Stream} {now : Int}

def FromStream (stream : Stream) (frames : List (Frame Stream)) : Prop :=
  ∀ frame ∈ frames, frame.stream = stream

structure Own (g : Segmenter Stream) : Prop where
  segments : ∀ segment ∈ g.segments, FromStream g.origin segment.data
  current : FromStream g.origin g.current

structure Grows (g k : Segmenter Stream) : Prop where
  origin : k.origin = g.origin
  source : k.source = g.source
  ended : ∀ time, g.endedAt = some time → k.endedAt = some time
  own : Own g → Own k

theorem Grows.refl (g : Segmenter Stream) : Grows g g := ⟨rfl,rfl,fun _ h => h,id⟩

theorem Grows.trans {h : Segmenter Stream} (first : Grows g k) (second : Grows k h) : Grows g h :=
  ⟨second.origin.trans first.origin,second.source.trans first.source,
    fun time ended => second.ended time (first.ended time ended),fun own => second.own (first.own own)⟩

theorem finishSegmentGrows (g : Segmenter Stream) (stop : Int) : Grows g (g.finishSegment stop) := by
  unfold Segmenter.finishSegment
  split
  · exact .refl g
  · refine ⟨rfl,rfl,fun _ h => h,fun own => ⟨?_,?_⟩⟩
    · intro segment member
      have before := List.mem_of_mem_drop member
      rw [List.mem_append,List.mem_singleton] at before
      rcases before with old | new
      · exact own.segments segment old
      · subst new; exact own.current
    · intro frame member
      contradiction

theorem beginGrows (g : Segmenter Stream) (pts : Int) : Grows g (g.begin pts) :=
  ⟨rfl,rfl,fun _ h => h,fun own => ⟨own.segments,own.current⟩⟩

variable {frame : Frame Stream} {i : Nat} {f : Segmenter Stream → Segmenter Stream}
  {stream : Stream}

theorem writeGrows (muxing : Muxing) (now : Int) (running : g.endedAt = none)
    (fed : frame.stream = g.origin) : Grows g (g.write frame muxing now) := by
  unfold Segmenter.write
  split
  · refine ⟨rfl,rfl,fun _ h => h,fun own => ⟨own.segments,?_⟩⟩
    intro other member
    rw [List.mem_append,List.mem_singleton] at member
    rcases member with old | new
    · exact own.current other old
    · subst new; exact fed
  all_goals
    refine ⟨rfl,rfl,fun _ h => ?_,fun own => ⟨own.segments,?_⟩⟩
    · rw [running] at h; contradiction
    · intro other member; contradiction

theorem finishSegmentRunning (g : Segmenter Stream) (stop : Int) :
    (g.finishSegment stop).endedAt = g.endedAt := by
  unfold Segmenter.finishSegment
  split <;> rfl

theorem openedGrows (g : Segmenter Stream) (pts : Int) :
    Grows g (g.opened pts) ∧ (g.opened pts).endedAt = g.endedAt := by
  have awake : Grows g {g with waitingForKeyFrame := false} :=
    ⟨rfl,rfl,fun _ h => h,fun own => ⟨own.segments,own.current⟩⟩
  unfold Segmenter.opened
  dsimp only
  split
  · exact ⟨awake,rfl⟩
  · exact ⟨awake.trans (beginGrows _ _),rfl⟩

theorem renewGrows (muxing : Muxing) (now : Int) (running : g.endedAt = none)
    (fed : frame.stream = g.origin) : Grows g (g.renew frame muxing now) := by
  have cut := finishSegmentGrows g frame.pts
  have open_ : (g.finishSegment frame.pts).endedAt = none :=
    (finishSegmentRunning g frame.pts).trans running
  unfold Segmenter.renew
  dsimp only
  split
  · refine (cut.trans (beginGrows _ frame.pts)).trans ?_
    exact writeGrows muxing now open_ (fed.trans cut.origin.symm)
  · refine cut.trans ⟨rfl,rfl,fun _ ended => ?_,fun own => ⟨own.segments,own.current⟩⟩
    rw [open_] at ended
    contradiction

theorem onTrackGrows (track : MediaTrack) (muxing : Muxing) (now : Int) (running : g.endedAt = none)
    (fed : frame.stream = g.origin) : Grows g (g.onTrack track frame muxing now) := by
  obtain ⟨grows,same⟩ := openedGrows g frame.pts
  have still := same.trans running
  have fed' := fed.trans grows.origin.symm
  unfold Segmenter.onTrack
  split
  · exact .refl g
  · dsimp only
    split
    · exact grows.trans (renewGrows muxing now still fed')
    · exact grows.trans (writeGrows muxing now still fed')

theorem onFrameGrows (muxing : Muxing) (now : Int) (fed : frame.stream = g.origin) :
    Grows g (g.onFrame frame muxing now) := by
  unfold Segmenter.onFrame
  split
  · exact .refl g
  · rename_i running
    split
    · exact onTrackGrows _ muxing now (by simpa using running) fed
    · exact .refl g

theorem finishGrows (g : Segmenter Stream) (now : Int) : Grows g (g.finish now) := by
  unfold Segmenter.finish
  split
  · exact .refl g
  · rename_i running
    refine (finishSegmentGrows g g.segmentMax).trans
      ⟨rfl,rfl,fun _ ended => ?_,fun own => ⟨own.segments,own.current⟩⟩
    rw [finishSegmentRunning] at ended
    simp [ended] at running

theorem expiredGrows (grows : Grows g k) {earlier later : Int} (order : earlier ≤ later)
    (expired : g.expired earlier = true) : k.expired later = true := by
  unfold Segmenter.expired at expired
  split at expired
  · rename_i time ended
    have gone : endedRetention ≤ earlier - time := of_decide_eq_true expired
    simp only [Segmenter.expired,grows.ended time ended]
    exact decide_eq_true (by omega)
  · contradiction

variable [DecidableEq Id]

structure Inv (idOf : Stream → Id) (s : State Stream Id) : Prop where
  filed : ∀ id e, s.table.get id = some e → ∃ g, s.segmenters[e]? = some g ∧ idOf g.origin = id ∧
    g.source = some g.origin
  covered : ∀ (e : Nat) g, s.segmenters[e]? = some g → g.source.isSome = true →
    s.table.get (idOf g.origin) = some e ∨ g.expired s.clock = true
  own : ∀ (e : Nat) g, s.segmenters[e]? = some g → Own g

theorem sweptGet {id : Id} {e : Nat} :
    (s.removeExpired now).table.get id = some e ↔ s.table.get id = some e ∧
      ∃ g, s.segmenters[e]? = some g ∧ g.expired now = false := by
  simp only [State.removeExpired,Table.getDeleteFunc,Option.filter_eq_some_iff]
  constructor
  · rintro ⟨entry,kept⟩
    cases known : s.segmenters[e]? with
    | none => simp [known] at kept
    | some g => exact ⟨entry,g,rfl,by simpa [known] using kept⟩
  · rintro ⟨entry,g,known,fresh⟩
    exact ⟨entry,by simp [known,fresh]⟩

theorem sweptInv (inv : Inv idOf s) (later : s.clock ≤ now) :
    Inv idOf ((s.removeExpired now).clocked now) := by
  refine ⟨?_,?_,inv.own⟩
  · intro id e entry
    exact inv.filed id e (sweptGet.mp entry).1
  · intro e g known open_
    rcases inv.covered e g known open_ with entry | gone
    · cases fresh : g.expired now with
      | true => exact .inr fresh
      | false => exact .inl (sweptGet.mpr ⟨entry,g,known,fresh⟩)
    · exact .inr (expiredGrows (.refl g) later gone)

omit [DecidableEq Id] in
theorem editGet (f : Segmenter Stream → Segmenter Stream) {e : Nat} :
    (s.edit e f).segmenters[i]? = if i = e then s.segmenters[i]?.map f else s.segmenters[i]? := by
  simp only [State.edit,List.getElem?_modify]
  split
  · rename_i same; simp [same]
  · rename_i other; simp [Ne.symm other]

omit [DecidableEq Id] in
theorem editedFrom {e : Nat} (grows : ∀ g, s.segmenters[e]? = some g → Grows g (f g))
    (after : (s.edit e f).segmenters[i]? = some k) :
    ∃ g, s.segmenters[i]? = some g ∧ Grows g k := by
  rw [editGet] at after
  split at after
  · rename_i same
    obtain ⟨g,known,made⟩ := Option.map_eq_some_iff.mp after
    subst made
    exact ⟨g,known,grows g (same ▸ known)⟩
  · exact ⟨k,after,.refl k⟩

omit [DecidableEq Id] in
theorem editedTo {e : Nat} (grows : ∀ g, s.segmenters[e]? = some g → Grows g (f g))
    (before : s.segmenters[i]? = some g) :
    ∃ k, (s.edit e f).segmenters[i]? = some k ∧ Grows g k := by
  rw [editGet]
  split
  · rename_i same
    exact ⟨f g,by rw [before]; rfl,grows g (same ▸ before)⟩
  · exact ⟨g,before,.refl g⟩

theorem editedInv {e : Nat} (inv : Inv idOf s) (later : s.clock ≤ now)
    (grows : ∀ g, s.segmenters[e]? = some g → Grows g (f g)) :
    Inv idOf ((s.edit e f).clocked now) := by
  refine ⟨?_,?_,?_⟩
  · intro id i entry
    obtain ⟨g,known,same,source⟩ := inv.filed id i entry
    obtain ⟨k,after,grown⟩ := editedTo grows known
    exact ⟨k,after,by rw [grown.origin]; exact same,by rw [grown.origin,grown.source]; exact source⟩
  · intro i k after open_
    obtain ⟨g,known,grown⟩ := editedFrom grows after
    rw [grown.source] at open_
    rw [grown.origin]
    rcases inv.covered i g known open_ with entry | gone
    · exact .inl entry
    · exact .inr (expiredGrows grown later gone)
  · intro i k after
    obtain ⟨g,known,grown⟩ := editedFrom grows after
    exact grown.own (inv.own i g known)

variable {tracks : List MediaTrack} {out : State Stream Id × Option Nat}

theorem startedFields {muxer : Bool} (ok : Segmenter.startup stream tracks muxer = some g) :
    g.origin = stream ∧ g.source = some stream ∧ Own g := by
  unfold Segmenter.startup at ok
  dsimp only at ok
  split at ok <;> try contradiction
  cases Option.some.inj ok
  exact ⟨rfl,rfl,⟨fun _ member => by contradiction,fun _ member => by contradiction⟩⟩

theorem startedInv {muxer : Bool} (inv : Inv idOf s) (absent : s.table.get (idOf stream) = none)
    (ok : Segmenter.startup stream tracks muxer = some g) :
    Inv idOf {s with
      segmenters := s.segmenters ++ [g]
      table := s.table.set (idOf stream) s.segmenters.length} := by
  obtain ⟨origin,source,own⟩ := startedFields ok
  have old : ∀ {i : Nat} {h : Segmenter Stream}, s.segmenters[i]? = some h → (s.segmenters ++ [g])[i]? = some h := by
    intro i h known
    rw [List.getElem?_append_left (List.getElem?_eq_some_iff.mp known).1]
    exact known
  have parts : ∀ {i : Nat} {h : Segmenter Stream}, (s.segmenters ++ [g])[i]? = some h →
      s.segmenters[i]? = some h ∨ i = s.segmenters.length ∧ h = g := by
    intro i h known
    rw [List.getElem?_append] at known
    split at known
    · exact .inl known
    · rw [List.getElem?_singleton] at known
      split at known <;> try contradiction
      exact .inr ⟨by omega,(Option.some.inj known).symm⟩
  refine ⟨?_,?_,?_⟩
  · intro id e entry
    rw [Table.getSet] at entry
    split at entry
    · rename_i same
      cases Option.some.inj entry
      exact ⟨g,by simp,by rw [origin,same],by rw [source,origin]⟩
    · obtain ⟨h,known,rest⟩ := inv.filed id e entry
      exact ⟨h,old known,rest⟩
  · intro e h known open_
    rw [Table.getSet]
    rcases parts known with before | ⟨last,same⟩
    · rcases inv.covered e h before open_ with entry | gone
      · have other : idOf h.origin ≠ idOf stream := by
          intro same
          rw [same,absent] at entry
          contradiction
        exact .inl (by rw [if_neg other]; exact entry)
      · exact .inr gone
    · subst same
      exact .inl (by rw [origin,if_pos rfl,last])
  · intro e h known
    rcases parts known with before | ⟨_,same⟩
    · exact inv.own e h before
    · subst same; exact own

theorem shutdownSource (g : Segmenter Stream) (now : Int) : (g.shutdown now).source = none :=
  (finishGrows {g with source := none} now).source

theorem shutdownOwn (own : Own g) (now : Int) : Own (g.shutdown now) :=
  (finishGrows {g with source := none} now).own ⟨own.segments,own.current⟩

theorem shutdownInv (inv : Inv idOf s) (later : s.clock ≤ now) :
    Inv idOf (State.clocked {s with
      segmenters := s.segmenters.mapIdx fun e g =>
        if e ∈ s.table.entries.map Prod.snd then g.shutdown now else g
      table := ∅} now) := by
  have parts : ∀ {e : Nat} {k : Segmenter Stream}, (s.segmenters.mapIdx fun e g =>
      if e ∈ s.table.entries.map Prod.snd then g.shutdown now else g)[e]? = some k →
      ∃ g, s.segmenters[e]? = some g ∧
        k = if e ∈ s.table.entries.map Prod.snd then g.shutdown now else g := by
    intro e k after
    rw [List.getElem?_mapIdx] at after
    obtain ⟨g,known,made⟩ := Option.map_eq_some_iff.mp after
    exact ⟨g,known,made.symm⟩
  refine ⟨?_,?_,?_⟩
  · intro id e entry
    contradiction
  · intro e k after open_
    obtain ⟨g,known,made⟩ := parts after
    split at made
    · rw [made,shutdownSource] at open_
      contradiction
    · rename_i unlisted
      subst made
      rcases inv.covered e k known open_ with entry | gone
      · exact absurd (List.mem_map.mpr ⟨_,Table.memEntries.mpr entry,rfl⟩) unlisted
      · exact .inr (expiredGrows (.refl k) later gone)
  · intro e k after
    obtain ⟨g,known,made⟩ := parts after
    split at made
    · rw [made]; exact shutdownOwn (inv.own e g known) now
    · rw [made]; exact inv.own e g known

omit [DecidableEq Id] in
theorem timedAt {u : State Stream Id} (ok : s.timed now u = some t) :
    s.clock ≤ now ∧ t = u.clocked now := by
  unfold State.timed at ok
  split at ok <;> try contradiction
  exact ⟨‹_›,(Option.some.inj ok).symm⟩

inductive Answer (idOf : Stream → Id) (tracksOf : Stream → List MediaTrack) (s : State Stream Id)
    (stream : Stream) (now : Int) : State Stream Id × Option Nat → Prop where
  | found {e} (entry : (s.removeExpired now).table.get (idOf stream) = some e) :
      Answer idOf tracksOf s stream now (s.removeExpired now,some e)
  | refused : Answer idOf tracksOf s stream now (s.removeExpired now,none)
  | started {g muxer} (absent : (s.removeExpired now).table.get (idOf stream) = none)
      (ok : Segmenter.startup stream (tracksOf stream) muxer = some g) :
      Answer idOf tracksOf s stream now
        ({s.removeExpired now with
          segmenters := s.segmenters ++ [g]
          table := (s.removeExpired now).table.set (idOf stream) s.segmenters.length},
          some s.segmenters.length)

theorem answered (stream : Stream) (muxer : Bool) :
    Answer idOf tracksOf s stream now (s.getOrCreate idOf tracksOf stream muxer now) := by
  unfold State.getOrCreate
  dsimp only
  split
  · exact .found ‹_›
  · split
    · exact .refused
    · exact .started ‹_› ‹_›

theorem answerInv (inv : Inv idOf s) (later : s.clock ≤ now)
    (answer : Answer idOf tracksOf s stream now out) : Inv idOf (out.1.clocked now) := by
  have swept := sweptInv inv later
  cases answer with
  | found | refused => exact swept
  | started absent ok => exact startedInv swept absent ok

variable [DecidableEq Stream]

theorem stepInv (inv : Inv idOf s) (ok : step idOf tracksOf s a = some t) : Inv idOf t := by
  cases a with
  | createStream stream =>
    simp only [step] at ok
    split at ok <;> try contradiction
    cases Option.some.inj ok
    exact ⟨inv.filed,inv.covered,inv.own⟩
  | endStream stream =>
    simp only [step] at ok
    split at ok <;> try contradiction
    cases Option.some.inj ok
    exact ⟨inv.filed,inv.covered,inv.own⟩
  | getOrCreate stream muxer now =>
    simp only [step] at ok
    split at ok <;> try contradiction
    obtain ⟨later,made⟩ := timedAt ok
    rw [made]
    exact answerInv inv later (answered stream muxer)
  | removeExpired now =>
    obtain ⟨later,made⟩ := timedAt ok
    rw [made]
    exact sweptInv inv later
  | onFrame e frame muxing now =>
    simp only [step] at ok
    split at ok <;> try contradiction
    rename_i fed
    obtain ⟨later,made⟩ := timedAt ok
    rw [made]
    refine editedInv inv later fun g known => onFrameGrows muxing now ?_
    rw [State.originOf,known] at fed
    exact (Option.some.inj fed).symm
  | onEnd e now =>
    simp only [step] at ok
    split at ok <;> try contradiction
    obtain ⟨later,made⟩ := timedAt ok
    rw [made]
    exact editedInv inv later fun g _ => finishGrows g now
  | shutdown now =>
    obtain ⟨later,made⟩ := timedAt ok
    rw [made]
    exact shutdownInv inv later

theorem reachableInv {clock : Int}
    (reached : Reachable (step idOf tracksOf) (· = initial clock) s) : Inv idOf s := by
  refine reached.invariant (P := Inv idOf) ?_ fun s a t inv ok => stepInv inv ok
  rintro s rfl
  exact ⟨by simp [initial],by simp [initial],by simp [initial]⟩

def Clear (idOf : Stream → Id) (s : State Stream Id) (stream : Stream) (now : Int) : Prop :=
  ∀ (j : Nat) h, s.segmenters[j]? = some h → h.source.isSome = true →
    idOf h.origin = idOf stream → h.origin ≠ stream → h.expired now = true

theorem answerClear {e : Nat} (inv : Inv idOf s) (later : s.clock ≤ now)
    (answer : Answer idOf tracksOf s stream now out) (returned : out.2 = some e) :
    ∃ g, out.1.segmenters[e]? = some g ∧ (g.origin = stream ↔ Clear idOf s stream now) := by
  cases answer with
  | refused => contradiction
  | @found i entry =>
    cases Option.some.inj returned
    obtain ⟨before,g,known,fresh⟩ := sweptGet.mp entry
    obtain ⟨h,again,same,source⟩ := inv.filed _ _ before
    rw [known] at again
    cases Option.some.inj again
    refine ⟨g,known,?_,?_⟩
    · intro mine j h other open_ alike foreign
      rcases inv.covered j h other open_ with listed | gone
      · rw [alike,before] at listed
        cases Option.some.inj listed
        rw [known] at other
        cases Option.some.inj other
        exact absurd mine foreign
      · exact expiredGrows (.refl h) later gone
    · intro clear
      by_contra foreign
      have gone := clear _ g known (by rw [source]; rfl) same foreign
      rw [fresh] at gone
      contradiction
  | @started g muxer absent ok =>
    cases Option.some.inj returned
    have origin := (startedFields ok).1
    refine ⟨g,by simp,fun _ => ?_,fun _ => origin⟩
    intro j h other open_ alike foreign
    rcases inv.covered j h other open_ with listed | gone
    · cases fresh : h.expired now with
      | true => rfl
      | false =>
        rw [alike] at listed
        rw [sweptGet.mpr ⟨listed,h,other,fresh⟩] at absent
        contradiction
    · exact expiredGrows (.refl h) later gone

theorem segmenterGeneration {clock : Int} {stream : Stream} {muxer : Bool} {e : Nat}
    (reached : Reachable (step idOf tracksOf) (· = initial clock) s)
    (ok : step idOf tracksOf s (.getOrCreate stream muxer now) = some t)
    (returned : (s.getOrCreate idOf tracksOf stream muxer now).2 = some e) :
    ∃ g, t.segmenters[e]? = some g ∧
      (∀ segment ∈ g.segments, FromStream g.origin segment.data) ∧
      (g.origin = stream ↔ Clear idOf s stream now) := by
  have inv := reachableInv reached
  have after := reachableInv (.next reached ok)
  simp only [step] at ok
  split at ok <;> try contradiction
  obtain ⟨later,made⟩ := timedAt ok
  obtain ⟨g,known,iff⟩ := answerClear inv later (answered stream muxer) returned
  rw [made] at after ⊢
  exact ⟨g,known,(after.own e g known).segments,iff⟩

end

def oneId (_ : Nat) : Nat := 0
def oneTrack (_ : Nat) : List MediaTrack := [avcTrack]

def firstGeneration : List (Action Nat) :=
  [.createStream 0,.getOrCreate 0 true 0,.onFrame 0 ⟨0,1,0,true⟩ ⟨true,.written,true⟩ 0,
    .onFrame 0 ⟨0,1,2000000000,true⟩ ⟨true,.written,true⟩ 2000000000,.endStream 0,
    .onEnd 0 3000000000,.createStream 1]

theorem retainedSegmenterAnswers :
    ∃ s t g, run (step oneId oneTrack) (initial 0) firstGeneration = some s ∧
      step oneId oneTrack s (.getOrCreate 1 true 4000000000) = some t ∧
      (s.getOrCreate oneId oneTrack 1 true 4000000000).2 = some 0 ∧
      t.segmenters[0]? = some g ∧ g.origin = 0 ∧
      g.segments.map (·.data.map (·.stream)) = [[0],[0]] :=
  ⟨_,_,_,rfl,rfl,by decide,rfl,by decide,by decide⟩

theorem expiredSegmenterReplaced :
    ∃ s t : State Nat Nat, run (step oneId oneTrack) (initial 0) firstGeneration = some s ∧
      step oneId oneTrack s (.getOrCreate 1 true 15000000000) = some t ∧
      ∃ g, t.segmenters[1]? = some g ∧ g.origin = 1 := by
  obtain ⟨s,t,ok,taken,returned,old⟩ : ∃ s t : State Nat Nat,
      run (step oneId oneTrack) (initial 0) firstGeneration = some s ∧
      step oneId oneTrack s (.getOrCreate 1 true 15000000000) = some t ∧
      (s.getOrCreate oneId oneTrack 1 true 15000000000).2 = some 1 ∧
      s.segmenters.all (·.expired 15000000000) = true :=
    ⟨_,_,rfl,rfl,by decide,by decide⟩
  obtain ⟨g,known,_,iff⟩ := segmenterGeneration (runReachable (.start rfl) ok) taken returned
  exact ⟨s,t,ok,taken,g,known,iff.mpr fun j h there _ _ _ =>
    List.all_eq_true.mp old h (List.mem_of_getElem? there)⟩

end MediaServer.Hls
