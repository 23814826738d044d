import MediaServer.SinkDispatcher

/-! One sink group seen on its own: the frames on their way to it, where its
callbacks stand and whether the owner will still hand it something. Phase closed
means that neither publish nor end reaches the group again. -/
namespace MediaServer.SinkDispatcher

inductive Stage (Frame Sink : Type) where
  | quiet
  | popped (frame : Option Frame)
  | calling (frame : Option Frame) (sinks : List Sink)
  deriving DecidableEq, Repr

inductive Phase where
  | opened
  | ending
  | closed
  deriving DecidableEq, Repr

structure Lane (Frame Sink Worker : Type) where
  group : SinkGroup Frame Sink Worker
  own : Bool
  tasks : Nat
  stage : Stage Frame Sink
  due : List Frame
  phase : Phase

inductive Label (Frame Sink : Type) where
  | silent
  | publish (frame : Frame)
  | call (sink : Sink) (c : Callback Frame)

section
variable {Frame Sink Worker : Type} [DecidableEq Sink]

def Label.frames : Label Frame Sink → List Frame
  | .publish f => [f]
  | _ => []

def Label.calls (label : Label Frame Sink) (x : Sink) : List (Callback Frame) :=
  match label with
  | .call y c => if y = x then [c] else []
  | _ => []

def Lane.woken (L : Lane Frame Sink Worker) : Nat :=
  if L.group.drainQueued then L.tasks else L.tasks + 1

inductive LaneStep (L : Lane Frame Sink Worker) :
    Label Frame Sink → Lane Frame Sink Worker → Prop where
  | keep : LaneStep L .silent L
  | add {x} (fresh : x ∉ L.group.sinks) (opened : L.phase = .opened) :
      LaneStep L .silent {L with group := {L.group with sinks := L.group.sinks ++ [x]}}
  | drop (p : Sink → Bool) : LaneStep L .silent
      {L with group := {L.group with sinks := L.group.sinks.filter p}}
  | detach (p : Sink → Bool) (none : L.due = []) (opened : L.phase = .opened) : LaneStep L .silent
      {L with group := {L.group with sinks := L.group.sinks.filter p}, phase := .closed}
  | publish {f} (none : L.due = []) (opened : L.phase = .opened) :
      LaneStep L (.publish f) {L with due := [f]}
  | pass {f} (shut : L.phase ≠ .opened) : LaneStep L (.publish f) L
  | take {f} (p : Sink → Bool) (own : L.own = true) (due : L.due = [f]) (quiet : L.stage = .quiet) :
      LaneStep L .silent
      {L with due := [], stage := .calling (some f) (L.group.sinks.filter p)
              group := {L.group with sinks := L.group.sinks.filter p}}
  | skip {f} (due : L.due = [f]) (ended : L.group.pendingEnd = true) :
      LaneStep L .silent {L with due := []}
  | queue {f} (other : L.own = false) (due : L.due = [f]) (ended : L.group.pendingEnd = false)
      (room : L.group.pending.length < maxPendingFrames) : LaneStep L .silent
      {L with due := [], tasks := L.woken
              group := {L.group with pending := L.group.pending ++ [f], drainQueued := true}}
  | full {f} (other : L.own = false) (due : L.due = [f]) (ended : L.group.pendingEnd = false)
      (full : maxPendingFrames ≤ L.group.pending.length) : LaneStep L .silent
      {L with due := [], tasks := L.woken, phase := .closed
              group := {L.group with pending := [], pendingEnd := true, drainQueued := true}}
  | swap (none : L.due = []) (opened : L.phase = .opened) :
      LaneStep L .silent {L with phase := .ending}
  | endTake (p : Sink → Bool) (own : L.own = true) (last : L.phase = .ending)
      (quiet : L.stage = .quiet) : LaneStep L .silent
      {L with phase := .closed, stage := .calling none (L.group.sinks.filter p)
              group := {L.group with sinks := L.group.sinks.filter p}}
  | endMark (other : L.own = false) (last : L.phase = .ending) : LaneStep L .silent
      {L with phase := .closed, tasks := L.woken
              group := {L.group with pendingEnd := true, drainQueued := true}}
  | pop {f l} (posted : 1 ≤ L.tasks) (quiet : L.stage = .quiet)
      (head : L.group.pending = f :: l) : LaneStep L .silent
      {L with stage := .popped (some f), group := {L.group with pending := l}}
  | last (posted : 1 ≤ L.tasks) (quiet : L.stage = .quiet) (empty : L.group.pending = [])
      (ended : L.group.pendingEnd = true) : LaneStep L .silent
      {L with stage := .popped none, tasks := L.tasks - 1
              group := {L.group with pendingEnd := false, drainQueued := false}}
  | stop (posted : 1 ≤ L.tasks) (quiet : L.stage = .quiet) (empty : L.group.pending = [])
      (ended : L.group.pendingEnd = false) : LaneStep L .silent
      {L with tasks := L.tasks - 1, group := {L.group with drainQueued := false}}
  | snapshot {f} (p : Sink → Bool) (popped : L.stage = .popped f) : LaneStep L .silent
      {L with stage := .calling f (L.group.sinks.filter p)
              group := {L.group with sinks := L.group.sinks.filter p}}
  | call {f x l} (calling : L.stage = .calling f (x :: l)) :
      LaneStep L (.call x (callback f)) {L with stage := .calling f l}
  | finish {f} (calling : L.stage = .calling f []) :
      LaneStep L .silent {L with stage := .quiet}

def Stage.frame : Stage Frame Sink → List Frame
  | .popped (some f) | .calling (some f) _ => [f]
  | _ => []

def Stage.ahead (stage : Stage Frame Sink) (x : Sink) : List Frame :=
  match stage with
  | .popped (some f) => [f]
  | .calling (some f) sinks => if x ∈ sinks then [f] else []
  | _ => []

def Stage.sinks : Stage Frame Sink → List Sink
  | .calling _ sinks => sinks
  | _ => []

def Stage.ends : Stage Frame Sink → Bool
  | .popped none | .calling none _ => true
  | _ => false

structure Lane.Kept (L : Lane Frame Sink Worker) : Prop where
  bound : L.group.pending.length ≤ maxPendingFrames
  wake : L.group.pending ≠ [] ∨ L.group.pendingEnd = true → L.group.drainQueued = true
  tasks : L.tasks = if L.group.drainQueued then 1 else 0
  own : L.own = true → L.group.pending = [] ∧ L.group.drainQueued = false
  sinks : L.group.sinks.Nodup
  calls : L.stage.sinks.Nodup
  due : L.due ≠ [] → L.phase = .opened
  marked : L.group.pendingEnd = true → L.phase = .closed
  ends : L.stage.ends = true → L.phase = .closed ∧ L.group.pending = [] ∧
    L.group.pendingEnd = false ∧ L.group.drainQueued = false

structure Lane.Line (L : Lane Frame Sink Worker) (published : List Frame) : Prop where
  part : L.stage.frame ++ (L.group.pending ++ L.due) <:+: published
  newest : L.phase = .opened → L.stage.frame ++ (L.group.pending ++ L.due) <:+ published

/- Nothing more comes to x: the flags are clear, no task is left and the callbacks
under way, if any, are past x. -/
structure Lane.Finished (L : Lane Frame Sink Worker) (x : Sink) : Prop where
  phase : L.phase = .closed
  pending : L.group.pending = []
  ended : L.group.pendingEnd = false
  queued : L.group.drainQueued = false
  stage : L.stage = .quiet ∨ ∃ sinks, L.stage = .calling none sinks ∧ x ∉ sinks

structure Lane.Coming (L : Lane Frame Sink Worker) (published : List Frame) (x : Sink)
    (frames : List Frame) : Prop where
  seen : frames <:+: published
  called : x ∈ L.stage.sinks → frames ++ L.stage.frame <:+: published
  member : x ∈ L.group.sinks →
    frames ++ (L.stage.ahead x ++ L.group.pending ++ L.due) <:+: published
  current : x ∈ L.group.sinks → L.phase = .opened →
    frames ++ (L.stage.ahead x ++ L.group.pending ++ L.due) <:+ published

def Lane.Flow (L : Lane Frame Sink Worker) (published : List Frame) (x : Sink)
    (log : List (Callback Frame)) : Prop :=
  (∃ frames : List Frame, log = frames.map .deliver ∧ L.Coming published x frames) ∨
  (∃ frames : List Frame, log = frames.map .deliver ++ [.onEnd] ∧ frames <:+: published ∧
    L.Finished x)

end

section
variable {Frame Sink Worker : Type} [DecidableEq Sink] {L L' : Lane Frame Sink Worker}
  {label : Label Frame Sink} {published : List Frame}

variable {xs frames : List Frame} {x : Sink}

omit [DecidableEq Sink] in
theorem infixPublish (h : xs <:+: published) (f : Frame) :
    xs <:+: published ++ [f] := h.trans (List.infix_append' [] published [f])

omit [DecidableEq Sink] in
theorem suffixPublish (h : xs <:+ published) (f : Frame) : xs ++ [f] <:+ published ++ [f] := by
  obtain ⟨before,same⟩ := h
  exact ⟨before,by rw [← same,List.append_assoc]⟩

omit [DecidableEq Sink] in
theorem laneKept (kept : L.Kept) (step : LaneStep L label L') : L'.Kept := by
  have tasks := kept.tasks
  have shut (other : L.own = false) (P : Prop) (own : L.own = true) : P := by simp [other] at own
  cases step
  case keep => exact kept
  case add x fresh opened =>
    refine {kept with sinks := List.nodup_append.mpr ⟨kept.sinks,by simp,?_⟩}
    rintro a mem b same rfl
    cases List.mem_singleton.mp same
    exact fresh mem
  case drop p => exact {kept with sinks := kept.sinks.filter p}
  case detach p none opened =>
    exact {kept with
      sinks := kept.sinks.filter p, due := fun some => absurd none some, marked := fun _ => rfl
      ends := fun last => ⟨rfl,(kept.ends last).2⟩}
  case publish f none opened => exact {kept with due := fun _ => opened}
  case pass f shut => exact kept
  case take f p own due quiet =>
    exact {kept with
      sinks := kept.sinks.filter p, calls := kept.sinks.filter p
      due := fun some => absurd rfl some, ends := fun last => nomatch last}
  case skip f due ended => exact {kept with due := fun some => absurd rfl some}
  case queue f other due ended room =>
    exact {kept with
      bound := by simpa [Nat.succ_le_iff] using room, wake := fun _ => rfl, own := shut other _
      due := fun some => absurd rfl some
      tasks := by simp only [Lane.woken]; split at tasks <;> simp_all
      ends := fun last => by have closed := (kept.ends last).1; simp [kept.due,due] at closed}
  case full f other due ended full =>
    exact {kept with
      bound := by simp, wake := fun _ => rfl, own := shut other _
      due := fun some => absurd rfl some, marked := fun _ => rfl
      tasks := by simp only [Lane.woken]; split at tasks <;> simp_all
      ends := fun last => by have closed := (kept.ends last).1; simp [kept.due,due] at closed}
  case swap none opened =>
    exact {kept with
      due := fun some => absurd none some
      marked := fun ended => by have closed := kept.marked ended; simp [opened] at closed
      ends := fun last => by have closed := (kept.ends last).1; simp [opened] at closed}
  case endTake p own last quiet =>
    have clear := kept.own own
    have ended : L.group.pendingEnd = false := by
      cases h : L.group.pendingEnd
      · rfl
      · have flag := kept.wake (.inr h); simp [clear.2] at flag
    exact {kept with
      sinks := kept.sinks.filter p, calls := kept.sinks.filter p
      due := fun some => by have opened := kept.due some; simp [last] at opened
      marked := fun _ => rfl, ends := fun _ => ⟨rfl,clear.1,ended,clear.2⟩}
  case endMark other last =>
    exact {kept with
      wake := fun _ => rfl, own := shut other _, marked := fun _ => rfl
      due := fun some => by have opened := kept.due some; simp [last] at opened
      tasks := by simp only [Lane.woken]; split at tasks <;> simp_all
      ends := fun last' => by have closed := (kept.ends last').1; simp [last] at closed}
  case pop f rest posted quiet head =>
    have flag := kept.wake (.inl (by simp [head]))
    exact {kept with
      bound := Nat.le_of_succ_le (by simpa [head] using kept.bound)
      wake := fun _ => flag, calls := List.nodup_nil, ends := fun last => nomatch last
      own := fun own => by have clear := (kept.own own).1; simp [head] at clear}
  case last posted quiet empty ended =>
    have flag := kept.wake (.inr ended)
    exact {kept with
      wake := fun work => by simp [empty] at work
      tasks := by simp [tasks,flag], own := fun _ => ⟨empty,rfl⟩, calls := List.nodup_nil
      marked := (fun h => nomatch h), ends := fun _ => ⟨kept.marked ended,empty,rfl,rfl⟩}
  case stop posted quiet empty ended =>
    exact {kept with
      wake := fun work => by simp [empty,ended] at work
      tasks := by split at tasks <;> simp_all
      own := fun own => ⟨(kept.own own).1,rfl⟩
      ends := fun last => by simp [quiet,Stage.ends] at last}
  case snapshot frame p popped =>
    exact {kept with
      sinks := kept.sinks.filter p, calls := kept.sinks.filter p
      ends := fun last => kept.ends (by cases frame <;> simp_all [Stage.ends])}
  case call frame x xs calling =>
    have calls : (x :: xs).Nodup := by simpa [calling,Stage.sinks] using kept.calls
    exact {kept with
      calls := calls.of_cons, ends := fun last => kept.ends (by cases frame <;> simp_all [Stage.ends])}
  case finish frame calling => exact {kept with calls := List.nodup_nil, ends := fun last => nomatch last}

omit [DecidableEq Sink] in
theorem laneLine (kept : L.Kept) (line : L.Line published) (step : LaneStep L label L') :
    L'.Line (published ++ label.frames) := by
  obtain ⟨part,newest⟩ := line
  have same {M : Lane Frame Sink Worker} (list : M.stage.frame ++ (M.group.pending ++ M.due) =
      L.stage.frame ++ (L.group.pending ++ L.due)) (phase : M.phase = .opened → L.phase = .opened) :
      M.Line published := ⟨list ▸ part,fun opened => list ▸ newest (phase opened)⟩
  cases step
  case publish f none opened =>
    have grown := suffixPublish (newest opened) f
    rw [none] at grown
    exact ⟨by simpa [Label.frames] using grown.isInfix,fun _ => by simpa [Label.frames] using grown⟩
  case pass f shut => exact ⟨infixPublish part f,fun opened => absurd opened shut⟩
  all_goals simp only [Label.frames,List.append_nil]
  case keep | add | drop => exact same rfl id
  case detach | swap | endMark => exact same rfl fun h => nomatch h
  case take f p own due quiet => exact same (by simp [due,quiet,(kept.own own).1,Stage.frame]) id
  case skip f due ended =>
    have opened := kept.due (by simp [due])
    simp [kept.marked ended] at opened
  case queue f other due ended room => exact same (by simp [due]) id
  case full f other due ended full =>
    refine ⟨List.IsInfix.trans ?_ part,fun h => nomatch h⟩
    simpa using (List.prefix_append L.stage.frame _).isInfix
  case endTake p own last quiet => exact same (by simp [quiet,Stage.frame]) fun h => nomatch h
  case pop f rest posted quiet head => exact same (by simp [quiet,head,Stage.frame]) id
  case last posted quiet empty ended => exact same (by simp [quiet,Stage.frame]) id
  case stop => exact same rfl id
  case snapshot frame p popped => exact same (by cases frame <;> simp [popped,Stage.frame]) id
  case call frame x xs calling => exact same (by cases frame <;> simp [calling,Stage.frame]) id
  case finish frame calling =>
    have rest : L.group.pending ++ L.due <:+ L.stage.frame ++ (L.group.pending ++ L.due) :=
      List.suffix_append _ _
    exact ⟨rest.isInfix.trans part,fun opened => rest.trans (newest opened)⟩

theorem Lane.Coming.mono {M : Lane Frame Sink Worker} (coming : L.Coming published x frames)
    (called : x ∈ M.stage.sinks → frames ++ M.stage.frame <:+: published)
    (member : x ∈ M.group.sinks → x ∈ L.group.sinks)
    (list : x ∈ M.group.sinks → M.stage.ahead x ++ M.group.pending ++ M.due =
      L.stage.ahead x ++ L.group.pending ++ L.due)
    (phase : M.phase = .opened → L.phase = .opened) : M.Coming published x frames :=
  ⟨coming.seen,called,fun mem => by rw [list mem]; exact coming.member (member mem),
    fun mem opened => by rw [list mem]; exact coming.current (member mem) (phase opened)⟩

theorem laneFinished (kept : L.Kept) (finished : L.Finished x) (step : LaneStep L label L') :
    L'.Finished x ∧ label.calls x = [] := by
  have idle : L.tasks = 0 := by simpa [finished.queued] using kept.tasks
  have shut : L.due = [] := by
    by_contra some
    have opened := kept.due some
    simp [finished.phase] at opened
  cases step
  case keep | drop | pass => exact ⟨{finished with},rfl⟩
  case add opened | detach opened | publish opened | swap opened => simp [finished.phase] at opened
  case take due _ | skip due _ | queue due _ _ | full due _ _ => simp [shut] at due
  case endTake last _ | endMark last => simp [finished.phase] at last
  case pop posted _ _ | last posted _ _ _ | stop posted _ _ _ => simp [idle] at posted
  case snapshot popped => rcases finished.stage with h | ⟨l,h,_⟩ <;> simp [h] at popped
  case call frame y ys calling =>
    rcases finished.stage with h | ⟨l,h,out⟩
    · simp [h] at calling
    · obtain ⟨rfl,rfl⟩ : none = frame ∧ l = y :: ys := by simpa [h] using calling
      obtain ⟨other,out⟩ : x ≠ y ∧ x ∉ ys := by simpa using out
      exact ⟨{finished with stage := .inr ⟨ys,rfl,out⟩},by simp [Label.calls,other.symm]⟩
  case finish => exact ⟨{finished with stage := .inl rfl},rfl⟩

theorem laneComing (kept : L.Kept) (coming : L.Coming published x frames)
    (step : LaneStep L label L') (other : label.calls x = [])
    (entered : x ∈ L'.group.sinks → x ∈ L.group.sinks) :
    L'.Coming (published ++ label.frames) x frames := by
  have seen := coming.seen
  cases step
  case publish f none opened =>
    have grown (mem : x ∈ L.group.sinks) := suffixPublish (coming.current mem opened) f
    simp only [none,List.append_nil] at grown
    refine ⟨infixPublish seen f,fun mem => infixPublish (coming.called mem) f,?_,?_⟩
    · intro mem; simpa [Label.frames] using (grown mem).isInfix
    · intro mem _; simpa [Label.frames] using grown mem
  case pass f shut =>
    exact ⟨infixPublish seen f,fun mem => infixPublish (coming.called mem) f,
      fun mem => infixPublish (coming.member mem) f,fun _ opened => absurd opened shut⟩
  all_goals simp only [Label.frames,List.append_nil]
  case keep => exact coming
  case add | drop => exact coming.mono coming.called entered (fun _ => rfl) id
  case detach => exact coming.mono coming.called entered (fun _ => rfl) fun h => nomatch h
  case swap | endMark => exact coming.mono coming.called entered (fun _ => rfl) fun h => nomatch h
  case take f p own due quiet =>
    have empty := (kept.own own).1
    refine coming.mono (fun mem => ?_) entered (fun mem => ?_) id
    · have now := coming.member (List.mem_filter.mp mem).1
      simpa [quiet,empty,due,Stage.ahead,Stage.frame] using now
    · have called : x ∈ L.group.sinks.filter p := mem
      simp [Stage.ahead,called,quiet,empty,due]
  case skip f due ended =>
    have opened := kept.due (by simp [due])
    simp [kept.marked ended] at opened
  case queue f other due ended room =>
    exact coming.mono coming.called entered (fun _ => by simp [due]) id
  case full f other due ended full =>
    refine ⟨seen,coming.called,fun mem => ?_,fun _ h => nomatch h⟩
    refine List.IsInfix.trans ?_ (coming.member mem)
    simpa using (List.prefix_append (frames ++ L.stage.ahead x) (L.group.pending ++ L.due)).isInfix
  case endTake p own last quiet =>
    refine coming.mono (fun _ => by simpa [Stage.frame] using seen) entered
      (fun _ => by simp [quiet,Stage.ahead]) fun h => nomatch h
  case pop f rest posted quiet head =>
    refine coming.mono (fun mem => nomatch mem) entered (fun _ => by simp [quiet,head,Stage.ahead]) id
  case last posted quiet empty ended =>
    exact coming.mono (fun mem => nomatch mem) entered (fun _ => by simp [quiet,Stage.ahead]) id
  case stop => exact coming.mono coming.called entered (fun _ => rfl) id
  case snapshot frame p popped =>
    refine coming.mono (fun mem => ?_) entered (fun mem => ?_) id
    · have now := coming.member (List.mem_filter.mp mem).1
      refine List.IsInfix.trans ?_ now
      cases frame with
      | none => simpa [Stage.frame] using (List.prefix_append frames _).isInfix
      | some f =>
        simpa [popped,Stage.frame,Stage.ahead] using (List.prefix_append (frames ++ [f]) _).isInfix
    · have called : x ∈ L.group.sinks.filter p := mem
      cases frame <;> simp [popped,Stage.ahead,called]
  case call frame y ys calling =>
    have apart : y ≠ x := by
      intro same
      simp [Label.calls,same] at other
    refine coming.mono (fun mem => ?_) entered (fun _ => ?_) id
    · have now := coming.called (by simpa [calling,Stage.sinks] using .inr mem)
      cases frame <;> simpa [calling,Stage.frame] using now
    · cases frame <;> simp [calling,Stage.ahead,apart.symm]
  case finish frame calling =>
    exact coming.mono (fun mem => nomatch mem) entered
      (fun _ => by cases frame <;> simp [calling,Stage.ahead]) id

theorem laneCalled {c : Callback Frame} (kept : L.Kept) (coming : L.Coming published x frames)
    (step : LaneStep L (.call x c) L') : L'.Flow published x (frames.map .deliver ++ [c]) := by
  cases step with
  | @call frame _ xs calling =>
    have nodup : (x :: xs).Nodup := by simpa [calling,Stage.sinks] using kept.calls
    have gone : x ∉ xs := (List.nodup_cons.mp nodup).1
    have called := coming.called (by simp [calling,Stage.sinks])
    cases frame with
    | some f =>
      refine .inl ⟨frames ++ [f],by simp [callback],?_⟩
      refine ⟨by simpa [calling,Stage.frame] using called,fun mem => absurd mem gone,?_,?_⟩
      · intro mem
        simpa [Stage.ahead,gone,calling] using coming.member mem
      · intro mem opened
        simpa [Stage.ahead,gone,calling] using coming.current mem opened
    | none =>
      obtain ⟨phase,pending,ended,queued⟩ := kept.ends (by simp [calling,Stage.ends])
      exact .inr ⟨frames,rfl,coming.seen,phase,pending,ended,queued,.inr ⟨xs,rfl,gone⟩⟩

theorem laneFlow {log : List (Callback Frame)} (kept : L.Kept) (flow : L.Flow published x log)
    (step : LaneStep L label L') (entered : x ∈ L'.group.sinks → x ∈ L.group.sinks) :
    L'.Flow (published ++ label.frames) x (log ++ label.calls x) := by
  rcases flow with ⟨frames,rfl,coming⟩ | ⟨frames,rfl,seen,finished⟩
  · by_cases other : label.calls x = []
    · exact .inl ⟨frames,by simp [other],laneComing kept coming step other entered⟩
    · cases label with
      | silent | publish f => simp [Label.calls] at other
      | call y c =>
        obtain rfl : y = x := by
          by_contra apart
          simp [Label.calls,apart] at other
        simpa [Label.calls,Label.frames] using laneCalled kept coming step
  · obtain ⟨finished,quiet⟩ := laneFinished kept finished step
    refine .inr ⟨frames,by simp [quiet],?_,finished⟩
    exact seen.trans (List.infix_append' [] published label.frames)

end
end MediaServer.SinkDispatcher
