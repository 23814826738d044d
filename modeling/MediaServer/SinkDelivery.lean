import MediaServer.SinkRefine

/-! Delivery over whole runs: the lane invariants hold of every group of a reachable
state, and with them each sink hears a segment of the published frames and at most
one on_end after it. -/
namespace MediaServer.SinkDispatcher

variable {Frame Sink Worker Id : Type} [DecidableEq Sink] [DecidableEq Worker] [DecidableEq Id]

omit [DecidableEq Worker] in
theorem laneJoin {L : Lane Frame Sink Worker} {published : List Frame} {x : Sink}
    (line : L.Line published) (outside : x ∉ L.stage.sinks) : L.Flow published x [] := by
  obtain ⟨part,newest⟩ := line
  have tail : L.stage.ahead x ++ L.group.pending ++ L.due <:+
      L.stage.frame ++ (L.group.pending ++ L.due) := by
    rw [List.append_assoc]
    rcases stage : L.stage with _ | (_ | f) | ⟨_ | f,sinks⟩
    all_goals simp only [stage,Stage.sinks] at outside
    all_goals simp [Stage.ahead,Stage.frame,outside]
  refine .inl ⟨[],rfl,List.nil_infix,fun mem => absurd mem outside,fun _ => ?_,fun _ opened => ?_⟩
  · exact tail.isInfix.trans part
  · exact tail.trans (newest opened)

structure Delivering (s : State Frame Sink Worker Id) (g : Id) (G : SinkGroup Frame Sink Worker) :
    Prop where
  kept : (s.lane g G).Kept
  line : (s.lane g G).Line s.published
  flow : ∀ x, s.home x = some g → (s.lane g G).Flow s.published x (s.log x)

section
variable {s t : State Frame Sink Worker Id} {g : Id} {G G' : SinkGroup Frame Sink Worker} {x : Sink}

omit [DecidableEq Sink] in
theorem stageHome (o : Orderly s) {w : Worker}
    (mem : x ∈ (stageOf (w == s.owner) (s.call.stage g) (s.running w) g).sinks) :
    s.home x = some g := by
  by_cases own : w = s.owner
  · simp only [own,beq_self_eq_true,stageOf,if_true] at mem
    rcases call : s.call with _ | _ | _ | ⟨f,h,sinks,rest,spilled⟩ | _ | _ | ⟨h,sinks,rest⟩ | _
    all_goals simp only [call,Call.stage] at mem
    case publishDirect | endDirect =>
      split at mem
      · subst h; exact o.directs g sinks x (by rw [call]; rfl) mem
      · cases mem
    all_goals cases mem
  · have other : (w == s.owner) = false := by simpa using own
    simp only [other,stageOf] at mem
    rcases run : s.running w with _ | ⟨h,d⟩
    · simp [run,Stage.sinks] at mem
    · by_cases this : h = g
      · subst this
        simp only [run,drainOf,if_true] at mem
        exact o.called w h d x run (by cases d <;> exact mem)
      · simp [run,this,Stage.sinks] at mem

theorem enteredMove (move : Move s t) (found : s.groups g = some G) (now : t.groups g = some G')
    (home : s.home x = some g) (mem : x ∈ G'.sinks) : x ∈ G.sinks := by
  have changed {h : Id} {group group' : SinkGroup Frame Sink Worker}
      (known : s.groups h = some group)
      (update : Function.update s.groups h (some group') g = some G')
      (fewer : x ∈ group'.sinks → x ∈ group.sinks) : x ∈ G.sinks := by
    by_cases this : g = h
    · subst this
      cases Option.some.inj (known.symm.trans found)
      obtain rfl : group' = G' := by simpa using update
      exact fewer mem
    · rw [Function.update_of_ne this,found] at update
      exact Option.some.inj update ▸ mem
  have same (before : s.groups g = some G') : x ∈ G.sinks :=
    Option.some.inj (found.symm.trans before) ▸ mem
  cases move
  case addOld y _ _ _ _ unseen _ _ known =>
    refine changed known now fun mem' => ?_
    have apart : x ≠ y := by rintro rfl; simp [unseen] at home
    simpa [apart] using mem'
  case addNew h _ _ _ _ unused =>
    have apart : g ≠ h := by rintro rfl; simp [unused] at found
    exact same (by simpa [State.setGroup,apart] using now)
  case removeAt known _ kept =>
    exact changed known now fun mem' => List.mem_of_mem_filter (kept ▸ mem')
  case publishTake known _ | endTake known _ | drainSnapshot known =>
    exact changed known now List.mem_of_mem_filter
  case publishQueue known _ _ _ | publishFull known _ _ _ | endMark known _
      | drainFrame known _ | drainLast known _ _ | drainStop known _ _ =>
    exact changed known now id
  all_goals exact same now

theorem joinMove (move : Move s t) (before : s.home x = none) (after : t.home x = some g) :
    t.log = s.log ∧ t.call = s.call ∧ t.running = s.running := by
  cases move
  case addOld | addNew => exact ⟨rfl,rfl,rfl⟩
  all_goals exact nomatch before.symm.trans after

theorem deliveringOld (o : Orderly s) (move : Move s t) (found : s.groups g = some G)
    (old : Delivering s g G) (now : t.groups g = some G') : Delivering t g G' := by
  obtain ⟨G'',label,now',step,published,log⟩ := moveRefined o found move
  cases Option.some.inj (now'.symm.trans now)
  have line : (t.lane g G').Line t.published := published ▸ laneLine old.kept old.line step
  refine ⟨laneKept old.kept step,line,fun x home => ?_⟩
  cases before : s.home x with
  | some h =>
    obtain rfl : h = g := Option.some.inj ((homeMove move before).symm.trans home)
    rw [published,log x before]
    exact laneFlow old.kept (old.flow x before) step (enteredMove move found now before)
  | none =>
    obtain ⟨quiet,call,running⟩ := joinMove move before home
    rw [quiet,o.unseen x before]
    refine laneJoin line fun mem => ?_
    simp only [State.lane,call,running,moveOwner move] at mem
    cases before.symm.trans (stageHome o mem)

theorem bornMove (o : Orderly s) (move : Move s t) (absent : s.groups g = none)
    (now : t.groups g = some G') : ∃ w x, t.lane g G' =
      ⟨⟨w,[x],[],false,false⟩,w == t.owner,0,.quiet,[],.opened⟩ ∧ t.log = s.log := by
  have unknown {w : Worker} : s.workerOf g ≠ some w := by simp [State.workerOf,absent]
  have old {P : Prop} (before : s.groups g = some G') : P := by cases absent.symm.trans before
  have other {P : Prop} {h : Id} {group group' : SinkGroup Frame Sink Worker}
      (known : s.groups h = some group)
      (update : Function.update s.groups h (some group') g = some G') : P := by
    by_cases this : g = h
    · subst this; cases absent.symm.trans known
    · rw [Function.update_of_ne this] at update
      exact old update
  cases move
  case addNew x w h idle _ _ _ unused =>
    by_cases this : g = h
    · subst this
      obtain rfl : (⟨w,[x],[],false,false⟩ : SinkGroup Frame Sink Worker) = G' := by
        simpa [State.setGroup] using now
      have none : (s.queue w).count g = 0 :=
        List.count_eq_zero.mpr fun mem => unknown (o.queued w g mem).1
      have stopped : drainOf (s.running w) g = .none := by
        rcases run : s.running w with _ | ⟨h,d⟩
        · rfl
        · have apart : h ≠ g := by rintro rfl; exact unknown (o.runs w h d run).1
          simp [apart]
      refine ⟨w,x,?_,rfl⟩
      simp only [State.lane,State.setGroup,tasksOf,stageOf,phaseOf,none,stopped,idle]
      simp
    · exact old (by simpa [State.setGroup,this] using now)
  case addOld known | removeAt known _ _ | publishTake known _ | publishQueue known _ _ _
      | publishFull known _ _ _ | endTake known _ | endMark known _ | drainFrame known _
      | drainLast known _ _ | drainStop known _ _ | drainSnapshot known => exact other known now
  all_goals exact old now

theorem deliveringNew (o : Orderly s) (move : Move s t) (absent : s.groups g = none)
    (now : t.groups g = some G') : Delivering t g G' := by
  obtain ⟨w,x,lane,log⟩ := bornMove o move absent now
  have line : (t.lane g G').Line t.published := by
    rw [lane]
    exact ⟨List.nil_infix,fun _ => List.nil_suffix⟩
  refine ⟨?_,line,fun y home => ?_⟩
  · rw [lane]
    constructor <;> simp [Stage.sinks,Stage.ends]
  · have before : s.home y = none := by
      cases known : s.home y with
      | none => rfl
      | some h =>
        obtain rfl : h = g := Option.some.inj ((homeMove move known).symm.trans home)
        obtain ⟨w,worker⟩ := o.homes y h known
        simp [State.workerOf,absent] at worker
    rw [log,o.unseen y before]
    exact laneJoin line (by simp [lane,Stage.sinks])

theorem reachedDelivering {owner : Worker} (reached : Reached owner s)
    (found : s.groups g = some G) : Delivering s g G := by
  have both : Orderly s ∧ ∀ g G, s.groups g = some G → Delivering s g G := by
    refine reached.invariant
      (P := fun s => Orderly s ∧ ∀ g G, s.groups g = some G → Delivering s g G) ?_ ?_
    · rintro s rfl
      exact ⟨reachedOrderly (.start rfl),fun g G none => nomatch none⟩
    · rintro s a t ⟨o,old⟩ taken
      refine ⟨orderlyMove o (stepMove taken),fun g G' now => ?_⟩
      cases before : s.groups g with
      | some G => exact deliveringOld o (stepMove taken) before (old g G before) now
      | none => exact deliveringNew o (stepMove taken) before now
  exact both.2 g G found

/-- What a sink hears is one run of consecutive published frames, in order and each
once, then at most one on_end, then nothing. -/
theorem sinkHearsSegment {owner : Worker} (reached : Reached owner s) (x : Sink) :
    ∃ (first count : Nat) (ended : Bool), first + count ≤ s.published.length ∧
      s.log x = ((s.published.drop first).take count).map .deliver ++
        if ended then [.onEnd] else [] := by
  have segment {frames : List Frame} (part : frames <:+: s.published) : ∃ first count,
      first + count ≤ s.published.length ∧ frames = (s.published.drop first).take count := by
    obtain ⟨before,after,same⟩ := part
    refine ⟨before.length,frames.length,?_,?_⟩
    · simp [← same]
    · simp [← same]
  cases home : s.home x with
  | none => exact ⟨0,0,false,by simp,by simp [(reachedOrderly reached).unseen x home]⟩
  | some g =>
    obtain ⟨w,worker⟩ := (reachedOrderly reached).homes x g home
    obtain ⟨G,found,-⟩ := Option.map_eq_some_iff.mp worker
    rcases (reachedDelivering reached found).flow x home with ⟨frames,log,coming⟩ | ⟨frames,log,seen,-⟩
    · obtain ⟨first,count,bound,rfl⟩ := segment coming.seen
      exact ⟨first,count,false,bound,by simp [log]⟩
    · obtain ⟨first,count,bound,rfl⟩ := segment seen
      exact ⟨first,count,true,bound,by simp [log]⟩

theorem sinkHearsTwoFrames : ∃ s : State Nat Nat Nat Nat, Reached 0 s ∧
    (s.published = [41,42] ∧ s.log 7 = [.deliver 41,.deliver 42,.onEnd]) ∧
    ∃ (first count : Nat) (ended : Bool), first + count ≤ s.published.length ∧
      s.log 7 = ((s.published.drop first).take count).map .deliver ++
        if ended then [.onEnd] else [] := by
  have log : (Transition.run step (initial 0) [.add 7 1 100,
      .publish 41 [(1,100)],.owner,.owner,.owner,.start 1,.drain 1 false,.drain 1 false,
      .publish 42 [(1,100)],.owner,.owner,.drain 1 false,.drain 1 true,.end [(1,100)],.owner,.owner,
      .start 1,.drain 1 false,.drain 1 false,.drain 1 false,.drain 1 false,
      .drain 1 false,.drain 1 false,.drain 1 false]).map (fun s => (s.published,s.log 7)) =
      some ([41,42],[.deliver 41,.deliver 42,.onEnd]) := by decide
  obtain ⟨s,ok,same⟩ := Option.map_eq_some_iff.mp log
  have reached : Reached 0 s := Transition.runReachable (.start rfl) ok
  exact ⟨s,reached,⟨congrArg Prod.fst same,congrArg Prod.snd same⟩,sinkHearsSegment reached 7⟩

end

end MediaServer.SinkDispatcher
