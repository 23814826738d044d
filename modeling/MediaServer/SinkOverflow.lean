import MediaServer.SinkDelivery

/-! What publish does to a full group, up to the on_end of its last sink. The lane of
such a group is sealed: it hears at most the frame it had taken before, then on_end.
A worker left to itself empties its queue, so the on_end does come. -/
namespace MediaServer.SinkDispatcher

variable {Frame Sink Worker Id : Type} [DecidableEq Sink] [DecidableEq Worker] [DecidableEq Id]

structure Lane.Sealed (L : Lane Frame Sink Worker) (ahead : List Frame) (x : Sink)
    (extra : List (Callback Frame)) : Prop where
  phase : L.phase = .closed
  pending : L.group.pending = []
  heard : (∃ frames : List Frame, extra = frames.map .deliver ∧ frames ++ L.stage.ahead x <+: ahead) ∨
    (∃ frames : List Frame, extra = frames.map .deliver ++ [.onEnd] ∧ frames <+: ahead ∧ L.Finished x)
  owed : x ∈ L.group.sinks → .onEnd ∈ extra ∨ L.group.pendingEnd = true ∨ L.stage = .popped none ∨
    ∃ xs, L.stage = .calling none xs ∧ x ∈ xs

section
omit [DecidableEq Worker]
variable {L L' : Lane Frame Sink Worker} {label : Label Frame Sink} {ahead : List Frame} {x : Sink}
  {extra : List (Callback Frame)}

theorem laneOverflow (full : L.phase = .closed) (empty : L.group.pending = [])
    (ended : L.group.pendingEnd = true) : L.Sealed (L.stage.ahead x) x [] :=
  ⟨full,empty,.inl ⟨[],rfl,List.prefix_rfl⟩,fun _ => .inr (.inl ended)⟩

omit [DecidableEq Sink] in
theorem laneClosed (closed : L.phase = .closed) (step : LaneStep L label L') :
    L'.phase = .closed := by
  cases step
  case detach => rfl
  case full => rfl
  case endTake => rfl
  case endMark => rfl
  case swap opened => exact nomatch closed.symm.trans opened
  all_goals exact closed

theorem laneSealedCall {frame : Option Frame} {xs : List Sink} (kept : L.Kept)
    (closed : L.Sealed ahead x extra) (calling : L.stage = .calling frame (x :: xs)) :
    ({L with stage := .calling frame xs} : Lane Frame Sink Worker).Sealed ahead x
      (extra ++ [callback frame]) := by
  have gone : x ∉ xs := by
    have nodup : (x :: xs).Nodup := by simpa [calling,Stage.sinks] using kept.calls
    exact (List.nodup_cons.mp nodup).1
  rcases closed.heard with ⟨frames,rfl,seen⟩ | ⟨frames,rfl,seen,finished⟩
  · cases frame with
    | some f =>
      refine ⟨closed.phase,closed.pending,.inl ⟨frames ++ [f],by simp [callback],?_⟩,fun mem => ?_⟩
      · simpa [calling,Stage.ahead,gone] using seen
      · rcases closed.owed mem with heard | ended | last | ⟨ys,last,-⟩
        · simp at heard
        · exact .inr (.inl ended)
        · simp [calling] at last
        · simp [calling] at last
    | none =>
      have ends := kept.ends (by simp [calling,Stage.ends])
      refine ⟨closed.phase,closed.pending,.inr ⟨frames,by simp [callback],?_,?_⟩,fun _ => .inl (by simp [callback])⟩
      · simpa [calling,Stage.ahead] using seen
      · exact ⟨ends.1,ends.2.1,ends.2.2.1,ends.2.2.2,.inr ⟨xs,rfl,gone⟩⟩
  · rcases finished.stage with quiet | ⟨sinks,last,outside⟩
    · simp [calling] at quiet
    · rw [calling] at last
      cases last
      exact absurd List.mem_cons_self outside

theorem laneSealed (kept : L.Kept) (closed : L.Sealed ahead x extra) (step : LaneStep L label L') :
    L'.Sealed ahead x (extra ++ label.calls x) := by
  obtain ⟨phase,pending,heard,owed⟩ := closed
  have shut {P : Prop} {other : Phase} (now : L.phase = other) (apart : other ≠ .closed) : P :=
    absurd (now.symm.trans phase) apart
  have none : L.due = [] := by
    by_contra some
    exact shut (kept.due some) (by simp)
  have carry {M : Lane Frame Sink Worker} {other : Label Frame Sink} (step : LaneStep L other M)
      (quiet : other.calls x = []) (phase' : M.phase = .closed) (pending' : M.group.pending = [])
      (ahead' : M.stage.ahead x <+: L.stage.ahead x)
      (owed' : x ∈ M.group.sinks → .onEnd ∈ extra ∨ M.group.pendingEnd = true ∨
        M.stage = .popped .none ∨ ∃ xs, M.stage = .calling .none xs ∧ x ∈ xs) :
      M.Sealed ahead x (extra ++ other.calls x) := by
    rw [quiet,List.append_nil]
    refine ⟨phase',pending',?_,owed'⟩
    rcases heard with ⟨frames,same,seen⟩ | ⟨frames,same,seen,finished⟩
    · exact .inl ⟨frames,same,((List.prefix_append_right_inj frames).mpr ahead').trans seen⟩
    · exact .inr ⟨frames,same,seen,(laneFinished kept finished step).1⟩
  cases step
  case add opened => exact shut opened (by simp)
  case detach opened => exact shut opened (by simp)
  case publish opened => exact shut opened (by simp)
  case swap opened => exact shut opened (by simp)
  case endTake last _ => exact shut last (by simp)
  case endMark last => exact shut last (by simp)
  case take due _ => cases none.symm.trans due
  case skip due _ => cases none.symm.trans due
  case queue due _ _ => cases none.symm.trans due
  case full due _ _ => cases none.symm.trans due
  case pop head => cases pending.symm.trans head
  case keep => exact carry .keep rfl phase pending List.prefix_rfl owed
  case drop p =>
    exact carry (.drop p) rfl phase pending List.prefix_rfl fun mem => owed (List.mem_of_mem_filter mem)
  case pass f shut' => exact carry (.pass (f := f) shut') rfl phase pending List.prefix_rfl owed
  case last posted quiet empty ended =>
    refine carry (.last posted quiet empty ended) rfl phase pending ?_ fun _ => .inr (.inr (.inl rfl))
    simp [Stage.ahead]
  case stop posted quiet empty ended =>
    refine carry (.stop posted quiet empty ended) rfl phase pending List.prefix_rfl fun mem => ?_
    exact owed mem
  case snapshot frame p popped =>
    refine carry (.snapshot p popped) rfl phase pending ?_ fun mem => ?_
    · cases frame with
      | none => simp [Stage.ahead]
      | some f =>
        simp only [popped,Stage.ahead]
        split
        · exact List.prefix_rfl
        · exact List.nil_prefix
    · rcases owed (List.mem_of_mem_filter mem) with heard | ended | last | ⟨xs,last,-⟩
      · exact .inl heard
      · exact .inr (.inl ended)
      · rw [popped] at last
        cases last
        exact .inr (.inr (.inr ⟨_,rfl,mem⟩))
      · simp [popped] at last
  case call frame y ys calling =>
    by_cases same : y = x
    · subst same
      have next := laneSealedCall kept ⟨phase,pending,heard,owed⟩ calling
      simpa [Label.calls] using next
    · refine carry (.call calling) (by simp [Label.calls,same]) phase pending ?_ fun mem => ?_
      · cases frame <;> simp [calling,Stage.ahead,Ne.symm same]
      · rcases owed mem with heard | ended | last | ⟨xs,last,member⟩
        · exact .inl heard
        · exact .inr (.inl ended)
        · simp [calling] at last
        · rw [calling] at last
          cases last
          exact .inr (.inr (.inr ⟨ys,rfl,(List.mem_cons.mp member).resolve_left (Ne.symm same)⟩))
  case finish frame calling =>
    refine carry (.finish calling) rfl phase pending ?_ fun mem => ?_
    · simp [Stage.ahead]
    · rcases owed mem with heard | ended | last | ⟨xs,last,member⟩
      · exact .inl heard
      · exact .inr (.inl ended)
      · simp [calling] at last
      · rw [calling] at last
        cases last
        cases member

end

structure SealedSince (s : State Frame Sink Worker Id) (g : Id) (ahead : Sink → List Frame)
    (u : State Frame Sink Worker Id) (G : SinkGroup Frame Sink Worker) : Prop where
  found : u.groups g = some G
  phase : (u.lane g G).phase = .closed
  sinks : ∀ x, u.home x = some g → s.home x = some g ∧
    ∃ extra, u.log x = s.log x ++ extra ∧ (u.lane g G).Sealed (ahead x) x extra

section
variable {s u v : State Frame Sink Worker Id} {g : Id} {G : SinkGroup Frame Sink Worker}
  {ahead : Sink → List Frame}

variable {x : Sink} {owner w : Worker} {frame : Option Frame}

theorem joinOpened (o : Orderly u) (move : Move u v) (found : u.groups g = some G)
    (before : u.home x = none) (after : v.home x = some g) : (u.lane g G).phase = .opened := by
  cases move
  case addOld y w h group idle unseen _ entry known =>
    by_cases same : x = y
    · subst same
      obtain rfl : h = g := by simpa using after
      obtain rfl : G.worker = w := by simpa [State.workerOf,found] using o.entry w h entry
      simp [State.lane,phaseOf,idle,entry]
    · have kept : u.home x = some g := by simpa [same] using after
      cases before.symm.trans kept
  case addNew y w h _ _ _ _ unused =>
    by_cases same : x = y
    · subst same
      obtain rfl : h = g := by simpa using after
      cases unused.symm.trans found
    · have kept : u.home x = some g := by simpa [same] using after
      cases before.symm.trans kept
  all_goals cases before.symm.trans after

theorem sealedMove (o : Orderly u) (kept : (u.lane g G).Kept) (closed : SealedSince s g ahead u G)
    (move : Move u v) : ∃ G', SealedSince s g ahead v G' := by
  obtain ⟨found,phase,sinks⟩ := closed
  obtain ⟨G',label,now,step,-,log⟩ := moveRefined o found move
  refine ⟨G',now,laneClosed phase step,fun x home => ?_⟩
  cases before : u.home x with
  | none => exact nomatch phase.symm.trans (joinOpened o move found before home)
  | some h =>
    obtain rfl : h = g := Option.some.inj ((homeMove move before).symm.trans home)
    obtain ⟨old,extra,same,lane⟩ := sinks x before
    refine ⟨old,extra ++ label.calls x,?_,laneSealed kept lane step⟩
    rw [log x before,same,List.append_assoc]

theorem sealedLater (reached : Reached owner u) (closed : SealedSince s g ahead u G)
    (leads : Transition.Leads step u v) : ∃ G', SealedSince s g ahead v G' := by
  have both : Reached owner v ∧ ∃ G', SealedSince s g ahead v G' := by
    refine leads.kept (P := fun v => Reached owner v ∧ ∃ G', SealedSince s g ahead v G')
      ⟨reached,G,closed⟩ ?_
    rintro v a v' ⟨reached,G,closed⟩ taken
    exact ⟨.next reached taken,sealedMove (reachedOrderly reached)
      (reachedDelivering reached closed.found).kept closed (stepMove taken)⟩
  exact both.2

structure Onward (u v : State Frame Sink Worker Id) : Prop where
  leads : Transition.Leads step u v
  expired : v.expired = u.expired
  members : ∀ g G x, u.groups g = some G → x ∈ G.sinks → u.expired x = false →
    ∃ G', v.groups g = some G' ∧ x ∈ G'.sinks

theorem Onward.refl : Onward u u := ⟨.here u,rfl,fun _ G _ found mem _ => ⟨G,found,mem⟩⟩

theorem Onward.trans {w : State Frame Sink Worker Id} (first : Onward u v) (second : Onward v w) :
    Onward u w := by
  refine ⟨first.leads.trans second.leads,second.expired.trans first.expired,?_⟩
  intro g G x found mem live
  obtain ⟨G',found',mem'⟩ := first.members g G x found mem live
  exact second.members g G' x found' mem' (first.expired ▸ live)

theorem onwardMove (move : Move u v) (expired : v.expired = u.expired)
    (members : ∀ g G x, u.groups g = some G → x ∈ G.sinks → u.expired x = false →
      ∃ G', v.groups g = some G' ∧ x ∈ G'.sinks) : Onward u v := by
  obtain ⟨a,taken⟩ := moveStep move
  exact ⟨.more (.here u) taken,expired,members⟩

theorem onwardSet {G G' : SinkGroup Frame Sink Worker} (move : Move u v)
    (expired : v.expired = u.expired) (found : u.groups g = some G)
    (groups : v.groups = Function.update u.groups g (some G'))
    (live : ∀ x ∈ G.sinks, u.expired x = false → x ∈ G'.sinks) : Onward u v := by
  refine onwardMove move expired fun h H x known mem fresh => ?_
  by_cases this : h = g
  · subst this
    cases Option.some.inj (known.symm.trans found)
    exact ⟨G',by simp [groups],live x mem fresh⟩
  · exact ⟨H,by simpa [groups,this] using known,mem⟩

theorem onwardSame (move : Move u v) (expired : v.expired = u.expired) (groups : v.groups = u.groups) :
    Onward u v :=
  onwardMove move expired fun _ G _ found mem _ => ⟨G,by rw [groups]; exact found,mem⟩

def RunEnds (w : Worker) (u : State Frame Sink Worker Id) : Prop :=
  ∃ v, Onward u v ∧ v.running w = none ∧ v.queue = u.queue ∧ v.call = u.call

theorem RunEnds.after (ends : RunEnds w v) (first : Onward u v) (queue : v.queue = u.queue)
    (call : v.call = u.call) : RunEnds w u := by
  obtain ⟨v',onward,stopped,queue',call'⟩ := ends
  exact ⟨v',first.trans onward,stopped,queue'.trans queue,call'.trans call⟩

theorem callbacksEnd {sinks : List Sink} (atRun : u.running w = some (g,.callbacks frame sinks))
    (next : ∀ v, v.groups = u.groups → v.running w = some (g,.callbacks frame []) → RunEnds w v) :
    RunEnds w u := by
  induction sinks generalizing u with
  | nil => exact next u rfl atRun
  | cons x xs ih =>
    refine RunEnds.after (ih (by simp [State.runs]) fun v groups run => next v ?_ run)
      (onwardSame (.drainCall atRun) rfl rfl) rfl rfl
    exact groups

theorem snapshotEnd (found : u.groups g = some G) (atRun : u.running w = some (g,.snapshot frame))
    (next : ∀ (v : State Frame Sink Worker Id) (G' : SinkGroup Frame Sink Worker),
      v.groups g = some G' → G'.pending = G.pending →
      v.running w = some (g,.callbacks frame []) → RunEnds w v) :
    RunEnds w u := by
  have first := onwardSet (.drainSnapshot atRun found) rfl found rfl fun x mem live => by
    simp [alive,mem,live]
  refine RunEnds.after ?_ first rfl rfl
  refine callbacksEnd (Function.update_self ..) fun v groups run => ?_
  exact next v {G with sinks := alive u G} (by simp [groups,State.runs,State.setGroup]) rfl run

theorem loopEnd (found : u.groups g = some G) (atRun : u.running w = some (g,.loop)) :
    RunEnds w u := by
  obtain ⟨n,size⟩ : ∃ n, G.pending.length = n := ⟨_,rfl⟩
  induction n generalizing u G with
  | zero =>
    have empty : G.pending = [] := List.length_eq_zero_iff.mp size
    cases ended : G.pendingEnd with
    | false =>
      exact ⟨_,onwardSet (.drainStop atRun found empty ended) rfl found rfl (fun _ mem _ => mem),
        by simp [State.runs],rfl,rfl⟩
    | true =>
      refine RunEnds.after ?_ (onwardSet (.drainLast atRun found empty ended) rfl found rfl
        (fun _ mem _ => mem)) rfl rfl
      refine snapshotEnd (Function.update_self ..) (Function.update_self ..) fun v G' _ _ run => ?_
      exact ⟨_,onwardSame (.drainEnded run) rfl rfl,by simp [State.runs],rfl,rfl⟩
  | succ n ih =>
    obtain ⟨f,rest,head⟩ := List.exists_cons_of_length_eq_add_one size
    refine RunEnds.after ?_ (onwardSet (.drainFrame atRun found head) rfl found rfl
      (fun _ mem _ => mem)) rfl rfl
    refine snapshotEnd (Function.update_self ..) (Function.update_self ..) fun v G' now pending run => ?_
    refine RunEnds.after ?_ (onwardSame (.drainAgain run) rfl rfl) rfl rfl
    have shorter : rest.length = n := by simpa [head] using size
    exact ih now (Function.update_self ..) (by rw [pending]; exact shorter)

theorem runEnds (o : Orderly u) : RunEnds w u := by
  rcases run : u.running w with _ | ⟨g,d⟩
  · exact ⟨u,.refl,run,rfl,rfl⟩
  obtain ⟨G,found,-⟩ := Option.map_eq_some_iff.mp (o.runs w g d run).1
  have ended (v : State Frame Sink Worker Id) {frame : Option Frame} {G' : SinkGroup Frame Sink Worker}
      (now : v.groups g = some G') (run : v.running w = some (g,.callbacks frame [])) :
      RunEnds w v := by
    cases frame with
    | none => exact ⟨_,onwardSame (.drainEnded run) rfl rfl,by simp [State.runs],rfl,rfl⟩
    | some f =>
      refine RunEnds.after ?_ (onwardSame (.drainAgain run) rfl rfl) rfl rfl
      exact loopEnd now (by simp [State.runs])
  cases d with
  | loop => exact loopEnd found run
  | snapshot frame => exact snapshotEnd found run fun v G' now _ run => ended v now run
  | callbacks frame sinks =>
    exact callbacksEnd run fun v groups run => ended v (by rw [groups]; exact found) run

theorem queueEnds (reached : Reached owner u) :
    ∃ v, Onward u v ∧ v.running w = none ∧ v.queue w = [] ∧ v.call = u.call := by
  obtain ⟨n,size⟩ : ∃ n, (u.queue w).length = n := ⟨_,rfl⟩
  induction n generalizing u with
  | zero =>
    obtain ⟨v,onward,stopped,queue,call⟩ := runEnds (w := w) (reachedOrderly reached)
    exact ⟨v,onward,stopped,by rw [queue]; exact List.length_eq_zero_iff.mp size,call⟩
  | succ n ih =>
    obtain ⟨v,onward,stopped,queue,call⟩ := runEnds (w := w) (reachedOrderly reached)
    obtain ⟨h,rest,head⟩ := List.exists_cons_of_length_eq_add_one size
    have started := onwardSame (.start stopped (by rw [queue]; exact head)) rfl rfl
    have shorter : rest.length = n := by simpa [head] using size
    obtain ⟨v',onward',stopped',queue',call'⟩ :=
      ih (started.leads.reachable (onward.leads.reachable reached)) (by simpa using shorter)
    exact ⟨v',(onward.trans started).trans onward',stopped',queue',call'.trans call⟩

theorem postEnds (found : u.groups g = some G) :
    ∃ v, Onward u v ∧ v.call.posting ≠ some g := by
  by_cases posting : u.call.posting = some g
  · rcases call : u.call with _ | _ | _ | _ | ⟨h,f,rest,spilled⟩ | _ | _ | ⟨h,rest⟩
    all_goals simp only [call,Call.posting] at posting
    case publishPost =>
      cases Option.some.inj posting
      exact ⟨_,onwardSame (.publishPost call found) rfl rfl,by simp [State.goto]⟩
    case endPost =>
      cases Option.some.inj posting
      exact ⟨_,onwardSame (.endPost call found) rfl rfl,by simp [State.goto]⟩
    all_goals contradiction
  · exact ⟨u,.refl,posting⟩

theorem drainEnds (reached : Reached owner u) (found : u.groups g = some G)
    (other : G.worker ≠ u.owner) : ∃ v G', Onward u v ∧ v.groups g = some G' ∧
      (v.lane g G').tasks = 0 ∧ (v.lane g G').stage = .quiet := by
  obtain ⟨v,first,posting⟩ := postEnds found
  obtain ⟨v',second,stopped,queue,call⟩ := queueEnds (w := G.worker) (first.leads.reachable reached)
  have leads := (first.trans second).leads
  have worker : u.workerOf g = some G.worker := by simp [State.workerOf,found]
  obtain ⟨G',now,same⟩ := Option.map_eq_some_iff.mp (leadsWorker leads worker)
  refine ⟨v',G',first.trans second,now,?_,?_⟩
  · simp only [State.lane,same,tasksOf,queue,stopped,call,posting]
    simp
  · have apart : (G.worker == v'.owner) = false := by simpa [leadsOwner leads] using other
    simp [State.lane,same,apart,stopped,stageOf]

theorem sealedFull {f : Frame} {rest spilled : List Id}
    (atCall : s.call = .publish f (g :: rest) spilled) :
    SealedSince s g (s.lane g G).stage.ahead
      ((s.setGroup g {G with pending := [], pendingEnd := true, drainQueued := true}).goto
        (publishNext G.drainQueued g f rest (spilled ++ [g])))
      {G with pending := [], pendingEnd := true, drainQueued := true} := by
  have phase {entry : Option Id} :
      phaseOf false [] (spilled ++ [g]) entry G.worker g = .closed := by simp [phaseOf]
  have stage : s.call.stage g = .quiet := by simp [atCall]
  refine ⟨Function.update_self ..,?_,fun x home => ⟨home,[],(List.append_nil _).symm,?_⟩⟩
  · simp only [State.lane,State.goto,publishNextEnds,publishNextPairs,publishNextSpilled,phase]
  · simp only [State.lane,State.setGroup,State.goto,publishNextStage,publishNextEnds,publishNextPairs,
      publishNextSpilled,phase,stage]
    exact laneOverflow rfl rfl rfl

theorem sealedHears (closed : SealedSince s g ahead u G) (home : s.home x = some g)
    (leads : Transition.Leads step s u) :
    ∃ (frames : List Frame) (ended : Bool), frames <+: ahead x ∧
      u.log x = s.log x ++ frames.map .deliver ++ if ended then [.onEnd] else [] := by
  have now : u.home x = some g :=
    leads.kept (P := fun v => v.home x = some g) home fun _ _ _ known taken =>
      homeMove (stepMove taken) known
  obtain ⟨-,extra,same,lane⟩ := closed.sinks x now
  rcases lane.heard with ⟨frames,rfl,seen⟩ | ⟨frames,rfl,seen,-⟩
  · exact ⟨frames,false,(List.prefix_append frames _).trans seen,by simp [same]⟩
  · exact ⟨frames,true,seen,by simp [same]⟩

theorem sealedEnds (reached : Reached owner u) (closed : SealedSince s g ahead u G)
    (other : G.worker ≠ u.owner) : ∃ v, Transition.Leads step u v ∧
      ∀ x ∈ G.sinks, u.expired x = false → (v.log x).getLast? = some .onEnd := by
  obtain ⟨v,G',onward,now,tasks,quiet⟩ := drainEnds reached closed.found other
  refine ⟨v,onward.leads,fun x mem live => ?_⟩
  have reached' := onward.leads.reachable reached
  obtain ⟨G'',closed'⟩ := sealedLater reached closed onward.leads
  cases Option.some.inj (closed'.found.symm.trans now)
  obtain ⟨H,known,mem'⟩ := onward.members g G x closed.found mem live
  cases Option.some.inj (known.symm.trans now)
  have kept := (reachedDelivering reached' now).kept
  obtain ⟨-,extra,same,lane⟩ := closed'.sinks x ((reachedOrderly reached').members g G' x now mem')
  have clear : G'.pendingEnd ≠ true := by
    intro ended
    have queued : G'.drainQueued = true := kept.wake (.inr ended)
    have one := tasks.symm.trans kept.tasks
    simp [State.lane,queued] at one
  have heard : .onEnd ∈ extra := by
    rcases lane.owed mem' with heard | ended | last | ⟨xs,last,-⟩
    · exact heard
    · exact absurd ended clear
    · simp [quiet] at last
    · simp [quiet] at last
  rcases lane.heard with ⟨frames,rfl,-⟩ | ⟨frames,rfl,-,-⟩
  · simp at heard
  · rw [same,← List.append_assoc]
    simp

end

end MediaServer.SinkDispatcher
