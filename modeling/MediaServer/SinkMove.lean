import MediaServer.SinkDispatcher

/-! What one step of the dispatcher can do, said once. The later files argue by
cases on Move and never unfold the step function again. -/
namespace MediaServer.SinkDispatcher

variable {Frame Sink Worker Id : Type} [DecidableEq Sink] [DecidableEq Worker] [DecidableEq Id]

inductive Move (s : State Frame Sink Worker Id) : State Frame Sink Worker Id → Prop where
  | addOld {x w g group} (idle : s.call = .idle) (unseen : s.home x = none)
      (live : s.expired x = false) (entry : s.sinkGroups.get w = some g)
      (found : s.groups g = some group) :
      Move s {s.setGroup g {group with sinks := group.sinks ++ [x]} with
        home := Function.update s.home x (some g)}
  | addNew {x w g} (idle : s.call = .idle) (unseen : s.home x = none)
      (live : s.expired x = false) (entry : s.sinkGroups.get w = none) (unused : s.groups g = none) :
      Move s {s.setGroup g ⟨w,[x],[],false,false⟩ with
        sinkGroups := s.sinkGroups.set w g, home := Function.update s.home x (some g)}
  | removeStart {x} {order : List (Worker × Id)} (idle : s.call = .idle) (perm : order.Perm s.sinkGroups.entries) :
      Move s (s.goto (.remove x order))
  | removeAt {x w g rest group} (atCall : s.call = .remove x ((w,g) :: rest))
      (found : s.groups g = some group) {sinks : List Sink}
      (kept : sinks = group.sinks.filter fun y => !s.expired y && y != x) :
      Move s {s.setGroup g {group with sinks := sinks} with
        sinkGroups := if sinks.isEmpty then s.sinkGroups.delete w else s.sinkGroups
        call := .remove x rest}
  | removeEnd {x} (atCall : s.call = .remove x []) : Move s (s.goto .idle)
  | publishStart {f} {order : List (Worker × Id)} (idle : s.call = .idle) (perm : order.Perm s.sinkGroups.entries) :
      Move s {s.goto (.publish f (order.map Prod.snd) []) with published := s.published ++ [f]}
  | publishTake {f g rest spilled group} (atCall : s.call = .publish f (g :: rest) spilled)
      (found : s.groups g = some group) (own : group.worker = s.owner) :
      Move s ((s.setGroup g {group with sinks := alive s group}).goto
        (.publishDirect f g (alive s group) rest spilled))
  | publishSkip {f g rest spilled group} (atCall : s.call = .publish f (g :: rest) spilled)
      (found : s.groups g = some group) (other : group.worker ≠ s.owner)
      (ended : group.pendingEnd = true) : Move s (s.goto (.publish f rest spilled))
  | publishQueue {f g rest spilled group} (atCall : s.call = .publish f (g :: rest) spilled)
      (found : s.groups g = some group) (other : group.worker ≠ s.owner)
      (ended : group.pendingEnd = false) (room : group.pending.length < maxPendingFrames) :
      Move s ((s.setGroup g {group with pending := group.pending ++ [f], drainQueued := true}).goto
        (publishNext group.drainQueued g f rest spilled))
  | publishFull {f g rest spilled group} (atCall : s.call = .publish f (g :: rest) spilled)
      (found : s.groups g = some group) (other : group.worker ≠ s.owner)
      (ended : group.pendingEnd = false) (full : maxPendingFrames ≤ group.pending.length) :
      Move s ((s.setGroup g
          {group with pending := [], pendingEnd := true, drainQueued := true}).goto
        (publishNext group.drainQueued g f rest (spilled ++ [g])))
  | publishEnd {f spilled} (atCall : s.call = .publish f [] spilled) :
      Move s {s.goto .idle with sinkGroups := eraseOverflowed s spilled s.sinkGroups}
  | directDone {f g rest spilled} (atCall : s.call = .publishDirect f g [] rest spilled) :
      Move s (s.goto (.publish f rest spilled))
  | directCall {f g x xs rest spilled} (atCall : s.call = .publishDirect f g (x :: xs) rest spilled) :
      Move s ((s.deliver x (.deliver f)).goto (.publishDirect f g xs rest spilled))
  | publishPost {g f rest spilled group} (atCall : s.call = .publishPost g f rest spilled)
      (found : s.groups g = some group) :
      Move s ((s.post group.worker g).goto (.publish f rest spilled))
  | endStart {order : List (Worker × Id)} (idle : s.call = .idle) (perm : order.Perm s.sinkGroups.entries) :
      Move s {s.goto (.ending order) with sinkGroups := ∅}
  | endFinish (atCall : s.call = .ending []) : Move s (s.goto .idle)
  | endTake {w g rest group} (atCall : s.call = .ending ((w,g) :: rest))
      (found : s.groups g = some group) (own : w = s.owner) :
      Move s ((s.setGroup g {group with sinks := alive s group}).goto
        (.endDirect g (alive s group) rest))
  | endMark {w g rest group} (atCall : s.call = .ending ((w,g) :: rest))
      (found : s.groups g = some group) (other : w ≠ s.owner) :
      Move s ((s.setGroup g {group with pendingEnd := true, drainQueued := true}).goto
        (endNext group.drainQueued g rest))
  | endDirectDone {g rest} (atCall : s.call = .endDirect g [] rest) : Move s (s.goto (.ending rest))
  | endDirectCall {g x xs rest} (atCall : s.call = .endDirect g (x :: xs) rest) :
      Move s ((s.deliver x .onEnd).goto (.endDirect g xs rest))
  | endPost {g rest group} (atCall : s.call = .endPost g rest) (found : s.groups g = some group) :
      Move s ((s.post group.worker g).goto (.ending rest))
  | start {w g rest} (free : s.running w = none) (posted : s.queue w = g :: rest) :
      Move s {s.runs w (some (g,.loop)) with queue := Function.update s.queue w rest}
  | drainFrame {w g f rest group} (atRun : s.running w = some (g,.loop))
      (found : s.groups g = some group) (some : group.pending = f :: rest) :
      Move s ((s.setGroup g {group with pending := rest}).runs w
        (Option.some (g,.snapshot (Option.some f))))
  | drainLast {w g group} (atRun : s.running w = some (g,.loop)) (found : s.groups g = some group)
      (none : group.pending = []) (ended : group.pendingEnd = true) :
      Move s ((s.setGroup g {group with pendingEnd := false, drainQueued := false}).runs w
        (some (g,.snapshot Option.none)))
  | drainStop {w g group} (atRun : s.running w = some (g,.loop)) (found : s.groups g = some group)
      (none : group.pending = []) (ended : group.pendingEnd = false) :
      Move s ((s.setGroup g {group with drainQueued := false}).runs w Option.none)
  | drainSnapshot {w g frame group} (atRun : s.running w = some (g,.snapshot frame))
      (found : s.groups g = some group) :
      Move s ((s.setGroup g {group with sinks := alive s group}).runs w
        (some (g,.callbacks frame (alive s group))))
  | drainCall {w g frame x xs} (atRun : s.running w = some (g,.callbacks frame (x :: xs))) :
      Move s ((s.deliver x (callback frame)).runs w (some (g,.callbacks frame xs)))
  | drainEnded {w g} (atRun : s.running w = some (g,.callbacks none [])) : Move s (s.runs w none)
  | drainRepost {w g f group} (atRun : s.running w = some (g,.callbacks (some f) []))
      (found : s.groups g = some group) : Move s ((s.post group.worker g).runs w none)
  | drainAgain {w g f} (atRun : s.running w = some (g,.callbacks (some f) [])) :
      Move s (s.runs w (some (g,.loop)))
  | expire {x} : Move s {s with expired := Function.update s.expired x true}

variable {s t : State Frame Sink Worker Id}

theorem ownerMove (ok : ownerStep s = some t) : Move s t := by
  unfold ownerStep at ok
  split at ok
  · contradiction
  · cases Option.some.inj ok; exact .removeEnd ‹_›
  · obtain ⟨group,found,same⟩ := Option.map_eq_some_iff.mp ok
    subst t; exact .removeAt ‹_› found rfl
  · cases Option.some.inj ok; exact .publishEnd ‹_›
  · obtain ⟨group,found,same⟩ := Option.map_eq_some_iff.mp ok
    subst t
    split
    · exact .publishTake ‹_› found ‹_›
    · split
      · exact .publishSkip ‹_› found ‹_› ‹_›
      · by_cases full : maxPendingFrames ≤ group.pending.length
        · simp only [full,if_true]
          exact .publishFull ‹_› found ‹_› (by simpa using ‹¬ group.pendingEnd = true›) full
        · simp only [full,if_false]
          exact .publishQueue ‹_› found ‹_› (by simpa using ‹¬ group.pendingEnd = true›) (by omega)
  · cases Option.some.inj ok; exact .directDone ‹_›
  · cases Option.some.inj ok; exact .directCall ‹_›
  · obtain ⟨group,found,same⟩ := Option.map_eq_some_iff.mp ok
    subst t; exact .publishPost ‹_› found
  · cases Option.some.inj ok; exact .endFinish ‹_›
  · obtain ⟨group,found,same⟩ := Option.map_eq_some_iff.mp ok
    subst t
    split
    · exact .endTake ‹_› found ‹_›
    · exact .endMark ‹_› found ‹_›
  · cases Option.some.inj ok; exact .endDirectDone ‹_›
  · cases Option.some.inj ok; exact .endDirectCall ‹_›
  · obtain ⟨group,found,same⟩ := Option.map_eq_some_iff.mp ok
    subst t; exact .endPost ‹_› found

theorem drainMove {w late} (ok : drainStep s w late = some t) : Move s t := by
  unfold drainStep at ok
  split at ok
  · contradiction
  · obtain ⟨group,found,same⟩ := Option.map_eq_some_iff.mp ok
    subst t
    unfold drainTake
    split
    · exact .drainFrame ‹_› found ‹_›
    · split
      · exact .drainLast ‹_› found ‹_› ‹_›
      · exact .drainStop ‹_› found ‹_› (by simpa using ‹¬ group.pendingEnd = true›)
  · obtain ⟨group,found,same⟩ := Option.map_eq_some_iff.mp ok
    subst t; exact .drainSnapshot ‹_› found
  · cases Option.some.inj ok; exact .drainCall ‹_›
  · cases Option.some.inj ok; exact .drainEnded ‹_›
  · split at ok
    · obtain ⟨group,found,same⟩ := Option.map_eq_some_iff.mp ok
      subst t; exact .drainRepost ‹_› found
    · cases Option.some.inj ok; exact .drainAgain ‹_›

theorem addMove {x w g} (idle : s.call = .idle) (ok : add s x w g = some t) : Move s t := by
  unfold add at ok
  split at ok <;> try contradiction
  rename_i fresh
  split at ok
  · obtain ⟨group,found,same⟩ := Option.map_eq_some_iff.mp ok
    subst t; exact .addOld idle fresh.1 fresh.2 ‹_› found
  · split at ok <;> try contradiction
    cases Option.some.inj ok
    exact .addNew idle fresh.1 fresh.2 ‹_› ‹_›

omit [DecidableEq Sink] [DecidableEq Worker] [DecidableEq Id] in
theorem idleOf (h : s.idle) : s.call = .idle := by
  unfold State.idle at h
  split at h
  · assumption
  · contradiction

theorem stepMove {a} (ok : step s a = some t) : Move s t := by
  cases a with
  | add x w g =>
    simp only [step] at ok
    split at ok <;> try contradiction
    rename_i idle
    exact addMove (idleOf idle) ok
  | remove x order =>
    simp only [step] at ok
    split at ok <;> try contradiction
    rename_i ready
    cases Option.some.inj ok
    exact .removeStart (idleOf ready.1) ready.2
  | publish f order =>
    simp only [step] at ok
    split at ok <;> try contradiction
    rename_i ready
    cases Option.some.inj ok
    exact .publishStart (idleOf ready.1) ready.2
  | «end» order =>
    simp only [step] at ok
    split at ok <;> try contradiction
    rename_i ready
    cases Option.some.inj ok
    exact .endStart (idleOf ready.1) ready.2
  | owner => exact ownerMove ok
  | start w =>
    simp only [step] at ok
    split at ok <;> try contradiction
    cases Option.some.inj ok
    exact .start ‹_› ‹_›
  | drain w late => exact drainMove ok
  | expire x =>
    cases Option.some.inj ok
    exact .expire

theorem moveStep (move : Move s t) : ∃ a, step s a = some t := by
  cases move
  case addOld x w g group idle unseen live entry found =>
    exact ⟨.add x w g,by simp [step,State.idle,add,idle,unseen,live,entry,found]⟩
  case addNew x w g idle unseen live entry unused =>
    exact ⟨.add x w g,by simp [step,State.idle,add,idle,unseen,live,entry,unused]⟩
  case removeStart x order idle perm =>
    exact ⟨.remove x order,by simp [step,State.idle,idle,perm]⟩
  case publishStart f order idle perm =>
    exact ⟨.publish f order,by simp [step,State.idle,idle,perm]⟩
  case endStart order idle perm => exact ⟨.end order,by simp [step,State.idle,idle,perm]⟩
  case removeAt atCall found _ kept =>
    exact ⟨.owner,by simp [step,ownerStep,removeFrom,atCall,found,kept]⟩
  case publishTake atCall found own =>
    exact ⟨.owner,by simp [step,ownerStep,publishTo,atCall,found,own]⟩
  case publishSkip atCall found other ended =>
    exact ⟨.owner,by simp [step,ownerStep,publishTo,atCall,found,other,ended]⟩
  case publishQueue atCall found other ended room =>
    exact ⟨.owner,by simp [step,ownerStep,publishTo,atCall,found,other,ended,Nat.not_le.mpr room]⟩
  case publishFull atCall found other ended full =>
    exact ⟨.owner,by simp [step,ownerStep,publishTo,atCall,found,other,ended,full]⟩
  case endTake atCall found own => exact ⟨.owner,by simp [step,ownerStep,endFor,atCall,found,own]⟩
  case endMark atCall found other =>
    exact ⟨.owner,by simp [step,ownerStep,endFor,atCall,found,other]⟩
  case publishPost atCall found | endPost atCall found =>
    exact ⟨.owner,by simp [step,ownerStep,postDrain,atCall,found]⟩
  case removeEnd atCall | publishEnd atCall | directDone atCall | directCall atCall
      | endFinish atCall | endDirectDone atCall | endDirectCall atCall =>
    exact ⟨.owner,by simp [step,ownerStep,atCall]⟩
  case start w g rest free posted => exact ⟨.start w,by simp [step,free,posted]⟩
  case drainFrame w _ _ _ _ atRun found head =>
    exact ⟨.drain w false,by simp [step,drainStep,drainTake,atRun,found,head]⟩
  case drainLast w _ _ atRun found empty ended | drainStop w _ _ atRun found empty ended =>
    exact ⟨.drain w false,by simp [step,drainStep,drainTake,atRun,found,empty,ended]⟩
  case drainSnapshot w _ _ _ atRun found =>
    exact ⟨.drain w false,by simp [step,drainStep,atRun,found]⟩
  case drainCall w _ _ _ _ atRun | drainEnded w _ atRun | drainAgain w _ _ atRun =>
    exact ⟨.drain w false,by simp [step,drainStep,atRun]⟩
  case drainRepost w _ _ _ atRun found =>
    exact ⟨.drain w true,by simp [step,drainStep,atRun,found]⟩
  case expire x => exact ⟨.expire x,rfl⟩

end MediaServer.SinkDispatcher
