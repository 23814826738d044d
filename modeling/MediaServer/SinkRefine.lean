import MediaServer.SinkOrder

/-! The lane of a group in a state of the dispatcher, and that every step of the
dispatcher is a lane step of every group it has. -/
namespace MediaServer.SinkDispatcher

variable {Frame Sink Worker Id : Type} [DecidableEq Sink] [DecidableEq Worker] [DecidableEq Id]

def Drain.stage : Drain Frame Sink → Stage Frame Sink
  | .loop => .quiet
  | .snapshot frame => .popped frame
  | .callbacks frame sinks => .calling frame sinks

def Drain.looping : Drain Frame Sink → Bool
  | .snapshot none | .callbacks none _ => false
  | _ => true

def Call.stage (call : Call Frame Sink Worker Id) (g : Id) : Stage Frame Sink :=
  match call with
  | .publishDirect f h sinks _ _ => if h = g then .calling (some f) sinks else .quiet
  | .endDirect h sinks _ => if h = g then .calling none sinks else .quiet
  | _ => .quiet

def Call.due (call : Call Frame Sink Worker Id) (g : Id) : List Frame :=
  match call with
  | .publish f rest _ | .publishDirect f _ _ rest _ | .publishPost _ f rest _ =>
      if g ∈ rest then [f] else []
  | _ => []

def drainOf (task : Option (Id × Drain Frame Sink)) (g : Id) : Option (Drain Frame Sink) :=
  match task with
  | some (h,d) => if h = g then some d else none
  | none => none

def stageOf (own : Bool) (direct : Stage Frame Sink) (task : Option (Id × Drain Frame Sink))
    (g : Id) : Stage Frame Sink :=
  if own then direct else ((drainOf task g).map Drain.stage).getD .quiet

def tasksOf (posting : Option Id) (queue : List Id) (task : Option (Id × Drain Frame Sink))
    (g : Id) : Nat :=
  (if posting = some g then 1 else 0) + queue.count g +
    (if (drainOf task g).any Drain.looping then 1 else 0)

def phaseOf (ends : Bool) (pairs : List (Worker × Id)) (spilled : List Id) (entry : Option Id)
    (w : Worker) (g : Id) : Phase :=
  if ends then if (w,g) ∈ pairs then .ending else .closed
  else if entry = some g ∧ g ∉ spilled then .opened else .closed

def State.lane (s : State Frame Sink Worker Id) (g : Id) (group : SinkGroup Frame Sink Worker) :
    Lane Frame Sink Worker where
  group := group
  own := group.worker == s.owner
  tasks := tasksOf s.call.posting (s.queue group.worker) (s.running group.worker) g
  stage := stageOf (group.worker == s.owner) (s.call.stage g) (s.running group.worker) g
  due := s.call.due g
  phase := phaseOf s.call.ends s.call.pairs s.call.spilled (s.sinkGroups.get group.worker)
    group.worker g

attribute [simp] Call.pairs Call.spilled Call.ends Call.posting Call.stage Call.due Drain.stage
  Drain.looping drainOf

section
omit [DecidableEq Sink] [DecidableEq Worker]
variable {queued : Bool} {g h : Id} {f : Frame} {rest spilled : List Id} {pairs : List (Worker × Id)}

@[simp] theorem publishNextStage :
    (publishNext queued g f rest spilled : Call Frame Sink Worker Id).stage h = .quiet := by
  cases queued <;> rfl
@[simp] theorem publishNextDue :
    (publishNext queued g f rest spilled : Call Frame Sink Worker Id).due h =
      if h ∈ rest then [f] else [] := by
  cases queued <;> rfl
@[simp] theorem endNextStage :
    (endNext queued g pairs : Call Frame Sink Worker Id).stage h = .quiet := by cases queued <;> rfl
@[simp] theorem endNextDue :
    (endNext queued g pairs : Call Frame Sink Worker Id).due h = [] := by cases queued <;> rfl
end

section
omit [DecidableEq Sink]
variable {queued own : Bool} {posting : Option Id} {queue : List Id} {direct : Stage Frame Sink}
  {task : Option (Id × Drain Frame Sink)} {d : Drain Frame Sink} {g h : Id}

theorem tasksWoken : tasksOf (if queued then none else some g) queue task g =
    if queued then tasksOf none queue task g else tasksOf none queue task g + 1 := by
  cases queued
  · simp only [tasksOf]
    simp
    omega
  · rfl

theorem tasksPosted : tasksOf none (queue ++ [g]) task g = tasksOf (some g) queue task g := by
  simp only [tasksOf]
  simp
  omega

theorem tasksRunning : tasksOf posting queue (some (g,d)) g =
    tasksOf posting queue (none : Option (Id × Drain Frame Sink)) g +
      if d.looping then 1 else 0 := by
  simp only [tasksOf,drainOf,Option.any,if_true]
  rfl

theorem tasksRepost : tasksOf posting (queue ++ [g]) task g = tasksOf posting queue task g + 1 := by
  simp only [tasksOf]
  simp
  omega

theorem tasksStart : tasksOf posting (g :: queue) task g = tasksOf posting queue task g + 1 := by
  simp only [tasksOf]
  simp
  omega

theorem tasksOther {queue' : List Id} {posting' : Option Id} {task' : Option (Id × Drain Frame Sink)}
    (count : queue'.count g = queue.count g) (post : posting' = some g ↔ posting = some g)
    (drain : drainOf task' g = drainOf task g) :
    tasksOf posting' queue' task' g = tasksOf posting queue task g := by
  simp only [tasksOf,count,drain,post]

theorem stageRunning : stageOf false direct (some (g,d)) g = d.stage := by simp [stageOf]

end

def Refined (s t : State Frame Sink Worker Id) (g : Id) (G : SinkGroup Frame Sink Worker) : Prop :=
  ∃ G' label, t.groups g = some G' ∧ LaneStep (s.lane g G) label (t.lane g G') ∧
    t.published = s.published ++ label.frames ∧
    ∀ x, s.home x = some g → t.log x = s.log x ++ label.calls x

section
variable {s t : State Frame Sink Worker Id} {g : Id} {G : SinkGroup Frame Sink Worker}

theorem refinedSilent {G' : SinkGroup Frame Sink Worker} (found : t.groups g = some G')
    (lane : LaneStep (s.lane g G) .silent (t.lane g G'))
    (published : t.published = s.published) (log : t.log = s.log) : Refined s t g G :=
  ⟨G',.silent,found,lane,by simp [published,Label.frames],fun x _ => by simp [log,Label.calls]⟩

theorem refinedKeep (found : t.groups g = some G) (lane : t.lane g G = s.lane g G)
    (published : t.published = s.published) (log : t.log = s.log) : Refined s t g G :=
  refinedSilent found (lane ▸ .keep) published log

variable (o : Orderly s) (found : s.groups g = some G)
include o found

variable {x : Sink} {w : Worker} {h : Id} {group : SinkGroup Frame Sink Worker}
  {rest spilled : List Id} {f : Frame} {call : Call Frame Sink Worker Id}
  {groups : Id → Option (SinkGroup Frame Sink Worker)}

theorem addOldRefined (idle : s.call = .idle) (unseen : s.home x = none)
    (entry : s.sinkGroups.get w = some h) (known : s.groups h = some group) :
    Refined s {s.setGroup h {group with sinks := group.sinks ++ [x]} with
      home := Function.update s.home x (some h)} g G := by
  by_cases this : g = h
  · subst this
    obtain rfl : group = G := Option.some.inj (known.symm.trans found)
    obtain rfl : group.worker = w := by simpa [State.workerOf,found] using o.entry w g entry
    refine refinedSilent (Function.update_self ..) (LaneStep.add (fun mem => ?_) ?_) rfl rfl
    · simp [o.members g group x found mem] at unseen
    · simp [State.lane,phaseOf,idle,entry]
  · exact refinedKeep (by simpa [State.setGroup,this] using found) rfl rfl rfl

omit o in
theorem addNewRefined (entry : s.sinkGroups.get w = none) (unused : s.groups h = none) :
    Refined s {s.setGroup h ⟨w,[x],[],false,false⟩ with
      sinkGroups := s.sinkGroups.set w h, home := Function.update s.home x (some h)} g G := by
  have apart : g ≠ h := by rintro rfl; simp [unused] at found
  refine refinedKeep (by simpa [State.setGroup,apart] using found) ?_ rfl rfl
  by_cases same : G.worker = w
  · simp [State.lane,State.setGroup,phaseOf,same,entry,Ne.symm apart]
  · simp [State.lane,State.setGroup,same]

theorem removeAtRefined {rest : List (Worker × Id)} {sinks : List Sink}
    (atCall : s.call = .remove x ((w,h) :: rest)) (known : s.groups h = some group)
    (kept : sinks = group.sinks.filter fun y => !s.expired y && y != x) :
    Refined s {s.setGroup h {group with sinks := sinks} with
      sinkGroups := if sinks.isEmpty then s.sinkGroups.delete w else s.sinkGroups
      call := .remove x rest} g G := by
  have entry : s.sinkGroups.get w = some h :=
    o.removing (by simp [atCall]) w h (by simp [atCall])
  by_cases this : g = h
  · subst this
    obtain rfl : group = G := Option.some.inj (known.symm.trans found)
    obtain rfl : group.worker = w := by simpa [State.workerOf,found] using o.entry w g entry
    subst kept
    refine refinedSilent (Function.update_self ..) ?_ rfl rfl
    cases empty : (group.sinks.filter fun y => !s.expired y && y != x).isEmpty
    · convert LaneStep.drop (fun y => !s.expired y && y != x) using 1
      simp [State.lane,State.setGroup,stageOf,phaseOf,atCall,entry]
    · convert LaneStep.detach (fun y => !s.expired y && y != x) ?_ ?_ using 1
      all_goals simp [State.lane,State.setGroup,stageOf,phaseOf,atCall,entry]
  · refine refinedKeep (by simpa [State.setGroup,this] using found) ?_ rfl rfl
    have entries : (if sinks.isEmpty then s.sinkGroups.delete w else s.sinkGroups).get G.worker =
        some g ↔ s.sinkGroups.get G.worker = some g := by
      by_cases same : G.worker = w
      · split <;> simp [same,entry,Ne.symm this]
      · split <;> simp [same]
    simp only [State.lane,State.setGroup,phaseOf,atCall,entries]
    simp

variable {order : List (Worker × Id)} {xs : List Sink} {d : Drain Frame Sink} {frame : Option Frame}

theorem publishStartRefined (idle : s.call = .idle) (perm : order.Perm s.sinkGroups.entries) :
    Refined s {s.goto (.publish f (order.map Prod.snd) []) with
      published := s.published ++ [f]} g G := by
  have visited : g ∈ order.map Prod.snd ↔ s.sinkGroups.get G.worker = some g := by
    constructor
    · intro mem
      obtain ⟨⟨w,_⟩,mem',rfl⟩ := List.mem_map.mp mem
      have entry := Table.memEntries.mp (perm.mem_iff.mp mem')
      obtain rfl : G.worker = w := by simpa [State.workerOf,found] using o.entry w _ entry
      exact entry
    · exact fun entry => List.mem_map.mpr ⟨_,perm.mem_iff.mpr (Table.memEntries.mpr entry),rfl⟩
  refine ⟨G,.publish f,found,?_,rfl,fun x _ => by simp [State.goto,Label.calls]⟩
  by_cases entry : s.sinkGroups.get G.worker = some g
  · convert LaneStep.publish ?_ ?_ using 1
    all_goals simp [State.lane,State.goto,stageOf,phaseOf,idle,entry,visited]
  · convert LaneStep.pass ?_ using 1
    all_goals simp [State.lane,State.goto,stageOf,phaseOf,idle,entry,visited]

omit [DecidableEq Sink] [DecidableEq Id] found in
theorem visitedOnce (atCall : s.call = .publish f (g :: rest) spilled) :
    g ∉ rest := fun mem => (List.nodup_cons.mp (atCall ▸ o.visits)).1 (List.mem_append_left _ mem)

omit o in
theorem publishOtherRefined (atCall : s.call = .publish f (h :: rest) spilled) (other : g ≠ h)
    (same : groups g = s.groups g) (posting : call.posting ≠ some g) (stage : call.stage g = .quiet)
    (due : call.due g = if g ∈ rest then [f] else []) (ends : call.ends = false)
    (overs : g ∈ call.spilled ↔ g ∈ spilled) :
    Refined s {s with groups := groups, call := call} g G := by
  refine refinedKeep (same.trans found) ?_ rfl rfl
  simp only [State.lane,phaseOf,tasksOf,stage,due,ends,overs,posting]
  simp [atCall,other]

theorem publishTakeRefined (atCall : s.call = .publish f (h :: rest) spilled)
    (known : s.groups h = some group) (own : group.worker = s.owner) :
    Refined s ((s.setGroup h {group with sinks := alive s group}).goto
      (.publishDirect f h (alive s group) rest spilled)) g G := by
  by_cases this : g = h
  · subst this
    obtain rfl : group = G := Option.some.inj (known.symm.trans found)
    refine refinedSilent (Function.update_self ..) ?_ rfl rfl
    convert LaneStep.take (f := f) (fun x => !s.expired x) ?_ ?_ ?_ using 1
    all_goals simp [State.lane,State.setGroup,State.goto,stageOf,phaseOf,alive,atCall,own,
      visitedOnce o atCall]
  · refine publishOtherRefined found atCall this (by simp [State.setGroup,this]) ?_ ?_ ?_ ?_ ?_
    all_goals simp [Ne.symm this]

theorem publishSkipRefined (atCall : s.call = .publish f (h :: rest) spilled)
    (known : s.groups h = some group) (ended : group.pendingEnd = true) :
    Refined s (s.goto (.publish f rest spilled)) g G := by
  by_cases this : g = h
  · subst this
    obtain rfl : group = G := Option.some.inj (known.symm.trans found)
    refine refinedSilent found ?_ rfl rfl
    convert LaneStep.skip (f := f) ?_ ?_ using 1
    all_goals simp [State.lane,State.goto,atCall,ended,visitedOnce o atCall]
  · exact publishOtherRefined found atCall this rfl (by simp) (by simp) (by simp) (by simp) (by simp)

theorem publishQueueRefined (atCall : s.call = .publish f (h :: rest) spilled)
    (known : s.groups h = some group) (other : group.worker ≠ s.owner)
    (ended : group.pendingEnd = false) (room : group.pending.length < maxPendingFrames) :
    Refined s ((s.setGroup h {group with pending := group.pending ++ [f], drainQueued := true}).goto
      (publishNext group.drainQueued h f rest spilled)) g G := by
  by_cases this : g = h
  · subst this
    obtain rfl : group = G := Option.some.inj (known.symm.trans found)
    refine refinedSilent (Function.update_self ..) ?_ rfl rfl
    convert LaneStep.queue (f := f) ?_ ?_ ?_ ?_ using 1
    · simp only [State.lane,State.setGroup,State.goto,Lane.woken,publishNextPosting,tasksWoken,
        publishNextStage,publishNextDue,publishNextEnds,publishNextPairs,publishNextSpilled,atCall]
      simp [visitedOnce o atCall]
    all_goals simp [State.lane,atCall,other,ended,room]
  · refine publishOtherRefined found atCall this (by simp [State.setGroup,this]) ?_ ?_ ?_ ?_ ?_
    all_goals simp only [publishNextPosting,publishNextStage,publishNextDue,publishNextEnds,
      publishNextSpilled]
    split <;> simp [Ne.symm this]

theorem publishFullRefined (atCall : s.call = .publish f (h :: rest) spilled)
    (known : s.groups h = some group) (other : group.worker ≠ s.owner)
    (ended : group.pendingEnd = false) (full : maxPendingFrames ≤ group.pending.length) :
    Refined s ((s.setGroup h
        {group with pending := [], pendingEnd := true, drainQueued := true}).goto
      (publishNext group.drainQueued h f rest (spilled ++ [h]))) g G := by
  by_cases this : g = h
  · subst this
    obtain rfl : group = G := Option.some.inj (known.symm.trans found)
    refine refinedSilent (Function.update_self ..) ?_ rfl rfl
    convert LaneStep.full (f := f) ?_ ?_ ?_ ?_ using 1
    · simp only [State.lane,State.setGroup,State.goto,Lane.woken,publishNextPosting,tasksWoken,
        publishNextStage,publishNextDue,publishNextEnds,publishNextPairs,publishNextSpilled,phaseOf,atCall]
      simp [visitedOnce o atCall]
    all_goals simp [State.lane,atCall,other,ended,full]
  · refine publishOtherRefined found atCall this (by simp [State.setGroup,this]) ?_ ?_ ?_ ?_ ?_
    all_goals simp only [publishNextPosting,publishNextStage,publishNextDue,publishNextEnds,
      publishNextSpilled]
    · split <;> simp [Ne.symm this]
    · simp [this]

omit o in
theorem publishEndRefined (atCall : s.call = .publish f [] spilled) :
    Refined s {s.goto .idle with sinkGroups := eraseOverflowed s spilled s.sinkGroups} g G := by
  refine refinedKeep found ?_ rfl rfl
  have worker : s.workerOf g = some G.worker := by simp [State.workerOf,found]
  by_cases opened : s.sinkGroups.get G.worker = some g ∧ g ∉ spilled
  · simp [State.lane,State.goto,phaseOf,eraseOverflowedGet,worker,atCall,opened]
  · simp [State.lane,State.goto,phaseOf,eraseOverflowedGet,worker,atCall,opened]

omit o in
theorem endStartRefined (idle : s.call = .idle) (perm : order.Perm s.sinkGroups.entries) :
    Refined s {s.goto (.ending order) with sinkGroups := ∅} g G := by
  have visited : (G.worker,g) ∈ order ↔ s.sinkGroups.get G.worker = some g :=
    perm.mem_iff.trans Table.memEntries
  by_cases entry : s.sinkGroups.get G.worker = some g
  · refine refinedSilent found ?_ rfl rfl
    convert LaneStep.swap ?_ ?_ using 1
    all_goals simp [State.lane,State.goto,phaseOf,idle,entry,visited]
  · refine refinedKeep found ?_ rfl rfl
    simp [State.lane,State.goto,phaseOf,idle,entry,visited]

omit [DecidableEq Sink] [DecidableEq Id] found in
theorem endedOnce {rest : List (Worker × Id)} (atCall : s.call = .ending ((w,h) :: rest)) :
    (w,h) ∉ rest := fun mem =>
  (List.nodup_cons.mp (atCall ▸ o.keys)).1 (List.mem_map.mpr ⟨(w,h),mem,rfl⟩)

omit o in
theorem endOtherRefined {rest : List (Worker × Id)} (atCall : s.call = .ending ((w,h) :: rest))
    (other : g ≠ h) (same : groups g = s.groups g) (posting : call.posting ≠ some g)
    (stage : call.stage g = .quiet) (due : call.due g = []) (ends : call.ends = true)
    (pairs : call.pairs = rest) : Refined s {s with groups := groups, call := call} g G := by
  refine refinedKeep (same.trans found) ?_ rfl rfl
  simp only [State.lane,phaseOf,tasksOf,stage,due,ends,pairs,posting]
  simp [atCall,other]

theorem endTakeRefined {rest : List (Worker × Id)} (atCall : s.call = .ending ((w,h) :: rest))
    (known : s.groups h = some group) (own : w = s.owner) :
    Refined s ((s.setGroup h {group with sinks := alive s group}).goto
      (.endDirect h (alive s group) rest)) g G := by
  by_cases this : g = h
  · subst this
    obtain rfl : group = G := Option.some.inj (known.symm.trans found)
    obtain rfl : group.worker = w := by
      simpa [State.workerOf,found] using o.pair w g (by simp [atCall])
    refine refinedSilent (Function.update_self ..) ?_ rfl rfl
    convert LaneStep.endTake (fun x => !s.expired x) ?_ ?_ ?_ using 1
    all_goals simp [State.lane,State.setGroup,State.goto,stageOf,phaseOf,alive,atCall,own]
    exact own ▸ endedOnce o atCall
  · refine endOtherRefined found atCall this (by simp [State.setGroup,this]) ?_ ?_ ?_ ?_ ?_
    all_goals simp [Ne.symm this]

theorem endMarkRefined {rest : List (Worker × Id)} (atCall : s.call = .ending ((w,h) :: rest))
    (known : s.groups h = some group) (other : w ≠ s.owner) :
    Refined s ((s.setGroup h {group with pendingEnd := true, drainQueued := true}).goto
      (endNext group.drainQueued h rest)) g G := by
  by_cases this : g = h
  · subst this
    obtain rfl : group = G := Option.some.inj (known.symm.trans found)
    obtain rfl : group.worker = w := by
      simpa [State.workerOf,found] using o.pair w g (by simp [atCall])
    refine refinedSilent (Function.update_self ..) ?_ rfl rfl
    convert LaneStep.endMark ?_ ?_ using 1
    · simp only [State.lane,State.setGroup,State.goto,Lane.woken,endNextPosting,tasksWoken,
        endNextStage,endNextDue,endNextEnds,endNextPairs,endNextSpilled,phaseOf,atCall]
      simp [endedOnce o atCall]
    all_goals simp [State.lane,phaseOf,atCall,other]
  · refine endOtherRefined found atCall this (by simp [State.setGroup,this]) ?_ ?_ ?_ ?_ ?_
    all_goals simp only [endNextPosting,endNextStage,endNextDue,endNextEnds,endNextPairs]
    split <;> simp [Ne.symm this]

theorem directCallRefined {f : Option Frame} (atCall : s.call.direct = some (h,x :: xs))
    (before : ∀ k, s.call.stage k = if h = k then .calling f (x :: xs) else .quiet)
    (after : ∀ k, call.stage k = if h = k then .calling f xs else .quiet)
    (posting : call.posting = s.call.posting) (due : call.due g = s.call.due g)
    (ends : call.ends = s.call.ends) (pairs : call.pairs = s.call.pairs)
    (spilled : call.spilled = s.call.spilled) :
    Refined s ((s.deliver x (callback f)).goto call) g G := by
  have home := o.directs h _ x atCall List.mem_cons_self
  by_cases this : g = h
  · subst this
    have own : G.worker = s.owner := by simpa [State.workerOf,found] using o.direct g _ atCall
    refine ⟨G,.call x (callback f),found,?_,by simp [State.goto,State.deliver,Label.frames],?_⟩
    · convert LaneStep.call (l := xs) ?_ using 1
      · simp only [State.lane,State.goto,State.deliver,after,posting,due,ends,pairs,spilled]
        simp [stageOf,own]
      · simp only [State.lane,before]
        simp [stageOf,own]
    · intro y _
      by_cases same : y = x
      · simp [State.goto,State.deliver,Label.calls,same]
      · simp [State.goto,State.deliver,Label.calls,same,Ne.symm same]
  · refine ⟨G,.silent,found,?_,by simp [State.goto,State.deliver,Label.frames],?_⟩
    · convert LaneStep.keep using 1
      simp only [State.lane,State.goto,State.deliver,after,before,posting,due,ends,pairs,spilled]
      simp [Ne.symm this]
    · intro y homeY
      have apart : y ≠ x := by
        rintro rfl
        exact this (Option.some.inj (homeY.symm.trans home))
      simp [State.goto,State.deliver,Label.calls,apart]

theorem directDoneRefined {f : Option Frame} (atCall : s.call.direct = some (h,[]))
    (before : ∀ k, s.call.stage k = if h = k then .calling f [] else .quiet)
    (after : call.stage g = .quiet) (posting : call.posting = s.call.posting)
    (due : call.due g = s.call.due g) (ends : call.ends = s.call.ends)
    (pairs : call.pairs = s.call.pairs) (spilled : call.spilled = s.call.spilled) :
    Refined s (s.goto call) g G := by
  by_cases this : g = h
  · subst this
    have own : G.worker = s.owner := by simpa [State.workerOf,found] using o.direct g _ atCall
    refine refinedSilent found ?_ rfl rfl
    convert LaneStep.finish (f := f) ?_ using 1
    · simp only [State.lane,State.goto,after,posting,due,ends,pairs,spilled]
      simp [stageOf,own]
    · simp only [State.lane,before]
      simp [stageOf,own]
  · refine refinedKeep found ?_ rfl rfl
    simp only [State.lane,State.goto,after,before,posting,due,ends,pairs,spilled]
    simp [Ne.symm this]

omit o in
theorem drainOtherRefined {task : Option (Id × Drain Frame Sink)} {queue : Worker → List Id}
    {log : Sink → List (Callback Frame)} (atRun : s.running w = some (h,d)) (other : g ≠ h)
    (same : groups g = s.groups g) (count : ∀ w, (queue w).count g = (s.queue w).count g)
    (next : drainOf task g = none) (heard : ∀ x, s.home x = some g → log x = s.log x) :
    Refined s {s with groups := groups, queue := queue, log := log
                      running := Function.update s.running w task} g G := by
  refine ⟨G,.silent,same.trans found,?_,by simp [Label.frames],fun x home => by
    simp [Label.calls,heard x home]⟩
  convert LaneStep.keep using 1
  have drain : drainOf (Function.update s.running w task G.worker) g =
      drainOf (s.running G.worker) g := by
    by_cases this : G.worker = w
    · simp only [this,Function.update_self,next,atRun]
      simp [Ne.symm other]
    · rw [Function.update_of_ne this]
  simp only [State.lane,tasksOf,stageOf,drain,count]

omit [DecidableEq Sink] [DecidableEq Id] in
theorem runWorker (atRun : s.running w = some (g,d)) :
    G.worker = w ∧ (G.worker == s.owner) = false := by
  obtain ⟨worker,other⟩ := o.runs w g d atRun
  have same : G.worker = w := by simpa [State.workerOf,found] using worker
  exact ⟨same,by simpa [same] using other⟩

theorem drainRefined {group' : SinkGroup Frame Sink Worker} {task : Option (Id × Drain Frame Sink)}
    (atRun : s.running w = some (h,d)) (known : s.groups h = some group)
    (next : ∀ k, k ≠ h → drainOf task k = none)
    (lane : group.worker = w → (group.worker == s.owner) = false →
      LaneStep (s.lane h group) .silent (((s.setGroup h group').runs w task).lane h group')) :
    Refined s ((s.setGroup h group').runs w task) g G := by
  by_cases this : g = h
  · subst this
    obtain rfl : group = G := Option.some.inj (known.symm.trans found)
    obtain ⟨own,other⟩ := runWorker o found atRun
    exact refinedSilent (Function.update_self ..) (lane own other) rfl rfl
  · exact drainOtherRefined found atRun this (by simp [State.setGroup,this]) (fun _ => rfl)
      (next g this) fun _ _ => rfl

theorem drainFrameRefined {rest : List Frame} (atRun : s.running w = some (h,.loop))
    (known : s.groups h = some group) (head : group.pending = f :: rest) :
    Refined s ((s.setGroup h {group with pending := rest}).runs w
      (some (h,.snapshot (some f)))) g G := by
  refine drainRefined o found atRun known (fun k apart => by simp [Ne.symm apart]) ?_
  rintro rfl other
  convert LaneStep.pop (f := f) (l := rest) ?_ ?_ ?_ using 1
  all_goals simp [State.lane,State.setGroup,State.runs,atRun,head,other,tasksRunning,stageRunning]

theorem drainLastRefined (atRun : s.running w = some (h,.loop)) (known : s.groups h = some group)
    (empty : group.pending = []) (ended : group.pendingEnd = true) :
    Refined s ((s.setGroup h {group with pendingEnd := false, drainQueued := false}).runs w
      (some (h,.snapshot none))) g G := by
  refine drainRefined o found atRun known (fun k apart => by simp [Ne.symm apart]) ?_
  rintro rfl other
  convert LaneStep.last ?_ ?_ ?_ ?_ using 1
  all_goals simp [State.lane,State.setGroup,State.runs,atRun,empty,ended,other,tasksRunning,
    stageRunning]

theorem drainStopRefined (atRun : s.running w = some (h,.loop)) (known : s.groups h = some group)
    (empty : group.pending = []) (ended : group.pendingEnd = false) :
    Refined s ((s.setGroup h {group with drainQueued := false}).runs w none) g G := by
  refine drainRefined o found atRun known (fun _ _ => rfl) ?_
  rintro rfl other
  convert LaneStep.stop ?_ ?_ ?_ ?_ using 1
  all_goals simp [State.lane,State.setGroup,State.runs,atRun,empty,ended,other,tasksRunning,
    stageOf]

theorem drainSnapshotRefined (atRun : s.running w = some (h,.snapshot frame))
    (known : s.groups h = some group) :
    Refined s ((s.setGroup h {group with sinks := alive s group}).runs w
      (some (h,.callbacks frame (alive s group)))) g G := by
  refine drainRefined o found atRun known (fun k apart => by simp [Ne.symm apart]) ?_
  rintro rfl other
  convert LaneStep.snapshot (f := frame) (fun x => !s.expired x) ?_ using 1
  · cases frame <;> simp [State.lane,State.setGroup,State.runs,alive,atRun,other,tasksRunning,
      stageRunning]
  · simp [State.lane,atRun,other,stageRunning]

theorem drainCallRefined (atRun : s.running w = some (h,.callbacks frame (x :: xs))) :
    Refined s ((s.deliver x (callback frame)).runs w (some (h,.callbacks frame xs))) g G := by
  by_cases this : g = h
  · subst this
    obtain ⟨rfl,other⟩ := runWorker o found atRun
    refine ⟨G,.call x (callback frame),found,?_,by simp [State.runs,State.deliver,Label.frames],?_⟩
    · convert LaneStep.call (l := xs) ?_ using 1
      · cases frame <;> simp [State.lane,State.runs,State.deliver,atRun,other,tasksRunning,stageRunning]
      · simp [State.lane,atRun,other,stageRunning]
    · intro y _
      by_cases same : y = x
      · simp [State.runs,State.deliver,Label.calls,same]
      · simp [State.runs,State.deliver,Label.calls,same,Ne.symm same]
  · refine drainOtherRefined found atRun this rfl (fun _ => rfl) (by simp [Ne.symm this]) ?_
    intro y homeY
    have apart : y ≠ x := by
      rintro rfl
      have home := o.called w h _ y atRun List.mem_cons_self
      exact this (Option.some.inj (homeY.symm.trans home))
    simp [State.deliver,apart]

theorem drainEndedRefined (atRun : s.running w = some (h,.callbacks none [])) :
    Refined s (s.runs w none) g G := by
  by_cases this : g = h
  · subst this
    obtain ⟨rfl,other⟩ := runWorker o found atRun
    refine refinedSilent found ?_ rfl rfl
    convert LaneStep.finish (f := none) ?_ using 1
    all_goals simp [State.lane,State.runs,atRun,other,tasksRunning,stageOf]
  · exact drainOtherRefined found atRun this rfl (fun _ => rfl) rfl fun _ _ => rfl

theorem drainAgainRefined (atRun : s.running w = some (h,.callbacks (some f) [])) :
    Refined s (s.runs w (some (h,.loop))) g G := by
  by_cases this : g = h
  · subst this
    obtain ⟨rfl,other⟩ := runWorker o found atRun
    refine refinedSilent found ?_ rfl rfl
    convert LaneStep.finish (f := some f) ?_ using 1
    all_goals simp [State.lane,State.runs,atRun,other,tasksRunning,stageRunning]
  · exact drainOtherRefined found atRun this rfl (fun _ => rfl) (by simp [Ne.symm this]) fun _ _ => rfl

omit [DecidableEq Sink] o found in
theorem postCount {w' : Worker} (other : g ≠ h) :
    (Function.update s.queue w (s.queue w ++ [h]) w').count g = (s.queue w').count g := by
  by_cases this : w' = w
  · simp [this,Ne.symm other]
  · simp [this]

theorem drainRepostRefined (atRun : s.running w = some (h,.callbacks (some f) []))
    (known : s.groups h = some group) : Refined s ((s.post group.worker h).runs w none) g G := by
  by_cases this : g = h
  · subst this
    obtain rfl : group = G := Option.some.inj (known.symm.trans found)
    obtain ⟨rfl,other⟩ := runWorker o found atRun
    refine refinedSilent found ?_ rfl rfl
    convert LaneStep.finish (f := some f) ?_ using 1
    all_goals simp [State.lane,State.runs,State.post,atRun,other,tasksRunning,tasksRepost,
      stageOf]
  · exact drainOtherRefined found atRun this rfl (fun _ => postCount this) rfl fun _ _ => rfl

theorem startRefined (free : s.running w = none) (posted : s.queue w = h :: rest) :
    Refined s {s.runs w (some (h,.loop)) with queue := Function.update s.queue w rest} g G := by
  refine refinedKeep found ?_ rfl rfl
  by_cases same : G.worker = w
  · subst same
    have other : (G.worker == s.owner) = false := by
      simpa using (o.queued G.worker h (by simp [posted])).2
    by_cases this : g = h
    · subst this
      simp [State.lane,State.runs,free,posted,other,tasksRunning,tasksStart,stageOf]
    · have tasks : tasksOf s.call.posting rest (some (h,(.loop : Drain Frame Sink))) g =
          tasksOf s.call.posting (h :: rest) (none : Option (Id × Drain Frame Sink)) g :=
        tasksOther (by simp [Ne.symm this]) Iff.rfl (by simp [Ne.symm this])
      simp [State.lane,State.runs,stageOf,free,posted,other,tasks,Ne.symm this,-Call.posting]
  · simp [State.lane,State.runs,same]

omit o in
theorem postRefined (atCall : s.call.posting = some h) (known : s.groups h = some group)
    (posting : call.posting = none) (stage : call.stage g = s.call.stage g)
    (due : call.due g = s.call.due g) (ends : call.ends = s.call.ends)
    (pairs : call.pairs = s.call.pairs) (spilled : call.spilled = s.call.spilled) :
    Refined s ((s.post group.worker h).goto call) g G := by
  refine refinedKeep found ?_ rfl rfl
  by_cases this : g = h
  · subst this
    obtain rfl : group = G := Option.some.inj (known.symm.trans found)
    simp only [State.lane,State.post,State.goto,Function.update_self,atCall,posting,stage,due,ends,
      pairs,spilled,tasksPosted]
  · have tasks : tasksOf none (Function.update s.queue group.worker (s.queue group.worker ++ [h])
        G.worker) (s.running G.worker) g =
          tasksOf (some h) (s.queue G.worker) (s.running G.worker) g :=
      tasksOther (postCount this) (by simp [Ne.symm this]) rfl
    simp only [State.lane,State.post,State.goto,atCall,posting,stage,due,ends,pairs,spilled,tasks]

theorem moveRefined (move : Move s t) : Refined s t g G := by
  cases move
  case addOld idle unseen _ entry known => exact addOldRefined o found idle unseen entry known
  case addNew _ _ _ entry unused => exact addNewRefined found entry unused
  case removeAt atCall known _ kept => exact removeAtRefined o found atCall known kept
  case publishStart idle perm => exact publishStartRefined o found idle perm
  case publishTake atCall known own => exact publishTakeRefined o found atCall known own
  case publishSkip atCall known _ ended => exact publishSkipRefined o found atCall known ended
  case publishQueue atCall known other ended room =>
    exact publishQueueRefined o found atCall known other ended room
  case publishFull atCall known other ended full =>
    exact publishFullRefined o found atCall known other ended full
  case publishEnd atCall => exact publishEndRefined found atCall
  case directCall atCall =>
    apply directCallRefined (f := some _) o found (by rw [atCall]; rfl)
    all_goals simp [atCall]
  case publishPost atCall known =>
    apply postRefined found (by rw [atCall]; rfl) known
    all_goals simp [atCall]
  case endStart idle perm => exact endStartRefined found idle perm
  case endTake atCall known own => exact endTakeRefined o found atCall known own
  case endMark atCall known other => exact endMarkRefined o found atCall known other
  case endDirectCall atCall =>
    apply directCallRefined (f := none) o found (by rw [atCall]; rfl)
    all_goals simp [atCall]
  case endPost atCall known =>
    apply postRefined found (by rw [atCall]; rfl) known
    all_goals simp [atCall]
  case start free posted => exact startRefined o found free posted
  case drainFrame atRun known head => exact drainFrameRefined o found atRun known head
  case drainLast atRun known empty ended => exact drainLastRefined o found atRun known empty ended
  case drainStop atRun known empty ended => exact drainStopRefined o found atRun known empty ended
  case drainSnapshot atRun known => exact drainSnapshotRefined o found atRun known
  case drainCall atRun => exact drainCallRefined o found atRun
  case drainEnded atRun => exact drainEndedRefined o found atRun
  case drainRepost atRun known => exact drainRepostRefined o found atRun known
  case drainAgain atRun => exact drainAgainRefined o found atRun
  case expire => exact refinedKeep found rfl rfl rfl
  case directDone f _ _ _ atCall =>
    apply directDoneRefined (f := some f) o found (by rw [atCall]; rfl)
    all_goals simp [atCall]
  case endDirectDone atCall =>
    apply directDoneRefined (f := none) o found (by rw [atCall]; rfl)
    all_goals simp [atCall]
  case endFinish atCall =>
    refine refinedKeep found ?_ rfl rfl
    simp [State.lane,State.goto,phaseOf,atCall,o.ended (by simp [atCall])]
  case removeStart atCall _ | removeEnd atCall =>
    refine refinedKeep found ?_ rfl rfl
    simp [State.lane,State.goto,phaseOf,atCall]

end

end MediaServer.SinkDispatcher
