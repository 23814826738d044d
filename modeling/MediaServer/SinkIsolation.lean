import MediaServer.SinkOverflow

/-! One group taken out of a run. Erasing a group and every step that only it takes
part in leaves a run of the dispatcher, so the other groups cannot tell whether the
erased one was ever there. -/
namespace MediaServer.SinkDispatcher

variable {Frame Sink Worker Id : Type} [DecidableEq Sink] [DecidableEq Worker] [DecidableEq Id]

def Call.without (g : Id) : Call Frame Sink Worker Id → Call Frame Sink Worker Id
  | .idle => .idle
  | .remove x rest => .remove x (rest.filter (·.2 ≠ g))
  | .publish f rest spilled => .publish f (rest.filter (· ≠ g)) (spilled.filter (· ≠ g))
  | .publishDirect f h sinks rest spilled =>
      if h = g then .publish f (rest.filter (· ≠ g)) (spilled.filter (· ≠ g))
      else .publishDirect f h sinks (rest.filter (· ≠ g)) (spilled.filter (· ≠ g))
  | .publishPost h f rest spilled =>
      if h = g then .publish f (rest.filter (· ≠ g)) (spilled.filter (· ≠ g))
      else .publishPost h f (rest.filter (· ≠ g)) (spilled.filter (· ≠ g))
  | .ending rest => .ending (rest.filter (·.2 ≠ g))
  | .endDirect h sinks rest =>
      if h = g then .ending (rest.filter (·.2 ≠ g)) else .endDirect h sinks (rest.filter (·.2 ≠ g))
  | .endPost h rest =>
      if h = g then .ending (rest.filter (·.2 ≠ g)) else .endPost h (rest.filter (·.2 ≠ g))

structure Erased (g : Id) (s t : State Frame Sink Worker Id) : Prop where
  owner : t.owner = s.owner
  groups : ∀ h, h ≠ g → t.groups h = s.groups h
  gone : t.groups g = none
  table : ∀ w, t.sinkGroups.get w = (s.sinkGroups.get w).filter (· ≠ g)
  call : t.call = s.call.without g
  queue : ∀ w, t.queue w = (s.queue w).filter (· ≠ g)
  running : ∀ w, t.running w = (s.running w).filter (·.1 ≠ g)
  expired : t.expired = s.expired
  home : ∀ x, t.home x = (s.home x).filter (· ≠ g)
  published : t.published = s.published
  log : ∀ x, s.home x ≠ some g → t.log x = s.log x

section
variable {g h : Id} {s s' t : State Frame Sink Worker Id} {group : SinkGroup Frame Sink Worker}
  {x : Sink} {w : Worker}

def Follows (g : Id) (t s' : State Frame Sink Worker Id) : Prop :=
  ∃ t', (t' = t ∨ Move t t') ∧ Erased g s' t'

theorem Erased.still (e : Erased g s' t) : Follows g t s' := ⟨t,.inl rfl,e⟩

section
omit [DecidableEq Sink]

variable {queued : Bool} {call : Call Frame Sink Worker Id} {task : Option (Id × Drain Frame Sink)}

omit [DecidableEq Worker] in
theorem publishNextWithout {f : Frame} {rest spilled : List Id} :
    (publishNext queued h f rest spilled : Call Frame Sink Worker Id).without g =
      if h = g then .publish f (rest.filter (· ≠ g)) (spilled.filter (· ≠ g))
      else publishNext queued h f (rest.filter (· ≠ g)) (spilled.filter (· ≠ g)) := by
  cases queued <;> simp [publishNext,Call.without]

omit [DecidableEq Worker] in
theorem endNextWithout {rest : List (Worker × Id)} :
    (endNext queued h rest : Call Frame Sink Worker Id).without g =
      if h = g then .ending (rest.filter (·.2 ≠ g)) else endNext queued h (rest.filter (·.2 ≠ g)) := by
  cases queued <;> simp [endNext,Call.without]

theorem erasedPerm (e : Erased g s t) {order : List (Worker × Id)}
    (perm : order.Perm s.sinkGroups.entries) :
    (order.filter (·.2 ≠ g)).Perm t.sinkGroups.entries := by
  have distinct (table : Table Worker Id) : table.entries.Nodup := .of_map _ (Table.keysNodup table)
  refine (List.perm_ext_iff_of_nodup ((perm.nodup_iff.mpr (distinct _)).filter _) (distinct _)).mpr ?_
  rintro ⟨w,h⟩
  rw [List.mem_filter,perm.mem_iff,Table.memEntries,Table.memEntries,e.table,Option.filter_eq_some_iff]

theorem erasedAlive (e : Erased g s t) : alive t group = alive s group := by
  simp only [alive,e.expired]

theorem Erased.set (e : Erased g s t) (other : h ≠ g) (group : SinkGroup Frame Sink Worker) :
    Erased g (s.setGroup h group) (t.setGroup h group) := by
  refine {e with groups := fun k apart => ?_, gone := ?_}
  · by_cases this : k = h
    · simp [State.setGroup,this]
    · simp [State.setGroup,this,e.groups k apart]
  · simpa [State.setGroup,Ne.symm other] using e.gone

theorem Erased.setGone (e : Erased g s t) (group : SinkGroup Frame Sink Worker) :
    Erased g (s.setGroup g group) t :=
  {e with groups := fun k apart => by simp [State.setGroup,apart,e.groups k apart]}

theorem Erased.goto (e : Erased g s t) {call' : Call Frame Sink Worker Id}
    (same : call' = call.without g) : Erased g (s.goto call) (t.goto call') := {e with call := same}

theorem Erased.gotoStill (e : Erased g s t) (same : s.call.without g = call.without g) :
    Erased g (s.goto call) t :=
  {e with call := e.call.trans same}

theorem Erased.post (e : Erased g s t) (other : h ≠ g) (w : Worker) :
    Erased g (s.post w h) (t.post w h) := by
  refine {e with queue := fun v => ?_}
  by_cases this : v = w
  · simp [State.post,this,e.queue,other]
  · simp [State.post,this,e.queue]

theorem Erased.postGone (e : Erased g s t) (w : Worker) : Erased g (s.post w g) t := by
  refine {e with queue := fun v => ?_}
  by_cases this : v = w
  · simp [State.post,this,e.queue]
  · simp [State.post,this,e.queue]

theorem Erased.runs (e : Erased g s t) (w : Worker) {task' : Option (Id × Drain Frame Sink)}
    (same : task' = task.filter (·.1 ≠ g)) : Erased g (s.runs w task) (t.runs w task') := by
  refine {e with running := fun v => ?_}
  by_cases this : v = w
  · simp [State.runs,this,same]
  · simp [State.runs,this,e.running]

theorem Erased.runsStill (e : Erased g s t)
    (same : (s.running w).filter (·.1 ≠ g) = task.filter (·.1 ≠ g)) :
    Erased g (s.runs w task) t := by
  refine {e with running := fun v => ?_}
  by_cases this : v = w
  · simpa [State.runs,this,e.running] using same
  · simp [State.runs,this,e.running]

end

theorem Erased.deliver (e : Erased g s t) (home : s.home x ≠ some g) (c : Callback Frame) :
    Erased g (s.deliver x c) (t.deliver x c) := by
  refine {e with log := fun y other => ?_}
  by_cases this : y = x
  · simp [State.deliver,this,e.log x home]
  · simpa [State.deliver,this] using e.log y other

theorem Erased.deliverGone (e : Erased g s t) (home : s.home x = some g) (c : Callback Frame) :
    Erased g (s.deliver x c) t := by
  refine {e with log := fun y other => ?_}
  have apart : y ≠ x := by rintro rfl; exact other home
  simpa [State.deliver,apart] using e.log y other

theorem Erased.settle (e : Erased g s t) (unseen : s.home x = none) (h : Id) :
    Erased g {s with home := Function.update s.home x (some h)}
      {t with home := Function.update t.home x ((some h).filter (· ≠ g))} := by
  refine {e with home := fun y => ?_, log := fun y other => ?_}
  · by_cases this : y = x
    · simp [this]
    · simp [this,e.home]
  · by_cases this : y = x
    · exact e.log y (by simp [this,unseen])
    · exact e.log y (by simpa [this] using other)

theorem addOldErased (e : Erased g s t) (idle : s.call = .idle) (unseen : s.home x = none)
    (live : s.expired x = false) (entry : s.sinkGroups.get w = some h)
    (found : s.groups h = some group) :
    Follows g t {s.setGroup h {group with sinks := group.sinks ++ [x]} with
      home := Function.update s.home x (some h)} := by
  have home : t.home x = none := by simp [e.home,unseen]
  by_cases this : h = g
  · subst this
    have settled := (e.setGone {group with sinks := group.sinks ++ [x]}).settle unseen h
    have same : Function.update t.home x ((some h).filter (· ≠ h)) = t.home := by
      simp [Option.filter,← home]
    rw [same] at settled
    exact settled.still
  · have settled := (e.set this {group with sinks := group.sinks ++ [x]}).settle unseen h
    simp only [Option.filter,ne_eq,this,not_false_eq_true,decide_true,if_true] at settled
    refine ⟨_,.inr (.addOld (by simp [e.call,idle,Call.without]) home (e.expired ▸ live) (w := w) ?_
      ((e.groups h this).trans found)),settled⟩
    simp [e.table,entry,this]

theorem addNewErased (e : Erased g s t) (idle : s.call = .idle) (unseen : s.home x = none)
    (live : s.expired x = false) (entry : s.sinkGroups.get w = none) (unused : s.groups h = none) :
    Follows g t {s.setGroup h ⟨w,[x],[],false,false⟩ with
      sinkGroups := s.sinkGroups.set w h, home := Function.update s.home x (some h)} := by
  have home : t.home x = none := by simp [e.home,unseen]
  by_cases this : h = g
  · subst this
    have settled := (e.setGone ⟨w,[x],[],false,false⟩).settle unseen h
    have same : Function.update t.home x ((some h).filter (· ≠ h)) = t.home := by
      simp [Option.filter,← home]
    rw [same] at settled
    refine Erased.still {settled with table := fun v => ?_}
    by_cases at_ : v = w
    · simp [at_,e.table,entry,Option.filter]
    · simp [at_,e.table]
  · have settled := (e.set this ⟨w,[x],[],false,false⟩).settle unseen h
    simp only [Option.filter,ne_eq,this,not_false_eq_true,decide_true,if_true] at settled
    refine ⟨_,.inr (.addNew (by simp [e.call,idle,Call.without]) home (e.expired ▸ live)
      (by simp [e.table,entry]) ((e.groups h this).trans unused)),{settled with table := fun v => ?_}⟩
    by_cases at_ : v = w
    · simp [at_,Option.filter,this]
    · simp [at_,e.table]

variable {rest spilled : List Id} {sinks : List Sink} {f : Frame}

theorem removeAtErased (o : Orderly s) (e : Erased g s t) {rest : List (Worker × Id)}
    (atCall : s.call = .remove x ((w,h) :: rest)) (found : s.groups h = some group)
    (kept : sinks = group.sinks.filter fun y => !s.expired y && y != x) :
    Follows g t {s.setGroup h {group with sinks := sinks} with
      sinkGroups := if sinks.isEmpty then s.sinkGroups.delete w else s.sinkGroups
      call := .remove x rest} := by
  have entry : s.sinkGroups.get w = some h := o.removing (by simp [atCall]) w h (by simp [atCall])
  by_cases this : h = g
  · subst this
    have call : t.call = .remove x (rest.filter (·.2 ≠ h)) := by simp [e.call,atCall,Call.without]
    refine Erased.still {e.setGone {group with sinks := sinks} with table := fun v => ?_, call := call}
    by_cases at_ : v = w
    · split <;> simp [at_,e.table,entry,Option.filter]
    · split <;> simp [at_,e.table]
  · have call : t.call = .remove x ((w,h) :: rest.filter (·.2 ≠ g)) := by
      simp [e.call,atCall,Call.without,this]
    refine ⟨_,.inr (.removeAt call ((e.groups h this).trans found) (e.expired ▸ kept)),
      {e.set this {group with sinks := sinks} with call := rfl, table := fun v => ?_}⟩
    by_cases at_ : v = w
    · split <;> simp [at_,e.table]
    · split <;> simp [at_,e.table]

theorem publishEndErased (e : Erased g s t) (atCall : s.call = .publish f [] spilled) :
    Follows g t {s.goto .idle with sinkGroups := eraseOverflowed s spilled s.sinkGroups} := by
  have call : t.call = .publish f [] (spilled.filter (· ≠ g)) := by simp [e.call,atCall,Call.without]
  refine ⟨_,.inr (.publishEnd call),{e with call := rfl, table := fun w => ?_}⟩
  ext h
  rw [Option.filter_eq_some_iff,eraseOverflowedGet,eraseOverflowedGet,e.table,
    Option.filter_eq_some_iff]
  have worker (other : h ≠ g) : t.workerOf h = s.workerOf h := by
    simp [State.workerOf,e.groups h other]
  by_cases this : h = g
  · simp [this]
  · simp [this,worker this]

omit [DecidableEq Sink] in
theorem publishCall (e : Erased g s t) (other : h ≠ g)
    (atCall : s.call = .publish f (h :: rest) spilled) :
    t.call = .publish f (h :: rest.filter (· ≠ g)) (spilled.filter (· ≠ g)) := by
  simp [e.call,atCall,Call.without,other]

omit [DecidableEq Sink] in
theorem endingCall (e : Erased g s t) (other : h ≠ g) {rest : List (Worker × Id)}
    (atCall : s.call = .ending ((w,h) :: rest)) :
    t.call = .ending ((w,h) :: rest.filter (·.2 ≠ g)) := by
  simp [e.call,atCall,Call.without,other]

omit [DecidableEq Sink] in
theorem directCallErased (e : Erased g s t) (other : h ≠ g)
    (atCall : s.call = .publishDirect f h sinks rest spilled) :
    t.call = .publishDirect f h sinks (rest.filter (· ≠ g)) (spilled.filter (· ≠ g)) := by
  simp [e.call,atCall,Call.without,other]

omit [DecidableEq Sink] in
theorem endDirectErased (e : Erased g s t) (other : h ≠ g) {rest : List (Worker × Id)}
    (atCall : s.call = .endDirect h sinks rest) :
    t.call = .endDirect h sinks (rest.filter (·.2 ≠ g)) := by
  simp [e.call,atCall,Call.without,other]

omit [DecidableEq Sink] in
theorem postCallErased (e : Erased g s t) (other : h ≠ g)
    (atCall : s.call = .publishPost h f rest spilled) :
    t.call = .publishPost h f (rest.filter (· ≠ g)) (spilled.filter (· ≠ g)) := by
  simp [e.call,atCall,Call.without,other]

omit [DecidableEq Sink] in
theorem endPostErased (e : Erased g s t) (other : h ≠ g) {rest : List (Worker × Id)}
    (atCall : s.call = .endPost h rest) : t.call = .endPost h (rest.filter (·.2 ≠ g)) := by
  simp [e.call,atCall,Call.without,other]

section
variable {u v : State Frame Sink Worker Id} (gone : h = g → Erased g u t)
  (kept : h ≠ g → Erased g u v)
include gone kept

theorem callErased {next : Call Frame Sink Worker Id}
    (quiet : h = g → u.call.without g = next.without g)
    (move : h ≠ g → Move t (v.goto (next.without g))) : Follows g t (u.goto next) := by
  by_cases this : h = g
  · exact ((gone this).gotoStill (quiet this)).still
  · exact ⟨_,.inr (move this),(kept this).goto rfl⟩

theorem taskErased {d : Drain Frame Sink} (atRun : u.running w = some (h,d))
    (next : Option (Drain Frame Sink))
    (move : h ≠ g → Move t (v.runs w (next.map fun d => (h,d)))) :
    Follows g t (u.runs w (next.map fun d => (h,d))) := by
  by_cases this : h = g
  · refine ((gone this).runsStill ?_).still
    subst this
    cases next <;> simp [atRun,Option.filter]
  · refine ⟨_,.inr (move this),(kept this).runs w ?_⟩
    cases next <;> simp [Option.filter,this]

end

theorem publishErased (e : Erased g s t) {spilled' : List Id} {queued : Bool}
    (group : SinkGroup Frame Sink Worker) (atCall : s.call = .publish f (h :: rest) spilled)
    (overs : h = g → spilled'.filter (· ≠ g) = spilled.filter (· ≠ g))
    (move : h ≠ g → Move t ((t.setGroup h group).goto
      (publishNext queued h f (rest.filter (· ≠ g)) (spilled'.filter (· ≠ g))))) :
    Follows g t ((s.setGroup h group).goto (publishNext queued h f rest spilled')) := by
  refine callErased (fun this => this ▸ e.setGone group) (fun this => e.set this group) ?_ ?_
  · intro this
    rw [publishNextWithout,if_pos this,overs this]
    simp [State.setGroup,atCall,Call.without,this]
  · intro this
    rw [publishNextWithout,if_neg this]
    exact move this

theorem endMarkErased (e : Erased g s t) {rest : List (Worker × Id)}
    (atCall : s.call = .ending ((w,h) :: rest)) (found : s.groups h = some group) (other : w ≠ s.owner) :
    Follows g t ((s.setGroup h {group with pendingEnd := true, drainQueued := true}).goto
      (endNext group.drainQueued h rest)) := by
  refine callErased (fun this => this ▸ e.setGone _) (fun this => e.set this _) ?_ ?_
  · intro this
    rw [endNextWithout,if_pos this]
    simp [State.setGroup,atCall,Call.without,this]
  · intro this
    rw [endNextWithout,if_neg this]
    exact .endMark (endingCall e this atCall) ((e.groups h this).trans found) (e.owner ▸ other)

theorem startErased (e : Erased g s t) (free : s.running w = none) (posted : s.queue w = h :: rest) :
    Follows g t {s.runs w (some (h,.loop)) with queue := Function.update s.queue w rest} := by
  have idle : t.running w = none := by simp [e.running,free]
  by_cases this : h = g
  · subst this
    have quiet : Erased h (s.runs w (some (h,.loop))) t :=
      e.runsStill (by simp [free,Option.filter])
    refine Erased.still {quiet with queue := fun v => ?_}
    by_cases at_ : v = w
    · simp [at_,e.queue,posted]
    · simp [at_,e.queue]
  · have queue : t.queue w = h :: rest.filter (· ≠ g) := by simp [e.queue,posted,this]
    have started : Erased g (s.runs w (some (h,.loop))) (t.runs w (some (h,.loop))) :=
      e.runs w (by simp [Option.filter,this])
    refine ⟨_,.inr (.start idle queue),{started with queue := fun v => ?_}⟩
    by_cases at_ : v = w
    · simp [at_]
    · simp [at_,e.queue]

theorem publishStartErased (e : Erased g s t) {order : List (Worker × Id)} (idle : s.call = .idle)
    (perm : order.Perm s.sinkGroups.entries) :
    Follows g t {s.goto (.publish f (order.map Prod.snd) []) with
      published := s.published ++ [f]} := by
  have ids : (order.filter (·.2 ≠ g)).map Prod.snd = (order.map Prod.snd).filter (· ≠ g) := by
    rw [List.filter_map]; rfl
  refine ⟨_,.inr (.publishStart (f := f) (by simp [e.call,idle,Call.without]) (erasedPerm e perm)),
    {e with call := ?_, published := by simp [e.published]}⟩
  rw [ids]; rfl

theorem erasedMove (o : Orderly s) (e : Erased g s t) (move : Move s s') : Follows g t s' := by
  have idleCall (idle : s.call = .idle) : t.call = .idle := by simp [e.call,idle,Call.without]
  have known {h : Id} {group : SinkGroup Frame Sink Worker} (other : h ≠ g)
      (found : s.groups h = some group) : t.groups h = some group := (e.groups h other).trans found
  have runAt {w : Worker} {h : Id} {d : Drain Frame Sink} (other : h ≠ g)
      (atRun : s.running w = some (h,d)) : t.running w = some (h,d) := by
    simp [e.running,atRun,Option.filter,other]
  have set (h : Id) (group : SinkGroup Frame Sink Worker) :
      (h = g → Erased g (s.setGroup h group) t) ∧
        (h ≠ g → Erased g (s.setGroup h group) (t.setGroup h group)) :=
    ⟨fun this => this ▸ e.setGone group,fun this => e.set this group⟩
  have post (h : Id) (w : Worker) : (h = g → Erased g (s.post w h) t) ∧
      (h ≠ g → Erased g (s.post w h) (t.post w h)) :=
    ⟨fun this => this ▸ e.postGone w,fun this => e.post this w⟩
  have deliver {h : Id} {x : Sink} (home : s.home x = some h) (c : Callback Frame) :
      (h = g → Erased g (s.deliver x c) t) ∧
        (h ≠ g → Erased g (s.deliver x c) (t.deliver x c)) :=
    ⟨fun this => e.deliverGone (this ▸ home) c,fun this => e.deliver (by simpa [home] using this) c⟩
  cases move
  case addOld idle unseen live entry found => exact addOldErased e idle unseen live entry found
  case addNew idle unseen live entry unused => exact addNewErased e idle unseen live entry unused
  case removeStart idle perm =>
    exact ⟨_,.inr (.removeStart (idleCall idle) (erasedPerm e perm)),e.goto rfl⟩
  case removeAt atCall found _ kept => exact removeAtErased o e atCall found kept
  case removeEnd atCall => exact ⟨_,.inr (.removeEnd (by rw [e.call,atCall]; rfl)),e.goto rfl⟩
  case publishStart f order idle perm => exact publishStartErased e idle perm
  case publishTake f h rest spilled group atCall found own =>
    refine callErased (set h _).1 (set h _).2 ?_ fun this => ?_
    · exact fun this => by simp [State.setGroup,atCall,Call.without,this]
    · have taken := Move.publishTake (publishCall e this atCall) (known this found) (e.owner ▸ own)
      simpa only [erasedAlive e,Call.without,this,if_false] using taken
  case publishSkip f h rest spilled group atCall found other ended =>
    refine callErased (fun _ => e) (fun _ => e) ?_ fun (this : h ≠ g) => ?_
    · exact fun this => by simp [atCall,Call.without,this]
    · exact .publishSkip (publishCall e this atCall) (known this found) (e.owner ▸ other) ended
  case publishQueue f h rest spilled group atCall found other ended room =>
    refine publishErased e _ atCall (fun _ => rfl) fun this => ?_
    exact .publishQueue (publishCall e this atCall) (known this found) (e.owner ▸ other) ended room
  case publishFull f h rest spilled group atCall found other ended full =>
    refine publishErased e _ atCall (fun this => by simp [this]) fun this => ?_
    have last : (spilled ++ [h]).filter (· ≠ g) = spilled.filter (· ≠ g) ++ [h] := by simp [this]
    rw [last]
    exact .publishFull (publishCall e this atCall) (known this found) (e.owner ▸ other) ended full
  case publishEnd atCall => exact publishEndErased e atCall
  case directDone f h rest spilled atCall =>
    refine callErased (fun _ => e) (fun _ => e) ?_ fun (this : h ≠ g) => ?_
    · exact fun this => by simp [atCall,Call.without,this]
    · exact .directDone (directCallErased e this atCall)
  case directCall f h x xs rest spilled atCall =>
    have home := o.directs h _ x (by rw [atCall]; rfl) List.mem_cons_self
    refine callErased (deliver home _).1 (deliver home _).2 ?_ fun this => ?_
    · exact fun this => by simp [State.deliver,atCall,Call.without,this]
    · simpa only [Call.without,this,if_false] using
        Move.directCall (directCallErased e this atCall)
  case publishPost h f rest spilled group atCall found =>
    refine callErased (post h _).1 (post h _).2 ?_ fun this => ?_
    · exact fun this => by simp [State.post,atCall,Call.without,this]
    · exact .publishPost (postCallErased e this atCall) (known this found)
  case endStart idle perm =>
    exact ⟨_,.inr (.endStart (idleCall idle) (erasedPerm e perm)),
      {e with call := rfl, table := fun w => by simp}⟩
  case endFinish atCall => exact ⟨_,.inr (.endFinish (by rw [e.call,atCall]; rfl)),e.goto rfl⟩
  case endTake w h rest group atCall found own =>
    refine callErased (set h _).1 (set h _).2 ?_ fun this => ?_
    · exact fun this => by simp [State.setGroup,atCall,Call.without,this]
    · have taken := Move.endTake (endingCall e this atCall) (known this found) (e.owner ▸ own)
      simpa only [erasedAlive e,Call.without,this,if_false] using taken
  case endMark atCall found other => exact endMarkErased e atCall found other
  case endDirectDone h rest atCall =>
    refine callErased (fun _ => e) (fun _ => e) ?_ fun (this : h ≠ g) => ?_
    · exact fun this => by simp [atCall,Call.without,this]
    · exact .endDirectDone (endDirectErased e this atCall)
  case endDirectCall h x xs rest atCall =>
    have home := o.directs h _ x (by rw [atCall]; rfl) List.mem_cons_self
    refine callErased (deliver home _).1 (deliver home _).2 ?_ fun this => ?_
    · exact fun this => by simp [State.deliver,atCall,Call.without,this]
    · simpa only [Call.without,this,if_false] using
        Move.endDirectCall (endDirectErased e this atCall)
  case endPost h rest group atCall found =>
    refine callErased (post h _).1 (post h _).2 ?_ fun this => ?_
    · exact fun this => by simp [State.post,atCall,Call.without,this]
    · exact .endPost (endPostErased e this atCall) (known this found)
  case start free posted => exact startErased e free posted
  case drainFrame w h f rest group atRun found head =>
    exact taskErased (set h _).1 (set h _).2 atRun (some _) fun this =>
      .drainFrame (runAt this atRun) (known this found) head
  case drainLast w h group atRun found empty ended =>
    exact taskErased (set h _).1 (set h _).2 atRun (some _) fun this =>
      .drainLast (runAt this atRun) (known this found) empty ended
  case drainStop w h group atRun found empty ended =>
    exact taskErased (set h _).1 (set h _).2 atRun none fun this =>
      .drainStop (runAt this atRun) (known this found) empty ended
  case drainSnapshot w h frame group atRun found =>
    refine taskErased (set h _).1 (set h _).2 atRun (some _) fun this => ?_
    have taken := Move.drainSnapshot (runAt this atRun) (known this found)
    rwa [erasedAlive e] at taken
  case drainCall w h frame x xs atRun =>
    have home := o.called w h _ x atRun List.mem_cons_self
    exact taskErased (deliver home _).1 (deliver home _).2 atRun (some _) fun this =>
      .drainCall (runAt this atRun)
  case drainEnded w h atRun =>
    exact taskErased (fun _ => e) (fun _ => e) atRun none fun this => .drainEnded (runAt this atRun)
  case drainRepost w h f group atRun found =>
    exact taskErased (post h _).1 (post h _).2 atRun none fun this =>
      .drainRepost (runAt this atRun) (known this found)
  case drainAgain w h f atRun =>
    exact taskErased (fun _ => e) (fun _ => e) atRun (some _) fun this =>
      .drainAgain (runAt this atRun)
  case expire x => exact ⟨_,.inr (.expire (x := x)),{e with expired := by simp [e.expired]}⟩

variable {owner : Worker}

theorem erasedRun (reached : Reached owner s) (g : Id) : ∃ t, Reached owner t ∧ Erased g s t := by
  have both : Orderly s ∧ ∃ t, Reached owner t ∧ Erased g s t := by
    refine reached.invariant (P := fun s => Orderly s ∧ ∃ t, Reached owner t ∧ Erased g s t) ?_ ?_
    · rintro s rfl
      refine ⟨reachedOrderly (.start rfl),initial owner,.start rfl,?_⟩
      constructor <;> simp [initial,Call.without]
    · rintro s a s' ⟨o,t,before,e⟩ taken
      refine ⟨orderlyMove o (stepMove taken),?_⟩
      obtain ⟨t',rfl | move,e'⟩ := erasedMove o e (stepMove taken)
      · exact ⟨t',before,e'⟩
      · obtain ⟨b,taken'⟩ := moveStep move
        exact ⟨t',.next before taken',e'⟩
  exact both.2

omit [DecidableEq Sink] in
theorem closedGone (o : Orderly s) (found : s.groups g = some group)
    (closed : (s.lane g group).phase = .closed) (idle : s.call = .idle) (w : Worker) :
    s.sinkGroups.get w ≠ some g := by
  intro entry
  obtain rfl : group.worker = w := by simpa [State.workerOf,found] using o.entry w g entry
  simp [State.lane,phaseOf,idle,entry] at closed

theorem fullStep (atCall : s.call = .publish f (g :: rest) spilled)
    (found : s.groups g = some group) (other : group.worker ≠ s.owner)
    (ended : group.pendingEnd = false) (full : maxPendingFrames ≤ group.pending.length) :
    step s .owner = some ((s.setGroup g
        {group with pending := [], pendingEnd := true, drainQueued := true}).goto
      (publishNext group.drainQueued g f rest (spilled ++ [g]))) := by
  simp [step,ownerStep,publishTo,atCall,found,other,ended,full]

/-- The flag of another worker's group says whether one drain task of it is on its way,
and there is never a second. A full group loses its own queue and leaves the map; its
sinks hear at most the frame already taken, then on_end; and the other sinks hear what
they would hear had the group never been. -/
theorem wakeupAndIsolation {owner : Worker} (reached : Reached owner s) :
    (∀ g G, s.groups g = some G → G.worker ≠ s.owner →
      G.pending.length ≤ maxPendingFrames ∧
      (G.pending ≠ [] ∨ G.pendingEnd = true → G.drainQueued = true) ∧
      (G.drainQueued = true ↔
        tasksOf s.call.posting (s.queue G.worker) (s.running G.worker) g = 1) ∧
      tasksOf s.call.posting (s.queue G.worker) (s.running G.worker) g ≤ 1) ∧
    (∀ g G f rest spilled, s.call = .publish f (g :: rest) spilled → s.groups g = some G →
      G.worker ≠ s.owner → G.pendingEnd = false → maxPendingFrames ≤ G.pending.length →
      ∃ t, step s .owner = some t ∧ t.log = s.log ∧
        t.groups = Function.update s.groups g
          (some {G with pending := [], pendingEnd := true, drainQueued := true}) ∧
        ∀ u, Transition.Leads step t u →
          (u.call = .idle → ∀ w, u.sinkGroups.get w ≠ some g) ∧
          (∀ x, s.home x = some g → ∃ (frames : List Frame) (ended : Bool),
            frames <+: (s.lane g G).stage.ahead x ∧
            u.log x = s.log x ++ frames.map .deliver ++ if ended then [.onEnd] else []) ∧
          ∃ G' v, u.groups g = some G' ∧ Transition.Leads step u v ∧
            ∀ x ∈ G'.sinks, u.expired x = false → (v.log x).getLast? = some .onEnd) ∧
    (∀ g, ∃ t, Reached owner t ∧ t.groups g = none ∧ t.published = s.published ∧
      ∀ x, s.home x ≠ some g → t.log x = s.log x) := by
  refine ⟨?_,?_,?_⟩
  · intro g G found other
    have kept := (reachedDelivering reached found).kept
    have tasks : tasksOf s.call.posting (s.queue G.worker) (s.running G.worker) g =
      if G.drainQueued then 1 else 0 := kept.tasks
    refine ⟨kept.bound,kept.wake,?_,?_⟩
    · rw [tasks]; cases G.drainQueued <;> simp
    · rw [tasks]; split <;> omega
  · intro g G f rest spilled atCall found other ended full
    have taken := fullStep atCall found other ended full
    refine ⟨_,taken,rfl,rfl,fun u leads => ?_⟩
    have reachedT : Reached owner _ := .next reached taken
    have later := leads.reachable reachedT
    obtain ⟨G',closed⟩ := sealedLater reachedT (sealedFull atCall) leads
    have whole := (Transition.Leads.more (.here s) taken).trans leads
    have worker : G'.worker ≠ u.owner := by
      have known : s.workerOf g = some G.worker := by simp [State.workerOf,found]
      have same : G'.worker = G.worker := by
        simpa [State.workerOf,closed.found] using leadsWorker whole known
      rw [leadsOwner whole,same]
      exact other
    refine ⟨closedGone (reachedOrderly later) closed.found closed.phase,fun x home => ?_,?_⟩
    · exact sealedHears closed home whole
    · obtain ⟨v,onward,heard⟩ := sealedEnds later closed worker
      exact ⟨G',v,closed.found,onward,heard⟩
  · intro g
    obtain ⟨t,reachedT,e⟩ := erasedRun reached g
    exact ⟨t,reachedT,e.gone,e.published,e.log⟩

theorem reachedMove (reached : Reached owner s) (move : Move s t) : Reached owner t := by
  obtain ⟨a,taken⟩ := moveStep move
  exact .next reached taken

theorem filledGroup (n : Nat) (bound : n ≤ maxPendingFrames) :
    ∃ (s : State Nat Nat Nat Nat) (queued : Bool), Reached 0 s ∧ s.owner = 0 ∧ s.call = .idle ∧
      s.sinkGroups.entries = [(1,100)] ∧
      s.groups 100 = some ⟨1,[7],List.replicate n 41,queued,false⟩ := by
  induction n with
  | zero =>
    have first : (step (initial 0) (.add 7 1 100) : Option (State Nat Nat Nat Nat)) = some _ := rfl
    exact ⟨_,false,.next (.start rfl) first,rfl,rfl,rfl,rfl⟩
  | succ n ih =>
    obtain ⟨s,queued,reached,owner,idle,entries,found⟩ := ih (by omega)
    have started := reachedMove reached (.publishStart (f := 41) idle (.of_eq entries.symm))
    have joined := reachedMove started (.publishQueue rfl found (by simp [State.goto,owner]) rfl
      (by simp; omega))
    have last : List.replicate n 41 ++ [41] = List.replicate (n + 1) 41 := by
      rw [List.replicate_succ']
    cases queued with
    | true =>
      have done := reachedMove joined (.publishEnd rfl)
      exact ⟨_,true,done,owner,rfl,entries,by simp [State.goto,State.setGroup,last]⟩
    | false =>
      have posted := reachedMove joined (.publishPost rfl rfl)
      have done := reachedMove posted (.publishEnd rfl)
      exact ⟨_,true,done,owner,rfl,entries,by simp [State.goto,State.post,State.setGroup,last]⟩

theorem fullGroupIsolated : ∃ (s : State Nat Nat Nat Nat) (G : SinkGroup Nat Nat Nat), Reached 0 s ∧
    (s.call = .publish 41 [100] [] ∧ s.groups 100 = some G ∧ G.worker ≠ s.owner ∧
      G.pendingEnd = false ∧ maxPendingFrames ≤ G.pending.length) ∧
    (∃ t, step s .owner = some t ∧ t.log = s.log) ∧
    ∃ t : State Nat Nat Nat Nat, Reached 0 t ∧ t.groups 100 = none ∧ t.published = s.published := by
  obtain ⟨s,queued,reached,owner,idle,entries,found⟩ := filledGroup maxPendingFrames le_rfl
  have started := reachedMove reached (.publishStart (f := 41) idle (.of_eq entries.symm))
  obtain ⟨-,overflow,isolated⟩ := wakeupAndIsolation started
  have other : (1 : Nat) ≠ s.owner := by simp [owner]
  have size : maxPendingFrames ≤ (List.replicate maxPendingFrames 41).length := by simp
  obtain ⟨t,taken,log,-⟩ := overflow 100 _ 41 [] [] rfl found other rfl size
  obtain ⟨t',reached',gone,published,-⟩ := isolated 100
  exact ⟨_,_,started,⟨rfl,found,other,rfl,size⟩,⟨t,taken,log⟩,t',reached',gone,published⟩

end

end MediaServer.SinkDispatcher
