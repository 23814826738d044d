import MediaServer.MediaStream

/-! Which removals can reach a sink that never asked for one. A removal names an address, so
it takes whoever lives there when it runs; the addresses that can still be hit are those of
the removals queued before the sink moved in. -/
namespace MediaServer.MediaStream
open Transition

section
variable {Sink Address Worker : Type} [DecidableEq Sink] [DecidableEq Worker]
variable {workerOf : Sink → Worker} {s : State Sink Address Worker}

@[simp] theorem executeHeap (task : Task Sink Address) :
    (s.execute workerOf task).heap = s.heap := by
  cases task with
  | add sink => simp only [State.execute]; split <;> rfl
  | remove address => rfl

@[simp] theorem executeAsked (task : Task Sink Address) :
    (s.execute workerOf task).asked = s.asked := by
  cases task with
  | add sink => simp only [State.execute]; split <;> rfl
  | remove address => rfl

@[simp] theorem executeQueue (task : Task Sink Address) :
    (s.execute workerOf task).queue = s.queue := by
  cases task with
  | add sink => simp only [State.execute]; split <;> rfl
  | remove address => rfl

@[simp] theorem dispatchHeap (caller : Worker) (task : Task Sink Address) :
    (s.dispatch workerOf caller task).heap = s.heap := by
  unfold State.dispatch; split <;> simp

@[simp] theorem dispatchAsked (caller : Worker) (task : Task Sink Address) :
    (s.dispatch workerOf caller task).asked = s.asked := by
  unfold State.dispatch; split <;> simp

theorem dispatchQueue (workerOf : Sink → Worker) (s : State Sink Address Worker) (caller : Worker)
    (task : Task Sink Address) :
    (s.dispatch workerOf caller task).queue = s.queue ∨
      (s.dispatch workerOf caller task).queue = s.queue ++ [task] := by
  unfold State.dispatch
  split
  · left; simp
  · right; rfl

end

section
variable {Sink Address Worker : Type} [DecidableEq Sink] [DecidableEq Address] [DecidableEq Worker]
variable {workerOf : Sink → Worker} {s t u : State Sink Address Worker}
variable {a : Action Sink Address Worker} {x : Sink} {address : Address}

inductive Move (workerOf : Sink → Worker) (s : State Sink Address Worker) :
    Action Sink Address Worker → State Sink Address Worker → Prop where
  | allocate {sink address heap} (room : s.heap.allocate sink address = some heap) :
      Move workerOf s (.allocate sink address) {s with heap := heap}
  | destroy {sink} (unqueued : Task.add sink ∉ s.queue) :
      Move workerOf s (.destroy sink) {s with heap := s.heap.free sink}
  | addSink {sink caller} (alive : s.heap.live sink = true) :
      Move workerOf s (.addSink sink caller) (s.dispatch workerOf caller (.add sink))
  | removeSink {sink address} (alive : s.heap.live sink = true)
      (placed : s.heap.place sink = some address) :
      Move workerOf s (.removeSink sink)
        ((s.ask sink).dispatch workerOf (workerOf sink) (.remove address))
  | runTask {task rest} (next : s.queue = task :: rest) :
      Move workerOf s .runTask (State.execute workerOf {s with queue := rest} task)
  | snapshotSinks {worker} :
      Move workerOf s (.snapshotSinks worker)
        {s with groups := Function.update s.groups worker ((s.groups worker).filter s.heap.live)}
  | overflow {worker} :
      Move workerOf s (.overflow worker) {s with groups := Function.update s.groups worker []}
  | end : Move workerOf s .end {s with ended := true, groups := fun _ => []}
  | onEnd {sink} : Move workerOf s (.onEnd sink) {s with posted := s.posted.erase sink}

theorem stepMove (ok : step workerOf s a = some t) : Move workerOf s a t := by
  cases a with
  | allocate sink address =>
    obtain ⟨heap,room,made⟩ := Option.map_eq_some_iff.mp ok
    subst made
    exact .allocate room
  | destroy sink =>
    simp only [step] at ok
    split at ok <;> try contradiction
    rename_i gone
    cases Option.some.inj ok
    exact .destroy gone.2.1
  | addSink sink caller =>
    simp only [step] at ok
    split at ok <;> try contradiction
    rename_i alive
    cases Option.some.inj ok
    exact .addSink alive
  | removeSink sink =>
    simp only [step] at ok
    split at ok <;> try contradiction
    rename_i alive
    obtain ⟨address,placed,made⟩ := Option.map_eq_some_iff.mp ok
    subst made
    exact .removeSink alive placed
  | runTask =>
    simp only [step] at ok
    split at ok <;> try contradiction
    rename_i task rest next
    cases Option.some.inj ok
    exact .runTask next
  | snapshotSinks worker => cases Option.some.inj ok; exact .snapshotSinks
  | overflow worker => cases Option.some.inj ok; exact .overflow
  | «end» => cases Option.some.inj ok; exact .end
  | onEnd sink =>
    simp only [step] at ok
    split at ok <;> try contradiction
    cases Option.some.inj ok
    exact .onEnd

theorem placeKept (move : Move workerOf s a t) (placed : s.heap.place x = some address) :
    t.heap.place x = some address := by
  cases move with
  | allocate room => exact Heap.placeKept room placed
  | addSink | runTask => simpa using placed
  | removeSink => simpa [State.ask] using placed
  | destroy | snapshotSinks | overflow | «end» | onEnd => exact placed

theorem livedBefore (move : Move workerOf s a t) (placed : s.heap.place x = some address)
    (alive : t.heap.live x = true) : s.heap.live x = true := by
  cases move with
  | allocate room =>
    rcases (Heap.allocateLive room).mp alive with before | same
    · exact before
    · rw [same,(Heap.allocateFresh room).1] at placed; contradiction
  | destroy => exact (Heap.freeLive.mp alive).1
  | addSink | runTask => simpa using alive
  | removeSink => simpa [State.ask] using alive
  | snapshotSinks | overflow | «end» | onEnd => exact alive

theorem silentBefore (move : Move workerOf s a t) (silent : t.asked x = false) :
    s.asked x = false := by
  cases move with
  | @removeSink sink address alive placed =>
    simp only [dispatchAsked,State.ask] at silent
    by_cases same : x = sink
    · simp [same] at silent
    · rwa [Function.update_of_ne same] at silent
  | addSink | runTask => simpa using silent
  | allocate | destroy | snapshotSinks | overflow | «end» | onEnd => exact silent

inductive Queued (s : State Sink Address Worker) (t : State Sink Address Worker) :
    Task Sink Address → Prop where
  | add {sink} (alive : t.heap.live sink = true) : Queued s t (.add sink)
  | remove {sink address} (alive : s.heap.live sink = true)
      (placed : s.heap.place sink = some address) (asked : t.asked sink = true) :
      Queued s t (.remove address)

theorem queueMoved (move : Move workerOf s a t) :
    t.queue.Sublist s.queue ∨ ∃ task, t.queue = s.queue ++ [task] ∧ Queued s t task := by
  cases move with
  | @addSink sink caller alive =>
    rcases dispatchQueue workerOf s caller (.add sink) with same | more
    · left; rw [same]
    · exact .inr ⟨_,more,.add (by simpa using alive)⟩
  | @removeSink sink address alive placed =>
    rcases dispatchQueue workerOf (s.ask sink) (workerOf sink) (.remove address) with same | more
    · left; rw [same]; exact List.Sublist.refl _
    · exact .inr ⟨_,more,.remove alive placed (by simp [State.ask])⟩
  | @runTask task rest next =>
    left; rw [executeQueue,next]; exact List.sublist_cons_self _ _
  | allocate | destroy | snapshotSinks | overflow | «end» | onEnd => left; exact List.Sublist.refl _

theorem queuedBefore (move : Move workerOf s a t) {task : Task Sink Address}
    (queued : task ∈ t.queue) : task ∈ s.queue ∨ Queued s t task := by
  rcases queueMoved move with fewer | ⟨new,more,why⟩
  · exact .inl (fewer.subset queued)
  · rw [more,List.mem_append,List.mem_singleton] at queued
    rcases queued with before | same
    · exact .inl before
    · subst same; exact .inr why

structure Inv (s : State Sink Address Worker) : Prop where
  held : ∀ x, Task.add x ∈ s.queue → s.heap.live x = true
  apart : s.queue.Pairwise fun first second => ∀ x address, first = .add x →
    s.heap.place x = some address → second = .remove address → s.asked x = true

theorem heldKept (move : Move workerOf s a t) (alive : s.heap.live x = true)
    (queued : Task.add x ∈ s.queue) : t.heap.live x = true := by
  cases move with
  | allocate room => exact (Heap.allocateLive room).mpr (.inl alive)
  | @destroy sink unqueued =>
    exact Heap.freeLive.mpr ⟨alive,by rintro rfl; exact unqueued queued⟩
  | addSink | runTask => simpa using alive
  | removeSink => simpa [State.ask] using alive
  | snapshotSinks | overflow | «end» | onEnd => exact alive

theorem heldAll (inv : Inv s) (move : Move workerOf s a t) (queued : Task.add x ∈ t.queue) :
    t.heap.live x = true := by
  rcases queuedBefore move queued with before | why
  · exact heldKept move (inv.held x before) before
  · cases why with
    | add alive => exact alive

theorem apartKept (inv : Inv s) (move : Move workerOf s a t) :
    t.queue.Pairwise fun first second => ∀ x address, first = .add x →
      t.heap.place x = some address → second = .remove address → t.asked x = true := by
  have old : s.queue.Pairwise fun first second => ∀ x address, first = .add x →
      t.heap.place x = some address → second = .remove address → t.asked x = true := by
    refine inv.apart.imp_of_mem ?_
    intro first second queued _ before x address added now removed
    subst added
    obtain ⟨place,placed,_⟩ := Heap.livePlace (inv.held x queued)
    rw [placeKept move placed] at now
    cases Option.some.inj now
    by_contra silent
    have asked := before x address rfl placed removed
    rw [silentBefore move (Bool.eq_false_iff.mpr silent)] at asked
    contradiction
  rcases queueMoved move with fewer | ⟨task,more,why⟩
  · exact old.sublist fewer
  · rw [more,List.pairwise_append]
    refine ⟨old,List.pairwise_singleton _ _,?_⟩
    intro first queued second last x address added now removed
    rw [List.mem_singleton.mp last] at removed
    subst added
    cases why with
    | add => contradiction
    | @remove sink place alive placed asked =>
      cases removed
      obtain ⟨own,before,_⟩ := Heap.livePlace (inv.held x queued)
      rw [placeKept move before] at now
      cases Option.some.inj now
      rw [Heap.neighbours (inv.held x queued) alive before placed]
      exact asked

theorem Inv.kept (inv : Inv s) (move : Move workerOf s a t) : Inv t :=
  ⟨fun _ queued => heldAll inv move queued,apartKept inv move⟩

theorem reachableInv {worker : Worker}
    (reached : Reachable (step workerOf) (· = initial worker) s) : Inv s := by
  refine reached.invariant (P := Inv) ?_ fun s a t inv ok => inv.kept (stepMove ok)
  rintro s rfl
  exact ⟨by simp [initial],.nil⟩

theorem threatOlder (move : Move workerOf s a t) (alive : s.heap.live x = true)
    (placed : s.heap.place x = some address) (silent : t.asked x = false)
    (threat : Task.remove address ∈ t.queue) : Task.remove address ∈ s.queue := by
  rcases queuedBefore move threat with before | why
  · exact before
  · cases why with
    | @remove sink _ lives there asked =>
      rw [← Heap.neighbours alive lives placed there,silent] at asked
      contradiction

structure Unhit (address : Address) (x : Sink) (s : State Sink Address Worker) : Prop where
  placed : s.heap.place x = some address
  clear : s.heap.live x = true → s.asked x = false → Task.remove address ∉ s.queue

theorem unhitKept (unhit : Unhit address x s) (move : Move workerOf s a t) :
    Unhit address x t := by
  refine ⟨placeKept move unhit.placed,?_⟩
  intro alive silent threat
  have before := livedBefore move unhit.placed alive
  exact unhit.clear before (silentBefore move silent)
    (threatOlder move before unhit.placed silent threat)

omit [DecidableEq Address] [DecidableEq Worker] in
theorem removeTakes (alive : s.heap.live x = true) (added : s.registered workerOf x = true)
    (address : Address) :
    (s.remove address).registered workerOf x = decide (s.heap.tenant address ≠ some x) := by
  have inside : x ∈ s.groups (workerOf x) := of_decide_eq_true added
  simp [State.registered,State.remove,inside,alive]

omit [DecidableEq Address] [DecidableEq Worker] in
theorem removalHits (alive : s.heap.live x = true) (added : s.registered workerOf x = true)
    (gone : (s.remove address).registered workerOf x = false) :
    s.heap.tenant address = some x := by
  rw [removeTakes alive added] at gone
  exact not_not.mp (of_decide_eq_false gone)

theorem unhitSpared (unhit : Unhit address x s) (move : Move workerOf s a t)
    (taken : TakenOut workerOf s a x t) : t.asked x = true := by
  obtain ⟨removal,alive,added,gone⟩ := taken
  cases move with
  | @removeSink sink place lives placed =>
    simp only [State.removes] at removal
    split at removal <;> try contradiction
    rename_i here
    have runs : (s.ask sink).dispatch workerOf (workerOf sink) (.remove place) =
        (s.ask sink).remove place := if_pos here
    rw [runs] at gone
    have hit := removalHits (s := s.ask sink) alive added gone
    have owner := Heap.liveAt lives placed
    have same : x = sink := Option.some.inj (hit.symm.trans owner)
    simp [same,State.ask]
  | @runTask task rest next =>
    cases task with
    | add sink => simp [State.removes,next] at removal
    | remove place =>
      have hit := removalHits (s := {s with queue := rest}) alive added gone
      have there : place = address :=
        Option.some.inj ((s.heap.home hit).symm.trans unhit.placed)
      by_contra silent
      refine unhit.clear alive (silentBefore (Move.runTask next) (Bool.eq_false_iff.mpr silent)) ?_
      rw [next,there]
      exact List.mem_cons_self
  | allocate | destroy | addSink | snapshotSinks | overflow | «end» | onEnd => contradiction

theorem unhitNever (unhit : Unhit address x s) (leads : Leads (step workerOf) s u)
    (ok : step workerOf u a = some t) (taken : TakenOut workerOf u a x t) :
    t.asked x = true := by
  have still : Unhit address x u :=
    leads.kept (P := Unhit address x) unhit fun _ _ _ before taken =>
      unhitKept before (stepMove taken)
  exact unhitSpared still (stepMove ok) taken

omit [DecidableEq Address] in
theorem executeRegistered (placed : s.heap.place x = some address)
    (alive : s.heap.live x = true) (added : s.registered workerOf x = true)
    {task : Task Sink Address} (other : task ≠ .remove address) :
    (s.execute workerOf task).registered workerOf x = true := by
  cases task with
  | add sink =>
    have inside : x ∈ s.groups (workerOf x) := of_decide_eq_true added
    simp only [State.execute]
    split
    · exact added
    · refine decide_eq_true ?_
      by_cases home : workerOf x = workerOf sink
      · simp only [State.add,home,Function.update_self]
        exact List.mem_append_left _ (home ▸ inside)
      · simpa only [State.add,Function.update_of_ne home] using inside
  | remove place =>
    have away : s.heap.tenant place ≠ some x := by
      intro here
      have there := s.heap.home here
      rw [placed] at there
      exact other (by rw [Option.some.inj there])
    exact (removeTakes alive added place).trans (decide_eq_true away)

theorem hitAhead (placed : s.heap.place x = some address) (alive : s.heap.live x = true)
    (added : s.registered workerOf x = true) (silent : s.asked x = false)
    {before after : List (Task Sink Address)}
    (waiting : s.queue = before ++ .remove address :: after)
    (first : Task.remove address ∉ before) :
    ∃ u t, Leads (step workerOf) s u ∧ step workerOf u .runTask = some t ∧
      TakenOut workerOf u .runTask x t ∧ t.asked x = false := by
  induction before generalizing s with
  | nil =>
    have hit := removeTakes (s := {s with queue := after}) alive added address
    refine ⟨s,State.remove {s with queue := after} address,.here s,?_,⟨?_,alive,added,?_⟩,silent⟩
    · simp [step,waiting,State.execute]
    · simp [State.removes,waiting]
    · rw [hit]; simpa using Heap.liveAt alive placed
  | cons task rest ih =>
    have ok : step workerOf s .runTask =
        some (State.execute workerOf {s with queue := rest ++ .remove address :: after} task) := by
      simp [step,waiting]
    have other : task ≠ .remove address := by
      intro same; exact first (by rw [same]; exact List.mem_cons_self)
    obtain ⟨u,t,leads,last,taken,quiet⟩ := ih (by simpa using placed) (by simpa using alive)
      (executeRegistered (s := {s with queue := rest ++ .remove address :: after})
        placed alive added other)
      (by simpa using silent) (by simp) (fun member => first (List.mem_cons_of_mem _ member))
    exact ⟨u,t,.trans (.more (.here s) ok) leads,last,taken,quiet⟩

omit [DecidableEq Worker] in
theorem threatenedOf (placed : s.heap.place x = some address) :
    s.threatened x = decide (Task.remove address ∈ s.queue) := by
  simp [State.threatened,placed]

omit [DecidableEq Worker] in
theorem queuedAddUnthreatened (inv : Inv s) {rest : List (Task Sink Address)}
    (next : s.queue = .add x :: rest) (silent : s.asked x = false) : s.threatened x = false := by
  obtain ⟨address,placed,_⟩ := Heap.livePlace (inv.held x (by simp [next]))
  have behind := (List.pairwise_cons.mp (next ▸ inv.apart)).1
  rw [threatenedOf placed,next]
  refine decide_eq_false fun queued => ?_
  rcases List.mem_cons.mp queued with same | later
  · contradiction
  · have asked := behind _ later x address rfl placed rfl
    rw [silent] at asked
    contradiction

theorem sparedIff (added : s.registered workerOf x = true) (alive : s.heap.live x = true)
    (silent : s.asked x = false) :
    (∀ u a t, Leads (step workerOf) s u → step workerOf u a = some t →
      TakenOut workerOf u a x t → t.asked x = true) ↔ s.threatened x = false := by
  obtain ⟨address,placed,_⟩ := Heap.livePlace alive
  rw [threatenedOf placed,decide_eq_false_iff_not]
  constructor
  · intro spared threat
    obtain ⟨before,after,waiting,first⟩ := List.eq_append_cons_of_mem threat
    obtain ⟨u,t,leads,ok,taken,quiet⟩ := hitAhead placed alive added silent waiting first
    rw [spared u _ t leads ok taken] at quiet
    contradiction
  · intro clear u a t leads ok taken
    exact unhitNever ⟨placed,fun _ _ => clear⟩ leads ok taken

theorem removalOfOwnerOnly {worker : Worker}
    (reached : Reachable (step workerOf) (· = initial worker) s) :
    (∀ x, s.registered workerOf x = true → s.heap.live x = true → s.asked x = false →
      ((∀ u a t, Leads (step workerOf) s u → step workerOf u a = some t →
        TakenOut workerOf u a x t → t.asked x = true) ↔ s.threatened x = false)) ∧
    ∀ x rest, s.queue = .add x :: rest → s.asked x = false → s.threatened x = false :=
  ⟨fun _ added alive silent => sparedIff added alive silent,
    fun _ _ next silent => queuedAddUnthreatened (reachableInv reached) next silent⟩

end

/- Sink 0 lives at address 7 and works for worker 1; the stream's worker is 0. Its removal is
queued when it dies and its expired entry is dropped. Sink 1 is then allocated at 7 and added
on the stream's worker, and the queued removal takes it out. -/
def visitor (sink : Nat) : Nat := if sink = 0 then 1 else 0

theorem reusedAddressTakenOut :
    ∃ s t, run (step visitor) (initial 0) [.allocate 0 7,.addSink 0 1,.runTask,.removeSink 0,
        .destroy 0,.snapshotSinks 1,.allocate 1 7,.addSink 1 0] = some s ∧
      s.registered visitor 1 = true ∧ s.asked 1 = false ∧ step visitor s .runTask = some t ∧
      TakenOut visitor s .runTask 1 t ∧ t.asked 1 = false :=
  ⟨_,_,rfl,by decide,by decide,rfl,by decide,by decide⟩

theorem servedRemovalSpares :
    ∃ s : State Nat Nat Nat, s.registered visitor 1 = true ∧ s.threatened 1 = false ∧
      ∀ u a t, Leads (step visitor) s u → step visitor u a = some t →
        TakenOut visitor u a 1 t → t.asked 1 = true := by
  obtain ⟨s,ok,added,alive,silent,clear⟩ : ∃ s : State Nat Nat Nat,
      run (step visitor) (initial 0) [.allocate 0 7,.addSink 0 1,.runTask,.removeSink 0,
        .destroy 0,.snapshotSinks 1,.runTask,.allocate 1 7,.addSink 1 0] = some s ∧
      s.registered visitor 1 = true ∧ s.heap.live 1 = true ∧ s.asked 1 = false ∧
      s.threatened 1 = false :=
    ⟨_,rfl,by decide,by decide,by decide,by decide⟩
  exact ⟨s,added,clear,
    ((removalOfOwnerOnly (runReachable (.start rfl) ok)).1 1 added alive silent).mpr clear⟩

end MediaServer.MediaStream
