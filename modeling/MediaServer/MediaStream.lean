import MediaServer.Heap
import MediaServer.Transition

/-! media/core/media_stream.cpp, add_sink and remove_sink with the dispatcher calls they
make on the stream's worker. Sinks are objects of a heap whose addresses are used again.
The groups hold weak pointers, a queued add and a posted on_end hold the sink alive, and a
queued removal holds an address. A sink's own worker never changes. -/
namespace MediaServer.MediaStream

inductive Task (Sink Address : Type) where
  | add (sink : Sink)
  | remove (sink : Address)
  deriving DecidableEq, Repr

structure State (Sink Address Worker : Type) where
  worker : Worker
  heap : Heap Address Sink
  groups : Worker → List Sink
  queue : List (Task Sink Address)
  posted : List Sink
  ended : Bool
  asked : Sink → Bool

inductive Action (Sink Address Worker : Type) where
  | allocate (sink : Sink) (address : Address)
  | destroy (sink : Sink)
  | addSink (sink : Sink) (caller : Worker)
  | removeSink (sink : Sink)
  | runTask
  | snapshotSinks (worker : Worker)
  | overflow (worker : Worker)
  | end
  | onEnd (sink : Sink)
  deriving DecidableEq, Repr

section
variable {Sink Address Worker : Type}

def initial (worker : Worker) : State Sink Address Worker :=
  ⟨worker,.empty,fun _ => [],[],[],false,fun _ => false⟩

variable [DecidableEq Sink] [DecidableEq Address] [DecidableEq Worker] (workerOf : Sink → Worker)

def State.registered (s : State Sink Address Worker) (sink : Sink) : Bool :=
  decide (sink ∈ s.groups (workerOf sink))

def State.threatened (s : State Sink Address Worker) (sink : Sink) : Bool :=
  match s.heap.place sink with
  | some address => decide (Task.remove address ∈ s.queue)
  | none => false

def State.add (s : State Sink Address Worker) (sink : Sink) : State Sink Address Worker :=
  {s with groups :=
    Function.update s.groups (workerOf sink) (s.groups (workerOf sink) ++ [sink])}

/- worker_sink_dispatcher::remove. A weak pointer that still locks is compared by address. -/
def State.remove (s : State Sink Address Worker) (address : Address) : State Sink Address Worker :=
  {s with groups := fun w =>
    (s.groups w).filter fun x => s.heap.live x && decide (s.heap.tenant address ≠ some x)}

def State.execute (s : State Sink Address Worker) :
    Task Sink Address → State Sink Address Worker
  | .add sink => if s.ended then {s with posted := sink :: s.posted} else s.add workerOf sink
  | .remove address => s.remove address

def State.dispatch (s : State Sink Address Worker) (caller : Worker) (task : Task Sink Address) :
    State Sink Address Worker :=
  if caller = s.worker then s.execute workerOf task else {s with queue := s.queue ++ [task]}

def State.ask (s : State Sink Address Worker) (sink : Sink) : State Sink Address Worker :=
  {s with asked := Function.update s.asked sink true}

def step (s : State Sink Address Worker) :
    Action Sink Address Worker → Option (State Sink Address Worker)
  | .allocate sink address => (s.heap.allocate sink address).map fun heap => {s with heap := heap}
  | .destroy sink =>
    if s.heap.live sink ∧ Task.add sink ∉ s.queue ∧ sink ∉ s.posted then
      some {s with heap := s.heap.free sink}
    else none
  | .addSink sink caller =>
    if s.heap.live sink then some (s.dispatch workerOf caller (.add sink)) else none
  | .removeSink sink =>
    if s.heap.live sink then
      (s.heap.place sink).map fun address =>
        (s.ask sink).dispatch workerOf (workerOf sink) (.remove address)
    else none
  | .runTask =>
    match s.queue with
    | [] => none
    | task :: rest => some (State.execute workerOf {s with queue := rest} task)
  | .snapshotSinks worker =>
    some {s with groups := Function.update s.groups worker ((s.groups worker).filter s.heap.live)}
  | .overflow worker => some {s with groups := Function.update s.groups worker []}
  | .end => some {s with ended := true, groups := fun _ => []}
  | .onEnd sink => if sink ∈ s.posted then some {s with posted := s.posted.erase sink} else none

def State.removes (s : State Sink Address Worker) : Action Sink Address Worker → Option Address
  | .removeSink sink => if workerOf sink = s.worker then s.heap.place sink else none
  | .runTask =>
    match s.queue with
    | .remove address :: _ => some address
    | _ => none
  | _ => none

def TakenOut (s : State Sink Address Worker) (a : Action Sink Address Worker) (sink : Sink)
    (t : State Sink Address Worker) : Prop :=
  (s.removes workerOf a).isSome ∧ s.heap.live sink ∧ s.registered workerOf sink ∧
    t.registered workerOf sink = false

instance (s : State Sink Address Worker) (a : Action Sink Address Worker) (sink : Sink)
    (t : State Sink Address Worker) : Decidable (TakenOut workerOf s a sink t) :=
  inferInstanceAs (Decidable (_ ∧ _ ∧ _ ∧ _))

end

end MediaServer.MediaStream
