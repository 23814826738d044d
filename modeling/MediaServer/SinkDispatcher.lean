import Mathlib.Data.List.Infix
import Mathlib.Logic.Function.Basic
import MediaServer.Table
import MediaServer.Transition

/-! media/core/worker_sink_dispatcher.h. One owner thread runs add, remove, publish
and end; every other worker runs the drain tasks posted to it, one at a time and
oldest first. A mutex-protected section, a callback and a post are one step each.
Sink groups are shared objects named by Id; a run picks the fresh name of a new one.
Callbacks never call back into the dispatcher. -/
namespace MediaServer.SinkDispatcher

inductive Callback (Frame : Type) where
  | deliver (frame : Frame)
  | onEnd
  deriving DecidableEq, Repr

structure SinkGroup (Frame Sink Worker : Type) where
  worker : Worker
  sinks : List Sink
  pending : List Frame
  drainQueued : Bool
  pendingEnd : Bool
  deriving DecidableEq, Repr

def maxPendingFrames : Nat := 2500

inductive Drain (Frame Sink : Type) where
  | loop
  | snapshot (frame : Option Frame)
  | callbacks (frame : Option Frame) (sinks : List Sink)
  deriving DecidableEq, Repr

inductive Call (Frame Sink Worker Id : Type) where
  | idle
  | remove (sink : Sink) (rest : List (Worker × Id))
  | publish (frame : Frame) (rest overflowed : List Id)
  | publishDirect (frame : Frame) (group : Id) (sinks : List Sink) (rest overflowed : List Id)
  | publishPost (group : Id) (frame : Frame) (rest overflowed : List Id)
  | ending (rest : List (Worker × Id))
  | endDirect (group : Id) (sinks : List Sink) (rest : List (Worker × Id))
  | endPost (group : Id) (rest : List (Worker × Id))
  deriving DecidableEq, Repr

structure State (Frame Sink Worker Id : Type) where
  owner : Worker
  groups : Id → Option (SinkGroup Frame Sink Worker)
  sinkGroups : Table Worker Id
  call : Call Frame Sink Worker Id
  queue : Worker → List Id
  running : Worker → Option (Id × Drain Frame Sink)
  expired : Sink → Bool
  home : Sink → Option Id
  published : List Frame
  log : Sink → List (Callback Frame)

inductive Action (Frame Sink Worker Id : Type) where
  | add (sink : Sink) (target : Worker) (fresh : Id)
  | remove (sink : Sink) (order : List (Worker × Id))
  | publish (frame : Frame) (order : List (Worker × Id))
  | end (order : List (Worker × Id))
  | owner
  | start (worker : Worker)
  | drain (worker : Worker) (late : Bool)
  | expire (sink : Sink)
  deriving DecidableEq, Repr

section
variable {Frame Sink Worker Id : Type} [DecidableEq Sink] [DecidableEq Worker] [DecidableEq Id]

def initial (owner : Worker) : State Frame Sink Worker Id :=
  ⟨owner,fun _ => none,∅,.idle,fun _ => [],fun _ => none,fun _ => false,fun _ => none,[],fun _ => []⟩

def State.idle (s : State Frame Sink Worker Id) : Bool :=
  match s.call with
  | .idle => true
  | _ => false

def State.setGroup (s : State Frame Sink Worker Id) (g : Id)
    (group : SinkGroup Frame Sink Worker) : State Frame Sink Worker Id :=
  {s with groups := Function.update s.groups g (some group)}

def State.goto (s : State Frame Sink Worker Id) (call : Call Frame Sink Worker Id) :
    State Frame Sink Worker Id := {s with call := call}

def State.deliver (s : State Frame Sink Worker Id) (sink : Sink) (c : Callback Frame) :
    State Frame Sink Worker Id :=
  {s with log := Function.update s.log sink (s.log sink ++ [c])}

def State.post (s : State Frame Sink Worker Id) (worker : Worker) (g : Id) :
    State Frame Sink Worker Id :=
  {s with queue := Function.update s.queue worker (s.queue worker ++ [g])}

def State.runs (s : State Frame Sink Worker Id) (worker : Worker)
    (task : Option (Id × Drain Frame Sink)) : State Frame Sink Worker Id :=
  {s with running := Function.update s.running worker task}

def callback (frame : Option Frame) : Callback Frame :=
  match frame with
  | some f => .deliver f
  | none => .onEnd

def alive (s : State Frame Sink Worker Id) (group : SinkGroup Frame Sink Worker) : List Sink :=
  group.sinks.filter fun x => !s.expired x

def add (s : State Frame Sink Worker Id) (sink : Sink) (target : Worker) (fresh : Id) :
    Option (State Frame Sink Worker Id) :=
  if s.home sink = none ∧ s.expired sink = false then
    match s.sinkGroups.get target with
    | some g => (s.groups g).map fun group =>
        {s.setGroup g {group with sinks := group.sinks ++ [sink]} with
          home := Function.update s.home sink (some g)}
    | none =>
        if s.groups fresh = none then
          some {s.setGroup fresh ⟨target,[sink],[],false,false⟩ with
            sinkGroups := s.sinkGroups.set target fresh
            home := Function.update s.home sink (some fresh)}
        else none
  else none

def removeFrom (s : State Frame Sink Worker Id) (sink : Sink) (w : Worker) (g : Id)
    (rest : List (Worker × Id)) : Option (State Frame Sink Worker Id) :=
  (s.groups g).map fun group =>
    let sinks := group.sinks.filter fun x => !s.expired x && x != sink
    {s.setGroup g {group with sinks := sinks} with
      sinkGroups := if sinks.isEmpty then s.sinkGroups.delete w else s.sinkGroups
      call := .remove sink rest}

def publishNext (queued : Bool) (g : Id) (frame : Frame) (rest overflowed : List Id) :
    Call Frame Sink Worker Id :=
  if queued then .publish frame rest overflowed else .publishPost g frame rest overflowed

def endNext (queued : Bool) (g : Id) (rest : List (Worker × Id)) : Call Frame Sink Worker Id :=
  if queued then .ending rest else .endPost g rest

def publishTo (s : State Frame Sink Worker Id) (frame : Frame) (g : Id)
    (rest overflowed : List Id) : Option (State Frame Sink Worker Id) :=
  (s.groups g).map fun group =>
    if group.worker = s.owner then
      (s.setGroup g {group with sinks := alive s group}).goto
        (.publishDirect frame g (alive s group) rest overflowed)
    else if group.pendingEnd then s.goto (.publish frame rest overflowed)
    else
      let full := maxPendingFrames ≤ group.pending.length
      let group' := if full then {group with pending := [], pendingEnd := true}
        else {group with pending := group.pending ++ [frame]}
      let overflowed' := if full then overflowed ++ [g] else overflowed
      (s.setGroup g {group' with drainQueued := true}).goto
        (publishNext group.drainQueued g frame rest overflowed')

def eraseOverflowed (s : State Frame Sink Worker Id) : List Id → Table Worker Id → Table Worker Id
  | [], table => table
  | g :: rest, table => eraseOverflowed s rest <|
      match s.groups g with
      | none => table
      | some group => if table.get group.worker = some g then table.delete group.worker else table

def endFor (s : State Frame Sink Worker Id) (w : Worker) (g : Id) (rest : List (Worker × Id)) :
    Option (State Frame Sink Worker Id) :=
  (s.groups g).map fun group =>
    if w = s.owner then
      (s.setGroup g {group with sinks := alive s group}).goto (.endDirect g (alive s group) rest)
    else
      (s.setGroup g {group with pendingEnd := true, drainQueued := true}).goto
        (endNext group.drainQueued g rest)

def postDrain (s : State Frame Sink Worker Id) (g : Id) (next : Call Frame Sink Worker Id) :
    Option (State Frame Sink Worker Id) :=
  (s.groups g).map fun group => (s.post group.worker g).goto next

def ownerStep (s : State Frame Sink Worker Id) : Option (State Frame Sink Worker Id) :=
  match s.call with
  | .idle => none
  | .remove _ [] => some (s.goto .idle)
  | .remove sink ((w,g) :: rest) => removeFrom s sink w g rest
  | .publish _ [] overflowed =>
      some {s.goto .idle with sinkGroups := eraseOverflowed s overflowed s.sinkGroups}
  | .publish frame (g :: rest) overflowed => publishTo s frame g rest overflowed
  | .publishDirect frame _ [] rest overflowed => some (s.goto (.publish frame rest overflowed))
  | .publishDirect frame g (x :: xs) rest overflowed =>
      some ((s.deliver x (.deliver frame)).goto (.publishDirect frame g xs rest overflowed))
  | .publishPost g frame rest overflowed => postDrain s g (.publish frame rest overflowed)
  | .ending [] => some (s.goto .idle)
  | .ending ((w,g) :: rest) => endFor s w g rest
  | .endDirect _ [] rest => some (s.goto (.ending rest))
  | .endDirect g (x :: xs) rest => some ((s.deliver x .onEnd).goto (.endDirect g xs rest))
  | .endPost g rest => postDrain s g (.ending rest)

def drainTake (s : State Frame Sink Worker Id) (w : Worker) (g : Id)
    (group : SinkGroup Frame Sink Worker) : State Frame Sink Worker Id :=
  match group.pending with
  | f :: rest => (s.setGroup g {group with pending := rest}).runs w (some (g,.snapshot (some f)))
  | [] =>
    if group.pendingEnd then
      (s.setGroup g {group with pendingEnd := false, drainQueued := false}).runs w
        (some (g,.snapshot none))
    else (s.setGroup g {group with drainQueued := false}).runs w none

def drainStep (s : State Frame Sink Worker Id) (w : Worker) (late : Bool) :
    Option (State Frame Sink Worker Id) :=
  match s.running w with
  | none => none
  | some (g,.loop) => (s.groups g).map (drainTake s w g)
  | some (g,.snapshot frame) => (s.groups g).map fun group =>
      (s.setGroup g {group with sinks := alive s group}).runs w
        (some (g,.callbacks frame (alive s group)))
  | some (g,.callbacks frame (x :: xs)) =>
      some ((s.deliver x (callback frame)).runs w (some (g,.callbacks frame xs)))
  | some (_,.callbacks none []) => some (s.runs w none)
  | some (g,.callbacks (some _) []) =>
      if late then (s.groups g).map fun group => (s.post group.worker g).runs w none
      else some (s.runs w (some (g,.loop)))

def step (s : State Frame Sink Worker Id) :
    Action Frame Sink Worker Id → Option (State Frame Sink Worker Id)
  | .add sink target fresh => if s.idle then add s sink target fresh else none
  | .remove sink order =>
      if s.idle ∧ order.Perm s.sinkGroups.entries then
        some (s.goto (.remove sink order))
      else none
  | .publish frame order =>
      if s.idle ∧ order.Perm s.sinkGroups.entries then
        some {s.goto (.publish frame (order.map Prod.snd) []) with
          published := s.published ++ [frame]}
      else none
  | .end order =>
      if s.idle ∧ order.Perm s.sinkGroups.entries then
        some {s.goto (.ending order) with sinkGroups := ∅}
      else none
  | .owner => ownerStep s
  | .start w =>
      match s.running w, s.queue w with
      | none, g :: rest =>
          some {s.runs w (some (g,.loop)) with queue := Function.update s.queue w rest}
      | _, _ => none
  | .drain w late => drainStep s w late
  | .expire sink => some {s with expired := Function.update s.expired sink true}

end

abbrev Reached {Frame Sink Worker Id : Type} [DecidableEq Sink] [DecidableEq Worker]
    [DecidableEq Id] (owner : Worker) (s : State Frame Sink Worker Id) : Prop :=
  Transition.Reachable step (· = initial owner) s

end MediaServer.SinkDispatcher
