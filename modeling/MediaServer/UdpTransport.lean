import Mathlib.Data.List.Flatten
import MediaServer.Bytes
import MediaServer.Controller
import MediaServer.WriteQueue

/-! udp_transport: a datagram is sent at once while nothing is queued, and queued when the socket
would block or others wait. An event is a call or a handler; the answer of the socket to an
immediate send and the outcome of an asynchronous one come with it. -/
namespace MediaServer.UdpTransport
open Controller WriteQueue

structure Datagram (Endpoint : Type) where
  packet : Bytes
  endpoint : Endpoint
  deriving DecidableEq, Repr

inductive Answer where
  | sent
  | wouldBlock
  | failed (code : Nat)
  deriving DecidableEq, Repr

structure State (Endpoint : Type) where
  socketOpen : Bool := true
  writeQueue : Queue (Datagram Endpoint) := {}
  errorCallback : Bool := true
  inFlight : List (Datagram Endpoint) := []
  posted : List Nat := []
  fault : Bool := false
  deriving DecidableEq, Repr

inductive Event (Endpoint : Type) where
  | write (datagram : Datagram Endpoint) (answer : Answer)
  | completed (index : Nat) (error : Option Nat)
  | postedError
  | shutdown
  deriving DecidableEq, Repr

inductive Effect (Endpoint : Type) where
  | sendTo (datagram : Datagram Endpoint) (answer : Answer)
  | asyncSendTo (datagram : Datagram Endpoint)
  | callback (code : Nat)
  | returned (datagram : Datagram Endpoint) (result : Bool)
  deriving DecidableEq, Repr

def writeHighWaterMark : Nat := 1024 * 1024

variable {Endpoint : Type}

def Datagram.size (d : Datagram Endpoint) : Nat := d.packet.length

def startWrite (s : State Endpoint) : State Endpoint × List (Effect Endpoint) :=
  match s.writeQueue.items with
  | [] => ({s with fault := true},[])
  | front :: _ => ({s with inFlight := s.inFlight ++ [front]},[.asyncSendTo front])

def enqueue (s : State Endpoint) (d : Datagram Endpoint) : State Endpoint × List (Effect Endpoint) :=
  if d.size > writeHighWaterMark ∨ s.writeQueue.bytes > writeHighWaterMark - d.size then
    (s,[.returned d false])
  else
    let pushed := {s with writeQueue := s.writeQueue.push Datagram.size d}
    if s.writeQueue.items.isEmpty then
      let (next,effects) := startWrite pushed
      (next,effects ++ [.returned d true])
    else (pushed,[.returned d true])

def write (s : State Endpoint) (d : Datagram Endpoint) (answer : Answer) :
    State Endpoint × List (Effect Endpoint) :=
  if !s.socketOpen then (s,[.returned d false])
  else if s.writeQueue.items.isEmpty then
    match answer with
    | .sent => (s,[.sendTo d .sent,.returned d true])
    | .failed code =>
      ({s with posted := s.posted ++ [code]},[.sendTo d (.failed code),.returned d true])
    | .wouldBlock =>
      let (next,effects) := enqueue s d
      (next,.sendTo d .wouldBlock :: effects)
  else enqueue s d

def onWrite (s : State Endpoint) (d : Datagram Endpoint) (error : Option Nat) :
    State Endpoint × List (Effect Endpoint) :=
  if !s.socketOpen || s.writeQueue.items.isEmpty then (s,[])
  else match error with
    | some code => (s,if s.errorCallback then [.callback code] else [])
    | none =>
      match s.writeQueue.popBy d.size with
      | none => ({s with fault := true},[])
      | some queue =>
        let popped := {s with writeQueue := queue}
        if queue.items.isEmpty then (popped,[]) else startWrite popped

def shutdown (s : State Endpoint) : State Endpoint :=
  {s with writeQueue := {}, errorCallback := false, socketOpen := false}

def step (s : State Endpoint) : Event Endpoint → State Endpoint × List (Effect Endpoint)
  | .write d answer => write s d answer
  | .completed index error =>
    match s.inFlight[index]? with
    | none => (s,[])
    | some d => onWrite {s with inFlight := s.inFlight.eraseIdx index} d error
  | .postedError =>
    match s.posted with
    | [] => (s,[])
    | code :: rest => ({s with posted := rest},if s.errorCallback then [.callback code] else [])
  | .shutdown => (shutdown s,[])

inductive Move (s : State Endpoint) :
    Event Endpoint → State Endpoint → List (Effect Endpoint) → Prop where
  | refused (d : Datagram Endpoint) (answer : Answer) (effects : List (Effect Endpoint))
      (only : effects = [.returned d false] ∨
        effects = [.sendTo d .wouldBlock,.returned d false]) :
      Move s (.write d answer) s effects
  | sent (d : Datagram Endpoint) (opened : s.socketOpen = true)
      (empty : s.writeQueue.items = []) :
      Move s (.write d .sent) s [.sendTo d .sent,.returned d true]
  | unsent (d : Datagram Endpoint) (code : Nat) (opened : s.socketOpen = true)
      (empty : s.writeQueue.items = []) :
      Move s (.write d (.failed code)) {s with posted := s.posted ++ [code]}
        [.sendTo d (.failed code),.returned d true]
  | first (d : Datagram Endpoint) (opened : s.socketOpen = true)
      (empty : s.writeQueue.items = []) (room : s.writeQueue.bytes + d.size ≤ writeHighWaterMark) :
      Move s (.write d .wouldBlock) {s with
        writeQueue := s.writeQueue.push Datagram.size d
        inFlight := s.inFlight ++ [d]} [.sendTo d .wouldBlock,.asyncSendTo d,.returned d true]
  | queued (d : Datagram Endpoint) (answer : Answer) (opened : s.socketOpen = true)
      (filled : s.writeQueue.items ≠ [])
      (room : s.writeQueue.bytes + d.size ≤ writeHighWaterMark) :
      Move s (.write d answer) {s with writeQueue := s.writeQueue.push Datagram.size d}
        [.returned d true]
  | absent (i : Nat) (error : Option Nat) (none_ : s.inFlight[i]? = none) :
      Move s (.completed i error) s []
  | dropped (i : Nat) (error : Option Nat)
      (ended : s.socketOpen = false ∨ s.writeQueue.items = []) :
      Move s (.completed i error) {s with inFlight := s.inFlight.eraseIdx i} []
  | failed (i code : Nat) (d : Datagram Endpoint) (there : s.inFlight[i]? = some d)
      (effects : List (Effect Endpoint)) (only : effects = [.callback code] ∨ effects = []) :
      Move s (.completed i (some code)) {s with inFlight := s.inFlight.eraseIdx i} effects
  | missing (i : Nat) (d : Datagram Endpoint) (there : s.inFlight[i]? = some d)
      (opened : s.socketOpen = true) (lost : s.writeQueue.popBy d.size = none) :
      Move s (.completed i none) {s with inFlight := s.inFlight.eraseIdx i, fault := true} []
  | drained (i : Nat) (d : Datagram Endpoint) (there : s.inFlight[i]? = some d)
      (opened : s.socketOpen = true) (queue : Queue (Datagram Endpoint))
      (popped : s.writeQueue.popBy d.size = some queue) (empty : queue.items = []) :
      Move s (.completed i none)
        {s with inFlight := s.inFlight.eraseIdx i, writeQueue := queue} []
  | next (i : Nat) (d : Datagram Endpoint) (there : s.inFlight[i]? = some d)
      (opened : s.socketOpen = true) (queue : Queue (Datagram Endpoint))
      (popped : s.writeQueue.popBy d.size = some queue) (front : Datagram Endpoint)
      (rest : List (Datagram Endpoint)) (items : queue.items = front :: rest) :
      Move s (.completed i none)
        {s with inFlight := s.inFlight.eraseIdx i ++ [front], writeQueue := queue}
        [.asyncSendTo front]
  | posted (posted : List Nat) (effects : List (Effect Endpoint))
      (only : effects = [] ∨ ∃ code, effects = [.callback code]) :
      Move s .postedError {s with posted := posted} effects
  | shutdown : Move s .shutdown (shutdown s) []

variable {s next : State Endpoint} {d : Datagram Endpoint} {e : Event Endpoint}
  {effects : List (Effect Endpoint)}

theorem enqueueMove (d : Datagram Endpoint) (answer : Answer) (opened : s.socketOpen = true)
    (filled : s.writeQueue.items ≠ []) :
    Move s (.write d answer) (enqueue s d).1 (enqueue s d).2 := by
  unfold enqueue
  split
  · exact .refused d answer _ (.inl rfl)
  · rename_i room
    rw [if_neg (by simpa using filled)]
    exact .queued d answer opened filled (by omega)

theorem writeMove (s : State Endpoint) (d : Datagram Endpoint) (answer : Answer) :
    Move s (.write d answer) (write s d answer).1 (write s d answer).2 := by
  unfold write
  split
  · exact .refused d answer _ (.inl rfl)
  · rename_i live
    have opened : s.socketOpen = true := by simpa using live
    split
    · rename_i none_
      have empty : s.writeQueue.items = [] := by simpa using none_
      cases answer with
      | sent => exact .sent d opened empty
      | failed code => exact .unsent d code opened empty
      | wouldBlock =>
        unfold enqueue
        dsimp only
        split
        · exact .refused d .wouldBlock _ (.inr rfl)
        · rename_i room
          simpa [startWrite,Queue.push,empty] using Move.first d opened empty (by omega)
    · rename_i some_
      exact enqueueMove d answer opened (by simpa using some_)

theorem completionMove {i : Nat} (there : s.inFlight[i]? = some d) (error : Option Nat) :
    Move s (.completed i error)
      (onWrite {s with inFlight := s.inFlight.eraseIdx i} d error).1
      (onWrite {s with inFlight := s.inFlight.eraseIdx i} d error).2 := by
  unfold onWrite
  dsimp only
  split
  · rename_i ended
    exact .dropped i error (by simpa using ended)
  · rename_i live
    simp only [Bool.or_eq_true,Bool.not_eq_true',not_or,Bool.not_eq_false] at live
    cases error with
    | some code =>
      dsimp only
      refine .failed i code d there _ ?_
      split
      · exact .inl rfl
      · exact .inr rfl
    | none =>
      dsimp only
      split
      · rename_i lost
        exact .missing i d there live.1 lost
      · rename_i queue popped
        split
        · rename_i empty
          exact .drained i d there live.1 queue popped (by simpa using empty)
        · rename_i more
          cases items : queue.items with
          | nil => simp [items] at more
          | cons front rest =>
            simpa [startWrite,items] using Move.next i d there live.1 queue popped front rest items

theorem stepMove (s : State Endpoint) (e : Event Endpoint) :
    Move s e (step s e).1 (step s e).2 := by
  cases e with
  | write d answer => exact writeMove s d answer
  | completed i error =>
    dsimp only [step]
    split
    · rename_i absent
      exact .absent i error absent
    · rename_i d there
      exact completionMove there error
  | postedError =>
    dsimp only [step]
    split
    · exact .posted s.posted _ (.inl rfl)
    · rename_i code rest posted
      refine .posted rest _ ?_
      split
      · exact .inr ⟨code,rfl⟩
      · exact .inl rfl
  | shutdown => exact .shutdown

abbrev Past (Endpoint : Type) := List (Round (State Endpoint) (Event Endpoint) (Effect Endpoint))

def Effect.returns : Effect Endpoint → Option (Datagram Endpoint)
  | .returned d true => some d
  | _ => none

/- Given to the socket, with whatever outcome, except where it would have blocked. -/
def Effect.tries : Effect Endpoint → Option (Datagram Endpoint)
  | .sendTo d .sent => some d
  | .sendTo d (.failed _) => some d
  | .asyncSendTo d => some d
  | _ => none

def Effect.sends : Effect Endpoint → Option (Datagram Endpoint)
  | .sendTo d .sent => some d
  | .asyncSendTo d => some d
  | _ => none

def returned (past : Past Endpoint) : List (Datagram Endpoint) :=
  past.flatMap fun r => r.effects.filterMap Effect.returns

def tried (past : Past Endpoint) : List (Datagram Endpoint) :=
  past.flatMap fun r => r.effects.filterMap Effect.tries

def sent (past : Past Endpoint) : List (Datagram Endpoint) :=
  past.flatMap fun r => r.effects.filterMap Effect.sends

variable {past : Past Endpoint}

theorem sendsTries (effects : List (Effect Endpoint)) :
    (effects.filterMap Effect.sends).Sublist (effects.filterMap Effect.tries) := by
  induction effects with
  | nil => exact List.Sublist.slnil
  | cons effect effects ih =>
    cases effect with
    | sendTo d answer =>
      cases answer with
      | sent => exact ih.cons_cons d
      | wouldBlock => exact ih
      | failed code => exact ih.cons d
    | asyncSendTo d => exact ih.cons_cons d
    | callback code => exact ih
    | returned d result => exact ih

theorem sentTried (past : Past Endpoint) : (sent past).Sublist (tried past) :=
  List.Sublist.flatMap_right past fun r _ => sendsTries r.effects

theorem returnedSnoc (past : Past Endpoint)
    (r : Round (State Endpoint) (Event Endpoint) (Effect Endpoint)) :
    returned (past ++ [r]) = returned past ++ returned [r] := List.flatMap_append

theorem triedSnoc (past : Past Endpoint)
    (r : Round (State Endpoint) (Event Endpoint) (Effect Endpoint)) :
    tried (past ++ [r]) = tried past ++ tried [r] := List.flatMap_append

def Failed (r : Round (State Endpoint) (Event Endpoint) (Effect Endpoint)) : Prop :=
  ∃ i code d, r.event = .completed i (some code) ∧ r.state.inFlight[i]? = some d

structure Good (past : Past Endpoint) (s : State Endpoint) : Prop where
  sound : s.fault = false
  counted : s.writeQueue.Counted Datagram.size
  bounded : s.writeQueue.bytes ≤ writeHighWaterMark
  one : s.inFlight.length ≤ 1
  order : tried past <+: returned past
  pending : s.socketOpen = true →
    Pending (returned past) (tried past) s.writeQueue.items (s.inFlight.map fun d => [d])
  busy : s.socketOpen = true → (∀ r ∈ past, ¬Failed r) →
    s.inFlight = s.writeQueue.items.take 1
  ended : s.socketOpen = true ∨ ∃ r ∈ past, r.event = .shutdown

theorem Good.idle (good : Good past s) (opened : s.socketOpen = true)
    (empty : s.writeQueue.items = []) : s.inFlight = [] ∧ returned past = tried past := by
  have pending := good.pending opened
  rw [empty] at pending
  refine ⟨?_,pendingEmpty pending⟩
  cases flight : s.inFlight with
  | nil => rfl
  | cons d rest =>
    have front := (pendingFront pending).2 [d] (by simp [flight])
    cases List.prefix_nil.mp front

theorem earlier {r : Round (State Endpoint) (Event Endpoint) (Effect Endpoint)}
    (never : ∀ x ∈ past ++ [r], ¬Failed x) : ∀ x ∈ past, ¬Failed x :=
  fun x member => never x (List.mem_append_left _ member)

theorem openGood {r : Round (State Endpoint) (Event Endpoint) (Effect Endpoint)}
    (opened : r.next.socketOpen = true) (sound : r.next.fault = false)
    (counted : r.next.writeQueue.Counted Datagram.size)
    (bounded : r.next.writeQueue.bytes ≤ writeHighWaterMark)
    (busy : (∀ x ∈ past ++ [r], ¬Failed x) → r.next.inFlight = r.next.writeQueue.items.take 1)
    (pending : Pending (returned past ++ returned [r]) (tried past ++ tried [r])
      r.next.writeQueue.items (r.next.inFlight.map fun d => [d])) :
    Good (past ++ [r]) r.next := by
  rw [← returnedSnoc,← triedSnoc] at pending
  refine ⟨sound,counted,bounded,?_,pendingPrefix pending,fun _ => pending,fun _ => busy,
    .inl opened⟩
  simpa using (pendingFront pending).1

theorem quietGood (good : Good past s)
    (quiet : returned [⟨s,e,next,effects⟩] = [] ∧ tried [⟨s,e,next,effects⟩] = [])
    (same : next.fault = s.fault ∧ next.writeQueue = s.writeQueue ∧ next.socketOpen = s.socketOpen)
    (flight : next.inFlight = s.inFlight ∨ next.inFlight = [])
    (busy : s.socketOpen = true → (∀ x ∈ past ++ [⟨s,e,next,effects⟩], ¬Failed x) →
      next.inFlight = s.writeQueue.items.take 1) :
    Good (past ++ [⟨s,e,next,effects⟩]) next := by
  obtain ⟨fault,queue,opened⟩ := same
  have back : returned (past ++ [⟨s,e,next,effects⟩]) = returned past := by
    rw [returnedSnoc,quiet.1,List.append_nil]
  have given : tried (past ++ [⟨s,e,next,effects⟩]) = tried past := by
    rw [triedSnoc,quiet.2,List.append_nil]
  refine ⟨fault.trans good.sound,?_,?_,?_,?_,?_,?_,?_⟩
  · rw [queue]
    exact good.counted
  · rw [queue]
    exact good.bounded
  · rcases flight with kept | none_
    · rw [kept]
      exact good.one
    · rw [none_]
      exact Nat.zero_le _
  · rw [back,given]
    exact good.order
  · intro open_
    rw [back,given,queue]
    have pending := good.pending (opened.symm.trans open_)
    rcases flight with kept | none_
    · rwa [kept]
    · rw [none_]
      exact pendingDropped pending
  · intro open_ never
    rw [queue]
    exact busy (opened.symm.trans open_) never
  · rw [opened]
    rcases good.ended with open_ | ⟨x,member,event⟩
    · exact .inl open_
    · exact .inr ⟨x,List.mem_append_left _ member,event⟩

theorem erasedFlight (good : Good past s) (i : Nat) :
    s.inFlight.eraseIdx i = s.inFlight ∨ s.inFlight.eraseIdx i = [] := by
  cases there : s.inFlight[i]? with
  | none => exact .inl (List.eraseIdx_of_length_le (List.getElem?_eq_none_iff.mp there))
  | some d => exact .inr (onlyFlight good.one there).2

theorem Good.popped (good : Good past s) (opened : s.socketOpen = true) {i : Nat}
    (there : s.inFlight[i]? = some d) :
    ∃ rest, s.writeQueue.items = d :: rest ∧ returned past = tried past ++ rest ∧
      s.writeQueue.popBy d.size = some ⟨rest,total Datagram.size rest⟩ := by
  have pending := good.pending opened
  rw [(onlyFlight good.one there).1] at pending
  obtain ⟨rest,whole,split⟩ := pendingBatch pending
  exact ⟨rest,whole,split,popByFront good.counted whole⟩

theorem goodMove (good : Good past s) (move : Move s e next effects) :
    Good (past ++ [⟨s,e,next,effects⟩]) next := by
  have kept : ∀ {r}, s.socketOpen = true → (∀ x ∈ past ++ [r], ¬Failed x) →
      s.inFlight = s.writeQueue.items.take 1 := fun opened never => good.busy opened (earlier never)
  cases move with
  | refused d answer effects only =>
    refine quietGood good ?_ ⟨rfl,rfl,rfl⟩ (.inl rfl) kept
    rcases only with rfl | rfl <;> exact ⟨rfl,rfl⟩
  | sent d opened empty =>
    obtain ⟨free,level⟩ := good.idle opened empty
    refine openGood opened good.sound good.counted good.bounded (kept opened) ?_
    rw [level]
    simp only [empty,free,List.map_nil]
    exact pendingIdle (List.append_nil (tried past ++ [d])).symm
  | unsent d code opened empty =>
    obtain ⟨free,level⟩ := good.idle opened empty
    refine openGood opened good.sound good.counted good.bounded (kept opened) ?_
    rw [level]
    simp only [empty,free,List.map_nil]
    exact pendingIdle (List.append_nil (tried past ++ [d])).symm
  | first d opened empty room =>
    obtain ⟨free,level⟩ := good.idle opened empty
    refine openGood opened good.sound (countedPush good.counted d) room ?_ ?_
    · intro _
      simp [Queue.push,empty,free]
    · rw [level]
      simp only [Queue.push,empty,free]
      exact ⟨[d],[],rfl,(List.append_nil (tried past ++ [d])).symm,.inl rfl⟩
  | queued d answer opened filled room =>
    have pending := pendingPush (good.pending opened) d
    refine openGood opened good.sound (countedPush good.counted d) room ?_ ?_
    · intro never
      rw [kept opened never]
      cases items : s.writeQueue.items with
      | nil => exact absurd items filled
      | cons front rest => simp [Queue.push,items]
    · rw [← List.append_nil (tried past)] at pending
      exact pending
  | absent i error none_ => exact quietGood good ⟨rfl,rfl⟩ ⟨rfl,rfl,rfl⟩ (.inl rfl) kept
  | dropped i error ended =>
    refine quietGood good ⟨rfl,rfl⟩ ⟨rfl,rfl,rfl⟩ (erasedFlight good i) ?_
    intro opened _
    rcases ended with closed | empty
    · rw [opened] at closed
      cases closed
    · simp [(good.idle opened empty).1,empty]
  | failed i code d there effects only =>
    refine quietGood good ?_ ⟨rfl,rfl,rfl⟩ (erasedFlight good i) ?_
    · rcases only with rfl | rfl <;> exact ⟨rfl,rfl⟩
    · intro _ never
      exact absurd ⟨i,code,d,rfl,there⟩ (never _ (List.mem_append_right _ List.mem_cons_self))
  | missing i d there opened lost =>
    obtain ⟨rest,-,-,popped⟩ := good.popped opened there
    rw [lost] at popped
    cases popped
  | drained i d there opened queue popped empty =>
    obtain ⟨rest,whole,split,taken⟩ := good.popped opened there
    cases Option.some.inj (popped.symm.trans taken)
    cases (show rest = [] from empty)
    have free := (onlyFlight good.one there).2
    refine openGood opened good.sound rfl (Nat.zero_le _) (fun _ => free) ?_
    simp only [free]
    exact pendingIdle (by simpa [returned,tried] using split)
  | next i d there opened queue popped front rest items =>
    obtain ⟨_,whole,split,taken⟩ := good.popped opened there
    cases Option.some.inj (popped.symm.trans taken)
    cases items
    have free := (onlyFlight good.one there).2
    have bounded := good.bounded
    rw [countedFront good.counted whole] at bounded
    refine openGood opened good.sound rfl (Nat.le_trans (Nat.le_add_left _ _) bounded) ?_ ?_
    · intro _
      simp [free]
    · simp only [free]
      refine ⟨[front],rest,rfl,?_,.inl rfl⟩
      change returned past ++ [] = tried past ++ [front] ++ rest
      rw [split]
      simp
  | posted posted effects only =>
    refine quietGood good ?_ ⟨rfl,rfl,rfl⟩ (.inl rfl) kept
    rcases only with rfl | ⟨code,rfl⟩ <;> exact ⟨rfl,rfl⟩
  | shutdown =>
    refine ⟨good.sound,rfl,Nat.zero_le _,good.one,?_,fun opened => (by cases opened),
      fun opened => (by cases opened),.inr ⟨_,List.mem_append_right _ List.mem_cons_self,rfl⟩⟩
    rw [returnedSnoc,triedSnoc]
    simpa [returned,tried] using good.order

theorem initialGood : Good [] ({} : State Endpoint) where
  sound := rfl
  counted := rfl
  bounded := Nat.zero_le _
  one := Nat.zero_le _
  order := List.prefix_rfl
  pending _ := pendingIdle rfl
  busy _ _ := rfl
  ended := .inl rfl

theorem goodRun (events : List (Event Endpoint)) :
    Good (rounds step {} events) (final step {} events) :=
  finalHistory (P := Good) initialGood fun _ s e good => goodMove good (stepMove s e)

theorem refusedSame (move : Move s e next effects) (refused : .returned d false ∈ effects) :
    next = s := by
  cases move with
  | refused => rfl
  | absent => rfl
  | posted _ _ only => rcases only with rfl | ⟨code,rfl⟩ <;> simp at refused
  | failed _ _ _ _ _ only => rcases only with rfl | rfl <;> simp at refused
  | _ => simp at refused

theorem udpOutput (events : List (Event Endpoint)) :
    (sent (rounds step {} events)).Sublist (returned (rounds step {} events)) ∧
    tried (rounds step {} events) <+: returned (rounds step {} events) ∧
    (.shutdown ∉ events → (∀ r ∈ rounds step {} events, ¬Failed r) →
      (final step {} events).inFlight = (final step {} events).writeQueue.items.take 1) ∧
    (final step {} events).inFlight.length ≤ 1 ∧
    (final step {} events).writeQueue.bytes =
      total Datagram.size (final step {} events).writeQueue.items ∧
    (final step {} events).writeQueue.bytes ≤ writeHighWaterMark ∧
    (final step {} events).fault = false ∧
    ∀ r ∈ rounds step {} events, ∀ d, .returned d false ∈ r.effects → r.next = r.state := by
  have good := goodRun events
  refine ⟨(sentTried _).trans good.order.sublist,good.order,?_,good.one,good.counted,
    good.bounded,good.sound,?_⟩
  · intro never calm
    have opened : (final step {} events).socketOpen = true := by
      rcases good.ended with opened | ⟨r,member,event⟩
      · exact opened
      · have inside := roundsEvent r member
        rw [event] at inside
        exact absurd inside never
    exact good.busy opened calm
  · intro r member d refused
    have same := (roundsInvariant (P := fun _ => True) trivial (fun _ _ _ => trivial) r member).2
    have move := stepMove r.state r.event
    rw [same] at move
    exact refusedSame move refused

example : (rounds step {} [.write ⟨[1],1⟩ .wouldBlock,.write ⟨[2],2⟩ .sent,.completed 0 none,
    .completed 0 none,.write ⟨[3],1⟩ .sent]).flatMap (·.effects) =
    [.sendTo ⟨[1],1⟩ .wouldBlock,.asyncSendTo ⟨[1],1⟩,.returned ⟨[1],1⟩ true,
      .returned ⟨[2],2⟩ true,.asyncSendTo ⟨[2],2⟩,.sendTo ⟨[3],1⟩ .sent,
      .returned ⟨[3],1⟩ true] := by
  decide

end MediaServer.UdpTransport
