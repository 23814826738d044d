import MediaServer.Bytes
import MediaServer.Controller
import MediaServer.WriteQueue

/-! tcp_transport: the queue in front of a socket, written one batch at a time. An event is a handler
on the socket's executor; a completion names one of the writes in flight, however many there are. -/
namespace MediaServer.TcpTransport
open Controller WriteQueue

inductive Error where
  | noBufferSpace
  | failed (code : Nat)
  deriving DecidableEq, Repr

structure State where
  socketOpen : Bool := true
  writeQueue : Queue Bytes := {}
  writeCallback : Bool := true
  inFlight : List (List Bytes) := []
  fault : Bool := false
  deriving DecidableEq, Repr

inductive Event where
  | write (data : Bytes)
  | completed (index : Nat) (error : Option Nat) (bytes : Nat)
  | shutdown
  deriving DecidableEq, Repr

inductive Effect where
  | accept (data : Bytes)
  | asyncWrite (batch : List Bytes)
  | callback (error : Option Error) (bytes : Nat)
  deriving DecidableEq, Repr

def writeHighWaterMark : Nat := 1024 * 1024

def postWrite (s : State) : State × List Effect :=
  ({s with inFlight := s.inFlight ++ [s.writeQueue.items]},[.asyncWrite s.writeQueue.items])

def safeWrite (s : State) (data : Bytes) : State × List Effect :=
  if !s.socketOpen || !s.writeCallback then (s,[])
  else
    let pushed := {s with writeQueue := s.writeQueue.push List.length data}
    match s.writeQueue.items with
    | [] =>
      let (next,effects) := postWrite pushed
      (next,.accept data :: effects)
    | front :: _ =>
      if s.writeQueue.bytes < front.length then ({s with fault := true},[])
      else if s.writeQueue.bytes - front.length + data.length > writeHighWaterMark then
        ({s with writeCallback := false},[.callback (some .noBufferSpace) 0])
      else (pushed,[.accept data])

def onWrite (s : State) (error : Option Nat) (bytes count : Nat) : State × List Effect :=
  if !s.socketOpen || s.writeQueue.items.isEmpty || !s.writeCallback then (s,[])
  else match error with
    | some code => (s,[.callback (some (.failed code)) bytes])
    | none =>
      match s.writeQueue.popMany List.length count with
      | none => ({s with fault := true},[])
      | some queue =>
        let popped := {s with writeQueue := queue}
        if !queue.items.isEmpty && popped.writeCallback then
          let (next,effects) := postWrite popped
          (next,.callback none bytes :: effects)
        else (popped,[.callback none bytes])

def safeShutdown (s : State) : State :=
  {s with writeQueue := {}, writeCallback := false, socketOpen := false}

def step (s : State) : Event → State × List Effect
  | .write data => if data = [] then (s,[]) else safeWrite s data
  | .completed index error bytes =>
    match s.inFlight[index]? with
    | none => (s,[])
    | some batch => onWrite {s with inFlight := s.inFlight.eraseIdx index} error bytes batch.length
  | .shutdown => (safeShutdown s,[])

inductive Move (s : State) : Event → State → List Effect → Prop where
  | same (e : Event) (idle : ∀ i error n, e = .completed i error n → s.inFlight[i]? = none) :
      Move s e s []
  | dropped (i : Nat) (error : Option Nat) (n : Nat)
      (ended : s.socketOpen = false ∨ s.writeQueue.items = [] ∨ s.writeCallback = false) :
      Move s (.completed i error n) {s with inFlight := s.inFlight.eraseIdx i} []
  | first (data : Bytes) (live : s.socketOpen = true ∧ s.writeCallback = true)
      (empty : s.writeQueue.items = []) :
      Move s (.write data) {s with
        writeQueue := s.writeQueue.push List.length data
        inFlight := s.inFlight ++ [[data]]} [.accept data,.asyncWrite [data]]
  | underflow (data : Bytes) (front : Bytes) (rest : List Bytes)
      (items : s.writeQueue.items = front :: rest) (short : s.writeQueue.bytes < front.length) :
      Move s (.write data) {s with fault := true} []
  | overflow (data : Bytes) (live : s.socketOpen = true ∧ s.writeCallback = true) :
      Move s (.write data) {s with writeCallback := false} [.callback (some .noBufferSpace) 0]
  | queued (data : Bytes) (live : s.socketOpen = true ∧ s.writeCallback = true) (front : Bytes)
      (rest : List Bytes) (items : s.writeQueue.items = front :: rest)
      (room : s.writeQueue.bytes - front.length + data.length ≤ writeHighWaterMark) :
      Move s (.write data) {s with writeQueue := s.writeQueue.push List.length data} [.accept data]
  | failed (i code n : Nat) (live : s.socketOpen = true ∧ s.writeCallback = true)
      (some_ : s.writeQueue.items ≠ []) :
      Move s (.completed i (some code) n) {s with inFlight := s.inFlight.eraseIdx i}
        [.callback (some (.failed code)) n]
  | missing (i n : Nat) (batch : List Bytes) (there : s.inFlight[i]? = some batch)
      (live : s.socketOpen = true ∧ s.writeCallback = true)
      (lost : s.writeQueue.popMany List.length batch.length = none) :
      Move s (.completed i none n)
        {s with inFlight := s.inFlight.eraseIdx i, fault := true} []
  | next (i n : Nat) (batch : List Bytes) (there : s.inFlight[i]? = some batch)
      (live : s.socketOpen = true ∧ s.writeCallback = true) (queue : Queue Bytes)
      (popped : s.writeQueue.popMany List.length batch.length = some queue)
      (more : queue.items ≠ []) :
      Move s (.completed i none n)
        {s with inFlight := s.inFlight.eraseIdx i ++ [queue.items], writeQueue := queue}
        [.callback none n,.asyncWrite queue.items]
  | drained (i n : Nat) (batch : List Bytes) (there : s.inFlight[i]? = some batch)
      (live : s.socketOpen = true ∧ s.writeCallback = true) (queue : Queue Bytes)
      (popped : s.writeQueue.popMany List.length batch.length = some queue)
      (empty : queue.items = []) :
      Move s (.completed i none n)
        {s with inFlight := s.inFlight.eraseIdx i, writeQueue := queue} [.callback none n]
  | shutdown : Move s .shutdown (safeShutdown s) []

theorem writeMove (s : State) (data : Bytes) :
    Move s (.write data) (safeWrite s data).1 (safeWrite s data).2 := by
  unfold safeWrite
  split
  · exact .same _ nofun
  · rename_i live
    simp only [Bool.or_eq_true,Bool.not_eq_true',not_or,Bool.not_eq_false] at live
    split
    · rename_i empty
      simpa [postWrite,Queue.push,empty] using Move.first data live empty
    · rename_i front rest items
      split
      · rename_i short
        exact .underflow data front rest items short
      · split
        · exact .overflow data live
        · rename_i room
          exact .queued data live front rest items (by omega)

variable {s next : State} {i : Nat} {batch : List Bytes} {past : List (Round State Event Effect)}
  {e : Event} {effects : List Effect}

theorem completionMove (there : s.inFlight[i]? = some batch) (error : Option Nat) (n : Nat) :
    Move s (.completed i error n)
      (onWrite {s with inFlight := s.inFlight.eraseIdx i} error n batch.length).1
      (onWrite {s with inFlight := s.inFlight.eraseIdx i} error n batch.length).2 := by
  unfold onWrite
  dsimp only
  split
  · rename_i ended
    refine .dropped i error n ?_
    simpa [or_assoc] using ended
  · rename_i live
    simp only [Bool.or_eq_true,Bool.not_eq_true',not_or,Bool.not_eq_false,
      List.isEmpty_iff] at live
    obtain ⟨⟨opened,some_⟩,callback⟩ := live
    cases error with
    | some code => exact .failed i code n ⟨opened,callback⟩ some_
    | none =>
      dsimp only
      split
      · rename_i lost
        exact .missing i n batch there ⟨opened,callback⟩ lost
      · rename_i queue popped
        split
        · rename_i more
          simp only [Bool.and_eq_true,Bool.not_eq_true',List.isEmpty_eq_false_iff] at more
          exact .next i n batch there ⟨opened,callback⟩ queue popped more.1
        · rename_i last
          refine .drained i n batch there ⟨opened,callback⟩ queue popped ?_
          simpa [callback] using last

theorem stepMove (s : State) (e : Event) : Move s e (step s e).1 (step s e).2 := by
  cases e with
  | write data =>
    dsimp only [step]
    split
    · exact .same _ nofun
    · exact writeMove s data
  | completed i error n =>
    dsimp only [step]
    split
    · rename_i absent
      exact .same _ fun _ _ _ same => by cases same; exact absent
    · rename_i batch there
      exact completionMove there error n
  | shutdown => exact .shutdown

def accepted (past : List (Round State Event Effect)) : List Bytes :=
  past.flatMap fun r => r.effects.filterMap fun
    | .accept data => some data
    | _ => none

def handed (past : List (Round State Event Effect)) : List Bytes :=
  past.flatMap fun r => r.effects.flatMap fun
    | .asyncWrite batch => batch
    | _ => []

theorem acceptedSnoc (past : List (Round State Event Effect)) (r : Round State Event Effect) :
    accepted (past ++ [r]) = accepted past ++ accepted [r] := List.flatMap_append

theorem handedSnoc (past : List (Round State Event Effect)) (r : Round State Event Effect) :
    handed (past ++ [r]) = handed past ++ handed [r] := List.flatMap_append

structure Good (past : List (Round State Event Effect)) (s : State) : Prop where
  sound : s.fault = false
  counted : s.writeQueue.Counted List.length
  bounded : total List.length s.writeQueue.items.tail ≤ writeHighWaterMark
  one : s.inFlight.length ≤ 1
  order : handed past <+: accepted past
  pending : s.socketOpen = true →
    Pending (accepted past) (handed past) s.writeQueue.items s.inFlight
  filled : ∀ batch ∈ s.inFlight, batch ≠ []
  closed : s.socketOpen = false → s.writeQueue.items = []
  ended : s.socketOpen = true ∨ ∃ r ∈ past, r.event = .shutdown

theorem Good.idle (good : Good past s) (opened : s.socketOpen = true)
    (empty : s.writeQueue.items = []) : s.inFlight = [] ∧ accepted past = handed past := by
  have pending := good.pending opened
  rw [empty] at pending
  refine ⟨?_,pendingEmpty pending⟩
  have front := (pendingFront pending).2
  cases flight : s.inFlight with
  | nil => rfl
  | cons batch rest =>
    have member : batch ∈ s.inFlight := by simp [flight]
    exact absurd (List.prefix_nil.mp (front batch member)) (good.filled batch member)

theorem Good.popped (good : Good past s) (opened : s.socketOpen = true)
    (there : s.inFlight[i]? = some batch) :
    ∃ rest, s.writeQueue.items = batch ++ rest ∧ accepted past = handed past ++ rest ∧
      s.writeQueue.popMany List.length batch.length = some ⟨rest,total List.length rest⟩ := by
  have pending := good.pending opened
  rw [(onlyFlight good.one there).1] at pending
  obtain ⟨rest,whole,split⟩ := pendingBatch pending
  exact ⟨rest,whole,split,popBatch good.counted whole⟩

theorem lastEnded (good : Good past s) (r : Round State Event Effect) :
    s.socketOpen = true ∨ ∃ x ∈ past ++ [r], x.event = .shutdown := by
  rcases good.ended with opened | ⟨x,member,event⟩
  · exact .inl opened
  · exact .inr ⟨x,List.mem_append_left _ member,event⟩

theorem erasedFlight (i : Nat) :
    (s.inFlight.eraseIdx i).length ≤ s.inFlight.length ∧
      ∀ batch ∈ s.inFlight.eraseIdx i, batch ∈ s.inFlight :=
  ⟨List.length_eraseIdx_le _ _,fun _ member => List.mem_of_mem_eraseIdx member⟩

theorem quietGood (good : Good past s)
    (quiet : accepted [⟨s,e,next,effects⟩] = [] ∧ handed [⟨s,e,next,effects⟩] = [])
    (same : next.fault = s.fault ∧ next.writeQueue = s.writeQueue ∧ next.socketOpen = s.socketOpen)
    (flight : next.inFlight = s.inFlight ∨ ∃ i, next.inFlight = s.inFlight.eraseIdx i) :
    Good (past ++ [⟨s,e,next,effects⟩]) next := by
  obtain ⟨fault,queue,opened⟩ := same
  have taken : accepted (past ++ [⟨s,e,next,effects⟩]) = accepted past := by
    rw [acceptedSnoc,quiet.1,List.append_nil]
  have given : handed (past ++ [⟨s,e,next,effects⟩]) = handed past := by
    rw [handedSnoc,quiet.2,List.append_nil]
  have fewer : next.inFlight.length ≤ s.inFlight.length ∧
      (∀ batch ∈ next.inFlight, batch ∈ s.inFlight) ∧
      (next.inFlight = s.inFlight ∨ next.inFlight = []) := by
    rcases flight with kept | ⟨i,erased⟩
    · rw [kept]
      exact ⟨Nat.le_refl _,fun _ member => member,.inl rfl⟩
    · rw [erased]
      obtain ⟨short,inside⟩ := erasedFlight (s := s) i
      refine ⟨short,inside,?_⟩
      cases there : s.inFlight[i]? with
      | none =>
        left
        exact List.eraseIdx_of_length_le (List.getElem?_eq_none_iff.mp there)
      | some batch => exact .inr (onlyFlight good.one there).2
  refine ⟨fault.trans good.sound,?_,?_,Nat.le_trans fewer.1 good.one,?_,?_,?_,?_,?_⟩
  · rw [queue]
    exact good.counted
  · rw [queue]
    exact good.bounded
  · rw [taken,given]
    exact good.order
  · intro open_
    rw [taken,given,queue]
    have pending := good.pending (opened.symm.trans open_)
    rcases fewer.2.2 with kept | none_
    · rwa [kept]
    · rw [none_]
      exact pendingDropped pending
  · intro batch member
    exact good.filled batch (fewer.2.1 batch member)
  · intro closed
    rw [queue]
    exact good.closed (opened.symm.trans closed)
  · rw [opened]
    exact lastEnded good _

theorem openGood {r : Round State Event Effect} (opened : r.next.socketOpen = true)
    (sound : r.next.fault = false) (counted : r.next.writeQueue.Counted List.length)
    (bounded : total List.length r.next.writeQueue.items.tail ≤ writeHighWaterMark)
    (filled : ∀ batch ∈ r.next.inFlight, batch ≠ [])
    (pending : Pending (accepted past ++ accepted [r]) (handed past ++ handed [r])
      r.next.writeQueue.items r.next.inFlight) :
    Good (past ++ [r]) r.next := by
  rw [← acceptedSnoc,← handedSnoc] at pending
  refine ⟨sound,counted,bounded,(pendingFront pending).1,pendingPrefix pending,fun _ => pending,
    filled,?_,.inl opened⟩
  intro closed
  rw [opened] at closed
  cases closed

theorem goodMove (good : Good past s) (move : Move s e next effects) :
    Good (past ++ [⟨s,e,next,effects⟩]) next := by
  cases move with
  | same e idle => exact quietGood good ⟨rfl,rfl⟩ ⟨rfl,rfl,rfl⟩ (.inl rfl)
  | dropped i error n ended => exact quietGood good ⟨rfl,rfl⟩ ⟨rfl,rfl,rfl⟩ (.inr ⟨i,rfl⟩)
  | overflow data live => exact quietGood good ⟨rfl,rfl⟩ ⟨rfl,rfl,rfl⟩ (.inl rfl)
  | failed i code n live some_ => exact quietGood good ⟨rfl,rfl⟩ ⟨rfl,rfl,rfl⟩ (.inr ⟨i,rfl⟩)
  | underflow data front rest items short =>
    have bytes := countedFront good.counted items
    omega
  | first data live empty =>
    obtain ⟨free,level⟩ := good.idle live.1 empty
    have pending : Pending (accepted past ++ [data]) (handed past ++ [data]) [data] [[data]] :=
      ⟨[data],[],rfl,by rw [level,List.append_nil],.inl rfl⟩
    refine openGood live.1 good.sound (countedPush good.counted data) ?_ ?_ ?_
    · simp [Queue.push,empty]
    · simp [free]
    · simp only [Queue.push,empty,free]
      exact pending
  | queued data live front rest items room =>
    have bytes := countedFront good.counted items
    have pending := pendingPush (good.pending live.1) data
    refine openGood live.1 good.sound (countedPush good.counted data) ?_ good.filled ?_
    · simp only [Queue.push,items,List.cons_append,List.tail_cons,totalAppend,totalCons,totalNil]
      omega
    · rw [← List.append_nil (handed past)] at pending
      exact pending
  | missing i n batch there live lost =>
    obtain ⟨rest,-,-,popped⟩ := good.popped live.1 there
    rw [lost] at popped
    cases popped
  | next i n batch there live queue popped more =>
    obtain ⟨rest,whole,split,taken⟩ := good.popped live.1 there
    cases Option.some.inj (popped.symm.trans taken)
    have free := (onlyFlight good.one there).2
    have pending : Pending (accepted past) (handed past ++ rest) rest [rest] :=
      ⟨rest,[],(List.append_nil rest).symm,by rw [split,List.append_nil],.inl rfl⟩
    refine openGood live.1 good.sound rfl ?_ ?_ ?_
    · have bounded := good.bounded
      rw [whole] at bounded
      exact Nat.le_trans (totalTail batch rest) bounded
    · simpa [free] using more
    · simpa [accepted,handed,free] using pending
  | drained i n batch there live queue popped empty =>
    obtain ⟨rest,whole,split,taken⟩ := good.popped live.1 there
    cases Option.some.inj (popped.symm.trans taken)
    have free := (onlyFlight good.one there).2
    have pending := pendingIdle split
    refine openGood live.1 good.sound rfl ?_ ?_ ?_
    · have bounded := good.bounded
      rw [whole] at bounded
      exact Nat.le_trans (totalTail batch rest) bounded
    · simp [free]
    · simpa [accepted,handed,free] using pending
  | shutdown =>
    refine ⟨good.sound,rfl,Nat.zero_le _,good.one,?_,fun opened => (by cases opened),good.filled,
      fun _ => rfl,.inr ⟨_,List.mem_append_right _ List.mem_cons_self,rfl⟩⟩
    rw [acceptedSnoc,handedSnoc]
    simpa [accepted,handed] using good.order

/- Nothing starts a write any more: the socket or the callback is gone, or a failed write left its
batch in the queue. -/
def Stuck (s : State) : Prop :=
  s.socketOpen = false ∨ s.writeCallback = false ∨ (s.inFlight = [] ∧ s.writeQueue.items ≠ [])

theorem stuckMove (stuck : Stuck s) (move : Move s e next effects) :
    Stuck next ∧ ∀ batch, .asyncWrite batch ∉ effects := by
  cases move with
  | same e idle => exact ⟨stuck,nofun⟩
  | dropped i error n ended =>
    refine ⟨?_,nofun⟩
    rcases stuck with closed | silent | ⟨free,filled⟩
    · exact .inl closed
    · exact .inr (.inl silent)
    · exact .inr (.inr ⟨by simp [free],filled⟩)
  | first data live empty =>
    rcases stuck with closed | silent | ⟨-,filled⟩
    · rw [live.1] at closed
      cases closed
    · rw [live.2] at silent
      cases silent
    · exact absurd empty filled
  | underflow data front rest items short => exact ⟨stuck,nofun⟩
  | overflow data live => exact ⟨.inr (.inl rfl),by simp⟩
  | queued data live front rest items room =>
    refine ⟨?_,by simp⟩
    rcases stuck with closed | silent | ⟨free,filled⟩
    · exact .inl closed
    · exact .inr (.inl silent)
    · exact .inr (.inr ⟨free,by simp [Queue.push]⟩)
  | failed i code n live some_ =>
    refine ⟨?_,by simp⟩
    rcases stuck with closed | silent | ⟨free,filled⟩
    · exact .inl closed
    · exact .inr (.inl silent)
    · exact .inr (.inr ⟨by simp [free],filled⟩)
  | missing i n batch there live lost =>
    refine ⟨?_,nofun⟩
    rcases stuck with closed | silent | ⟨free,filled⟩
    · exact .inl closed
    · exact .inr (.inl silent)
    · simp [free] at there
  | next i n batch there live queue popped more =>
    rcases stuck with closed | silent | ⟨free,-⟩
    · rw [live.1] at closed
      cases closed
    · rw [live.2] at silent
      cases silent
    · simp [free] at there
  | drained i n batch there live queue popped empty =>
    refine ⟨?_,by simp⟩
    rcases stuck with closed | silent | ⟨free,-⟩
    · exact .inl closed
    · exact .inr (.inl silent)
    · simp [free] at there
  | shutdown => exact ⟨.inl rfl,nofun⟩

theorem silentMove (silent : s.writeCallback = false) (move : Move s e next effects) :
    next.writeCallback = false ∧ ∀ error n, .callback error n ∉ effects := by
  have dead : ¬(s.socketOpen = true ∧ s.writeCallback = true) := by simp [silent]
  cases move with
  | same e idle => exact ⟨silent,nofun⟩
  | dropped i error n ended => exact ⟨silent,nofun⟩
  | underflow data front rest items short => exact ⟨silent,nofun⟩
  | shutdown => exact ⟨rfl,nofun⟩
  | first data live empty => exact absurd live dead
  | overflow data live => exact absurd live dead
  | queued data live front rest items room => exact absurd live dead
  | failed i code n live some_ => exact absurd live dead
  | missing i n batch there live lost => exact absurd live dead
  | next i n batch there live queue popped more => exact absurd live dead
  | drained i n batch there live queue popped empty => exact absurd live dead

def Overflowed (r : Round State Event Effect) : Prop :=
  .callback (some .noBufferSpace) 0 ∈ r.effects

def Failed (r : Round State Event Effect) : Prop :=
  ∃ i code n batch, r.event = .completed i (some code) n ∧ r.state.inFlight[i]? = some batch

theorem overflowSilent (move : Move s e next effects)
    (spent : .callback (some .noBufferSpace) 0 ∈ effects) : next.writeCallback = false := by
  cases move <;> simp_all

theorem failedStuck {code n : Nat} (good : Good past s) (there : s.inFlight[i]? = some batch)
    (move : Move s (.completed i (some code) n) next effects) : Stuck next := by
  have free := (onlyFlight good.one there).2
  have member : batch ∈ s.inFlight := List.mem_of_getElem? there
  cases move with
  | same e idle =>
    rw [idle i _ n rfl] at there
    cases there
  | dropped i error n ended =>
    rcases ended with closed | empty | silent
    · exact .inl closed
    · cases opened : s.socketOpen with
      | false => exact .inl rfl
      | true =>
        rw [(good.idle opened empty).1] at member
        cases member
    · exact .inr (.inl silent)
  | failed i code n live some_ => exact .inr (.inr ⟨free,some_⟩)

theorem stuckRounds (stuck : Stuck s) (events : List Event) :
    ∀ r ∈ rounds step s events, ∀ batch, .asyncWrite batch ∉ r.effects := by
  intro r member
  have held := roundsInvariant (P := Stuck) stuck (fun s e now => (stuckMove now (stepMove s e)).1)
    r member
  have quiet := (stuckMove held.1 (stepMove r.state r.event)).2
  rwa [held.2] at quiet

theorem silentRounds (silent : s.writeCallback = false) (events : List Event) :
    ∀ r ∈ rounds step s events, ∀ error n, .callback error n ∉ r.effects := by
  intro r member
  have held := roundsInvariant (P := fun s => s.writeCallback = false) silent
    (fun s e now => (silentMove now (stepMove s e)).1) r member
  have quiet := (silentMove held.1 (stepMove r.state r.event)).2
  rwa [held.2] at quiet

theorem initialGood : Good [] {} where
  sound := rfl
  counted := rfl
  bounded := Nat.zero_le _
  one := Nat.zero_le _
  order := List.prefix_rfl
  pending _ := pendingIdle rfl
  filled := nofun
  closed := nofun
  ended := .inl rfl

theorem goodRun (events : List Event) : Good (rounds step {} events) (final step {} events) :=
  finalHistory (P := Good) initialGood fun _ s e good => goodMove good (stepMove s e)

theorem afterRound {events : List Event} {before after : List (Round State Event Effect)}
    {r : Round State Event Effect} (cut : rounds step {} events = before ++ r :: after) :
    (Overflowed r ∨ Failed r → ∀ x ∈ after, ∀ batch, .asyncWrite batch ∉ x.effects) ∧
      (Overflowed r → ∀ x ∈ after, ∀ error n, .callback error n ∉ x.effects) := by
  obtain ⟨good,same⟩ := roundsHistory (P := Good) initialGood
    (fun _ s e good => goodMove good (stepMove s e)) cut
  obtain ⟨rest,rfl⟩ := roundsAfter cut
  have move : Move r.state r.event r.next r.effects := by
    rw [same]
    exact stepMove r.state r.event
  constructor
  · intro stopped
    apply stuckRounds
    rcases stopped with spent | ⟨i,code,n,batch,event,there⟩
    · exact .inr (.inl (overflowSilent move spent))
    · rw [event] at move
      exact failedStuck good there move
  · intro spent
    exact silentRounds (overflowSilent move spent) rest

theorem tcpOutput (events : List Event) :
    (final step {} events).inFlight.length ≤ 1 ∧
    handed (rounds step {} events) <+: accepted (rounds step {} events) ∧
    (.shutdown ∉ events → ∀ batch ∈ (final step {} events).inFlight,
      batch <+: (final step {} events).writeQueue.items) ∧
    (final step {} events).writeQueue.bytes =
      total List.length (final step {} events).writeQueue.items ∧
    (final step {} events).fault = false ∧
    total List.length (final step {} events).writeQueue.items.tail ≤ writeHighWaterMark ∧
    ∀ before r after, rounds step {} events = before ++ r :: after →
      (Overflowed r ∨ Failed r → ∀ x ∈ after, ∀ batch, .asyncWrite batch ∉ x.effects) ∧
        (Overflowed r → ∀ x ∈ after, ∀ error n, .callback error n ∉ x.effects) := by
  have good := goodRun events
  refine ⟨good.one,good.order,?_,good.counted,good.sound,good.bounded,
    fun _ _ _ cut => afterRound cut⟩
  intro never
  have opened : (final step {} events).socketOpen = true := by
    rcases good.ended with opened | ⟨r,member,event⟩
    · exact opened
    · have inside := roundsEvent r member
      rw [event] at inside
      exact absurd inside never
  exact (pendingFront (good.pending opened)).2

example : (rounds step {} [.write [1],.write [2],.write [3],.completed 0 none 1,.write [4],
    .completed 0 (some 32) 0,.write [5]]).flatMap (·.effects) =
    [.accept [1],.asyncWrite [[1]],.accept [2],.accept [3],.callback none 1,
      .asyncWrite [[2],[3]],.accept [4],.callback (some (.failed 32)) 0,.accept [5]] := by
  decide

end MediaServer.TcpTransport
