import MediaServer.Bytes
import MediaServer.Controller
import MediaServer.Flv
import MediaServer.WriteQueue

/-! The output queue of http_flv_session: enqueue and start_write with its completion. A chunk carries
the whole queue as it stands when the write starts. -/
namespace MediaServer.FlvQueue
open Controller WriteQueue

structure State where
  outputQueue : Queue Bytes := {}
  inFlight : List (List Bytes) := []
  fault : Bool := false
  deriving DecidableEq, Repr

inductive Event where
  | enqueue (data : Bytes)
  | completed (index : Nat) (error : Bool)
  deriving DecidableEq, Repr

inductive Effect where
  | writeChunk (buffers : List Bytes)
  | returned (result : Bool)
  | shutdown
  deriving DecidableEq, Repr

def maxQueuedOutputBytes : Nat := 4 * 1024 * 1024

def startWrite (s : State) : State × List Effect :=
  ({s with inFlight := s.inFlight ++ [s.outputQueue.items]},[.writeChunk s.outputQueue.items])

def enqueue (s : State) (data : Bytes) : State × List Effect :=
  if data.isEmpty then (s,[.returned true])
  else if s.outputQueue.bytes > maxQueuedOutputBytes ∨
      data.length > maxQueuedOutputBytes - s.outputQueue.bytes then (s,[.returned false])
  else
    let pushed := {s with outputQueue := s.outputQueue.push List.length data}
    if s.outputQueue.items.isEmpty then
      let (next,effects) := startWrite pushed
      (next,effects ++ [.returned true])
    else (pushed,[.returned true])

def onWritten (s : State) (count : Nat) (error : Bool) : State × List Effect :=
  if error then ({s with outputQueue := {}},[.shutdown])
  else match s.outputQueue.popMany List.length count with
    | none => ({s with fault := true},[])
    | some queue =>
      let popped := {s with outputQueue := queue}
      if queue.items.isEmpty then (popped,[]) else startWrite popped

def step (s : State) : Event → State × List Effect
  | .enqueue data => enqueue s data
  | .completed index error =>
    match s.inFlight[index]? with
    | none => (s,[])
    | some batch => onWritten {s with inFlight := s.inFlight.eraseIdx index} batch.length error

inductive Move (s : State) : Event → State → List Effect → Prop where
  | nothing : Move s (.enqueue []) s [.returned true]
  | refused (data : Bytes) (some_ : data ≠ [])
      (full : maxQueuedOutputBytes < s.outputQueue.bytes + data.length) :
      Move s (.enqueue data) s [.returned false]
  | first (data : Bytes) (some_ : data ≠ []) (empty : s.outputQueue.items = [])
      (room : s.outputQueue.bytes + data.length ≤ maxQueuedOutputBytes) :
      Move s (.enqueue data) {s with
        outputQueue := s.outputQueue.push List.length data
        inFlight := s.inFlight ++ [[data]]} [.writeChunk [data],.returned true]
  | queued (data : Bytes) (some_ : data ≠ []) (filled : s.outputQueue.items ≠ [])
      (room : s.outputQueue.bytes + data.length ≤ maxQueuedOutputBytes) :
      Move s (.enqueue data) {s with outputQueue := s.outputQueue.push List.length data}
        [.returned true]
  | absent (i : Nat) (error : Bool) (none_ : s.inFlight[i]? = none) :
      Move s (.completed i error) s []
  | failed (i : Nat) (batch : List Bytes) (there : s.inFlight[i]? = some batch) :
      Move s (.completed i true) {s with inFlight := s.inFlight.eraseIdx i, outputQueue := {}}
        [.shutdown]
  | missing (i : Nat) (batch : List Bytes) (there : s.inFlight[i]? = some batch)
      (lost : s.outputQueue.popMany List.length batch.length = none) :
      Move s (.completed i false) {s with inFlight := s.inFlight.eraseIdx i, fault := true} []
  | drained (i : Nat) (batch : List Bytes) (there : s.inFlight[i]? = some batch)
      (queue : Queue Bytes)
      (popped : s.outputQueue.popMany List.length batch.length = some queue)
      (empty : queue.items = []) :
      Move s (.completed i false)
        {s with inFlight := s.inFlight.eraseIdx i, outputQueue := queue} []
  | next (i : Nat) (batch : List Bytes) (there : s.inFlight[i]? = some batch)
      (queue : Queue Bytes)
      (popped : s.outputQueue.popMany List.length batch.length = some queue)
      (more : queue.items ≠ []) :
      Move s (.completed i false)
        {s with inFlight := s.inFlight.eraseIdx i ++ [queue.items], outputQueue := queue}
        [.writeChunk queue.items]

theorem enqueueMove (s : State) (data : Bytes) :
    Move s (.enqueue data) (enqueue s data).1 (enqueue s data).2 := by
  unfold enqueue
  split
  · rename_i none_
    cases List.isEmpty_iff.mp none_
    exact .nothing
  · rename_i some_
    rw [List.isEmpty_iff] at some_
    split
    · exact .refused data some_ (by omega)
    · rename_i room
      split
      · rename_i none_
        have empty : s.outputQueue.items = [] := List.isEmpty_iff.mp none_
        simpa [startWrite,Queue.push,empty] using Move.first data some_ empty (by omega)
      · rename_i filled
        exact .queued data some_ (by simpa using filled) (by omega)

variable {s next : State} {i : Nat} {batch : List Bytes} {effects : List Effect} {e : Event}

theorem completionMove (there : s.inFlight[i]? = some batch) (error : Bool) :
    Move s (.completed i error)
      (onWritten {s with inFlight := s.inFlight.eraseIdx i} batch.length error).1
      (onWritten {s with inFlight := s.inFlight.eraseIdx i} batch.length error).2 := by
  unfold onWritten
  cases error with
  | true => exact .failed i batch there
  | false =>
    dsimp only
    rw [if_neg (by decide)]
    split
    · rename_i lost
      exact .missing i batch there lost
    · rename_i queue popped
      split
      · rename_i empty
        exact .drained i batch there queue popped (by simpa using empty)
      · rename_i more
        exact .next i batch there queue popped (by simpa using more)

theorem stepMove (s : State) (e : Event) : Move s e (step s e).1 (step s e).2 := by
  cases e with
  | enqueue data => exact enqueueMove s data
  | completed i error =>
    dsimp only [step]
    split
    · rename_i absent
      exact .absent i error absent
    · rename_i batch there
      exact completionMove there error

abbrev Past := List (Round State Event Effect)

def Effect.result : Effect → Option Bool
  | .returned result => some result
  | _ => none

def accepts (r : Round State Event Effect) : List Bytes :=
  match r.event with
  | .enqueue [] | .completed _ _ => []
  | .enqueue data => if .returned true ∈ r.effects then [data] else []

def accepted (past : Past) : List Bytes := past.flatMap accepts

def written (past : Past) : List Bytes :=
  past.flatMap fun r => r.effects.flatMap fun
    | .writeChunk buffers => buffers
    | _ => []

theorem acceptedSnoc (past : Past) (r : Round State Event Effect) :
    accepted (past ++ [r]) = accepted past ++ accepted [r] := List.flatMap_append

theorem writtenSnoc (past : Past) (r : Round State Event Effect) :
    written (past ++ [r]) = written past ++ written [r] := List.flatMap_append

theorem acceptsTaken {data : Bytes} (some_ : data ≠ []) (taken : .returned true ∈ effects) :
    accepts ⟨s,.enqueue data,next,effects⟩ = [data] := by
  cases data with
  | nil => exact absurd rfl some_
  | cons first rest => simp [accepts,taken]

theorem acceptsRefused (s next : State) (data : Bytes) :
    accepts ⟨s,.enqueue data,next,[.returned false]⟩ = [] := by
  cases data with
  | nil => rfl
  | cons first rest => simp [accepts]

def Failed (r : Round State Event Effect) : Prop :=
  ∃ i batch, r.event = .completed i true ∧ r.state.inFlight[i]? = some batch

structure Sound (s : State) : Prop where
  sound : s.fault = false
  counted : s.outputQueue.Counted List.length
  bounded : s.outputQueue.bytes ≤ maxQueuedOutputBytes
  filled : ∀ data ∈ s.outputQueue.items, data ≠ []
  flight : (s.inFlight = [] ∧ s.outputQueue.items = []) ∨
    ∃ batch rest, s.inFlight = [batch] ∧ batch ≠ [] ∧ s.outputQueue.items = batch ++ rest

theorem Sound.one (sound : Sound s) : s.inFlight.length ≤ 1 := by
  rcases sound.flight with ⟨free,-⟩ | ⟨batch,rest,single,-⟩
  · simp [free]
  · simp [single]

theorem Sound.popped (sound : Sound s) (there : s.inFlight[i]? = some batch) :
    s.inFlight.eraseIdx i = [] ∧ ∃ rest, s.inFlight = [batch] ∧ s.outputQueue.items = batch ++ rest ∧
      s.outputQueue.popMany List.length batch.length = some ⟨rest,total List.length rest⟩ := by
  obtain ⟨single,erased⟩ := onlyFlight sound.one there
  rcases sound.flight with ⟨free,-⟩ | ⟨other,rest,same,-,whole⟩
  · rw [free] at single
    cases single
  · cases single.symm.trans same
    exact ⟨erased,rest,single,whole,popBatch sound.counted whole⟩

theorem soundMove (sound : Sound s) (move : Move s e next effects) : Sound next := by
  cases move with
  | nothing => exact sound
  | refused data some_ full => exact sound
  | absent i error none_ => exact sound
  | first data some_ empty room =>
    have free : s.inFlight = [] := by
      rcases sound.flight with ⟨free,-⟩ | ⟨batch,rest,-,filled,whole⟩
      · exact free
      · rw [empty] at whole
        exact absurd (List.append_eq_nil_iff.mp whole.symm).1 filled
    refine ⟨sound.sound,countedPush sound.counted data,room,?_,
      .inr ⟨[data],[],by simp [free],by simp,by simp [Queue.push,empty]⟩⟩
    simpa [Queue.push,empty] using some_
  | queued data some_ filled room =>
    refine ⟨sound.sound,countedPush sound.counted data,room,?_,?_⟩
    · intro other member
      rcases List.mem_append.mp member with old | last
      · exact sound.filled other old
      · cases List.mem_singleton.mp last
        exact some_
    · rcases sound.flight with ⟨-,empty⟩ | ⟨batch,rest,single,some_,whole⟩
      · exact absurd empty filled
      · exact .inr ⟨batch,rest ++ [data],single,some_,by simp [Queue.push,whole]⟩
  | failed i batch there =>
    exact ⟨sound.sound,rfl,Nat.zero_le _,by simp,.inl ⟨(sound.popped there).1,rfl⟩⟩
  | missing i batch there lost =>
    obtain ⟨-,rest,-,-,popped⟩ := sound.popped there
    rw [lost] at popped
    cases popped
  | drained i batch there queue popped empty =>
    obtain ⟨erased,rest,-,whole,taken⟩ := sound.popped there
    cases Option.some.inj (popped.symm.trans taken)
    cases (show rest = [] from empty)
    exact ⟨sound.sound,rfl,Nat.zero_le _,by simp,.inl ⟨erased,rfl⟩⟩
  | next i batch there queue popped more =>
    obtain ⟨erased,rest,-,whole,taken⟩ := sound.popped there
    cases Option.some.inj (popped.symm.trans taken)
    have bounded := sound.bounded
    rw [sound.counted,whole,totalAppend] at bounded
    refine ⟨sound.sound,rfl,Nat.le_trans (Nat.le_add_left _ _) bounded,?_,
      .inr ⟨rest,[],by simp [erased],more,(List.append_nil rest).symm⟩⟩
    intro data member
    exact sound.filled data (by rw [whole]; exact List.mem_append_right _ member)

/- Up to the first failed write nothing is lost: the accepted buffers are those of the chunks and
then the queue behind the one in flight. -/
def Kept (past : Past) (s : State) : Prop :=
  Sound s ∧ ((∀ r ∈ past, ¬Failed r) → ∃ rest,
    s.outputQueue.items = s.inFlight.flatten ++ rest ∧ accepted past = written past ++ rest)

theorem keptMove {past : Past} (kept : Kept past s) (move : Move s e next effects) :
    Kept (past ++ [⟨s,e,next,effects⟩]) next := by
  refine ⟨soundMove kept.1 move,fun never => ?_⟩
  obtain ⟨rest,whole,split⟩ := kept.2 fun r member => never r (List.mem_append_left _ member)
  rw [acceptedSnoc,writtenSnoc,split]
  have sound := kept.1
  cases move with
  | nothing => exact ⟨rest,whole,by simp [accepted,accepts,written]⟩
  | refused data some_ full => exact ⟨rest,whole,by simp [accepted,acceptsRefused,written]⟩
  | absent i error none_ => exact ⟨rest,whole,by simp [accepted,accepts,written]⟩
  | first data some_ empty room =>
    have blank : s.inFlight.flatten = [] ∧ rest = [] := by
      rw [empty] at whole
      exact List.append_eq_nil_iff.mp whole.symm
    refine ⟨[],?_,?_⟩
    · simp [Queue.push,empty,blank.1]
    · simp [accepted,acceptsTaken some_,written,blank.2]
  | queued data some_ filled room =>
    refine ⟨rest ++ [data],?_,?_⟩
    · simp [Queue.push,whole]
    · simp [accepted,acceptsTaken some_,written]
  | failed i batch there =>
    exact absurd ⟨i,batch,rfl,there⟩ (never _ (List.mem_append_right _ List.mem_cons_self))
  | missing i batch there lost =>
    obtain ⟨-,rest,-,-,popped⟩ := sound.popped there
    rw [lost] at popped
    cases popped
  | drained i batch there queue popped empty =>
    obtain ⟨erased,behind,single,front,taken⟩ := sound.popped there
    cases Option.some.inj (popped.symm.trans taken)
    have same : rest = behind := by
      rw [single,List.flatten_singleton,front] at whole
      exact (List.append_cancel_left whole).symm
    refine ⟨behind,by simp [erased],?_⟩
    simp [accepted,accepts,written,same]
  | next i batch there queue popped more =>
    obtain ⟨erased,behind,single,front,taken⟩ := sound.popped there
    cases Option.some.inj (popped.symm.trans taken)
    have same : rest = behind := by
      rw [single,List.flatten_singleton,front] at whole
      exact (List.append_cancel_left whole).symm
    refine ⟨[],by simp [erased],?_⟩
    simp [accepted,accepts,written,same]

theorem initialKept : Kept [] {} :=
  ⟨⟨rfl,rfl,Nat.zero_le _,nofun,.inl ⟨rfl,rfl⟩⟩,fun _ => ⟨[],rfl,rfl⟩⟩

theorem keptRun (events : List Event) : Kept (rounds step {} events) (final step {} events) :=
  finalHistory (P := Kept) initialKept fun _ s e kept => keptMove kept (stepMove s e)

theorem chunkFilled (sound : Sound s) (move : Move s e next effects) {buffers : List Bytes}
    (here : .writeChunk buffers ∈ effects) : buffers.flatten ≠ [] := by
  have later := soundMove sound move
  have items : buffers = next.outputQueue.items ∧ buffers ≠ [] := by
    cases move with
    | first data some_ empty room =>
      simp only [List.mem_cons,Effect.writeChunk.injEq,reduceCtorEq,List.not_mem_nil,or_false] at here
      subst here
      simp [Queue.push,empty]
    | next i batch there queue popped more =>
      simp only [List.mem_singleton,Effect.writeChunk.injEq] at here
      subst here
      exact ⟨rfl,more⟩
    | _ => simp at here
  intro blank
  obtain ⟨data,member⟩ := List.exists_mem_of_ne_nil _ items.2
  have empty := List.flatten_eq_nil_iff.mp blank data member
  exact later.filled data (items.1 ▸ member) empty

theorem refusedSame (move : Move s e next effects) (refused : .returned false ∈ effects) :
    next = s := by
  cases move with
  | refused => rfl
  | _ => simp at refused

theorem enqueueResult {data : Bytes} (sound : Sound s) (move : Move s (.enqueue data) next effects) :
    ∃ result, effects.filterMap Effect.result = [result] ∧
      (result = true ↔ data = [] ∨ s.outputQueue.bytes + data.length ≤ maxQueuedOutputBytes) := by
  have bounded := sound.bounded
  cases move with
  | nothing => exact ⟨true,rfl,by simp⟩
  | refused _ some_ full => exact ⟨false,rfl,by simp [some_]; omega⟩
  | first _ some_ empty room => exact ⟨true,rfl,by simp [room]⟩
  | queued _ some_ filled room => exact ⟨true,rfl,by simp [room]⟩

theorem completionDrops (sound : Sound s) (move : Move s (.completed i false) next effects)
    (there : s.inFlight[i]? = some batch) :
    s.outputQueue.items = batch ++ next.outputQueue.items := by
  obtain ⟨-,rest,-,whole,taken⟩ := sound.popped there
  cases move with
  | absent _ _ none_ =>
    rw [none_] at there
    cases there
  | missing _ other here lost =>
    cases Option.some.inj (here.symm.trans there)
    rw [lost] at taken
    cases taken
  | drained _ other here queue popped empty =>
    cases Option.some.inj (here.symm.trans there)
    cases Option.some.inj (popped.symm.trans taken)
    exact whole
  | next _ other here queue popped more =>
    cases Option.some.inj (here.symm.trans there)
    cases Option.some.inj (popped.symm.trans taken)
    exact whole

theorem Sound.idle (sound : Sound s) (free : s.inFlight = []) : s.outputQueue.items = [] := by
  rcases sound.flight with ⟨-,empty⟩ | ⟨batch,rest,single,-⟩
  · exact empty
  · rw [free] at single
    cases single

theorem flvOutput (events : List Event) :
    ((∀ r ∈ rounds step {} events, ¬Failed r) → ∃ rest,
      (final step {} events).outputQueue.items = (final step {} events).inFlight.flatten ++ rest ∧
      accepted (rounds step {} events) = written (rounds step {} events) ++ rest) ∧
    ((final step {} events).inFlight = [] → (final step {} events).outputQueue.items = []) ∧
    (∀ r ∈ rounds step {} events, ∀ buffers, .writeChunk buffers ∈ r.effects →
      buffers.flatten ≠ []) ∧
    (final step {} events).inFlight.length ≤ 1 ∧
    (final step {} events).outputQueue.bytes =
      total List.length (final step {} events).outputQueue.items ∧
    (final step {} events).outputQueue.bytes ≤ maxQueuedOutputBytes ∧
    (final step {} events).fault = false ∧
    (∀ r ∈ rounds step {} events, ∀ i batch, r.event = .completed i false →
      r.state.inFlight[i]? = some batch →
        r.state.outputQueue.items = batch ++ r.next.outputQueue.items) ∧
    (∀ r ∈ rounds step {} events, ∀ data, r.event = .enqueue data →
      ∃ result, r.effects.filterMap Effect.result = [result] ∧
        (result = true ↔ data = [] ∨
          r.state.outputQueue.bytes + data.length ≤ maxQueuedOutputBytes)) ∧
    ∀ r ∈ rounds step {} events, .returned false ∈ r.effects → r.next = r.state := by
  have kept := keptRun events
  have moved : ∀ r ∈ rounds step {} events,
      Sound r.state ∧ Move r.state r.event r.next r.effects := by
    intro r member
    obtain ⟨sound,same⟩ := roundsInvariant (P := Sound) initialKept.1
      (fun s e sound => soundMove sound (stepMove s e)) r member
    have move := stepMove r.state r.event
    rw [same] at move
    exact ⟨sound,move⟩
  refine ⟨kept.2,kept.1.idle,?_,kept.1.one,kept.1.counted,kept.1.bounded,kept.1.sound,?_,?_,?_⟩
  · intro r member buffers here
    exact chunkFilled (moved r member).1 (moved r member).2 here
  · intro r member i batch event there
    obtain ⟨sound,move⟩ := moved r member
    rw [event] at move
    exact completionDrops sound move there
  · intro r member data event
    obtain ⟨sound,move⟩ := moved r member
    rw [event] at move
    exact enqueueResult sound move
  · intro r member refused
    exact refusedSame (moved r member).2 refused

def room (encode : List Flv.Out → Bytes) (s : State) (_ : List (List Flv.Out))
    (data : List Flv.Out) : Bool :=
  s.outputQueue.bytes + (encode data).length ≤ maxQueuedOutputBytes

theorem sessionEnqueues {encode : List Flv.Out → Bytes}
    (blank : ∀ outs, encode outs = [] ↔ outs = []) (s : State) (h : Flv.HttpFlvSession) :
    (h.enqueue (room encode s)).outputQueue.map encode = h.outputQueue.map encode ++
        accepts (.of step s (.enqueue (encode h.outputBuffer))) ∧
      ((h.enqueue (room encode s)).closing = true ↔
        h.closing = true ∨ .returned false ∈ (enqueue s (encode h.outputBuffer)).2) := by
  have move := enqueueMove s (encode h.outputBuffer)
  have same : Round.of step s (.enqueue (encode h.outputBuffer)) =
      ⟨s,.enqueue (encode h.outputBuffer),(enqueue s (encode h.outputBuffer)).1,
        (enqueue s (encode h.outputBuffer)).2⟩ := rfl
  rw [same]
  unfold Flv.HttpFlvSession.enqueue
  generalize made : encode h.outputBuffer = data at move ⊢
  generalize (enqueue s data).1 = next at move ⊢
  generalize (enqueue s data).2 = effects at move ⊢
  cases move with
  | nothing => simp [(blank _).mp made,accepts]
  | refused _ some_ full =>
    have filled : h.outputBuffer ≠ [] := fun none_ => some_ (made ▸ (blank _).mpr none_)
    simp [filled,room,made,acceptsRefused,show ¬s.outputQueue.bytes + data.length ≤
      maxQueuedOutputBytes by omega]
  | first _ some_ empty fits =>
    have filled : h.outputBuffer ≠ [] := fun none_ => some_ (made ▸ (blank _).mpr none_)
    simp [filled,room,made,acceptsTaken some_,fits]
  | queued _ some_ more fits =>
    have filled : h.outputBuffer ≠ [] := fun none_ => some_ (made ▸ (blank _).mpr none_)
    simp [filled,room,made,acceptsTaken some_,fits]

example : (rounds step {} [.enqueue [1],.enqueue [],.enqueue [2],.enqueue [3],
    .completed 0 false]).flatMap (·.effects) =
    [.writeChunk [[1]],.returned true,.returned true,.returned true,.returned true,
      .writeChunk [[2],[3]]] := by
  decide

end MediaServer.FlvQueue
