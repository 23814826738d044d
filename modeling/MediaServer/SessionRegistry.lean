import MediaServer.Controller
import MediaServer.Table

/-! media/core/session_registry: the receiver and the senders of every stream. Receivers and senders
of a stream share an entry, which is made with its first session and erased with its last. Over the
entries, the registry is a map from slots to objects. -/
namespace MediaServer.SessionRegistry
open Controller

variable {Stream Sender Object : Type} [DecidableEq Stream] [DecidableEq Sender]

structure Entry (Sender Object : Type) where
  receiver : Option Object
  senders : Table Sender Object

def Entry.vacant : Entry Sender Object := ⟨none,∅⟩

def Entry.empty (entry : Entry Sender Object) : Bool :=
  entry.receiver.isNone && entry.senders.entries.isEmpty

structure Registry (Stream Sender Object : Type) where
  sessions : Table Stream (Entry Sender Object)
  stopping : Bool

namespace Registry

def initial : Registry Stream Sender Object := ⟨∅,false⟩

def tryEmplace (s : Registry Stream Sender Object) (stream : Stream) :
    Registry Stream Sender Object × Entry Sender Object :=
  match s.sessions.get stream with
  | some entry => (s,entry)
  | none => ({s with sessions := s.sessions.set stream .vacant},.vacant)

def shrink (s : Registry Stream Sender Object) (stream : Stream) (entry : Entry Sender Object) :
    Registry Stream Sender Object :=
  {s with sessions :=
    if entry.empty then s.sessions.delete stream else s.sessions.set stream entry}

def addReceiverSession (s : Registry Stream Sender Object) (stream : Stream) (session : Object) :
    Registry Stream Sender Object × Bool :=
  if s.stopping then (s,false)
  else
    let (s,entry) := s.tryEmplace stream
    if entry.receiver.isSome then (s,false)
    else ({s with sessions := s.sessions.set stream {entry with receiver := some session}},true)

def findReceiverSession (s : Registry Stream Sender Object) (stream : Stream) : Option Object :=
  (s.sessions.get stream).bind (·.receiver)

def takeReceiverSession (s : Registry Stream Sender Object) (stream : Stream) :
    Registry Stream Sender Object × Option Object :=
  match s.sessions.get stream with
  | none => (s,none)
  | some entry =>
    if entry.receiver.isNone then (s,none)
    else (s.shrink stream {entry with receiver := none},entry.receiver)

def removeReceiverSession [DecidableEq Object] (s : Registry Stream Sender Object) (stream : Stream)
    (expected : Object) : Registry Stream Sender Object :=
  match s.sessions.get stream with
  | none => s
  | some entry =>
    if entry.receiver ≠ some expected then s
    else s.shrink stream {entry with receiver := none}

def addSenderSession (s : Registry Stream Sender Object) (stream : Stream) (sender : Sender)
    (session : Object) : Registry Stream Sender Object × Bool :=
  if s.stopping then (s,false)
  else
    let (s,entry) := s.tryEmplace stream
    if (entry.senders.get sender).isSome then (s,false)
    else ({s with sessions :=
      s.sessions.set stream {entry with senders := entry.senders.set sender session}},true)

def findSenderSession (s : Registry Stream Sender Object) (stream : Stream) (sender : Sender) :
    Option Object :=
  (s.sessions.get stream).bind (·.senders.get sender)

def takeSenderSession (s : Registry Stream Sender Object) (stream : Stream) (sender : Sender) :
    Registry Stream Sender Object × Option Object :=
  match s.sessions.get stream with
  | none => (s,none)
  | some entry =>
    match entry.senders.get sender with
    | none => (s,none)
    | some session =>
      (s.shrink stream {entry with senders := entry.senders.delete sender},some session)

def removeSenderSession [DecidableEq Object] (s : Registry Stream Sender Object) (stream : Stream)
    (sender : Sender) (expected : Object) : Registry Stream Sender Object :=
  match s.sessions.get stream with
  | none => s
  | some entry =>
    if entry.senders.get sender ≠ some expected then s
    else s.shrink stream {entry with senders := entry.senders.delete sender}

def detached (s : Registry Stream Sender Object) : List Object :=
  s.sessions.entries.flatMap fun (_,entry) =>
    entry.receiver.toList ++ entry.senders.entries.map (·.2)

end Registry

inductive Slot (Stream Sender : Type) where
  | receiver (stream : Stream)
  | sender (stream : Stream) (sender : Sender)
  deriving DecidableEq, Repr

inductive Operation (Stream Sender Object : Type) where
  | add (slot : Slot Stream Sender) (session : Object)
  | take (slot : Slot Stream Sender)
  | remove (slot : Slot Stream Sender) (expected : Object)
  | find (slot : Slot Stream Sender)
  | shutdownAll
  deriving DecidableEq, Repr

inductive Effect (Object : Type) where
  | added (ok : Bool)
  | taken (session : Option Object)
  | found (session : Option Object)
  | shutdown (session : Object)
  deriving DecidableEq, Repr

def find (s : Registry Stream Sender Object) : Slot Stream Sender → Option Object
  | .receiver stream => s.findReceiverSession stream
  | .sender stream sender => s.findSenderSession stream sender

def add (s : Registry Stream Sender Object) (session : Object) :
    Slot Stream Sender → Registry Stream Sender Object × Bool
  | .receiver stream => s.addReceiverSession stream session
  | .sender stream sender => s.addSenderSession stream sender session

def take (s : Registry Stream Sender Object) :
    Slot Stream Sender → Registry Stream Sender Object × Option Object
  | .receiver stream => s.takeReceiverSession stream
  | .sender stream sender => s.takeSenderSession stream sender

def remove [DecidableEq Object] (s : Registry Stream Sender Object) (expected : Object) :
    Slot Stream Sender → Registry Stream Sender Object
  | .receiver stream => s.removeReceiverSession stream expected
  | .sender stream sender => s.removeSenderSession stream sender expected

def step [DecidableEq Object] (s : Registry Stream Sender Object) : Operation Stream Sender Object →
    Registry Stream Sender Object × List (Effect Object)
  | .add slot session => ((add s session slot).1,[.added (add s session slot).2])
  | .take slot => ((take s slot).1,[.taken (take s slot).2])
  | .remove slot expected => (remove s expected slot,[])
  | .find slot => (s,[.found (find s slot)])
  | .shutdownAll => (⟨∅,true⟩,s.detached.map .shutdown)

def Inhabited (s : Registry Stream Sender Object) : Prop :=
  ∀ stream entry, s.sessions.get stream = some entry → entry.empty = false

def Puts (s next : Registry Stream Sender Object) (slot : Slot Stream Sender)
    (content : Option Object) : Prop :=
  next.stopping = s.stopping ∧
    ∀ other, find next other = if other = slot then content else find s other

omit [DecidableEq Sender] in
theorem receiverInhabited (entry : Entry Sender Object) (session : Object) :
    ({entry with receiver := some session} : Entry Sender Object).empty = false := rfl

theorem senderInhabited (entry : Entry Sender Object) (sender : Sender) (session : Object) :
    ({entry with senders := entry.senders.set sender session} :
      Entry Sender Object).empty = false := by
  have member : (sender,session) ∈ (entry.senders.set sender session).entries :=
    Table.memEntries.mpr (by simp)
  have some_ : (entry.senders.set sender session).entries.isEmpty = false :=
    List.isEmpty_eq_false_iff.mpr (List.ne_nil_of_mem member)
  simp [Entry.empty,some_]

variable {entry : Entry Sender Object} {s : Registry Stream Sender Object} {stream : Stream}
  {content : Option Object}

theorem emptyEntry (empty : entry.empty = true) :
    entry.receiver = none ∧ ∀ sender, entry.senders.get sender = none := by
  simp only [Entry.empty,Bool.and_eq_true,Option.isNone_iff_eq_none,List.isEmpty_iff] at empty
  refine ⟨empty.1,?_⟩
  intro sender
  cases here : entry.senders.get sender with
  | none => rfl
  | some session =>
    have member := Table.memEntries.mpr here
    rw [empty.2] at member
    exact nomatch member

theorem findShrink (s : Registry Stream Sender Object) (stream : Stream)
    (entry : Entry Sender Object) (slot : Slot Stream Sender) :
    find (s.shrink stream entry) slot =
      find ({s with sessions := s.sessions.set stream entry} : Registry Stream Sender Object)
        slot := by
  unfold Registry.shrink
  split
  · rename_i empty
    obtain ⟨receiver,senders⟩ := emptyEntry empty
    cases slot with
    | receiver other =>
      simp only [find,Registry.findReceiverSession,Table.getDelete,Table.getSet]
      split <;> simp [receiver]
    | sender other sender =>
      simp only [find,Registry.findSenderSession,Table.getDelete,Table.getSet]
      split <;> simp [senders]
  · rfl

omit [DecidableEq Sender] in
theorem shrinkInhabited (inhabited : Inhabited s) (stream : Stream) (entry : Entry Sender Object) :
    Inhabited (s.shrink stream entry) := by
  intro other found here
  unfold Registry.shrink at here
  dsimp only at here
  split at here
  · rw [Table.getDelete] at here
    split at here
    · contradiction
    · exact inhabited other found here
  · rename_i some_
    rw [Table.getSet] at here
    split at here
    · cases Option.some.inj here
      exact Bool.eq_false_iff.mpr some_
    · exact inhabited other found here

inductive Moved (s next : Registry Stream Sender Object) :
    Operation Stream Sender Object → List (Effect Object) → Prop where
  | added {slot session} (running : s.stopping = false) (free : find s slot = none)
      (puts : Puts s next slot (some session)) : Moved s next (.add slot session) [.added true]
  | refused {slot session} (taken : s.stopping = true ∨ (find s slot).isSome = true)
      (stopping : next.stopping = s.stopping) (same : ∀ other, find next other = find s other) :
      Moved s next (.add slot session) [.added false]
  | taken {slot} (puts : Puts s next slot none) : Moved s next (.take slot) [.taken (find s slot)]
  | removed {slot expected} (held : find s slot = some expected) (puts : Puts s next slot none) :
      Moved s next (.remove slot expected) []
  | other {slot expected} (differs : find s slot ≠ some expected) (same : next = s) :
      Moved s next (.remove slot expected) []
  | found {slot} (same : next = s) : Moved s next (.find slot) [.found (find s slot)]
  | shutdown {effects} (empty : next.sessions = ∅) (stopping : next.stopping = true)
      (all : ∀ session, .shutdown session ∈ effects ↔ ∃ slot, find s slot = some session) :
      Moved s next .shutdownAll effects

theorem tryEmplaceFind (s : Registry Stream Sender Object) (stream : Stream) :
    (s.tryEmplace stream).1.stopping = s.stopping ∧
      (s.tryEmplace stream).1.sessions.get stream = some (s.tryEmplace stream).2 ∧
      ∀ slot, find (s.tryEmplace stream).1 slot = find s slot := by
  unfold Registry.tryEmplace
  split
  · rename_i entry here
    exact ⟨rfl,here,fun _ => rfl⟩
  · rename_i none_
    refine ⟨rfl,by simp,?_⟩
    intro slot
    cases slot with
    | receiver other =>
      simp only [find,Registry.findReceiverSession,Table.getSet]
      split
      · rename_i same
        rw [same,none_]
        rfl
      · rfl
    | sender other sender =>
      simp only [find,Registry.findSenderSession,Table.getSet]
      split
      · rename_i same
        rw [same,none_]
        rfl
      · rfl

omit [DecidableEq Sender] in
theorem tryEmplaceInhabited (inhabited : Inhabited s) (stream : Stream)
    (some_ : (s.tryEmplace stream).2.empty = false) : Inhabited (s.tryEmplace stream).1 := by
  unfold Registry.tryEmplace at some_ ⊢
  split at some_
  · exact inhabited
  · contradiction

omit [DecidableEq Sender] in
theorem setInhabited (inhabited : Inhabited s) (stream : Stream) (some_ : entry.empty = false) :
    Inhabited (⟨(s.tryEmplace stream).1.sessions.set stream entry,s.stopping⟩ :
      Registry Stream Sender Object) := by
  intro other found here
  change ((s.tryEmplace stream).1.sessions.set stream entry).get other = some found at here
  rw [Table.getSet] at here
  split at here
  · cases Option.some.inj here
    exact some_
  · rename_i differs
    refine inhabited other found ?_
    unfold Registry.tryEmplace at here
    split at here
    · exact here
    · rw [Table.getSet,if_neg differs] at here
      exact here

theorem receiverPuts (here : s.sessions.get stream = some entry) (content : Option Object) :
    Puts s {s with sessions := s.sessions.set stream {entry with receiver := content}}
      (.receiver stream) content := by
  refine ⟨rfl,?_⟩
  intro other
  cases other with
  | receiver stream' =>
    simp only [find,Registry.findReceiverSession,Table.getSet,Slot.receiver.injEq]
    split <;> rfl
  | sender stream' sender =>
    simp only [find,Registry.findSenderSession,Table.getSet,reduceCtorEq,if_false]
    split
    · rename_i same
      rw [same,here]
      rfl
    · rfl

theorem senderPuts {sender : Sender} (here : s.sessions.get stream = some entry)
    {senders : Table Sender Object}
    (table : ∀ other, senders.get other =
      if other = sender then content else entry.senders.get other) :
    Puts s {s with sessions := s.sessions.set stream {entry with senders}}
      (.sender stream sender) content := by
  refine ⟨rfl,?_⟩
  intro other
  cases other with
  | receiver stream' =>
    simp only [find,Registry.findReceiverSession,Table.getSet,reduceCtorEq,if_false]
    split
    · rename_i same
      rw [same,here]
      rfl
    · rfl
  | sender stream' sender' =>
    simp only [find,Registry.findSenderSession,Table.getSet,Slot.sender.injEq]
    by_cases same : stream' = stream
    · subst same
      simp only [if_true,Option.bind_some,table,true_and,here]
    · simp only [same,if_false,false_and]

variable {slot : Slot Stream Sender} {session : Object}

theorem Puts.shrink (puts : Puts s {s with sessions := s.sessions.set stream entry} slot content) :
    Puts s (s.shrink stream entry) slot content :=
  ⟨rfl,fun other => (findShrink s stream entry other).trans (puts.2 other)⟩

theorem Puts.emplaced {next : Registry Stream Sender Object}
    (puts : Puts (s.tryEmplace stream).1 next slot content) : Puts s next slot content := by
  obtain ⟨stopping,_,same⟩ := tryEmplaceFind s stream
  refine ⟨puts.1.trans stopping,?_⟩
  intro other
  rw [puts.2 other,same other]

theorem addMoved (s : Registry Stream Sender Object) (slot : Slot Stream Sender)
    (session : Object) :
    Moved s (add s session slot).1 (.add slot session) [.added (add s session slot).2] := by
  cases slot with
  | receiver stream =>
    obtain ⟨stopping,here,same⟩ := tryEmplaceFind s stream
    have content : find s (.receiver stream) = (s.tryEmplace stream).2.receiver := by
      rw [← same,find,Registry.findReceiverSession,here]
      rfl
    simp only [add,Registry.addReceiverSession]
    split
    · exact .refused (.inl (by assumption)) rfl fun _ => rfl
    · rename_i running
      split
      · exact .refused (.inr (content ▸ by assumption)) stopping same
      · rename_i free
        refine .added (Bool.eq_false_iff.mpr running) ?_ (receiverPuts here (some session)).emplaced
        rw [content]
        simpa using free
  | sender stream sender =>
    obtain ⟨stopping,here,same⟩ := tryEmplaceFind s stream
    have content : find s (.sender stream sender) =
        (s.tryEmplace stream).2.senders.get sender := by
      rw [← same,find,Registry.findSenderSession,here]
      rfl
    simp only [add,Registry.addSenderSession]
    split
    · exact .refused (.inl (by assumption)) rfl fun _ => rfl
    · rename_i running
      split
      · exact .refused (.inr (content ▸ by assumption)) stopping same
      · rename_i free
        refine .added (Bool.eq_false_iff.mpr running) ?_
          (senderPuts here fun other => Table.getSet _ _ _ _).emplaced
        rw [content]
        simpa using free

theorem takeMoved (s : Registry Stream Sender Object) (slot : Slot Stream Sender) :
    Moved s (take s slot).1 (.take slot) [.taken (take s slot).2] := by
  have idle : find s slot = none → Puts s s slot none := by
    intro none_
    refine ⟨rfl,?_⟩
    intro other
    split
    · rename_i same
      rw [same,none_]
    · rfl
  cases slot with
  | receiver stream =>
    have content : (take s (.receiver stream)).2 = find s (.receiver stream) := by
      simp only [take,Registry.takeReceiverSession,find,Registry.findReceiverSession]
      split
      · rename_i none_
        rw [none_]
        rfl
      · rename_i entry here
        rw [here]
        split
        · rename_i free
          simpa using (Option.isNone_iff_eq_none.mp free).symm
        · rfl
    rw [content]
    refine .taken ?_
    simp only [find,Registry.findReceiverSession] at idle
    simp only [take,Registry.takeReceiverSession]
    split
    · rename_i none_
      exact idle (by rw [none_]; rfl)
    · rename_i entry here
      split
      · rename_i free
        exact idle (by rw [here]; exact Option.isNone_iff_eq_none.mp free)
      · exact (receiverPuts here none).shrink
  | sender stream sender =>
    have content : (take s (.sender stream sender)).2 = find s (.sender stream sender) := by
      simp only [take,Registry.takeSenderSession,find,Registry.findSenderSession]
      split
      · rename_i none_
        rw [none_]
        rfl
      · rename_i entry here
        rw [here]
        split
        · rename_i free
          exact free.symm
        · rename_i session held
          exact held.symm
    rw [content]
    refine .taken ?_
    simp only [find,Registry.findSenderSession] at idle
    simp only [take,Registry.takeSenderSession]
    split
    · rename_i none_
      exact idle (by rw [none_]; rfl)
    · rename_i entry here
      split
      · rename_i free
        exact idle (by rw [here]; exact free)
      · exact (senderPuts here fun other => Table.getDelete _ _ _).shrink

theorem detachedAll (s : Registry Stream Sender Object) (session : Object) :
    session ∈ s.detached ↔ ∃ slot, find s slot = some session := by
  simp only [Registry.detached,List.mem_flatMap,Prod.exists,List.mem_append,Option.mem_toList,
    List.mem_map,Table.memEntries]
  constructor
  · rintro ⟨stream,entry,here,receiver | ⟨sender,other,held,same⟩⟩
    · exact ⟨.receiver stream,by simpa [find,Registry.findReceiverSession,here] using receiver⟩
    · subst same
      exact ⟨.sender stream sender,by simpa [find,Registry.findSenderSession,here] using held⟩
  · rintro ⟨slot,held⟩
    cases slot with
    | receiver stream =>
      obtain ⟨entry,here,receiver⟩ := Option.bind_eq_some_iff.mp held
      exact ⟨stream,entry,here,.inl receiver⟩
    | sender stream sender =>
      obtain ⟨entry,here,sends⟩ := Option.bind_eq_some_iff.mp held
      exact ⟨stream,entry,here,.inr ⟨sender,session,sends,rfl⟩⟩

variable [DecidableEq Object]

theorem removeMoved (s : Registry Stream Sender Object) (slot : Slot Stream Sender)
    (expected : Object) : Moved s (remove s expected slot) (.remove slot expected) [] := by
  cases slot with
  | receiver stream =>
    simp only [remove,Registry.removeReceiverSession]
    split
    · rename_i none_
      exact .other (by simp [find,Registry.findReceiverSession,none_]) rfl
    · rename_i entry here
      split
      · rename_i differs
        exact .other (by simpa [find,Registry.findReceiverSession,here] using differs) rfl
      · rename_i held
        refine .removed ?_ (receiverPuts here none).shrink
        simpa [find,Registry.findReceiverSession,here] using held
  | sender stream sender =>
    simp only [remove,Registry.removeSenderSession]
    split
    · rename_i none_
      exact .other (by simp [find,Registry.findSenderSession,none_]) rfl
    · rename_i entry here
      split
      · rename_i differs
        exact .other (by simpa [find,Registry.findSenderSession,here] using differs) rfl
      · rename_i held
        refine .removed ?_ (senderPuts here fun other => Table.getDelete _ _ _).shrink
        simpa [find,Registry.findSenderSession,here] using held

theorem stepMoved (s : Registry Stream Sender Object) (e : Operation Stream Sender Object) :
    Moved s (step s e).1 e (step s e).2 := by
  cases e with
  | add slot session => exact addMoved s slot session
  | take slot => exact takeMoved s slot
  | remove slot expected => exact removeMoved s slot expected
  | find slot => exact .found rfl
  | shutdownAll =>
    refine .shutdown rfl rfl ?_
    intro session
    rw [← detachedAll]
    simp [step]

theorem stepInhabited (s : Registry Stream Sender Object) (e : Operation Stream Sender Object)
    (inhabited : Inhabited s) : Inhabited (step s e).1 := by
  cases e with
  | add slot session =>
    cases slot with
    | receiver stream =>
      simp only [step,add,Registry.addReceiverSession]
      split
      · exact inhabited
      · split
        · rename_i taken
          refine tryEmplaceInhabited inhabited stream ?_
          cases here : (s.tryEmplace stream).2.receiver with
          | none => simp [here] at taken
          | some held => simp [Entry.empty,here]
        · have stopping := (tryEmplaceFind s stream).1
          have set_ := setInhabited inhabited stream
            (receiverInhabited (s.tryEmplace stream).2 session)
          rw [← stopping] at set_
          exact set_
    | sender stream sender =>
      simp only [step,add,Registry.addSenderSession]
      split
      · exact inhabited
      · split
        · rename_i taken
          refine tryEmplaceInhabited inhabited stream ?_
          cases empty : (s.tryEmplace stream).2.empty with
          | false => rfl
          | true => simp [(emptyEntry empty).2 sender] at taken
        · have stopping := (tryEmplaceFind s stream).1
          have set_ := setInhabited inhabited stream
            (senderInhabited (s.tryEmplace stream).2 sender session)
          rw [← stopping] at set_
          exact set_
  | take slot =>
    cases slot with
    | receiver stream =>
      simp only [step,take,Registry.takeReceiverSession]
      split
      · exact inhabited
      · split
        · exact inhabited
        · exact shrinkInhabited inhabited stream _
    | sender stream sender =>
      simp only [step,take,Registry.takeSenderSession]
      split
      · exact inhabited
      · split
        · exact inhabited
        · exact shrinkInhabited inhabited stream _
  | remove slot expected =>
    cases slot with
    | receiver stream =>
      simp only [step,remove,Registry.removeReceiverSession]
      split
      · exact inhabited
      · split
        · exact inhabited
        · exact shrinkInhabited inhabited stream _
    | sender stream sender =>
      simp only [step,remove,Registry.removeSenderSession]
      split
      · exact inhabited
      · split
        · exact inhabited
        · exact shrinkInhabited inhabited stream _
  | find slot => exact inhabited
  | shutdownAll => exact fun _ _ here => nomatch here

abbrev Turn (Stream Sender Object : Type) :=
  Round (Registry Stream Sender Object) (Operation Stream Sender Object) (Effect Object)

def Undoes (slot : Slot Stream Sender) (session : Object) (r : Turn Stream Sender Object) : Prop :=
  find r.state slot = some session ∧ find r.next slot = none ∧
    ((r.event = .take slot ∧ r.effects = [.taken (some session)]) ∨
      r.event = .remove slot session ∨ (r.event = .shutdownAll ∧ .shutdown session ∈ r.effects))

def Adds (slot : Slot Stream Sender) (r : Turn Stream Sender Object) : Prop :=
  ∃ session, r.event = .add slot session ∧ r.effects = [.added true]

/- The rounds behind a successful add: the slot holds the object until one round undoes the add, if
one does, and what is found in the slot afterwards was added later. -/
def UndoneOnce (slot : Slot Stream Sender) (session : Object)
    (after : List (Turn Stream Sender Object)) : Prop :=
  ∃ kept rest, after = kept ++ rest ∧
    (∀ r ∈ kept, find r.state slot = some session ∧ find r.next slot = some session) ∧
    (rest = [] ∨ ∃ u later, rest = u :: later ∧ Undoes slot session u ∧
      ∀ first r last, later = first ++ r :: last → (find r.state slot).isSome = true →
        ∃ a ∈ first, Adds slot a)

theorem heldOn (held : find s slot = some session) (e : Operation Stream Sender Object) :
    find (step s e).1 slot = some session ∨ Undoes slot session (.of step s e) := by
  have moved := stepMoved s e
  have undone : ∀ next, Puts s next slot none → find next slot = none := by
    intro next puts
    rw [puts.2 slot,if_pos rfl]
  generalize same : (step s e).1 = next at moved
  generalize answered : (step s e).2 = effects at moved
  cases moved with
  | @added other added running free puts =>
    refine .inl ?_
    rw [puts.2 slot,if_neg]
    · exact held
    · intro same
      rw [same,free] at held
      contradiction
  | refused taken stopping kept => exact .inl ((kept slot).trans held)
  | @taken other puts =>
    by_cases here : slot = other
    · subst here
      refine .inr ⟨held,?_,.inl ⟨rfl,?_⟩⟩
      · exact (congrArg (find · slot) same).trans (undone next puts)
      · exact answered.trans (by rw [held])
    · exact .inl (by rw [puts.2 slot,if_neg here]; exact held)
  | @removed other expected there puts =>
    by_cases here : slot = other
    · subst here
      rw [held] at there
      cases Option.some.inj there
      refine .inr ⟨held,?_,.inr (.inl rfl)⟩
      exact (congrArg (find · slot) same).trans (undone next puts)
    · exact .inl (by rw [puts.2 slot,if_neg here]; exact held)
  | other differs kept => exact .inl (kept ▸ held)
  | found kept => exact .inl (kept ▸ held)
  | shutdown empty stopping all =>
    refine .inr ⟨held,?_,.inr (.inr ⟨rfl,?_⟩)⟩
    · change find (step s .shutdownAll).1 slot = none
      cases slot <;> rfl
    · change .shutdown session ∈ (step s .shutdownAll).2
      rw [answered]
      exact (all session).mpr ⟨slot,held⟩

theorem freeOn (free : find s slot = none) (e : Operation Stream Sender Object) :
    find (step s e).1 slot = none ∨ Adds slot (.of step s e) := by
  have moved := stepMoved s e
  generalize same : (step s e).1 = next at moved
  generalize answered : (step s e).2 = effects at moved
  have puts : ∀ {other : Slot Stream Sender}, Puts s next other none → find next slot = none := by
    intro other puts
    rw [puts.2 slot]
    split
    · rfl
    · exact free
  cases moved with
  | @added other session running there placed =>
    by_cases here : slot = other
    · subst here
      exact .inr ⟨session,rfl,answered⟩
    · exact .inl (by rw [placed.2 slot,if_neg here]; exact free)
  | refused taken stopping kept => exact .inl ((kept slot).trans free)
  | taken placed => exact .inl (puts placed)
  | removed there placed => exact .inl (puts placed)
  | other differs kept => exact .inl (kept ▸ free)
  | found kept => exact .inl (kept ▸ free)
  | shutdown empty stopping all =>
    refine .inl ?_
    cases slot <;> simp [find,Registry.findReceiverSession,Registry.findSenderSession,empty]

theorem filledLater (free : find s slot = none) {events : List (Operation Stream Sender Object)}
    {first last : List (Turn Stream Sender Object)} {r : Turn Stream Sender Object}
    (cut : rounds step s events = first ++ r :: last) (held : (find r.state slot).isSome = true) :
    ∃ a ∈ first, Adds slot a := by
  induction events generalizing s first with
  | nil => simp [rounds] at cut
  | cons e rest ih =>
    cases first with
    | nil =>
      simp only [rounds,List.nil_append,List.cons.injEq] at cut
      rw [← cut.1,free] at held
      contradiction
    | cons x first =>
      simp only [rounds,List.cons_append,List.cons.injEq] at cut
      obtain ⟨same,cut⟩ := cut
      rcases freeOn free e with still | adds
      · obtain ⟨a,member,added⟩ := ih still cut
        exact ⟨a,List.mem_cons_of_mem _ member,added⟩
      · subst same
        exact ⟨_,List.mem_cons_self,adds⟩

theorem undoneOnce (held : find s slot = some session)
    (events : List (Operation Stream Sender Object)) :
    UndoneOnce slot session (rounds step s events) := by
  induction events generalizing s with
  | nil => exact ⟨[],[],rfl,(fun _ member => nomatch member),.inl rfl⟩
  | cons e rest ih =>
    rcases heldOn held e with still | undone
    · obtain ⟨kept,tail,same,holds,ends⟩ := ih still
      refine ⟨_ :: kept,tail,congrArg (_ :: ·) same,?_,ends⟩
      intro r member
      rcases List.mem_cons.mp member with here | later
      · subst here
        exact ⟨held,still⟩
      · exact holds r later
    · refine ⟨[],rounds step s (e :: rest),rfl,(fun _ member => nomatch member),.inr ?_⟩
      refine ⟨.of step s e,rounds step (step s e).1 rest,rfl,undone,?_⟩
      intro first r last cut some_
      exact filledLater undone.2.1 cut some_

theorem stoppedStep (e : Operation Stream Sender Object) :
    (step (⟨∅,true⟩ : Registry Stream Sender Object) e).1 = ⟨∅,true⟩ := by
  cases e with
  | add slot session => cases slot <;> rfl
  | take slot => cases slot <;> rfl
  | remove slot expected => cases slot <;> rfl
  | find slot => rfl
  | shutdownAll => rfl

theorem stoppedRounds (events : List (Operation Stream Sender Object)) :
    ∀ r ∈ rounds step (⟨∅,true⟩ : Registry Stream Sender Object) events,
      r.next.sessions = ∅ := by
  intro r member
  obtain ⟨now,moved⟩ := roundsInvariant (P := fun s : Registry Stream Sender Object =>
    s = ⟨∅,true⟩) rfl (fun s e same => same ▸ stoppedStep e) r member
  rw [now] at moved
  have same := congrArg Prod.fst moved
  rw [stoppedStep] at same
  exact (congrArg Registry.sessions same).symm

theorem sessionRegistry (events : List (Operation Stream Sender Object)) :
    (∀ r ∈ rounds step (.initial : Registry Stream Sender Object) events,
      Inhabited r.next ∧ Moved r.state r.next r.event r.effects) ∧
    ∀ before r after,
      rounds step (.initial : Registry Stream Sender Object) events = before ++ r :: after →
      (∀ slot session, r.event = .add slot session → r.effects = [.added true] →
        find r.next slot = some session ∧ UndoneOnce slot session after) ∧
      (r.event = .shutdownAll → r.next.sessions = ∅ ∧ ∀ later ∈ after, later.next.sessions = ∅) := by
  constructor
  · intro r member
    obtain ⟨inhabited,moved⟩ := roundsInvariant (P := fun s : Registry Stream Sender Object =>
      Inhabited s) (by intro _ _ here; simp [Registry.initial] at here) stepInhabited r member
    have kept := stepInhabited r.state r.event inhabited
    have does := stepMoved r.state r.event
    rw [moved] at kept does
    exact ⟨kept,does⟩
  · intro before r after cut
    obtain ⟨rest,run⟩ := roundsAfter cut
    have moved := (roundsInvariant (P := fun _ : Registry Stream Sender Object => True) trivial
      (fun _ _ _ => trivial) r (by rw [cut]; simp)).2
    constructor
    · intro slot session added ok
      have does := stepMoved r.state r.event
      rw [moved,added,ok] at does
      cases does with
      | added running free puts =>
        have held : find r.next slot = some session := by rw [puts.2 slot,if_pos rfl]
        rw [run]
        exact ⟨held,undoneOnce held rest⟩
    · intro stops
      rw [stops] at moved
      have empty : r.next = ⟨∅,true⟩ := (congrArg Prod.fst moved).symm
      rw [run,empty]
      exact ⟨rfl,stoppedRounds rest⟩

end MediaServer.SessionRegistry
