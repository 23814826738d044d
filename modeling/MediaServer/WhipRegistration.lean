import MediaServer.SessionRegistry

/-! WHIP receivers and the registry of sessions. whip::create starts a session, whose read loop then
runs on the worker of its lease, and adds it to the registry afterwards; the tasks of the session and
the calls from outside come in between in any order. -/
namespace MediaServer.Whip
open Controller
open SessionRegistry (Registry Puts Slot)

inductive Owner where
  | whip (session : Nat)
  | other
  deriving DecidableEq, Repr

inductive Create where
  | started
  | added
  | finished
  deriving DecidableEq, Repr

structure Session where
  streamId : Nat
  id : Nat
  create : Create
  reading : Bool
  posted : Nat
  shut : Bool
  deriving DecidableEq, Repr

def Session.pending (session : Session) : Bool := session.reading || session.posted ≠ 0

def Session.shutdown (session : Session) : Session := {session with posted := session.posted + 1}

structure Server where
  registry : Registry Nat Empty Owner
  runtime : Table Nat Nat
  sessions : List Session

def Server.empty : Server := ⟨.initial,∅,[]⟩

/- Datagrams, timers and errors of the transport call shutdown of the session and do nothing else
here. The read of a closed socket fails too. -/
inductive Event where
  | create (streamId id : Nat) (refused started spawned : Bool)
  | add (session : Nat)
  | insert (session : Nat)
  | readFails (session : Nat)
  | shutdown (session : Nat)
  | safeShutdown (session : Nat)
  | remove (id : Nat)
  | takeReceiver (streamId : Nat)
  | shutdownAll
  | whipShutdown
  | addOther (streamId : Nat)
  | removeOther (streamId : Nat)
  deriving DecidableEq, Repr

namespace Server

def receiver (s : Server) (streamId : Nat) : Option Owner := s.registry.findReceiverSession streamId

def edit (s : Server) (i : Nat) (change : Session → Session) : Server :=
  {s with sessions := s.sessions.modify i change}

/- whip::create up to the end of whip_session::startup. Refused covers the checks of the offer, the
verification, the port and the answer. -/
def create (s : Server) (streamId id : Nat) (refused started spawned : Bool) : Server :=
  if (s.receiver streamId).isSome || refused then s
  else if !started then {s with sessions := s.sessions ++ [⟨streamId,id,.finished,false,1,false⟩]}
  else {s with sessions := s.sessions ++ [⟨streamId,id,.started,spawned,0,false⟩]}

def add (s : Server) (i : Nat) (session : Session) : Server :=
  let (registry,added) := s.registry.addReceiverSession session.streamId (.whip i)
  {s with registry := registry}.edit i fun session =>
    if added then {session with create := .added} else {session.shutdown with create := .finished}

def insert (s : Server) (i : Nat) (session : Session) : Server :=
  if (s.runtime.get session.id).isSome then
    s.edit i fun session => {session.shutdown with create := .finished}
  else
    {s with runtime := s.runtime.set session.id i}.edit i fun session =>
      {session with create := .finished}

def safeShutdown (s : Server) (i : Nat) (session : Session) : Server :=
  {s with registry := s.registry.removeReceiverSession session.streamId (.whip i)}.edit i fun session =>
    {session with posted := session.posted - 1, shut := true}

def shutdownEach (s : Server) (chosen : Nat → Session → Bool) : Server :=
  {s with sessions := s.sessions.mapIdx fun i session =>
    if chosen i session then session.shutdown else session}

def remove (s : Server) (id : Nat) : Server :=
  match s.runtime.get id with
  | none => s
  | some i => {s with runtime := s.runtime.delete id}.edit i Session.shutdown

def takeReceiver (s : Server) (streamId : Nat) : Server :=
  let (registry,taken) := s.registry.takeReceiverSession streamId
  match taken with
  | some (.whip i) => {s with registry := registry}.edit i Session.shutdown
  | _ => {s with registry := registry}

def shutdownAll (s : Server) : Server :=
  {s.shutdownEach fun i _ => decide (.whip i ∈ s.registry.detached) with registry := ⟨∅,true⟩}

def whipShutdown (s : Server) : Server :=
  {s.shutdownEach fun i session => decide (s.runtime.get session.id = some i) with runtime := ∅}

end Server

def step (s : Server) : Event → Server × List Empty
  | .create streamId id refused started spawned =>
    (s.create streamId id refused started spawned,[])
  | .add i =>
    match s.sessions[i]? with
    | some session => if session.create = .started then (s.add i session,[]) else (s,[])
    | none => (s,[])
  | .insert i =>
    match s.sessions[i]? with
    | some session => if session.create = .added then (s.insert i session,[]) else (s,[])
    | none => (s,[])
  | .readFails i =>
    match s.sessions[i]? with
    | some session =>
      if session.reading then
        (s.edit i fun session => {session.shutdown with reading := false},[])
      else (s,[])
    | none => (s,[])
  | .shutdown i => (s.edit i Session.shutdown,[])
  | .safeShutdown i =>
    match s.sessions[i]? with
    | some session => if session.posted ≠ 0 then (s.safeShutdown i session,[]) else (s,[])
    | none => (s,[])
  | .remove id => (s.remove id,[])
  | .takeReceiver streamId => (s.takeReceiver streamId,[])
  | .shutdownAll => (s.shutdownAll,[])
  | .whipShutdown => (s.whipShutdown,[])
  | .addOther streamId =>
    ({s with registry := (s.registry.addReceiverSession streamId .other).1},[])
  | .removeOther streamId =>
    ({s with registry := s.registry.removeReceiverSession streamId .other},[])

def Clean (s : Server) : Prop :=
  ∀ i session, s.sessions[i]? = some session → session.shut = true → session.pending = false →
    s.receiver session.streamId ≠ some (.whip i)

def InTime (s : Server) (e : Event) : Prop :=
  ∀ i session, e = .add i → s.sessions[i]? = some session → session.create = .started →
    s.registry.stopping = false → s.receiver session.streamId = none → session.shut = true →
    session.pending = true

structure Session.Keeps (session next : Session) : Prop where
  streamId : next.streamId = session.streamId
  shut : next.shut = true → session.shut = true
  pending : session.pending = true → next.pending = true

theorem keepsSame (session : Session) : session.Keeps session := ⟨rfl,id,id⟩

theorem shutdownPending (session : Session) : session.shutdown.pending = true := by
  simp [Session.pending,Session.shutdown]

theorem shutdownKeeps (session : Session) : session.Keeps session.shutdown :=
  ⟨rfl,id,fun _ => shutdownPending session⟩

structure Server.Keeps (s next : Server) : Prop where
  sessions : ∀ (j : Nat) (session' : Session), next.sessions[j]? = some session' →
    ∃ session : Session, s.sessions[j]? = some session ∧ session.Keeps session'
  receivers : ∀ streamId j, next.receiver streamId = some (.whip j) →
    s.receiver streamId = some (.whip j)

variable {s : Server} {i : Nat} {session : Session}

theorem Server.Keeps.clean {next : Server} (keeps : s.Keeps next) (clean : Clean s) :
    Clean next := by
  intro i session' here shut idle registered
  obtain ⟨session,there,kept⟩ := keeps.sessions i session' here
  rw [kept.streamId] at registered
  refine clean i session there (kept.shut shut) ?_ (keeps.receivers _ _ registered)
  by_contra pending
  rw [kept.pending (by simpa using pending)] at idle
  contradiction

theorem serverSame (s : Server) : s.Keeps s :=
  ⟨fun _ session here => ⟨session,here,keepsSame session⟩,fun _ _ => id⟩

theorem editKeeps (s : Server) (i : Nat) {change : Session → Session}
    (kept : ∀ session : Session, session.Keeps (change session)) : s.Keeps (s.edit i change) := by
  refine ⟨?_,fun _ _ => id⟩
  intro j session' here
  simp only [Server.edit,List.getElem?_modify] at here
  obtain ⟨session,there,same⟩ := Option.map_eq_some_iff.mp here
  refine ⟨session,there,?_⟩
  rw [← same]
  split
  · exact kept session
  · exact keepsSame session

theorem eachKeeps (s : Server) (chosen : Nat → Session → Bool) : s.Keeps (s.shutdownEach chosen) := by
  refine ⟨?_,fun _ _ => id⟩
  intro j session' here
  simp only [Server.shutdownEach,List.getElem?_mapIdx] at here
  obtain ⟨session,there,same⟩ := Option.map_eq_some_iff.mp here
  refine ⟨session,there,?_⟩
  rw [← same]
  split
  · exact shutdownKeeps session
  · exact keepsSame session

theorem Server.Keeps.receive {next : Server} (keeps : s.Keeps next)
    {registry : Registry Nat Empty Owner} {runtime : Table Nat Nat}
    (fewer : ∀ streamId j, registry.findReceiverSession streamId = some (.whip j) →
      next.receiver streamId = some (.whip j)) :
    s.Keeps {next with registry := registry, runtime := runtime} :=
  ⟨keeps.sessions,fun streamId j there => keeps.receivers streamId j (fewer streamId j there)⟩

section
variable {r next : Registry Nat Empty Owner} {streamId : Nat}

theorem receiverPut {content : Option Owner} (puts : Puts r next (.receiver streamId) content)
    (id : Nat) : next.findReceiverSession id =
      if id = streamId then content else r.findReceiverSession id := by
  have found := puts.2 (.receiver id)
  simpa only [SessionRegistry.find,Slot.receiver.injEq] using found

theorem receiverAdded (r : Registry Nat Empty Owner) (streamId : Nat) (owner : Owner) :
    (r.addReceiverSession streamId owner).2 = true ∧ r.stopping = false ∧
      r.findReceiverSession streamId = none ∧
      (∀ id, (r.addReceiverSession streamId owner).1.findReceiverSession id =
        if id = streamId then some owner else r.findReceiverSession id) ∨
    (r.addReceiverSession streamId owner).2 = false ∧
      (r.stopping = true ∨ (r.findReceiverSession streamId).isSome = true) ∧
      ∀ id, (r.addReceiverSession streamId owner).1.findReceiverSession id =
        r.findReceiverSession id := by
  have moved := SessionRegistry.addMoved r (.receiver streamId) owner
  simp only [SessionRegistry.add] at moved
  generalize (r.addReceiverSession streamId owner).1 = next at moved ⊢
  generalize (r.addReceiverSession streamId owner).2 = ok at moved ⊢
  cases moved with
  | added running free puts => exact .inl ⟨rfl,running,free,receiverPut puts⟩
  | refused taken stopping same => exact .inr ⟨rfl,taken,fun id => same (.receiver id)⟩

theorem receiverRemoved (r : Registry Nat Empty Owner) (streamId : Nat) (owner : Owner) (id : Nat) :
    (r.removeReceiverSession streamId owner).findReceiverSession id =
      if id = streamId ∧ r.findReceiverSession streamId = some owner then none
      else r.findReceiverSession id := by
  have moved := SessionRegistry.removeMoved r (.receiver streamId) owner
  simp only [SessionRegistry.remove] at moved
  generalize r.removeReceiverSession streamId owner = next at moved ⊢
  cases moved with
  | removed held puts =>
    have held : r.findReceiverSession streamId = some owner := held
    simpa [held] using receiverPut puts id
  | other differs same =>
    have differs : r.findReceiverSession streamId ≠ some owner := differs
    simp [differs,same]

end

theorem removeKeeps (s : Server) (streamId : Nat) (owner : Owner) :
    s.Keeps {s with registry := s.registry.removeReceiverSession streamId owner} := by
  refine (serverSame s).receive ?_
  intro id j there
  rw [receiverRemoved] at there
  split at there
  · contradiction
  · exact there

theorem createKeeps (create : Create) (session : Session) :
    session.Keeps {session with create := create} := ⟨rfl,id,id⟩

theorem failKeeps (session : Session) : session.Keeps {session.shutdown with reading := false} := by
  refine ⟨rfl,id,?_⟩
  intro _
  simp [Session.pending,Session.shutdown]

theorem finishKeeps (session : Session) :
    session.Keeps {session.shutdown with create := .finished} :=
  ⟨rfl,id,fun _ => shutdownPending session⟩

theorem addClean (clean : Clean s) (here : s.sessions[i]? = some session)
    (starts : session.create = .started) (inTime : InTime s (.add i)) :
    Clean (s.add i session) := by
  unfold Server.add
  rcases receiverAdded s.registry session.streamId (.whip i) with
    ⟨added,going,free,receivers⟩ | ⟨refused,_,receivers⟩
  · simp only [added,if_true]
    intro j session' there shut idle registered
    simp only [Server.edit,Server.receiver,List.getElem?_modify,receivers] at there registered
    obtain ⟨old,was,same⟩ := Option.map_eq_some_iff.mp there
    by_cases own : i = j
    · subst own
      rw [here] at was
      cases Option.some.inj was
      rw [if_pos rfl] at same
      subst same
      have left := inTime i session rfl here starts going free shut
      exact absurd left (by rw [Bool.not_eq_true]; exact idle)
    · rw [if_neg own] at same
      subst same
      split at registered
      · cases Option.some.inj registered
        exact own rfl
      · exact clean j old was shut idle registered
  · simp only [refused,Bool.false_eq_true,if_false]
    exact ((editKeeps s i finishKeeps).receive fun id _ there => (receivers id).symm.trans there).clean clean

theorem addLate (here : s.sessions[i]? = some session) (going : s.registry.stopping = false)
    (free : s.receiver session.streamId = none) (shut : session.shut = true)
    (idle : session.pending = false) : ¬Clean (s.add i session) := by
  intro clean
  rcases receiverAdded s.registry session.streamId (.whip i) with
    ⟨added,_,_,receivers⟩ | ⟨_,taken | taken,_⟩
  · simp only [Server.add,added,if_true] at clean
    refine clean i {session with create := .added} ?_ shut idle ?_
    · simp [Server.edit,here]
    · simp [Server.edit,Server.receiver,receivers]
  · rw [going] at taken
    contradiction
  · rw [Server.receiver] at free
    rw [free] at taken
    contradiction

theorem shutClean (clean : Clean s) (here : s.sessions[i]? = some session) :
    Clean (s.safeShutdown i session) := by
  intro j session' there shut idle registered
  simp only [Server.safeShutdown,Server.edit,List.getElem?_modify] at there registered
  obtain ⟨old,was,same⟩ := Option.map_eq_some_iff.mp there
  by_cases own : i = j
  · subst own
    rw [here] at was
    cases Option.some.inj was
    rw [if_pos rfl] at same
    subst same
    rw [Server.receiver,receiverRemoved] at registered
    split at registered
    · contradiction
    · rename_i differs
      exact differs ⟨rfl,registered⟩
  · rw [if_neg own] at same
    subst same
    exact clean j old was shut idle ((removeKeeps s _ _).receivers _ _ registered)

theorem createClean (clean : Clean s) (streamId id : Nat) (refused started spawned : Bool) :
    Clean (s.create streamId id refused started spawned) := by
  have grown {session : Session} (fresh : session.shut = false) :
      Clean {s with sessions := s.sessions ++ [session]} := by
    intro i session' there shut idle
    rcases Nat.lt_or_ge i s.sessions.length with old | new
    · rw [List.getElem?_append_left old] at there
      exact clean i session' there shut idle
    · rw [List.getElem?_append_right new] at there
      have last := List.mem_singleton.mp (List.mem_of_getElem? there)
      rw [last,fresh] at shut
      contradiction
  unfold Server.create
  split
  · exact clean
  · split
    · exact grown rfl
    · exact grown rfl

theorem insertKeeps (s : Server) (i : Nat) (session : Session) : s.Keeps (s.insert i session) := by
  unfold Server.insert
  split
  · exact editKeeps s i finishKeeps
  · exact (editKeeps s i (createKeeps .finished)).receive fun _ _ => id

theorem outsideKeeps (s : Server) (id : Nat) : s.Keeps (s.remove id) := by
  unfold Server.remove
  split
  · exact serverSame s
  · exact (editKeeps s _ shutdownKeeps).receive fun _ _ => fun same => same

theorem takeKeeps (s : Server) (streamId : Nat) : s.Keeps (s.takeReceiver streamId) := by
  have fewer (id j : Nat)
      (there : (s.registry.takeReceiverSession streamId).1.findReceiverSession id = some (.whip j)) :
      s.receiver id = some (.whip j) := by
    have moved := SessionRegistry.takeMoved s.registry (.receiver streamId)
    simp only [SessionRegistry.take] at moved
    generalize (s.registry.takeReceiverSession streamId).1 = next at moved there
    generalize (s.registry.takeReceiverSession streamId).2 = taken at moved
    cases moved with
    | taken puts =>
      rw [receiverPut puts] at there
      split at there
      · contradiction
      · exact there
  unfold Server.takeReceiver
  dsimp only
  split
  · exact (editKeeps s _ shutdownKeeps).receive fewer
  · exact (serverSame s).receive fewer

theorem otherKeeps (s : Server) (streamId : Nat) :
    s.Keeps {s with registry := (s.registry.addReceiverSession streamId .other).1} := by
  refine (serverSame s).receive ?_
  intro id j there
  rcases receiverAdded s.registry streamId .other with ⟨_,_,_,receivers⟩ | ⟨_,_,receivers⟩
  · rw [receivers] at there
    split at there
    · cases Option.some.inj there
    · exact there
  · rw [receivers] at there
    exact there

theorem stepClean {e : Event} (clean : Clean s) (inTime : InTime s e) : Clean (step s e).1 := by
  cases e with
  | create streamId id refused started spawned =>
    exact createClean clean streamId id refused started spawned
  | add i =>
    simp only [step]
    split
    · rename_i session here
      split
      · rename_i starts
        exact addClean clean here starts inTime
      · exact clean
    · exact clean
  | insert i =>
    simp only [step]
    split
    · split
      · exact (insertKeeps s i _).clean clean
      · exact clean
    · exact clean
  | readFails i =>
    simp only [step]
    split
    · split
      · exact (editKeeps s i failKeeps).clean clean
      · exact clean
    · exact clean
  | shutdown i => exact (editKeeps s i shutdownKeeps).clean clean
  | safeShutdown i =>
    simp only [step]
    split
    · rename_i session here
      split
      · exact shutClean clean here
      · exact clean
    · exact clean
  | remove id => exact (outsideKeeps s id).clean clean
  | takeReceiver streamId => exact (takeKeeps s streamId).clean clean
  | shutdownAll =>
    refine ((eachKeeps s _).receive ?_).clean clean
    intro _ _ there
    contradiction
  | whipShutdown => exact ((eachKeeps s _).receive fun _ _ => id).clean clean
  | addOther streamId => exact (otherKeeps s streamId).clean clean
  | removeOther streamId => exact (removeKeeps s streamId .other).clean clean

theorem stepLate {e : Event} (late : ¬InTime s e) : ¬Clean (step s e).1 := by
  simp only [InTime,not_forall] at late
  obtain ⟨i,session,event,here,starts,going,free,shut,idle⟩ := late
  subst event
  simp only [step,here,starts,if_true]
  exact addLate here going free shut (by simpa using idle)

theorem inTimeStep (past : List (Round Server Event Empty)) (s : Server) (e : Event)
    (before : (∀ r ∈ past, InTime r.state r.event) → Clean s)
    (inTime : ∀ r ∈ past ++ [.of step s e], InTime r.state r.event) : Clean (step s e).1 := by
  have clean := before fun r member => inTime r (List.mem_append_left _ member)
  exact stepClean clean (inTime _ (List.mem_append_right _ (List.mem_singleton_self _)))

theorem whipReceivers (events : List Event) :
    (∀ r ∈ rounds step .empty events, Clean r.next) ↔
      ∀ r ∈ rounds step .empty events, InTime r.state r.event := by
  constructor
  · intro clean r member
    by_contra late
    obtain ⟨_,same⟩ := roundsInvariant (P := fun _ => True) trivial (fun _ _ _ => trivial) r member
    have after := stepLate late
    rw [same] at after
    exact after (clean r member)
  · intro inTime r member
    obtain ⟨before,after,cut⟩ := List.append_of_mem member
    have start : (∀ r ∈ ([] : List (Round Server Event Empty)), InTime r.state r.event) →
        Clean .empty := by
      intro _ i session here
      simp [Server.empty] at here
    obtain ⟨clean,same⟩ := roundsHistory
      (P := fun past s => (∀ r ∈ past, InTime r.state r.event) → Clean s) start inTimeStep cut
    have now := clean fun x earlier => inTime x (by rw [cut]; exact List.mem_append_left _ earlier)
    rw [same]
    exact stepClean now (inTime r member)

def lateEvents : List Event :=
  [.create 7 1 false true true,.readFails 0,.safeShutdown 0,.add 0,.insert 0]

theorem deadReceiver :
    ¬(∀ r ∈ rounds step .empty lateEvents, Clean r.next) ∧
    (final step .empty lateEvents).receiver 7 = some (.whip 0) ∧
    (final step .empty lateEvents).sessions = [⟨7,1,.finished,false,0,true⟩] ∧
    ∀ id refused started spawned,
      step (final step .empty lateEvents) (.create 7 id refused started spawned) =
        (final step .empty lateEvents,[]) := by
  refine ⟨?_,rfl,rfl,?_⟩
  · intro clean
    refine clean _ (List.mem_of_getLast? rfl) 0 ⟨7,1,.finished,false,0,true⟩ rfl rfl rfl rfl
  · intro id refused started spawned
    rfl

end MediaServer.Whip
