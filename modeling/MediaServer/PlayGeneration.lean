import MediaServer.RtspPlay

/-! The generation a play session replies for. The session's own shutdown is posted together with
the connection's, so no request is handled between the two; stream_current() asks for some stream
under the id, so a stream that was registered anew passes for the one the session holds. -/
namespace MediaServer.RtspPlay
open Controller Handler

/- What a handler of the session does: it keeps the stream, asks stream_current() only with it, and
replies 200 only while a stream is registered under its id. -/
structure Asks (registry : Registry) (session : Session) (turn : Turn Session Effect) : Prop where
  stream : turn.state.stream = session.stream
  current : ∀ stream, .current stream ∈ turn.effects → stream = session.stream
  ok : ∀ effect ∈ turn.effects, effect.ok = true →
    ∃ stream, session.stream = some stream ∧ (registry.get stream.streamId).isSome = true

structure Silent (session : Session) (turn : Turn Session Effect) : Prop where
  stream : turn.state.stream = session.stream
  current : ∀ stream, .current stream ∉ turn.effects
  ok : ∀ effect ∈ turn.effects, effect.ok = false

variable {session : Session} {turn : Turn Session Effect} {queue : List Task} {s : Connection}

theorem Silent.asks {registry : Registry} (silent : Silent session turn) :
    Asks registry session turn where
  stream := silent.stream
  current := fun stream member => absurd member (silent.current stream)
  ok := by
    intro effect member ok
    rw [silent.ok effect member] at ok
    contradiction

theorem failSilent (session : Session) : Silent session (.fail session) where
  stream := rfl
  current := fun _ member => nomatch member
  ok := fun _ member => nomatch member

theorem replySilent (session : Session) (sent : Bool) (effect : Effect)
    (other : ∀ stream, effect ≠ .current stream) (refused : effect.ok = false) :
    Silent session (session.reply sent effect) where
  stream := rfl
  current := by
    intro stream member
    exact other stream (List.mem_singleton.mp member).symm
  ok := by
    intro e member
    rw [List.mem_singleton.mp member]
    exact refused

structure Quiet (session : Session) (turn : Turn Session Effect) : Prop where
  stream : turn.state.stream = session.stream
  current : ∀ stream, .current stream ∉ turn.effects

theorem whenCurrentAsks {registry : Registry} {gone found : Turn Session Effect}
    (refused : Silent session gone) (quiet : Quiet session found) :
    Asks registry session (session.whenCurrent registry gone found) := by
  unfold Session.whenCurrent
  split
  · rename_i lost
    exact ⟨rfl,by simp [lost],by simp [Effect.ok]⟩
  · rename_i held here
    by_cases registered : (registry.get held.streamId).isSome = true
    · simp only [registered,if_true]
      refine ⟨quiet.stream,?_,fun _ _ _ => ⟨held,here,registered⟩⟩
      intro asked member
      rcases List.mem_cons.mp member with same | later
      · cases same; exact here.symm
      · exact absurd later (quiet.current asked)
    · simp only [registered]
      refine ⟨refused.stream,?_,?_⟩
      · intro asked member
        rcases List.mem_cons.mp member with same | later
        · cases same; exact here.symm
        · exact absurd later (refused.current asked)
      · intro effect member ok
        rcases List.mem_cons.mp member with same | later
        · subst same; simp [Effect.ok] at ok
        · simp [refused.ok effect later] at ok

theorem describeAsks (env : Environment) (registry : Registry) (sent : Bool) (session : Session)
    (uri : Text) : Asks registry session (session.onDescribe env registry sent uri) := by
  unfold Session.onDescribe
  split
  · exact (failSilent session).asks
  · split
    · exact (replySilent session sent (.describe 404 []) nofun rfl).asks
    · refine whenCurrentAsks (replySilent session sent (.describe 404 []) nofun rfl) ?_
      split <;> exact ⟨rfl,by simp [Session.reply]⟩

theorem setUpQuiet (sent : Bool) (session : Session) (id : Nat) (track : Track) (text : Text)
    (random : Nat) (t : Transport) :
    Quiet session (session.setUp sent id track text random t) := by
  unfold Session.setUp
  split
  · split <;> exact ⟨rfl,by simp [Session.reply,Turn.fail]⟩
  · split <;> exact ⟨rfl,by simp [Session.reply,Turn.fail]⟩

theorem setupAsks (env : Environment) (registry : Registry) (sent : Bool) (session : Session)
    (uri text : Text) (transports : List Transport) (random : Nat) :
    Asks registry session (session.onSetup env registry sent uri text transports random) := by
  unfold Session.onSetup
  split
  · exact (failSilent session).asks
  · split
    · exact (replySilent session sent (.setup 404 [] []) nofun rfl).asks
    · dsimp only
      split
      · exact (replySilent session sent (.setup 404 [] []) nofun rfl).asks
      · refine whenCurrentAsks (failSilent session) ?_
        split
        · exact ⟨rfl,(failSilent session).current⟩
        · split
          · exact ⟨rfl,by simp [Session.reply]⟩
          · exact setUpQuiet ..

theorem playAsks (env : Environment) (registry : Registry) (sent : Bool) (session : Session)
    (uri text : Text) : Asks registry session (session.onPlay env registry sent uri text) := by
  unfold Session.onPlay
  dsimp only
  split
  · exact (failSilent session).asks
  · split
    · exact (replySilent session sent (.play 404) nofun rfl).asks
    · split
      · exact (failSilent session).asks
      · refine whenCurrentAsks (failSilent session) ?_
        split <;> exact ⟨rfl,by simp [Session.reply]⟩

theorem teardownSilent (session : Session) (text : Text) :
    Silent session (session.onTeardown text) := by
  unfold Session.onTeardown
  split
  · exact failSilent session
  · exact ⟨rfl,by simp,by simp [Effect.ok]⟩

theorem frameStream (session : Session) (frame : Frame) :
    (session.onFrame frame).1.stream = session.stream := by
  unfold Session.onFrame
  split
  · rfl
  · split
    · rfl
    · dsimp only
      split
      · rfl
      · split <;> rfl

def Paired : List Task → Prop
  | [] => True
  | .sessionShutdown :: rest => rest.head? = some .connectionShutdown ∧ Paired rest
  | _ :: rest => Paired rest

theorem pairedAppend {posted : List Task} (paired : Paired queue) (more : Paired posted) :
    Paired (queue ++ posted) := by
  induction queue with
  | nil => exact more
  | cons task rest ih =>
    cases task with
    | input input => exact ih paired
    | connectionShutdown => exact ih paired
    | sessionShutdown =>
      obtain ⟨next,later⟩ := paired
      refine ⟨?_,ih later⟩
      change (rest ++ posted).head? = _
      rw [List.head?_append,next]
      rfl

theorem pairedTail {task : Task} (paired : Paired (task :: queue)) : Paired queue := by
  cases task with
  | input input => exact paired
  | connectionShutdown => exact paired
  | sessionShutdown => exact paired.2

structure Sound (s : Connection) : Prop where
  keyed : ∀ id stream, s.registry.get id = some stream → stream.streamId = id
  paired : s.connected = true → Paired s.queue
  lost : s.connected = true → ∀ session, s.player = some session → session.stream = none →
    s.queue.head? = some .connectionShutdown
  attached : s.attached = true → s.connected = true

structure Live (s : Connection) : Prop where
  keyed : ∀ id stream, s.registry.get id = some stream → stream.streamId = id
  paired : s.connected = true → Paired s.queue
  stream : s.connected = true → ∀ session, s.player = some session → session.stream ≠ none
  attached : s.attached = true → s.connected = true

theorem Live.sound (live : Live s) : Sound s where
  keyed := live.keyed
  paired := live.paired
  lost := fun connected session here gone => absurd gone (live.stream connected session here)
  attached := live.attached

theorem Live.post (live : Live s) (tasks : List Task) (paired : Paired tasks) :
    Live (s.post tasks) where
  keyed := live.keyed
  paired := fun connected => pairedAppend (live.paired connected) paired
  stream := live.stream
  attached := live.attached

theorem Live.stop (live : Live s) : Live s.stop :=
  let posted := live.post [.connectionShutdown] trivial
  ⟨posted.keyed,posted.paired,posted.stream,posted.attached⟩

theorem Live.proceed (live : Live s) (rest : List Request) :
    Live (s.proceed rest) :=
  ⟨live.keyed,live.paired,live.stream,live.attached⟩

theorem Live.answer (live : Live s) (stream : turn.state.stream ≠ none) (rest : List Request) :
    Live (s.answer rest turn).1 := by
  have moved : Live {s with player := some turn.state} :=
    ⟨live.keyed,live.paired,fun _ _ here => Option.some.inj here ▸ stream,live.attached⟩
  unfold Connection.answer
  dsimp only
  split
  · exact moved.proceed rest
  · exact moved.stop

def Reader.stream : Reader → Option Stream
  | .verifying stream _ _ _ => some stream
  | _ => none

def Connection.held (s : Connection) : List Stream :=
  if s.connected then (s.session.bind (·.stream)).toList ++ s.reader.stream.toList else []

structure Serves (s next : Connection) (effects : List Effect) : Prop where
  registry : next.registry = s.registry
  held : ∀ stream ∈ next.held, stream ∈ s.held ∨ s.registry.get stream.streamId = some stream
  current : ∀ stream, .current stream ∈ effects → stream ≠ none
  ok : ∀ effect ∈ effects, effect.ok = true → ∃ session stream, next.player = some session ∧
    session.stream = some stream ∧ stream ∈ s.held ∧
      (s.registry.get stream.streamId).isSome = true

theorem idleServes {next : Connection} {effects : List Effect}
    (registry : next.registry = s.registry) (held : ∀ stream ∈ next.held, stream ∈ s.held)
    (current : ∀ stream, .current stream ∉ effects) (ok : ∀ effect ∈ effects, effect.ok = false) :
    Serves s next effects where
  registry := registry
  held := fun stream member => .inl (held stream member)
  current := fun stream member => absurd member (current stream)
  ok := by
    intro effect member replies
    rw [ok effect member] at replies
    contradiction

theorem heldStop : ∀ stream ∈ s.stop.held, stream ∈ s.held := by
  intro stream member
  unfold Connection.held at member ⊢
  split at member
  · rename_i connected
    rw [if_pos (show s.connected = true from connected)]
    rcases List.mem_append.mp member with own | verifying
    · exact List.mem_append_left _ own
    · exact nomatch verifying
  · exact nomatch member

theorem stopServes (s : Connection) : Serves s s.stop [] :=
  idleServes rfl heldStop (fun _ member => nomatch member) (fun _ member => nomatch member)

theorem proceedServes (s : Connection) (rest : List Request) : Serves s (s.proceed rest) [] :=
  idleServes rfl (fun _ member => member) (fun _ member => nomatch member)
    (fun _ member => nomatch member)

theorem answerServes {mid : Connection} {rest : List Request} (registry : mid.registry = s.registry)
    (asks : Asks s.registry session turn) (some_ : session.stream ≠ none)
    (own : ∀ stream, session.stream = some stream → stream ∈ s.held)
    (verifying : ∀ stream, mid.reader.stream = some stream → stream ∈ s.held) :
    Serves s (mid.answer rest turn).1 turn.effects := by
  have moved : ∀ stream ∈ {mid with player := some turn.state}.held, stream ∈ s.held := by
    intro stream member
    unfold Connection.held Connection.session at member
    split at member
    · rcases List.mem_append.mp member with playing | pending
      · split at member
        · rw [if_pos (by assumption),Option.bind_some,Option.mem_toList,asks.stream] at playing
          exact own stream playing
        · rw [if_neg (by assumption)] at playing
          exact nomatch playing
      · exact verifying stream (Option.mem_toList.mp pending)
    · exact nomatch member
  have shape : (mid.answer rest turn).1.registry = mid.registry ∧
      (mid.answer rest turn).1.player = some turn.state ∧
      ∀ stream ∈ (mid.answer rest turn).1.held, stream ∈ s.held := by
    unfold Connection.answer
    dsimp only
    split
    · exact ⟨rfl,rfl,moved⟩
    · exact ⟨rfl,rfl,fun stream member => moved stream (heldStop stream member)⟩
  refine ⟨shape.1.trans registry,fun stream member => .inl (shape.2.2 stream member),?_,?_⟩
  · intro stream member
    rw [asks.current stream member]
    exact some_
  · intro effect member replies
    obtain ⟨stream,here,registered⟩ := asks.ok effect member replies
    exact ⟨turn.state,stream,shape.2.1,asks.stream.trans here,own stream here,registered⟩

theorem sessionAnswer (live : Live s) (here : s.session = some session) (rest : List Request)
    (asks : Asks s.registry session turn) :
    Live (s.answer rest turn).1 ∧ Serves s (s.answer rest turn).1 turn.effects := by
  have attached : s.attached = true ∧ s.player = some session := by
    unfold Connection.session at here
    split at here
    · exact ⟨by assumption,here⟩
    · contradiction
  have connected := live.attached attached.1
  have some_ := live.stream connected session attached.2
  have own : ∀ stream, session.stream = some stream → stream ∈ s.held := by
    intro stream held
    unfold Connection.held
    rw [if_pos connected,here]
    exact List.mem_append_left _ (Option.mem_toList.mpr held)
  have verifying : ∀ stream, s.reader.stream = some stream → stream ∈ s.held := by
    intro stream pending
    unfold Connection.held
    rw [if_pos connected]
    exact List.mem_append_right _ (Option.mem_toList.mpr pending)
  exact ⟨live.answer (asks.stream ▸ some_) rest,answerServes rfl asks some_ own verifying⟩

theorem stopWell (live : Live s) : Live s.stop ∧ Serves s s.stop [] :=
  ⟨live.stop,stopServes s⟩

theorem proceedWell (live : Live s) (rest : List Request) :
    Live (s.proceed rest) ∧ Serves s (s.proceed rest) [] :=
  ⟨live.proceed rest,proceedServes s rest⟩

theorem describeWell (env : Environment) (live : Live s) (uri : Text) (rest : List Request) :
    Live (s.describe env uri rest).1 ∧
      Serves s (s.describe env uri rest).1 (s.describe env uri rest).2 := by
  unfold Connection.describe
  split
  · exact stopWell live
  · split
    · rename_i session here
      exact sessionAnswer live here rest (describeAsks ..)
    · rename_i none_
      split
      · exact stopWell live
      · rename_i stream path found
        refine ⟨⟨live.keyed,live.paired,live.stream,live.attached⟩,rfl,?_,
          (fun _ member => nomatch member),(fun _ member => nomatch member)⟩
        have registered : s.registry.get stream.streamId = some stream := by
          simp only [Connection.admissible,Option.bind_eq_bind,Option.bind_eq_some_iff] at found
          obtain ⟨parts,_,found⟩ := found
          split at found
          · contradiction
          · obtain ⟨found_,there,same⟩ := Option.bind_eq_some_iff.mp found
            cases Option.some.inj same
            rw [live.keyed _ _ there]
            exact there
        intro held member
        unfold Connection.held at member
        split at member
        · rcases List.mem_append.mp member with own | pending
          · have same : ({s with reader := .verifying stream path uri rest} :
              Connection).session = none := none_
            rw [same] at own
            exact nomatch own
          · cases Option.mem_toList.mp pending
            exact .inr registered
        · exact nomatch member

theorem verifiedWell (env : Environment) (live : Live s) {stream : Stream} {path uri : Text}
    {rest : List Request} (ok : Bool) (here : s.reader = .verifying stream path uri rest) :
    Live (s.verified env ok stream path uri rest).1 ∧
      Serves s (s.verified env ok stream path uri rest).1
        (s.verified env ok stream path uri rest).2 := by
  have resumed : Live {s with reader := .reading} :=
    ⟨live.keyed,live.paired,live.stream,live.attached⟩
  have stopped : Serves s ({s with reader := .reading} : Connection).stop [] :=
    idleServes rfl (fun stream member => heldStop (s := s) stream member)
      (fun _ member => nomatch member) (fun _ member => nomatch member)
  unfold Connection.verified
  dsimp only
  split
  · exact ⟨resumed.stop,stopped⟩
  · rename_i going
    have connected : s.connected = true := by
      revert going
      cases s.connected <;> simp
    split
    · exact ⟨resumed.stop,stopped⟩
    · rename_i tracks _
      have asks := describeAsks env s.registry s.connected
        ⟨path,some stream,tracks,none,true,true,[],false⟩ uri
      have attached : Live {s with reader := .reading, attached := true} :=
        ⟨live.keyed,live.paired,live.stream,fun _ => connected⟩
      have held : stream ∈ s.held := by
        unfold Connection.held
        rw [if_pos connected,here]
        exact List.mem_append_right _ (List.mem_singleton_self _)
      refine ⟨attached.answer (asks.stream ▸ nofun) rest,
        answerServes rfl asks nofun ?_ nofun⟩
      intro own same
      cases Option.some.inj same
      exact held

theorem publishedWell (env : Environment) (live : Live s) (request : Request) (rest : List Request) :
    Live (s.published env request rest).1 ∧
      Serves s (s.published env request rest).1 (s.published env request rest).2 := by
  unfold Connection.published
  dsimp only
  split
  · exact proceedWell live rest
  · exact stopWell live

theorem interleavedWell (env : Environment) (live : Live s) (channel : Int) (empty accepted : Bool)
    (rest : List Request) :
    Live (s.interleaved env channel empty accepted rest) ∧
      Serves s (s.interleaved env channel empty accepted rest) [] := by
  have refused : Live ((s.post [.connectionShutdown]).proceed rest) ∧
      Serves s ((s.post [.connectionShutdown]).proceed rest) [] :=
    ⟨(live.post [.connectionShutdown] trivial).proceed rest,(proceedServes s rest).1,(proceedServes s rest).2,
      (fun _ member => nomatch member),(fun _ member => nomatch member)⟩
  unfold Connection.interleaved
  split
  · split
    · exact proceedWell live rest
    · exact refused
  · split
    · exact stopWell live
    · split
      · exact proceedWell live rest
      · exact refused

theorem handleWell (env : Environment) (live : Live s) (request : Request) (rest : List Request) :
    Live (s.handle env request rest).1 ∧
      Serves s (s.handle env request rest).1 (s.handle env request rest).2 := by
  cases request with
  | describe uri => exact describeWell env live uri rest
  | setup uri text transports random =>
    simp only [Connection.handle]
    split
    · exact publishedWell env live _ rest
    · split
      · exact stopWell live
      · exact sessionAnswer live (by assumption) rest (setupAsks ..)
  | play uri text =>
    simp only [Connection.handle]
    split
    · exact stopWell live
    · exact sessionAnswer live (by assumption) rest (playAsks ..)
  | teardown text =>
    simp only [Connection.handle]
    split
    · exact publishedWell env live _ rest
    · split
      · exact stopWell live
      · exact sessionAnswer live (by assumption) rest (teardownSilent ..).asks
  | announce accepted =>
    simp only [Connection.handle]
    split
    · exact stopWell live
    · exact ⟨⟨live.keyed,live.paired,live.stream,live.attached⟩,
        idleServes rfl (fun _ member => member) (fun _ member => nomatch member)
          (fun _ member => nomatch member)⟩
  | record =>
    simp only [Connection.handle]
    split
    · exact publishedWell env live _ rest
    · exact stopWell live
  | getParameter bare =>
    simp only [Connection.handle]
    split
    · exact stopWell live
    · split
      · exact ⟨live.proceed rest,idleServes rfl (fun _ member => member) (by simp)
          (by simp [Effect.ok])⟩
      · exact ⟨live.stop,idleServes rfl heldStop (by simp) (by simp [Effect.ok])⟩
  | interleaved channel empty accepted => exact interleavedWell env live channel empty accepted rest

theorem Sound.live (sound : Sound s) {input : Input} (first : s.queue = .input input :: queue) :
    Live {s with queue} where
  keyed := sound.keyed
  paired := fun connected => pairedTail (first ▸ sound.paired connected)
  stream := by
    intro connected session here gone
    have next := sound.lost connected session here gone
    rw [first] at next
    cases Option.some.inj next
  attached := sound.attached

theorem inputWell (env : Environment) (live : Live s) (input : Input) :
    Live (s.execute env (.input input)).1 ∧
      Serves s (s.execute env (.input input)).1 (s.execute env (.input input)).2 := by
  have still : Live s ∧ Serves s s [] :=
    ⟨live,idleServes rfl (fun _ member => member) (fun _ member => nomatch member)
      (fun _ member => nomatch member)⟩
  cases input with
  | read requests =>
    simp only [Connection.execute]
    split
    · exact handleWell env live ..
    · exact still
  | readFails =>
    simp only [Connection.execute]
    split
    · exact stopWell live
    · exact still
  | verified ok =>
    simp only [Connection.execute]
    split
    · exact verifiedWell env live ok (by assumption)
    · exact still
  | frame frame =>
    simp only [Connection.execute]
    split
    · exact still
    · rename_i session here
      have moved : Live {s with player := some (session.onFrame frame).1} := by
        refine ⟨live.keyed,live.paired,?_,live.attached⟩
        intro connected after same
        cases Option.some.inj same
        rw [frameStream]
        exact live.stream connected session here
      have held : ({s with player := some (session.onFrame frame).1} : Connection).held =
          s.held := by
        simp only [Connection.held,Connection.session,here]
        cases s.attached <;> simp [frameStream]
      have served : Serves s {s with player := some (session.onFrame frame).1} [] :=
        idleServes rfl (fun _ member => held ▸ member) (fun _ member => nomatch member)
          (fun _ member => nomatch member)
      split
      · exact ⟨moved.post _ ⟨rfl,trivial⟩,served.1,served.2,served.3,
          (fun _ member => nomatch member)⟩
      · exact ⟨moved,served⟩
  | ended =>
    simp only [Connection.execute]
    split
    · exact still
    · split
      · exact ⟨live.post _ trivial,still.2.1,still.2.2,still.2.3,
          (fun _ member => nomatch member)⟩
      · exact still

theorem sessionShutdownWell (env : Environment) (sound : Sound s)
    (first : s.queue = .sessionShutdown :: queue) :
    Sound (({s with queue} : Connection).execute env .sessionShutdown).1 ∧
      Serves s (({s with queue} : Connection).execute env .sessionShutdown).1
        (({s with queue} : Connection).execute env .sessionShutdown).2 := by
  have paired : s.connected = true → queue.head? = some .connectionShutdown ∧ Paired queue := by
    intro connected
    have now := sound.paired connected
    rw [first] at now
    exact now
  simp only [Connection.execute]
  split
  · rename_i none_
    refine ⟨⟨sound.keyed,fun connected => (paired connected).2,
      fun connected _ _ _ => (paired connected).1,sound.attached⟩,
      idleServes rfl (fun _ member => member) (fun _ member => nomatch member)
        (fun _ member => nomatch member)⟩
  · rename_i session here
    refine ⟨⟨sound.keyed,fun connected => (paired connected).2,
      fun connected _ _ _ => (paired connected).1,sound.attached⟩,idleServes rfl ?_ ?_ ?_⟩
    · intro stream member
      unfold Connection.held Connection.session at member ⊢
      split at member
      · rename_i connected
        rw [if_pos (show s.connected = true from connected)]
        rcases List.mem_append.mp member with own | verifying
        · split at own
          · exact nomatch own
          · exact nomatch own
        · exact List.mem_append_right _ verifying
      · exact nomatch member
    · simp
    · simp [Effect.ok]

theorem connectionShutdownWell (sound : Sound s) (queue : List Task) :
    Sound ({s with queue} : Connection).safeShutdown ∧
      Serves s ({s with queue} : Connection).safeShutdown [] := by
  unfold Connection.safeShutdown
  dsimp only
  split
  · exact ⟨⟨sound.keyed,nofun,nofun,nofun⟩,
      idleServes rfl (fun _ member => nomatch member) (fun _ member => nomatch member)
        (fun _ member => nomatch member)⟩
  · exact ⟨⟨sound.keyed,nofun,nofun,nofun⟩,
      idleServes rfl (fun _ member => nomatch member) (fun _ member => nomatch member)
        (fun _ member => nomatch member)⟩

theorem runWell (env : Environment) (sound : Sound s) :
    Sound (step env s .run).1 ∧ Serves s (step env s .run).1 (step env s .run).2 := by
  simp only [step]
  split
  · exact ⟨sound,idleServes rfl (fun _ member => member) (fun _ member => nomatch member)
      (fun _ member => nomatch member)⟩
  · rename_i task queue first
    cases task with
    | input input =>
      obtain ⟨live,served⟩ := inputWell env (sound.live first) input
      exact ⟨live.sound,served.registry,served.held,served.current,served.ok⟩
    | sessionShutdown => exact sessionShutdownWell env sound first
    | connectionShutdown => exact connectionShutdownWell sound queue

theorem addGet (registry : Registry) (stream : Stream) (id : Text) :
    (registry.add stream).get id = registry.get id ∨
      (registry.get stream.streamId = none ∧ id = stream.streamId ∧
        (registry.add stream).get id = some stream) := by
  unfold Registry.add
  split
  · exact .inl rfl
  · rename_i open_
    rw [Table.getSet]
    split
    · rename_i same
      refine .inr ⟨?_,same,rfl⟩
      cases here : registry.get stream.streamId with
      | none => rfl
      | some old => simp [here] at open_
    · exact .inl rfl

theorem removeGet (registry : Registry) (stream : Stream) (id : Text) :
    (registry.remove stream).get id = registry.get id ∨ (registry.remove stream).get id = none := by
  unfold Registry.remove
  split
  · rw [Table.getDelete]
    split
    · exact .inr rfl
    · exact .inl rfl
  · exact .inl rfl

theorem stepSound (env : Environment) (s : Connection) (e : Event) (sound : Sound s) :
    Sound (step env s e).1 := by
  have posted : ∀ tasks, Paired tasks → Sound (s.post tasks) := by
    intro tasks paired
    refine ⟨sound.keyed,fun connected => pairedAppend (sound.paired connected) paired,?_,
      sound.attached⟩
    intro connected session here gone
    change (s.queue ++ tasks).head? = _
    rw [List.head?_append,sound.lost connected session here gone]
    rfl
  cases e with
  | add stream =>
    refine ⟨?_,sound.paired,sound.lost,sound.attached⟩
    intro id found here
    change (s.registry.add stream).get id = some found at here
    rcases addGet s.registry stream id with same | ⟨_,same,new⟩
    · exact sound.keyed id found (same ▸ here)
    · rw [new] at here
      cases Option.some.inj here
      exact same.symm
  | remove stream =>
    refine ⟨?_,sound.paired,sound.lost,sound.attached⟩
    intro id found here
    change (s.registry.remove stream).get id = some found at here
    rcases removeGet s.registry stream id with same | gone
    · exact sound.keyed id found (same ▸ here)
    · rw [gone] at here
      contradiction
  | arrive input => exact posted _ trivial
  | shutdown => exact posted _ trivial
  | run => exact (runWell env sound).1

theorem effectsRun (env : Environment) (s : Connection) (e : Event) :
    (step env s e).2 = [] ∨ e = .run := by
  cases e with
  | run => exact .inr rfl
  | _ => exact .inl rfl

def Kept (s : Connection) (e : Event) : Prop :=
  ∀ stream, e = .add stream → s.registry.get stream.streamId = none →
    ∀ held ∈ s.held, held.streamId = stream.streamId → held = stream

instance (s : Connection) (e : Event) : Decidable (Kept s e) :=
  match e with
  | .add stream =>
    decidable_of_iff (s.registry.get stream.streamId = none →
      ∀ held ∈ s.held, held.streamId = stream.streamId → held = stream)
      ⟨fun kept _ same => by cases same; exact kept,fun kept => kept stream rfl⟩
  | .remove _ | .arrive _ | .shutdown | .run => isTrue nofun

def Fresh (s : Connection) : Prop :=
  ∀ stream ∈ s.held, s.registry.get stream.streamId = none ∨
    s.registry.get stream.streamId = some stream

theorem stepFresh (env : Environment) {e : Event} (sound : Sound s) (fresh : Fresh s)
    (kept : Kept s e) : Fresh (step env s e).1 := by
  cases e with
  | add stream =>
    intro held member
    have before := fresh held member
    change (s.registry.add stream).get held.streamId = none ∨
      (s.registry.add stream).get held.streamId = some held
    rcases addGet s.registry stream held.streamId with same | ⟨free,same,new⟩
    · rw [same]
      exact before
    · rw [new,kept stream rfl free held member same]
      exact .inr rfl
  | remove stream =>
    intro held member
    have before := fresh held member
    change (s.registry.remove stream).get held.streamId = none ∨
      (s.registry.remove stream).get held.streamId = some held
    rcases removeGet s.registry stream held.streamId with same | gone
    · rw [same]
      exact before
    · exact .inl gone
  | arrive input => exact fresh
  | shutdown => exact fresh
  | run =>
    intro held member
    have served := (runWell env sound).2
    rw [served.registry]
    rcases served.held held member with before | found
    · exact fresh held before
    · exact .inr found

abbrev Turned := Round Connection Event Effect

def Asked (r : Turned) : Prop := ∀ stream, .current stream ∈ r.effects → stream ≠ none

def Replied (registered : Stream → Option Stream → Prop) (r : Turned) : Prop :=
  ∀ effect ∈ r.effects, effect.ok = true → ∃ session stream, r.next.player = some session ∧
    session.stream = some stream ∧ registered stream (r.next.registry.get stream.streamId)

theorem stepReplies (env : Environment) {e : Event} (sound : Sound s) :
    Asked (.of (step env) s e) ∧
      Replied (fun _ found => found.isSome = true) (.of (step env) s e) ∧
      (Fresh s → Replied (fun stream found => found = some stream) (.of (step env) s e)) := by
  rcases effectsRun env s e with silent | run
  · refine ⟨?_,?_,?_⟩
    · intro stream member
      rw [Round.of,silent] at member
      exact nomatch member
    · intro effect member
      rw [Round.of,silent] at member
      exact nomatch member
    · intro _ effect member
      rw [Round.of,silent] at member
      exact nomatch member
  · subst run
    have served := (runWell env sound).2
    refine ⟨served.current,?_,?_⟩
    · intro effect member ok
      obtain ⟨session,stream,here,own,_,registered⟩ := served.ok effect member ok
      exact ⟨session,stream,here,own,served.registry ▸ registered⟩
    · intro fresh effect member ok
      obtain ⟨session,stream,here,own,held,registered⟩ := served.ok effect member ok
      refine ⟨session,stream,here,own,?_⟩
      change (step env s .run).1.registry.get stream.streamId = some stream
      rw [served.registry]
      rcases fresh stream held with none_ | same
      · rw [none_] at registered
        contradiction
      · exact same

theorem initialSound : Sound .initial :=
  ⟨(fun _ _ here => nomatch here),fun _ => trivial,(fun _ _ here => nomatch here),nofun⟩

def Along (past : List Turned) (s : Connection) : Prop :=
  Sound s ∧ ((∀ r ∈ past, Kept r.state r.event) → Fresh s)

theorem alongStep (env : Environment) (past : List Turned) (s : Connection) (e : Event)
    (along : Along past s) : Along (past ++ [.of (step env) s e]) (step env s e).1 := by
  obtain ⟨sound,fresh⟩ := along
  refine ⟨stepSound env s e sound,?_⟩
  intro kept
  have before := fresh fun r member => kept r (List.mem_append_left _ member)
  have now := kept _ (List.mem_append_right _ (List.mem_singleton_self _))
  exact stepFresh env sound before now

theorem playGeneration (env : Environment) (events : List Event) :
    (∀ r ∈ rounds (step env) .initial events, Asked r ∧
      Replied (fun _ found => found.isSome = true) r) ∧
    ((∀ r ∈ rounds (step env) .initial events, Kept r.state r.event) →
      ∀ r ∈ rounds (step env) .initial events,
        Replied (fun stream found => found = some stream) r) := by
  have start : Along [] .initial := ⟨initialSound,fun _ _ member => nomatch member⟩
  constructor
  · intro r member
    obtain ⟨before,after,cut⟩ := List.append_of_mem member
    obtain ⟨⟨sound,_⟩,same⟩ := roundsHistory (P := Along) start (alongStep env) cut
    rw [same]
    exact ⟨(stepReplies env sound).1,(stepReplies env sound).2.1⟩
  · intro kept r member
    obtain ⟨before,after,cut⟩ := List.append_of_mem member
    obtain ⟨⟨sound,fresh⟩,same⟩ := roundsHistory (P := Along) start (alongStep env) cut
    have now := fresh fun x earlier => kept x (by rw [cut]; exact List.mem_append_left _ earlier)
    rw [same]
    exact (stepReplies env sound).2.2 now

namespace Renewal

def streamId : Text := List.replicate 64 'a'
def path : Text := streamId ++ "/".toList ++ List.replicate 64 'b'
def uri : Text := "rtsp://h/".toList ++ path
def track : Text := uri ++ "/trackID=1".toList

def stream (object : Nat) : Stream := ⟨object,streamId,[avcTrack]⟩

def host : Environment where
  parse := fun uri => some ⟨"rtsp:".toList,false,false,uri.drop 8⟩
  presentation := fun stream =>
    if stream.tracks = [avcTrack] then some [(1,⟨.video,some avcInfo,-1,-1⟩)] else none
  publish := fun _ => false
  v4 := true
  localAddress := "127.0.0.1".toList

def described : List Event :=
  [.add (stream 1),.arrive (.read [.describe uri]),.run,.arrive (.verified true),.run,.run]

def played : List Event :=
  [.arrive (.read [.setup track [] [⟨.rtpTcp,false,.unset,0,1⟩] 7,.play uri "7".toList]),.run,.run]

def renewed : List Event := described ++ [.remove (stream 1),.add (stream 2)] ++ played

def setupReply : Effect :=
  .setup 200 "7".toList "RTP/AVP/TCP;unicast;interleaved=0-1".toList

end Renewal

open Renewal

theorem otherGeneration :
    ((rounds (step host) .initial renewed).map (·.effects)).drop 9 =
      [[.current (some (stream 1)),setupReply],
        [.current (some (stream 1)),.play 200,.addSink (stream 1)]] ∧
    (final (step host) .initial renewed).player.bind (·.stream) = some (stream 1) ∧
    (final (step host) .initial renewed).registry.get streamId = some (stream 2) ∧
    ¬(∀ r ∈ rounds (step host) .initial renewed,
      Replied (fun stream found => found = some stream) r) := by
  refine ⟨by decide +kernel,by decide +kernel,by decide +kernel,?_⟩
  intro replied
  obtain ⟨last,member,plays,playing,other⟩ :
      ∃ r ∈ rounds (step host) .initial renewed, .play 200 ∈ r.effects ∧
        r.next.player.bind (·.stream) = some (stream 1) ∧
        r.next.registry.get streamId = some (stream 2) := by decide +kernel
  obtain ⟨session,held,here,own,found⟩ := replied last member _ plays rfl
  rw [here,Option.bind_some,own] at playing
  cases Option.some.inj playing
  change last.next.registry.get streamId = _ at found
  rw [other] at found
  exact absurd (Option.some.inj found) (by decide)

theorem sameGeneration :
    ∃ r ∈ rounds (step host) .initial (described ++ played), setupReply ∈ r.effects ∧
      ∃ session stream, r.next.player = some session ∧ session.stream = some stream ∧
        r.next.registry.get stream.streamId = some stream := by
  have kept : ∀ r ∈ rounds (step host) .initial (described ++ played), Kept r.state r.event := by
    decide +kernel
  obtain ⟨r,member,replies⟩ : ∃ r ∈ rounds (step host) .initial (described ++ played),
      setupReply ∈ r.effects := by decide +kernel
  exact ⟨r,member,replies,(playGeneration host _).2 kept r member _ replies rfl⟩

end MediaServer.RtspPlay
