import MediaServer.PullConsent

/-! A WHEP pull session from its start to its last shutdown. negotiate takes a port, suspends in the
HTTP exchange and keeps the resource of the answer afterwards; safe_shutdown, which may run at any
time and any number of times, gives back what the session has then. -/
namespace MediaServer.PullCleanup
open Bytes Stun Webrtc WhepPull Controller

abbrev Port := {port : UInt16 // port ≠ 0}

structure Local where
  iceUfrag : Bytes
  icePwd : Bytes
  tieBreaker : UInt64
  transactionPrefix : Vector UInt8 8

/- The result of the exchange; the location only if it is the URL of an http resource. -/
structure HttpResult where
  status : Nat
  location : Option Bytes

def HttpResult.good (result : HttpResult) : Bool := result.status = 200 || result.status = 201

inductive Phase where
  | created
  | negotiating (made : Local)
  | returned

inductive Effect where
  | acquired (port : UInt16)
  | released (port : UInt16)
  | deleted (resourceUrl : Bytes)
  | pull (effect : WhepPull.Effect)

structure Pull (δ ς ρ : Type) where
  phase : Phase
  registered : Bool
  localPort : UInt16
  resourceUrl : Option Bytes
  posted : Nat
  session : Option (Session δ ς ρ)

inductive Event (ρ : Type) where
  | run (port : Option Port) (made : Option Local)
  | exchanged (result : Option HttpResult) (cancelled : Bool) (accepted : Option (Answer × ρ))
      (now : Nat)
  | unregister
  | shutdown
  | safeShutdown
  | sendChecks (now : Nat)
  | datagram (packet : Bytes) (endpoint : Endpoint) (now : Nat)
  | dtlsTimeout

section
variable {δ ς ρ : Type}

def startup : Pull δ ς ρ := ⟨.created,true,0,none,0,none⟩

namespace Pull

def handle (engines : Engines δ ς ρ) (hashes : Hashes) (s : Pull δ ς ρ) (e : WhepPull.Event) :
    Pull δ ς ρ × List Effect :=
  match s.session with
  | none => (s,[])
  | some session =>
    let (next,effects) := Session.handle engines hashes {session with localPort := s.localPort} e
    ({s with session := some next, posted := s.posted + effects.count .postShutdown},
      effects.map .pull)

def fail (s : Pull δ ς ρ) : Pull δ ς ρ := {s with phase := .returned, posted := s.posted + 1}

def run (s : Pull δ ς ρ) (port : Option Port) (made : Option Local) : Pull δ ς ρ × List Effect :=
  match port with
  | none => (s.fail,[])
  | some port =>
    let s := {s with localPort := port.val}
    match made with
    | none => (s.fail,[.acquired port.val])
    | some made => ({s with phase := .negotiating made},[.acquired port.val])

def usable (result : Option HttpResult) : Option Bytes :=
  result.bind fun result => if result.good then result.location else none

def exchanged (engines : Engines δ ς ρ) (hashes : Hashes) (s : Pull δ ς ρ) (made : Local)
    (result : Option HttpResult) (cancelled : Bool) (accepted : Option (Answer × ρ)) (now : Nat) :
    Pull δ ς ρ × List Effect :=
  let s := {s with resourceUrl := (usable result).or s.resourceUrl}
  if cancelled || !s.registered then (s.fail,[])
  else if !result.any HttpResult.good then (s.fail,[])
  else if s.resourceUrl.isNone then (s.fail,[])
  else
    match accepted with
    | none => (s.fail,[])
    | some (answer,receiver) =>
      handle engines hashes
        {s with
          phase := .returned
          session := some ⟨answer,s.localPort,made.iceUfrag,made.icePwd,made.tieBreaker,
            made.transactionPrefix,0,[],none,0,none,none,some receiver⟩}
        (.sendChecks now)

def safeShutdown (s : Pull δ ς ρ) : Pull δ ς ρ × List Effect :=
  ({s with
    registered := false
    localPort := 0
    resourceUrl := none
    posted := s.posted - 1
    session := s.session.map Session.safeShutdown},
    (if s.localPort ≠ 0 then [.released s.localPort] else []) ++ s.resourceUrl.toList.map .deleted)

end Pull

def step (engines : Engines δ ς ρ) (hashes : Hashes) (s : Pull δ ς ρ) :
    Event ρ → Pull δ ς ρ × List Effect
  | .run port made =>
    match s.phase with
    | .created => s.run port made
    | _ => (s,[])
  | .exchanged result cancelled accepted now =>
    match s.phase with
    | .negotiating made => s.exchanged engines hashes made result cancelled accepted now
    | _ => (s,[])
  | .unregister => ({s with registered := false},[])
  | .shutdown => ({s with posted := s.posted + 1},[])
  | .safeShutdown => if s.posted = 0 then (s,[]) else s.safeShutdown
  | .sendChecks now => s.handle engines hashes (.sendChecks now)
  | .datagram packet endpoint now => s.handle engines hashes (.datagram packet endpoint now)
  | .dtlsTimeout => s.handle engines hashes .dtlsTimeout

def Effect.acquiredPort : Effect → Option UInt16
  | .acquired port => some port
  | _ => none

def Effect.releasedPort : Effect → Option UInt16
  | .released port => some port
  | _ => none

def Effect.deletedUrl : Effect → Option Bytes
  | .deleted resourceUrl => some resourceUrl
  | _ => none

structure Closed (s : Pull δ ς ρ) : Prop where
  returned : s.phase = .returned
  port : s.localPort = 0
  dtls : ∀ session, s.session = some session → session.dtls = none

def answered (r : Round (Pull δ ς ρ) (Event ρ) Effect) : Option Bytes :=
  match r.state.phase,r.event with
  | .negotiating _,.exchanged result _ _ _ => Pull.usable result
  | _,_ => none

def Shuts (r : Round (Pull δ ς ρ) (Event ρ) Effect) : Prop :=
  r.event = .safeShutdown ∧ r.state.posted ≠ 0

def Other (s : Pull δ ς ρ) (e : Event ρ) : Prop :=
  ∀ r : Round (Pull δ ς ρ) (Event ρ) Effect, r.state = s → r.event = e → answered r = none ∧ ¬Shuts r

inductive Move (s : Pull δ ς ρ) : Event ρ → Pull δ ς ρ → List Effect → Prop where
  | still {e} (other : Other s e) : Move s e s []
  | refused {port made} (created : s.phase = .created) (none_ : port = none) :
      Move s (.run port made) s.fail []
  | opened {port made s'} (created : s.phase = .created)
      (next : s' = {s with localPort := port.val}.fail ∨
        ∃ made, s' = {s with localPort := port.val, phase := .negotiating made}) :
      Move s (.run (some port) made) s' [.acquired port.val]
  | failed {made result cancelled accepted now} (suspended : s.phase = .negotiating made) :
      Move s (.exchanged result cancelled accepted now)
        {s with resourceUrl := (Pull.usable result).or s.resourceUrl}.fail []
  | begun {made result cancelled accepted now session posted} {effects : List WhepPull.Effect}
      (suspended : s.phase = .negotiating made) (registered : s.registered = true) :
      Move s (.exchanged result cancelled accepted now)
        {s with
          phase := .returned
          resourceUrl := (Pull.usable result).or s.resourceUrl
          posted := s.posted + posted
          session := some session}
        (effects.map .pull)
  | handled {e session posted} {effects : List WhepPull.Effect} (other : Other s e)
      (quiet : Closed s → session.dtls = none ∧ effects = []) :
      Move s e {s with session := some session, posted := s.posted + posted} (effects.map .pull)
  | unregistered : Move s .unregister {s with registered := false} []
  | posted : Move s .shutdown {s with posted := s.posted + 1} []
  | shut (waiting : s.posted ≠ 0) : Move s .safeShutdown s.safeShutdown.1 s.safeShutdown.2

theorem closedHandle (engines : Engines δ ς ρ) (hashes : Hashes) (session : Session δ ς ρ)
    (port : session.localPort = 0) (dtls : session.dtls = none) (e : WhepPull.Event)
    (other : e ≠ .shutdown) : session.handle engines hashes e = (session,[]) := by
  cases e with
  | sendChecks now => simp [Session.handle,Session.sendChecks,port]
  | datagram packet endpoint now => simp [Session.handle,Session.handlePacket,port]
  | dtlsTimeout => simp [Session.handle,Session.handleDtlsTimeout,dtls]
  | shutdown => contradiction

theorem handleMove (engines : Engines δ ς ρ) (hashes : Hashes) (s : Pull δ ς ρ)
    (e : WhepPull.Event) (inner : e ≠ .shutdown) {event : Event ρ} (other : Other s event) :
    Move s event (s.handle engines hashes e).1 (s.handle engines hashes e).2 := by
  unfold Pull.handle
  split
  · exact .still other
  · rename_i session here
    refine .handled other ?_
    intro closed
    have nothing := closedHandle engines hashes {session with localPort := s.localPort}
      closed.port (closed.dtls session here) e inner
    rw [nothing]
    exact ⟨closed.dtls session here,rfl⟩

variable {r : Round (Pull δ ς ρ) (Event ρ) Effect} {s s' : Pull δ ς ρ}

theorem answeredNone
    (other : ∀ made result cancelled accepted now, r.state.phase = .negotiating made →
      r.event ≠ .exchanged result cancelled accepted now) :
    answered r = none := by
  unfold answered
  split
  · rename_i suspended exchange
    exact absurd exchange (other _ _ _ _ _ suspended)
  · rfl

def Event.plain : Event ρ → Bool
  | .exchanged .. | .safeShutdown => false
  | _ => true

theorem otherPlain (s : Pull δ ς ρ) (e : Event ρ) (plain : e.plain = true) : Other s e := by
  intro r state event
  subst event
  refine ⟨answeredNone ?_,?_⟩
  · intro _ _ _ _ _ _ exchange
    rw [exchange] at plain
    contradiction
  · rintro ⟨shut,_⟩
    rw [shut] at plain
    contradiction

theorem move (engines : Engines δ ς ρ) (hashes : Hashes) (s : Pull δ ς ρ) (e : Event ρ) :
    Move s e (step engines hashes s e).1 (step engines hashes s e).2 := by
  cases e with
  | run port made =>
    simp only [step]
    split
    · rename_i created
      cases port with
      | none => exact .refused created rfl
      | some port =>
        cases made with
        | none => exact .opened created (.inl rfl)
        | some made => exact .opened created (.inr ⟨made,rfl⟩)
    · exact .still (otherPlain s _ rfl)
  | exchanged result cancelled accepted now =>
    simp only [step]
    split
    · rename_i made suspended
      unfold Pull.exchanged
      dsimp only
      split
      · exact .failed suspended
      · rename_i going
        simp only [Bool.or_eq_true,not_or,Bool.not_eq_true',Bool.not_eq_true,
          Bool.not_eq_false] at going
        split
        · exact .failed suspended
        · split
          · exact .failed suspended
          · split
            · exact .failed suspended
            · exact .begun suspended going.2
    · rename_i elsewhere
      refine .still ?_
      rintro r rfl event
      refine ⟨answeredNone fun made _ _ _ _ suspended => absurd suspended (elsewhere made),?_⟩
      rintro ⟨shut,_⟩
      rw [event] at shut
      contradiction
  | unregister => exact .unregistered
  | shutdown => exact .posted
  | safeShutdown =>
    simp only [step]
    split
    · rename_i none_
      refine .still ?_
      rintro r rfl event
      refine ⟨answeredNone ?_,fun shuts => shuts.2 none_⟩
      rw [event]
      exact fun _ _ _ _ _ _ => nofun
    · rename_i waiting
      exact .shut waiting
  | sendChecks now =>
    exact handleMove engines hashes s (.sendChecks now) nofun (otherPlain s _ rfl)
  | datagram packet endpoint now =>
    exact handleMove engines hashes s (.datagram packet endpoint now) nofun
      (otherPlain s _ rfl)
  | dtlsTimeout =>
    exact handleMove engines hashes s .dtlsTimeout nofun (otherPlain s _ rfl)

abbrev Past (δ ς ρ : Type) := List (Round (Pull δ ς ρ) (Event ρ) Effect)

def acquiredIn (past : Past δ ς ρ) : List UInt16 :=
  past.flatMap fun r => r.effects.filterMap Effect.acquiredPort

def releasedIn (past : Past δ ς ρ) : List UInt16 :=
  past.flatMap fun r => r.effects.filterMap Effect.releasedPort

def deletedIn (past : Past δ ς ρ) : List Bytes :=
  past.flatMap fun r => r.effects.filterMap Effect.deletedUrl

def answeredIn (past : Past δ ς ρ) : List Bytes := past.filterMap answered

def held (s : Pull δ ς ρ) : List UInt16 := if s.localPort ≠ 0 then [s.localPort] else []

structure Ledger (past : Past δ ς ρ) (s : Pull δ ς ρ) : Prop where
  ports : acquiredIn past = releasedIn past ++ held s
  once : (acquiredIn past).length ≤ 1
  none_ : s.phase = .created → acquiredIn past = []
  resources : answeredIn past = deletedIn past ++ s.resourceUrl.toList
  one : (answeredIn past).length ≤ 1
  unanswered : s.phase ≠ .returned → answeredIn past = []
  out : (∃ r ∈ past, Shuts r) → s.registered = false
  due : s.phase = .returned → (∃ r ∈ past, Shuts r) → s.posted = 0 →
    s.localPort = 0 ∧ s.resourceUrl = none

variable {past : Past δ ς ρ}

theorem acquiredSnoc (past : Past δ ς ρ) (r : Round (Pull δ ς ρ) (Event ρ) Effect) :
    acquiredIn (past ++ [r]) = acquiredIn past ++ r.effects.filterMap Effect.acquiredPort := by
  simp [acquiredIn]

theorem releasedSnoc (past : Past δ ς ρ) (r : Round (Pull δ ς ρ) (Event ρ) Effect) :
    releasedIn (past ++ [r]) = releasedIn past ++ r.effects.filterMap Effect.releasedPort := by
  simp [releasedIn]

theorem deletedSnoc (past : Past δ ς ρ) (r : Round (Pull δ ς ρ) (Event ρ) Effect) :
    deletedIn (past ++ [r]) = deletedIn past ++ r.effects.filterMap Effect.deletedUrl := by
  simp [deletedIn]

theorem answeredSnoc (past : Past δ ς ρ) (r : Round (Pull δ ς ρ) (Event ρ) Effect) :
    answeredIn (past ++ [r]) = answeredIn past ++ (answered r).toList := by
  rw [answeredIn,List.filterMap_append]
  cases found : answered r <;> simp [answeredIn,found]

theorem shutsSnoc (other : ¬Shuts r) (some_ : ∃ x ∈ past ++ [r], Shuts x) :
    ∃ x ∈ past, Shuts x := by
  obtain ⟨x,member,shuts⟩ := some_
  rcases List.mem_append.mp member with old | new
  · exact ⟨x,old,shuts⟩
  · cases List.mem_singleton.mp new
    exact absurd shuts other

structure Quiet (r : Round (Pull δ ς ρ) (Event ρ) Effect) : Prop where
  acquired : r.effects.filterMap Effect.acquiredPort = []
  released : r.effects.filterMap Effect.releasedPort = []
  deleted : r.effects.filterMap Effect.deletedUrl = []

theorem quietPull {effects : List WhepPull.Effect} (same : r.effects = effects.map .pull) :
    Quiet r := by
  constructor <;>
  · rw [same,List.filterMap_map]
    exact List.filterMap_eq_nil_iff.mpr fun _ _ => rfl

theorem quietNone (none_ : r.effects = []) : Quiet r := by
  constructor <;> rw [none_] <;> rfl

theorem Ledger.keep (ledger : Ledger past s) (other : answered r = none ∧ ¬Shuts r)
    (quiet : Quiet r) (phase : s'.phase = s.phase ∨ s'.phase = .returned ∧ s'.posted ≠ 0)
    (port : s'.localPort = s.localPort) (resource : s'.resourceUrl = s.resourceUrl)
    (registered : s.registered = false → s'.registered = false) (posted : s.posted ≤ s'.posted) :
    Ledger (past ++ [r]) s' where
  ports := by
    rw [acquiredSnoc,releasedSnoc,quiet.acquired,quiet.released,ledger.ports,held,held,port]
    simp
  once := by rw [acquiredSnoc,quiet.acquired,List.append_nil]; exact ledger.once
  none_ := by
    intro created
    rw [acquiredSnoc,quiet.acquired,List.append_nil]
    rcases phase with same | ⟨returned,_⟩
    · exact ledger.none_ (same ▸ created)
    · rw [returned] at created
      contradiction
  resources := by
    rw [answeredSnoc,deletedSnoc,other.1,quiet.deleted,ledger.resources,resource]
    simp
  one := by rw [answeredSnoc,other.1]; simpa using ledger.one
  unanswered := by
    intro going
    rw [answeredSnoc,other.1]
    rcases phase with same | ⟨returned,_⟩
    · simpa using ledger.unanswered (same ▸ going)
    · exact absurd returned going
  out := by
    intro some_
    exact registered (ledger.out (shutsSnoc other.2 some_))
  due := by
    intro returned some_ empty
    rcases phase with same | ⟨_,waiting⟩
    · rw [port,resource]
      exact ledger.due (same ▸ returned) (shutsSnoc other.2 some_) (by omega)
    · exact absurd empty waiting

theorem Ledger.open_ (ledger : Ledger past s) (other : answered r = none ∧ ¬Shuts r)
    (created : s.phase = .created) (port : Port) (effects : r.effects = [.acquired port.val])
    (here : s'.localPort = port.val) (resource : s'.resourceUrl = s.resourceUrl)
    (registered : s'.registered = s.registered)
    (phase : s'.phase ≠ .created ∧ (s'.phase = .returned → s'.posted ≠ 0)) :
    Ledger (past ++ [r]) s' := by
  have before := ledger.none_ created
  have unanswered := ledger.unanswered (by rw [created]; simp)
  have ports := ledger.ports
  rw [before] at ports
  have released : releasedIn past = [] := (List.append_eq_nil_iff.mp ports.symm).1
  have now : acquiredIn (past ++ [r]) = [port.val] := by
    rw [acquiredSnoc,before,effects]
    rfl
  have heard : answeredIn (past ++ [r]) = [] := by
    rw [answeredSnoc,unanswered,other.1]
    rfl
  refine ⟨?_,by simp [now],fun again => absurd again phase.1,?_,by rw [heard]; simp,
    fun _ => heard,?_,?_⟩
  · rw [now,releasedSnoc,released,effects,held,here,if_pos port.property]
    rfl
  · have resources := ledger.resources
    rw [unanswered] at resources
    rw [heard,deletedSnoc,effects,resource]
    simpa [Effect.deletedUrl] using resources
  · intro some_
    rw [registered]
    exact ledger.out (shutsSnoc other.2 some_)
  · intro returned _ empty
    exact absurd empty (phase.2 returned)

theorem Ledger.answer (ledger : Ledger past s) {made : Local}
    (suspended : s.phase = .negotiating made) (quiet : Quiet r) (shuts : ¬Shuts r)
    (returned : s'.phase = .returned) (port : s'.localPort = s.localPort)
    (resource : s'.resourceUrl = (answered r).or s.resourceUrl)
    (registered : s'.registered = s.registered) (due : s'.posted ≠ 0 ∨ s.registered = true) :
    Ledger (past ++ [r]) s' := by
  have before := ledger.unanswered (by rw [suspended]; simp)
  have resources := ledger.resources
  rw [before] at resources
  obtain ⟨deleted,none_⟩ := List.append_eq_nil_iff.mp resources.symm
  rw [Option.toList_eq_nil_iff] at none_
  rw [none_,Option.or_none] at resource
  have out : (∃ x ∈ past ++ [r], Shuts x) → s.registered = false := by
    intro some_
    exact ledger.out (shutsSnoc shuts some_)
  refine ⟨?_,?_,?_,?_,?_,fun going => absurd returned going,?_,?_⟩
  · rw [acquiredSnoc,releasedSnoc,quiet.acquired,quiet.released,ledger.ports,held,held,port]
    simp
  · rw [acquiredSnoc,quiet.acquired,List.append_nil]
    exact ledger.once
  · intro created
    rw [returned] at created
    contradiction
  · rw [answeredSnoc,before,deletedSnoc,deleted,quiet.deleted,resource]
    rfl
  · rw [answeredSnoc,before]
    cases answered r <;> simp
  · intro some_
    rw [registered]
    exact out some_
  · intro _ some_ empty
    rcases due with waiting | still
    · exact absurd empty waiting
    · rw [out some_] at still
      contradiction

theorem Ledger.shut (ledger : Ledger past s) (heard : answered r = none)
    (effects : r.effects = s.safeShutdown.2) : Ledger (past ++ [r]) s.safeShutdown.1 := by
  have acquired : r.effects.filterMap Effect.acquiredPort = [] := by
    rw [effects,Pull.safeShutdown]
    split <;> cases s.resourceUrl <;> rfl
  have released : r.effects.filterMap Effect.releasedPort = held s := by
    rw [effects,Pull.safeShutdown,held]
    split <;> cases s.resourceUrl <;> rfl
  have deleted : r.effects.filterMap Effect.deletedUrl = s.resourceUrl.toList := by
    rw [effects,Pull.safeShutdown]
    split <;> cases s.resourceUrl <;> rfl
  have answers : answeredIn (past ++ [r]) = answeredIn past := by
    rw [answeredSnoc,heard]
    simp
  refine ⟨?_,?_,?_,?_,?_,?_,fun _ => rfl,fun _ _ _ => ⟨rfl,rfl⟩⟩
  · rw [acquiredSnoc,acquired,releasedSnoc,released,ledger.ports]
    rfl
  · rw [acquiredSnoc,acquired,List.append_nil]
    exact ledger.once
  · intro created
    rw [acquiredSnoc,acquired,List.append_nil]
    exact ledger.none_ created
  · rw [answers,deletedSnoc,deleted,ledger.resources]
    exact (List.append_nil _).symm
  · rw [answers]
    exact ledger.one
  · intro going
    rw [answers]
    exact ledger.unanswered going

theorem ledgerStep (engines : Engines δ ς ρ) (hashes : Hashes) (past : Past δ ς ρ)
    (s : Pull δ ς ρ) (e : Event ρ) (ledger : Ledger past s) :
    Ledger (past ++ [.of (step engines hashes) s e]) (step engines hashes s e).1 := by
  have moved := move engines hashes s e
  obtain ⟨r,same⟩ : ∃ r, r = Round.of (step engines hashes) s e := ⟨_,rfl⟩
  have event : r.event = e := by rw [same]; rfl
  have state : r.state = s := by rw [same]; rfl
  have effects : r.effects = (step engines hashes s e).2 := by rw [same]; rfl
  rw [← same]
  rw [← effects] at moved
  generalize (step engines hashes s e).1 = s' at moved
  clear same effects
  generalize ordered : r.effects = effects at moved
  cases moved with
  | still other =>
    exact ledger.keep (other r state event) (quietNone ordered) (.inl rfl) rfl rfl id (Nat.le_refl _)
  | refused created none_ =>
    refine ledger.keep (otherPlain s _ rfl r state event) (quietNone ordered)
      (.inr ⟨rfl,Nat.succ_ne_zero _⟩) rfl rfl id (Nat.le_succ _)
  | @opened port made s' created next =>
    have other := otherPlain s _ rfl r state event
    rcases next with rfl | ⟨made,rfl⟩
    · exact ledger.open_ other created port ordered rfl rfl rfl
        ⟨by simp [Pull.fail],fun _ => Nat.succ_ne_zero _⟩
    · exact ledger.open_ other created port ordered rfl rfl rfl ⟨by simp,by simp⟩
  | failed suspended =>
    refine ledger.answer suspended (quietNone ordered) ?_ rfl rfl ?_ rfl
      (.inl (Nat.succ_ne_zero _))
    · rintro ⟨shut,_⟩
      rw [event] at shut
      contradiction
    · simp [answered,state,event,suspended,Pull.fail]
  | begun suspended registered =>
    refine ledger.answer suspended (quietPull ordered) ?_ rfl rfl ?_ rfl (.inr registered)
    · rintro ⟨shut,_⟩
      rw [event] at shut
      contradiction
    · simp [answered,state,event,suspended]
  | handled other quiet =>
    exact ledger.keep (other r state event) (quietPull ordered) (.inl rfl) rfl rfl id
      (Nat.le_add_right _ _)
  | unregistered =>
    exact ledger.keep (otherPlain s _ rfl r state event) (quietNone ordered)
      (.inl rfl) rfl rfl (fun _ => rfl) (Nat.le_refl _)
  | posted =>
    exact ledger.keep (otherPlain s _ rfl r state event) (quietNone ordered)
      (.inl rfl) rfl rfl id (Nat.le_succ _)
  | shut waiting =>
    refine ledger.shut (answeredNone ?_) ordered
    rw [event]
    exact fun _ _ _ _ _ _ => nofun

theorem ledgerStart : Ledger [] (startup : Pull δ ς ρ) :=
  ⟨rfl,Nat.zero_le _,fun _ => rfl,rfl,Nat.zero_le _,fun _ => rfl,by simp,by simp⟩

theorem Closed.step {e : Event ρ} {effects : List Effect} (closed : Closed s)
    (moved : Move s e s' effects) : Closed s' ∧ ∀ effect, .pull effect ∉ effects := by
  have returned := closed.returned
  cases moved with
  | still => exact ⟨closed,by simp⟩
  | refused created | opened created =>
    rw [returned] at created
    contradiction
  | failed suspended | begun suspended =>
    rw [returned] at suspended
    contradiction
  | handled other quiet =>
    obtain ⟨dtls,rfl⟩ := quiet closed
    refine ⟨⟨returned,closed.port,?_⟩,by simp⟩
    intro session same
    cases Option.some.inj same
    exact dtls
  | unregistered | posted => exact ⟨⟨returned,closed.port,closed.dtls⟩,by simp⟩
  | shut =>
    refine ⟨⟨returned,rfl,?_⟩,?_⟩
    · intro session same
      obtain ⟨_,_,rfl⟩ := Option.map_eq_some_iff.mp same
      rfl
    · intro effect
      simp [Pull.safeShutdown,closed.port]

def Shutdowned (past : Past δ ς ρ) (s : Pull δ ς ρ) : Prop :=
  (∃ r ∈ past, Shuts r ∧ r.state.phase = .returned) → Closed s

theorem shutdownedStep (engines : Engines δ ς ρ) (hashes : Hashes) (past : Past δ ς ρ)
    (s : Pull δ ς ρ) (e : Event ρ) (before : Shutdowned past s) :
    Shutdowned (past ++ [.of (step engines hashes) s e]) (step engines hashes s e).1 := by
  rintro ⟨r,member,shuts,returned⟩
  rcases List.mem_append.mp member with old | new
  · exact ((before ⟨r,old,shuts,returned⟩).step (move engines hashes s e)).1
  · cases List.mem_singleton.mp new
    obtain ⟨event,waiting⟩ := shuts
    simp only [Round.of] at event waiting returned
    subst event
    rw [step,if_neg waiting]
    refine ⟨returned,rfl,?_⟩
    intro session same
    obtain ⟨_,_,rfl⟩ := Option.map_eq_some_iff.mp same
    rfl

theorem shutReleases {port : UInt16} (released : .released port ∈ s.safeShutdown.2) :
    s.localPort = port ∧ port ≠ 0 := by
  rw [Pull.safeShutdown] at released
  rcases List.mem_append.mp released with here | there
  · split at here
    · rename_i some_
      cases List.mem_singleton.mp here
      exact ⟨rfl,some_⟩
    · contradiction
  · simp at there

theorem pullCleanup (engines : Engines δ ς ρ) (hashes : Hashes) (events : List (Event ρ)) :
    (∀ r ∈ rounds (step engines hashes) startup events, ∀ port, .released port ∈ r.effects →
      r.state.localPort = port ∧ port ≠ 0) ∧
    (acquiredIn (rounds (step engines hashes) startup events)).length ≤ 1 ∧
    (answeredIn (rounds (step engines hashes) startup events)).length ≤ 1 ∧
    releasedIn (rounds (step engines hashes) startup events) <+:
      acquiredIn (rounds (step engines hashes) startup events) ∧
    deletedIn (rounds (step engines hashes) startup events) <+:
      answeredIn (rounds (step engines hashes) startup events) ∧
    ((final (step engines hashes) startup events).phase = .returned →
      (∃ r ∈ rounds (step engines hashes) startup events, Shuts r) →
      (final (step engines hashes) startup events).posted = 0 →
      releasedIn (rounds (step engines hashes) startup events) =
        acquiredIn (rounds (step engines hashes) startup events) ∧
      deletedIn (rounds (step engines hashes) startup events) =
        answeredIn (rounds (step engines hashes) startup events)) ∧
    ∀ before r after, rounds (step engines hashes) startup events = before ++ r :: after →
      Shuts r → r.state.phase = .returned →
      ∀ later ∈ after, ∀ effect, .pull effect ∉ later.effects := by
  have ledger : Ledger (rounds (step engines hashes) startup events)
      (final (step engines hashes) startup events) :=
    finalHistory (P := Ledger) ledgerStart (ledgerStep engines hashes)
  refine ⟨?_,ledger.once,ledger.one,⟨_,ledger.ports.symm⟩,⟨_,ledger.resources.symm⟩,?_,?_⟩
  · intro r member port released
    obtain ⟨_,same⟩ := roundsInvariant (P := fun _ => True) trivial (fun _ _ _ => trivial) r member
    have moved := move engines hashes r.state r.event
    rw [same] at moved
    generalize r.effects = effects at moved released
    generalize r.next = next at moved
    generalize r.event = e at moved
    cases moved with
    | still | refused | failed | unregistered | posted => simp at released
    | opened => simp at released
    | begun | handled => simp at released
    | shut => exact shutReleases released
  · intro returned shuts none_
    obtain ⟨port,resource⟩ := ledger.due returned shuts none_
    rw [ledger.ports,ledger.resources,held,port,resource]
    simp
  · intro before r after cut shuts returned later member effect inside
    obtain ⟨between,rest,split⟩ := List.append_of_mem member
    rw [split] at cut
    have whole : rounds (step engines hashes) startup events =
        (before ++ r :: between) ++ later :: rest := by rw [cut]; simp
    have start : Shutdowned [] (startup : Pull δ ς ρ) := by
      rintro ⟨_,member,_⟩
      contradiction
    obtain ⟨closed,same⟩ := roundsHistory (P := Shutdowned) start (shutdownedStep engines hashes) whole
    have moved := move engines hashes later.state later.event
    rw [same] at inside
    exact ((closed ⟨r,by simp,shuts,returned⟩).step moved).2 effect inside

end

def lateAnswer : List (Event Unit) :=
  [.run (some ⟨50000,by decide⟩) (some ⟨[97],[],2,Vector.replicate 8 3⟩),.shutdown,.safeShutdown,
    .exchanged (some ⟨201,some [47]⟩) false (some (⟨[viewer],[98],[],true⟩,())) 10,.safeShutdown]

theorem pullCleanupRun :
    releasedIn (rounds (step idleEngines plainHashes) startup lateAnswer) = [50000] ∧
    deletedIn (rounds (step idleEngines plainHashes) startup lateAnswer) = [[47]] ∧
    releasedIn (rounds (step idleEngines plainHashes) startup lateAnswer) =
      acquiredIn (rounds (step idleEngines plainHashes) startup lateAnswer) ∧
    deletedIn (rounds (step idleEngines plainHashes) startup lateAnswer) =
      answeredIn (rounds (step idleEngines plainHashes) startup lateAnswer) := by
  obtain ⟨_,_,_,_,_,done,_⟩ := pullCleanup idleEngines plainHashes lateAnswer
  refine ⟨rfl,rfl,done rfl ?_ rfl⟩
  exact ⟨_,List.mem_cons_of_mem _ (List.mem_cons_of_mem _ (List.mem_cons_self ..)),rfl,
    Nat.one_ne_zero⟩

end MediaServer.PullCleanup
