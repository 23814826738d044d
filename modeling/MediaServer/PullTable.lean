import MediaServer.SourceOperations

/-! The table of the pulls under all threads. A thread that works under sourceOperationMu is the only
one; an entry that is still starting belongs to the thread that reserved it, and reconcile passes
leave it alone. -/
namespace MediaServer.Sources
open Controller

def Stage.inside : Stage → Bool
  | .statement | .lock _ | .held _ | .unlock _ | .leave _ => true
  | _ => false

def Stage.holds : Stage → Bool
  | .held _ | .unlock _ => true
  | _ => false

def Stage.session : Stage → Option RtspPullSession
  | .held (.createPull session _) | .held (.finish session) | .held (.drop session _) => some session
  | _ => none

def Stage.pending : Stage → List RtspPullSession
  | .listReceivers pulls | .dropEnded pulls => pulls
  | _ => []

def Stage.closing : Stage → Bool
  | .wait | .swap => true
  | _ => false

theorem gotoStage (t : Thread) (after : After) :
    (t.goto after).stage.inside = true ∧ (t.goto after).stage.holds = false ∧
      (t.goto after).stage.session = none ∧ (t.goto after).stage.pending = [] ∧
      (t.goto after).stage.closing = false := by
  cases after with
  | leave answer => exact ⟨rfl,rfl,rfl,rfl,rfl⟩
  | lock operation => exact ⟨rfl,rfl,rfl,rfl,rfl⟩
  | loop =>
    simp only [Thread.goto]
    split <;> exact ⟨rfl,rfl,rfl,rfl,rfl⟩

theorem firstHeld (operation : Operation) : (Stage.held operation.first).session = none := by
  cases operation <;> rfl

structure Quiet (s : Server) (t : Thread) (s' : Server) (t' : Thread) : Prop where
  pulls : s'.rtspPulls = s.rtspPulls
  operation : s'.sourceOperation = s.sourceOperation
  closed : s'.sourceControlClosed = s.sourceControlClosed
  wait : s'.sourceControlWait = s.sourceControlWait
  uuid : s.uuid ≤ s'.uuid
  threads : s'.threads = s.threads
  next : s'.next = s.next
  inside : t'.stage.inside = t.stage.inside
  holds : t'.stage.holds = t.stage.holds
  session : t'.stage.session = t.stage.session
  pending : t'.stage.pending ⊆ t.stage.pending
  closing : t'.stage.closing = true → t'.stage = .swap ∧ t.stage = .wait ∧ s.sourceControlWait = []

inductive Turned (s : Server) (call : Nat) (t : Thread) : Server → Thread → List Effect → Prop where
  | quiet {s' t' effects} (same : Quiet s t s' t')
      (plain : ∀ c session, .reserved c session ∉ effects ∧ .finished c session ∉ effects ∧
        .removed c session ∉ effects ∧ .ended c session ∉ effects)
      (whole : ∀ c, .swapped c ∉ effects) : Turned s call t s' t' effects
  | enter {t'} (at_ : t.stage = .enter) (free : s.sourceControlClosed = false)
      (new : t'.stage.holds = false ∧ t'.stage.session = none ∧ t'.stage.pending = [] ∧
        t'.stage.closing = false) :
      Turned s call t {s with sourceControlWait := call :: s.sourceControlWait} t' []
  | lock {operation} (at_ : t.stage = .lock operation) (free : s.sourceOperation = none) :
      Turned s call t {s with sourceOperation := some call}
        {t with stage := .held operation.first} []
  | unlock {after} (at_ : t.stage = .unlock after) :
      Turned s call t {s with sourceOperation := none} (t.goto after) []
  | leave {answer} (at_ : t.stage = .leave answer) :
      Turned s call t {s with sourceControlWait := s.sourceControlWait.erase call}
        {t with stage := .done answer} [.answered call answer]
  | reserve {sourceID source session} (at_ : t.stage = .held (.reserve sourceID source))
      (free : s.rtspPulls.get sourceID = none)
      (made : session = ⟨sourceID,s.uuid + 1,source.streamName,true⟩) :
      Turned s call t
        {s with uuid := s.uuid + 1, rtspPulls := s.rtspPulls.set sourceID session}
        {t with stage := .held (.createPull session source)} [.reserved call session]
  | finish {session after found} (at_ : t.stage = .held (.finish session))
      (read : found = s.pullAt session.sourceID) :
      Turned s call t
        {s with rtspPulls := s.rtspPulls.set session.sourceID {found with starting := false}}
        {t with stage := .unlock after} [.finished call found]
  | drop {session failure after found} (at_ : t.stage = .held (.drop session failure))
      (here : s.rtspPulls.get session.sourceID = some found) :
      Turned s call t {s with rtspPulls := s.rtspPulls.delete session.sourceID}
        {t with stage := .unlock after} [.removed call found]
  | lost {session failure after} (at_ : t.stage = .held (.drop session failure))
      (absent : s.rtspPulls.get session.sourceID = none) :
      Turned s call t s {t with stage := .unlock after} []
  | take {sourceID found} (at_ : t.stage = .held (.take sourceID))
      (here : s.rtspPulls.get sourceID = some found) :
      Turned s call t {s with rtspPulls := s.rtspPulls.delete sourceID}
        {t with stage := .held (.deleteReceiver found.streamID)} [.removed call found]
  | snapshot (at_ : t.stage = .snapshot) :
      Turned s call t s {t with stage := .listReceivers s.confirmedRTSPPulls} []
  | ended {pull rest found} (at_ : t.stage = .dropEnded (pull :: rest))
      (here : s.rtspPulls.get pull.sourceID = some found)
      (same : found.streamID = pull.streamID) (confirmed : found.starting = false) :
      Turned s call t {s with rtspPulls := s.rtspPulls.delete pull.sourceID}
        {t with stage := .dropEnded rest} [.ended call found]
  | close (at_ : t.stage = .close) :
      Turned s call t {s with sourceControlClosed := true} {t with stage := .wait} []
  | swap {effects} (at_ : t.stage = .swap) :
      Turned s call t {s with rtspPulls := ∅} {t with stage := .done none}
        (.swapped call :: effects)

variable {s s' : Server} {call : Nat} {t t' : Thread} {stage : Stage} {effects : List Effect}

theorem setDesiredStateOk {sourceID : Nat} {desired : DesiredState} {reply : Reply}
    {source : RtspSource} (ok : s.setDesiredState sourceID desired reply = .ok (s',source)) :
    reply = .ok ∧ ∃ row, s.rows.get sourceID = some row ∧
      source = {row with desiredState := desired} ∧
      s' = {s with rows := s.rows.set sourceID source} := by
  unfold Server.setDesiredState at ok
  split at ok
  · contradiction
  · rename_i answered
    split at ok
    · contradiction
    · rename_i row found
      cases ok
      exact ⟨not_not.mp answered,row,found,rfl,rfl⟩

theorem Turned.working {held : Held} (at_ : t.stage = .held held)
    (rows : s' = {s with rows := s'.rows}) (holds : stage.holds = true)
    (session : stage.session = (Stage.held held).session)
    (plain : effects = [] ∨ (∃ request, effects = [.createPull request]) ∨
      ∃ streamID, effects = [.deleteReceiver streamID]) :
    Turned s call t s' {t with stage := stage} effects := by
  have shape : stage.inside = true ∧ stage.pending = [] ∧ stage.closing = false := by
    cases stage <;> simp [Stage.holds] at holds <;> exact ⟨rfl,rfl,rfl⟩
  refine .quiet ⟨?_,?_,?_,?_,?_,?_,?_,?_,?_,?_,?_,?_⟩ ?_ ?_
  · rw [rows]
  · rw [rows]
  · rw [rows]
  · rw [rows]
  · rw [rows]
  · rw [rows]
  · rw [rows]
  · rw [at_]; exact shape.1
  · rw [at_]; exact holds
  · rw [at_]; exact session
  · simp [shape.2.1]
  · simp [shape.2.2]
  · rcases plain with none_ | ⟨request,one⟩ | ⟨streamID,one⟩ <;> simp [*]
  · rcases plain with none_ | ⟨request,one⟩ | ⟨streamID,one⟩ <;> simp [*]

theorem workTurned (s : Server) (call : Nat) (t : Thread) (reply : Reply) {held : Held}
    (at_ : t.stage = .held held) :
    Turned s call t (work s call t.handler reply held).1
      {t with stage := (work s call t.handler reply held).2.1}
      (work s call t.handler reply held).2.2 := by
  cases held with
  | startDesire sourceID =>
    simp only [work]
    split
    · exact .working at_ rfl rfl rfl (.inl rfl)
    · rename_i ok
      obtain ⟨_,row,_,_,same⟩ := setDesiredStateOk ok
      subst same
      exact .working at_ rfl rfl rfl (.inl rfl)
  | reserve sourceID source =>
    simp only [work]
    split
    · exact .working at_ rfl rfl rfl (.inl rfl)
    · rename_i free
      exact .reserve at_ (by simpa using free) rfl
  | createPull session source =>
    simp only [work]
    split
    · exact .working at_ rfl rfl rfl (.inr (.inl ⟨_,rfl⟩))
    · exact .working at_ rfl rfl rfl (.inr (.inl ⟨_,rfl⟩))
  | finish session => exact .finish at_ rfl
  | drop session failure =>
    simp only [work]
    split
    · rename_i absent
      exact .lost at_ absent
    · rename_i found here
      exact .drop at_ here
  | stopDesire sourceID desired =>
    simp only [work]
    split
    · exact .working at_ rfl rfl rfl (.inl rfl)
    · rename_i ok
      obtain ⟨_,row,_,_,same⟩ := setDesiredStateOk ok
      subst same
      exact .working at_ rfl rfl rfl (.inl rfl)
  | take sourceID =>
    simp only [work]
    split
    · exact .working at_ rfl rfl rfl (.inl rfl)
    · rename_i found here
      exact .take at_ here
  | deleteReceiver streamID => exact .working at_ rfl rfl rfl (.inr (.inr ⟨_,rfl⟩))
  | deleteStopped sourceID =>
    simp only [work]
    split
    · exact .working at_ rfl rfl rfl (.inl rfl)
    · split
      · exact .working at_ rfl rfl rfl (.inl rfl)
      · split
        · exact .working at_ rfl rfl rfl (.inl rfl)
        · exact .working at_ rfl rfl rfl (.inl rfl)

theorem statementShape (valid : RtspSource → Bool) (s : Server) (t : Thread) (reply : Reply) :
    ∃ rows uuid u after, statement valid s t reply =
      ({s with rows := rows, uuid := uuid},Thread.goto u after) ∧ s.uuid ≤ uuid := by
  unfold statement
  split
  · dsimp only
    split
    · exact ⟨_,_,_,_,rfl,Nat.le_succ _⟩
    · split
      · exact ⟨_,_,_,_,rfl,Nat.le_succ _⟩
      · split
        · exact ⟨_,_,_,_,rfl,Nat.le_succ _⟩
        · exact ⟨_,_,_,_,rfl,Nat.le_succ _⟩
  · split
    · exact ⟨_,_,_,_,rfl,le_refl _⟩
    · split
      · exact ⟨_,_,_,_,rfl,le_refl _⟩
      · dsimp only
        split
        · exact ⟨_,_,_,_,rfl,le_refl _⟩
        · split
          · exact ⟨_,_,_,_,rfl,le_refl _⟩
          · split
            · exact ⟨_,_,_,_,rfl,le_refl _⟩
            · exact ⟨_,_,_,_,rfl,le_refl _⟩
  · split
    · exact ⟨_,_,_,_,rfl,le_refl _⟩
    · exact ⟨_,_,_,_,rfl,le_refl _⟩
  · exact ⟨_,_,_,_,rfl,le_refl _⟩

theorem statementTurned (valid : RtspSource → Bool) (s : Server) (call : Nat) (t : Thread)
    (reply : Reply) (at_ : t.stage = .statement) :
    Turned s call t (statement valid s t reply).1 (statement valid s t reply).2 [] := by
  obtain ⟨rows,uuid,u,after,same,grows⟩ := statementShape valid s t reply
  obtain ⟨inside,holds,session,pending,closing⟩ := gotoStage u after
  rw [same]
  refine .quiet ⟨rfl,rfl,rfl,rfl,grows,rfl,rfl,?_,?_,?_,?_,?_⟩ (by simp) (by simp)
  · rw [at_]; exact inside
  · rw [at_]; exact holds
  · rw [at_]; exact session
  · simp [pending]
  · simp [closing]

theorem Turned.idle (inside : stage.inside = t.stage.inside) (holds : stage.holds = t.stage.holds)
    (session : stage.session = t.stage.session) (pending : stage.pending ⊆ t.stage.pending)
    (closing : stage.closing = true → stage = .swap ∧ t.stage = .wait ∧ s.sourceControlWait = [])
    (plain : effects = [] ∨ ∃ answer, effects = [.answered call answer]) :
    Turned s call t s {t with stage := stage} effects := by
  refine .quiet ⟨rfl,rfl,rfl,rfl,le_refl _,rfl,rfl,inside,holds,session,pending,closing⟩ ?_ ?_
  · rcases plain with none_ | ⟨answer,one⟩ <;> simp [*]
  · rcases plain with none_ | ⟨answer,one⟩ <;> simp [*]

theorem turned {valid : RtspSource → Bool} {reply : Reply}
    (taken : turn valid s call t reply = some (s',t',effects)) : Turned s call t s' t' effects := by
  cases at_ : t.stage with
  | enter =>
    simp only [turn,at_] at taken
    split at taken
    · cases Option.some.inj taken
      exact .idle (by rw [at_]; rfl) (by rw [at_]; rfl) (by rw [at_]; rfl) (by simp [Stage.pending])
        (by simp [Stage.closing]) (.inr ⟨_,rfl⟩)
    · rename_i free
      cases Option.some.inj taken
      refine .enter at_ (by simpa using free) ?_
      cases t.handler <;> exact ⟨rfl,rfl,rfl,rfl⟩
  | statement =>
    simp only [turn,at_] at taken
    cases Option.some.inj taken
    exact statementTurned valid s call t reply at_
  | lock operation =>
    simp only [turn,at_] at taken
    obtain ⟨free,taken⟩ := Option.ite_none_left_eq_some.mp taken
    cases Option.some.inj taken
    exact .lock at_ (by simpa using free)
  | held held =>
    simp only [turn,at_] at taken
    cases Option.some.inj taken
    exact workTurned s call t reply at_
  | unlock after =>
    simp only [turn,at_] at taken
    cases Option.some.inj taken
    exact .unlock at_
  | leave answer =>
    simp only [turn,at_] at taken
    cases Option.some.inj taken
    exact .leave at_
  | done answer => simp only [turn,at_] at taken; contradiction
  | snapshot =>
    simp only [turn,at_] at taken
    cases Option.some.inj taken
    exact .snapshot at_
  | listReceivers pulls =>
    simp only [turn,at_] at taken
    split at taken
    · cases Option.some.inj taken
      exact .idle (by rw [at_]; rfl) (by rw [at_]; rfl) (by rw [at_]; rfl)
        (by rw [at_]; exact List.filter_sublist.subset) (by simp [Stage.closing]) (.inl rfl)
    · cases Option.some.inj taken
      exact .idle (by rw [at_]; rfl) (by rw [at_]; rfl) (by rw [at_]; rfl) (by simp [Stage.pending])
        (by simp [Stage.closing]) (.inl rfl)
  | dropEnded pulls =>
    cases pulls with
    | nil =>
      simp only [turn,at_] at taken
      cases Option.some.inj taken
      exact .idle (by rw [at_]; rfl) (by rw [at_]; rfl) (by rw [at_]; rfl) (by simp [Stage.pending])
        (by simp [Stage.closing]) (.inl rfl)
    | cons pull rest =>
      simp only [turn,at_,Server.dropEndedRTSPPull] at taken
      have left : Turned s call t s {t with stage := .dropEnded rest} [] :=
        .idle (by rw [at_]; rfl) (by rw [at_]; rfl) (by rw [at_]; rfl)
          (by rw [at_]; exact List.subset_cons_self ..) (by simp [Stage.closing]) (.inl rfl)
      split at taken
      · cases Option.some.inj taken
        exact left
      · rename_i found here
        split at taken
        · cases Option.some.inj taken
          exact left
        · rename_i fits
          cases Option.some.inj taken
          simp only [Bool.or_eq_true,decide_eq_true_eq,not_or,Bool.not_eq_true,ne_eq,not_not] at fits
          exact .ended at_ here fits.1 fits.2
  | close =>
    simp only [turn,at_] at taken
    cases Option.some.inj taken
    exact .close at_
  | wait =>
    simp only [turn,at_] at taken
    obtain ⟨empty,taken⟩ := Option.ite_none_right_eq_some.mp taken
    cases Option.some.inj taken
    exact .idle (by rw [at_]; rfl) (by rw [at_]; rfl) (by rw [at_]; rfl) (by simp [Stage.pending])
      (fun _ => ⟨rfl,at_,empty⟩) (.inl rfl)
  | swap =>
    simp only [turn,at_] at taken
    cases Option.some.inj taken
    exact .swap at_

theorem Turned.threads (moved : Turned s call t s' t' effects) : s'.threads = s.threads := by
  cases moved with
  | quiet same => exact same.threads
  | _ => rfl

structure Good (s : Server) (call : Nat) (t : Thread) : Prop where
  holder : t.stage.holds = true → s.sourceOperation = some call
  counted : t.stage.inside = true → call ∈ s.sourceControlWait
  closed : t.stage.closing = true → s.sourceControlClosed = true
  empty : t.stage = .swap → s.sourceControlWait = []
  reserved : ∀ session, t.stage.session = some session →
    s.rtspPulls.get session.sourceID = some session ∧ session.starting = true

structure Sound (s : Server) : Prop where
  fresh : ∀ call, s.next ≤ call → s.threads.get call = none
  threads : ∀ call t, s.threads.get call = some t → Good s call t
  starting : ∀ k session, s.rtspPulls.get k = some session → session.starting = true →
    ∃ call t, s.threads.get call = some t ∧ t.stage.session = some session
  keys : ∀ k session, s.rtspPulls.get k = some session →
    session.sourceID = k ∧ session.streamID ≤ s.uuid

theorem sessionHolds {session : RtspPullSession} (own : stage.session = some session) :
    stage.holds = true := by
  cases stage <;> first | rfl | contradiction

theorem holdsInside (holds : stage.holds = true) : stage.inside = true := by
  cases stage <;> first | rfl | contradiction

theorem Good.frame (good : Good s call t)
    (operation : s.sourceOperation = some call → s'.sourceOperation = some call)
    (wait : call ∈ s.sourceControlWait → call ∈ s'.sourceControlWait)
    (closed : s.sourceControlClosed = true → s'.sourceControlClosed = true)
    (empty : s.sourceControlClosed = true → s.sourceControlWait = [] → s'.sourceControlWait = [])
    (pulls : ∀ session, t.stage.session = some session →
      s.rtspPulls.get session.sourceID = some session → session.starting = true →
      s'.rtspPulls.get session.sourceID = some session) :
    Good s' call t := by
  constructor
  · exact fun holds => operation (good.holder holds)
  · exact fun inside => wait (good.counted inside)
  · exact fun closing => closed (good.closed closing)
  · exact fun swap => empty (good.closed (by rw [swap]; rfl)) (good.empty swap)
  · intro session own
    obtain ⟨here,starting⟩ := good.reserved session own
    exact ⟨pulls session own here starting,starting⟩

theorem Sound.alone {other : Nat} {u : Thread} (sound : Sound s)
    (here : s.threads.get call = some t) (there : s.threads.get other = some u)
    (holds : t.stage.holds = true) (differs : other ≠ call) : u.stage.session = none := by
  cases own : u.stage.session with
  | none => rfl
  | some session =>
    have first := (sound.threads call t here).holder holds
    have second := (sound.threads other u there).holder (sessionHolds own)
    rw [first] at second
    exact absurd (Option.some.inj second).symm differs

theorem Sound.next (sound : Sound s) (s' : Server) (here : s.threads.get call = some t)
    (threads : s'.threads = s.threads) (same : s'.next = s.next) (own : Good s' call t')
    (others : ∀ other u, other ≠ call → s.threads.get other = some u → Good s' other u)
    (starting : ∀ k session, s'.rtspPulls.get k = some session → session.starting = true →
      t'.stage.session = some session ∨
        s.rtspPulls.get k = some session ∧ t.stage.session ≠ some session)
    (keys : ∀ k session, s'.rtspPulls.get k = some session →
      session.sourceID = k ∧ session.streamID ≤ s'.uuid) :
    Sound {s' with threads := s'.threads.set call t'} := by
  rw [threads]
  constructor
  · intro other above
    have differs : other ≠ call := by
      intro equal
      subst equal
      rw [sound.fresh other (same ▸ above)] at here
      contradiction
    simpa [differs] using sound.fresh other (same ▸ above)
  · intro other u there
    by_cases equal : other = call
    · subst equal
      simp only [Table.getSet,if_true,Option.some.injEq] at there
      subst there
      exact ⟨own.holder,own.counted,own.closed,own.empty,own.reserved⟩
    · obtain good := others other u equal (by simpa [equal] using there)
      exact ⟨good.holder,good.counted,good.closed,good.empty,good.reserved⟩
  · intro k session found starts
    rcases starting k session found starts with mine | ⟨before,foreign⟩
    · exact ⟨call,t',by simp,mine⟩
    · obtain ⟨owner,u,there,owned⟩ := sound.starting k session before starts
      have differs : owner ≠ call := by
        intro equal
        subst equal
        rw [here] at there
        cases there
        exact foreign owned
      exact ⟨owner,u,by simpa [differs] using there,owned⟩
  · exact keys

theorem Sound.keptPulls (sound : Sound s) (here : s.threads.get call = some t)
    (threads : s'.threads = s.threads) (same : s'.next = s.next)
    (pulls : s'.rtspPulls = s.rtspPulls) (uuid : s.uuid ≤ s'.uuid)
    (session : t'.stage.session = t.stage.session) (own : Good s' call t')
    (others : ∀ other u, other ≠ call → s.threads.get other = some u → Good s' other u) :
    Sound {s' with threads := s'.threads.set call t'} := by
  refine sound.next s' here threads same own others ?_ ?_
  · intro k found there starts
    rw [pulls] at there
    by_cases mine : t.stage.session = some found
    · exact .inl (session.trans mine)
    · exact .inr ⟨there,mine⟩
  · intro k found there
    rw [pulls] at there
    obtain ⟨key,old⟩ := sound.keys k found there
    exact ⟨key,le_trans old uuid⟩

theorem Sound.deleted {k : Nat} {found : RtspPullSession} (sound : Sound s)
    (here : s.threads.get call = some t) (there : s.rtspPulls.get k = some found)
    (others : ∀ other u, other ≠ call → s.threads.get other = some u → u.stage.session ≠ some found)
    (mine : ∀ session, t.stage.session = some session → session.sourceID = k)
    (own : Good {s with rtspPulls := s.rtspPulls.delete k} call t') :
    Sound {s with rtspPulls := s.rtspPulls.delete k, threads := s.threads.set call t'} := by
  refine sound.next {s with rtspPulls := s.rtspPulls.delete k} here rfl rfl own ?_ ?_ ?_
  · intro other u differs thread
    refine (sound.threads other u thread).frame id id id (fun _ => id) ?_
    intro session owned kept starting
    have elsewhere : session.sourceID ≠ k := by
      intro equal
      rw [equal,there] at kept
      cases kept
      exact others other u differs thread owned
    simpa [elsewhere] using kept
  · intro k' session kept starts
    simp only [Table.getDelete] at kept
    split at kept
    · contradiction
    · rename_i differs
      refine .inr ⟨kept,fun owned => differs ?_⟩
      rw [← (sound.keys k' session kept).1]
      exact mine session owned
  · intro k' session kept
    simp only [Table.getDelete] at kept
    split at kept
    · contradiction
    · exact sound.keys k' session kept

section
variable {s s' : Server} {call : Nat} {t t' : Thread} (sound : Sound s)
  (here : s.threads.get call = some t)
include sound here

theorem Sound.quiet (same : Quiet s t s' t') : Sound {s' with threads := s'.threads.set call t'} := by
  have good := sound.threads call t here
  refine sound.keptPulls here same.threads same.next same.pulls same.uuid same.session ?_ ?_
  · constructor
    · rw [same.holds,same.operation]; exact good.holder
    · rw [same.inside,same.wait]; exact good.counted
    · intro closing
      rw [same.closed]
      exact good.closed (by rw [(same.closing closing).2.1]; rfl)
    · intro swap
      rw [same.wait]
      exact (same.closing (by rw [swap]; rfl)).2.2
    · rw [same.session,same.pulls]; exact good.reserved
  · intro other u _ there
    refine (sound.threads other u there).frame ?_ ?_ ?_ ?_ ?_
    · rw [same.operation]; exact id
    · rw [same.wait]; exact id
    · rw [same.closed]; exact id
    · rw [same.wait]; exact fun _ => id
    · rw [same.pulls]; exact fun _ _ kept _ => kept

theorem Sound.entered (at_ : t.stage = .enter) (free : s.sourceControlClosed = false)
    (holds : t'.stage.holds = false) (session : t'.stage.session = none)
    (closing : t'.stage.closing = false) :
    Sound {s with
      sourceControlWait := call :: s.sourceControlWait
      threads := s.threads.set call t'} := by
  refine @Sound.keptPulls s {s with sourceControlWait := call :: s.sourceControlWait} call t _ sound
    here rfl rfl rfl (le_refl _) (by rw [at_]; exact session) ?_ ?_
  · constructor
    · simp [holds]
    · simp
    · simp [closing]
    · intro swap
      rw [swap] at closing
      contradiction
    · simp [session]
  · intro other u _ there
    refine (sound.threads other u there).frame id (List.mem_cons_of_mem _) id ?_
      fun _ _ kept _ => kept
    intro closed
    rw [free] at closed
    contradiction

theorem Sound.locked {operation : Operation} (at_ : t.stage = .lock operation)
    (free : s.sourceOperation = none) :
    Sound {s with
      sourceOperation := some call
      threads := s.threads.set call {t with stage := .held operation.first}} := by
  have good := sound.threads call t here
  refine @Sound.keptPulls s {s with sourceOperation := some call} call t _ sound here rfl rfl rfl
    (le_refl _) (by rw [at_]; exact firstHeld _) ?_ ?_
  · constructor
    · simp
    · exact fun _ => good.counted (by rw [at_]; rfl)
    · exact fun closing => absurd closing Bool.false_ne_true
    · exact fun swap => Stage.noConfusion swap
    · simp [firstHeld]
  · intro other u _ there
    refine (sound.threads other u there).frame ?_ id id (fun _ => id) fun _ _ kept _ => kept
    intro absent
    rw [free] at absent
    contradiction

theorem Sound.unlocked {after : After} (at_ : t.stage = .unlock after) :
    Sound {s with sourceOperation := none, threads := s.threads.set call (t.goto after)} := by
  have good := sound.threads call t here
  obtain ⟨inside,holds,session,_,closing⟩ := gotoStage t after
  refine @Sound.keptPulls s {s with sourceOperation := none} call t _ sound here rfl rfl rfl
    (le_refl _) (by rw [at_]; exact session) ?_ ?_
  · constructor
    · simp [holds]
    · exact fun _ => good.counted (by rw [at_]; rfl)
    · simp [closing]
    · intro swap
      rw [swap] at closing
      contradiction
    · simp [session]
  · intro other u differs there
    refine (sound.threads other u there).frame ?_ id id (fun _ => id) fun _ _ kept _ => kept
    rw [good.holder (by rw [at_]; rfl)]
    exact fun equal => absurd (Option.some.inj equal).symm differs

theorem Sound.left {answer : Option Answer} (at_ : t.stage = .leave answer) :
    Sound {s with
      sourceControlWait := s.sourceControlWait.erase call
      threads := s.threads.set call {t with stage := .done answer}} := by
  refine @Sound.keptPulls s {s with sourceControlWait := s.sourceControlWait.erase call} call t _
    sound here rfl rfl rfl (le_refl _) (by rw [at_]; rfl) ?_ ?_
  · exact ⟨nofun,nofun,nofun,nofun,nofun⟩
  · intro other u differs there
    refine (sound.threads other u there).frame id ?_ id ?_ fun _ _ kept _ => kept
    · exact fun member => (List.mem_erase_of_ne differs).mpr member
    · intro _ empty
      simp [empty]

theorem Sound.heldBy (holds : t.stage.holds = true)
    (operation : s'.sourceOperation = s.sourceOperation)
    (wait : s'.sourceControlWait = s.sourceControlWait)
    (closed : s'.sourceControlClosed = s.sourceControlClosed) (other : Nat) (u : Thread)
    (differs : other ≠ call) (there : s.threads.get other = some u) : Good s' other u := by
  have none_ := sound.alone here there holds differs
  refine (sound.threads other u there).frame ?_ ?_ ?_ ?_ (by simp [none_])
  · rw [operation]; exact id
  · rw [wait]; exact id
  · rw [closed]; exact id
  · rw [wait]; exact fun _ => id

theorem Sound.reserves {sourceID : Nat} {source : RtspSource}
    (at_ : t.stage = .held (.reserve sourceID source)) {session : RtspPullSession}
    (made : session = ⟨sourceID,s.uuid + 1,source.streamName,true⟩) :
    Sound {s with
      uuid := s.uuid + 1
      rtspPulls := s.rtspPulls.set sourceID session
      threads := s.threads.set call {t with stage := .held (.createPull session source)}} := by
  have good := sound.threads call t here
  have holds : t.stage.holds = true := by rw [at_]; rfl
  subst made
  refine sound.next {s with
    uuid := s.uuid + 1
    rtspPulls := s.rtspPulls.set sourceID ⟨sourceID,s.uuid + 1,source.streamName,true⟩}
    here rfl rfl ?_ (sound.heldBy here holds rfl rfl rfl) ?_ ?_
  · refine ⟨fun _ => good.holder holds,fun _ => good.counted (holdsInside holds),nofun,nofun,?_⟩
    intro own same
    cases Option.some.inj same
    simp
  · intro k found there starts
    simp only [Table.getSet] at there
    split at there
    · cases Option.some.inj there
      exact .inl rfl
    · exact .inr ⟨there,by rw [at_]; nofun⟩
  · intro k found there
    simp only [Table.getSet] at there
    split at there
    · rename_i equal
      cases Option.some.inj there
      exact ⟨equal.symm,le_refl _⟩
    · obtain ⟨key,old⟩ := sound.keys k found there
      exact ⟨key,Nat.le_succ_of_le old⟩

theorem Sound.finishes {session : RtspPullSession} {after : After}
    (at_ : t.stage = .held (.finish session)) :
    Sound {s with
      rtspPulls := s.rtspPulls.set session.sourceID
        {s.pullAt session.sourceID with starting := false}
      threads := s.threads.set call {t with stage := .unlock after}} := by
  have good := sound.threads call t here
  have holds : t.stage.holds = true := by rw [at_]; rfl
  obtain ⟨mine,_⟩ := good.reserved session (by rw [at_]; rfl)
  have read : s.pullAt session.sourceID = session := by
    rw [Server.pullAt,mine,Option.getD_some]
  rw [read]
  refine sound.next
    {s with rtspPulls := s.rtspPulls.set session.sourceID {session with starting := false}}
    here rfl rfl ?_ (sound.heldBy here holds rfl rfl rfl) ?_ ?_
  · exact ⟨fun _ => good.holder holds,fun _ => good.counted (holdsInside holds),nofun,nofun,nofun⟩
  · intro k entry there starts
    simp only [Table.getSet] at there
    split at there
    · cases Option.some.inj there
      contradiction
    · rename_i differs
      refine .inr ⟨there,?_⟩
      rw [at_]
      intro same
      cases Option.some.inj same
      exact differs (sound.keys k session there).1.symm
  · intro k entry there
    simp only [Table.getSet] at there
    split at there
    · rename_i equal
      cases Option.some.inj there
      exact ⟨equal.symm,(sound.keys _ session mine).2⟩
    · exact sound.keys k entry there

theorem Sound.removes {k : Nat} {found : RtspPullSession} (holds : t.stage.holds = true)
    (there : s.rtspPulls.get k = some found)
    (mine : ∀ session, t.stage.session = some session → session.sourceID = k)
    (plain : t'.stage.closing = false ∧ t'.stage.session = none) :
    Sound {s with rtspPulls := s.rtspPulls.delete k, threads := s.threads.set call t'} := by
  have good := sound.threads call t here
  refine sound.deleted here there ?_ mine ?_
  · intro other u differs thread
    rw [sound.alone here thread holds differs]
    nofun
  · refine ⟨fun _ => good.holder holds,fun _ => good.counted (holdsInside holds),?_,?_,?_⟩
    · simp [plain.1]
    · intro swap
      rw [swap] at plain
      cases plain.1
    · simp [plain.2]

theorem Sound.swapped (at_ : t.stage = .swap) :
    Sound {s with rtspPulls := ∅, threads := s.threads.set call {t with stage := .done none}} := by
  have empty := (sound.threads call t here).empty at_
  refine sound.next {s with rtspPulls := ∅} here rfl rfl ?_ ?_ ?_ ?_
  · exact ⟨nofun,nofun,nofun,nofun,nofun⟩
  · intro other u _ there
    refine (sound.threads other u there).frame id id id (fun _ => id) ?_
    intro session owned
    have counted := (sound.threads other u there).counted (holdsInside (sessionHolds owned))
    rw [empty] at counted
    contradiction
  · simp
  · simp

theorem Sound.turned {effects : List Effect} (moved : Turned s call t s' t' effects) :
    Sound {s' with threads := s'.threads.set call t'} := by
  cases moved with
  | quiet same => exact sound.quiet here same
  | enter at_ free new => exact sound.entered here at_ free new.1 new.2.1 new.2.2.2
  | lock at_ free => exact sound.locked here at_ free
  | unlock at_ => exact sound.unlocked here at_
  | leave at_ => exact sound.left here at_
  | reserve at_ free made => exact sound.reserves here at_ made
  | finish at_ read =>
    subst read
    exact sound.finishes here at_
  | drop at_ there =>
    refine sound.removes here (by rw [at_]; rfl) there ?_ ⟨rfl,rfl⟩
    intro own same
    rw [at_] at same
    cases Option.some.inj same
    rfl
  | lost at_ absent =>
    obtain ⟨mine,_⟩ := (sound.threads call t here).reserved _ (by rw [at_]; rfl)
    rw [absent] at mine
    contradiction
  | take at_ there =>
    refine sound.removes here (by rw [at_]; rfl) there ?_ ⟨rfl,rfl⟩
    rw [at_]
    nofun
  | snapshot at_ =>
    refine sound.keptPulls here rfl rfl rfl (le_refl _) (by rw [at_]; rfl) ?_ ?_
    · exact ⟨nofun,nofun,nofun,nofun,nofun⟩
    · exact fun other u _ there => sound.threads other u there
  | @ended pull rest found at_ there same confirmed =>
    refine sound.deleted here there ?_ ?_ ?_
    · intro other u differs thread owned
      have starting := ((sound.threads other u thread).reserved found owned).2
      rw [confirmed] at starting
      contradiction
    · rw [at_]
      nofun
    · exact ⟨nofun,nofun,nofun,nofun,nofun⟩
  | close at_ =>
    refine sound.keptPulls here rfl rfl rfl (le_refl _) (by rw [at_]; rfl) ?_ ?_
    · exact ⟨nofun,nofun,fun _ => rfl,nofun,nofun⟩
    · intro other u _ there
      exact (sound.threads other u there).frame id id (fun _ => rfl) (fun _ => id)
        fun _ _ kept _ => kept
  | swap at_ => exact sound.swapped here at_

end

theorem Sound.called (sound : Sound s) (handler : Handler) :
    Sound {s with
      threads := s.threads.set s.next ⟨handler,[],handler.initial⟩
      next := s.next + 1} := by
  have new : ∀ other u, s.threads.get other = some u → other ≠ s.next := by
    intro other u there equal
    rw [equal,sound.fresh _ (le_refl _)] at there
    contradiction
  constructor
  · intro other above
    have differs : other ≠ s.next := by dsimp only at above; omega
    simpa [differs] using sound.fresh other (by dsimp only at above; omega)
  · intro other u there
    by_cases equal : other = s.next
    · subst equal
      simp only [Table.getSet,if_true,Option.some.injEq] at there
      subst there
      cases handler <;> exact ⟨nofun,nofun,nofun,nofun,nofun⟩
    · have good := sound.threads other u (by simpa [equal] using there)
      exact ⟨good.holder,good.counted,good.closed,good.empty,good.reserved⟩
  · intro k session found starts
    obtain ⟨owner,u,there,owned⟩ := sound.starting k session found starts
    exact ⟨owner,u,by simpa [new owner u there] using there,owned⟩
  · exact sound.keys

inductive Move (valid : RtspSource → Bool) (s : Server) : Event → Server → List Effect → Prop where
  | called (handler : Handler) :
      Move valid s (.call handler)
        {s with
          threads := s.threads.set s.next ⟨handler,[],handler.initial⟩
          next := s.next + 1} []
  | blocked (call : Nat) (reply : Reply)
      (waits : ∀ t, s.threads.get call = some t → turn valid s call t reply = none) :
      Move valid s (.turn call reply) s []
  | turned {call reply t s' t' effects} (here : s.threads.get call = some t)
      (taken : turn valid s call t reply = some (s',t',effects)) :
      Move valid s (.turn call reply) {s' with threads := s'.threads.set call t'} effects

theorem move (valid : RtspSource → Bool) (s : Server) (e : Event) :
    Move valid s e (step valid s e).1 (step valid s e).2 := by
  cases e with
  | call handler => exact .called handler
  | turn call reply =>
    simp only [step]
    split
    · rename_i none_
      refine .blocked call reply ?_
      intro t here
      rw [here] at none_
      exact none_
    · rename_i some_
      obtain ⟨t,here,taken⟩ := Option.bind_eq_some_iff.mp some_
      exact .turned here taken

theorem soundStep (valid : RtspSource → Bool) (s : Server) (e : Event) (sound : Sound s) :
    Sound (step valid s e).1 := by
  have moved := move valid s e
  generalize (step valid s e).1 = next, (step valid s e).2 = effects at moved ⊢
  cases moved with
  | called handler => exact sound.called handler
  | blocked => exact sound
  | turned here taken => exact sound.turned here (turned taken)

theorem soundStart (rows : Table Nat RtspSource) (uuid : Nat) : Sound (.start rows uuid) := by
  constructor <;> simp [Server.start]

end MediaServer.Sources
