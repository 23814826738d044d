import MediaServer.PullTable

/-! What a run does with the entries of the pull table. An entry is followed from the round that
reserved it, or from the round in which a reconcile pass saw it, to the round that changes it. -/
namespace MediaServer.Sources
open Controller

abbrev Run := List (Round Server Event Effect)

def Keeps (session : RtspPullSession) (r : Round Server Event Effect) : Prop :=
  r.next.rtspPulls.get session.sourceID = some session

def Reserves (call : Nat) (session : RtspPullSession) (r : Round Server Event Effect) : Prop :=
  .reserved call session ∈ r.effects

def Takes (call : Nat) (stage : Stage) (r : Round Server Event Effect) : Prop :=
  ∃ t reply, r.event = .turn call reply ∧ r.state.threads.get call = some t ∧ t.stage = stage

def Sees (call : Nat) (session : RtspPullSession) (r : Round Server Event Effect) : Prop :=
  Takes call .snapshot r ∧ r.state.rtspPulls.get session.sourceID = some session

def Swaps (r : Round Server Event Effect) : Prop := ∃ call, Takes call .swap r

inductive EntryChange (s t : Server) (k : Nat) : Prop where
  | same (kept : t.rtspPulls.get k = s.rtspPulls.get k)
  | gone (absent : t.rtspPulls.get k = none)
  | reserved (session : RtspPullSession) (absent : s.rtspPulls.get k = none)
      (now : t.rtspPulls.get k = some session) (fresh : s.uuid < session.streamID)
      (counted : s.sourceControlWait ≠ [])
  | confirmed (session : RtspPullSession) (before : s.rtspPulls.get k = some session)
      (starting : session.starting = true)
      (now : t.rtspPulls.get k = some {session with starting := false})

variable {s s' : Server} {call : Nat} {t t' : Thread} {effects : List Effect}
  {pull : RtspPullSession} {valid : RtspSource → Bool} {reply : Reply} {past : Run}
  {r : Round Server Event Effect}

theorem Sound.waits (sound : Sound s) (here : s.threads.get call = some t)
    (holds : t.stage.holds = true) :
    s.sourceControlWait ≠ [] :=
  List.ne_nil_of_mem ((sound.threads call t here).counted (holdsInside holds))

theorem Sound.entryChange (sound : Sound s) (here : s.threads.get call = some t)
    (moved : Turned s call t s' t' effects) (k : Nat) : EntryChange s s' k := by
  have deleted (gone : Nat) : EntryChange s {s with rtspPulls := s.rtspPulls.delete gone} k := by
    by_cases equal : k = gone
    · exact .gone (by simp [equal])
    · exact .same (by simp [equal])
  cases moved with
  | quiet same => exact .same (by rw [same.pulls])
  | enter => exact .same rfl
  | lock => exact .same rfl
  | unlock => exact .same rfl
  | leave => exact .same rfl
  | @reserve sourceID source session at_ free made =>
    by_cases equal : k = sourceID
    · subst equal
      exact .reserved session free (by simp) (by rw [made]; exact Nat.lt_succ_self _)
        (sound.waits here (by rw [at_]; rfl))
    · exact .same (by simp [equal])
  | @finish session after found at_ read =>
    obtain ⟨mine,starting⟩ := (sound.threads call t here).reserved session (by rw [at_]; rfl)
    rw [Server.pullAt,mine,Option.getD_some] at read
    subst read
    by_cases equal : k = found.sourceID
    · subst equal
      exact .confirmed found mine starting (by simp)
    · exact .same (by simp [equal])
  | drop => exact deleted _
  | lost => exact .same rfl
  | take => exact deleted _
  | snapshot => exact .same rfl
  | ended => exact deleted _
  | close => exact .same rfl
  | swap => exact .gone rfl

theorem Turned.session (moved : Turned s call t s' t' effects) {session : RtspPullSession}
    (own : t'.stage.session = some session) :
    t.stage.session = some session ∨ .reserved call session ∈ effects := by
  cases moved with
  | quiet same => exact .inl (same.session.symm.trans own)
  | enter _ _ new => rw [new.2.1] at own; contradiction
  | lock => rw [firstHeld] at own; contradiction
  | unlock => rw [(gotoStage t _).2.2.1] at own; contradiction
  | reserve =>
    cases Option.some.inj own
    exact .inr (List.mem_singleton_self _)
  | _ => contradiction

theorem Turned.pending (moved : Turned s call t s' t' effects) (waits : pull ∈ t'.stage.pending) :
    pull ∈ t.stage.pending ∨ t.stage = .snapshot ∧ pull ∈ s.confirmedRTSPPulls ∧ s' = s := by
  cases moved with
  | quiet same => exact .inl (same.pending waits)
  | enter _ _ new => rw [new.2.2.1] at waits; contradiction
  | unlock => rw [(gotoStage t _).2.2.2.1] at waits; contradiction
  | snapshot at_ => exact .inr ⟨at_,waits,rfl⟩
  | ended at_ => rw [at_]; exact .inl (List.mem_cons_of_mem _ waits)
  | _ => contradiction

theorem Turned.uuid (moved : Turned s call t s' t' effects) : s.uuid ≤ s'.uuid := by
  cases moved with
  | quiet same => exact same.uuid
  | reserve => exact Nat.le_succ _
  | _ => exact le_refl _

theorem swapEmpties (at_ : t.stage = .swap)
    (taken : turn valid s call t reply = some (s',t',effects)) : s'.rtspPulls = ∅ := by
  simp only [turn,at_] at taken
  cases Option.some.inj taken
  rfl

theorem Turned.shut (moved : Turned s call t s' t' effects) (closed : s.sourceControlClosed = true)
    (empty : s.sourceControlWait = []) :
    s'.sourceControlClosed = true ∧ s'.sourceControlWait = [] := by
  cases moved with
  | quiet same => exact ⟨same.closed.trans closed,same.wait.trans empty⟩
  | enter _ free => rw [free] at closed; contradiction
  | leave => exact ⟨closed,by simp [empty]⟩
  | close => exact ⟨rfl,empty⟩
  | _ => exact ⟨closed,empty⟩

structure Ledger (past : Run) (s : Server) : Prop where
  sound : Sound s
  reserved : ∀ call t session, s.threads.get call = some t → t.stage.session = some session →
    Since (Reserves call session) (Keeps session) past
  pending : ∀ call t pull, s.threads.get call = some t → pull ∈ t.stage.pending →
    pull.streamID ≤ s.uuid ∧
      (s.rtspPulls.get pull.sourceID = some pull ∧ pull.starting = false ∧
          Since (Sees call pull) (Keeps pull) past ∨
        ∀ found, s.rtspPulls.get pull.sourceID = some found → found.streamID ≠ pull.streamID)
  swapped : (∃ d ∈ past, Swaps d) →
    s.sourceControlClosed = true ∧ s.sourceControlWait = [] ∧ ∀ k, s.rtspPulls.get k = none

theorem ledgerStart (rows : Table Nat RtspSource) (uuid : Nat) :
    Ledger [] (.start rows uuid) := by
  refine ⟨soundStart rows uuid,?_,?_,?_⟩
  · simp [Server.start]
  · simp [Server.start]
  · simp

theorem pendingLater (uuid : r.state.uuid ≤ r.next.uuid)
    (change : EntryChange r.state r.next pull.sourceID)
    (before : pull.streamID ≤ r.state.uuid ∧
      (r.state.rtspPulls.get pull.sourceID = some pull ∧ pull.starting = false ∧
        Since (Sees call pull) (Keeps pull) past ∨
      ∀ found, r.state.rtspPulls.get pull.sourceID = some found → found.streamID ≠ pull.streamID)) :
    pull.streamID ≤ r.next.uuid ∧
      (r.next.rtspPulls.get pull.sourceID = some pull ∧ pull.starting = false ∧
          Since (Sees call pull) (Keeps pull) (past ++ [r]) ∨
        ∀ found, r.next.rtspPulls.get pull.sourceID = some found →
          found.streamID ≠ pull.streamID) := by
  obtain ⟨old,state⟩ := before
  refine ⟨le_trans old uuid,?_⟩
  cases change with
  | same kept =>
    rw [kept]
    rcases state with ⟨here,confirmed,since⟩ | away
    · exact .inl ⟨here,confirmed,since.later (kept.trans here)⟩
    · exact .inr away
  | gone absent =>
    right
    intro found here
    rw [absent] at here
    contradiction
  | reserved session absent now fresh =>
    right
    intro found here
    rw [now] at here
    cases here
    omega
  | confirmed session here starting now =>
    right
    intro found there
    rw [now] at there
    cases there
    rcases state with ⟨same,confirmed,_⟩ | away
    · rw [here] at same
      cases same
      rw [confirmed] at starting
      contradiction
    · exact away session here

theorem Ledger.turned (ledger : Ledger past r.state) (at_ : r.event = .turn call reply)
    (here : r.state.threads.get call = some t)
    (taken : turn valid r.state call t reply = some (s',t',r.effects))
    (made : r.next = {s' with threads := s'.threads.set call t'}) :
    Ledger (past ++ [r]) r.next := by
  have moved := Sources.turned taken
  have threads := moved.threads
  have sound : Sound r.next := by rw [made]; exact ledger.sound.turned here moved
  have pulls : r.next.rtspPulls = s'.rtspPulls := by rw [made]
  have change : ∀ k, EntryChange r.state r.next k := by
    intro k
    cases ledger.sound.entryChange here moved k with
    | same kept => exact .same (by rw [pulls]; exact kept)
    | gone absent => exact .gone (by rw [pulls]; exact absent)
    | reserved session absent now fresh counted =>
      exact .reserved session absent (by rw [pulls]; exact now) fresh counted
    | confirmed session before starting now =>
      exact .confirmed session before starting (by rw [pulls]; exact now)
  have uuid : r.state.uuid ≤ r.next.uuid := by rw [made]; exact moved.uuid
  have look : ∀ other u, r.next.threads.get other = some u →
      other = call ∧ u = t' ∨ other ≠ call ∧ r.state.threads.get other = some u := by
    intro other u there
    rw [made,threads] at there
    by_cases equal : other = call
    · subst equal
      simp only [Table.getSet,if_true,Option.some.injEq] at there
      exact .inl ⟨rfl,there.symm⟩
    · exact .inr ⟨equal,by simpa [equal] using there⟩
  refine ⟨sound,?_,?_,?_⟩
  · intro other u session there own
    have keeps : Keeps session r := ((sound.threads other u there).reserved session own).1
    rcases look other u there with ⟨equal,same⟩ | ⟨_,before⟩
    · subst equal same
      rcases moved.session own with before | new
      · exact (ledger.reserved other t session here before).later keeps
      · exact .now past new keeps
    · exact (ledger.reserved other u session before own).later keeps
  · intro other u pull there waits
    rcases look other u there with ⟨equal,same⟩ | ⟨_,before⟩
    · subst equal same
      rcases moved.pending waits with before | ⟨stage,seen,same⟩
      · exact pendingLater uuid (change _) (ledger.pending other t pull here before)
      ·
        obtain ⟨listed,confirmed⟩ := List.mem_filter.mp seen
        obtain ⟨⟨k,found⟩,member,equal⟩ := List.mem_map.mp listed
        subst equal
        have entry := Table.memEntries.mp member
        obtain ⟨key,old⟩ := ledger.sound.keys k found entry
        subst key
        have still : r.next.rtspPulls.get found.sourceID = some found := by rw [pulls,same]; exact entry
        refine ⟨le_trans old uuid,.inl ⟨still,by simpa using confirmed,?_⟩⟩
        exact .now past ⟨⟨t,reply,at_,here,stage⟩,entry⟩ still
    · exact pendingLater uuid (change _) (ledger.pending other u pull before waits)
  · rintro ⟨d,member,swaps⟩
    rcases List.mem_append.mp member with earlier | last
    · obtain ⟨closed,empty,none_⟩ := ledger.swapped ⟨d,earlier,swaps⟩
      obtain ⟨shut,nobody⟩ := moved.shut closed empty
      refine ⟨by rw [made]; exact shut,by rw [made]; exact nobody,?_⟩
      intro k
      cases change k with
      | same kept => rw [kept]; exact none_ k
      | gone absent => exact absent
      | reserved session absent now fresh counted => exact absurd empty counted
      | confirmed session before => rw [none_ k] at before; contradiction
    · rw [List.mem_singleton.mp last] at swaps
      obtain ⟨other,u,reply',event,thread,stage⟩ := swaps
      rw [at_] at event
      cases event
      rw [here] at thread
      cases thread
      have good := ledger.sound.threads call t here
      obtain ⟨shut,nobody⟩ := moved.shut (good.closed (by rw [stage]; rfl)) (good.empty stage)
      refine ⟨by rw [made]; exact shut,by rw [made]; exact nobody,?_⟩
      intro k
      rw [pulls,swapEmpties stage taken]
      rfl

theorem Ledger.still (ledger : Ledger past r.state) (sound : Sound r.next)
    (pulls : r.next.rtspPulls = r.state.rtspPulls) (uuid : r.next.uuid = r.state.uuid)
    (closed : r.next.sourceControlClosed = r.state.sourceControlClosed)
    (wait : r.next.sourceControlWait = r.state.sourceControlWait)
    (threads : ∀ call t, r.next.threads.get call = some t → r.state.threads.get call = some t ∨
      t.stage.session = none ∧ t.stage.pending = [])
    (idle : ¬Swaps r) : Ledger (past ++ [r]) r.next := by
  refine ⟨sound,?_,?_,?_⟩
  · intro call t session there own
    rcases threads call t there with before | ⟨new,_⟩
    · exact (ledger.reserved call t session before own).later
        ((sound.threads call t there).reserved session own).1
    · rw [new] at own
      contradiction
  · intro call t pull there waits
    rcases threads call t there with before | ⟨_,new⟩
    · exact pendingLater (by rw [uuid]) (.same (by rw [pulls]))
        (ledger.pending call t pull before waits)
    · rw [new] at waits
      contradiction
  · rintro ⟨d,member,swaps⟩
    rw [closed,wait,pulls]
    rcases List.mem_append.mp member with earlier | last
    · exact ledger.swapped ⟨d,earlier,swaps⟩
    · rw [List.mem_singleton.mp last] at swaps
      exact absurd swaps idle

theorem Ledger.moved (ledger : Ledger past r.state)
    (moved : Move valid r.state r.event r.next r.effects) (sound : Sound r.next) :
    Ledger (past ++ [r]) r.next := by
  generalize at_ : r.event = e at moved
  generalize made : r.next = t at moved
  generalize given : r.effects = effects at moved
  rw [← made]
  cases moved with
  | called handler =>
    refine ledger.still sound (by rw [made]) (by rw [made]) (by rw [made]) (by rw [made]) ?_ ?_
    · intro call t there
      rw [made] at there
      by_cases equal : call = r.state.next
      · subst equal
        simp only [Table.getSet,if_true,Option.some.injEq] at there
        subst there
        cases handler <;> exact .inr ⟨rfl,rfl⟩
      · exact .inl (by simpa [equal] using there)
    · rintro ⟨call,t,reply,event,_⟩
      rw [at_] at event
      contradiction
  | blocked call reply waits =>
    refine ledger.still sound (by rw [made]) (by rw [made]) (by rw [made]) (by rw [made]) ?_ ?_
    · intro call t there
      rw [made] at there
      exact .inl there
    · rintro ⟨other,t,reply,event,there,stage⟩
      rw [at_] at event
      cases event
      have none_ := waits t there
      simp [turn,stage] at none_
  | turned here taken =>
    rw [← given] at taken
    exact ledger.turned at_ here taken made

theorem ledgerStep (valid : RtspSource → Bool) (past : Run) (s : Server) (e : Event)
    (ledger : Ledger past s) : Ledger (past ++ [.of (step valid) s e]) (step valid s e).1 :=
  Ledger.moved (r := .of (step valid) s e) ledger (move valid s e)
    (soundStep valid s e ledger.sound)

structure Orderly (before : Run) (r : Round Server Event Effect) : Prop where
  finish : ∀ call session, Takes call (.held (.finish session)) r →
    r.state.rtspPulls.get session.sourceID = some session ∧ session.starting = true ∧
      r.next.rtspPulls.get session.sourceID = some {session with starting := false} ∧
      Since (Reserves call session) (Keeps session) before
  starting : ∀ k session, r.state.rtspPulls.get k = some session → session.starting = true →
    r.next.rtspPulls.get k = some session ∨
      ∃ call, Since (Reserves call session) (Keeps session) before ∧
        (Takes call (.held (.finish session)) r ∨
          ∃ failure, Takes call (.held (.drop session failure)) r)
  ended : ∀ call pull rest, Takes call (.dropEnded (pull :: rest)) r →
    ∀ k, r.next.rtspPulls.get k ≠ r.state.rtspPulls.get k →
      k = pull.sourceID ∧ r.state.rtspPulls.get k = some pull ∧
        r.next.rtspPulls.get k = none ∧ Since (Sees call pull) (Keeps pull) before
  swapped : (∃ d ∈ before, Swaps d) → ∀ k, r.next.rtspPulls.get k = none

theorem Takes.taken {stage : Stage} (takes : Takes call stage r)
    (moved : Move valid r.state r.event r.next r.effects)
    (runs : ∀ t reply, t.stage = stage → turn valid r.state call t reply ≠ none) :
    ∃ t t' s' reply, r.state.threads.get call = some t ∧ t.stage = stage ∧
      turn valid r.state call t reply = some (s',t',r.effects) ∧
      r.next.rtspPulls = s'.rtspPulls := by
  obtain ⟨t,reply,event,here,at_⟩ := takes
  rw [event] at moved
  generalize made : r.next = next at moved
  generalize given : r.effects = effects at moved
  cases moved with
  | blocked _ _ waits => exact absurd (waits t here) (runs t reply at_)
  | @turned _ _ own s' t' effects there taken =>
    rw [here] at there
    cases there
    exact ⟨t,t',s',reply,here,at_,taken,rfl⟩

theorem finishTurn {session : RtspPullSession} (at_ : t.stage = .held (.finish session))
    (mine : s.rtspPulls.get session.sourceID = some session)
    (taken : turn valid s call t reply = some (s',t',effects)) :
    s'.rtspPulls.get session.sourceID = some {session with starting := false} := by
  simp only [turn,at_,work,Server.pullAt,mine,Option.getD_some] at taken
  cases Option.some.inj taken
  simp

theorem endedTurn {rest : List RtspPullSession} (at_ : t.stage = .dropEnded (pull :: rest))
    (taken : turn valid s call t reply = some (s',t',effects)) :
    s'.rtspPulls = s.rtspPulls ∨ s'.rtspPulls = s.rtspPulls.delete pull.sourceID ∧
      ∃ found, s.rtspPulls.get pull.sourceID = some found ∧ found.streamID = pull.streamID := by
  simp only [turn,at_,Server.dropEndedRTSPPull] at taken
  split at taken
  · cases Option.some.inj taken
    exact .inl rfl
  · rename_i found here
    split at taken
    · cases Option.some.inj taken
      exact .inl rfl
    · rename_i fits
      cases Option.some.inj taken
      simp only [Bool.or_eq_true,decide_eq_true_eq,not_or,ne_eq,not_not] at fits
      exact .inr ⟨rfl,found,here,fits.1⟩

theorem Sound.startingChange {k : Nat} {session : RtspPullSession} (sound : Sound s)
    (here : s.threads.get call = some t) (moved : Turned s call t s' t' effects)
    (found : s.rtspPulls.get k = some session) (starting : session.starting = true) :
    s'.rtspPulls.get k = some session ∨ t.stage = .held (.finish session) ∨
      ∃ failure, t.stage = .held (.drop session failure) := by
  have good := sound.threads call t here
  obtain ⟨owner,u,there,owned⟩ := sound.starting k session found starting
  have elsewhere : ∀ gone, gone ≠ k → (s.rtspPulls.delete gone).get k = some session := by
    intro gone differs
    simpa [Ne.symm differs] using found
  cases moved with
  | quiet same => rw [same.pulls]; exact .inl found
  | @reserve sourceID source new at_ free made =>
    have differs : k ≠ sourceID := by
      intro equal
      rw [equal,free] at found
      contradiction
    exact .inl (by simpa [differs] using found)
  | @finish own after read at_ _ =>
    obtain ⟨mine,_⟩ := good.reserved own (by rw [at_]; rfl)
    by_cases equal : k = own.sourceID
    · rw [equal,mine] at found
      cases found
      exact .inr (.inl at_)
    · exact .inl (by simpa [equal] using found)
  | @drop own failure after read at_ entry =>
    obtain ⟨mine,_⟩ := good.reserved own (by rw [at_]; rfl)
    by_cases equal : own.sourceID = k
    · rw [← equal,mine] at found
      cases found
      exact .inr (.inr ⟨failure,at_⟩)
    · exact .inl (elsewhere _ equal)
  | @take sourceID read at_ entry =>
    exfalso
    by_cases equal : owner = call
    · subst equal
      rw [here] at there
      cases there
      rw [at_] at owned
      contradiction
    · rw [sound.alone here there (by rw [at_]; rfl) equal] at owned
      contradiction
  | @ended pull rest read at_ entry same confirmed =>
    by_cases equal : pull.sourceID = k
    · rw [equal,found] at entry
      cases entry
      rw [starting] at confirmed
      contradiction
    · exact .inl (elsewhere _ equal)
  | swap at_ =>
    have counted := (sound.threads owner u there).counted (holdsInside (sessionHolds owned))
    rw [good.empty at_] at counted
    contradiction
  | _ => exact .inl found

theorem pullTable (valid : RtspSource → Bool) (rows : Table Nat RtspSource) (uuid : Nat)
    (events : List Event) :
    EachRound Orderly (rounds (step valid) (.start rows uuid) events) := by
  intro before r after cut
  obtain ⟨ledger,same⟩ := roundsHistory (ledgerStart rows uuid) (ledgerStep valid) cut
  simp only [List.nil_append] at ledger
  have moved : Move valid r.state r.event r.next r.effects := by
    rw [same]
    exact move valid r.state r.event
  constructor
  · intro call session takes
    obtain ⟨t,t',s',reply,here,at_,taken,pulls⟩ := takes.taken moved
      (by intro t reply at_; simp [turn,at_])
    have own : t.stage.session = some session := by rw [at_]; rfl
    obtain ⟨mine,starting⟩ := (ledger.sound.threads call t here).reserved session own
    refine ⟨mine,starting,?_,ledger.reserved call t session here own⟩
    rw [pulls]
    exact finishTurn at_ mine taken
  · intro k session found starting
    generalize at_ : r.event = e at moved
    generalize made : r.next = next at moved ⊢
    generalize r.effects = effects at moved
    cases moved with
    | called => exact .inl found
    | blocked => exact .inl found
    | @turned call reply t s' t' effects here taken =>
      rcases ledger.sound.startingChange here (turned taken) found starting with kept | mine
      · exact .inl kept
      · have own : t.stage.session = some session := by
          rcases mine with stage | ⟨failure,stage⟩ <;> rw [stage] <;> rfl
        refine .inr ⟨call,ledger.reserved call t session here own,?_⟩
        rcases mine with stage | ⟨failure,stage⟩
        · exact .inl ⟨t,reply,at_,here,stage⟩
        · exact .inr ⟨failure,t,reply,at_,here,stage⟩
  · intro call pull rest takes k differs
    obtain ⟨t,t',s',reply,here,at_,taken,pulls⟩ := takes.taken moved
      (by intro t reply at_; simp [turn,at_])
    have waits : pull ∈ t.stage.pending := by rw [at_]; exact List.mem_cons_self ..
    obtain ⟨_,state⟩ := ledger.pending call t pull here waits
    rw [pulls] at differs ⊢
    rcases endedTurn at_ taken with same | ⟨gone,found,entry,stream⟩
    · exact absurd (by rw [same]) differs
    · have equal : k = pull.sourceID := by
        by_contra other
        exact differs (by rw [gone]; simp [other])
      subst equal
      rcases state with ⟨mine,_,since⟩ | away
      · exact ⟨rfl,mine,by rw [gone]; simp,since⟩
      · exact absurd stream (away found entry)
  · intro earlier k
    have later := Ledger.moved ledger moved (by rw [same]; exact soundStep valid _ _ ledger.sound)
    obtain ⟨d,member,swaps⟩ := earlier
    exact (later.swapped ⟨d,List.mem_append_left _ member,swaps⟩).2.2 k

end MediaServer.Sources
