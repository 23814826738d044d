import MediaServer.Controller

/-! hls_play_session: one secret of the table and the inactivity timer of its session; sessions share
nothing else. The actions run on the session's executor, only find comes from any thread, also between
the check and the next wait. A secret is drawn once; times are seconds of the steady clock. -/
namespace MediaServer.HlsPlay
open Controller

def inactivityTimeout : Nat := 30

/- arming: wait_for_inactivity is about to read the deadline. queued counts handlers whose wait has
ended without an error, posted the calls of safe_shutdown under way. -/
structure Session where
  listed : Bool
  lastActivity : Nat
  arming : Bool
  deadline : Option Nat
  queued : Nat
  subscribed : Bool
  posted : Nat
  deriving DecidableEq, Repr

inductive Action where
  | find | wait | expire | handle | shutdown | safeShutdown
  deriving DecidableEq, Repr

namespace Session

def create (now : Nat) (stopping : Bool) : Session :=
  ⟨true,now,!stopping,none,0,!stopping,if stopping then 1 else 0⟩

def find (now : Nat) (x : Session) : Session := if x.listed then {x with lastActivity := now} else x

def waitForInactivity (x : Session) : Session :=
  if x.arming then {x with arming := false, deadline := some (x.lastActivity + inactivityTimeout)} else x

def expire (now : Nat) (x : Session) : Session :=
  match x.deadline with
  | none => x
  | some deadline => if deadline ≤ now then {x with deadline := none, queued := x.queued + 1} else x

def handleInactivity (now : Nat) (x : Session) : Session :=
  if x.arming || x.queued = 0 then x
  else if now ≥ x.lastActivity + inactivityTimeout then
    {x with queued := x.queued - 1, listed := false, subscribed := false}
  else {x with queued := x.queued - 1, arming := true}

def shutdown (x : Session) : Session :=
  if x.subscribed then {x with subscribed := false, posted := x.posted + 1} else x

def safeShutdown (x : Session) : Session :=
  if x.arming || x.posted = 0 then x
  else {x with posted := x.posted - 1, listed := false, deadline := none, subscribed := false}

def act (now : Nat) (x : Session) : Action → Session
  | .find => x.find now
  | .wait => x.waitForInactivity
  | .expire => x.expire now
  | .handle => x.handleInactivity now
  | .shutdown => x.shutdown
  | .safeShutdown => x.safeShutdown

def Watched (now : Nat) (x : Session) : Prop :=
  x.lastActivity ≤ now ∧ (x.listed = true → x.arming = true ∨
    (∃ deadline, x.deadline = some deadline ∧ deadline ≤ x.lastActivity + inactivityTimeout) ∨
    0 < x.queued ∨ 0 < x.posted)

theorem actWatched {now : Nat} {x : Session} (watched : x.Watched now) (action : Action) :
    (x.act now action).Watched now ∧ x.lastActivity ≤ (x.act now action).lastActivity := by
  have same : x.Watched now ∧ x.lastActivity ≤ x.lastActivity := ⟨watched,Nat.le_refl _⟩
  obtain ⟨past,busy⟩ := watched
  cases action with
  | find =>
    simp only [act,find]
    split
    · rename_i listed
      refine ⟨⟨Nat.le_refl _,fun _ => ?_⟩,past⟩
      rcases busy listed with arming | ⟨deadline,armed,soon⟩ | rest
      · exact .inl arming
      · exact .inr (.inl ⟨deadline,armed,by simp only; omega⟩)
      · exact .inr (.inr rest)
    · exact same
  | wait =>
    simp only [act,waitForInactivity]
    split
    · exact ⟨⟨past,fun _ => .inr (.inl ⟨_,rfl,Nat.le_refl _⟩)⟩,Nat.le_refl _⟩
    · exact same
  | expire =>
    simp only [act,expire]
    split
    · exact same
    · split
      · exact ⟨⟨past,fun _ => .inr (.inr (.inl (Nat.succ_pos _)))⟩,Nat.le_refl _⟩
      · exact same
  | handle =>
    simp only [act,handleInactivity]
    split
    · exact same
    · split
      · exact ⟨⟨past,by simp⟩,Nat.le_refl _⟩
      · exact ⟨⟨past,fun _ => .inl rfl⟩,Nat.le_refl _⟩
  | shutdown =>
    simp only [act,shutdown]
    split
    · exact ⟨⟨past,fun _ => .inr (.inr (.inr (Nat.succ_pos _)))⟩,Nat.le_refl _⟩
    · exact same
  | safeShutdown =>
    simp only [act,safeShutdown]
    split
    · exact same
    · exact ⟨⟨past,by simp⟩,Nat.le_refl _⟩

theorem actUnlists {now : Nat} {x : Session} {action : Action} (listed : x.listed = true)
    (gone : (x.act now action).listed = false) :
    action = .safeShutdown ∨ action = .handle ∧ x.lastActivity + inactivityTimeout ≤ now := by
  cases action with
  | safeShutdown => exact .inl rfl
  | handle =>
    simp only [act,handleInactivity] at gone
    split at gone
    · simp [listed] at gone
    · split at gone
      · rename_i late; exact .inr ⟨rfl,late⟩
      · simp [listed] at gone
  | find => simp [act,find,listed] at gone
  | wait => simp only [act,waitForInactivity] at gone; split at gone <;> simp [listed] at gone
  | expire =>
    simp only [act,expire] at gone
    split at gone
    · simp [listed] at gone
    · split at gone <;> simp [listed] at gone
  | shutdown => simp only [act,shutdown] at gone; split at gone <;> simp [listed] at gone

theorem runsOut {now later : Nat} {x : Session} (watched : x.Watched now)
    (late : x.lastActivity + inactivityTimeout ≤ later) :
    ∃ actions : List Action, actions.length ≤ 3 ∧ .find ∉ actions ∧ .shutdown ∉ actions ∧
      (actions.foldl (·.act later) x).listed = false := by
  cases there : x.listed with
  | false => exact ⟨[],by simp,by simp,by simp,there⟩
  | true =>
    cases arming : x.arming with
    | true =>
      exact ⟨[.wait,.expire,.handle],by simp,by simp,by simp,by
        simp [act,waitForInactivity,expire,handleInactivity,arming,late]⟩
    | false =>
      rcases watched.2 there with impossible | ⟨deadline,armed,soon⟩ | queued | posted
      · rw [arming] at impossible; cases impossible
      · have due : deadline ≤ later := Nat.le_trans soon late
        exact ⟨[.expire,.handle],by simp,by simp,by simp,by
          simp [act,expire,handleInactivity,armed,due,arming,late]⟩
      · exact ⟨[.handle],by simp,by simp,by simp,by
          simp [act,handleInactivity,arming,Nat.ne_of_gt queued,late]⟩
      · exact ⟨[.safeShutdown],by simp,by simp,by simp,by
          simp [act,safeShutdown,arming,Nat.ne_of_gt posted]⟩

end Session

structure State where
  clock : Nat
  session : Option Session
  deriving DecidableEq, Repr

inductive Event where
  | pass (seconds : Nat)
  | create (stopping : Bool)
  | act (action : Action)
  deriving DecidableEq, Repr

def step (s : State) : Event → State × List Unit
  | .pass seconds => ({s with clock := s.clock + seconds},[])
  | .create stopping => ({s with session := some (s.session.getD (.create s.clock stopping))},[])
  | .act action => ({s with session := s.session.map (·.act s.clock action)},[])

def State.Listed (s : State) : Prop := ∃ x, s.session = some x ∧ x.listed = true

def Touches (r : Round State Event Unit) : Prop :=
  r.event = .act .find ∧ r.state.Listed ∨ r.state.session = none ∧ r.next.Listed

structure Kept (past : List (Round State Event Unit)) (s : State) : Prop where
  clocks : ∀ e ∈ past, e.state.clock ≤ s.clock
  watched : ∀ x, s.session = some x → x.Watched s.clock ∧
    ∀ e ∈ past, Touches e → e.state.clock ≤ x.lastActivity

theorem createWatched (now : Nat) (stopping : Bool) : (Session.create now stopping).Watched now := by
  cases stopping
  · exact ⟨Nat.le_refl _,fun _ => .inl rfl⟩
  · exact ⟨Nat.le_refl _,fun _ => .inr (.inr (.inr (Nat.succ_pos _)))⟩

theorem roundWatched {s : State} (e : Event) {x : Session} (old : s.session = some x)
    (seen : x.Watched s.clock) :
    ∃ y, (step s e).1.session = some y ∧ y.Watched (step s e).1.clock ∧
      x.lastActivity ≤ y.lastActivity ∧ (Touches (.of step s e) → s.clock ≤ y.lastActivity) := by
  have there : ¬s.session = none := by simp [old]
  cases e with
  | pass seconds =>
    refine ⟨x,old,⟨Nat.le_trans seen.1 (Nat.le_add_right ..),seen.2⟩,Nat.le_refl _,?_⟩
    rintro (⟨event,_⟩ | ⟨absent,_⟩)
    · cases event
    · exact absurd absent there
  | create stopping =>
    refine ⟨x,by simp [step,old],seen,Nat.le_refl _,?_⟩
    rintro (⟨event,_⟩ | ⟨absent,_⟩)
    · cases event
    · exact absurd absent there
  | act action =>
    obtain ⟨kept,later⟩ := Session.actWatched seen action
    refine ⟨_,by simp [step,old],kept,later,?_⟩
    rintro (⟨event,z,same,listed⟩ | ⟨absent,_⟩)
    · cases event
      cases Option.some.inj (old.symm.trans same)
      simp [Session.act,Session.find,listed]
    · exact absurd absent there

theorem keptStep (past : List (Round State Event Unit)) (s : State) (e : Event) (kept : Kept past s) :
    Kept (past ++ [.of step s e]) (step s e).1 := by
  have grows : s.clock ≤ (step s e).1.clock := by
    cases e with
    | pass seconds => exact Nat.le_add_right ..
    | create stopping => exact Nat.le_refl _
    | act action => exact Nat.le_refl _
  have clocks : ∀ r ∈ past ++ [.of step s e], r.state.clock ≤ s.clock := by
    intro r member
    rcases List.mem_append.mp member with earlier | now
    · exact kept.clocks r earlier
    · cases List.mem_singleton.mp now
      exact Nat.le_refl _
  refine ⟨fun r member => Nat.le_trans (clocks r member) grows,fun y found => ?_⟩
  cases old : s.session with
  | none =>
    cases e with
    | pass seconds => cases old.symm.trans found
    | act action => simp [step,old] at found
    | create stopping =>
      simp only [step,old,Option.getD_none,Option.some.injEq] at found
      subst found
      exact ⟨createWatched s.clock stopping,fun r member _ => clocks r member⟩
  | some x =>
    obtain ⟨seen,touched⟩ := kept.watched x old
    obtain ⟨z,next,still,later,new⟩ := roundWatched e old seen
    cases Option.some.inj (next.symm.trans found)
    refine ⟨still,fun r member touches => ?_⟩
    rcases List.mem_append.mp member with earlier | now
    · exact Nat.le_trans (touched r earlier touches) later
    · cases List.mem_singleton.mp now
      exact new touches

def start : State := ⟨0,none⟩

theorem keptStart : Kept [] start := ⟨by simp,by simp [start]⟩

theorem finalActs (now : Nat) (x : Session) (actions : List Action) :
    final step ⟨now,some x⟩ (actions.map .act) = ⟨now,some (actions.foldl (·.act now) x)⟩ := by
  induction actions generalizing x with
  | nil => rfl
  | cons action rest ih => exact ih (x.act now action)

theorem inactivityEnds (events : List Event) :
    EachRound (fun before r => r.state.Listed → ¬r.next.Listed → r.event = .act .safeShutdown ∨
      r.event = .act .handle ∧
        ∀ e ∈ before, Touches e → e.state.clock + inactivityTimeout ≤ r.state.clock)
      (rounds step start events) ∧
    ∀ seconds, inactivityTimeout ≤ seconds → ∃ actions : List Action, actions.length ≤ 3 ∧
      .find ∉ actions ∧ .shutdown ∉ actions ∧
        ¬(final step (step (final step start events) (.pass seconds)).1 (actions.map .act)).Listed := by
  constructor
  · intro before r after cut listed gone
    obtain ⟨kept,taken⟩ := roundsHistory keptStart keptStep cut
    obtain ⟨x,old,there⟩ := listed
    have next : r.next = (step r.state r.event).1 := congrArg (·.next) taken
    cases event : r.event with
    | pass seconds => exact absurd ⟨x,by rw [next,event]; exact old,there⟩ gone
    | create stopping => exact absurd ⟨x,by rw [next,event]; simp [step,old],there⟩ gone
    | act action =>
      have out : (x.act r.state.clock action).listed = false := by
        by_contra still
        exact gone ⟨x.act r.state.clock action,by rw [next,event]; simp [step,old],by simpa using still⟩
      rcases Session.actUnlists there out with rfl | ⟨rfl,late⟩
      · exact .inl rfl
      · refine .inr ⟨rfl,fun e member touches => ?_⟩
        exact Nat.le_trans (Nat.add_le_add_right ((kept.watched x old).2 e member touches) _) late
  · intro seconds long
    have kept : Kept ([] ++ rounds step start events) (final step start events) :=
      finalHistory keptStart keptStep
    cases found : (final step start events).session with
    | none => exact ⟨[],by simp,by simp,by simp,by rintro ⟨x,there,_⟩; simp [final,step,found] at there⟩
    | some x =>
      have watched := (kept.watched x found).1
      obtain ⟨actions,few,find,shutdown,out⟩ := Session.runsOut watched (Nat.add_le_add watched.1 long)
      refine ⟨actions,few,find,shutdown,?_⟩
      rintro ⟨y,there,listed⟩
      have same : (step (final step start events) (.pass seconds)).1 =
        ⟨(final step start events).clock + seconds,some x⟩ := by rw [← found]; rfl
      rw [same,finalActs] at there
      cases Option.some.inj there
      rw [out] at listed
      cases listed

end MediaServer.HlsPlay
