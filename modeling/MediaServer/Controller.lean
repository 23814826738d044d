import Mathlib.Data.List.Basic

/-! Controllers: a state, a total step on events and the effects each step orders. A round
keeps what one step saw and did, so that a property of a whole run is a property of its
rounds. The file names nothing of the server. -/
namespace MediaServer.Controller

variable {σ ε φ : Type*}

structure Round (σ ε φ : Type*) where
  state : σ
  event : ε
  next : σ
  effects : List φ

def rounds (step : σ → ε → σ × List φ) : σ → List ε → List (Round σ ε φ)
  | _, [] => []
  | s, e :: rest => ⟨s,e,(step s e).1,(step s e).2⟩ :: rounds step (step s e).1 rest

def final (step : σ → ε → σ × List φ) : σ → List ε → σ
  | s, [] => s
  | s, e :: rest => final step (step s e).1 rest

variable {step : σ → ε → σ × List φ}

variable {s : σ} {events : List ε} {P : List (Round σ ε φ) → σ → Prop}
  {past before after : List (Round σ ε φ)} {r : Round σ ε φ}

theorem roundsInvariant {P : σ → Prop} (now : P s) (kept : ∀ s e, P s → P (step s e).1) :
    ∀ r ∈ rounds step s events, P r.state ∧ step r.state r.event = (r.next,r.effects) := by
  induction events generalizing s with
  | nil => simp [rounds]
  | cons e rest ih =>
    intro r member
    rcases List.mem_cons.mp member with same | later
    · subst r; exact ⟨now,rfl⟩
    · exact ih (kept s e now) r later

def Round.of (step : σ → ε → σ × List φ) (s : σ) (e : ε) : Round σ ε φ :=
  ⟨s,e,(step s e).1,(step s e).2⟩

theorem finalHistory (now : P past s)
    (kept : ∀ past s e, P past s → P (past ++ [.of step s e]) (step s e).1) :
    P (past ++ rounds step s events) (final step s events) := by
  induction events generalizing s past with
  | nil => simpa [rounds,final] using now
  | cons e rest ih =>
    have later := ih (kept past s e now)
    rw [List.append_assoc] at later
    exact later

theorem roundsGuarded (allowed : List (Round σ ε φ) → ε → Prop) (now : P past s)
    (kept : ∀ past s e, P past s → allowed past e → P (past ++ [.of step s e]) (step s e).1)
    (all : ∀ before r after, rounds step s events = before ++ r :: after →
      allowed (past ++ before) r.event)
    (cut : rounds step s events = before ++ r :: after) :
    P (past ++ before) r.state ∧ r = .of step r.state r.event := by
  induction events generalizing s past before with
  | nil => simp [rounds] at cut
  | cons e rest ih =>
    cases before with
    | nil =>
      simp only [rounds,List.nil_append,List.cons.injEq] at cut
      obtain ⟨first,_⟩ := cut
      subst first
      rw [List.append_nil]
      exact ⟨now,rfl⟩
    | cons first before =>
      simp only [rounds,List.cons_append,List.cons.injEq] at cut
      obtain ⟨same,cut⟩ := cut
      have here : allowed past e := by simpa using all [] _ _ rfl
      have later := ih (kept past s e now here) (fun inner r after inside => by
        have there := all (.of step s e :: inner) r after (by rw [rounds,inside]; rfl)
        rwa [List.append_assoc]) cut
      subst same
      rw [List.append_assoc] at later
      exact later

theorem roundsHistory (now : P past s)
    (kept : ∀ past s e, P past s → P (past ++ [.of step s e]) (step s e).1)
    (cut : rounds step s events = before ++ r :: after) :
    P (past ++ before) r.state ∧ r = .of step r.state r.event :=
  roundsGuarded (fun _ _ => True) now (fun past s e holds _ => kept past s e holds)
    (fun _ _ _ _ => trivial) cut

theorem roundsAfter (cut : rounds step s events = before ++ r :: after) :
    ∃ rest, after = rounds step r.next rest := by
  induction events generalizing s before with
  | nil => simp [rounds] at cut
  | cons e rest ih =>
    cases before with
    | nil =>
      simp only [rounds,List.nil_append,List.cons.injEq] at cut
      obtain ⟨same,later⟩ := cut
      subst same
      exact ⟨rest,later.symm⟩
    | cons x before =>
      simp only [rounds,List.cons_append,List.cons.injEq] at cut
      exact ih cut.2

theorem roundsAppend (step : σ → ε → σ × List φ) (s : σ) (first second : List ε) :
    rounds step s (first ++ second) =
      rounds step s first ++ rounds step (final step s first) second := by
  induction first generalizing s with
  | nil => rfl
  | cons e rest ih => simp only [List.cons_append,rounds,final,ih]

theorem roundsEvents (step : σ → ε → σ × List φ) (s : σ) (events : List ε) :
    (rounds step s events).map (·.event) = events := by
  induction events generalizing s with
  | nil => rfl
  | cons e rest ih => simp [rounds,ih]

theorem roundsEvent : ∀ r ∈ rounds step s events, r.event ∈ events := by
  intro r member
  rw [← roundsEvents step s events]
  exact List.mem_map_of_mem member

theorem established {P : σ → Prop} (before : ¬P s) (after : P (final step s events)) :
    ∃ r ∈ rounds step s events, ¬P r.state ∧ P r.next := by
  induction events generalizing s with
  | nil => exact absurd after before
  | cons e rest ih =>
    by_cases now : P (step s e).1
    · exact ⟨_,List.mem_cons_self ..,before,now⟩
    · obtain ⟨r,member,change⟩ := ih now after
      exact ⟨r,List.mem_cons_of_mem _ member,change⟩

def EachRound (P : List (Round σ ε φ) → Round σ ε φ → Prop) (past : List (Round σ ε φ)) : Prop :=
  ∀ before r after, past = before ++ r :: after → P before r

/- A round of the first kind happened, and every round from it on was of the second kind. -/
def Since (first kept : Round σ ε φ → Prop) (past : List (Round σ ε φ)) : Prop :=
  ∃ before r after, past = before ++ r :: after ∧ first r ∧ ∀ x ∈ r :: after, kept x

theorem Since.now {first kept : Round σ ε φ → Prop} (past : List (Round σ ε φ)) (happens : first r)
    (holds : kept r) : Since first kept (past ++ [r]) :=
  ⟨past,r,[],rfl,happens,by simpa using holds⟩

theorem Since.later {first kept : Round σ ε φ → Prop} (since : Since first kept past)
    (holds : kept r) : Since first kept (past ++ [r]) := by
  obtain ⟨before,d,after,cut,happened,held⟩ := since
  refine ⟨before,d,after ++ [r],by simp [cut],happened,?_⟩
  intro x member
  rw [← List.cons_append,List.mem_append,List.mem_singleton] at member
  rcases member with earlier | last
  · exact held x earlier
  · exact last ▸ holds

end MediaServer.Controller
