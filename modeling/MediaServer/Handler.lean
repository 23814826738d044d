import Mathlib.Data.List.Basic

/-! Handlers: a call moves a state, orders effects and returns zero or not. A caller goes on
as long as the calls return zero, so a run ends with its first failing call. The file names
nothing of the server. -/
namespace MediaServer.Handler

variable {σ ε φ : Type*}

structure Turn (σ φ : Type*) where
  state : σ
  effects : List φ
  ok : Bool

def Turn.done (s : σ) : Turn σ φ := ⟨s,[],true⟩
def Turn.fail (s : σ) : Turn σ φ := ⟨s,[],false⟩

def Turn.andThen (t : Turn σ φ) (next : σ → Turn σ φ) : Turn σ φ :=
  if t.ok then ⟨(next t.state).state,t.effects ++ (next t.state).effects,(next t.state).ok⟩ else t

@[simp] theorem andThenDone (s : σ) (next : σ → Turn σ φ) :
    (Turn.done s).andThen next = next s := rfl

@[simp] theorem andThenFail (s : σ) (next : σ → Turn σ φ) :
    (Turn.fail s).andThen next = .fail s := rfl

@[simp] theorem doneAfter (t : Turn σ φ) : t.andThen .done = t := by
  obtain ⟨s,effects,ok⟩ := t
  cases ok <;> simp [Turn.andThen,Turn.done]

structure Call (σ ε φ : Type*) where
  state : σ
  event : ε
  turn : Turn σ φ

def calls (handle : σ → ε → Turn σ φ) : σ → List ε → List (Call σ ε φ)
  | _, [] => []
  | s, e :: rest =>
    ⟨s,e,handle s e⟩ :: if (handle s e).ok then calls handle (handle s e).state rest else []

variable {handle : σ → ε → Turn σ φ}

theorem callsCut {P : List (Call σ ε φ) → σ → Prop} {s : σ} {events : List ε}
    (past : List (Call σ ε φ)) (now : P past s)
    (kept : ∀ past s e, P past s → (handle s e).ok = true →
      P (past ++ [⟨s,e,handle s e⟩]) (handle s e).state)
    {before after : List (Call σ ε φ)} {c : Call σ ε φ}
    (cut : calls handle s events = before ++ c :: after) :
    P (past ++ before) c.state ∧ c.turn = handle c.state c.event ∧
      ∃ rest, after = if c.turn.ok then calls handle c.turn.state rest else [] := by
  induction events generalizing s past before with
  | nil => simp [calls] at cut
  | cons e rest ih =>
    cases before with
    | nil =>
      simp only [calls,List.nil_append,List.cons.injEq] at cut
      obtain ⟨first,later⟩ := cut
      subst first
      rw [List.append_nil]
      exact ⟨now,rfl,rest,later.symm⟩
    | cons first before =>
      simp only [calls,List.cons_append,List.cons.injEq] at cut
      obtain ⟨same,cut⟩ := cut
      split at cut
      · rename_i ok
        have found := ih _ (kept past s e now ok) cut
        subst same
        rw [List.append_assoc] at found
        exact found
      · simp at cut

theorem callsInvariant {P : σ → Prop} {s : σ} {events : List ε} (now : P s)
    (kept : ∀ s e, P s → (handle s e).ok = true → P (handle s e).state) :
    ∀ c ∈ calls handle s events, P c.state ∧ c.turn = handle c.state c.event := by
  intro c member
  obtain ⟨before,after,cut⟩ := List.append_of_mem member
  have found := callsCut (P := fun _ => P) [] now (fun _ => kept) cut
  exact ⟨found.1,found.2.1⟩

end MediaServer.Handler
