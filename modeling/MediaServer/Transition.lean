import Mathlib.Data.List.Basic

/-! Transition systems given by a partial step function. An action carries every
choice the environment makes, so one run is one list of actions. The file names
nothing of the server. -/
namespace MediaServer.Transition

variable {σ ι : Type*}

inductive Reachable (step : σ → ι → Option σ) (initial : σ → Prop) : σ → Prop where
  | start {s} (first : initial s) : Reachable step initial s
  | next {s a t} (before : Reachable step initial s) (taken : step s a = some t) :
      Reachable step initial t

inductive Leads (step : σ → ι → Option σ) : σ → σ → Prop where
  | here (s) : Leads step s s
  | more {s t a u} (before : Leads step s t) (taken : step t a = some u) : Leads step s u

variable {step : σ → ι → Option σ} {initial : σ → Prop}

theorem Reachable.invariant {P : σ → Prop} {s : σ} (reached : Reachable step initial s)
    (base : ∀ s, initial s → P s)
    (kept : ∀ s a t, P s → step s a = some t → P t) : P s := by
  induction reached with
  | start first => exact base _ first
  | next before taken ih => exact kept _ _ _ ih taken

theorem Leads.reachable {s t : σ} (leads : Leads step s t)
    (reached : Reachable step initial s) : Reachable step initial t := by
  induction leads with
  | here => exact reached
  | more before taken ih => exact .next ih taken

theorem Leads.trans {s t u : σ} (first : Leads step s t) (second : Leads step t u) :
    Leads step s u := by
  induction second with
  | here => exact first
  | more before taken ih => exact .more ih taken

theorem Leads.kept {P : σ → Prop} {s t : σ} (leads : Leads step s t) (now : P s)
    (stable : ∀ s a t, P s → step s a = some t → P t) : P t := by
  induction leads with
  | here => exact now
  | more before taken ih => exact stable _ _ _ ih taken

def run (step : σ → ι → Option σ) : σ → List ι → Option σ
  | s, [] => some s
  | s, a :: rest => (step s a).bind fun t => run step t rest

theorem runSnoc {s t : σ} {actions : List ι} {a : ι} (ok : run step s (actions ++ [a]) = some t) :
    ∃ u, run step s actions = some u ∧ step u a = some t := by
  induction actions generalizing s with
  | nil =>
    obtain ⟨u,taken,last⟩ := Option.bind_eq_some_iff.mp ok
    cases Option.some.inj last
    exact ⟨s,rfl,taken⟩
  | cons b rest ih =>
    obtain ⟨v,first,tail⟩ := Option.bind_eq_some_iff.mp ok
    obtain ⟨u,front,last⟩ := ih tail
    exact ⟨u,by rw [run,first,Option.bind_some,front],last⟩

theorem runReachable {s t : σ} {actions : List ι} (reached : Reachable step initial s)
    (ok : run step s actions = some t) : Reachable step initial t := by
  induction actions generalizing s with
  | nil => cases Option.some.inj ok; exact reached
  | cons a rest ih =>
    obtain ⟨u,hu,tail⟩ := Option.bind_eq_some_iff.mp ok
    exact ih (.next reached hu) tail

end MediaServer.Transition
