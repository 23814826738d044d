import Mathlib.Logic.Function.Basic

/-! Objects at addresses. An object keeps the address it was allocated at; an address has at
most one tenant and may be given to another object once the tenant is gone. The file names
nothing of the server. -/
namespace MediaServer

structure Heap (Address Object : Type) where
  place : Object → Option Address
  tenant : Address → Option Object
  home : ∀ {a x}, tenant a = some x → place x = some a

namespace Heap
variable {Address Object : Type}

def empty : Heap Address Object := ⟨fun _ => none,fun _ => none,by simp⟩

variable [DecidableEq Address] [DecidableEq Object]

def live (h : Heap Address Object) (x : Object) : Bool :=
  decide ((h.place x).bind h.tenant = some x)

def allocate (h : Heap Address Object) (x : Object) (a : Address) : Option (Heap Address Object) :=
  if room : h.place x = none ∧ h.tenant a = none then
    some
      { place := Function.update h.place x (some a)
        tenant := Function.update h.tenant a (some x)
        home := by
          intro b y there
          by_cases same : b = a
          · subst same
            simp only [Function.update_self,Option.some.injEq] at there
            subst there
            simp
          · rw [Function.update_of_ne same] at there
            have placed := h.home there
            have other : y ≠ x := by rintro rfl; rw [room.1] at placed; contradiction
            rwa [Function.update_of_ne other] }
  else none

def free (h : Heap Address Object) (x : Object) : Heap Address Object where
  place := h.place
  tenant a := if h.tenant a = some x then none else h.tenant a
  home := by
    intro b y there
    split at there
    · contradiction
    · exact h.home there

section
omit [DecidableEq Address]
variable {h : Heap Address Object} {x y : Object} {a b : Address}

theorem liveIff : h.live x = true ↔ ∃ a, h.tenant a = some x := by
  constructor
  · intro alive
    obtain ⟨a,_,there⟩ := Option.bind_eq_some_iff.mp (of_decide_eq_true alive)
    exact ⟨a,there⟩
  · rintro ⟨a,there⟩
    exact decide_eq_true (Option.bind_eq_some_iff.mpr ⟨a,h.home there,there⟩)

theorem liveAt (alive : h.live x = true) (placed : h.place x = some a) : h.tenant a = some x := by
  obtain ⟨b,there⟩ := liveIff.mp alive
  rw [h.home there] at placed
  cases Option.some.inj placed
  exact there

theorem livePlace (alive : h.live x = true) : ∃ a, h.place x = some a ∧ h.tenant a = some x := by
  obtain ⟨a,there⟩ := liveIff.mp alive
  exact ⟨a,h.home there,there⟩

theorem neighbours (left : h.live x = true) (right : h.live y = true)
    (placed : h.place x = some a) (same : h.place y = some a) : x = y := by
  have first := liveAt left placed
  rw [liveAt right same] at first
  exact (Option.some.inj first).symm

theorem freeTenant : (h.free x).tenant a = some y ↔ h.tenant a = some y ∧ y ≠ x := by
  unfold free
  dsimp only
  split
  · rename_i there
    rw [there]
    constructor
    · intro wrong; contradiction
    · rintro ⟨same,other⟩
      exact absurd (Option.some.inj same).symm other
  · rename_i away
    constructor
    · intro there
      exact ⟨there,by rintro rfl; exact away there⟩
    · exact And.left

theorem freeLive : (h.free x).live y = true ↔ h.live y = true ∧ y ≠ x := by
  rw [liveIff,liveIff]
  constructor
  · rintro ⟨a,there⟩
    obtain ⟨before,other⟩ := freeTenant.mp there
    exact ⟨⟨a,before⟩,other⟩
  · rintro ⟨⟨a,there⟩,other⟩
    exact ⟨a,freeTenant.mpr ⟨there,other⟩⟩

end

variable {h k : Heap Address Object} {x y : Object} {a b : Address}

theorem allocateFresh (ok : h.allocate x a = some k) : h.place x = none ∧ h.tenant a = none := by
  unfold allocate at ok
  split at ok <;> try contradiction
  assumption

theorem allocatePlace (ok : h.allocate x a = some k) :
    k.place = Function.update h.place x (some a) := by
  unfold allocate at ok
  split at ok <;> try contradiction
  cases Option.some.inj ok
  rfl

theorem allocateTenant (ok : h.allocate x a = some k) :
    k.tenant = Function.update h.tenant a (some x) := by
  unfold allocate at ok
  split at ok <;> try contradiction
  cases Option.some.inj ok
  rfl

theorem placeKept (ok : h.allocate x a = some k) (placed : h.place y = some b) :
    k.place y = some b := by
  have other : y ≠ x := by rintro rfl; rw [(allocateFresh ok).1] at placed; contradiction
  rwa [allocatePlace ok,Function.update_of_ne other]

theorem allocateLive (ok : h.allocate x a = some k) :
    k.live y = true ↔ h.live y = true ∨ y = x := by
  rw [liveIff,liveIff,allocateTenant ok]
  constructor
  · rintro ⟨b,there⟩
    by_cases same : b = a
    · subst same
      rw [Function.update_self] at there
      exact .inr (Option.some.inj there).symm
    · rw [Function.update_of_ne same] at there
      exact .inl ⟨b,there⟩
  · rintro (⟨b,there⟩ | same)
    · have other : b ≠ a := by rintro rfl; rw [(allocateFresh ok).2] at there; contradiction
      exact ⟨b,by rwa [Function.update_of_ne other]⟩
    · exact ⟨a,by rw [same,Function.update_self]⟩

end Heap

end MediaServer
