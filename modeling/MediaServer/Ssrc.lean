import Mathlib.Algebra.Order.Ring.Int
import Mathlib.Data.List.Basic

/-! ssrc.go: the allocator of GB28181 SSRCs. The numbers 1 to 9999 are handed out in
turn; the SIP domain gives the digits before them and a playback adds the leading one. -/
namespace MediaServer.Ssrc

structure Allocator where
  domain : Fin 100000
  next : Nat
  active : List Nat
  low : 1 ≤ next
  high : next < 10000
  deriving DecidableEq, Repr

instance domainNonzero : NeZero 100000 := ⟨by decide⟩

theorem firstLow : 1 ≤ 1 := Nat.le_refl 1

theorem firstHigh : 1 < 10000 := by decide

def Allocator.advance (a : Allocator) : Allocator where
  domain := a.domain
  next := if a.next + 1 = 10000 then 1 else a.next + 1
  active := a.active
  low := by split <;> omega
  high := by have := a.high; split <;> omega

/- uint32 arithmetic: the largest value is below two thousand million. -/
def Allocator.ssrc (a : Allocator) (playback : Bool) (candidate : Nat) : Nat :=
  a.domain.val * 10000 + candidate + if playback then 1000000000 else 0

def acquireFrom (playback : Bool) : Nat → Allocator → Option (Nat × Allocator)
  | 0,_ => none
  | tries + 1,a =>
      if a.next ∈ a.active then acquireFrom playback tries a.advance
      else some (a.ssrc playback a.next,{a.advance with active := a.next :: a.active})

def acquire (a : Allocator) (playback : Bool) : Option (Nat × Allocator) :=
  acquireFrom playback 9999 a

def release (a : Allocator) (ssrc : Nat) : Allocator :=
  {a with active := a.active.filter (· ≠ ssrc % 10000)}

theorem acquireFromActive {playback : Bool} {tries : Nat} {a b : Allocator} {ssrc : Nat}
    (ok : acquireFrom playback tries a = some (ssrc,b)) :
    ssrc % 10000 ∉ a.active ∧ b.active = ssrc % 10000 :: a.active := by
  induction tries generalizing a with
  | zero => cases ok
  | succ tries ih =>
    unfold acquireFrom at ok
    split at ok
    · have later := ih ok
      exact later
    · rename_i free
      cases Option.some.inj ok
      have digits : a.ssrc playback a.next % 10000 = a.next := by
        have := a.high
        unfold Allocator.ssrc
        split <;> omega
      rw [digits]
      exact ⟨free,rfl⟩

theorem acquireActive {playback : Bool} {a b : Allocator} {ssrc : Nat}
    (ok : acquire a playback = some (ssrc,b)) :
    ssrc % 10000 ∉ a.active ∧ b.active = ssrc % 10000 :: a.active :=
  acquireFromActive ok

@[simp] theorem memRelease {a : Allocator} {ssrc n : Nat} :
    n ∈ (release a ssrc).active ↔ n ∈ a.active ∧ n ≠ ssrc % 10000 := by
  simp [release]

end MediaServer.Ssrc
