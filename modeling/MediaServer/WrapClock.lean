import Mathlib.Data.List.Chain
import Mathlib.Data.Int.ModEq

/-! Clocks that are sent modulo M. The receiver goes from its counter to the nearest number with the
residue it got; as long as the sender's steps are shorter than half of M it follows the sender. The
file names nothing of the server. -/
namespace MediaServer.WrapClock

variable {M : Nat}

def next (M : Nat) (counter residue : Int) : Int := counter + (residue - counter).bmod M

def Near (M : Nat) (a b : Int) : Prop := -(M : Int) ≤ (b - a) * 2 ∧ (b - a) * 2 < M

theorem nextResidue (counter residue : Int) : next M counter residue % M = residue % M := by
  rw [next,Int.add_emod,Int.bmod_emod,← Int.add_emod]
  congr 1
  omega

theorem nextExact {counter residue time : Int} (near : Near M counter time)
    (same : residue % M = time % M) : next M counter residue = time := by
  have step : (residue - counter).bmod M = time - counter := by
    rw [← Int.emod_sub_bmod,same,Int.emod_sub_bmod]
    exact Int.bmod_eq_of_le_mul_two near.1 near.2
  rw [next,step]
  omega

theorem nextOf {counter seen residue : Int} (same : seen % M = counter % M) :
    counter + (residue - seen).bmod M = next M counter residue := by
  rw [next,← Int.sub_emod_bmod,same,Int.sub_emod_bmod]

end MediaServer.WrapClock
