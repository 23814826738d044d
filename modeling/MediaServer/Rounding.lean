import Mathlib.Algebra.Order.Field.Rat
import Mathlib.Tactic.FieldSimp
import Mathlib.Tactic.Linarith
import Mathlib.Tactic.NormNum

/-! Truncated quotients against exact ones, and words of 32 bits against the integers they are taken
from. The file names nothing of the server. -/
namespace MediaServer.Rounding

theorem tdivFacts {unit : Int} (positive : 0 < unit) (value : Int) :
    value.tmod unit + unit * value.tdiv unit = value ∧
      -unit < value.tmod unit ∧ value.tmod unit < unit :=
  ⟨Int.tmod_add_mul_tdiv value unit,Int.lt_tmod_of_pos value positive,
    Int.tmod_lt_of_pos value positive⟩

theorem tdivSmall (value bound unit : Int) (low : -bound ≤ value) (high : value ≤ bound) :
    -bound ≤ value.tdiv unit ∧ value.tdiv unit ≤ bound := by
  have size : (value.tdiv unit).natAbs = value.natAbs / unit.natAbs := Int.natAbs_tdiv value unit
  have small := Nat.div_le_self value.natAbs unit.natAbs
  omega

theorem tdivNear {unit : Int} (positive : 0 < unit) (value : Int) :
    |(value : ℚ) / unit - (value.tdiv unit : Int)| < 1 := by
  obtain ⟨whole,low,high⟩ := tdivFacts positive value
  have unit' : (0 : ℚ) < unit := by exact_mod_cast positive
  have split : (value : ℚ) / unit - (value.tdiv unit : Int) = (value.tmod unit : Int) / unit := by
    have cast : ((value.tmod unit : Int) : ℚ) + unit * (value.tdiv unit : Int) = value := by
      exact_mod_cast whole
    field_simp
    linarith
  have low' : -(unit : ℚ) < (value.tmod unit : Int) := by exact_mod_cast low
  have high' : ((value.tmod unit : Int) : ℚ) < unit := by exact_mod_cast high
  rw [split,abs_lt]
  exact ⟨by rw [lt_div_iff₀ unit']; linarith,by rw [div_lt_iff₀ unit']; linarith⟩

theorem edivNear {unit : Int} (positive : 0 < unit) (value : Int) :
    ((value / unit : Int) : ℚ) ≤ (value : ℚ) / unit ∧
      (value : ℚ) / unit < ((value / unit : Int) : ℚ) + 1 := by
  have unit' : (0 : ℚ) < unit := by exact_mod_cast positive
  have whole := Int.emod_add_mul_ediv value unit
  have low := Int.emod_nonneg value (Int.ne_of_gt positive)
  have high := Int.emod_lt_of_pos value positive
  have cast : ((value % unit : Int) : ℚ) + unit * ((value / unit : Int) : ℚ) = value := by
    exact_mod_cast whole
  have low' : (0 : ℚ) ≤ (value % unit : Int) := by exact_mod_cast low
  have high' : ((value % unit : Int) : ℚ) < unit := by exact_mod_cast high
  constructor
  · rw [le_div_iff₀ unit']
    linarith
  · rw [div_lt_iff₀ unit']
    linarith

theorem wordValue (value : Int) : ((UInt32.ofInt value).toNat : Int) = value % 2 ^ 32 := by
  have low := Int.emod_nonneg value (show (2 ^ 32 : Int) ≠ 0 by decide)
  have high := Int.emod_lt_of_pos value (show (0 : Int) < 2 ^ 32 by decide)
  rw [UInt32.ofInt,UInt32.toNat_ofNat']
  omega

theorem wordAdd (word : UInt32) (value : Int) :
    ((word + UInt32.ofInt value).toNat : Int) = (word.toNat + value) % 2 ^ 32 := by
  have cast := wordValue value
  rw [UInt32.toNat_add]
  omega

end MediaServer.Rounding
