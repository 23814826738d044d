import MediaServer.HlsSegmenter
import MediaServer.Rounding
import MediaServer.SenderReports

/-! ns_to_90khz on the whole range of int64. In the checked function each value on the way has to fit. -/
namespace MediaServer.NinetyKilohertz
open HlsSegmenter (nsTo90khz)
open SenderReports (int64 int64Fits scaleSplit)

def nsPerSecond : Int := 1000000000

def nsTo90khzChecked (value : Int) : Option Int := do
  let seconds ← int64 (value.tdiv nsPerSecond)
  let nanoseconds ← int64 (value.tmod nsPerSecond)
  let whole ← int64 (seconds * 90000)
  let scaled ← int64 (nanoseconds * 90000)
  let part ← int64 (scaled.tdiv nsPerSecond)
  int64 (whole + part)

theorem scaledExact (value : Int) : nsTo90khz value = (value * 90000).tdiv nsPerSecond :=
  scaleSplit (by decide) value (by decide)

theorem checkedFits (value : Int) (low : -2 ^ 63 ≤ value) (high : value < 2 ^ 63) :
    nsTo90khzChecked value = some (nsTo90khz value) := by
  have positive : (0 : Int) < 1000000000 := by decide
  obtain ⟨whole,least,most⟩ := Rounding.tdivFacts positive value
  obtain ⟨whole',least',most'⟩ := Rounding.tdivFacts positive (value.tmod 1000000000 * 90000)
  have seconds := int64Fits (value.tdiv 1000000000) (by omega) (by omega)
  have nanoseconds := int64Fits (value.tmod 1000000000) (by omega) (by omega)
  have ticks := int64Fits (value.tdiv 1000000000 * 90000) (by omega) (by omega)
  have scaled := int64Fits (value.tmod 1000000000 * 90000) (by omega) (by omega)
  have part := int64Fits ((value.tmod 1000000000 * 90000).tdiv 1000000000) (by omega) (by omega)
  have sum := int64Fits (value.tdiv 1000000000 * 90000 +
    (value.tmod 1000000000 * 90000).tdiv 1000000000) (by omega) (by omega)
  simp only [nsTo90khzChecked,nsPerSecond,seconds,nanoseconds,ticks,scaled,part,sum,bind,Option.bind]
  rfl

theorem ninetyKilohertz (v : Int64) :
    nsTo90khzChecked v.toInt = some ((v.toInt * 90000).tdiv (10 ^ 9)) ∧
    nsTo90khz v.toInt = (v.toInt * 90000).tdiv (10 ^ 9) ∧
    (∀ w : Int64, v ≤ w → nsTo90khz v.toInt ≤ nsTo90khz w.toInt) ∧
    (v ≠ Int64.minValue → nsTo90khz (-v).toInt = -nsTo90khz v.toInt) := by
  have low := Int64.le_toInt v
  have high := Int64.toInt_lt v
  refine ⟨?_,scaledExact v.toInt,?_,?_⟩
  · rw [checkedFits v.toInt low high,scaledExact]
    rfl
  · intro w le
    have order := Int64.le_iff_toInt_le.mp le
    rw [scaledExact,scaledExact]
    exact Int.tdiv_le_tdiv (by decide) (by omega)
  · intro other
    have least : v.toInt ≠ -2 ^ 63 := by
      intro same
      exact other (Int64.toInt_inj.mp same)
    have negative : (-v).toInt = -v.toInt := by
      rw [Int64.toInt_neg]
      exact Int.bmod_eq_of_le (by omega) (by omega)
    rw [negative,scaledExact,scaledExact,Int.neg_mul,Int.neg_tdiv]

end MediaServer.NinetyKilohertz
