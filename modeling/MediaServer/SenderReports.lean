import Mathlib.Algebra.Order.Ring.Int
import Mathlib.Data.List.Basic
import MediaServer.Controller

/-! Sender reports. A report says which point of the sender's clock belongs to a timestamp; the first
one gives the reference, and every track is put on the time line of the reference once. -/
namespace MediaServer.SenderReports
open Controller

def int64 (value : Int) : Option Int :=
  if -2 ^ 63 ≤ value ∧ value < 2 ^ 63 then some value else none

theorem int64Fits (value : Int) (low : -2 ^ 63 ≤ value) (high : value < 2 ^ 63) :
    int64 value = some value := if_pos ⟨low,high⟩

theorem scaleSplit {unit : Int} (positive : 0 < unit) (value : Int) {factor : Int}
    (scale : 0 ≤ factor) :
    value.tdiv unit * factor + (value.tmod unit * factor).tdiv unit =
      (value * factor).tdiv unit := by
  have up {value : Int} (nonneg : 0 ≤ value) :
      value.tdiv unit * factor + (value.tmod unit * factor).tdiv unit =
        (value * factor).tdiv unit := by
    have rest := Int.mul_nonneg (Int.tmod_nonneg unit nonneg) scale
    rw [Int.tdiv_eq_ediv_of_nonneg nonneg,Int.tdiv_eq_ediv_of_nonneg rest,
      Int.tdiv_eq_ediv_of_nonneg (Int.mul_nonneg nonneg scale),
      Int.tmod_eq_emod_of_nonneg nonneg]
    have whole : value * factor = value % unit * factor + unit * (value / unit * factor) := by
      conv_lhs => rw [← Int.emod_add_mul_ediv value unit,Int.add_mul,Int.mul_assoc]
    rw [whole,Int.add_mul_ediv_left _ _ (Int.ne_of_gt positive),Int.add_comm]
  rcases Int.le_total 0 value with nonneg | negative
  · exact up nonneg
  · have mirror := up (Int.neg_nonneg_of_nonpos negative)
    simp only [Int.neg_tdiv,Int.neg_tmod,Int.neg_mul] at mirror
    omega

structure Report where
  ntpMsw : UInt32
  ntpLsw : UInt32
  rtpTimestamp : UInt32
  pts : Int
  deriving DecidableEq, Repr

def Report.ntp (report : Report) : UInt64 :=
  report.ntpMsw.toUInt64 <<< 32 ||| report.ntpLsw.toUInt64

structure RtcpSync where
  ntp : UInt64
  pts : Int
  deriving DecidableEq, Repr

def ntpFraction : Int := 2 ^ 32

def distance (ntp base : UInt64) : Int := (ntp - base).toInt64.toInt

/- The time of a clock value on the time line of the reference, every operation on signed words; none
is an overflow. -/
def syncedPts (sync : RtcpSync) (ntp : UInt64) : Option Int := do
  let delta := distance ntp sync.ntp
  let seconds ← int64 (delta.tdiv ntpFraction)
  let milliseconds ← int64 (seconds * 1000)
  let whole ← int64 (sync.pts + milliseconds)
  let rest ← int64 (delta.tmod ntpFraction)
  let scaled ← int64 (rest * 1000)
  let part ← int64 (scaled.tdiv ntpFraction)
  int64 (whole + part)

def takeReport (sync : Option RtcpSync) (report : Report) : RtcpSync × Option Int :=
  match sync with
  | none => (⟨report.ntp,report.pts⟩,some report.pts)
  | some sync => (sync,syncedPts sync report.ntp)

structure Mapping (τ : Type) where
  track : τ
  rtpTimestamp : UInt32
  pts : Option Int
  deriving DecidableEq, Repr

def Small (report : Report) : Prop := -2 ^ 62 < report.pts ∧ report.pts < 2 ^ 62

theorem distanceRange (ntp base : UInt64) :
    -2 ^ 63 ≤ distance ntp base ∧ distance ntp base < 2 ^ 63 :=
  ⟨Int64.le_toInt _,Int64.toInt_lt _⟩

theorem tdivRange (value bound : Int) (low : -(ntpFraction * bound) ≤ value)
    (high : value ≤ ntpFraction * bound) :
    (-bound ≤ value.tdiv ntpFraction ∧ value.tdiv ntpFraction ≤ bound) ∧
      -ntpFraction < value.tmod ntpFraction ∧ value.tmod ntpFraction < ntpFraction := by
  have positive : 0 < ntpFraction := by decide
  have whole := Int.tmod_add_mul_tdiv value ntpFraction
  have least := Int.lt_tmod_of_pos value positive
  have most := Int.tmod_lt_of_pos value positive
  simp only [ntpFraction] at *
  omega

theorem syncedExact {sync : RtcpSync} (low : -2 ^ 62 < sync.pts) (high : sync.pts < 2 ^ 62)
    (ntp : UInt64) :
    syncedPts sync ntp =
      some (sync.pts + (distance ntp sync.ntp * 1000).tdiv ntpFraction) := by
  obtain ⟨delta,same⟩ : ∃ delta, distance ntp sync.ntp = delta := ⟨_,rfl⟩
  obtain ⟨least,most⟩ := distanceRange ntp sync.ntp
  rw [same] at least most
  have unit : ntpFraction = 2 ^ 32 := rfl
  obtain ⟨⟨_,_⟩,_,_⟩ := tdivRange delta (2 ^ 31) (by omega) (by omega)
  obtain ⟨⟨_,_⟩,_,_⟩ := tdivRange (delta.tmod ntpFraction * 1000) 1000 (by omega) (by omega)
  have seconds := int64Fits (delta.tdiv ntpFraction) (by omega) (by omega)
  have milliseconds := int64Fits (delta.tdiv ntpFraction * 1000) (by omega) (by omega)
  have whole := int64Fits (sync.pts + delta.tdiv ntpFraction * 1000) (by omega) (by omega)
  have rest := int64Fits (delta.tmod ntpFraction) (by omega) (by omega)
  have scaled := int64Fits (delta.tmod ntpFraction * 1000) (by omega) (by omega)
  have part := int64Fits ((delta.tmod ntpFraction * 1000).tdiv ntpFraction) (by omega)
    (by omega)
  have sum := int64Fits (sync.pts + delta.tdiv ntpFraction * 1000 +
    (delta.tmod ntpFraction * 1000).tdiv ntpFraction) (by omega) (by omega)
  simp only [syncedPts,same,seconds,milliseconds,whole,rest,scaled,part,sum,bind,Option.bind]
  rw [Int.add_assoc,scaleSplit (by decide) delta (by decide)]

section
variable {σ ε τ : Type}

def mappedPts (earlier : List (τ × Report)) (report : Report) : Int :=
  match earlier with
  | [] => report.pts
  | (_,first) :: _ => first.pts + (distance report.ntp first.ntp * 1000).tdiv ntpFraction

structure Kept (synced : τ → Bool) (sync : Option RtcpSync) (reports : List (τ × Report)) : Prop where
  reference : sync = reports.head?.map fun item => ⟨item.2.ntp,item.2.pts⟩
  marks : ∀ track, synced track = true ↔ track ∈ reports.map Prod.fst

variable {synced : τ → Bool} {sync : Option RtcpSync} {reports : List (τ × Report)}

theorem Kept.value (kept : Kept synced sync reports) (small : ∀ item ∈ reports, Small item.2)
    (report : Report) : (takeReport sync report).2 = some (mappedPts reports report) := by
  rw [kept.reference]
  cases reports with
  | nil => rfl
  | cons first rest =>
    obtain ⟨low,high⟩ := small first (List.mem_cons_self ..)
    exact syncedExact low high report.ntp

theorem Kept.again (kept : Kept synced sync reports) {track : τ} (known : synced track = true)
    (report : Report) : Kept synced sync (reports ++ [(track,report)]) := by
  have here := (kept.marks track).mp known
  refine ⟨?_,?_⟩
  · rw [kept.reference]
    cases reports with
    | nil => simp at here
    | cons first rest => rfl
  · intro other
    rw [List.map_append,List.mem_append,← kept.marks]
    constructor
    · exact .inl
    · rintro (old | new)
      · exact old
      · cases List.mem_singleton.mp new
        exact known

variable [DecidableEq τ] {step : σ → ε → σ × List (Mapping τ)}

def reportsIn (reported : σ → ε → Option (τ × Report)) (past : List (Round σ ε (Mapping τ))) :
    List (τ × Report) :=
  past.filterMap fun r => reported r.state r.event

def Synchronised (reported : σ → ε → Option (τ × Report)) (past : List (Round σ ε (Mapping τ))) :
    Prop :=
  EachRound (fun before r => r.effects =
    match reported r.state r.event with
    | none => []
    | some (track,report) =>
      if track ∈ (reportsIn reported before).map Prod.fst then []
      else [⟨track,report.rtpTimestamp,some (mappedPts (reportsIn reported before) report)⟩]) past

/- What an input that keeps a reference and a mark for every track does. What it keeps counts as long
as it is live; only a live one takes reports. -/
structure Takes (step : σ → ε → σ × List (Mapping τ)) (live : σ → Prop) (synced : σ → τ → Bool)
    (sync : σ → Option RtcpSync) (reported : σ → ε → Option (τ × Report)) : Prop where
  alive : ∀ s e, live (step s e).1 → live s
  taken : ∀ s e, reported s e ≠ none → live s
  other : ∀ s e, reported s e = none → (step s e).2 = [] ∧
    (live (step s e).1 → synced (step s e).1 = synced s ∧ sync (step s e).1 = sync s)
  again : ∀ s e track report, reported s e = some (track,report) → synced s track = true →
    (step s e).2 = [] ∧ synced (step s e).1 = synced s ∧ sync (step s e).1 = sync s
  first : ∀ s e track report, reported s e = some (track,report) → synced s track = false →
    (step s e).2 = [⟨track,report.rtpTimestamp,(takeReport (sync s) report).2⟩] ∧
    synced (step s e).1 = (fun other => if other = track then true else synced s other) ∧
    sync (step s e).1 = some (takeReport (sync s) report).1

theorem Kept.snoc (kept : Kept synced sync reports) (track : τ) (report : Report) :
    Kept (fun other => if other = track then true else synced other)
      (some (takeReport sync report).1) (reports ++ [(track,report)]) := by
  refine ⟨?_,?_⟩
  · rw [kept.reference]
    cases reports <;> rfl
  · intro other
    rw [List.map_append,List.mem_append,← kept.marks]
    by_cases same : other = track <;> simp [same]

variable {live : σ → Prop} {synced : σ → τ → Bool} {sync : σ → Option RtcpSync}
  {reported : σ → ε → Option (τ × Report)}

theorem Takes.kept (takes : Takes step live synced sync reported)
    (past : List (Round σ ε (Mapping τ))) (s : σ) (e : ε)
    (kept : live s → Kept (synced s) (sync s) (reportsIn reported past)) :
    live (step s e).1 → Kept (synced (step s e).1) (sync (step s e).1)
      (reportsIn reported (past ++ [.of step s e])) := by
  intro alive
  have kept := kept (takes.alive s e alive)
  simp only [reportsIn,List.filterMap_append]
  cases found : reported s e with
  | none =>
    obtain ⟨marks,reference⟩ := (takes.other s e found).2 alive
    rw [marks,reference]
    simpa [Round.of,found,reportsIn] using kept
  | some item =>
    obtain ⟨track,report⟩ := item
    simp only [Round.of,List.filterMap_cons,found,List.filterMap_nil]
    cases known : synced s track with
    | true =>
      obtain ⟨_,marks,reference⟩ := takes.again s e track report found known
      rw [marks,reference]
      exact kept.again known report
    | false =>
      obtain ⟨_,marks,reference⟩ := takes.first s e track report found known
      rw [marks,reference]
      exact kept.snoc track report

theorem Takes.synchronised (takes : Takes step live synced sync reported) {s : σ}
    (marks : ∀ track, synced s track = false) (reference : sync s = none) (events : List ε)
    (small : ∀ item ∈ reportsIn reported (rounds step s events), Small item.2) :
    Synchronised reported (rounds step s events) := by
  intro before r after cut
  have start : live s → Kept (synced s) (sync s) (reportsIn reported []) := by
    intro _
    exact ⟨reference,fun track => by simp [marks,reportsIn]⟩
  obtain ⟨kept,same⟩ := roundsHistory
    (P := fun past s => live s → Kept (synced s) (sync s) (reportsIn reported past)) start takes.kept cut
  have earlier : ∀ item ∈ reportsIn reported before, Small item.2 := by
    intro item member
    refine small item ?_
    rw [cut,reportsIn,List.filterMap_append]
    exact List.mem_append_left _ member
  have effects : r.effects = (step r.state r.event).2 := congrArg Round.effects same
  rw [effects]
  cases found : reported r.state r.event with
  | none => exact (takes.other _ _ found).1
  | some item =>
    obtain ⟨track,report⟩ := item
    have reports : reported r.state r.event ≠ none := by simp [found]
    have kept : Kept (synced r.state) (sync r.state) (reportsIn reported before) :=
      kept (takes.taken _ _ reports)
    dsimp only
    cases known : synced r.state track with
    | true =>
      rw [if_pos ((kept.marks track).mp known)]
      exact (takes.again _ _ track report found known).1
    | false =>
      rw [if_neg (by rw [← kept.marks,known]; simp),(takes.first _ _ track report found known).1,kept.value earlier report]

end

end MediaServer.SenderReports
