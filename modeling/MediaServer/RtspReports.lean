import Mathlib.Data.UInt
import Mathlib.Tactic.Ring
import MediaServer.Controller
import MediaServer.MediaTypes
import MediaServer.Rounding
import MediaServer.SenderReports

/-! Sender reports of rtsp_play_session: on_frame rewrites the RTP timestamp of every report the muxer
makes, so that all tracks are on one line with the first report of the session. What the muxer
answers comes with the frame. -/
namespace MediaServer.RtspReports
open Controller Rounding SenderReports

def aacFrequencies : List Int :=
  [96000,88200,64000,48000,44100,32000,24000,22050,16000,12000,11025,8000,7350]

inductive Format where
  | h264 | h265
  | aac (frequency : Fin 13)
  | opus | g711a | g711u
  deriving DecidableEq, Repr

def Format.clockRate : Format → Int
  | .h264 | .h265 => 90000
  | .aac frequency => aacFrequencies.get frequency
  | .opus => 48000
  | .g711a | .g711u => 8000

def Format.kind : Format → MediaKind
  | .h264 | .h265 => .video
  | _ => .audio

structure Track where
  format : Format
  up : Bool
  deriving DecidableEq, Repr

structure Player where
  playing : Bool
  waiting : Option Nat
  tracks : List (Nat × Track)
  sync : Option RtcpSync
  deriving DecidableEq, Repr

structure Frame where
  track : Nat
  keyFrame : Bool
  payload : Bool
  ptsNs : Int64
  dtsNs : Int64
  oversized : Bool
  muxed : Bool
  report : Option UInt64
  info : Option UInt32
  deriving DecidableEq

inductive Effect where
  | shutdown
  | report (track : Nat) (ntp : UInt64) (rtp : Option UInt32)
  | write
  deriving DecidableEq, Repr

def nsToMilliseconds (value : Int64) : Int := value.toInt.tdiv 1000000

/- The rewritten timestamp, every operation on signed words of 64 bits; none is an overflow. -/
def reportTimestamp (sync : RtcpSync) (clockRate : Int) (ntp : UInt64) (pts : Int)
    (timestamp : UInt32) : Option UInt32 := do
  let elapsed := distance ntp sync.ntp
  let seconds ← int64 (elapsed.tdiv ntpFraction)
  let whole ← int64 (seconds * clockRate)
  let rest ← int64 (elapsed.tmod ntpFraction)
  let scaled ← int64 (rest * clockRate)
  let part ← int64 (scaled.tdiv ntpFraction)
  let elapsedTicks ← int64 (whole + part)
  let syncTicks ← int64 (sync.pts * clockRate)
  let ptsTicks ← int64 (pts * clockRate)
  let sum ← int64 (syncTicks.tdiv 1000 + elapsedTicks)
  let shift ← int64 (sum - ptsTicks.tdiv 1000)
  some (timestamp + UInt32.ofInt shift)

def audioUnsupported (track : Track) (frame : Frame) : Bool :=
  match track.format with
  | .opus | .g711a | .g711u =>
    frame.ptsNs.toInt.tmod 1000000 ≠ 0 || frame.dtsNs.toInt.tmod 1000000 ≠ 0 || frame.oversized
  | _ => false

def emitReport (s : Player) (track : Track) (frame : Frame) : Player × List Effect :=
  match frame.report with
  | none => (s,[.write])
  | some ntp =>
    match frame.info with
    | none => (s,[.shutdown])
    | some timestamp =>
      let pts := nsToMilliseconds frame.ptsNs
      let sync := s.sync.getD ⟨ntp,pts⟩
      ({s with sync := some sync},
        [.report frame.track ntp
          (reportTimestamp sync track.format.clockRate ntp pts timestamp),.write])

def onFrame (s : Player) (frame : Frame) : Player × List Effect :=
  if !s.playing then (s,[])
  else if s.waiting.any fun track => frame.track ≠ track || !frame.keyFrame then (s,[])
  else
    let s := {s with waiting := none}
    match s.tracks.lookup frame.track with
    | none => (s,[])
    | some track =>
      if !frame.payload || !track.up then (s,[])
      else if track.format.kind = .audio &&
          s.sync.any fun sync => nsToMilliseconds frame.ptsNs < sync.pts then (s,[])
      else if audioUnsupported track frame then (s,[.shutdown])
      else if !frame.muxed then (s,[.shutdown])
      else emitReport s track frame

inductive Move (s : Player) (frame : Frame) : Player → List Effect → Prop where
  | quiet (next : Player) (same : next.tracks = s.tracks ∧ next.sync = s.sync)
      (effects : List Effect) (silent : ∀ id ntp value, .report id ntp value ∉ effects) :
      Move s frame next effects
  | report (track : Track) (ntp : UInt64) (timestamp : UInt32)
      (found : s.tracks.lookup frame.track = some track) (info : frame.info = some timestamp)
      (sync : RtcpSync) (reference : sync = s.sync.getD ⟨ntp,nsToMilliseconds frame.ptsNs⟩) :
      Move s frame {s with waiting := none, sync := some sync}
        [.report frame.track ntp (reportTimestamp sync track.format.clockRate ntp
          (nsToMilliseconds frame.ptsNs) timestamp),.write]

variable {s player next : Player} {frame : Frame} {effects : List Effect} {rate : Int}
  {sync : RtcpSync}

theorem stillMove (waiting : Option Nat) (silent : ∀ id ntp value, .report id ntp value ∉ effects) :
    Move s frame {s with waiting} effects :=
  .quiet (s := s) {s with waiting} ⟨rfl,rfl⟩ effects silent

theorem frameMove (s : Player) (frame : Frame) :
    Move s frame (onFrame s frame).1 (onFrame s frame).2 := by
  have nothing : ∀ id ntp value, Effect.report id ntp value ∉ [] := by simp
  have ending : ∀ id ntp value, Effect.report id ntp value ∉ [.shutdown] := by simp
  have writing : ∀ id ntp value, Effect.report id ntp value ∉ [.write] := by simp
  unfold onFrame
  split
  · exact stillMove s.waiting nothing
  split
  · exact stillMove s.waiting nothing
  dsimp only
  split
  · exact stillMove none nothing
  rename_i track found
  split
  · exact stillMove none nothing
  split
  · exact stillMove none nothing
  split
  · exact stillMove none ending
  split
  · exact stillMove none ending
  unfold emitReport
  split
  · exact stillMove none writing
  · rename_i ntp _
    split
    · exact stillMove none ending
    · rename_i timestamp info
      exact .report track ntp timestamp found info _ rfl

def Milliseconds (value : Int) : Prop := -9223372036855 ≤ value ∧ value ≤ 9223372036855

theorem millisecondsRange (value : Int64) : Milliseconds (nsToMilliseconds value) := by
  have low := Int64.le_toInt value
  have high := Int64.toInt_lt value
  obtain ⟨whole,least,most⟩ := tdivFacts (show (0 : Int) < 1000000 by decide) value.toInt
  unfold Milliseconds nsToMilliseconds
  omega

theorem clockRange (format : Format) : 0 < format.clockRate ∧ format.clockRate ≤ 96000 := by
  cases format with
  | aac frequency => revert frequency; decide
  | _ => decide

theorem productRange {value bound most : Int} (low : -bound ≤ value) (high : value ≤ bound)
    (positive : 0 ≤ rate) (small : rate ≤ most) :
    -(bound * most) ≤ value * rate ∧ value * rate ≤ bound * most := by
  constructor <;> nlinarith

theorem reportExact {pts : Int} (positive : 0 < rate) (small : rate ≤ 96000)
    (start : Milliseconds sync.pts) (now : Milliseconds pts) (ntp : UInt64) (timestamp : UInt32) :
    reportTimestamp sync rate ntp pts timestamp = some (timestamp + UInt32.ofInt
      ((sync.pts * rate).tdiv 1000 + (distance ntp sync.ntp * rate).tdiv ntpFraction -
        (pts * rate).tdiv 1000)) := by
  obtain ⟨elapsed,same⟩ : ∃ elapsed, distance ntp sync.ntp = elapsed := ⟨_,rfl⟩
  obtain ⟨least,most⟩ := distanceRange ntp sync.ntp
  rw [same] at least most
  have unit : ntpFraction = 2 ^ 32 := rfl
  obtain ⟨⟨secondsLow,secondsHigh⟩,restLow,restHigh⟩ :=
    tdivRange elapsed (2 ^ 31) (by omega) (by omega)
  have wholeRange := productRange secondsLow secondsHigh (Int.le_of_lt positive) small
  have scaledRange := productRange (Int.le_of_lt restLow) (Int.le_of_lt restHigh)
    (Int.le_of_lt positive) small
  obtain ⟨⟨partLow,partHigh⟩,_,_⟩ := tdivRange (elapsed.tmod ntpFraction * rate) 96000
    scaledRange.1 scaledRange.2
  have syncRange := productRange start.1 start.2 (Int.le_of_lt positive) small
  have ptsRange := productRange now.1 now.2 (Int.le_of_lt positive) small
  have thousand : (0 : Int) < 1000 := by decide
  obtain ⟨syncWhole,syncLow,syncHigh⟩ := tdivFacts thousand (sync.pts * rate)
  obtain ⟨ptsWhole,ptsLow,ptsHigh⟩ := tdivFacts thousand (pts * rate)
  have seconds := int64Fits (elapsed.tdiv ntpFraction) (by omega) (by omega)
  have whole := int64Fits (elapsed.tdiv ntpFraction * rate) (by omega) (by omega)
  have rest := int64Fits (elapsed.tmod ntpFraction) (by omega) (by omega)
  have scaled := int64Fits (elapsed.tmod ntpFraction * rate) (by omega) (by omega)
  have part := int64Fits ((elapsed.tmod ntpFraction * rate).tdiv ntpFraction) (by omega) (by omega)
  have ticks := int64Fits (elapsed.tdiv ntpFraction * rate +
    (elapsed.tmod ntpFraction * rate).tdiv ntpFraction) (by omega) (by omega)
  have syncTicks := int64Fits (sync.pts * rate) (by omega) (by omega)
  have ptsTicks := int64Fits (pts * rate) (by omega) (by omega)
  have sum := int64Fits ((sync.pts * rate).tdiv 1000 + (elapsed.tdiv ntpFraction * rate +
    (elapsed.tmod ntpFraction * rate).tdiv ntpFraction)) (by omega) (by omega)
  have shift := int64Fits ((sync.pts * rate).tdiv 1000 + (elapsed.tdiv ntpFraction * rate +
    (elapsed.tmod ntpFraction * rate).tdiv ntpFraction) - (pts * rate).tdiv 1000) (by omega)
    (by omega)
  simp only [reportTimestamp,same,seconds,whole,rest,scaled,part,ticks,syncTicks,ptsTicks,sum,shift,
    bind,Option.bind]
  rw [scaleSplit (by decide) elapsed (Int.le_of_lt positive)]

def OnLine (sync : RtcpSync) (rate : Int) (base rtp : UInt32) (ntp : UInt64) : Prop :=
  ∃ turns : Int, |(rtp.toNat : ℚ) - (base.toNat + rate *
    ((sync.pts : ℚ) / 1000 + (distance ntp sync.ntp : ℚ) / 2 ^ 32)) - turns * 2 ^ 32| < 2

theorem reportOnLine {pts : Int} {base timestamp : UInt32} {ntp : UInt64}
    (muxed : timestamp = base + UInt32.ofInt ((pts * rate).tdiv 1000)) :
    OnLine sync rate base (timestamp + UInt32.ofInt
      ((sync.pts * rate).tdiv 1000 + (distance ntp sync.ntp * rate).tdiv ntpFraction -
        (pts * rate).tdiv 1000)) ntp := by
  obtain ⟨elapsed,same⟩ : ∃ elapsed, distance ntp sync.ntp = elapsed := ⟨_,rfl⟩
  unfold OnLine
  rw [same]
  have first := tdivNear (show (0 : Int) < 1000 by decide) (sync.pts * rate)
  have second := tdivNear (show 0 < ntpFraction by decide) (elapsed * rate)
  generalize startTicks : (sync.pts * rate).tdiv 1000 = start at first ⊢
  generalize elapsedTicks : (elapsed * rate).tdiv ntpFraction = ticks at second ⊢
  generalize (pts * rate).tdiv 1000 = now at muxed ⊢
  have word := wordAdd timestamp (start + ticks - now)
  have source := wordAdd base now
  rw [← muxed] at source
  generalize timestamp + UInt32.ofInt (start + ticks - now) = rtp at word ⊢
  refine ⟨(rtp.toNat - (base.toNat + start + ticks)) / 2 ^ 32,?_⟩
  have turns : (rtp.toNat : Int) = base.toNat + start + ticks +
      (rtp.toNat - (base.toNat + start + ticks)) / 2 ^ 32 * 2 ^ 32 := by
    omega
  generalize ((rtp.toNat : Int) - (base.toNat + start + ticks)) / 2 ^ 32 = n at turns ⊢
  have cast : (rtp.toNat : ℚ) = base.toNat + start + ticks + n * 2 ^ 32 := by
    exact_mod_cast turns
  rw [cast]
  rw [abs_lt] at first second ⊢
  push_cast at first second
  have unit : ((ntpFraction : Int) : ℚ) = 2 ^ 32 := by norm_num [ntpFraction]
  rw [unit] at second
  have split : (rate : ℚ) * ((sync.pts : ℚ) / 1000 + (elapsed : ℚ) / 2 ^ 32) =
      sync.pts * rate / 1000 + elapsed * rate / 2 ^ 32 := by ring
  rw [split]
  constructor <;> linarith

structure Kept (player s : Player) : Prop where
  tracks : s.tracks = player.tracks
  reference : ∀ sync, s.sync = some sync → Milliseconds sync.pts

theorem keptMove (kept : Kept player s) (move : Move s frame next effects) : Kept player next := by
  cases move with
  | quiet next same effects silent =>
    refine ⟨same.1.trans kept.tracks,?_⟩
    rw [same.2]
    exact kept.reference
  | report track ntp timestamp found info sync reference =>
    refine ⟨kept.tracks,?_⟩
    intro other same
    cases same
    rw [reference]
    cases here : s.sync with
    | none => exact millisecondsRange frame.ptsNs
    | some old => exact kept.reference old here

theorem sameReference (move : Move s frame next effects) (here : s.sync = some sync) :
    next.sync = some sync := by
  cases move with
  | quiet next same effects silent => rw [same.2,here]
  | report track ntp timestamp found info other reference => rw [reference,here]; rfl

def Muxed (player : Player) (base : Nat → UInt32) (frame : Frame) : Prop :=
  ∀ timestamp track, frame.info = some timestamp → player.tracks.lookup frame.track = some track →
    timestamp = base frame.track +
      UInt32.ofInt ((nsToMilliseconds frame.ptsNs * track.format.clockRate).tdiv 1000)

def Consistent (player : Player) (base : Nat → UInt32) (sync : RtcpSync) (id : Nat)
    (ntp : UInt64) (value : Option UInt32) : Prop :=
  ∃ track rtp, player.tracks.lookup id = some track ∧ value = some rtp ∧
    OnLine sync track.format.clockRate (base id) rtp ntp

theorem consistentMove {base : Nat → UInt32} (kept : Kept player s)
    (muxed : Muxed player base frame) (move : Move s frame next effects) {id : Nat} {ntp : UInt64}
    {value : Option UInt32} (here : .report id ntp value ∈ effects) :
    ∃ sync, next.sync = some sync ∧ Consistent player base sync id ntp value := by
  have after := keptMove kept move
  cases move with
  | quiet next same effects silent => exact absurd here (silent id ntp value)
  | report track ntp' timestamp found info sync reference =>
    simp only [List.mem_cons,Effect.report.injEq,reduceCtorEq,List.not_mem_nil,or_false] at here
    obtain ⟨rfl,rfl,rfl⟩ := here
    rw [kept.tracks] at found
    obtain ⟨positive,small⟩ := clockRange track.format
    refine ⟨sync,rfl,track,_,found,reportExact positive small (after.reference sync rfl)
      (millisecondsRange frame.ptsNs) ntp timestamp,?_⟩
    exact reportOnLine (muxed timestamp track info found)

theorem consistentRun {base : Nat → UInt32} (frames : List Frame)
    (muxed : ∀ frame ∈ frames, Muxed player base frame) : ∀ s, Kept player s →
    ∃ sync, (∀ old, s.sync = some old → sync = old) ∧
      ∀ r ∈ rounds onFrame s frames, ∀ id ntp value, .report id ntp value ∈ r.effects →
        r.next.sync = some sync ∧ Consistent player base sync id ntp value := by
  induction frames with
  | nil =>
    intro s _
    refine ⟨s.sync.getD ⟨0,0⟩,?_,by simp [rounds]⟩
    intro old here
    rw [here]
    rfl
  | cons frame frames ih =>
    intro s kept
    have move := frameMove s frame
    obtain ⟨sync,same,later⟩ := ih (fun other member => muxed other (List.mem_cons_of_mem _ member))
      _ (keptMove kept move)
    refine ⟨sync,fun old here => same old (sameReference move here),?_⟩
    intro r member id ntp value here
    rcases List.mem_cons.mp member with rfl | behind
    · obtain ⟨now,reference,consistent⟩ :=
        consistentMove kept (muxed frame List.mem_cons_self) move here
      cases same now reference
      exact ⟨reference,consistent⟩
    · exact later r behind id ntp value here

theorem playReports (player : Player) (fresh : player.sync = none) (base : Nat → UInt32)
    (frames : List Frame) (muxed : ∀ frame ∈ frames, Muxed player base frame) :
    ∃ sync, ∀ r ∈ rounds onFrame player frames, ∀ id ntp value,
      .report id ntp value ∈ r.effects →
        r.next.sync = some sync ∧ Consistent player base sync id ntp value := by
  have start : Kept player player := ⟨rfl,fun sync here => by simp [fresh] at here⟩
  obtain ⟨sync,-,all⟩ := consistentRun frames muxed player start
  exact ⟨sync,all⟩

def samplePlayer : Player := ⟨true,none,[(1,⟨.h264,true⟩),(2,⟨.opus,true⟩)],none⟩

def sampleFrames : List Frame :=
  [⟨1,true,true,1000000000,1000000000,false,true,some (5 * 2 ^ 32),some 90007⟩,
    ⟨2,false,true,2000000000,2000000000,false,true,some (6 * 2 ^ 32 + 2 ^ 31),some 96009⟩]

theorem sampleReports : (rounds onFrame samplePlayer sampleFrames).flatMap (·.effects) =
      [.report 1 (5 * 2 ^ 32) (some 90007),.write,
        .report 2 (6 * 2 ^ 32 + 2 ^ 31) (some 120009),.write] ∧
    ∃ sync, ∀ r ∈ rounds onFrame samplePlayer sampleFrames, ∀ id ntp value,
      .report id ntp value ∈ r.effects → r.next.sync = some sync ∧
        Consistent samplePlayer (fun id => if id = 1 then 7 else 9) sync id ntp value := by
  refine ⟨by decide +kernel,playReports samplePlayer rfl _ sampleFrames ?_⟩
  intro frame member timestamp track info found
  simp only [sampleFrames,List.mem_cons,List.not_mem_nil,or_false] at member
  rcases member with rfl | rfl
  · cases info
    cases found
    decide +kernel
  · cases info
    cases found
    decide +kernel

end MediaServer.RtspReports
