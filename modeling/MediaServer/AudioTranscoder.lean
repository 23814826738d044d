import Mathlib.Algebra.Order.Ring.Int
import Mathlib.Data.List.Basic
import MediaServer.Controller

/-! The audio transcoder and its time line. The decoder gives one frame for every packet; the
resampler is a parameter; the encoder gives one packet for every full frame of samples. A sample is
known by the packet it was decoded from and its place among the samples made from that packet. -/
namespace MediaServer.AudioTranscoder
open Controller

def rescale (a : Int) (b c : Nat) : Int :=
  if 0 ≤ a then (a * b + c / 2) / c else -((-a * b + c / 2) / c)

def nanoseconds : Nat := 1000000000

structure Codecs where
  decoderRate : Nat
  frameRate : Nat
  frameSamples : Nat
  encoderRate : Nat
  frameSize : Nat
  initialPadding : Nat
  rates : 0 < decoderRate ∧ 0 < frameRate ∧ 0 < encoderRate
  full : 0 < frameSize

/- swr_init, and swr_next_pts with swr_convert: how many samples come out. -/
structure Resampler (ρ : Type) where
  init : ρ
  convert : ρ → Int → Nat → ρ × Nat

structure Sample where
  packet : Nat
  position : Nat
  deriving DecidableEq, Repr

structure Input where
  track : Nat
  ptsNs : Int
  deriving DecidableEq, Repr

structure Packet where
  track : Nat
  ptsNs : Int
  encoderPts : Nat
  samples : List Sample
  deriving DecidableEq, Repr

structure State (ρ : Type) where
  resampler : Option ρ
  fifo : List Sample
  nextEncoderPts : Nat
  nextOutputPtsNs : Int
  expectedInputSamplePts : Option Int
  outputTrack : Nat
  timelineStarted : Bool
  received : Nat
  deriving DecidableEq, Repr

def startup (ρ : Type) : State ρ := ⟨none,[],0,0,none,0,false,0⟩

section
variable (c : Codecs) {ρ : Type} (r : Resampler ρ)

def initialPaddingNs : Int := rescale c.initialPadding nanoseconds c.encoderRate

def frameNs : Int := rescale c.frameSize nanoseconds c.encoderRate

def frameSamplePts (ptsNs : Int) : Int :=
  rescale (rescale ptsNs c.decoderRate nanoseconds) c.frameRate c.decoderRate

def State.ready (s : State ρ) (pts : Int) : ρ :=
  match s.resampler,s.expectedInputSamplePts with
  | none,_ => r.init
  | some resampler,none => resampler
  | some resampler,some expected =>
    if c.frameRate / 10 < (pts - expected).natAbs then r.init else resampler

def State.resampleDecoded (s : State ρ) (pts : Int) : State ρ :=
  let (resampler,count) := r.convert (s.ready c r pts) (pts * c.encoderRate) c.frameSamples
  {s with
    resampler := some resampler
    expectedInputSamplePts := some (pts + c.frameSamples)
    fifo := s.fifo ++ (List.range count).map fun position => ⟨s.received,position⟩
    received := s.received + 1}

def State.receiveEncoded (s : State ρ) (encoderPts : Nat) (samples : List Sample) :
    State ρ × List Packet :=
  let ptsNs := s.nextOutputPtsNs
  let s := {s with nextOutputPtsNs := ptsNs + frameNs c}
  if ptsNs < 0 then (s,[]) else (s,[⟨s.outputTrack,ptsNs,encoderPts,samples⟩])

def State.encodeFifoFrame (s : State ρ) : State ρ × List Packet :=
  State.receiveEncoded c
    {s with
      fifo := s.fifo.drop c.frameSize
      nextEncoderPts := s.nextEncoderPts + c.frameSize}
    s.nextEncoderPts (s.fifo.take c.frameSize)

def State.encodeAvailable : Nat → State ρ → State ρ × List Packet
  | 0, s => (s,[])
  | fuel + 1, s =>
    if s.fifo.length < c.frameSize then (s,[])
    else
      let (next,first) := s.encodeFifoFrame c
      let (last,rest) := State.encodeAvailable fuel next
      (last,first ++ rest)

def State.startTimeline (s : State ρ) (input : Input) : State ρ :=
  if s.timelineStarted then s
  else
    {s with
      nextOutputPtsNs := input.ptsNs - initialPaddingNs c
      outputTrack := input.track
      timelineStarted := true}

def transcode (s : State ρ) (input : Input) : State ρ × List Packet :=
  let s := (s.startTimeline c input).resampleDecoded c r (frameSamplePts c input.ptsNs)
  State.encodeAvailable c s.fifo.length s

def outputs (inputs : List Input) : List Packet :=
  (rounds (transcode c r) (startup ρ) inputs).flatMap (·.effects)

end

end MediaServer.AudioTranscoder
