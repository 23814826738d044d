import MediaServer.Controller
import MediaServer.Hls

/-! media/hls/hls_segmenter.cpp with the bytes it keeps. The TS muxer is a parameter: it is created
with the tracks and turns a packet into blocks that it hands to ts_write one after the other. When it
cannot be created and when a write fails for a reason of its own is an input. A step is one call under
the mutex. -/
namespace MediaServer.HlsSegmenter
open Bytes Controller

def maxSegmentBytes : Nat := 16 * 1024 * 1024

structure Segment where
  sequence : Nat
  duration : Float
  data : Bytes
  deriving DecidableEq, Repr

structure TsPacket where
  track : Nat
  flags : Nat
  pts : Int
  dts : Int
  payload : Bytes
  deriving DecidableEq, Repr

structure TsMuxer (μ : Type) where
  create : List MediaTrack → μ
  write : μ → TsPacket → List Bytes × μ

/- What goes wrong in the library during one on_frame: the muxer at a boundary, the write after so
many blocks, the muxer after a discarded segment. -/
structure Faults where
  next : Bool
  write : Option Nat
  again : Bool
  deriving DecidableEq, Repr

structure Segmenter (μ : Type) where
  tracks : List MediaTrack
  segments : List Segment
  currentSegment : Bytes
  muxer : Option μ
  nextSequence : Nat
  segmentStartPtsNs : Option Int
  segmentMaxPtsNs : Int
  endedAt : Option Int
  waitingForKeyFrame : Bool
  hasVideo : Bool

inductive Effect where
  | wrote (size : Nat)
  | published (segment : Segment)
  | discarded
  deriving DecidableEq, Repr

inductive Event where
  | onFrame (frame : MediaFrame) (faults : Faults) (now : Int)
  | finish (now : Int)
  deriving DecidableEq, Repr

def nsTo90khz (value : Int) : Int :=
  value.tdiv 1000000000 * 90000 + (value.tmod 1000000000 * 90000).tdiv 1000000000

def packet (frame : MediaFrame) : TsPacket :=
  ⟨frame.track,if frame.keyFrame then 1 else 0,nsTo90khz frame.ptsNs,nsTo90khz frame.dtsNs,
    frame.payload⟩

def tsWrite (current block : Bytes) : Option Bytes :=
  if maxSegmentBytes - current.length < block.length then none else some (current ++ block)

def tsWrites (current : Bytes) : List Bytes → Bytes × List Effect × Bool
  | [] => (current,[],true)
  | block :: rest =>
    match tsWrite current block with
    | none => (current,[],false)
    | some current =>
      let (last,effects,ok) := tsWrites current rest
      (last,.wrote current.length :: effects,ok)

section
variable {μ : Type}

def Segmenter.duration (g : Segmenter μ) (endPtsNs : Int) : Float :=
  Hls.segmentDuration g.segmentStartPtsNs endPtsNs

def Segmenter.finishSegment (g : Segmenter μ) (endPtsNs : Int) : Segmenter μ × List Effect :=
  if g.currentSegment.isEmpty then (g,[])
  else
    let segment : Segment := ⟨g.nextSequence,g.duration endPtsNs,g.currentSegment⟩
    let segments := g.segments ++ [segment]
    ({g with
      segments := segments.drop (segments.length - Hls.segmentWindowSize)
      nextSequence := g.nextSequence + 1
      currentSegment := []},[.published segment])

variable (muxer : TsMuxer μ)

def Segmenter.discardSegment (g : Segmenter μ) (again : Bool) (now : Int) :
    Segmenter μ × List Effect :=
  ({g with
    muxer := if again then some (muxer.create g.tracks) else none
    endedAt := if again then g.endedAt else some now
    currentSegment := []
    segmentStartPtsNs := none
    segmentMaxPtsNs := 0
    waitingForKeyFrame := g.hasVideo},[.discarded])

def Segmenter.begin (g : Segmenter μ) (ptsNs : Int) : Segmenter μ :=
  {g with segmentStartPtsNs := some ptsNs, segmentMaxPtsNs := ptsNs}

def Faults.blocks (faults : Faults) (blocks : List Bytes) : List Bytes :=
  match faults.write with
  | none => blocks
  | some count => blocks.take count

def Segmenter.write (g : Segmenter μ) (frame : MediaFrame) (faults : Faults) (now : Int) :
    Segmenter μ × List Effect :=
  match g.muxer with
  | none => (g,[])
  | some m =>
    let (blocks,m) := muxer.write m (packet frame)
    let (current,wrote,ok) := tsWrites g.currentSegment (faults.blocks blocks)
    let g := {g with muxer := some m, currentSegment := current}
    if ok && faults.write.isNone then
      ({g with segmentMaxPtsNs := max g.segmentMaxPtsNs frame.ptsNs},wrote)
    else
      let (g,discarded) := g.discardSegment muxer faults.again now
      (g,wrote ++ discarded)

def Segmenter.boundary (g : Segmenter μ) (track : MediaTrack) (frame : MediaFrame) (start : Int) :
    Bool :=
  (!g.hasVideo || track.kind = .video && frame.keyFrame) &&
    Hls.targetDuration ≤ Hls.ptsDifference frame.ptsNs start && !g.currentSegment.isEmpty

def Segmenter.opened (g : Segmenter μ) (ptsNs : Int) : Segmenter μ :=
  let g := {g with waitingForKeyFrame := false}
  if g.segmentStartPtsNs.isSome then g else g.begin ptsNs

def Segmenter.renew (g : Segmenter μ) (frame : MediaFrame) (faults : Faults) (now : Int) :
    Segmenter μ × List Effect :=
  let (g,published) := g.finishSegment frame.ptsNs
  if faults.next then
    let g := {g with muxer := some (muxer.create g.tracks)}
    let (g,effects) := (g.begin frame.ptsNs).write muxer frame faults now
    (g,published ++ effects)
  else ({g with muxer := none, endedAt := some now},published)

def Segmenter.onTrack (g : Segmenter μ) (track : MediaTrack) (frame : MediaFrame) (faults : Faults)
    (now : Int) : Segmenter μ × List Effect :=
  if g.waitingForKeyFrame && !(track.kind = .video && frame.keyFrame) then (g,[])
  else
    let g := g.opened frame.ptsNs
    if g.boundary track frame (g.segmentStartPtsNs.getD frame.ptsNs) then g.renew muxer frame faults now
    else g.write muxer frame faults now

def Segmenter.onFrame (g : Segmenter μ) (frame : MediaFrame) (faults : Faults) (now : Int) :
    Segmenter μ × List Effect :=
  if g.endedAt.isSome then (g,[])
  else
    match g.tracks.find? fun track => track.id = frame.track with
    | some track => g.onTrack muxer track frame faults now
    | none => (g,[])

def Segmenter.finish (g : Segmenter μ) (now : Int) : Segmenter μ × List Effect :=
  if g.endedAt.isSome then (g,[])
  else
    let (g,effects) := g.finishSegment g.segmentMaxPtsNs
    ({g with muxer := none, endedAt := some now},effects)

def step (g : Segmenter μ) : Event → Segmenter μ × List Effect
  | .onFrame frame faults now => g.onFrame muxer frame faults now
  | .finish now => g.finish now

def startup (tracks : List MediaTrack) (created : Bool) : Option (Segmenter μ) :=
  let taken := tracks.filter Hls.supported
  let video := taken.any fun track => track.kind = .video
  if taken.isEmpty || !created then none
  else some ⟨taken,[],[],some (muxer.create taken),0,none,0,none,video,video⟩

end

inductive PlaylistLine where
  | extM3u
  | version (number : Nat)
  | targetDuration (seconds : Option Int)
  | mediaSequence (sequence : Nat)
  | extInf (duration : Float)
  | uri (sequence : Nat)
  | endList
  deriving DecidableEq, Repr

def ceil (x : Float) : Option Int :=
  match x.toModel.unpack with
  | .zero _ => some 0
  | .finite sign mantissa exponent _ =>
    some (-(sign.apply (-(mantissa * 2 ^ exponent.toNat)) / 2 ^ (-exponent).toNat))
  | .infinity _ | .notANumber => none

def int32 (n : Int) : Option Int := if -2 ^ 31 ≤ n ∧ n < 2 ^ 31 then some n else none

section
variable {μ : Type}

def Segmenter.maximumDuration (g : Segmenter μ) : Float :=
  g.segments.foldl (fun longest item => if longest < item.duration then item.duration else longest)
    Hls.targetDurationSeconds

/- The number of EXT-X-TARGETDURATION; none where C++ leaves the conversion to int open. -/
def Segmenter.targetDuration (g : Segmenter μ) : Option Int :=
  ((ceil g.maximumDuration).bind int32).map (max 1)

def Segmenter.playlist (g : Segmenter μ) : List PlaylistLine :=
  [.extM3u,.version 3,.targetDuration g.targetDuration,
    .mediaSequence ((g.segments.head?.map Segment.sequence).getD g.nextSequence)] ++
  g.segments.flatMap (fun item => [.extInf item.duration,.uri item.sequence]) ++
  if g.endedAt.isSome then [.endList] else []

def Segmenter.segmentBuffer (g : Segmenter μ) (sequence : Nat) : Option Bytes :=
  (g.segments.find? fun item => item.sequence = sequence).map Segment.data

end

end MediaServer.HlsSegmenter
