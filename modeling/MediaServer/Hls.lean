import MediaServer.MediaTypes
import MediaServer.Table
import MediaServer.Transition
import Mathlib.Algebra.Order.Ring.Int

/-! media/hls/hls.cpp and hls_segmenter.cpp. Times are nanoseconds of the steady clock, and
what the TS muxer answers is an input. A segment keeps the frames that were written into it;
frames carry the stream object that published them. A step is one call under the mutex of
the table or of one segmenter. Streams are objects with an id and tracks, both fixed. -/
namespace MediaServer.Hls

def targetDurationSeconds : Float := 2.0
def targetDuration : Int := 2000000000
def segmentWindowSize : Nat := 6
def endedRetention : Int := targetDuration * segmentWindowSize

/- A difference of two std::int64_t. Where it leaves the range, C++ leaves the result open; the
machine's subtraction wraps. -/
def ptsDifference (a b : Int) : Int := (a - b).bmod (2 ^ 64)

def segmentDuration (start : Option Int) (stop : Int) : Float :=
  let duration := match start with
    | some start =>
      if start ≤ stop then Float.ofInt (ptsDifference stop start) / 1000000000.0
      else targetDurationSeconds
    | none => targetDurationSeconds
  if duration ≤ 0.0 then targetDurationSeconds else duration

structure Frame (Stream : Type) where
  stream : Stream
  track : Nat
  pts : Int
  keyFrame : Bool
  deriving DecidableEq, Repr

structure Segment (Stream : Type) where
  sequence : Nat
  duration : Float
  data : List (Frame Stream)
  deriving DecidableEq, Repr

inductive Write where
  | written | noBuffers | failed
  deriving DecidableEq, Repr

/- The muxer during one on_frame: the one opened at a boundary, the write, and the one
opened after a failed write. -/
structure Muxing where
  next : Bool
  write : Write
  again : Bool
  deriving DecidableEq, Repr

structure Segmenter (Stream : Type) where
  tracks : List MediaTrack
  segments : List (Segment Stream)
  current : List (Frame Stream)
  nextSequence : Nat
  segmentStart : Option Int
  segmentMax : Int
  endedAt : Option Int
  waitingForKeyFrame : Bool
  hasVideo : Bool
  source : Option Stream
  origin : Stream
  deriving DecidableEq, Repr

section
variable {Stream : Type}

def supported (track : MediaTrack) : Bool :=
  match track.codec with
  | .opus | .g711a | .g711u => false
  | .h264 | .h265 | .aac => true

def Segmenter.startup (source : Stream) (tracks : List MediaTrack) (muxer : Bool) :
    Option (Segmenter Stream) :=
  let taken := tracks.filter supported
  let video := taken.any fun track => track.kind = .video
  if taken.isEmpty || !muxer then none
  else some ⟨taken,[],[],0,none,0,none,video,video,some source,source⟩

def Segmenter.finishSegment (g : Segmenter Stream) (stop : Int) : Segmenter Stream :=
  if g.current.isEmpty then g
  else
    let segments := g.segments ++ [⟨g.nextSequence,segmentDuration g.segmentStart stop,g.current⟩]
    {g with
      segments := segments.drop (segments.length - segmentWindowSize)
      nextSequence := g.nextSequence + 1
      current := []}

def Segmenter.discardSegment (g : Segmenter Stream) (muxer : Bool) (now : Int) :
    Segmenter Stream :=
  {g with
    endedAt := if muxer then g.endedAt else some now
    current := []
    segmentStart := none
    segmentMax := 0
    waitingForKeyFrame := g.hasVideo}

def Segmenter.begin (g : Segmenter Stream) (pts : Int) : Segmenter Stream :=
  {g with segmentStart := some pts, segmentMax := pts}

def Segmenter.write (g : Segmenter Stream) (frame : Frame Stream) (muxing : Muxing) (now : Int) :
    Segmenter Stream :=
  match muxing.write with
  | .written => {g with current := g.current ++ [frame], segmentMax := max g.segmentMax frame.pts}
  | .noBuffers | .failed => g.discardSegment muxing.again now

def Segmenter.boundary (g : Segmenter Stream) (track : MediaTrack) (frame : Frame Stream)
    (start : Int) : Bool :=
  (!g.hasVideo || track.kind = .video && frame.keyFrame) &&
    targetDuration ≤ ptsDifference frame.pts start && !g.current.isEmpty

def Segmenter.opened (g : Segmenter Stream) (pts : Int) : Segmenter Stream :=
  let g := {g with waitingForKeyFrame := false}
  if g.segmentStart.isSome then g else g.begin pts

def Segmenter.renew (g : Segmenter Stream) (frame : Frame Stream) (muxing : Muxing) (now : Int) :
    Segmenter Stream :=
  let g := g.finishSegment frame.pts
  if muxing.next then (g.begin frame.pts).write frame muxing now else {g with endedAt := some now}

def Segmenter.onTrack (g : Segmenter Stream) (track : MediaTrack) (frame : Frame Stream)
    (muxing : Muxing) (now : Int) : Segmenter Stream :=
  if g.waitingForKeyFrame && !(track.kind = .video && frame.keyFrame) then g
  else
    let g := g.opened frame.pts
    if g.boundary track frame (g.segmentStart.getD frame.pts) then g.renew frame muxing now
    else g.write frame muxing now

def Segmenter.onFrame (g : Segmenter Stream) (frame : Frame Stream) (muxing : Muxing) (now : Int) :
    Segmenter Stream :=
  if g.endedAt.isSome then g
  else
    match g.tracks.find? fun track => track.id = frame.track with
    | some track => g.onTrack track frame muxing now
    | none => g

def Segmenter.finish (g : Segmenter Stream) (now : Int) : Segmenter Stream :=
  if g.endedAt.isSome then g else {g.finishSegment g.segmentMax with endedAt := some now}

def Segmenter.shutdown (now : Int) (g : Segmenter Stream) : Segmenter Stream :=
  {g with source := none}.finish now

def Segmenter.expired (g : Segmenter Stream) (now : Int) : Bool :=
  match g.endedAt with
  | some ended => decide (endedRetention ≤ now - ended)
  | none => false

structure State (Stream Id : Type) where
  created : List Stream
  ended : List Stream
  segmenters : List (Segmenter Stream)
  table : Table Id Nat
  clock : Int

inductive Action (Stream : Type) where
  | createStream (stream : Stream)
  | endStream (stream : Stream)
  | getOrCreate (stream : Stream) (muxer : Bool) (now : Int)
  | removeExpired (now : Int)
  | onFrame (segmenter : Nat) (frame : Frame Stream) (muxing : Muxing) (now : Int)
  | onEnd (segmenter : Nat) (now : Int)
  | shutdown (now : Int)
  deriving DecidableEq, Repr

variable {Id : Type}

def initial (clock : Int) : State Stream Id := ⟨[],[],[],∅,clock⟩

def State.edit (s : State Stream Id) (e : Nat) (f : Segmenter Stream → Segmenter Stream) :
    State Stream Id :=
  {s with segmenters := s.segmenters.modify e f}

def State.clocked (s : State Stream Id) (now : Int) : State Stream Id := {s with clock := now}

def State.removeExpired (s : State Stream Id) (now : Int) : State Stream Id :=
  {s with table := s.table.deleteFunc fun _ e => (s.segmenters[e]?.map (·.expired now)).getD true}

variable [DecidableEq Stream] [DecidableEq Id] (idOf : Stream → Id)
  (tracksOf : Stream → List MediaTrack)

def State.getOrCreate (s : State Stream Id) (stream : Stream) (muxer : Bool) (now : Int) :
    State Stream Id × Option Nat :=
  let s := s.removeExpired now
  match s.table.get (idOf stream) with
  | some e => (s,some e)
  | none =>
    match Segmenter.startup stream (tracksOf stream) muxer with
    | none => (s,none)
    | some g =>
      let e := s.segmenters.length
      ({s with segmenters := s.segmenters ++ [g], table := s.table.set (idOf stream) e},some e)

def State.timed (s : State Stream Id) (now : Int) (t : State Stream Id) : Option (State Stream Id) :=
  if s.clock ≤ now then some (t.clocked now) else none

def State.originOf (s : State Stream Id) (e : Nat) : Option Stream := s.segmenters[e]?.map (·.origin)

def step (s : State Stream Id) : Action Stream → Option (State Stream Id)
  | .createStream stream =>
    if stream ∈ s.created then none else some {s with created := stream :: s.created}
  | .endStream stream =>
    if stream ∈ s.created then some {s with ended := stream :: s.ended} else none
  | .getOrCreate stream muxer now =>
    if stream ∈ s.created then s.timed now (s.getOrCreate idOf tracksOf stream muxer now).1
    else none
  | .removeExpired now => s.timed now (s.removeExpired now)
  | .onFrame e frame muxing now =>
    if s.originOf e = some frame.stream then s.timed now (s.edit e (·.onFrame frame muxing now))
    else none
  | .onEnd e now =>
    if ∃ stream ∈ s.originOf e, stream ∈ s.ended then s.timed now (s.edit e (·.finish now))
    else none
  | .shutdown now =>
    s.timed now
      {s with
        segmenters := s.segmenters.mapIdx fun e g =>
          if e ∈ s.table.entries.map Prod.snd then g.shutdown now else g
        table := ∅}

end

end MediaServer.Hls
