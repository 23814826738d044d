import MediaServer.Bytes

/-! media/core/media_types.h, the description of a stream's tracks. -/
namespace MediaServer
open Bytes

inductive MediaKind where
  | audio | video
  deriving DecidableEq, Repr

inductive CodecId where
  | h264 | h265 | aac | opus | g711a | g711u
  deriving DecidableEq, Repr

structure MediaTrack where
  id : Nat
  kind : MediaKind
  codec : CodecId
  clockRate : Nat
  channelCount : Nat
  codecConfig : Bytes
  deriving DecidableEq, Repr

structure MediaFrame where
  track : Nat
  dtsNs : Int
  ptsNs : Int
  keyFrame : Bool
  payload : Bytes
  deriving DecidableEq, Repr

def millisecondsToNs (value : Int) : Int := value * 1000000

def MediaTrack.agrees (fixed track : MediaTrack) : Bool :=
  fixed.codec = track.codec && fixed.clockRate = track.clockRate &&
    fixed.channelCount = track.channelCount && fixed.codecConfig = track.codecConfig

def settable (tracks : List MediaTrack) : Bool :=
  !tracks.isEmpty && tracks.all (fun track => track.id ≠ 0) && decide (tracks.map (·.id)).Nodup

/- The parameter sets of sdp_h264_test, as a configuration record and in Annex B. -/
def avcSps : Bytes :=
  [103,100,0,31,172,217,64,80,5,186,106,2,26,2,128,0,0,3,0,128,0,0,30,71,140,24,203]
def avcPps : Bytes := [104,239,188,176]
def avcRecord : Bytes := [1,100,0,31,255,225,0,27] ++ avcSps ++ [1,0,4] ++ avcPps
def avcAnnexB : Bytes := [0,0,0,1] ++ avcSps ++ [0,0,0,1] ++ avcPps
def avcTrack : MediaTrack := ⟨1,.video,.h264,90000,0,avcAnnexB⟩

end MediaServer
