import Mathlib.Algebra.Order.Ring.Int
import MediaServer.StreamCalls

/-! media/rtmp/rtmp_publish_session.cpp with media/rtmp/rtmp_timestamp.h, from the script text
and the demuxed packets on. The AMF and codec configuration readers are parameters, and an
event brings the registry's answer along: whether no other stream has the id. The effects are
the calls the session makes on its stream and on the registry. -/
namespace MediaServer.RtmpPublish
open Bytes Handler

inductive FlvCodec where
  | avcc | hvcc | asc | opusHead | h264 | h265 | aac | opus | g711a | g711u | other
  deriving DecidableEq, Repr

def FlvCodec.audio : FlvCodec → Bool
  | .aac | .opus | .g711a | .g711u => true
  | _ => false

def FlvCodec.g711 (codec : FlvCodec) : Bool := codec = .g711a || codec = .g711u

def videoTrackId : Nat := 1
def audioTrackId : Nat := 2
def audioWaitMs : Int := 500

def FlvCodec.raw : FlvCodec → Option (Nat × CodecId)
  | .h264 => some (videoTrackId,.h264)
  | .h265 => some (videoTrackId,.h265)
  | .aac => some (audioTrackId,.aac)
  | .opus => some (audioTrackId,.opus)
  | .g711a => some (audioTrackId,.g711a)
  | .g711u => some (audioTrackId,.g711u)
  | _ => none

structure Readers where
  amfReadString : Bytes → Option (String × Bytes)
  audioCodecId : Bytes → Option Bool
  h264AvccToAnnexB : Bytes → Bytes
  h265HvccToAnnexB : Bytes → Bytes
  parseAacAsc : Bytes → Option (Nat × Nat)
  opusHeadChannels : Bytes → Option Nat

structure RtmpTimestampState where
  last : UInt32
  milliseconds : Int
  started : Bool
  deriving DecidableEq, Repr

def rtmpTimestampDelta (current previous : UInt32) : Int :=
  let delta := (current - previous).toNat
  if delta < 2 ^ 31 then delta else delta - 2 ^ 32

def unwrapRtmpTimestamp (timestamp : UInt32) (state : RtmpTimestampState) : RtmpTimestampState :=
  if !state.started then ⟨timestamp,timestamp.toNat,true⟩
  else ⟨timestamp,state.milliseconds + rtmpTimestampDelta timestamp state.last,true⟩

structure Session where
  tracks : List MediaTrack
  timestamp : RtmpTimestampState
  initialVideoTrack : Option MediaTrack
  initialAudioTrack : Option MediaTrack
  expectedAudio : Option Bool
  firstVideoDts : Option UInt32
  deriving DecidableEq, Repr

def Session.start : Session := ⟨[],⟨0,0,false⟩,none,none,none,none⟩

inductive Event where
  | script (data : Bytes) (vacant : Bool)
  | demux (codec : FlvCodec) (data : Bytes) (pts dts : UInt32) (flags : Int) (vacant : Bool)
  deriving DecidableEq, Repr

def Session.fixed (s : Session) (id : Nat) : Option MediaTrack := s.tracks.find? (·.id = id)

def Session.ready (s : Session) : Option (List MediaTrack) :=
  match s.expectedAudio, s.initialVideoTrack, s.initialAudioTrack with
  | some false, some video, _ => some [video]
  | some true, some video, some audio => some [video,audio]
  | _, _, _ => none

def registerStreamIfReady (vacant : Bool) (s : Session) : Turn Session StreamEffect :=
  if !s.tracks.isEmpty then .done s
  else match s.ready with
  | none => .done s
  | some tracks =>
    if !settable tracks then ⟨s,[.setTracks tracks],false⟩
    else if !vacant then ⟨{s with tracks := tracks},[.setTracks tracks,.add false],false⟩
    else ⟨{s with tracks := tracks, initialVideoTrack := none, initialAudioTrack := none},
      [.setTracks tracks,.add true],true⟩

section
variable (readers : Readers)

def onScript (s : Session) (data : Bytes) (vacant : Bool) : Turn Session StreamEffect :=
  match data with
  | [] => .done s
  | first :: rest =>
    if first ≠ 2 then .done s
    else match readers.amfReadString rest with
    | none => .fail s
    | some (name,values) =>
      if name ≠ "onMetaData" then .done s
      else match readers.audioCodecId values with
      | none => .fail s
      | some audio =>
        if s.expectedAudio = some !audio || (s.initialAudioTrack.isSome && !audio) then .fail s
        else registerStreamIfReady vacant {s with expectedAudio := some audio}

def videoConfig (codec : FlvCodec) (data : Bytes) : Option MediaTrack :=
  let config := if codec = .avcc then readers.h264AvccToAnnexB data else readers.h265HvccToAnnexB data
  if config.isEmpty then none
  else some ⟨videoTrackId,.video,if codec = .avcc then .h264 else .h265,90000,0,config⟩

def audioConfig (codec : FlvCodec) (data : Bytes) : Option MediaTrack :=
  if codec = .asc then
    (readers.parseAacAsc data).map fun (rate,channels) =>
      ⟨audioTrackId,.audio,.aac,rate,channels,data⟩
  else match readers.opusHeadChannels data with
  | none => none
  | some channels =>
    if channels ≠ 1 && channels ≠ 2 then none
    else some ⟨audioTrackId,.audio,.opus,48000,channels,[]⟩

def compareFixed (s : Session) (track : MediaTrack) : Turn Session StreamEffect :=
  match s.fixed track.id with
  | none => .fail s
  | some fixed => if fixed.agrees track then .done s else .fail s

def handleVideoConfig (s : Session) (codec : FlvCodec) (data : Bytes) (vacant : Bool) :
    Turn Session StreamEffect :=
  match videoConfig readers codec data with
  | none => .fail s
  | some track =>
    if s.tracks.isEmpty then
      if s.initialVideoTrack.any (·.codec ≠ track.codec) then .fail s
      else registerStreamIfReady vacant {s with initialVideoTrack := some track}
    else compareFixed s track

def handleAudioConfig (s : Session) (codec : FlvCodec) (data : Bytes) (vacant : Bool) :
    Turn Session StreamEffect :=
  if s.expectedAudio = some false then .fail s
  else match audioConfig readers codec data with
  | none => .fail s
  | some track =>
    if s.tracks.isEmpty then
      if s.initialAudioTrack.any (·.codec ≠ track.codec) then .fail s
      else registerStreamIfReady vacant {s with initialAudioTrack := some track}
    else compareFixed s track

def g711Track (codec : FlvCodec) : MediaTrack :=
  ⟨audioTrackId,.audio,if codec = .g711a then .g711a else .g711u,8000,1,[]⟩

def initializeG711Track (s : Session) (codec : FlvCodec) (vacant : Bool) : Turn Session StreamEffect :=
  if s.expectedAudio = some false then .fail s
  else match s.initialAudioTrack with
  | some initial => if initial.codec ≠ (g711Track codec).codec then .fail s else .done s
  | none => registerStreamIfReady vacant {s with initialAudioTrack := some (g711Track codec)}

def publishMedia (s : Session) (codec : FlvCodec) (data : Bytes) (pts dts : UInt32) (flags : Int) :
    Turn Session StreamEffect :=
  match codec.raw with
  | none => .fail s
  | some (id,incoming) =>
    if s.tracks.isEmpty then
      let pending := if id = videoTrackId then s.initialVideoTrack else s.initialAudioTrack
      if pending.any (·.codec ≠ incoming) then .fail s else .done s
    else if (s.fixed id).all (·.codec ≠ incoming) then .fail s
    else
      let timestamp := unwrapRtmpTimestamp dts s.timestamp
      let ptsMs := timestamp.milliseconds + rtmpTimestampDelta pts dts
      ⟨{s with timestamp := timestamp},
        [.publish ⟨id,millisecondsToNs timestamp.milliseconds,millisecondsToNs ptsMs,
          (codec = .h264 || codec = .h265) && flags ≠ 0,data⟩],true⟩

def inferTracks (s : Session) (codec : FlvCodec) (dts : UInt32) : Session :=
  if codec.audio && s.initialAudioTrack.isSome then {s with expectedAudio := some true}
  else if !codec.audio && s.initialVideoTrack.isSome then
    let first := s.firstVideoDts.getD dts
    {s with
      firstVideoDts := some first
      expectedAudio := if audioWaitMs ≤ rtmpTimestampDelta dts first then some false
        else s.expectedAudio}
  else s

def inferTracksWithoutMetadata (s : Session) (codec : FlvCodec) (dts : UInt32) (vacant : Bool) :
    Turn Session StreamEffect :=
  let s := inferTracks s codec dts
  if s.expectedAudio.isSome then registerStreamIfReady vacant s else .done s

def onRawFrame (s : Session) (codec : FlvCodec) (data : Bytes) (pts dts : UInt32) (flags : Int)
    (vacant : Bool) : Turn Session StreamEffect :=
  (if codec.g711 && s.tracks.isEmpty then initializeG711Track s codec vacant
    else .done s).andThen fun s =>
  (if s.tracks.isEmpty && s.expectedAudio.isNone then
      inferTracksWithoutMetadata s codec dts vacant
    else .done s).andThen fun s =>
  publishMedia s codec data pts dts flags

def onFlvDemux (s : Session) (codec : FlvCodec) (data : Bytes) (pts dts : UInt32) (flags : Int)
    (vacant : Bool) : Turn Session StreamEffect :=
  match codec with
  | .avcc | .hvcc => handleVideoConfig readers s codec data vacant
  | .asc | .opusHead => handleAudioConfig readers s codec data vacant
  | _ => onRawFrame s codec data pts dts flags vacant

def handle (s : Session) : Event → Turn Session StreamEffect
  | .script data vacant => onScript readers s data vacant
  | .demux codec data pts dts flags vacant => onFlvDemux readers s codec data pts dts flags vacant

def session (events : List Event) : List (Call Session Event StreamEffect) :=
  calls (handle readers) .start events

end
end MediaServer.RtmpPublish
