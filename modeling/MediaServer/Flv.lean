import MediaServer.Bytes

/-! media/flv/flv_tag_output.cpp, on_packet, with the two players that take its tags:
media/rtmp/rtmp_play_session.cpp and media/http/http_flv_session.cpp. Whether a tag is a
sequence header is the flv library's reading of its first bytes, so it is a parameter; the
muxer hands over audio and video tags only. -/
namespace MediaServer.Flv
open Bytes

inductive TagType where
  | audio | video
  deriving DecidableEq, Repr

structure Headers where
  video : Option Bytes
  audio : Option Bytes
  deriving DecidableEq, Repr

structure Packet where
  type : TagType
  data : Bytes
  timestamp : Nat
  keyFrame : Bool
  hasVideo : Bool
  deriving DecidableEq, Repr

structure Tag where
  type : TagType
  keyFrame : Bool
  data : Bytes
  timestamp : Nat
  headers : Headers
  deriving DecidableEq, Repr

structure Out where
  type : TagType
  data : Bytes
  timestamp : Nat
  deriving DecidableEq, Repr

def Headers.none : Headers := ⟨Option.none,Option.none⟩

def Headers.get (headers : Headers) : TagType → Option Bytes
  | .video => headers.video
  | .audio => headers.audio

def Headers.put (headers : Headers) (data : Bytes) : TagType → Headers
  | .video => {headers with video := some data}
  | .audio => {headers with audio := some data}

section
variable (sequenceHeader : TagType → Bytes → Bool)

def Packet.header (p : Packet) : Bool := sequenceHeader p.type p.data

def Packet.starts (p : Packet) : Bool :=
  !p.header sequenceHeader && (match p.type with | .video => p.keyFrame | .audio => !p.hasVideo)

def Headers.note (headers : Headers) (p : Packet) : Headers :=
  if p.header sequenceHeader then headers.put p.data p.type else headers

def onPacket (headers : Headers) (p : Packet) : Headers × Tag :=
  let headers := headers.note sequenceHeader p
  (headers,⟨p.type,p.starts sequenceHeader,p.data,p.timestamp,headers⟩)

def publish (headers : Headers) : List Packet → List Tag
  | [] => []
  | p :: rest => (onPacket sequenceHeader headers p).2 :: publish (onPacket sequenceHeader headers p).1 rest

end

def Packet.out (p : Packet) : Out := ⟨p.type,p.data,p.timestamp⟩
def Tag.out (tag : Tag) : Out := ⟨tag.type,tag.data,tag.timestamp⟩

def Headers.outs (headers : Headers) (timestamp : Nat) : List Out :=
  (headers.video.map fun data => ⟨.video,data,timestamp⟩).toList ++
    (headers.audio.map fun data => ⟨.audio,data,timestamp⟩).toList

def offer (accept : Out → Bool) : List Out → List Out × Bool
  | [] => ([],true)
  | out :: rest =>
    if accept out then (out :: (offer accept rest).1,(offer accept rest).2) else ([],false)

structure RtmpPlaySession where
  stream : Bool
  started : Bool
  closing : Bool
  taken : List Out
  deriving DecidableEq, Repr

def RtmpPlaySession.joined : RtmpPlaySession := ⟨true,false,false,[]⟩

def RtmpPlaySession.send (accept : Out → Bool) (s : RtmpPlaySession) (outs : List Out) :
    RtmpPlaySession × Bool :=
  let (taken,ok) := offer accept outs
  ({s with taken := s.taken ++ taken, closing := s.closing || !ok},ok)

def RtmpPlaySession.onFlvTag (accept : Out → Bool) (s : RtmpPlaySession) (tag : Tag) :
    RtmpPlaySession :=
  if !s.stream then s
  else if s.started then (s.send accept [tag.out]).1
  else if !tag.keyFrame then s
  else
    let (s,ok) := {s with started := true}.send accept (tag.headers.outs tag.timestamp)
    if ok then (s.send accept [tag.out]).1 else s

structure HttpFlvSession where
  output : Bool
  started : Bool
  closing : Bool
  outputBuffer : List Out
  outputQueue : List (List Out)
  deriving DecidableEq, Repr

def HttpFlvSession.joined : HttpFlvSession := ⟨true,false,false,[],[]⟩

def HttpFlvSession.input (accept : Out → Bool) (s : HttpFlvSession) (outs : List Out) :
    HttpFlvSession × Bool :=
  let (written,ok) := offer accept outs
  ({s with outputBuffer := s.outputBuffer ++ written, closing := s.closing || !ok},ok)

def HttpFlvSession.enqueue (room : List (List Out) → List Out → Bool) (s : HttpFlvSession) :
    HttpFlvSession :=
  if s.outputBuffer.isEmpty then s
  else if room s.outputQueue s.outputBuffer then
    {s with outputQueue := s.outputQueue ++ [s.outputBuffer], outputBuffer := []}
  else {s with outputBuffer := [], closing := true}

def HttpFlvSession.write (accept : Out → Bool) (room : List (List Out) → List Out → Bool)
    (s : HttpFlvSession) (tag : Tag) : HttpFlvSession :=
  let (s,ok) := s.input accept [tag.out]
  if ok then s.enqueue room else s

def HttpFlvSession.onFlvTag (accept : Out → Bool) (room : List (List Out) → List Out → Bool)
    (s : HttpFlvSession) (tag : Tag) : HttpFlvSession :=
  if !s.output then s
  else
    let s := {s with outputBuffer := []}
    if s.started then s.write accept room tag
    else if !tag.keyFrame then s
    else
      let (s,ok) := {s with started := true}.input accept (tag.headers.outs tag.timestamp)
      if ok then s.write accept room tag else s

end MediaServer.Flv
