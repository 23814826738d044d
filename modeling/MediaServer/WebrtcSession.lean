import MediaServer.Controller
import MediaServer.StunMessage

/-! The packet side of WHEP and WHIP sessions: demultiplexing, the STUN exchange that
nominates the remote endpoint, and where DTLS, RTP and RTCP go. DTLS, SRTP and the media
receiver are parameters; a timer may fire and a posted shutdown may run at any time. -/
namespace MediaServer.Webrtc
open Bytes Stun

variable {δ ς ρ : Type}

inductive DtlsRole where
  | client | server
  deriving DecidableEq, Repr

/- DTLS keeps a state of type δ and hands out datagrams while it works, SRTP keeps ς and
the media receiver ρ. -/
structure Engines (δ ς ρ : Type) where
  startup : DtlsRole → δ × List Bytes × Bool
  connected : δ → Bool
  handleDatagram : δ → Bytes → δ × List Bytes × Bool
  handleTimeout : δ → δ × List Bytes × Bool
  startSrtp : δ → Option ς
  protectRtp : ς → Bytes → ς × Option Bytes
  protectRtcp : ς → Bytes → ς × Option Bytes
  unprotectRtp : ς → Bytes → ς × Option Bytes
  unprotectRtcp : ς → Bytes → ς × Option Bytes
  inputRtp : ρ → Bytes → ρ × Bool
  inputRtcp : ρ → Bytes → ρ × Bool

inductive Kind where
  | stun | dtls | rtp | rtcp
  deriving DecidableEq, Repr

inductive Effect where
  | toDtls (endpoint : Endpoint) (packet : Bytes)
  | toSrtp (endpoint : Endpoint) (packet : Bytes)
  | sent (kind : Kind) (endpoint : Endpoint) (packet : Bytes)
  | refreshIceActivity
  | postShutdown
  deriving DecidableEq, Repr

def isDtlsPacket (packet : Bytes) : Bool :=
  decide (packet.length ≥ 13) && decide (packet.getD 0 0 ≥ 20) && decide (packet.getD 0 0 ≤ 63)

def isRtpOrRtcp (packet : Bytes) : Bool :=
  decide (packet.length ≥ 2) && packet.getD 0 0 &&& 0xc0 == 0x80

def isRtcp (packet : Bytes) : Bool :=
  decide (packet.length ≥ 2) && decide (packet.getD 1 0 ≥ 192) && decide (packet.getD 1 0 ≤ 223)

structure Peer (δ ς : Type) where
  localPort : UInt16
  iceUfrag : Bytes
  icePwd : Bytes
  remoteIceUfrag : Bytes
  remoteEndpoint : Option Endpoint
  dtls : Option δ
  srtp : Option ς

namespace Peer

def username (p : Peer δ ς) : Bytes := p.iceUfrag ++ [58] ++ p.remoteIceUfrag

def sendUdpTo (p : Peer δ ς) (kind : Kind) (packet : Bytes) (endpoint : Endpoint) :
    List Effect :=
  if p.localPort = 0 || packet.isEmpty then [] else [.sent kind endpoint packet]

def sendUdp (p : Peer δ ς) (kind : Kind) (packet : Bytes) : List Effect :=
  match p.remoteEndpoint with
  | none => []
  | some endpoint => p.sendUdpTo kind packet endpoint

def handleStun (hashes : Hashes) (p : Peer δ ς) (packet : Bytes) (endpoint : Endpoint) :
    Peer δ ς × List Effect :=
  match parseStunBindingRequest hashes packet p.username p.icePwd with
  | none => (p,[])
  | some request =>
    if !request.unknownRequiredAttributes.isEmpty then
      (p,p.sendUdpTo .stun (makeStunBindingErrorResponse hashes request 420
        unknownAttributeReason request.unknownRequiredAttributes p.icePwd) endpoint)
    else if !request.priority then (p,[])
    else if request.iceControlled then
      (p,p.sendUdpTo .stun (makeStunBindingErrorResponse hashes request 487
        roleConflictReason [] p.icePwd) endpoint)
    else if !request.iceControlling then (p,[])
    else
      let response := makeStunBindingSuccessResponse hashes request endpoint p.icePwd
      if response.isEmpty then (p,[])
      else if request.useCandidate then
        ({p with remoteEndpoint := some endpoint},
          .refreshIceActivity :: p.sendUdpTo .stun response endpoint)
      else if p.remoteEndpoint = some endpoint then
        (p,.refreshIceActivity :: p.sendUdpTo .stun response endpoint)
      else (p,p.sendUdpTo .stun response endpoint)

def handleDtls (engines : Engines δ ς ρ) (p : Peer δ ς) (packet : Bytes) :
    Peer δ ς × List Effect :=
  match p.dtls with
  | none => (p,[])
  | some before =>
    let (dtls,output,ok) := engines.handleDatagram before packet
    let next := {p with dtls := some dtls}
    let sends := output.flatMap (p.sendUdp .dtls)
    if !ok then (next,sends ++ [.postShutdown])
    else if !engines.connected before && engines.connected dtls then
      match engines.startSrtp dtls with
      | none => (next,sends ++ [.postShutdown])
      | some srtp => ({next with srtp := some srtp},sends)
    else (next,sends)

def handleDtlsTimeout (engines : Engines δ ς ρ) (p : Peer δ ς) : Peer δ ς × List Effect :=
  match p.dtls with
  | none => (p,[])
  | some before =>
    if engines.connected before then (p,[])
    else
      let (dtls,output,ok) := engines.handleTimeout before
      let sends := output.flatMap (p.sendUdp .dtls)
      ({p with dtls := some dtls},if ok then sends else sends ++ [.postShutdown])

def close (p : Peer δ ς) : Peer δ ς :=
  {p with dtls := none, remoteEndpoint := none, remoteIceUfrag := [], srtp := none, localPort := 0}

end Peer

structure WhepSession (δ ς : Type) where
  peer : Peer δ ς
  stream : Bool
  waitingVideoTrack : Option Nat

inductive Plain where
  | rtp (packet : Bytes)
  | rtcp (packet : Bytes)
  deriving DecidableEq, Repr

inductive WhepEvent where
  | datagram (packet : Bytes) (endpoint : Endpoint)
  | frame (track : Nat) (keyFrame : Bool) (packets : List Plain) (ok : Bool)
  | dtlsTimeout
  | shutdown
  deriving DecidableEq, Repr

namespace WhepSession

def handlePacket (engines : Engines δ ς ρ) (hashes : Hashes) (s : WhepSession δ ς)
    (packet : Bytes) (endpoint : Endpoint) : WhepSession δ ς × List Effect :=
  if s.peer.localPort = 0 || packet.isEmpty then (s,[])
  else if isStunMessage packet then
    let (peer,effects) := s.peer.handleStun hashes packet endpoint
    ({s with peer},effects)
  else if s.peer.remoteEndpoint ≠ some endpoint then (s,[])
  else if isDtlsPacket packet then
    let (peer,effects) := s.peer.handleDtls engines packet
    ({s with peer},.toDtls endpoint packet :: effects)
  else (s,[])

def sendRtp (engines : Engines δ ς ρ) (p : Peer δ ς) (srtp : ς) (packet : Bytes) :
    ς × List Effect :=
  let (srtp,protectedPacket) := engines.protectRtp srtp packet
  (srtp,(protectedPacket.map (p.sendUdp .rtp)).getD [])

def sendRtcp (engines : Engines δ ς ρ) (p : Peer δ ς) (srtp : ς) (packet : Bytes) :
    ς × List Effect :=
  let (srtp,protectedPacket) := engines.protectRtcp srtp packet
  (srtp,(protectedPacket.map (p.sendUdp .rtcp)).getD [])

def sendPackets (engines : Engines δ ς ρ) (p : Peer δ ς) : ς → List Plain → ς × List Effect
  | srtp, [] => (srtp,[])
  | srtp, packet :: rest =>
    let (srtp,first) := match packet with
      | .rtp packet => sendRtp engines p srtp packet
      | .rtcp packet => sendRtcp engines p srtp packet
    let (srtp,later) := sendPackets engines p srtp rest
    (srtp,first ++ later)

def skips (s : WhepSession δ ς) (track : Nat) (keyFrame : Bool) : Bool :=
  match s.waitingVideoTrack with
  | none => false
  | some waiting => track != waiting || !keyFrame

def onFrame (engines : Engines δ ς ρ) (s : WhepSession δ ς) (track : Nat) (keyFrame : Bool)
    (packets : List Plain) (ok : Bool) : WhepSession δ ς × List Effect :=
  match s.peer.srtp with
  | none => (s,[])
  | some srtp =>
    if s.skips track keyFrame then (s,[])
    else
      let (srtp,effects) := sendPackets engines s.peer srtp packets
      ({s with peer := {s.peer with srtp := some srtp}, waitingVideoTrack := none},
        if ok then effects else effects ++ [.postShutdown])

def safeShutdown (s : WhepSession δ ς) : WhepSession δ ς :=
  if !s.stream then s else ⟨s.peer.close,false,none⟩

def handle (engines : Engines δ ς ρ) (hashes : Hashes) (s : WhepSession δ ς) :
    WhepEvent → WhepSession δ ς × List Effect
  | .datagram packet endpoint => s.handlePacket engines hashes packet endpoint
  | .frame track keyFrame packets ok => s.onFrame engines track keyFrame packets ok
  | .dtlsTimeout =>
    let (peer,effects) := s.peer.handleDtlsTimeout engines
    ({s with peer},effects)
  | .shutdown => (s.safeShutdown,[])

end WhepSession

structure WhipSession (δ ς ρ : Type) where
  peer : Peer δ ς
  mediaReceiver : Option ρ

inductive WhipEvent where
  | datagram (packet : Bytes) (endpoint : Endpoint)
  | dtlsTimeout
  | shutdown
  deriving DecidableEq, Repr

namespace WhipSession

def handleSrtp (engines : Engines δ ς ρ) (s : WhipSession δ ς ρ) (packet : Bytes) :
    WhipSession δ ς ρ × List Effect :=
  match s.peer.srtp, s.mediaReceiver with
  | some srtp, some receiver =>
    let rtcp := isRtcp packet
    let (srtp,clear) := if rtcp then engines.unprotectRtcp srtp packet
      else engines.unprotectRtp srtp packet
    let next := {s with peer := {s.peer with srtp := some srtp}}
    match clear with
    | none => (next,[])
    | some clear =>
      let (receiver,accepted) := if rtcp then engines.inputRtcp receiver clear
        else engines.inputRtp receiver clear
      ({next with mediaReceiver := some receiver},if accepted then [] else [.postShutdown])
  | _, _ => (s,[])

def handlePacket (engines : Engines δ ς ρ) (hashes : Hashes) (s : WhipSession δ ς ρ)
    (packet : Bytes) (endpoint : Endpoint) : WhipSession δ ς ρ × List Effect :=
  if s.peer.localPort = 0 || packet.isEmpty then (s,[])
  else if isStunMessage packet then
    let (peer,effects) := s.peer.handleStun hashes packet endpoint
    ({s with peer},effects)
  else if s.peer.remoteEndpoint ≠ some endpoint then (s,[])
  else if isDtlsPacket packet then
    let (peer,effects) := s.peer.handleDtls engines packet
    ({s with peer},.toDtls endpoint packet :: effects)
  else if isRtpOrRtcp packet then
    let (s,effects) := s.handleSrtp engines packet
    (s,.toSrtp endpoint packet :: effects)
  else (s,[])

def safeShutdown (s : WhipSession δ ς ρ) : WhipSession δ ς ρ := ⟨s.peer.close,none⟩

def handle (engines : Engines δ ς ρ) (hashes : Hashes) (s : WhipSession δ ς ρ) :
    WhipEvent → WhipSession δ ς ρ × List Effect
  | .datagram packet endpoint => s.handlePacket engines hashes packet endpoint
  | .dtlsTimeout =>
    if s.peer.localPort = 0 then (s,[])
    else
      let (peer,effects) := s.peer.handleDtlsTimeout engines
      ({s with peer},effects)
  | .shutdown => (s.safeShutdown,[])

end WhipSession
end MediaServer.Webrtc
