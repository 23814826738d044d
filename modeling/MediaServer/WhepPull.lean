import MediaServer.WebrtcSession

/-! A WHEP pull session once its answer is accepted: connectivity checks to the answer's
candidates, selection by the first matching response, and consent kept alive by later ones.
Times are nanoseconds of the steady clock, read once by each run of send_checks and of
handle_stun. -/
namespace MediaServer.WhepPull
open Bytes Stun Webrtc

variable {δ ς ρ : Type}

def consentTimeout : Nat := 30000000000
def transactionTimeout : Nat := 5000000000
def hostCandidatePriority : UInt32 := 2130706431

structure Answer where
  candidates : List Endpoint
  iceUfrag : Bytes
  icePwd : Bytes
  passive : Bool

structure PendingCheck where
  transaction : TransactionId
  endpoint : Endpoint
  sent : Nat
  deriving DecidableEq, Repr

inductive Effect where
  | toDtls (endpoint : Endpoint) (packet : Bytes)
  | toSrtp (endpoint : Endpoint) (packet : Bytes)
  | sent (kind : Kind) (endpoint : Endpoint) (packet : Bytes)
  | checked (transaction : TransactionId) (endpoint : Endpoint)
  | matched (transaction : TransactionId) (endpoint : Endpoint)
  | touchIdle
  | postShutdown
  deriving DecidableEq, Repr

structure Session (δ ς ρ : Type) where
  answer : Answer
  localPort : UInt16
  iceUfrag : Bytes
  icePwd : Bytes
  tieBreaker : UInt64
  transactionPrefix : Vector UInt8 8
  checkSequence : UInt32
  pendingChecks : List PendingCheck
  selected : Option Endpoint
  consentReceived : Nat
  dtls : Option δ
  srtp : Option ς
  mediaReceiver : Option ρ

inductive Event where
  | sendChecks (now : Nat)
  | datagram (packet : Bytes) (endpoint : Endpoint) (now : Nat)
  | dtlsTimeout
  | shutdown

def transactionOf (first : Vector UInt8 8) (sequence : UInt32) : TransactionId :=
  readArray 12 (first.toList ++ le32 sequence)

namespace Session

def sendUdp (s : Session δ ς ρ) (kind : Kind) (packet : Bytes) (endpoint : Endpoint) :
    List Effect :=
  if s.localPort = 0 || packet.isEmpty then [] else [.sent kind endpoint packet]

def sendDtls (s : Session δ ς ρ) (packet : Bytes) : List Effect :=
  match s.selected with
  | none => []
  | some endpoint => s.sendUdp .dtls packet endpoint

def role (s : Session δ ς ρ) : DtlsRole := if s.answer.passive then .client else .server

def checkUsername (s : Session δ ς ρ) : Bytes := s.answer.iceUfrag ++ [58] ++ s.iceUfrag

def checkPacket (hashes : Hashes) (s : Session δ ς ρ) (transaction : TransactionId) : Bytes :=
  makeStunBindingRequest hashes transaction s.checkUsername s.answer.icePwd
    hostCandidatePriority s.tieBreaker

def sendCheck (hashes : Hashes) (s : Session δ ς ρ) (now : Nat) (target : Endpoint) :
    Session δ ς ρ × List Effect :=
  let sequence := s.checkSequence + 1
  let transaction := transactionOf s.transactionPrefix sequence
  ({s with checkSequence := sequence, pendingChecks :=
      s.pendingChecks ++ [⟨transaction,target,now⟩]},
    .checked transaction target :: s.sendUdp .stun (s.checkPacket hashes transaction) target)

def sendEach (hashes : Hashes) (now : Nat) :
    Session δ ς ρ → List Endpoint → Session δ ς ρ × List Effect
  | s, [] => (s,[])
  | s, target :: rest =>
    let (s,first) := s.sendCheck hashes now target
    let (s,later) := sendEach hashes now s rest
    (s,first ++ later)

def expireChecks (s : Session δ ς ρ) (now : Nat) : Session δ ς ρ :=
  {s with pendingChecks :=
    s.pendingChecks.filter fun check => !decide (now - check.sent ≥ transactionTimeout)}

def targets (s : Session δ ς ρ) : List Endpoint :=
  match s.selected with
  | some endpoint => [endpoint]
  | none => s.answer.candidates

def sendChecks (hashes : Hashes) (s : Session δ ς ρ) (now : Nat) : Session δ ς ρ × List Effect :=
  if s.localPort = 0 then (s,[])
  else if s.selected.isSome && decide (now - s.consentReceived ≥ consentTimeout) then
    (s,[.postShutdown])
  else (s.expireChecks now).sendEach hashes now s.targets

def answers (transaction : TransactionId) (endpoint : Endpoint) (now : Nat)
    (check : PendingCheck) : Bool :=
  check.transaction == transaction && check.endpoint == endpoint &&
    decide (now - check.sent < transactionTimeout)

def handleMatched (engines : Engines δ ς ρ) (s : Session δ ς ρ) (endpoint : Endpoint)
    (now : Nat) : Session δ ς ρ × List Effect :=
  match s.selected with
  | some selected =>
    if endpoint = selected then
      if now - s.consentReceived ≥ consentTimeout then (s,[.postShutdown])
      else ({s with consentReceived := now},[.touchIdle])
    else (s,[])
  | none =>
    let (dtls,output,ok) := engines.startup s.role
    let s := {s with
      selected := some endpoint
      consentReceived := now
      pendingChecks := []
      dtls := some dtls}
    let sends := output.flatMap s.sendDtls
    (s,.touchIdle :: sends ++ if ok then [] else [.postShutdown])

def handleRequest (hashes : Hashes) (s : Session δ ς ρ) (packet : Bytes) (endpoint : Endpoint) :
    List Effect :=
  match parseStunBindingRequest hashes packet (s.iceUfrag ++ [58] ++ s.answer.iceUfrag)
      s.icePwd with
  | none => []
  | some request =>
    if !request.unknownRequiredAttributes.isEmpty then []
    else if request.iceControlling then
      s.sendUdp .stun (makeStunBindingErrorResponse hashes request 487 roleConflictReason []
        s.icePwd) endpoint
    else s.sendUdp .stun (makeStunBindingSuccessResponse hashes request endpoint s.icePwd) endpoint

def handleStun (engines : Engines δ ς ρ) (hashes : Hashes) (s : Session δ ς ρ) (packet : Bytes)
    (endpoint : Endpoint) (now : Nat) : Session δ ς ρ × List Effect :=
  match parseStunBindingSuccessResponse hashes packet s.answer.icePwd with
  | some transaction =>
    if (s.pendingChecks.find? (answers transaction endpoint now)).isNone then (s,[])
    else
      let s := {s with pendingChecks :=
        s.pendingChecks.eraseP (answers transaction endpoint now)}
      let (s,effects) := s.handleMatched engines endpoint now
      (s,.matched transaction endpoint :: effects)
  | none => (s,s.handleRequest hashes packet endpoint)

def handleDtls (engines : Engines δ ς ρ) (s : Session δ ς ρ) (packet : Bytes) :
    Session δ ς ρ × List Effect :=
  match s.dtls with
  | none => (s,[])
  | some before =>
    let (dtls,output,ok) := engines.handleDatagram before packet
    let sends := output.flatMap s.sendDtls
    let next := {s with dtls := some dtls}
    if !ok then (next,sends ++ [.postShutdown])
    else if engines.connected before || !engines.connected dtls then (next,sends)
    else match engines.startSrtp dtls with
      | none => (next,sends ++ [.postShutdown])
      | some srtp => ({next with srtp := some srtp},sends)

def handleSrtp (engines : Engines δ ς ρ) (s : Session δ ς ρ) (packet : Bytes) :
    Session δ ς ρ × List Effect :=
  match s.srtp, s.mediaReceiver with
  | some srtp, some receiver =>
    let rtcp := isRtcp packet
    let (srtp,clear) := if rtcp then engines.unprotectRtcp srtp packet
      else engines.unprotectRtp srtp packet
    let next := {s with srtp := some srtp}
    match clear with
    | none => (next,[])
    | some clear =>
      let (receiver,accepted) := if rtcp then engines.inputRtcp receiver clear
        else engines.inputRtp receiver clear
      ({next with mediaReceiver := some receiver},if accepted then [] else [.postShutdown])
  | _, _ => (s,[])

def handlePacket (engines : Engines δ ς ρ) (hashes : Hashes) (s : Session δ ς ρ)
    (packet : Bytes) (endpoint : Endpoint) (now : Nat) : Session δ ς ρ × List Effect :=
  if s.localPort = 0 || packet.isEmpty then (s,[])
  else if isStunMessage packet then s.handleStun engines hashes packet endpoint now
  else if s.selected ≠ some endpoint then (s,[])
  else if isDtlsPacket packet then
    let (s,effects) := s.handleDtls engines packet
    (s,.touchIdle :: .toDtls endpoint packet :: effects)
  else if isRtpOrRtcp packet then
    let (s,effects) := s.handleSrtp engines packet
    (s,.touchIdle :: .toSrtp endpoint packet :: effects)
  else (s,[.touchIdle])

def handleDtlsTimeout (engines : Engines δ ς ρ) (s : Session δ ς ρ) :
    Session δ ς ρ × List Effect :=
  match s.dtls with
  | none => (s,[])
  | some before =>
    if engines.connected before then (s,[])
    else
      let (dtls,output,ok) := engines.handleTimeout before
      let sends := output.flatMap s.sendDtls
      ({s with dtls := some dtls},if ok then sends else sends ++ [.postShutdown])

def safeShutdown (s : Session δ ς ρ) : Session δ ς ρ :=
  {s with
    dtls := none
    srtp := none
    mediaReceiver := none
    selected := none
    pendingChecks := []
    localPort := 0}

def handle (engines : Engines δ ς ρ) (hashes : Hashes) (s : Session δ ς ρ) :
    Event → Session δ ς ρ × List Effect
  | .sendChecks now => s.sendChecks hashes now
  | .datagram packet endpoint now => s.handlePacket engines hashes packet endpoint now
  | .dtlsTimeout => s.handleDtlsTimeout engines
  | .shutdown => (s.safeShutdown,[])

end Session
end MediaServer.WhepPull
