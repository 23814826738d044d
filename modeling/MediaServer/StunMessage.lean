import MediaServer.Tlv

/-! STUN binding messages as media/webrtc/stun_message.cpp reads and writes them.
HMAC-SHA1 and CRC-32 are parameters: any function from a key and the input to twenty
bytes, and any function from the input to a word. -/
namespace MediaServer.Stun
open Bytes Tlv

structure Hashes where
  hmac : Bytes → Bytes → Vector UInt8 20
  crc : Bytes → UInt32

abbrev TransactionId := Vector UInt8 12

inductive Address where
  | v4 (bytes : Vector UInt8 4)
  | v6 (bytes : Vector UInt8 16) (scope : UInt32)
  deriving DecidableEq, Repr

structure Endpoint where
  address : Address
  port : UInt16
  deriving DecidableEq, Repr

def headerSize : Nat := 20
def magicCookie : UInt32 := 0x2112a442
def bindingRequestType : UInt16 := 0x0001
def bindingSuccessResponseType : UInt16 := 0x0101
def bindingErrorResponseType : UInt16 := 0x0111
def attributeUsername : UInt16 := 0x0006
def attributeMessageIntegrity : UInt16 := 0x0008
def attributeErrorCode : UInt16 := 0x0009
def attributeUnknownAttributes : UInt16 := 0x000a
def attributeXorMappedAddress : UInt16 := 0x0020
def attributePriority : UInt16 := 0x0024
def attributeUseCandidate : UInt16 := 0x0025
def attributeFingerprint : UInt16 := 0x8028
def attributeIceControlled : UInt16 := 0x8029
def attributeIceControlling : UInt16 := 0x802a
def messageIntegritySize : Nat := 20
def fingerprintXor : UInt32 := 0x5354554e
def maxInt : Nat := 2147483647

def setMessageLength (packet : Bytes) (bodySize : Nat) : Bytes :=
  if bodySize ≤ 65535 then writeU16 packet 2 (UInt16.ofNat bodySize) else packet

def hmacSha1 (hashes : Hashes) (password data : Bytes) : Option (Vector UInt8 20) :=
  if password.length > maxInt then none else some (hashes.hmac password data)

def fingerprint (hashes : Hashes) (data : Bytes) : UInt32 := hashes.crc data ^^^ fingerprintXor

def verifyMessageIntegrity (hashes : Hashes) (packet : Bytes) (offset : Nat) (password : Bytes) :
    Bool :=
  if offset < headerSize || offset + 24 > packet.length then false
  else
    let bodySize := offset - headerSize + 24
    if bodySize > 65535 then false
    else match hmacSha1 hashes password (setMessageLength (packet.take offset) bodySize) with
      | none => false
      | some digest => digest.toList == (packet.drop (offset + 4)).take messageIntegritySize

def verifyFingerprint (hashes : Hashes) (packet : Bytes) (offset : Nat) : Bool :=
  if offset < headerSize || offset + 8 > packet.length then false
  else fingerprint hashes (packet.take offset) == readU32 (packet.drop (offset + 4))

def makeHeader (type : UInt16) (transactionId : TransactionId) : Bytes :=
  u16 type ++ u16 0 ++ u32 magicCookie ++ transactionId.toList

def appendIntegrityAndFingerprint (hashes : Hashes) (packet password : Bytes) : Option Bytes :=
  let packet := setMessageLength packet (packet.length - headerSize + 24)
  match hmacSha1 hashes password packet with
  | none => none
  | some digest =>
    let packet := appendAttribute packet attributeMessageIntegrity digest.toList
    let packet := setMessageLength packet (packet.length - headerSize + 8)
    some (appendAttribute packet attributeFingerprint (u32 (fingerprint hashes packet)))

def cookieBytes : Bytes := [0x21,0x12,0xa4,0x42]

def xorMappedAddress (endpoint : Endpoint) (transactionId : TransactionId) : Bytes :=
  let port := u16 (endpoint.port ^^^ 0x2112)
  match endpoint.address with
  | .v4 bytes => [0,0x01] ++ port ++ List.zipWith (· ^^^ ·) bytes.toList cookieBytes
  | .v6 bytes _ =>
    [0,0x02] ++ port ++
      List.zipWith (· ^^^ ·) bytes.toList (cookieBytes ++ transactionId.toList)

structure BindingAttributes where
  username : Option Bytes := none
  messageIntegrityOffset : Option Nat := none
  fingerprintOffset : Option Nat := none
  unknownRequiredAttributes : List UInt16 := []
  priority : Bool := false
  iceControlling : Bool := false
  iceControlled : Bool := false
  useCandidate : Bool := false
  deriving DecidableEq, Repr

/- The body of the scan's loop: after MESSAGE-INTEGRITY everything but FINGERPRINT is
passed by. -/
def takeAttribute (result : BindingAttributes) (a : Attribute) : Option BindingAttributes :=
  if result.messageIntegrityOffset.isSome && a.type != attributeFingerprint then some result
  else if a.type = attributeUsername then
    if result.username.isSome then none
    else some {result with username := some a.value}
  else if a.type = attributeMessageIntegrity then
    if a.value.length ≠ messageIntegritySize || result.messageIntegrityOffset.isSome then none
    else some {result with messageIntegrityOffset := some a.offset}
  else if a.type = attributePriority then
    if a.value.length ≠ 4 || result.priority then none
    else some {result with priority := true}
  else if a.type = attributeUseCandidate then
    if a.value.length ≠ 0 || result.useCandidate then none
    else some {result with useCandidate := true}
  else if a.type = attributeFingerprint then
    if a.value.length ≠ 4 || result.fingerprintOffset.isSome then none
    else some {result with fingerprintOffset := some a.offset}
  else if a.type = attributeIceControlling then
    if a.value.length ≠ 8 || result.iceControlling then none
    else some {result with iceControlling := true}
  else if a.type = attributeIceControlled then
    if a.value.length ≠ 8 || result.iceControlled then none
    else some {result with iceControlled := true}
  else if a.type < 0x8000 && !result.messageIntegrityOffset.isSome &&
      a.type != attributeErrorCode && a.type != attributeUnknownAttributes &&
      a.type != attributeXorMappedAddress then
    some {result with unknownRequiredAttributes := result.unknownRequiredAttributes ++ [a.type]}
  else some result

def scanStunAttributes (packet : Bytes) : Option BindingAttributes :=
  scan takeAttribute packet {} headerSize

def validateBindingAuthentication (hashes : Hashes) (packet : Bytes)
    (attributes : BindingAttributes) (expectedUsername password : Bytes) : Bool :=
  match attributes.username, attributes.messageIntegrityOffset, attributes.fingerprintOffset with
  | some username, some integrity, some last =>
    username == expectedUsername && verifyMessageIntegrity hashes packet integrity password &&
      last + 8 == packet.length && verifyFingerprint hashes packet last
  | _, _, _ => false

def isStunMessage (packet : Bytes) : Bool :=
  decide (packet.length ≥ headerSize) && packet.getD 0 0 &&& 0xc0 == 0 &&
    readU32 (packet.drop 4) == magicCookie

structure BindingRequest where
  transactionId : TransactionId
  unknownRequiredAttributes : List UInt16
  priority : Bool
  useCandidate : Bool
  iceControlling : Bool
  iceControlled : Bool
  deriving DecidableEq, Repr

def parseStunBindingRequest (hashes : Hashes) (packet expectedUsername password : Bytes) :
    Option BindingRequest :=
  if !isStunMessage packet then none
  else if readU16 packet ≠ bindingRequestType then none
  else if (readU16 (packet.drop 2)).toNat ≠ packet.length - headerSize then none
  else match scanStunAttributes packet with
    | none => none
    | some attributes =>
      if !validateBindingAuthentication hashes packet attributes expectedUsername password then none
      else some {
        transactionId := readArray 12 (packet.drop 8)
        unknownRequiredAttributes := attributes.unknownRequiredAttributes
        priority := attributes.priority
        useCandidate := attributes.useCandidate
        iceControlling := attributes.iceControlling
        iceControlled := attributes.iceControlled }

/- The empty packet stands for a message that could not be built. -/
def makeStunBindingSuccessResponse (hashes : Hashes) (request : BindingRequest)
    (remoteEndpoint : Endpoint) (password : Bytes) : Bytes :=
  let packet := makeHeader bindingSuccessResponseType request.transactionId
  let mapped := xorMappedAddress remoteEndpoint request.transactionId
  let packet := appendAttribute packet attributeXorMappedAddress mapped
  (appendIntegrityAndFingerprint hashes packet password).getD []

def makeStunBindingRequest (hashes : Hashes) (transactionId : TransactionId)
    (username password : Bytes) (priority : UInt32) (tieBreaker : UInt64) : Bytes :=
  let packet := makeHeader bindingRequestType transactionId
  let packet := appendAttribute packet attributeUsername username
  let packet := appendAttribute packet attributePriority (u32 priority)
  let packet := appendAttribute packet attributeIceControlling
    (u32 (tieBreaker >>> 32).toUInt32 ++ u32 tieBreaker.toUInt32)
  let packet := appendAttribute packet attributeUseCandidate []
  (appendIntegrityAndFingerprint hashes packet password).getD []

def parseStunBindingSuccessResponse (hashes : Hashes) (packet password : Bytes) :
    Option TransactionId :=
  if !isStunMessage packet || readU16 packet != bindingSuccessResponseType ||
      (readU16 (packet.drop 2)).toNat != packet.length - headerSize then none
  else match scanStunAttributes packet with
    | none => none
    | some attributes =>
      match attributes.messageIntegrityOffset, attributes.fingerprintOffset with
      | some integrity, some last =>
        if !verifyMessageIntegrity hashes packet integrity password ||
            last + 8 != packet.length || !verifyFingerprint hashes packet last then none
        else some (readArray 12 (packet.drop 8))
      | _, _ => none

def makeStunBindingErrorResponse (hashes : Hashes) (request : BindingRequest)
    (errorCode : UInt16) (reason : Bytes) (unknownAttributes : List UInt16) (password : Bytes) :
    Bytes :=
  let packet := makeHeader bindingErrorResponseType request.transactionId
  let errorValue := [0,0,(errorCode / 100).toUInt8,(errorCode % 100).toUInt8] ++ reason
  let packet := appendAttribute packet attributeErrorCode errorValue
  let packet := if unknownAttributes.isEmpty then packet
    else appendAttribute packet attributeUnknownAttributes (unknownAttributes.flatMap u16)
  (appendIntegrityAndFingerprint hashes packet password).getD []

def unknownAttributeReason : Bytes := "Unknown Attribute".toUTF8.data.toList
def roleConflictReason : Bytes := "Role Conflict".toUTF8.data.toList

end MediaServer.Stun
