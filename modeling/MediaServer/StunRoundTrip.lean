import MediaServer.StunAuthentication

/-! Messages written by the server, read back. A message is its header, its attributes and
the two that seal it; the digest and the checksum are taken over the bytes before them with
the length field already counting them. -/
namespace MediaServer.Stun
open Bytes Tlv

def header (type length : UInt16) (transactionId : TransactionId) : Bytes :=
  u16 type ++ u16 length ++ u32 magicCookie ++ transactionId.toList

def message (type : UInt16) (length : Nat) (transactionId : TransactionId)
    (as : List (UInt16 × Bytes)) : Bytes :=
  appendAll (header type (UInt16.ofNat length) transactionId) as

@[simp] theorem headerLength (type length : UInt16) (id : TransactionId) :
    (header type length id).length = 20 := by simp [header]

theorem messageLength (type : UInt16) (length : Nat) (id : TransactionId)
    (as : List (UInt16 × Bytes)) : (message type length id as).length = 20 + bodySize as := by
  unfold message
  rw [appendAllLength (by simp),headerLength]

theorem messageMore (type : UInt16) (length : Nat) (id : TransactionId)
    (as bs : List (UInt16 × Bytes)) : ∃ more,
    message type length id (as ++ bs) = message type length id as ++ more := by
  unfold message
  rw [appendAll,List.foldl_append]
  exact appendAllMore _ bs

theorem writeAppended (packet more : Bytes) (v : UInt16) (long : 4 ≤ packet.length) :
    writeU16 (packet ++ more) 2 v = writeU16 packet 2 v ++ more := by
  unfold writeU16
  rw [List.set_append_left _ _ (by omega),List.set_append_left _ _ (by simp; omega)]

theorem writeAttribute {packet : Bytes} (type : UInt16) (value : Bytes) (v : UInt16)
    (long : 4 ≤ packet.length) : writeU16 (appendAttribute packet type value) 2 v =
      appendAttribute (writeU16 packet 2 v) type value := by
  simp only [appendAttribute,List.append_assoc]
  rw [writeAppended _ _ _ long]
  simp

theorem writeAll {packet : Bytes} (as : List (UInt16 × Bytes)) (v : UInt16)
    (long : 4 ≤ packet.length) :
    writeU16 (appendAll packet as) 2 v = appendAll (writeU16 packet 2 v) as := by
  induction as generalizing packet with
  | nil => rfl
  | cons a as ih =>
    simp only [appendAll,List.foldl_cons] at ih ⊢
    rw [ih,writeAttribute _ _ _ long]
    simp only [appendAttribute,List.length_append]
    omega

theorem lengthSet (type : UInt16) (length : Nat) (id : TransactionId)
    (as : List (UInt16 × Bytes)) (size : Nat) :
    writeU16 (message type length id as) 2 (UInt16.ofNat size) = message type size id as := by
  unfold message
  rw [writeAll _ _ (by simp)]
  rfl

theorem messageLengthSet (type : UInt16) (length : Nat) (id : TransactionId)
    (as : List (UInt16 × Bytes)) {size : Nat} (small : size ≤ 65535) :
    setMessageLength (message type length id as) size = message type size id as := by
  rw [setMessageLength,if_pos small,lengthSet]

structure Draft where
  hashes : Hashes
  type : UInt16
  transactionId : TransactionId
  body : List (UInt16 × Bytes)
  password : Bytes

namespace Draft
variable (d : Draft)

def size : Nat := bodySize d.body

def digest : Bytes :=
  (d.hashes.hmac d.password (message d.type (d.size + 24) d.transactionId d.body)).toList

def signed : List (UInt16 × Bytes) := d.body ++ [(attributeMessageIntegrity,d.digest)]

def checksum : Bytes :=
  u32 (fingerprint d.hashes (message d.type (d.size + 32) d.transactionId d.signed))

def parts : List (UInt16 × Bytes) := d.signed ++ [(attributeFingerprint,d.checksum)]

def packet : Bytes := message d.type (d.size + 32) d.transactionId d.parts

structure Fits : Prop where
  small : d.size + 32 ≤ 65535
  key : d.password.length ≤ maxInt

theorem digestLength : d.digest.length = 20 := by simp [digest]
theorem checksumLength : d.checksum.length = 4 := rfl

theorem signedSize : bodySize d.signed = d.size + 24 := by
  simp [signed,bodySize,digestLength,align,size]

theorem partsSize : bodySize d.parts = d.size + 32 := by
  have rest : bodySize d.parts = bodySize d.signed + 8 := by
    simp [parts,bodySize,checksumLength,align]
  rw [rest,signedSize]

theorem packetLength : d.packet.length = 20 + d.size + 32 := by
  unfold packet
  rw [messageLength,partsSize]
  omega

theorem sealed (fits : d.Fits) : appendIntegrityAndFingerprint d.hashes
    (message d.type 0 d.transactionId d.body) d.password = some d.packet := by
  have small := fits.small
  have first : (message d.type 0 d.transactionId d.body).length - headerSize + 24 =
      d.size + 24 := by
    rw [messageLength]; unfold headerSize size; omega
  have second : (message d.type (d.size + 24) d.transactionId d.signed).length - headerSize + 8 =
      d.size + 32 := by
    rw [messageLength,signedSize]; unfold headerSize; omega
  have integrity : appendAttribute (message d.type (d.size + 24) d.transactionId d.body)
      attributeMessageIntegrity (d.hashes.hmac d.password
        (message d.type (d.size + 24) d.transactionId d.body)).toList =
          message d.type (d.size + 24) d.transactionId d.signed := by
    simp [message,signed,digest,appendAll]
  have last : appendAttribute (message d.type (d.size + 32) d.transactionId d.signed)
      attributeFingerprint d.checksum = d.packet := by
    simp [packet,message,parts,appendAll]
  unfold appendIntegrityAndFingerprint
  simp only [hmacSha1,if_neg (Nat.not_lt.mpr fits.key)]
  rw [first,messageLengthSet _ _ _ _ (by omega)]
  rw [integrity,second,messageLengthSet _ _ _ _ small]
  exact congrArg some last

theorem packetBytes : ∃ rest, d.packet = u16 d.type ++ (u16 (UInt16.ofNat (d.size + 32)) ++
    (u32 magicCookie ++ (d.transactionId.toList ++ rest))) := by
  obtain ⟨rest,written⟩ := appendAllMore
    (header d.type (UInt16.ofNat (d.size + 32)) d.transactionId) d.parts
  exact ⟨rest,written.trans (by simp [header])⟩

theorem packetHeader (fits : d.Fits) : readU16 d.packet = d.type ∧
    (readU16 (d.packet.drop 2)).toNat = d.packet.length - headerSize ∧
    readArray 12 (d.packet.drop 8) = d.transactionId := by
  obtain ⟨rest,bytes⟩ := d.packetBytes
  refine ⟨?_,?_,?_⟩
  · rw [bytes,readU16Written]
  · rw [d.packetLength,bytes]
    change (readU16 (u16 _ ++ _)).toNat = _
    have small := fits.small
    rw [readU16Written,UInt16.toNat_ofNat',Nat.mod_eq_of_lt (by omega)]
    unfold headerSize
    omega
  · rw [bytes]
    exact readArrayWritten d.transactionId rest

theorem packetStun (kind : UInt8.ofNat (d.type.toNat / 256) &&& 0xc0 = 0) :
    isStunMessage d.packet = true := by
  obtain ⟨rest,bytes⟩ := d.packetBytes
  have long : d.packet.length ≥ headerSize := by
    rw [packetLength]; unfold headerSize; omega
  have cookie : readU32 (d.packet.drop 4) = magicCookie := by
    rw [bytes]
    exact readU32Written magicCookie _
  have first : d.packet.getD 0 0 = UInt8.ofNat (d.type.toNat / 256) := by rw [bytes]; rfl
  simp only [isStunMessage,long,decide_true,Bool.true_and,cookie,first,kind,beq_self_eq_true]

theorem packetAttributes (fits : d.Fits) : attributes d.packet headerSize =
    some (place headerSize d.body ++ [⟨headerSize + d.size,attributeMessageIntegrity,d.digest⟩,
      ⟨headerSize + d.size + 24,attributeFingerprint,d.checksum⟩]) := by
  have short : ∀ a ∈ d.parts, a.2.length < 65536 := by
    intro a member
    have small := fits.small
    have value := valueSmall member
    rw [partsSize] at value
    omega
  have even : (header d.type (UInt16.ofNat (d.size + 32)) d.transactionId).length % 4 = 0 := by
    rw [headerLength]
  have span := appendAllSpan even short []
  rw [List.append_nil,headerLength] at span
  rw [attributesExact]
  have placed : place headerSize d.parts = place headerSize d.body ++
      [⟨headerSize + d.size,attributeMessageIntegrity,d.digest⟩,
        ⟨headerSize + d.size + 24,attributeFingerprint,d.checksum⟩] := by
    rw [parts,placeAppend,signedSize,signed,placeAppend]
    simp [place,size,Nat.add_assoc]
  rw [← placed]
  exact span

theorem packetSigned (fits : d.Fits) :
    verifyMessageIntegrity d.hashes d.packet (headerSize + d.size) d.password = true := by
  have small := fits.small
  have length := d.packetLength
  obtain ⟨more,written⟩ := messageMore d.type (d.size + 32) d.transactionId d.body
    [(attributeMessageIntegrity,d.digest),(attributeFingerprint,d.checksum)]
  have whole : d.packet = message d.type (d.size + 32) d.transactionId d.body ++ more := by
    rw [← written]; simp [packet,parts,signed]
  have cut : d.packet.take (headerSize + d.size) =
      message d.type (d.size + 32) d.transactionId d.body := by
    rw [whole]
    exact List.take_left' (messageLength ..)
  have read := (spanMember (attributesExact.mp (d.packetAttributes fits))
    (List.mem_append_right _ (List.mem_cons_self ..))).2
  rw [integrityVerified,cut]
  refine ⟨by omega,by unfold headerSize; omega,by unfold headerSize; omega,fits.key,?_⟩
  have counted : headerSize + d.size + 4 = d.size + 24 := by unfold headerSize; omega
  rw [lengthSet,counted]
  simp only [digestLength] at read
  rw [counted] at read
  exact read

theorem packetSummed (fits : d.Fits) :
    verifyFingerprint d.hashes d.packet (headerSize + d.size + 24) = true := by
  have length := d.packetLength
  obtain ⟨more,written⟩ := messageMore d.type (d.size + 32) d.transactionId d.signed
    [(attributeFingerprint,d.checksum)]
  have cut : d.packet.take (headerSize + d.size + 24) =
      message d.type (d.size + 32) d.transactionId d.signed := by
    rw [packet,parts,written]
    apply List.take_left'
    rw [messageLength,signedSize]
    rfl
  have read := (spanMember (attributesExact.mp (d.packetAttributes fits))
    (List.mem_append_right _ (List.mem_cons_of_mem _ (List.mem_cons_self ..)))).2
  rw [fingerprintVerified,cut]
  refine ⟨by omega,by unfold headerSize; omega,?_⟩
  simp only [checksumLength] at read
  rw [List.take_of_length_le (by rw [List.length_drop]; unfold headerSize; omega)] at read
  rw [← read]
  exact (readU32Written _ []).symm

variable {start : BindingAttributes}

theorem packetScanned (fits : d.Fits)
    (body : (place headerSize d.body).foldlM takeAttribute {} = some start)
    (unsigned : start.messageIntegrityOffset = none) (unsummed : start.fingerprintOffset = none) :
    scanStunAttributes d.packet = some {start with
      messageIntegrityOffset := some (headerSize + d.size)
      fingerprintOffset := some (headerSize + d.size + 24)} := by
  refine scanExact.mpr ⟨_,attributesExact.mp (d.packetAttributes fits),?_⟩
  have digest := d.digestLength
  rw [List.foldlM_append,body]
  simp [takeAttribute,unsigned,unsummed,digest,checksumLength,messageIntegritySize,
    attributeMessageIntegrity,attributeFingerprint,attributeUsername,attributePriority,
    attributeUseCandidate]

theorem made (fits : d.Fits) : (appendIntegrityAndFingerprint d.hashes
    (message d.type 0 d.transactionId d.body) d.password).getD [] = d.packet := by
  rw [d.sealed fits,Option.getD_some]

theorem packetEnds : headerSize + d.size + 24 + 8 = d.packet.length := by
  rw [packetLength]
  unfold headerSize
  omega

theorem requestParsed (fits : d.Fits) (kind : d.type = bindingRequestType) {u : Bytes}
    (body : (place headerSize d.body).foldlM takeAttribute {} = some start)
    (unsigned : start.messageIntegrityOffset = none) (unsummed : start.fingerprintOffset = none)
    (username : start.username = some u) :
    parseStunBindingRequest d.hashes d.packet u d.password =
      some ⟨d.transactionId,start.unknownRequiredAttributes,start.priority,start.useCandidate,
        start.iceControlling,start.iceControlled⟩ := by
  obtain ⟨type,length,transaction⟩ := d.packetHeader fits
  have stun := d.packetStun (by rw [kind]; decide)
  have type : ¬readU16 d.packet ≠ bindingRequestType := by rw [type]; exact not_not.mpr kind
  simp only [parseStunBindingRequest,stun,Bool.not_true,Bool.false_eq_true,if_false,if_neg type,
    if_neg (not_not.mpr length),d.packetScanned fits body unsigned unsummed,
    validateBindingAuthentication,username,d.packetSigned fits,d.packetSummed fits,d.packetEnds,
    beq_self_eq_true,Bool.and_self,transaction]

theorem responseParsed (fits : d.Fits) (kind : d.type = bindingSuccessResponseType)
    (body : (place headerSize d.body).foldlM takeAttribute {} = some start)
    (unsigned : start.messageIntegrityOffset = none) (unsummed : start.fingerprintOffset = none) :
    parseStunBindingSuccessResponse d.hashes d.packet d.password = some d.transactionId := by
  obtain ⟨type,length,transaction⟩ := d.packetHeader fits
  have stun := d.packetStun (by rw [kind]; decide)
  simp only [parseStunBindingSuccessResponse,stun,Bool.not_true,type.trans kind,length,
    bne_self_eq_false,Bool.or_self,Bool.false_eq_true,if_false,
    d.packetScanned fits body unsigned unsummed,d.packetSigned fits,d.packetSummed fits,
    d.packetEnds,transaction]

end Draft

def requestDraft (hashes : Hashes) (transactionId : TransactionId) (username password : Bytes)
    (priority : UInt32) (tieBreaker : UInt64) : Draft where
  hashes := hashes
  type := bindingRequestType
  transactionId := transactionId
  body := [(attributeUsername,username),(attributePriority,u32 priority),
    (attributeIceControlling,u32 (tieBreaker >>> 32).toUInt32 ++ u32 tieBreaker.toUInt32),
    (attributeUseCandidate,[])]
  password := password

theorem requestRead (hashes : Hashes) (id : TransactionId) (username password : Bytes)
    (priority : UInt32) (tieBreaker : UInt64) (short : username.length ≤ 513)
    (key : password.length ≤ maxInt) :
    parseStunBindingRequest hashes
      (makeStunBindingRequest hashes id username password priority tieBreaker) username password =
        some ⟨id,[],true,true,true,false⟩ := by
  have fits : (requestDraft hashes id username password priority tieBreaker).Fits := by
    refine ⟨?_,key⟩
    simp [requestDraft,Draft.size,bodySize,align]
    omega
  have written : makeStunBindingRequest hashes id username password priority tieBreaker =
      (requestDraft hashes id username password priority tieBreaker).packet := by
    rw [← Draft.made _ fits]
    rfl
  have body : (place headerSize (requestDraft hashes id username password priority
      tieBreaker).body).foldlM takeAttribute {} = some
        {username := some username, priority := true, iceControlling := true,
          useCandidate := true} := by
    simp [requestDraft,place,takeAttribute,attributeUsername,attributePriority,
      attributeIceControlling,attributeUseCandidate,attributeMessageIntegrity,
      attributeFingerprint]
  rw [written]
  exact Draft.requestParsed _ fits rfl body rfl rfl rfl

def successDraft (hashes : Hashes) (request : BindingRequest) (remoteEndpoint : Endpoint)
    (password : Bytes) : Draft where
  hashes := hashes
  type := bindingSuccessResponseType
  transactionId := request.transactionId
  body := [(attributeXorMappedAddress,xorMappedAddress remoteEndpoint request.transactionId)]
  password := password

def Address.bytes : Address → Bytes
  | .v4 bytes => bytes.toList
  | .v6 bytes _ => bytes.toList

def unxorMappedAddress (value : Bytes) (transactionId : TransactionId) :
    Option (Bytes × UInt16) :=
  let port := readU16 (value.drop 2) ^^^ 0x2112
  if value.getD 1 0 = 0x01 then
    some (List.zipWith (· ^^^ ·) (value.drop 4) cookieBytes,port)
  else if value.getD 1 0 = 0x02 then
    some (List.zipWith (· ^^^ ·) (value.drop 4) (cookieBytes ++ transactionId.toList),port)
  else none

theorem xorTwice (data mask : Bytes) (covered : data.length ≤ mask.length) :
    List.zipWith (· ^^^ ·) (List.zipWith (· ^^^ ·) data mask) mask = data := by
  induction data generalizing mask with
  | nil => rfl
  | cons a data ih =>
    cases mask with
    | nil => simp at covered
    | cons m mask =>
      have rest := ih mask (by simpa using covered)
      simp [rest,UInt8.xor_assoc]

theorem mappedRead (endpoint : Endpoint) (id : TransactionId) :
    unxorMappedAddress (xorMappedAddress endpoint id) id =
      some (endpoint.address.bytes,endpoint.port) := by
  obtain ⟨address,port⟩ := endpoint
  have ports (rest : Bytes) : readU16 (u16 (port ^^^ 0x2112) ++ rest) ^^^ 0x2112 = port := by
    rw [readU16Written,UInt16.xor_assoc,UInt16.xor_self,UInt16.xor_zero]
  cases address with
  | v4 bytes =>
    have covered : bytes.toList.length ≤ cookieBytes.length := by simp [cookieBytes]
    have address := xorTwice bytes.toList cookieBytes covered
    exact congrArg some (Prod.ext address (ports _))
  | v6 bytes scope =>
    have covered : bytes.toList.length ≤ (cookieBytes ++ id.toList).length := by
      simp [cookieBytes]
    have address := xorTwice bytes.toList (cookieBytes ++ id.toList) covered
    exact congrArg some (Prod.ext address (ports _))

theorem mappedLength (endpoint : Endpoint) (id : TransactionId) :
    (xorMappedAddress endpoint id).length ≤ 20 := by
  unfold xorMappedAddress
  split <;> simp [cookieBytes]

theorem successRead (hashes : Hashes) (request : BindingRequest) (endpoint : Endpoint)
    (password : Bytes) (key : password.length ≤ maxInt) :
    parseStunBindingSuccessResponse hashes
      (makeStunBindingSuccessResponse hashes request endpoint password) password =
        some request.transactionId ∧
    ∃ as mapped, attributes (makeStunBindingSuccessResponse hashes request endpoint password)
        headerSize = some as ∧ ofType attributeXorMappedAddress as = [mapped] ∧
      unxorMappedAddress mapped.value request.transactionId =
        some (endpoint.address.bytes,endpoint.port) := by
  have fits : (successDraft hashes request endpoint password).Fits := by
    refine ⟨?_,key⟩
    have short := mappedLength endpoint request.transactionId
    simp [successDraft,Draft.size,bodySize,align]
    omega
  have written : makeStunBindingSuccessResponse hashes request endpoint password =
      (successDraft hashes request endpoint password).packet := by
    rw [← Draft.made _ fits]
    rfl
  have body : (place headerSize (successDraft hashes request endpoint password).body).foldlM
      takeAttribute {} = some {} := by
    simp [successDraft,place,takeAttribute,attributeUsername,attributePriority,
      attributeIceControlling,attributeUseCandidate,attributeMessageIntegrity,
      attributeFingerprint,attributeXorMappedAddress,attributeIceControlled]
  have parsed := Draft.responseParsed _ fits rfl body rfl rfl
  have whole := Draft.packetAttributes _ fits
  rw [written]
  refine ⟨parsed,_,⟨headerSize,attributeXorMappedAddress,
    xorMappedAddress endpoint request.transactionId⟩,whole,?_,
    mappedRead endpoint request.transactionId⟩
  simp [successDraft,place,ofType,attributeXorMappedAddress,attributeMessageIntegrity,
    attributeFingerprint]

def errorDraft (hashes : Hashes) (request : BindingRequest) (errorCode : UInt16)
    (reason : Bytes) (unknownAttributes : List UInt16) (password : Bytes) : Draft where
  hashes := hashes
  type := bindingErrorResponseType
  transactionId := request.transactionId
  body := [(attributeErrorCode,[0,0,(errorCode / 100).toUInt8,(errorCode % 100).toUInt8] ++ reason),
    (attributeUnknownAttributes,unknownAttributes.flatMap u16)]
  password := password

def listedTypes : Bytes → List UInt16
  | a :: b :: rest => readU16 [a,b] :: listedTypes rest
  | _ => []

theorem listedRead (types : List UInt16) : listedTypes (types.flatMap u16) = types := by
  induction types with
  | nil => rfl
  | cons type types ih =>
    have first : readU16 (u16 type) = type := readU16Written type []
    rw [List.flatMap_cons]
    change readU16 (u16 type) :: listedTypes (types.flatMap u16) = _
    rw [first,ih]

variable {hashes : Hashes} {u p : Bytes} {request : BindingRequest}

theorem unknownFew {packet : Bytes} (ok : parseStunBindingRequest hashes packet u p = some request) :
    request.unknownRequiredAttributes.length ≤ 16383 := by
  obtain ⟨a⟩ := accepted ok
  obtain ⟨as,whole,folded⟩ := scanned a.scanned
  have count := foldCount folded
  have four := spanFour (attributesExact.mp whole)
  have length := a.length
  have word := (readU16 (packet.drop 2)).toNat_lt
  have long := a.long
  rw [a.returned]
  simp only [List.length_nil] at count
  simp only [headerSize] at *
  omega

variable {password : Bytes}

theorem errorWritten (hashes : Hashes) (request : BindingRequest) (errorCode : UInt16)
    {reason : Bytes} {unknown : List UInt16} (some_ : unknown ≠ []) (few : unknown.length ≤ 16383)
    (brief : reason.length ≤ 1024) (key : password.length ≤ maxInt) :
    (errorDraft hashes request errorCode reason unknown password).Fits ∧
    makeStunBindingErrorResponse hashes request errorCode reason unknown password =
      (errorDraft hashes request errorCode reason unknown password).packet := by
  have listed : (unknown.flatMap u16).length = 2 * unknown.length := by
    simp [List.length_flatMap,Nat.mul_comm]
  have fits : (errorDraft hashes request errorCode reason unknown password).Fits := by
    refine ⟨?_,key⟩
    simp only [errorDraft,Draft.size,bodySize,align,List.map_cons,List.map_nil,List.sum_cons,
      List.sum_nil,listed,List.length_append,List.length_cons,List.length_nil]
    omega
  refine ⟨fits,?_⟩
  rw [← Draft.made _ fits]
  have listing : unknown.isEmpty = false := by simpa using some_
  simp only [makeStunBindingErrorResponse,listing,Bool.false_eq_true,if_false]
  rfl

theorem builtMessagesVerify (hashes : Hashes) :
    (∀ (id : TransactionId) (username password : Bytes) (priority : UInt32)
      (tieBreaker : UInt64), username.length ≤ 513 → password.length ≤ maxInt →
      parseStunBindingRequest hashes
        (makeStunBindingRequest hashes id username password priority tieBreaker)
        username password = some ⟨id,[],true,true,true,false⟩) ∧
    (∀ (request : BindingRequest) (endpoint : Endpoint) (password : Bytes),
      password.length ≤ maxInt →
      parseStunBindingSuccessResponse hashes
        (makeStunBindingSuccessResponse hashes request endpoint password) password =
          some request.transactionId ∧
      ∃ as mapped, attributes (makeStunBindingSuccessResponse hashes request endpoint password)
          headerSize = some as ∧ ofType attributeXorMappedAddress as = [mapped] ∧
        unxorMappedAddress mapped.value request.transactionId =
          some (endpoint.address.bytes,endpoint.port)) ∧
    (∀ (packet u p : Bytes) (request : BindingRequest) (password response : Bytes),
      parseStunBindingRequest hashes packet u p = some request →
      request.unknownRequiredAttributes ≠ [] → password.length ≤ maxInt →
      response = makeStunBindingErrorResponse hashes request 420 unknownAttributeReason
        request.unknownRequiredAttributes password →
      (readU16 (response.drop 2)).toNat = response.length - headerSize ∧
      ∃ error listing integrity last, attributes response headerSize =
          some [error,listing,integrity,last] ∧
        error.type = attributeErrorCode ∧ error.value = [0,0,4,20] ++ unknownAttributeReason ∧
        listing.type = attributeUnknownAttributes ∧
        listedTypes listing.value = request.unknownRequiredAttributes ∧
        listing.value.length = 2 * request.unknownRequiredAttributes.length ∧
        integrity.type = attributeMessageIntegrity ∧
        verifyMessageIntegrity hashes response integrity.offset password = true ∧
        last.type = attributeFingerprint ∧ last.offset + 8 = response.length ∧
        verifyFingerprint hashes response last.offset = true) := by
  refine ⟨?_,?_,?_⟩
  · intro id username password priority tieBreaker short key
    exact requestRead hashes id username password priority tieBreaker short key
  · intro request endpoint password key
    exact successRead hashes request endpoint password key
  · intro packet u p request password response ok unknown key made
    obtain ⟨fits,written⟩ := errorWritten hashes request 420 unknown (unknownFew ok)
      (show unknownAttributeReason.length ≤ 1024 by decide) key
    rw [made,written]
    have whole := Draft.packetAttributes _ fits
    have length := (Draft.packetHeader _ fits).2.1
    have signed := Draft.packetSigned _ fits
    have summed := Draft.packetSummed _ fits
    have ends := Draft.packetEnds
      (errorDraft hashes request 420 unknownAttributeReason request.unknownRequiredAttributes password)
    exact ⟨length,_,_,_,_,whole,rfl,rfl,rfl,listedRead _,
      by simp [List.length_flatMap,Nat.mul_comm],rfl,signed,rfl,ends,summed⟩

def unknownRequest : Bytes :=
  [0,1,0,40,0x21,0x12,0xa4,0x42] ++ List.replicate 12 0 ++ [0,1,0,0,0,6,0,0,0,8,0,20] ++
    List.replicate 20 0 ++ [0x80,0x28,0,4,0x53,0x54,0x55,0x4e]

theorem builtMessagesSampled :
    parseStunBindingRequest plainHashes
      (makeStunBindingRequest plainHashes (Vector.replicate 12 7) [97] [98] 1 2) [97] [98] =
        some ⟨Vector.replicate 12 7,[],true,true,true,false⟩ ∧
    parseStunBindingSuccessResponse plainHashes (makeStunBindingSuccessResponse plainHashes
      ⟨Vector.replicate 12 7,[],true,true,true,false⟩ ⟨.v4 (Vector.replicate 4 1),5⟩ [98]) [98] =
        some (Vector.replicate 12 7) ∧
    ∃ request, parseStunBindingRequest plainHashes unknownRequest [] [] = some request ∧
      request.unknownRequiredAttributes = [1] ∧
      ∃ last, verifyFingerprint plainHashes (makeStunBindingErrorResponse plainHashes request 420
        unknownAttributeReason request.unknownRequiredAttributes [98]) last = true := by
  obtain ⟨requests,responses,errors⟩ := builtMessagesVerify plainHashes
  refine ⟨requests _ _ _ _ _ (by decide) (by decide),(responses _ _ _ (by decide)).1,
    ⟨Vector.replicate 12 0,[1],false,false,false,false⟩,by decide,rfl,?_⟩
  obtain ⟨_,_,_,_,last,_,_,_,_,_,_,_,_,_,_,summed⟩ := errors unknownRequest [] []
    ⟨Vector.replicate 12 0,[1],false,false,false,false⟩ [98] _ (by decide) (by decide) (by decide)
    rfl
  exact ⟨last.offset,summed⟩

theorem unsignedEmpty (hashes : Hashes) (packet : Bytes) (long : password.length > maxInt) :
    appendIntegrityAndFingerprint hashes packet password = none := by
  simp [appendIntegrityAndFingerprint,hmacSha1,long]

theorem longPasswordRefused : ∃ password : Bytes,
    parseStunBindingRequest plainHashes
      (makeStunBindingRequest plainHashes (Vector.replicate 12 0) [] password 0 0) [] password =
        none := by
  refine ⟨List.replicate (maxInt + 1) 0,?_⟩
  have long : (List.replicate (maxInt + 1) (0 : UInt8)).length > maxInt := by
    rw [List.length_replicate]; exact Nat.lt_succ_self _
  have empty : makeStunBindingRequest plainHashes (Vector.replicate 12 0) []
      (List.replicate (maxInt + 1) 0) 0 0 = [] := by
    simp only [makeStunBindingRequest,unsignedEmpty _ _ long,Option.getD_none]
  rw [empty]
  rfl

end MediaServer.Stun
