import MediaServer.DtlsRecords
import MediaServer.Text
import MediaServer.WebrtcSession

/-! dtls_transport above its records, with the fingerprint of the remote description and the SRTP keys.
OpenSSL and libsrtp are parameters; the sessions of WebrtcSession run on this transport. -/
namespace MediaServer.Dtls
open Controller Webrtc

def nibble (character : Char) : Option Nat :=
  if '0' ≤ character ∧ character ≤ '9' then some (character.toNat - '0'.toNat)
  else if 'a' ≤ character ∧ character ≤ 'f' then some (character.toNat - 'a'.toNat + 10)
  else if 'A' ≤ character ∧ character ≤ 'F' then some (character.toNat - 'A'.toNat + 10)
  else none

structure Scan where
  byte : UInt8
  highNibble : Bool
  hexCount : Nat
  digest : Bytes

def Scan.next (s : Scan) (character : Char) : Option Scan :=
  if character = ':' then some s
  else
    match nibble character with
    | none => none
    | some n =>
      if s.highNibble then some ⟨UInt8.ofNat n <<< 4,false,s.hexCount + 1,s.digest⟩
      else
        let byte := s.byte ||| UInt8.ofNat n
        some ⟨byte,true,s.hexCount + 1,s.digest ++ [byte]⟩

def Scan.run : Scan → Text → Option Scan
  | s, [] => some s
  | s, character :: rest => (s.next character).bind fun s => s.run rest

def parseSha256Fingerprint (value : Text) : Option Bytes :=
  match Text.cut ' ' value with
  | none => none
  | some (name,digestText) =>
    if Text.lower name ≠ "sha-256".toList then none
    else
      match Scan.run ⟨0,true,0,[]⟩ digestText with
      | none => none
      | some s =>
        if !s.highNibble || s.hexCount != 64 || s.digest.length != 32 then none else some s.digest

def hexDigit (n : Nat) : Char := if n < 10 then Char.ofNat ('0'.toNat + n) else Char.ofNat ('A'.toNat + n - 10)
def hexByte (byte : UInt8) : Text := [hexDigit (byte.toNat / 16),hexDigit (byte.toNat % 16)]

def makeFingerprint : Bytes → Text
  | [] => []
  | first :: rest => hexByte first ++ rest.flatMap fun byte => ':' :: hexByte byte

def halves (byte : UInt8) : List Nat := [byte.toNat / 16,byte.toNat % 16]

variable {character : Char} {n : Nat} {s : Scan} {digits : List Nat} {text : Text}

theorem nibbleSmall (read : nibble character = some n) : n < 16 := by
  simp only [nibble,Char.le_def,UInt32.le_iff_toNat_le] at read
  have digits : '9'.val.toNat = 57 ∧ 'f'.val.toNat = 102 ∧ 'F'.val.toNat = 70 := ⟨rfl,rfl,rfl⟩
  have bases : '0'.toNat = 48 ∧ 'a'.toNat = 97 ∧ 'A'.toNat = 65 := ⟨rfl,rfl,rfl⟩
  have value : character.toNat = character.val.toNat := rfl
  split at read
  · cases Option.some.inj read; omega
  · split at read
    · cases Option.some.inj read; omega
    · split at read
      · cases Option.some.inj read; omega
      · cases read

theorem joinedHalves : ∀ high low : Fin 16,
    halves ((UInt8.ofNat high.val <<< 4) ||| UInt8.ofNat low.val) = [high.val,low.val] := by
  decide +kernel

theorem halvesInjective {a b : Bytes} (same : a.flatMap halves = b.flatMap halves) : a = b := by
  induction a generalizing b with
  | nil =>
    cases b with
    | nil => rfl
    | cons y b => simp [halves] at same
  | cons x a ih =>
    cases b with
    | nil => simp [halves] at same
    | cons y b =>
      simp only [List.flatMap_cons,halves,List.cons_append,List.nil_append,List.cons.injEq] at same
      obtain ⟨high,low,rest⟩ := same
      have equal : x = y := UInt8.toNat_inj.mp (by omega)
      rw [equal,ih rest]

inductive Held : Scan → List Nat → Prop where
  | even (byte : UInt8) (digest : Bytes) :
      Held ⟨byte,true,(digest.flatMap halves).length,digest⟩ (digest.flatMap halves)
  | odd (high : Nat) (small : high < 16) (digest : Bytes) :
      Held ⟨UInt8.ofNat high <<< 4,false,(digest.flatMap halves).length + 1,digest⟩
        (digest.flatMap halves ++ [high])

theorem heldNext (held : Held s digits) (other : character ≠ ':') (read : nibble character = some n) :
    ∃ s', s.next character = some s' ∧ Held s' (digits ++ [n]) := by
  have small := nibbleSmall read
  cases held with
  | even byte digest =>
    exact ⟨_,by simp only [Scan.next,if_neg other,read,if_true],.odd n small digest⟩
  | odd high bound digest =>
    have joined := joinedHalves ⟨high,bound⟩ ⟨n,small⟩
    have both := Held.even ((UInt8.ofNat high <<< 4) ||| UInt8.ofNat n)
      (digest ++ [(UInt8.ofNat high <<< 4) ||| UInt8.ofNat n])
    rw [List.flatMap_append,List.flatMap_singleton,joined,List.length_append] at both
    refine ⟨_,by simp only [Scan.next,if_neg other,read,Bool.false_eq_true,if_false]; rfl,?_⟩
    simpa using both

theorem runHeld {more : List Nat} (held : Held s digits)
    (reads : (text.filter (· ≠ ':')).map nibble = more.map some) :
    ∃ s', s.run text = some s' ∧ Held s' (digits ++ more) := by
  induction text generalizing s digits more with
  | nil =>
    cases more with
    | nil => exact ⟨s,rfl,by simpa using held⟩
    | cons n more => simp at reads
  | cons character rest ih =>
    by_cases colon : character = ':'
    · subst colon
      exact ih held (by simpa using reads)
    · cases more with
      | nil => simp [colon] at reads
      | cons n more =>
        simp only [ne_eq,colon,not_false_eq_true,decide_true,List.filter_cons_of_pos,List.map_cons,
          List.cons.injEq] at reads
        obtain ⟨s',next,held'⟩ := heldNext held colon reads.1
        obtain ⟨last,run,final⟩ := ih held' (by simpa using reads.2)
        exact ⟨last,by rw [Scan.run,next,Option.bind_some,run],by simpa using final⟩

theorem runReads {s' : Scan} (run : s.run text = some s') :
    ∃ more : List Nat, (text.filter (· ≠ ':')).map nibble = more.map some := by
  induction text generalizing s with
  | nil => exact ⟨[],rfl⟩
  | cons character rest ih =>
    rw [Scan.run,Option.bind_eq_some_iff] at run
    obtain ⟨middle,next,later⟩ := run
    obtain ⟨more,reads⟩ := ih later
    by_cases colon : character = ':'
    · exact ⟨more,by simpa [colon] using reads⟩
    · cases digit : nibble character with
      | none => simp [Scan.next,colon,digit] at next
      | some n => exact ⟨n :: more,by simpa [colon,digit] using reads⟩

/- The value names SHA-256 in any case, and its characters behind the first space are, without the
colons, the digits of the 32 bytes. -/
def Describes (value : Text) (digest : Bytes) : Prop :=
  ∃ name text, value = name ++ ' ' :: text ∧ ' ' ∉ name ∧ Text.lower name = "sha-256".toList ∧
    (text.filter (· ≠ ':')).map nibble = (digest.flatMap halves).map some ∧ digest.length = 32

theorem parseDescribes (value : Text) (digest : Bytes) :
    parseSha256Fingerprint value = some digest ↔ Describes value digest := by
  have start : Held ⟨0,true,0,[]⟩ [] := Held.even 0 []
  constructor
  · intro accepted
    simp only [parseSha256Fingerprint] at accepted
    split at accepted
    · cases accepted
    · rename_i name text cut
      obtain ⟨whole,absent⟩ := Text.cutSome.mp cut
      split at accepted
      · cases accepted
      · rename_i label
        split at accepted
        · cases accepted
        · rename_i s run
          obtain ⟨more,reads⟩ := runReads run
          obtain ⟨s',run',held⟩ := runHeld start reads
          rw [run] at run'
          cases Option.some.inj run'
          split at accepted
          · cases accepted
          · rename_i checks
            cases Option.some.inj accepted
            simp only [Bool.or_eq_true,Bool.not_eq_true',bne_iff_ne,not_or,not_not] at checks
            rw [List.nil_append] at held
            cases held with
            | even byte digest => exact ⟨name,text,whole,absent,not_not.mp label,reads,checks.2⟩
            | odd high small digest => exact absurd rfl checks.1.1
  · rintro ⟨name,text,whole,absent,label,reads,size⟩
    obtain ⟨s,run,held⟩ := runHeld start reads
    have digits : (digest.flatMap halves).length = 64 := by
      simp only [List.length_flatMap,halves,List.length_cons,List.length_nil]
      simp [size]
    simp only [parseSha256Fingerprint,Text.cutSome.mpr ⟨whole,absent⟩,label,ne_eq,not_true,if_false,run]
    rw [List.nil_append] at held
    generalize taken : digest.flatMap halves = all at held digits
    cases held with
    | even byte found =>
      cases halvesInjective taken
      simp [digits,size]
    | odd high small found =>
      have even : (found.flatMap halves).length = found.length * 2 := by
        simp [List.length_flatMap,halves]
      rw [List.length_append,List.length_singleton] at digits
      omega

theorem hexDigitRead : ∀ n : Fin 16, nibble (hexDigit n.val) = some n.val ∧ hexDigit n.val ≠ ':' := by
  decide

theorem makeFingerprintReads (digest : Bytes) :
    ((makeFingerprint digest).filter (· ≠ ':')).map nibble = (digest.flatMap halves).map some := by
  have one (byte : UInt8) : ((hexByte byte).filter (· ≠ ':')).map nibble = (halves byte).map some := by
    have high := hexDigitRead ⟨byte.toNat / 16,by have := byte.toNat_lt; omega⟩
    have low := hexDigitRead ⟨byte.toNat % 16,by omega⟩
    simp [hexByte,halves,high.1,high.2,low.1,low.2]
  have others (rest : Bytes) : ((rest.flatMap fun byte => ':' :: hexByte byte).filter
      (· ≠ ':')).map nibble = (rest.flatMap halves).map some := by
    induction rest with
    | nil => rfl
    | cons byte rest ih =>
      rw [List.flatMap_cons,List.flatMap_cons,List.filter_append,List.map_append,List.map_append,ih,
        List.filter_cons_of_neg (by simp),one]
  cases digest with
  | nil => rfl
  | cons first rest =>
    rw [makeFingerprint,List.flatMap_cons,List.filter_append,List.map_append,List.map_append,one,others]

theorem fingerprintGrammar :
    (∀ value digest, parseSha256Fingerprint value = some digest ↔ Describes value digest) ∧
    ∀ digest, digest.length = 32 →
      parseSha256Fingerprint ("sha-256 ".toList ++ makeFingerprint digest) = some digest :=
  ⟨parseDescribes,fun digest size => (parseDescribes _ digest).mpr
    ⟨"sha-256".toList,_,rfl,by decide,by decide,makeFingerprintReads digest,size⟩⟩

inductive ReadResult where
  | data | zeroReturn | wantRead | wantWrite | failed
  deriving DecidableEq, Repr

structure Profile where
  id : UInt16
  keySize : Nat
  saltSize : Nat

/- OpenSSL with a state of type σ: create is the configured context and its SSL, handshake says
whether SSL_do_handshake is done or waits for input, and takeOutput reads the write BIO empty. -/
structure Ssl (σ : Type) where
  create : DtlsRole → Option σ
  handshake : σ → σ × Bool
  write : σ → Bytes → σ × Bool
  read : σ → σ × ReadResult
  takeOutput : σ → σ × Bytes
  handleTimeout : σ → σ × Bool
  initFinished : σ → Bool
  peerDigest : σ → Option Bytes
  selectedProfile : σ → Option Profile
  exportKeyingMaterial : σ → Nat → Option Bytes

structure KeyingMaterial where
  profile : UInt16
  clientWriteKey : Bytes
  clientWriteSalt : Bytes
  serverWriteKey : Bytes
  serverWriteSalt : Bytes
  deriving DecidableEq, Repr

structure Transport (σ : Type) where
  ssl : Option σ
  srtpKeyingMaterial : Option KeyingMaterial

variable {σ ς ρ : Type}

def Transport.reset : Transport σ := ⟨none,none⟩
def Transport.connected (t : Transport σ) : Bool := t.srtpKeyingMaterial.isSome

def pumped (output : Bytes) : List Bytes × Bool :=
  match pumpOutgoing output with
  | none => ([],false)
  | some p => (p.sent,p.ok)

def startup (ssl : Ssl σ) (role : DtlsRole) : Transport σ × List Bytes × Bool :=
  match ssl.create role, role with
  | none, _ => (.reset,[],false)
  | some s, .server => (⟨some s,none⟩,[],true)
  | some s, .client =>
    let (s,waits) := ssl.handshake s
    if !waits then (.reset,[],false)
    else
      let (s,output) := ssl.takeOutput s
      let (sent,ok) := pumped output
      if ok then (⟨some s,none⟩,sent,true) else (.reset,sent,false)

def verifyPeerFingerprint (ssl : Ssl σ) (remote : Text) (s : σ) : Bool :=
  match parseSha256Fingerprint remote, ssl.peerDigest s with
  | some expected, some digest => expected == digest
  | _, _ => false

def exportSrtpKeyingMaterial (ssl : Ssl σ) (s : σ) : Option KeyingMaterial :=
  match ssl.selectedProfile s with
  | none => none
  | some profile =>
    let key := profile.keySize
    let salt := profile.saltSize
    if key = 0 || salt = 0 then none
    else
      (ssl.exportKeyingMaterial s (2 * (key + salt))).map fun raw =>
        ⟨profile.id,raw.take key,(raw.drop (2 * key)).take salt,(raw.drop key).take key,
          (raw.drop (2 * key + salt)).take salt⟩

def finishHandshake (ssl : Ssl σ) (remote : Text) (s : σ) : Option KeyingMaterial :=
  if verifyPeerFingerprint ssl remote s then exportSrtpKeyingMaterial ssl s else none

def handleDatagram (ssl : Ssl σ) (remote : Text) (t : Transport σ) (packet : Bytes) :
    Transport σ × List Bytes × Bool :=
  match t.ssl with
  | none => (t,[],false)
  | some s =>
    let (s,written) := ssl.write s packet
    if !written then (.reset,[],false)
    else
      let (s,result) := ssl.read s
      let (s,output) := ssl.takeOutput s
      let (sent,ok) := pumped output
      if !ok || result = .failed then (.reset,sent,false)
      else if result = .zeroReturn then ({t with ssl := some s},sent,false)
      else if !t.connected && ssl.initFinished s then
        match finishHandshake ssl remote s with
        | none => (.reset,sent,false)
        | some keys => (⟨some s,some keys⟩,sent,true)
      else ({t with ssl := some s},sent,true)

def handleTimeout (ssl : Ssl σ) (t : Transport σ) : Transport σ × List Bytes × Bool :=
  match t.ssl with
  | none => (.reset,[],false)
  | some s =>
    let (s,handled) := ssl.handleTimeout s
    if !handled then (.reset,[],false)
    else
      let (s,output) := ssl.takeOutput s
      let (sent,ok) := pumped output
      if ok then ({t with ssl := some s},sent,true) else (.reset,sent,false)

def masterKeys (keys : KeyingMaterial) : DtlsRole → Bytes × Bytes
  | .server => (keys.serverWriteKey ++ keys.serverWriteSalt,keys.clientWriteKey ++ keys.clientWriteSalt)
  | .client => (keys.clientWriteKey ++ keys.clientWriteSalt,keys.serverWriteKey ++ keys.serverWriteSalt)

def startSrtp (create : UInt16 → Bytes × Bytes → Option ς) (role : DtlsRole) (t : Transport σ) :
    Option ς :=
  t.srtpKeyingMaterial.bind fun keys => create keys.profile (masterKeys keys role)

def begun (ssl : Ssl σ) (localPort : UInt16) (iceUfrag icePwd remoteIceUfrag : Bytes) :
    Peer (Transport σ) ς :=
  ⟨localPort,iceUfrag,icePwd,remoteIceUfrag,none,some (startup ssl .server).1,none⟩

def engines (ssl : Ssl σ) (remote : Text) (create : UInt16 → Bytes × Bytes → Option ς)
    (media : Engines Unit ς ρ) : Engines (Transport σ) ς ρ where
  startup := startup ssl
  connected := Transport.connected
  handleDatagram := handleDatagram ssl remote
  handleTimeout := handleTimeout ssl
  startSrtp := startSrtp create .server
  protectRtp := media.protectRtp
  protectRtcp := media.protectRtcp
  unprotectRtp := media.unprotectRtp
  unprotectRtcp := media.unprotectRtcp
  inputRtp := media.inputRtp
  inputRtcp := media.inputRtcp

def Authenticated (ssl : Ssl σ) (remote : Text)
    (create : UInt16 → Bytes × Bytes → Option ς) (p : Peer (Transport σ) ς) : Prop :=
  ∃ s keys digest, p.dtls = some ⟨some s,some keys⟩ ∧ ssl.initFinished s = true ∧
    parseSha256Fingerprint remote = some digest ∧ ssl.peerDigest s = some digest ∧
    exportSrtpKeyingMaterial ssl s = some keys ∧
    p.srtp = create keys.profile (masterKeys keys .server)

section
variable {ssl : Ssl σ} {remote : Text}

theorem finishVerified {s : σ} {keys : KeyingMaterial}
    (finished : finishHandshake ssl remote s = some keys) :
    ∃ digest, parseSha256Fingerprint remote = some digest ∧
      ssl.peerDigest s = some digest ∧ exportSrtpKeyingMaterial ssl s = some keys := by
  rw [finishHandshake] at finished
  split at finished
  · rename_i verified
    rw [verifyPeerFingerprint] at verified
    split at verified
    · rename_i expected digest parsed peer
      exact ⟨digest,by rw [parsed,eq_of_beq verified],peer,finished⟩
    · cases verified
  · cases finished

variable {packet : Bytes} {hashes : Stun.Hashes}

theorem datagramConnects {t : Transport σ} (before : t.connected = false)
    (after : (handleDatagram ssl remote t packet).1.connected = true) :
    ∃ s keys, (handleDatagram ssl remote t packet).1 = ⟨some s,some keys⟩ ∧
      ssl.initFinished s = true ∧ finishHandshake ssl remote s = some keys := by
  have still {u : Transport σ} {P : Prop} (off : u.connected = false) (on : u.connected = true) : P := by
    rw [off] at on
    cases on
  revert after
  simp only [handleDatagram]
  split
  · exact still before
  · split
    · exact still rfl
    · split
      · exact still rfl
      · split
        · exact still before
        · split
          · rename_i initial
            split
            · exact still rfl
            · rename_i keys finished
              simp only [Bool.and_eq_true] at initial
              exact fun _ => ⟨_,keys,rfl,initial.2,finished⟩
          · exact still before

variable {create : UInt16 → Bytes × Bytes → Option ς} {media : Engines Unit ς ρ}

theorem dtlsStarts {p : Peer (Transport σ) ς} (before : p.srtp = none)
    (after : (p.handleDtls (engines ssl remote create media) packet).1.srtp ≠ none) :
    Authenticated ssl remote create
      (p.handleDtls (engines ssl remote create media) packet).1 := by
  revert after
  simp only [Peer.handleDtls]
  split
  · exact fun after => absurd before after
  · rename_i t _
    split
    · exact fun after => absurd before after
    · split
      · rename_i turned
        split
        · exact fun after => absurd before after
        · rename_i srtp started
          intro _
          simp only [engines,Bool.and_eq_true,Bool.not_eq_true'] at turned
          obtain ⟨s,keys,next,initial,finished⟩ := datagramConnects turned.1 turned.2
          obtain ⟨digest,parsed,peer,exported⟩ := finishVerified finished
          have begun : startSrtp create .server (handleDatagram ssl remote t packet).1 =
              some srtp := started
          rw [next] at begun
          exact ⟨s,keys,digest,congrArg some next,initial,parsed,peer,exported,begun.symm⟩
      · exact fun after => absurd before after

theorem timeoutSrtp (p : Peer (Transport σ) ς) :
    (p.handleDtlsTimeout (engines ssl remote create media)).1.srtp = p.srtp := by
  simp only [Peer.handleDtlsTimeout]
  split
  · rfl
  · split <;> rfl

theorem stunSrtp (hashes : Stun.Hashes) (p : Peer (Transport σ) ς) (packet : Bytes)
    (endpoint : Stun.Endpoint) : (p.handleStun hashes packet endpoint).1.srtp = p.srtp := by
  simp only [Peer.handleStun]
  split
  · rfl
  · repeat' split
    all_goals rfl

theorem whepStarts (s : WhepSession (Transport σ) ς) (e : WhepEvent) (before : s.peer.srtp = none)
    (after : (s.handle (engines ssl remote create media) hashes e).1.peer.srtp ≠ none) :
    Authenticated ssl remote create
      (s.handle (engines ssl remote create media) hashes e).1.peer := by
  cases e with
  | datagram packet endpoint =>
    revert after
    simp only [WhepSession.handle,WhepSession.handlePacket]
    split
    · exact fun after => absurd before after
    · split
      · exact fun after => absurd ((stunSrtp ..).trans before) after
      · split
        · exact fun after => absurd before after
        · split
          · exact dtlsStarts before
          · exact fun after => absurd before after
  | frame track keyFrame packets ok =>
    simp only [WhepSession.handle,WhepSession.onFrame,before] at after
    exact absurd rfl after
  | dtlsTimeout => exact absurd ((timeoutSrtp s.peer).trans before) after
  | shutdown =>
    simp only [WhepSession.handle,WhepSession.safeShutdown] at after
    split at after
    · exact absurd before after
    · exact absurd rfl after

theorem whipStarts (s : WhipSession (Transport σ) ς ρ) (e : WhipEvent) (before : s.peer.srtp = none) :
    let next := (s.handle (engines ssl remote create media) hashes e).1
    (next.peer.srtp ≠ none → Authenticated ssl remote create next.peer) ∧
      (next.mediaReceiver = s.mediaReceiver ∨ next.mediaReceiver = none) := by
  cases e with
  | datagram packet endpoint =>
    simp only [WhipSession.handle,WhipSession.handlePacket,WhipSession.handleSrtp,before]
    split
    · exact ⟨fun after => absurd before after,.inl rfl⟩
    · split
      · exact ⟨fun after => absurd ((stunSrtp ..).trans before) after,.inl rfl⟩
      · split
        · exact ⟨fun after => absurd before after,.inl rfl⟩
        · split
          · exact ⟨dtlsStarts before,.inl rfl⟩
          · split <;> exact ⟨fun after => absurd before after,.inl rfl⟩
  | dtlsTimeout =>
    simp only [WhipSession.handle]
    split
    · exact ⟨fun after => absurd before after,.inl rfl⟩
    · exact ⟨fun after => absurd ((timeoutSrtp s.peer).trans before) after,.inl rfl⟩
  | shutdown => exact ⟨fun after => absurd rfl after,.inr rfl⟩

theorem runsAuthenticated {St E F : Type} {step : St → E → St × List F}
    (peer : St → Peer (Transport σ) ς) {s : St} {events : List E} (fresh : (peer s).srtp = none)
    (starts : ∀ s e, (peer s).srtp = none → (peer (step s e).1).srtp ≠ none →
      Authenticated ssl remote create (peer (step s e).1))
    {before after : List (Round St E F)} {r : Round St E F}
    (cut : rounds step s events = before ++ r :: after) :
    r = .of step r.state r.event ∧ ((peer r.state).srtp ≠ none →
      ∃ e ∈ before, Authenticated ssl remote create (peer e.next)) := by
  have start : (peer s).srtp ≠ none → ∃ e ∈ ([] : List (Round St E F)),
      Authenticated ssl remote create (peer e.next) := fun runs => absurd fresh runs
  have held := roundsHistory (P := fun past s => (peer s).srtp ≠ none → ∃ e ∈ past,
    Authenticated ssl remote create (peer e.next)) start (fun past s e holds runs => by
      by_cases earlier : (peer s).srtp = none
      · exact ⟨_,List.mem_append_right _ (List.mem_singleton_self _),starts s e earlier runs⟩
      · obtain ⟨x,member,known⟩ := holds earlier
        exact ⟨x,List.mem_append_left _ member,known⟩) cut
  exact ⟨held.2,held.1⟩

end

theorem mediaAuthenticated (ssl : Ssl σ) (remote : Text)
    (create : UInt16 → Bytes × Bytes → Option ς) (media : Engines Unit ς ρ) (hashes : Stun.Hashes)
    (localPort : UInt16) (iceUfrag icePwd remoteIceUfrag : Bytes) :
    (∀ waiting events, EachRound (fun before r =>
      ∀ track keyFrame packets ok, r.event = .frame track keyFrame packets ok → r.effects ≠ [] →
        ∃ e ∈ before, Authenticated ssl remote create e.next.peer)
      (rounds (WhepSession.handle (engines ssl remote create media) hashes)
        ⟨begun ssl localPort iceUfrag icePwd remoteIceUfrag,true,waiting⟩ events)) ∧
    (∀ receiver events, EachRound (fun before r =>
      ∀ old new, r.state.mediaReceiver = some old → r.next.mediaReceiver = some new → old ≠ new →
        ∃ e ∈ before, Authenticated ssl remote create e.next.peer)
      (rounds (WhipSession.handle (engines ssl remote create media) hashes)
        ⟨begun ssl localPort iceUfrag icePwd remoteIceUfrag,some receiver⟩ events)) := by
  constructor
  · intro waiting events before r after cut track keyFrame packets ok frame sends
    obtain ⟨taken,known⟩ := runsAuthenticated WhepSession.peer rfl whepStarts cut
    apply known
    intro idle
    rw [taken,frame] at sends
    simp [Round.of,WhepSession.handle,WhepSession.onFrame,idle] at sends
  · intro receiver events before r after cut old new held next fed
    obtain ⟨taken,known⟩ := runsAuthenticated WhipSession.peer rfl
      (fun s e before => (whipStarts s e before).1) cut
    apply known
    intro idle
    rw [taken] at next
    rcases (whipStarts r.state r.event idle).2 with kept | gone
    · exact fed (Option.some.inj (held.symm.trans (kept.symm.trans next)))
    · cases gone.symm.trans next

end MediaServer.Dtls
