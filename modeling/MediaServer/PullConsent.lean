import Mathlib.Data.List.Nodup
import MediaServer.IceNomination
import MediaServer.WhepPull

/-! Selection and consent of a pull session. Every pending check was issued by an earlier
run of send_checks under its own transaction, and a response takes it out of the list; what
is selected, and what renews consent, was such a response. -/
namespace MediaServer.WhepPull
open Bytes Stun Webrtc Controller

variable {δ ς ρ : Type}

def Effect.checkedId : Effect → Option TransactionId
  | .checked transaction _ => some transaction
  | _ => none

def Effect.matchedId : Effect → Option TransactionId
  | .matched transaction _ => some transaction
  | _ => none

def Event.time : Event → Option Nat
  | .sendChecks now => some now
  | .datagram _ _ now => some now
  | _ => none

abbrev PullRound (δ ς ρ : Type) := Round (Session δ ς ρ) Event Effect

def checkedIds (past : List (PullRound δ ς ρ)) : List TransactionId :=
  (past.flatMap (·.effects)).filterMap Effect.checkedId

def matchedIds (past : List (PullRound δ ς ρ)) : List TransactionId :=
  (past.flatMap (·.effects)).filterMap Effect.matchedId

def selects (r : PullRound δ ς ρ) : Bool :=
  decide (r.next.selected ≠ none ∧ r.next.selected ≠ r.state.selected)

def Ordered (events : List Event) : Prop := (events.filterMap Event.time).Pairwise (· ≤ ·)

def issue (first : Vector UInt8 8) (now : Nat) : Nat → List Endpoint → List PendingCheck
  | _, [] => []
  | n, target :: rest =>
    ⟨transactionOf first (UInt32.ofNat (n + 1)),target,now⟩ :: issue first now (n + 1) rest

def Session.orders (hashes : Hashes) (s : Session δ ς ρ) (check : PendingCheck) : List Effect :=
  .checked check.transaction check.endpoint ::
    s.sendUdp .stun (s.checkPacket hashes check.transaction) check.endpoint

variable {n : Nat} {hashes : Hashes} {s t : Session δ ς ρ} {effects : List Effect}
  {past : List (PullRound δ ς ρ)}

theorem sendEachIssues (hashes : Hashes) (now : Nat) (s : Session δ ς ρ) (targets : List Endpoint)
    (counted : s.checkSequence = UInt32.ofNat n) :
    s.sendEach hashes now targets =
      ({s with
          checkSequence := UInt32.ofNat (n + targets.length)
          pendingChecks := s.pendingChecks ++ issue s.transactionPrefix now n targets},
        (issue s.transactionPrefix now n targets).flatMap (s.orders hashes)) := by
  induction targets generalizing s n with
  | nil => simp [Session.sendEach,issue,← counted]
  | cons target rest ih =>
    have next : s.checkSequence + 1 = UInt32.ofNat (n + 1) := by
      rw [counted,UInt32.ofNat_add]; rfl
    simp only [Session.sendEach,Session.sendCheck,next]
    rw [ih _ rfl]
    simp [issue,Session.orders,Nat.add_assoc,Nat.add_comm 1]
    rfl

theorem issueIds (first : Vector UInt8 8) (now n : Nat) (targets : List Endpoint) :
    (issue first now n targets).map (·.transaction) =
      (List.range' (n + 1) targets.length).map fun k => transactionOf first (UInt32.ofNat k) := by
  induction targets generalizing n with
  | nil => rfl
  | cons target rest ih => simp [issue,ih,List.range'_succ]

theorem issueMember {first : Vector UInt8 8} {now : Nat} {targets : List Endpoint}
    {check : PendingCheck} (member : check ∈ issue first now n targets) :
    check.sent = now ∧ check.endpoint ∈ targets := by
  induction targets generalizing n with
  | nil => simp [issue] at member
  | cons target rest ih =>
    rcases List.mem_cons.mp member with same | later
    · subst check; simp
    · exact ⟨(ih later).1,List.mem_cons_of_mem _ (ih later).2⟩

theorem transactionInj {first : Vector UInt8 8} {a b : UInt32}
    (same : transactionOf first a = transactionOf first b) : a = b := by
  have bytes := congrArg Vector.toList same
  unfold transactionOf at bytes
  rw [readArrayToList (by simp [le32]),readArrayToList (by simp [le32])] at bytes
  exact le32Inj (List.append_cancel_left bytes)

theorem idsDistinct (first : Vector UInt8 8) (few : n < 4294967296) :
    ((List.range' 1 n).map fun k => transactionOf first (UInt32.ofNat k)).Nodup := by
  apply List.Nodup.map_on
  · intro a left b right same
    have words := congrArg UInt32.toNat (transactionInj same)
    simp only [List.mem_range'_1] at left right
    simp only [UInt32.toNat_ofNat'] at words
    omega
  · exact List.nodup_range'

def Effect.inbound : Effect → Option (Bytes × Endpoint)
  | .toDtls endpoint packet => some (packet,endpoint)
  | .toSrtp endpoint packet => some (packet,endpoint)
  | _ => none

def Plain (effects : List Effect) : Prop :=
  ∀ f ∈ effects, f.checkedId = none ∧ f.matchedId = none ∧ f.inbound = none

structure Fixed (s t : Session δ ς ρ) : Prop where
  answer : t.answer = s.answer
  ufrag : t.iceUfrag = s.iceUfrag
  pwd : t.icePwd = s.icePwd
  tie : t.tieBreaker = s.tieBreaker
  first : t.transactionPrefix = s.transactionPrefix

structure Still (s t : Session δ ς ρ) : Prop extends Fixed s t where
  port : t.localPort = s.localPort
  sequence : t.checkSequence = s.checkSequence
  pending : t.pendingChecks = s.pendingChecks
  selected : t.selected = s.selected
  consent : t.consentReceived = s.consentReceived

inductive Outcome (s : Session δ ς ρ) (erased : List PendingCheck) (e : Endpoint) (now : Nat)
    (t : Session δ ς ρ) : Prop where
  | noted (chosen : s.selected ≠ none) (selected : t.selected = s.selected)
      (pending : t.pendingChecks = erased) (consent : t.consentReceived = s.consentReceived)
  | renewed (chosen : s.selected = some e) (selected : t.selected = some e)
      (pending : t.pendingChecks = erased) (consent : t.consentReceived = now)
  | selected (open_ : s.selected = none) (selected : t.selected = some e)
      (pending : t.pendingChecks = []) (consent : t.consentReceived = now)

inductive Step (hashes : Hashes) (n : Nat) (s : Session δ ς ρ) (event : Event) :
    Session δ ς ρ → List Effect → Prop where
  | quiet {t : Session δ ς ρ} {effects : List Effect} (still : Still s t)
      (silent : ∀ f ∈ effects, f.checkedId = none ∧ f.matchedId = none)
      (inbound : ∀ f ∈ effects, ∀ packet e, f.inbound = some (packet,e) →
        s.selected = some e ∧ ∃ now, event = .datagram packet e now)
      (idle : ∀ now, event = .sendChecks now → s.localPort = 0) : Step hashes n s event t effects
  | lapsed (now : Nat) (timed : event = .sendChecks now) :
      Step hashes n s event s [.postShutdown]
  | checks (now : Nat) (targets : List Endpoint) (kept : List PendingCheck)
      (timed : event = .sendChecks now) (opened : s.localPort ≠ 0)
      (consented : ∀ e, s.selected = some e → now - s.consentReceived < consentTimeout)
      (aimed : s.selected = none → targets = s.answer.candidates)
      (fewer : kept.Sublist s.pendingChecks) :
      Step hashes n s event
        {s with
          checkSequence := UInt32.ofNat (n + targets.length)
          pendingChecks := kept ++ issue s.transactionPrefix now n targets}
        ((issue s.transactionPrefix now n targets).flatMap (s.orders hashes))
  | matched {t : Session δ ς ρ} {effects : List Effect} (packet : Bytes) (e : Endpoint)
      (now : Nat) (transaction : TransactionId) (check : PendingCheck)
      (timed : event = .datagram packet e now) (opened : s.localPort ≠ 0)
      (parsed : parseStunBindingSuccessResponse hashes packet s.answer.icePwd = some transaction)
      (found : check ∈ s.pendingChecks)
      (answers : check.transaction = transaction ∧ check.endpoint = e ∧
        now - check.sent < transactionTimeout)
      (fixed : Fixed s t) (port : t.localPort = s.localPort)
      (sequence : t.checkSequence = s.checkSequence) (plain : Plain effects)
      (outcome : Outcome s (s.pendingChecks.eraseP (Session.answers transaction e now)) e now t) :
      Step hashes n s event t (.matched transaction e :: effects)
  | closed (shut : event = .shutdown) : Step hashes n s event s.safeShutdown []

theorem Still.refl (s : Session δ ς ρ) : Still s s := ⟨⟨rfl,rfl,rfl,rfl,rfl⟩,rfl,rfl,rfl,rfl,rfl⟩

theorem Plain.nil : Plain [] := by simp [Plain]

theorem Plain.append {first second : List Effect} (a : Plain first) (b : Plain second) :
    Plain (first ++ second) := by
  intro f member
  rcases List.mem_append.mp member with left | right
  · exact a f left
  · exact b f right

theorem Plain.one {f : Effect} (plain : f.checkedId = none ∧ f.matchedId = none ∧
    f.inbound = none) : Plain [f] := by
  intro g member
  rw [List.mem_singleton.mp member]
  exact plain

theorem plainUdp (s : Session δ ς ρ) (kind : Kind) (packet : Bytes) (endpoint : Endpoint) :
    Plain (s.sendUdp kind packet endpoint) := by
  unfold Session.sendUdp
  split
  · exact .nil
  · exact .one ⟨rfl,rfl,rfl⟩

theorem plainDtls (s : Session δ ς ρ) (output : List Bytes) :
    Plain (output.flatMap s.sendDtls) := by
  intro f member
  obtain ⟨packet,_,sent⟩ := List.mem_flatMap.mp member
  unfold Session.sendDtls at sent
  split at sent
  · simp at sent
  · exact plainUdp _ _ _ _ f sent

theorem plainPost : Plain [.postShutdown] := .one ⟨rfl,rfl,rfl⟩

theorem Plain.quiet {event : Event} (still : Still s t) (plain : Plain effects)
    (idle : ∀ now, event = .sendChecks now → s.localPort = 0) : Step hashes n s event t effects :=
  .quiet still (fun f member => ⟨(plain f member).1,(plain f member).2.1⟩)
    (fun f member packet e inbound => by simp [(plain f member).2.2] at inbound) idle

theorem requestPlain (hashes : Hashes) (s : Session δ ς ρ) (packet : Bytes)
    (endpoint : Endpoint) : Plain (s.handleRequest hashes packet endpoint) := by
  unfold Session.handleRequest
  split
  · exact .nil
  · split
    · exact .nil
    · split <;> exact plainUdp _ _ _ _

theorem dtlsStill (engines : Engines δ ς ρ) (s : Session δ ς ρ) (packet : Bytes) :
    Still s (s.handleDtls engines packet).1 ∧ Plain (s.handleDtls engines packet).2 := by
  unfold Session.handleDtls
  split
  · exact ⟨.refl s,.nil⟩
  · have sends := plainDtls s
    simp only
    split
    · exact ⟨⟨⟨rfl,rfl,rfl,rfl,rfl⟩,rfl,rfl,rfl,rfl,rfl⟩,(sends _).append plainPost⟩
    · split
      · exact ⟨⟨⟨rfl,rfl,rfl,rfl,rfl⟩,rfl,rfl,rfl,rfl,rfl⟩,sends _⟩
      · split
        · exact ⟨⟨⟨rfl,rfl,rfl,rfl,rfl⟩,rfl,rfl,rfl,rfl,rfl⟩,(sends _).append plainPost⟩
        · exact ⟨⟨⟨rfl,rfl,rfl,rfl,rfl⟩,rfl,rfl,rfl,rfl,rfl⟩,sends _⟩

theorem timeoutStill (engines : Engines δ ς ρ) (s : Session δ ς ρ) :
    Still s (s.handleDtlsTimeout engines).1 ∧ Plain (s.handleDtlsTimeout engines).2 := by
  unfold Session.handleDtlsTimeout
  split
  · exact ⟨.refl s,.nil⟩
  · split
    · exact ⟨.refl s,.nil⟩
    · have sends := plainDtls s
      refine ⟨⟨⟨rfl,rfl,rfl,rfl,rfl⟩,rfl,rfl,rfl,rfl,rfl⟩,?_⟩
      simp only
      split
      · exact sends _
      · exact (sends _).append plainPost

theorem srtpStill (engines : Engines δ ς ρ) (s : Session δ ς ρ) (packet : Bytes) :
    Still s (s.handleSrtp engines packet).1 ∧ Plain (s.handleSrtp engines packet).2 := by
  unfold Session.handleSrtp
  split
  · rename_i srtp receiver _ _
    simp only
    generalize (if isRtcp packet = true then engines.unprotectRtcp srtp packet
      else engines.unprotectRtp srtp packet) = unprotected
    obtain ⟨next,clear⟩ := unprotected
    cases clear with
    | none => exact ⟨⟨⟨rfl,rfl,rfl,rfl,rfl⟩,rfl,rfl,rfl,rfl,rfl⟩,.nil⟩
    | some clear =>
      simp only
      generalize (if isRtcp packet = true then engines.inputRtcp receiver clear
        else engines.inputRtp receiver clear) = fed
      obtain ⟨fed,accepted⟩ := fed
      refine ⟨⟨⟨rfl,rfl,rfl,rfl,rfl⟩,rfl,rfl,rfl,rfl,rfl⟩,?_⟩
      cases accepted with
      | true => exact .nil
      | false => exact plainPost
  · exact ⟨.refl s,.nil⟩

theorem Plain.inbound {now : Nat} {packet : Bytes} {endpoint : Endpoint} {input : Effect}
    (still : Still s t) (plain : Plain effects) (selected : s.selected = some endpoint)
    (input_ : input = .toDtls endpoint packet ∨ input = .toSrtp endpoint packet) :
    Step hashes n s (.datagram packet endpoint now) t (.touchIdle :: input :: effects) := by
  refine .quiet still ?_ ?_ (by simp)
  · intro f member
    simp only [List.mem_cons] at member
    rcases member with rfl | rfl | later
    · exact ⟨rfl,rfl⟩
    · rcases input_ with rfl | rfl <;> exact ⟨rfl,rfl⟩
    · exact ⟨(plain f later).1,(plain f later).2.1⟩
  · intro f member packet' e handed
    simp only [List.mem_cons] at member
    rcases member with rfl | rfl | later
    · contradiction
    · rcases input_ with rfl | rfl
      · cases Option.some.inj handed; exact ⟨selected,now,rfl⟩
      · cases Option.some.inj handed; exact ⟨selected,now,rfl⟩
    · simp [(plain f later).2.2] at handed

theorem matchedOutcome (engines : Engines δ ς ρ) (s : Session δ ς ρ) (endpoint : Endpoint)
    (now : Nat) :
    Fixed s (s.handleMatched engines endpoint now).1 ∧
    (s.handleMatched engines endpoint now).1.localPort = s.localPort ∧
    (s.handleMatched engines endpoint now).1.checkSequence = s.checkSequence ∧
    Plain (s.handleMatched engines endpoint now).2 ∧
    Outcome s s.pendingChecks endpoint now (s.handleMatched engines endpoint now).1 := by
  unfold Session.handleMatched
  split
  · rename_i selected chosen
    split
    · rename_i same
      subst same
      split
      · exact ⟨(Still.refl s).toFixed,rfl,rfl,plainPost,
          .noted (by simp [chosen]) rfl rfl rfl⟩
      · exact ⟨⟨rfl,rfl,rfl,rfl,rfl⟩,rfl,rfl,.one ⟨rfl,rfl,rfl⟩,
          .renewed chosen chosen rfl rfl⟩
    · exact ⟨(Still.refl s).toFixed,rfl,rfl,.nil,.noted (by simp [chosen]) rfl rfl rfl⟩
  · rename_i open_
    refine ⟨⟨rfl,rfl,rfl,rfl,rfl⟩,rfl,rfl,?_,.selected open_ rfl rfl rfl⟩
    simp only
    refine Plain.append (Plain.append (.one ⟨rfl,rfl,rfl⟩) (plainDtls _ _)) ?_
    split
    · exact .nil
    · exact plainPost

theorem stunSteps (engines : Engines δ ς ρ) (hashes : Hashes) (n : Nat) (s : Session δ ς ρ)
    (packet : Bytes) (endpoint : Endpoint) (now : Nat) (opened : s.localPort ≠ 0) :
    Step hashes n s (.datagram packet endpoint now)
      (s.handleStun engines hashes packet endpoint now).1
      (s.handleStun engines hashes packet endpoint now).2 := by
  unfold Session.handleStun
  split
  · rename_i transaction parsed
    split
    · exact Plain.quiet (.refl s) .nil (by simp)
    · rename_i pending
      obtain ⟨check,found⟩ : ∃ check, s.pendingChecks.find?
          (Session.answers transaction endpoint now) = some check :=
        Option.isSome_iff_exists.mp (by simpa using pending)
      have member := List.mem_of_find?_eq_some found
      have answers := List.find?_some found
      simp only [Session.answers,Bool.and_eq_true,beq_iff_eq,decide_eq_true_eq] at answers
      obtain ⟨fixed,port,sequence,plain,outcome⟩ := matchedOutcome engines
        {s with pendingChecks :=
          s.pendingChecks.eraseP (Session.answers transaction endpoint now)} endpoint now
      refine .matched packet endpoint now transaction check rfl opened parsed member
        ⟨answers.1.1,answers.1.2,answers.2⟩ ⟨fixed.answer,fixed.ufrag,fixed.pwd,fixed.tie,
          fixed.first⟩ port sequence plain ?_
      cases outcome with
      | noted chosen selected pending consent => exact .noted chosen selected pending consent
      | renewed chosen selected pending consent => exact .renewed chosen selected pending consent
      | selected open_ selected pending consent => exact .selected open_ selected pending consent
  · exact Plain.quiet (.refl s) (requestPlain hashes s packet endpoint) (by simp)

theorem steps (engines : Engines δ ς ρ) (hashes : Hashes) (s : Session δ ς ρ) (event : Event)
    (counted : s.checkSequence = UInt32.ofNat n) :
    Step hashes n s event (s.handle engines hashes event).1
      (s.handle engines hashes event).2 := by
  cases event with
  | sendChecks now =>
    simp only [Session.handle,Session.sendChecks]
    split
    · rename_i shut
      exact Plain.quiet (.refl s) .nil fun _ _ => shut
    · rename_i opened
      split
      · exact .lapsed now rfl
      · rename_i consented
        have each := sendEachIssues hashes now (s.expireChecks now) s.targets counted
        rw [each]
        refine .checks now s.targets _ rfl opened ?_ ?_ List.filter_sublist
        · intro e selected
          simpa [selected] using consented
        · intro open_
          simp [Session.targets,open_]
  | datagram packet endpoint now =>
    simp only [Session.handle,Session.handlePacket]
    split
    · exact Plain.quiet (.refl s) .nil (by simp)
    · rename_i usable
      split
      · exact stunSteps engines hashes n s packet endpoint now (by simp at usable; exact usable.1)
      · split
        · exact Plain.quiet (.refl s) .nil (by simp)
        · rename_i selected
          split
          · obtain ⟨still,plain⟩ := dtlsStill engines s packet
            exact plain.inbound still (not_not.mp selected) (.inl rfl)
          · split
            · obtain ⟨still,plain⟩ := srtpStill engines s packet
              exact plain.inbound still (not_not.mp selected) (.inr rfl)
            · exact Plain.quiet (.refl s) (.one ⟨rfl,rfl,rfl⟩) (by simp)
  | dtlsTimeout =>
    obtain ⟨still,plain⟩ := timeoutStill engines s
    exact plain.quiet still (by simp)
  | shutdown => exact .closed rfl

def Issued (hashes : Hashes) (start : Session δ ς ρ) (past : List (PullRound δ ς ρ))
    (check : PendingCheck) : Prop :=
  ∃ r ∈ past, r.event = .sendChecks check.sent ∧
    .checked check.transaction check.endpoint ∈ r.effects ∧
    (start.answer.icePwd.length ≤ maxInt →
      .sent .stun check.endpoint (start.checkPacket hashes check.transaction) ∈ r.effects)

structure Inv (hashes : Hashes) (start : Session δ ς ρ) (past : List (PullRound δ ς ρ))
    (s : Session δ ς ρ) : Prop where
  fixed : Fixed start s
  counted : ∃ n, s.checkSequence = UInt32.ofNat n ∧ checkedIds past =
    (List.range' 1 n).map fun k => transactionOf start.transactionPrefix (UInt32.ofNat k)
  issued : ∀ check ∈ s.pendingChecks, Issued hashes start past check ∧
    (s.selected = none → check.endpoint ∈ start.answer.candidates)
  unique : (checkedIds past).length < 4294967296 →
    (s.pendingChecks.map (·.transaction) ++ matchedIds past).Nodup
  known : ∀ id ∈ matchedIds past, id ∈ checkedIds past
  consented : ∀ e, s.selected = some e → ∃ r ∈ past, ∃ packet transaction,
    r.event = .datagram packet e s.consentReceived ∧ .matched transaction e ∈ r.effects
  closed : s.localPort = 0 → s.selected = none
  once : (past.filter selects).length ≤ 1
  never : s.localPort ≠ 0 → s.selected = none → past.filter selects = []

variable {start : Session δ ς ρ} {r : PullRound δ ς ρ}

theorem Issued.more {check : PendingCheck} (issued : Issued hashes start past check)
    (more : List (PullRound δ ς ρ)) : Issued hashes start (past ++ more) check := by
  obtain ⟨r,member,facts⟩ := issued
  exact ⟨r,List.mem_append_left _ member,facts⟩

theorem checkedMore (past : List (PullRound δ ς ρ)) (r : PullRound δ ς ρ) :
    checkedIds (past ++ [r]) = checkedIds past ++ r.effects.filterMap Effect.checkedId := by
  simp [checkedIds]

theorem matchedMore (past : List (PullRound δ ς ρ)) (r : PullRound δ ς ρ) :
    matchedIds (past ++ [r]) = matchedIds past ++ r.effects.filterMap Effect.matchedId := by
  simp [matchedIds]

theorem issuedKnown {check : PendingCheck} (issued : Issued hashes start past check) :
    check.transaction ∈ checkedIds past := by
  obtain ⟨r,member,_,checked,_⟩ := issued
  exact List.mem_filterMap.mpr ⟨_,List.mem_flatMap.mpr ⟨r,member,checked⟩,rfl⟩

theorem ordersIds (hashes : Hashes) (s : Session δ ς ρ) (checks : List PendingCheck) :
    (checks.flatMap (s.orders hashes)).filterMap Effect.checkedId =
      checks.map (·.transaction) ∧
    (checks.flatMap (s.orders hashes)).filterMap Effect.matchedId = [] := by
  have plain (kind : Kind) (packet : Bytes) (endpoint : Endpoint) :
      (s.sendUdp kind packet endpoint).filterMap Effect.checkedId = [] ∧
      (s.sendUdp kind packet endpoint).filterMap Effect.matchedId = [] := by
    unfold Session.sendUdp
    split <;> exact ⟨rfl,rfl⟩
  have one (check : PendingCheck) :
      (s.orders hashes check).filterMap Effect.checkedId = [check.transaction] ∧
      (s.orders hashes check).filterMap Effect.matchedId = [] := by
    obtain ⟨checked,matched⟩ := plain .stun (s.checkPacket hashes check.transaction) check.endpoint
    exact ⟨congrArg (check.transaction :: ·) checked,matched⟩
  induction checks with
  | nil => exact ⟨rfl,rfl⟩
  | cons check rest ih =>
    rw [List.flatMap_cons,List.filterMap_append,List.filterMap_append,ih.1,ih.2,(one check).1,
      (one check).2]
    exact ⟨rfl,rfl⟩

theorem requestNonempty (hashes : Hashes) (id : TransactionId) (username : Bytes)
    {password : Bytes} (priority : UInt32) (tieBreaker : UInt64)
    (key : password.length ≤ maxInt) :
    makeStunBindingRequest hashes id username password priority tieBreaker ≠ [] := by
  intro empty
  have size := congrArg List.length empty
  simp only [makeStunBindingRequest,appendIntegrityAndFingerprint,hmacSha1,
    if_neg (Nat.not_lt.mpr key),Option.getD_some] at size
  simp [Tlv.appendAttribute] at size

theorem orderSent (hashes : Hashes) (opened : s.localPort ≠ 0) (check : PendingCheck)
    (key : s.answer.icePwd.length ≤ maxInt) :
    .sent .stun check.endpoint (s.checkPacket hashes check.transaction) ∈
      s.orders hashes check := by
  have full := requestNonempty hashes check.transaction s.checkUsername hostCandidatePriority
    s.tieBreaker key
  have size : (s.checkPacket hashes check.transaction).isEmpty = false := by
    simpa [Session.checkPacket] using full
  simp [Session.orders,Session.sendUdp,opened,size]

theorem silentIds (silent : ∀ f ∈ effects, f.checkedId = none ∧ f.matchedId = none) :
    effects.filterMap Effect.checkedId = [] ∧ effects.filterMap Effect.matchedId = [] := by
  constructor
  · exact List.filterMap_eq_nil_iff.mpr fun f member => (silent f member).1
  · exact List.filterMap_eq_nil_iff.mpr fun f member => (silent f member).2

theorem selectsMore (same : selects r = false) :
    (past ++ [r]).filter selects = past.filter selects := by
  simp [List.filter_append,same]

theorem notSelects (same : r.next.selected = none ∨ r.next.selected = r.state.selected) :
    selects r = false := by
  unfold selects
  rcases same with none_ | kept
  · simp [none_]
  · simp [kept]

theorem Fixed.trans {u : Session δ ς ρ} (a : Fixed s t) (b : Fixed t u) : Fixed s u :=
  ⟨b.answer.trans a.answer,b.ufrag.trans a.ufrag,b.pwd.trans a.pwd,b.tie.trans a.tie,
    b.first.trans a.first⟩

theorem Fixed.checkPacket (fixed : Fixed s t) (hashes : Hashes) (id : TransactionId) :
    t.checkPacket hashes id = s.checkPacket hashes id := by
  simp [Session.checkPacket,Session.checkUsername,fixed.answer,fixed.ufrag,fixed.tie]

section next
variable {hashes : Hashes} {start s t : Session δ ς ρ} {past : List (PullRound δ ς ρ)}
  {event : Event} {effects : List Effect}

theorem silentMore (past : List (PullRound δ ς ρ)) (r : PullRound δ ς ρ)
    (silent : ∀ f ∈ r.effects, f.checkedId = none ∧ f.matchedId = none) :
    checkedIds (past ++ [r]) = checkedIds past ∧ matchedIds (past ++ [r]) = matchedIds past := by
  obtain ⟨checked,matched⟩ := silentIds silent
  rw [checkedMore,checked,matchedMore,matched,List.append_nil,List.append_nil]
  exact ⟨rfl,rfl⟩

theorem Inv.still (inv : Inv hashes start past s) (still : Still s t)
    (silent : ∀ f ∈ effects, f.checkedId = none ∧ f.matchedId = none) :
    Inv hashes start (past ++ [⟨s,event,t,effects⟩]) t := by
  obtain ⟨same,same'⟩ := silentMore past ⟨s,event,t,effects⟩ silent
  have kept : selects (⟨s,event,t,effects⟩ : PullRound δ ς ρ) = false :=
    notSelects (.inr still.selected)
  refine ⟨inv.fixed.trans still.toFixed,?_,?_,?_,?_,?_,?_,?_,?_⟩
  · rw [same,still.sequence]; exact inv.counted
  · rw [still.pending,still.selected]
    intro check member
    exact ⟨(inv.issued check member).1.more _,(inv.issued check member).2⟩
  · rw [same,same',still.pending]; exact inv.unique
  · rw [same,same']; exact inv.known
  · rw [still.selected,still.consent]
    intro e selected
    obtain ⟨r,member,facts⟩ := inv.consented e selected
    exact ⟨r,List.mem_append_left _ member,facts⟩
  · rw [still.port,still.selected]; exact inv.closed
  · rw [selectsMore kept]; exact inv.once
  · rw [selectsMore kept,still.port,still.selected]; exact inv.never

theorem Inv.close (inv : Inv hashes start past s) :
    Inv hashes start (past ++ [⟨s,event,s.safeShutdown,[]⟩]) s.safeShutdown := by
  obtain ⟨same,same'⟩ := silentMore past ⟨s,event,s.safeShutdown,[]⟩ nofun
  have kept : selects (⟨s,event,s.safeShutdown,[]⟩ : PullRound δ ς ρ) = false :=
    notSelects (.inl rfl)
  refine ⟨inv.fixed.trans ⟨rfl,rfl,rfl,rfl,rfl⟩,?_,?_,?_,?_,?_,fun _ => rfl,?_,?_⟩
  · rw [same]; exact inv.counted
  · intro check member
    simp [Session.safeShutdown] at member
  · rw [same,same']
    intro few
    exact (List.nodup_append.mp (inv.unique few)).2.1
  · rw [same,same']; exact inv.known
  · intro e selected
    simp [Session.safeShutdown] at selected
  · rw [selectsMore kept]; exact inv.once
  · intro opened
    exact absurd rfl opened

theorem Inv.check (inv : Inv hashes start past s) {n now : Nat} {targets : List Endpoint}
    {kept : List PendingCheck}
    (ids : checkedIds past = (List.range' 1 n).map fun k =>
      transactionOf start.transactionPrefix (UInt32.ofNat k))
    (opened : s.localPort ≠ 0) (aimed : s.selected = none → targets = s.answer.candidates)
    (fewer : kept.Sublist s.pendingChecks)
    (next : t = {s with
      checkSequence := UInt32.ofNat (n + targets.length)
      pendingChecks := kept ++ issue s.transactionPrefix now n targets})
    (ordered : effects = (issue s.transactionPrefix now n targets).flatMap (s.orders hashes)) :
    Inv hashes start (past ++ [⟨s,.sendChecks now,t,effects⟩]) t := by
  have first := inv.fixed.first
  obtain ⟨checked,matched⟩ := ordersIds hashes s (issue s.transactionPrefix now n targets)
  rw [← ordered] at checked matched
  have fresh : checkedIds (past ++ [⟨s,.sendChecks now,t,effects⟩]) = checkedIds past ++
      (issue s.transactionPrefix now n targets).map (·.transaction) := by
    rw [checkedMore,checked]
  have all : checkedIds (past ++ [⟨s,.sendChecks now,t,effects⟩]) =
      (List.range' 1 (n + targets.length)).map fun k =>
        transactionOf start.transactionPrefix (UInt32.ofNat k) := by
    rw [fresh,issueIds,ids,first,← List.map_append,Nat.add_comm n 1,List.range'_append_1]
  have same' : matchedIds (past ++ [⟨s,.sendChecks now,t,effects⟩]) = matchedIds past := by
    rw [matchedMore,matched,List.append_nil]
  have quiet : selects (⟨s,.sendChecks now,t,effects⟩ : PullRound δ ς ρ) = false :=
    notSelects (.inr (by rw [next]))
  have fixed : Fixed s t := by rw [next]; exact ⟨rfl,rfl,rfl,rfl,rfl⟩
  have selected : t.selected = s.selected := by rw [next]
  have port : t.localPort = s.localPort := by rw [next]
  have consent : t.consentReceived = s.consentReceived := by rw [next]
  have pending : t.pendingChecks = kept ++ issue s.transactionPrefix now n targets := by rw [next]
  refine ⟨inv.fixed.trans fixed,⟨n + targets.length,by rw [next],all⟩,?_,?_,?_,?_,?_,?_,?_⟩
  · rw [pending,selected]
    intro check member
    rcases List.mem_append.mp member with old | new
    · have facts := inv.issued check (fewer.subset old)
      exact ⟨facts.1.more _,facts.2⟩
    · obtain ⟨sent,target⟩ := issueMember new
      refine ⟨⟨_,List.mem_append_right _ (List.mem_singleton_self _),by rw [sent],?_,?_⟩,?_⟩
      · rw [ordered]
        exact List.mem_flatMap.mpr ⟨check,new,List.mem_cons_self ..⟩
      · intro key
        rw [ordered,← inv.fixed.checkPacket]
        exact List.mem_flatMap.mpr ⟨check,new,orderSent hashes opened check
          (by rw [inv.fixed.answer]; exact key)⟩
      · intro open_
        rw [aimed open_,inv.fixed.answer] at target
        exact target
  · intro few
    rw [pending,same',List.map_append,List.append_assoc]
    have distinct := idsDistinct start.transactionPrefix (n := n + targets.length)
      (by rw [all] at few; simpa using few)
    rw [← all,fresh] at distinct
    have old := inv.unique (by rw [fresh,List.length_append] at few; omega)
    have parts := List.nodup_append.mp distinct
    have mine : ∀ id ∈ kept.map (·.transaction) ++ matchedIds past, id ∈ checkedIds past := by
      intro id member
      rcases List.mem_append.mp member with waiting | answered
      · obtain ⟨check,held,same⟩ := List.mem_map.mp waiting
        rw [← same]
        exact issuedKnown (inv.issued check (fewer.subset held)).1
      · exact inv.known id answered
    have smaller : (kept.map (·.transaction) ++ matchedIds past).Nodup :=
      old.sublist ((fewer.map _).append_right _)
    have apart : ((kept.map (·.transaction) ++ matchedIds past) ++
        (issue s.transactionPrefix now n targets).map (·.transaction)).Nodup :=
      List.nodup_append.mpr ⟨smaller,parts.2.1,fun a left b right =>
        parts.2.2 a (mine a left) b right⟩
    rw [List.append_assoc] at apart
    exact (List.Perm.append_left _ List.perm_append_comm).nodup apart
  · rw [same',fresh]
    intro id member
    exact List.mem_append_left _ (inv.known id member)
  · rw [selected,consent]
    intro e chosen
    obtain ⟨r,member,facts⟩ := inv.consented e chosen
    exact ⟨r,List.mem_append_left _ member,facts⟩
  · rw [port,selected]; exact inv.closed
  · rw [selectsMore quiet]; exact inv.once
  · rw [selectsMore quiet,port,selected]; exact inv.never

variable {e : Endpoint}

variable {transaction : TransactionId} {packet : Bytes}

theorem answeredMoves {checks : List PendingCheck} {ids : List TransactionId} {now : Nat}
    {check : PendingCheck} (found : check ∈ checks)
    (answers : Session.answers transaction e now check = true)
    (distinct : (checks.map (·.transaction) ++ ids).Nodup) :
    ((checks.eraseP (Session.answers transaction e now)).map (·.transaction) ++
      (ids ++ [transaction])).Nodup := by
  obtain ⟨first,before,after,_,answered,split,erased⟩ :=
    List.exists_of_eraseP found answers
  have named : first.transaction = transaction := by
    simp only [Session.answers,Bool.and_eq_true,beq_iff_eq] at answered
    exact answered.1.1
  rw [erased]
  rw [split,List.map_append,List.map_cons,named] at distinct
  rw [List.map_append,← List.append_assoc]
  have moved : (before.map (·.transaction) ++ transaction :: after.map (·.transaction) ++ ids).Perm
      (before.map (·.transaction) ++ after.map (·.transaction) ++ ids ++ [transaction]) := by
    refine (List.perm_middle.append_right ids).trans ?_
    exact (List.perm_append_singleton transaction _).symm
  exact moved.nodup distinct

theorem Inv.match_ (inv : Inv hashes start past s) {now : Nat} {check : PendingCheck}
    (opened : s.localPort ≠ 0) (found : check ∈ s.pendingChecks)
    (answers : check.transaction = transaction ∧ check.endpoint = e ∧
      now - check.sent < transactionTimeout)
    (fixed : Fixed s t) (port : t.localPort = s.localPort)
    (sequence : t.checkSequence = s.checkSequence) (plain : Plain effects)
    (outcome : Outcome s (s.pendingChecks.eraseP (Session.answers transaction e now)) e now t) :
    Inv hashes start (past ++ [⟨s,.datagram packet e now,t,.matched transaction e :: effects⟩])
      t := by
  have silent : ∀ f ∈ effects, f.checkedId = none ∧ f.matchedId = none := fun f member =>
    ⟨(plain f member).1,(plain f member).2.1⟩
  obtain ⟨checked,matched⟩ := silentIds silent
  let r : PullRound δ ς ρ := ⟨s,.datagram packet e now,t,.matched transaction e :: effects⟩
  have same : checkedIds (past ++ [r]) = checkedIds past := by
    rw [checkedMore]
    change checkedIds past ++ effects.filterMap Effect.checkedId = _
    rw [checked,List.append_nil]
  have more : matchedIds (past ++ [r]) = matchedIds past ++ [transaction] := by
    rw [matchedMore]
    change matchedIds past ++ (transaction :: effects.filterMap Effect.matchedId) = _
    rw [matched]
  have erased : (s.pendingChecks.eraseP (Session.answers transaction e now)).Sublist
      s.pendingChecks := List.eraseP_sublist
  have left : (checkedIds past).length < 4294967296 →
      ((s.pendingChecks.eraseP (Session.answers transaction e now)).map (·.transaction) ++
        (matchedIds past ++ [transaction])).Nodup := by
    intro few
    refine answeredMoves found ?_ (inv.unique few)
    simp only [Session.answers,Bool.and_eq_true,beq_iff_eq,decide_eq_true_eq]
    exact ⟨⟨answers.1,answers.2.1⟩,answers.2.2⟩
  have known : ∀ id ∈ matchedIds (past ++ [r]), id ∈ checkedIds (past ++ [r]) := by
    rw [same,more]
    intro id member
    rcases List.mem_append.mp member with old | new
    · exact inv.known id old
    · rw [List.mem_singleton.mp new,← answers.1]
      exact issuedKnown (inv.issued check found).1
  have counted : ∃ n, t.checkSequence = UInt32.ofNat n ∧ checkedIds (past ++ [r]) =
      (List.range' 1 n).map fun k =>
        transactionOf start.transactionPrefix (UInt32.ofNat k) := by
    rw [same,sequence]; exact inv.counted
  have issued : ∀ check ∈ s.pendingChecks.eraseP (Session.answers transaction e now),
      Issued hashes start (past ++ [r]) check := fun check member =>
    (inv.issued check (erased.subset member)).1.more _
  have closed : t.localPort = 0 → t.selected = none := by
    rw [port]
    intro shut
    exact absurd shut opened
  have here : ∃ r' ∈ past ++ [r], ∃ packet transaction,
      r'.event = .datagram packet e now ∧ .matched transaction e ∈ r'.effects :=
    ⟨r,List.mem_append_right _ (List.mem_singleton_self _),packet,transaction,rfl,
      List.mem_cons_self ..⟩
  cases outcome with
  | noted chosen selected pending consent =>
    have kept : selects r = false := notSelects (.inr selected)
    refine ⟨inv.fixed.trans fixed,counted,?_,?_,known,?_,closed,?_,?_⟩
    · rw [pending,selected]
      intro check member
      exact ⟨issued check member,fun none_ => absurd none_ chosen⟩
    · rw [same,more,pending]; exact left
    · rw [selected,consent]
      intro e' chosen'
      obtain ⟨r',member,facts⟩ := inv.consented e' chosen'
      exact ⟨r',List.mem_append_left _ member,facts⟩
    · rw [selectsMore kept]; exact inv.once
    · rw [selected]
      intro _ none_
      exact absurd none_ chosen
  | renewed chosen selected pending consent =>
    have kept : selects r = false := notSelects (.inr (selected.trans chosen.symm))
    refine ⟨inv.fixed.trans fixed,counted,?_,?_,known,?_,closed,?_,?_⟩
    · rw [pending,selected]
      intro check member
      exact ⟨issued check member,fun none_ => by contradiction⟩
    · rw [same,more,pending]; exact left
    · rw [selected,consent]
      intro e' chosen'
      cases Option.some.inj chosen'
      exact here
    · rw [selectsMore kept]; exact inv.once
    · rw [selected]
      intro _ none_
      contradiction
  | selected open_ selected pending consent =>
    refine ⟨inv.fixed.trans fixed,counted,?_,?_,known,?_,closed,?_,?_⟩
    · rw [pending]
      intro check member
      simp at member
    · rw [same,more,pending]
      intro few
      exact (List.nodup_append.mp (left few)).2.1
    · rw [selected,consent]
      intro e' chosen'
      cases Option.some.inj chosen'
      exact here
    · rw [List.filter_append,inv.never opened open_]
      exact List.length_filter_le _ [r]
    · rw [selected]
      intro _ none_
      contradiction

theorem stepInbound {n : Nat} (step : Step hashes n s event t effects) {f : Effect}
    (member : f ∈ effects) (inbound : f.inbound = some (packet,e)) :
    s.selected = some e ∧ ∃ now, event = .datagram packet e now := by
  cases step with
  | quiet _ _ handed => exact handed f member packet e inbound
  | lapsed => rw [List.mem_singleton.mp member] at inbound; contradiction
  | checks now targets =>
    obtain ⟨check,_,ordered⟩ := List.mem_flatMap.mp member
    rcases List.mem_cons.mp ordered with same | sent
    · subst f; contradiction
    · rw [(plainUdp _ _ _ _ f sent).2.2] at inbound; contradiction
  | matched packet' e' now transaction check timed opened parsed found answers fixed port sequence
      plain =>
    rcases List.mem_cons.mp member with same | later
    · subst f; contradiction
    · rw [(plain f later).2.2] at inbound; contradiction
  | closed => simp at member

theorem Inv.next (engines : Engines δ ς ρ) (inv : Inv hashes start past s) (event : Event) :
    Inv hashes start (past ++ [.of (Session.handle engines hashes) s event])
      (s.handle engines hashes event).1 := by
  obtain ⟨n,counted,ids⟩ := inv.counted
  have step := steps engines hashes s event counted
  unfold Round.of
  generalize (s.handle engines hashes event).1 = t at step ⊢
  generalize (s.handle engines hashes event).2 = effects at step ⊢
  cases step with
  | quiet still silent => exact inv.still still silent
  | lapsed now timed => exact inv.still (.refl s) (by simp [Effect.checkedId,Effect.matchedId])
  | checks now targets kept timed opened consented aimed fewer =>
    subst timed
    exact inv.check ids opened aimed fewer rfl rfl
  | matched packet e now transaction check timed opened parsed found answers fixed port sequence
      plain outcome =>
    subst timed
    exact inv.match_ opened found answers fixed port sequence plain outcome
  | closed shut => exact inv.close

end next

/- An authenticated response to a check sent to its source not long before. -/
structure Answered (hashes : Hashes) (start : Session δ ς ρ) (past : List (PullRound δ ς ρ))
    (r : PullRound δ ς ρ) (e : Endpoint) (transaction : TransactionId) (now : Nat) : Prop where
  response : ∃ packet, r.event = .datagram packet e now ∧
    parseStunBindingSuccessResponse hashes packet start.answer.icePwd = some transaction
  check : ∃ r₀ ∈ past, ∃ sent, r₀.event = .sendChecks sent ∧ sent ≤ now ∧
    now < sent + transactionTimeout ∧ .checked transaction e ∈ r₀.effects ∧
    .sent .stun e (start.checkPacket hashes transaction) ∈ r₀.effects

section rounds
variable {engines : Engines δ ς ρ} {hashes : Hashes} {start : Session δ ς ρ}
  {events : List Event} {before after : List (PullRound δ ς ρ)} {r : PullRound δ ς ρ}

def Fresh (start : Session δ ς ρ) : Prop :=
  start.selected = none ∧ start.pendingChecks = [] ∧ start.checkSequence = 0

theorem Inv.first (fresh : Fresh start) : Inv hashes start [] start := by
  obtain ⟨selected,pending,sequence⟩ := fresh
  refine ⟨(Still.refl start).toFixed,⟨0,by rw [sequence]; rfl,rfl⟩,?_,?_,?_,?_,fun _ => selected,
    ?_,?_⟩
  · simp [pending]
  · simp [pending,matchedIds]
  · simp [matchedIds]
  · simp [selected]
  · simp
  · simp

theorem roundFacts (fresh : Fresh start)
    (cut : rounds (Session.handle engines hashes) start events = before ++ r :: after) :
    Inv hashes start before r.state ∧ ∃ n, Step hashes n r.state r.event r.next r.effects := by
  obtain ⟨inv,taken⟩ := roundsHistory (P := Inv hashes start) (.first fresh)
    (fun past s event inv => inv.next engines event) cut
  obtain ⟨n,counted,_⟩ := inv.counted
  have step := steps engines hashes r.state r.event counted
  have next : (r.state.handle engines hashes r.event).1 = r.next := congrArg (·.next) taken.symm
  have effects : (r.state.handle engines hashes r.event).2 = r.effects :=
    congrArg (·.effects) taken.symm
  rw [next,effects] at step
  exact ⟨inv,n,step⟩

theorem timesOrdered (ordered : Ordered events)
    (cut : rounds (Session.handle engines hashes) start events = before ++ r :: after)
    {r₀ : PullRound δ ς ρ} (member : r₀ ∈ before) {sent now : Nat}
    (first : r₀.event.time = some sent) (second : r.event.time = some now) : sent ≤ now := by
  have same := roundsEvents (Session.handle engines hashes) start events
  rw [cut,List.map_append,List.map_cons] at same
  unfold Ordered at ordered
  rw [← same,List.filterMap_append,List.filterMap_cons,second,List.pairwise_append] at ordered
  exact ordered.2.2 sent (List.mem_filterMap.mpr ⟨_,List.mem_map_of_mem member,first⟩) now
    (List.mem_cons_self ..)

variable {e : Endpoint}

theorem matchedAnswered (fresh : Fresh start) (ordered : Ordered events)
    (cut : rounds (Session.handle engines hashes) start events = before ++ r :: after)
    {transaction : TransactionId} (matched : .matched transaction e ∈ r.effects) :
    (∃ now, Answered hashes start before r e transaction now) ∧
      (r.state.selected = none → e ∈ start.answer.candidates) := by
  obtain ⟨inv,n,step⟩ := roundFacts fresh cut
  have silent {effects : List Effect}
      (none_ : ∀ f ∈ effects, f.matchedId = none) : ¬.matched transaction e ∈ effects := by
    intro member
    have no := none_ _ member
    contradiction
  obtain ⟨state,event,next,effects⟩ := r
  simp only at step matched
  cases step with
  | quiet _ quiet => exact absurd matched (silent fun f member => (quiet f member).2)
  | lapsed => simp at matched
  | checks now targets kept =>
    have ids := (ordersIds hashes state (issue state.transactionPrefix now n targets)).2
    exact absurd matched (silent fun f member => List.filterMap_eq_nil_iff.mp ids f member)
  | closed => simp at matched
  | matched packet e' now transaction' check timed opened parsed found answers fixed port sequence
      plain outcome =>
    rcases List.mem_cons.mp matched with same | later
    · cases same
      obtain ⟨issued,candidate⟩ := inv.issued check found
      obtain ⟨named,source,recent⟩ := answers
      rw [inv.fixed.answer] at parsed
      obtain ⟨r₀,member,asked,checked,sent⟩ := issued
      have sooner : check.sent ≤ now :=
        timesOrdered ordered cut member (by rw [asked]; rfl) (by rw [timed]; rfl)
      rw [named,source] at checked sent
      rw [source] at candidate
      exact ⟨⟨now,⟨packet,timed,parsed⟩,r₀,member,check.sent,asked,sooner,by omega,checked,
        sent (responseKey parsed)⟩,candidate⟩
    · exact absurd later (silent fun f member => (plain f member).2.1)

theorem selectionMatched (fresh : Fresh start)
    (cut : rounds (Session.handle engines hashes) start events = before ++ r :: after)
    (selected : r.next.selected = some e) (changed : r.state.selected ≠ some e) :
    r.state.selected = none ∧ ∃ transaction, .matched transaction e ∈ r.effects := by
  obtain ⟨inv,n,step⟩ := roundFacts fresh cut
  obtain ⟨state,event,next,effects⟩ := r
  simp only at step selected changed ⊢
  cases step with
  | quiet still => rw [still.selected] at selected; exact absurd selected changed
  | lapsed => exact absurd selected changed
  | checks => exact absurd selected changed
  | closed => simp [Session.safeShutdown] at selected
  | matched packet e' now transaction check timed opened parsed found answers fixed port sequence
      plain outcome =>
    cases outcome with
    | noted _ kept => rw [kept] at selected; exact absurd selected changed
    | renewed chosen kept =>
      rw [kept] at selected
      exact absurd (chosen.trans selected) changed
    | selected open_ set =>
      rw [set] at selected
      cases Option.some.inj selected
      exact ⟨open_,transaction,List.mem_cons_self ..⟩

theorem consentMatched (fresh : Fresh start)
    (cut : rounds (Session.handle engines hashes) start events = before ++ r :: after)
    (selected : r.state.selected = some e)
    (changed : r.next.consentReceived ≠ r.state.consentReceived) :
    ∃ packet transaction, r.event = .datagram packet e r.next.consentReceived ∧
      .matched transaction e ∈ r.effects := by
  obtain ⟨inv,n,step⟩ := roundFacts fresh cut
  obtain ⟨state,event,next,effects⟩ := r
  simp only at step selected changed ⊢
  cases step with
  | quiet still => exact absurd still.consent changed
  | lapsed => exact absurd rfl changed
  | checks => exact absurd rfl changed
  | closed => exact absurd rfl changed
  | matched packet e' now transaction check timed opened parsed found answers fixed port sequence
      plain outcome =>
    cases outcome with
    | noted _ _ _ consent => exact absurd consent changed
    | renewed chosen _ _ consent =>
      cases Option.some.inj (chosen.symm.trans selected)
      rw [consent]
      exact ⟨packet,transaction,timed,List.mem_cons_self ..⟩
    | selected open_ => rw [open_] at selected; contradiction

theorem consentLapses (fresh : Fresh start)
    (cut : rounds (Session.handle engines hashes) start events = before ++ r :: after) {now : Nat}
    (selected : r.state.selected = some e) (checks : r.event = .sendChecks now)
    (silent : ∀ m ∈ before, ∀ transaction packet t, m.event = .datagram packet e t →
      .matched transaction e ∈ m.effects → t + consentTimeout ≤ now) :
    .postShutdown ∈ r.effects := by
  obtain ⟨inv,n,step⟩ := roundFacts fresh cut
  obtain ⟨m,member,packet,transaction,answered,matched⟩ := inv.consented e selected
  have lapsed := silent m member transaction packet _ answered matched
  obtain ⟨state,event,next,effects⟩ := r
  simp only at step selected checks lapsed ⊢
  cases step with
  | quiet still quiet inbound idle =>
    have none_ := inv.closed (idle now checks)
    rw [selected] at none_
    contradiction
  | lapsed => exact List.mem_singleton_self _
  | checks now' targets kept timed opened consented =>
    rw [checks] at timed
    cases timed
    have recent := consented e selected
    unfold consentTimeout at *
    omega
  | matched packet e' now' transaction check timed => rw [checks] at timed; contradiction
  | closed shut => rw [checks] at shut; contradiction

end rounds

theorem pullSelectionAndConsent (engines : Engines δ ς ρ) (hashes : Hashes)
    (start : Session δ ς ρ) (events : List Event) (fresh : Fresh start) (ordered : Ordered events)
    (few : (checkedIds (rounds (Session.handle engines hashes) start events)).length <
      4294967296) :
    ((rounds (Session.handle engines hashes) start events).filter selects).length ≤ 1 ∧
    (checkedIds (rounds (Session.handle engines hashes) start events)).Nodup ∧
    (matchedIds (rounds (Session.handle engines hashes) start events)).Nodup ∧
    (∀ id ∈ matchedIds (rounds (Session.handle engines hashes) start events),
      id ∈ checkedIds (rounds (Session.handle engines hashes) start events)) ∧
    ∀ before r after, rounds (Session.handle engines hashes) start events =
        before ++ r :: after →
      (∀ e, r.next.selected = some e → r.state.selected ≠ some e →
        e ∈ start.answer.candidates ∧ ∃ transaction now,
          .matched transaction e ∈ r.effects ∧
          Answered hashes start before r e transaction now) ∧
      (∀ e packet, .toDtls e packet ∈ r.effects ∨ .toSrtp e packet ∈ r.effects →
        r.state.selected = some e ∧ ∃ now, r.event = .datagram packet e now) ∧
      (∀ e, r.state.selected = some e →
        r.next.consentReceived ≠ r.state.consentReceived →
        r.state.consentReceived ≤ r.next.consentReceived ∧ ∃ transaction,
          .matched transaction e ∈ r.effects ∧
          Answered hashes start before r e transaction r.next.consentReceived) ∧
      (∀ e now, r.state.selected = some e → r.event = .sendChecks now →
        (∀ m ∈ before, ∀ transaction packet t, m.event = .datagram packet e t →
          .matched transaction e ∈ m.effects → t + consentTimeout ≤ now) →
        .postShutdown ∈ r.effects) := by
  have inv : Inv hashes start ([] ++ rounds (Session.handle engines hashes) start events) _ :=
    finalHistory (P := Inv hashes start) (.first fresh)
      fun past s event inv => inv.next engines event
  rw [List.nil_append] at inv
  obtain ⟨n,_,ids⟩ := inv.counted
  refine ⟨inv.once,?_,(List.nodup_append.mp (inv.unique few)).2.1,inv.known,?_⟩
  · rw [ids]
    exact idsDistinct _ (by rw [ids] at few; simpa using few)
  · intro before r after cut
    refine ⟨?_,?_,?_,?_⟩
    · intro e selected changed
      obtain ⟨open_,transaction,matched⟩ := selectionMatched fresh cut selected changed
      obtain ⟨⟨now,answered⟩,candidate⟩ := matchedAnswered fresh ordered cut matched
      exact ⟨candidate open_,transaction,now,matched,answered⟩
    · intro e packet handed
      obtain ⟨_,n,step⟩ := roundFacts fresh cut
      obtain ⟨f,member,inbound⟩ : ∃ f ∈ r.effects, f.inbound = some (packet,e) := by
        rcases handed with dtls | srtp
        · exact ⟨_,dtls,rfl⟩
        · exact ⟨_,srtp,rfl⟩
      exact stepInbound step member inbound
    · intro e selected changed
      obtain ⟨packet,transaction,event,matched⟩ := consentMatched fresh cut selected changed
      obtain ⟨⟨now,answered⟩,_⟩ := matchedAnswered fresh ordered cut matched
      obtain ⟨packet',event',parsed⟩ := answered.response
      rw [event] at event'
      cases event'
      obtain ⟨m,member,_,_,earlier,_⟩ := (roundFacts fresh cut).1.consented e selected
      exact ⟨timesOrdered ordered cut member (by rw [earlier]; rfl) (by rw [event]; rfl),
        transaction,matched,answered⟩
    · intro e now selected checks silent
      exact consentLapses fresh cut selected checks silent

def idlePull : Session Unit Unit Unit where
  answer := ⟨[viewer],[98],[],true⟩
  localPort := 9
  iceUfrag := [97]
  icePwd := []
  tieBreaker := 2
  transactionPrefix := Vector.replicate 8 3
  checkSequence := 0
  pendingChecks := []
  selected := none
  consentReceived := 0
  dtls := none
  srtp := none
  mediaReceiver := some ()

def idleEvents : List Event :=
  [.sendChecks 10,.datagram (makeStunBindingSuccessResponse plainHashes
    ⟨transactionOf (Vector.replicate 8 3) 1,[],true,true,true,false⟩ viewer []) viewer 20,
    .sendChecks 30000000020]

theorem viewerSelected : ∃ before r after,
    rounds (Session.handle idleEngines plainHashes) idlePull idleEvents = before ++ r :: after ∧
    r.next.selected = some viewer ∧ viewer ∈ idlePull.answer.candidates ∧
    ∃ transaction now, .matched transaction viewer ∈ r.effects ∧
      Answered plainHashes idlePull before r viewer transaction now := by
  have all := (pullSelectionAndConsent idleEngines plainHashes idlePull idleEvents
    ⟨rfl,rfl,rfl⟩ (by unfold Ordered; decide) (by decide +kernel)).2.2.2.2
  obtain ⟨first,second,rest,cut,selected,open_⟩ : ∃ first second rest,
      rounds (Session.handle idleEngines plainHashes) idlePull idleEvents =
        [first] ++ second :: rest ∧ second.next.selected = some viewer ∧
      second.state.selected ≠ some viewer :=
    ⟨_,_,_,rfl,by decide +kernel,by decide +kernel⟩
  obtain ⟨candidate,answered⟩ := (all _ _ _ cut).1 viewer selected open_
  exact ⟨_,_,_,cut,selected,candidate,answered⟩

end MediaServer.WhepPull
