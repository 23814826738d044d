import MediaServer.StunMessage

/-! What an accepted binding request shows. The scan is read as a fold over the attributes
of the packet; only those before the first MESSAGE-INTEGRITY reach the request, and they
are the bytes its digest was taken over. -/
namespace MediaServer.Stun
open Bytes Tlv

def ofType (type : UInt16) (as : List Attribute) : List Attribute := as.filter (·.type == type)

def firstIntegrity (packet : Bytes) : Option Attribute :=
  (attributes packet headerSize).bind (List.find? (·.type == attributeMessageIntegrity))

inductive Taken (r : BindingAttributes) (a : Attribute) : BindingAttributes → Prop where
  | passed (held : r.messageIntegrityOffset.isSome = true)
      (other : a.type ≠ attributeFingerprint) : Taken r a r
  | username (before : r.messageIntegrityOffset = none) (kind : a.type = attributeUsername)
      (first : r.username = none) : Taken r a {r with username := some a.value}
  | integrity (before : r.messageIntegrityOffset = none)
      (kind : a.type = attributeMessageIntegrity)
      (size : a.value.length = messageIntegritySize) :
      Taken r a {r with messageIntegrityOffset := some a.offset}
  | last (kind : a.type = attributeFingerprint) (size : a.value.length = 4)
      (first : r.fingerprintOffset = none) :
      Taken r a {r with fingerprintOffset := some a.offset}
  | other {r' : BindingAttributes} (before : r.messageIntegrityOffset = none)
      (kind : a.type ≠ attributeUsername ∧ a.type ≠ attributeMessageIntegrity ∧
        a.type ≠ attributeFingerprint)
      (same : r'.username = r.username ∧
        r'.messageIntegrityOffset = r.messageIntegrityOffset ∧
        r'.fingerprintOffset = r.fingerprintOffset)
      (count : r'.unknownRequiredAttributes.length ≤
        r.unknownRequiredAttributes.length + 1) : Taken r a r'

variable {r r' final : BindingAttributes} {a : Attribute} {as : List Attribute} {hashes : Hashes}
  {packet u p : Bytes} {request : BindingRequest}

theorem taken (ok : takeAttribute r a = some r') : Taken r a r' := by
  unfold takeAttribute at ok
  split at ok
  · rename_i passes
    cases Option.some.inj ok
    simp only [Bool.and_eq_true,bne_iff_ne,ne_eq] at passes
    exact .passed passes.1 passes.2
  · rename_i looks
    have before : a.type ≠ attributeFingerprint → r.messageIntegrityOffset = none := by
      intro other
      simpa [other] using looks
    split at ok
    · rename_i kind
      split at ok
      · contradiction
      · rename_i first
        cases Option.some.inj ok
        exact .username (before (by rw [kind]; decide)) kind (by simpa using first)
    · rename_i notUsername
      split at ok
      · rename_i kind
        split at ok
        · contradiction
        · rename_i size
          cases Option.some.inj ok
          simp only [ne_eq,Bool.or_eq_true,decide_eq_true_eq,not_or,Decidable.not_not] at size
          exact .integrity (before (by rw [kind]; decide)) kind size.1
      · rename_i notIntegrity
        split at ok
        · rename_i kind
          split at ok
          · contradiction
          · cases Option.some.inj ok
            have notLast : a.type ≠ attributeFingerprint := by rw [kind]; decide
            exact .other (before notLast) ⟨notUsername,notIntegrity,notLast⟩ ⟨rfl,rfl,rfl⟩
              (Nat.le_succ _)
        · split at ok
          · rename_i kind
            split at ok
            · contradiction
            · cases Option.some.inj ok
              have notLast : a.type ≠ attributeFingerprint := by rw [kind]; decide
              exact .other (before notLast) ⟨notUsername,notIntegrity,notLast⟩ ⟨rfl,rfl,rfl⟩
                (Nat.le_succ _)
          · split at ok
            · rename_i kind
              split at ok
              · contradiction
              · rename_i size
                cases Option.some.inj ok
                simp only [ne_eq,Bool.or_eq_true,decide_eq_true_eq,not_or,Decidable.not_not,
                  Bool.not_eq_true,Option.isSome_eq_false_iff,Option.isNone_iff_eq_none] at size
                exact .last kind size.1 size.2
            · rename_i notLast
              have fields : (r'.username = r.username ∧
                  r'.messageIntegrityOffset = r.messageIntegrityOffset ∧
                  r'.fingerprintOffset = r.fingerprintOffset) ∧
                  r'.unknownRequiredAttributes.length ≤
                    r.unknownRequiredAttributes.length + 1 := by
                repeat' split at ok
                all_goals first
                  | contradiction
                  | (cases Option.some.inj ok; simp)
              exact .other (before notLast) ⟨notUsername,notIntegrity,notLast⟩ fields.1 fields.2

theorem takenBefore (step : Taken r a r') (before : r.messageIntegrityOffset = none)
    (other : a.type ≠ attributeMessageIntegrity) :
    r'.messageIntegrityOffset = none ∧ r'.username.toList =
      r.username.toList ++ (ofType attributeUsername [a]).map (·.value) := by
  cases step with
  | passed held => simp [before] at held
  | username _ kind first => simp [before,first,ofType,kind]
  | integrity _ kind => exact absurd kind other
  | last kind => simp [before,ofType,kind,attributeFingerprint,attributeUsername]
  | other _ kind same => simp [before,same,ofType,kind.1]

theorem takenLast (step : Taken r a r') :
    r'.fingerprintOffset.toList = r.fingerprintOffset.toList ++
      (ofType attributeFingerprint [a]).map (·.offset) ∧
      (a.type = attributeFingerprint → a.value.length = 4) := by
  cases step with
  | passed held other => simp [ofType,other]
  | username _ kind => simp [ofType,kind,attributeFingerprint,attributeUsername]
  | integrity _ kind => simp [ofType,kind,attributeFingerprint,attributeMessageIntegrity]
  | last kind size first => simp [ofType,kind,first,size]
  | other _ kind same => simp [same,ofType,kind.2.2]

theorem takenAfter (step : Taken r a r') (held : r.messageIntegrityOffset.isSome = true) :
    {r' with fingerprintOffset := none} = {r with fingerprintOffset := none} := by
  cases step with
  | passed => rfl
  | username before => simp [before] at held
  | integrity before => simp [before] at held
  | last => rfl
  | other before => simp [before] at held

theorem foldCons (ok : (a :: as).foldlM takeAttribute r = some final) :
    ∃ next, Taken r a next ∧ as.foldlM takeAttribute next = some final := by
  simp only [List.foldlM_cons] at ok
  cases first : takeAttribute r a with
  | none => simp [first] at ok
  | some next =>
    simp only [first] at ok
    exact ⟨next,taken first,ok⟩

theorem foldBefore (ok : as.foldlM takeAttribute r = some final)
    (before : r.messageIntegrityOffset = none)
    (others : ∀ a ∈ as, a.type ≠ attributeMessageIntegrity) :
    final.messageIntegrityOffset = none ∧ final.username.toList =
      r.username.toList ++ (ofType attributeUsername as).map (·.value) := by
  induction as generalizing r with
  | nil => cases Option.some.inj ok; simp [before,ofType]
  | cons a as ih =>
    obtain ⟨next,step,rest⟩ := foldCons ok
    obtain ⟨still,names⟩ := takenBefore step before (others a (List.mem_cons_self ..))
    obtain ⟨integrity,usernames⟩ := ih rest still fun b member =>
      others b (List.mem_cons_of_mem _ member)
    refine ⟨integrity,?_⟩
    rw [usernames,names,List.append_assoc,← List.map_append]
    simp [ofType,← List.filter_append]

theorem foldLast (ok : as.foldlM takeAttribute r = some final) :
    final.fingerprintOffset.toList = r.fingerprintOffset.toList ++
      (ofType attributeFingerprint as).map (·.offset) ∧
      ∀ a ∈ as, a.type = attributeFingerprint → a.value.length = 4 := by
  induction as generalizing r with
  | nil => cases Option.some.inj ok; simp [ofType]
  | cons a as ih =>
    obtain ⟨next,step,rest⟩ := foldCons ok
    obtain ⟨offset,size⟩ := takenLast step
    obtain ⟨offsets,sizes⟩ := ih rest
    refine ⟨?_,?_⟩
    · rw [offsets,offset,List.append_assoc,← List.map_append]
      simp [ofType,← List.filter_append]
    · intro b member
      rcases List.mem_cons.mp member with same | old
      · subst b; exact size
      · exact sizes b old

theorem foldAfter (ok : as.foldlM takeAttribute r = some final)
    (held : r.messageIntegrityOffset.isSome = true) :
    {final with fingerprintOffset := none} = {r with fingerprintOffset := none} := by
  induction as generalizing r with
  | nil => cases Option.some.inj ok; rfl
  | cons a as ih =>
    obtain ⟨next,step,rest⟩ := foldCons ok
    have same := takenAfter step held
    have kept : next.messageIntegrityOffset = r.messageIntegrityOffset :=
      congrArg (·.messageIntegrityOffset) same
    exact (ih rest (by rw [kept]; exact held)).trans same

theorem foldCount (ok : as.foldlM takeAttribute r = some final) :
    final.unknownRequiredAttributes.length ≤ r.unknownRequiredAttributes.length + as.length := by
  induction as generalizing r with
  | nil => cases Option.some.inj ok; simp
  | cons a as ih =>
    obtain ⟨next,step,rest⟩ := foldCons ok
    have one : next.unknownRequiredAttributes.length ≤
        r.unknownRequiredAttributes.length + 1 := by
      cases step with
      | other _ _ _ count => exact count
      | _ => exact Nat.le_succ _
    have more := ih rest
    simp only [List.length_cons]
    omega

theorem integrityVerified {password : Bytes} {offset : Nat} :
    verifyMessageIntegrity hashes packet offset password = true ↔
      headerSize ≤ offset ∧ offset + 24 ≤ packet.length ∧ offset + 4 ≤ 65535 ∧
      password.length ≤ maxInt ∧
      (hashes.hmac password
        (writeU16 (packet.take offset) 2 (UInt16.ofNat (offset + 4)))).toList =
          (packet.drop (offset + 4)).take messageIntegritySize := by
  unfold verifyMessageIntegrity
  by_cases outside : offset < headerSize ∨ offset + 24 > packet.length
  · rw [if_pos (by simpa using outside)]
    constructor
    · intro no; contradiction
    · rintro ⟨low,high,_⟩; omega
  · have size : offset - headerSize + 24 = offset + 4 := by unfold headerSize at *; omega
    rw [if_neg (by simpa using outside)]
    simp only [size]
    by_cases large : offset + 4 > 65535
    · rw [if_pos large]
      constructor
      · intro no; contradiction
      · rintro ⟨_,_,small,_⟩; omega
    · rw [if_neg large]
      simp only [hmacSha1,setMessageLength,if_pos (Nat.le_of_not_gt large)]
      by_cases long : password.length > maxInt
      · rw [if_pos long]
        constructor
        · intro no; contradiction
        · rintro ⟨_,_,_,short,_⟩; omega
      · rw [if_neg long]
        simp only [beq_iff_eq]
        constructor
        · intro same; exact ⟨by omega,by omega,by omega,by omega,same⟩
        · rintro ⟨_,_,_,_,same⟩; exact same

theorem fingerprintVerified {offset : Nat} :
    verifyFingerprint hashes packet offset = true ↔
      headerSize ≤ offset ∧ offset + 8 ≤ packet.length ∧
      fingerprint hashes (packet.take offset) = readU32 (packet.drop (offset + 4)) := by
  unfold verifyFingerprint
  by_cases outside : offset < headerSize ∨ offset + 8 > packet.length
  · rw [if_pos (by simpa using outside)]
    constructor
    · intro no; contradiction
    · rintro ⟨low,high,_⟩; omega
  · rw [if_neg (by simpa using outside),beq_iff_eq]
    constructor
    · intro same; exact ⟨by omega,by omega,same⟩
    · rintro ⟨_,_,same⟩; exact same

theorem responseKey {password : Bytes} {id : TransactionId}
    (ok : parseStunBindingSuccessResponse hashes packet password = some id) :
    password.length ≤ maxInt := by
  unfold parseStunBindingSuccessResponse at ok
  split at ok
  · contradiction
  · split at ok
    · contradiction
    · split at ok
      · split at ok
        · contradiction
        · rename_i verified
          simp only [Bool.or_eq_true,not_or,Bool.not_eq_true',Bool.not_eq_false] at verified
          exact (integrityVerified.mp verified.1.1).2.2.2.1
      · contradiction

theorem scanned (ok : scanStunAttributes packet = some r) :
    ∃ as, attributes packet headerSize = some as ∧ as.foldlM takeAttribute {} = some r := by
  obtain ⟨as,span,folded⟩ := scanExact.mp ok
  exact ⟨as,attributesExact.mpr span,folded⟩

structure Cut (packet : Bytes) (r : BindingAttributes) where
  before : List Attribute
  integrity : Attribute
  after : List Attribute
  start : BindingAttributes
  whole : attributes packet headerSize = some (before ++ integrity :: after)
  others : ∀ a ∈ before, a.type ≠ attributeMessageIntegrity
  kind : integrity.type = attributeMessageIntegrity
  size : integrity.value.length = messageIntegritySize
  early : before.foldlM takeAttribute {} = some start
  rest : {r with fingerprintOffset := none} =
    {start with messageIntegrityOffset := some integrity.offset, fingerprintOffset := none}

theorem scanCut {m : Nat} (ok : scanStunAttributes packet = some r)
    (held : r.messageIntegrityOffset = some m) : Nonempty (Cut packet r) := by
  obtain ⟨as,whole,folded⟩ := scanned ok
  cases found : as.find? (·.type == attributeMessageIntegrity) with
  | none =>
    have others : ∀ a ∈ as, a.type ≠ attributeMessageIntegrity := by
      simpa using List.find?_eq_none.mp found
    have never := (foldBefore folded rfl others).1
    rw [held] at never
    contradiction
  | some integrity =>
    obtain ⟨kind,before,after,cut,others⟩ := List.find?_eq_some_iff_append.mp found
    subst cut
    rw [List.foldlM_append] at folded
    cases early : before.foldlM takeAttribute {} with
    | none => simp [early] at folded
    | some start =>
      simp only [early] at folded
      obtain ⟨next,step,rest⟩ := foldCons folded
      have kind : integrity.type = attributeMessageIntegrity := by simpa using kind
      have others : ∀ a ∈ before, a.type ≠ attributeMessageIntegrity := by simpa using others
      have nothing := (foldBefore early rfl others).1
      cases step with
      | passed held => simp [nothing] at held
      | username _ name => rw [kind] at name; contradiction
      | last name => rw [kind] at name; contradiction
      | other _ names => exact absurd kind names.2.1
      | integrity _ _ size =>
        exact ⟨⟨before,integrity,after,start,whole,others,kind,size,early,
          foldAfter rest rfl⟩⟩

structure Accepted (hashes : Hashes) (packet u p : Bytes) (request : BindingRequest) where
  scan : BindingAttributes
  integrity : Nat
  last : Nat
  long : headerSize ≤ packet.length
  scanned : scanStunAttributes packet = some scan
  username : scan.username = some u
  integrityAt : scan.messageIntegrityOffset = some integrity
  lastAt : scan.fingerprintOffset = some last
  signed : verifyMessageIntegrity hashes packet integrity p = true
  ends : last + 8 = packet.length
  summed : verifyFingerprint hashes packet last = true
  length : (readU16 (packet.drop 2)).toNat = packet.length - headerSize
  returned : request = ⟨readArray 12 (packet.drop 8),scan.unknownRequiredAttributes,
    scan.priority,scan.useCandidate,scan.iceControlling,scan.iceControlled⟩

theorem accepted (ok : parseStunBindingRequest hashes packet u p = some request) :
    Nonempty (Accepted hashes packet u p request) := by
  unfold parseStunBindingRequest at ok
  split at ok
  · contradiction
  · rename_i stun
    split at ok
    · contradiction
    · split at ok
      · contradiction
      · rename_i length
        split at ok
        · contradiction
        · rename_i scan scanned
          split at ok
          · contradiction
          · rename_i valid
            cases Option.some.inj ok
            simp only [Bool.not_eq_true',Bool.not_eq_false] at valid
            unfold validateBindingAuthentication at valid
            split at valid
            · rename_i name integrity last username integrityAt lastAt
              simp only [Bool.and_eq_true,beq_iff_eq] at valid
              obtain ⟨⟨⟨same,signed⟩,ends⟩,summed⟩ := valid
              subst same
              have long : headerSize ≤ packet.length := by
                simp only [isStunMessage,Bool.not_eq_true',Bool.not_eq_false,Bool.and_eq_true,
                  decide_eq_true_eq] at stun
                exact stun.1.1
              exact ⟨⟨scan,integrity,last,long,scanned,username,integrityAt,lastAt,signed,ends,
                summed,Decidable.not_not.mp length,rfl⟩⟩
            · contradiction

theorem Accepted.cut (a : Accepted hashes packet u p request) : ∃ c : Cut packet a.scan,
    c.integrity.offset = a.integrity ∧ c.start.username = some u ∧
    request = ⟨readArray 12 (packet.drop 8),c.start.unknownRequiredAttributes,
      c.start.priority,c.start.useCandidate,c.start.iceControlling,c.start.iceControlled⟩ := by
  obtain ⟨c⟩ := scanCut a.scanned a.integrityAt
  have offset := congrArg (·.messageIntegrityOffset) c.rest
  have username := congrArg (·.username) c.rest
  have unknown := congrArg (·.unknownRequiredAttributes) c.rest
  have priority := congrArg (·.priority) c.rest
  have useCandidate := congrArg (·.useCandidate) c.rest
  have controlling := congrArg (·.iceControlling) c.rest
  have controlled := congrArg (·.iceControlled) c.rest
  simp only at offset username unknown priority useCandidate controlling controlled
  refine ⟨c,?_,?_,?_⟩
  · exact Option.some.inj (offset.symm.trans a.integrityAt)
  · exact username.symm.trans a.username
  · rw [← unknown,← priority,← useCandidate,← controlling,← controlled]
    exact a.returned

theorem Cut.found (c : Cut packet r) : firstIntegrity packet = some c.integrity := by
  have nothing : c.before.find? (·.type == attributeMessageIntegrity) = none := by
    simpa using c.others
  simp [firstIntegrity,c.whole,List.find?_append,nothing,c.kind]

theorem Cut.spans (c : Cut packet r) :
    Span packet headerSize c.integrity.offset c.before ∧
      c.integrity.value = (packet.drop (c.integrity.offset + 4)).take messageIntegritySize := by
  obtain ⟨middle,first,second⟩ := spanSplit (attributesExact.mp c.whole)
  obtain ⟨read,_,length⟩ := spanHead second
  have start : c.integrity.offset = middle := by rw [read]; rfl
  rw [start]
  refine ⟨first,?_⟩
  have size := c.size
  rw [length] at size
  rw [← size,read]
  rfl

theorem acceptedDigest {a : Accepted hashes packet u p request} {c : Cut packet a.scan}
    (start : c.integrity.offset = a.integrity) :
    headerSize ≤ c.integrity.offset ∧ c.integrity.offset + 24 ≤ packet.length ∧
      c.integrity.offset + 4 ≤ 65535 ∧ c.integrity.value = (hashes.hmac p (writeU16
        (packet.take c.integrity.offset) 2 (UInt16.ofNat (c.integrity.offset + 4)))).toList := by
  obtain ⟨low,high,small,_,same⟩ := integrityVerified.mp a.signed
  rw [← start] at low high small same
  exact ⟨low,high,small,c.spans.2.trans same.symm⟩

theorem acceptedLast (a : Accepted hashes packet u p request)
    (whole : attributes packet headerSize = some as) :
    ∃ last, ofType attributeFingerprint as = [last] ∧ last.offset + 8 = packet.length ∧
      last.value = u32 (fingerprint hashes (packet.take last.offset)) := by
  obtain ⟨bs,same,folded⟩ := scanned a.scanned
  cases Option.some.inj (whole.symm.trans same)
  obtain ⟨offsets,sizes⟩ := foldLast folded
  rw [a.lastAt] at offsets
  simp only [Option.toList_some,Option.toList_none,List.nil_append] at offsets
  obtain ⟨last,alone,offset⟩ := List.map_eq_singleton_iff.mp offsets.symm
  have found : last ∈ as ∧ last.type = attributeFingerprint := by
    have member : last ∈ ofType attributeFingerprint as := by rw [alone]; simp
    simpa [ofType] using member
  obtain ⟨before,after,cut⟩ := List.append_of_mem found.1
  have span := attributesExact.mp whole
  rw [cut] at span
  obtain ⟨middle,_,second⟩ := spanSplit span
  obtain ⟨read,_,length⟩ := spanHead second
  have start : last.offset = middle := by rw [read]; rfl
  obtain ⟨_,_,summed⟩ := fingerprintVerified.mp a.summed
  have size := sizes last found.1 found.2
  refine ⟨last,alone,by rw [offset]; exact a.ends,?_⟩
  have four : ((packet.drop (a.last + 4))).length = 4 := by
    have ends := a.ends
    rw [List.length_drop]
    omega
  rw [offset,summed,u32Read _ four,read]
  simp only [attributeAt]
  rw [← length,size,← start,offset,List.take_of_length_le (Nat.le_of_eq four)]

def blankLength (data : Bytes) : Bytes := writeU16 data 2 0

theorem acceptedDetermined {packet' : Bytes} {request' : BindingRequest}
    (a : Accepted hashes packet u p request) (a' : Accepted hashes packet' u p request')
    {first first' : Attribute} (found : firstIntegrity packet = some first)
    (found' : firstIntegrity packet' = some first')
    (same : blankLength (packet.take first.offset) = blankLength (packet'.take first'.offset)) :
    request = request' := by
  obtain ⟨c,start,_,returned⟩ := a.cut
  obtain ⟨c',start',_,returned'⟩ := a'.cut
  cases Option.some.inj (found.symm.trans c.found)
  cases Option.some.inj (found'.symm.trans c'.found)
  obtain ⟨low,high,_⟩ := acceptedDigest start
  obtain ⟨low',high',_⟩ := acceptedDigest start'
  have offsets : c.integrity.offset = c'.integrity.offset := by
    have lengths := congrArg List.length same
    simp only [blankLength,writeU16Length,List.length_take] at lengths
    omega
  have agree : ∀ i, i ≠ 2 → i ≠ 3 → i < c.integrity.offset → packet[i]? = packet'[i]? := by
    intro i two three inside
    have byte := congrArg (fun data => data[i]?) same
    simp only [blankLength,writeU16Other _ 2 i 0 two three] at byte
    rw [List.getElem?_take_of_lt inside,List.getElem?_take_of_lt (offsets ▸ inside)] at byte
    exact byte
  have span : Span packet' headerSize c.integrity.offset c.before :=
    spanAgrees c.spans.1 (by omega) fun i after inside =>
      agree i (by unfold headerSize at after; omega) (by unfold headerSize at after; omega) inside
  have span' := c'.spans.1
  rw [← offsets] at span'
  have before := spanUnique span span'
  have states : c.start = c'.start := by
    have early := c.early
    rw [before] at early
    exact Option.some.inj (early.symm.trans c'.early)
  have ids : readArray 12 (packet.drop 8) = readArray 12 (packet'.drop 8) := by
    apply readArrayCongr
    intro i inside
    unfold headerSize at low
    simpa using agree (8 + i) (by omega) (by omega) (by omega)
  rw [returned,returned',states,ids]

theorem acceptedAuthentic (hashes : Hashes) (u p : Bytes) :
    (∀ packet request, parseStunBindingRequest hashes packet u p = some request →
      ∃ before integrity after last,
        attributes packet headerSize = some (before ++ integrity :: after) ∧
        (∀ a ∈ before, a.type ≠ attributeMessageIntegrity) ∧
        integrity.type = attributeMessageIntegrity ∧
        (ofType attributeUsername before).map (·.value) = [u] ∧
        integrity.value.length = 20 ∧ integrity.offset + 4 ≤ 65535 ∧
        integrity.value = (hashes.hmac p (writeU16 (packet.take integrity.offset) 2
          (UInt16.ofNat (integrity.offset + 4)))).toList ∧
        ofType attributeFingerprint (before ++ integrity :: after) = [last] ∧
        last.offset + 8 = packet.length ∧
        last.value = u32 (fingerprint hashes (packet.take last.offset))) ∧
    (∀ packet packet' request request' first first',
      parseStunBindingRequest hashes packet u p = some request →
      parseStunBindingRequest hashes packet' u p = some request' →
      firstIntegrity packet = some first → firstIntegrity packet' = some first' →
      blankLength (packet.take first.offset) = blankLength (packet'.take first'.offset) →
      request = request') := by
  constructor
  · intro packet request ok
    obtain ⟨a⟩ := accepted ok
    obtain ⟨c,start,username,_⟩ := a.cut
    obtain ⟨_,_,small,digest⟩ := acceptedDigest start
    obtain ⟨last,alone,ends,summed⟩ := acceptedLast a c.whole
    have names := (foldBefore c.early rfl c.others).2
    rw [username] at names
    exact ⟨c.before,c.integrity,c.after,last,c.whole,c.others,c.kind,by simpa using names.symm,
      c.size,small,digest,alone,ends,summed⟩
  · intro packet packet' request request' first first' ok ok' found found' same
    obtain ⟨a⟩ := accepted ok
    obtain ⟨a'⟩ := accepted ok'
    exact acceptedDetermined a a' found found' same

def plainHashes : Hashes := ⟨fun _ _ => Vector.replicate 20 0,fun _ => 0⟩

def plainRequest : Bytes :=
  [0,1,0,36,0x21,0x12,0xa4,0x42] ++ List.replicate 12 0 ++ [0,6,0,0,0,8,0,20] ++
    List.replicate 20 0 ++ [0x80,0x28,0,4,0x53,0x54,0x55,0x4e]

def trailedRequest : Bytes :=
  [0,1,0,40,0x21,0x12,0xa4,0x42] ++ List.replicate 12 0 ++ [0,6,0,0,0,8,0,20] ++
    List.replicate 20 0 ++ [0,0x24,0,0,0x80,0x28,0,4,0x53,0x54,0x55,0x4e]

theorem trailedRequestAuthentic : ∃ request,
    parseStunBindingRequest plainHashes plainRequest [] [] = some request ∧
    parseStunBindingRequest plainHashes trailedRequest [] [] = some request ∧
    ∃ last : Attribute, last.offset + 8 = trailedRequest.length ∧
      last.value = u32 (fingerprint plainHashes (trailedRequest.take last.offset)) := by
  obtain ⟨request,plain⟩ : ∃ request,
      parseStunBindingRequest plainHashes plainRequest [] [] = some request :=
    ⟨⟨Vector.replicate 12 0,[],false,false,false,false⟩,by decide⟩
  obtain ⟨other,trailed⟩ : ∃ request,
      parseStunBindingRequest plainHashes trailedRequest [] [] = some request :=
    ⟨⟨Vector.replicate 12 0,[],false,false,false,false⟩,by decide⟩
  obtain ⟨facts,determined⟩ := acceptedAuthentic plainHashes [] []
  have found : firstIntegrity plainRequest =
      some ⟨24,attributeMessageIntegrity,List.replicate 20 0⟩ := by decide
  have found' : firstIntegrity trailedRequest =
      some ⟨24,attributeMessageIntegrity,List.replicate 20 0⟩ := by decide
  have same := determined _ _ request other _ _ plain trailed found found' (by decide)
  obtain ⟨_,_,_,last,_,_,_,_,_,_,_,_,ends,summed⟩ := facts trailedRequest other trailed
  exact ⟨request,plain,same ▸ trailed,last,ends,summed⟩

end MediaServer.Stun
