import Mathlib.Algebra.Order.Ring.Int
import MediaServer.Bytes

/-! Attributes of a packet: a type word, a length word and the value, padded to a multiple
of four. A scan walks them from an offset to the end of the packet and lets a visitor
take each one or refuse the packet. The file names nothing of the server. -/
namespace MediaServer.Tlv
open Bytes

variable {σ : Type*}

structure Attribute where
  offset : Nat
  type : UInt16
  value : Bytes
  deriving DecidableEq, Repr

def align (n : Nat) : Nat := n + (4 - n % 4) % 4

def lengthAt (packet : Bytes) (offset : Nat) : Nat := (readU16 (packet.drop (offset + 2))).toNat

def attributeAt (packet : Bytes) (offset : Nat) : Attribute :=
  ⟨offset,readU16 (packet.drop offset),
    (packet.drop (offset + 4)).take (lengthAt packet offset)⟩

def following (packet : Bytes) (offset : Nat) : Nat :=
  align (offset + 4 + lengthAt packet offset)

def scanFrom (visit : σ → Attribute → Option σ) (packet : Bytes) : Nat → σ → Nat → Option σ
  | 0, _, _ => none
  | fuel + 1, result, offset =>
    if offset + 4 ≤ packet.length then
      if offset + 4 + lengthAt packet offset > packet.length then none
      else match visit result (attributeAt packet offset) with
        | none => none
        | some result => scanFrom visit packet fuel result (following packet offset)
    else if offset ≠ packet.length then none
    else some result

/- Every round moves on by four bytes at least, so this fuel is never used up. -/
def scan (visit : σ → Attribute → Option σ) (packet : Bytes) (result : σ) (offset : Nat) :
    Option σ := scanFrom visit packet (packet.length + 1) result offset

def attributes (packet : Bytes) (offset : Nat) : Option (List Attribute) :=
  scan (fun seen a => some (seen ++ [a])) packet [] offset

inductive Span (packet : Bytes) : Nat → Nat → List Attribute → Prop where
  | done (offset : Nat) : Span packet offset offset []
  | step {offset stop : Nat} {rest : List Attribute}
      (fits : offset + 4 + lengthAt packet offset ≤ packet.length)
      (tail : Span packet (following packet offset) stop rest) :
      Span packet offset stop (attributeAt packet offset :: rest)

theorem alignLe (n : Nat) : n ≤ align n := by unfold align; omega
theorem alignMod (n : Nat) : align n % 4 = 0 := by unfold align; omega
theorem alignFour {n : Nat} (even : n % 4 = 0) (m : Nat) : align (n + m) = n + align m := by
  unfold align; omega

theorem followingLe (packet : Bytes) (offset : Nat) :
    offset + 4 + lengthAt packet offset ≤ following packet offset := alignLe _

variable {packet : Bytes} {start stop offset : Nat} {as bs : List Attribute}
  {visit : σ → Attribute → Option σ} {result final : σ}

theorem spanLe (span : Span packet start stop as) : start ≤ stop := by
  induction span with
  | done offset => exact Nat.le_refl _
  | @step offset _ rest fits tail ih =>
    have moved := followingLe packet offset
    omega

theorem spanFour (span : Span packet start stop as) : start + 4 * as.length ≤ stop := by
  induction span with
  | done offset => exact Nat.le_refl _
  | @step offset _ rest fits tail ih =>
    have moved := followingLe packet offset
    simp only [List.length_cons]
    omega

theorem spanAppend {middle : Nat} (first : Span packet start middle as)
    (second : Span packet middle stop bs) : Span packet start stop (as ++ bs) := by
  induction first with
  | done offset => exact second
  | step fits tail ih => exact .step fits (ih second)

theorem spanSplit (span : Span packet start stop (as ++ bs)) :
    ∃ middle, Span packet start middle as ∧ Span packet middle stop bs := by
  induction as generalizing start with
  | nil => exact ⟨start,.done start,span⟩
  | cons a as ih =>
    cases span with
    | step fits tail =>
      obtain ⟨middle,first,second⟩ := ih tail
      exact ⟨middle,.step fits first,second⟩

theorem spanHead {a : Attribute} (span : Span packet start stop (a :: as)) :
    a = attributeAt packet start ∧ start + 4 + a.value.length ≤ packet.length ∧
      a.value.length = lengthAt packet start := by
  cases span with
  | step fits tail =>
    have size : (attributeAt packet start).value.length = lengthAt packet start := by
      simp only [attributeAt,List.length_take,List.length_drop]
      omega
    exact ⟨rfl,by omega,size⟩

theorem spanMember {a : Attribute} (span : Span packet start stop as) (member : a ∈ as) :
    a = attributeAt packet a.offset ∧
      a.value = (packet.drop (a.offset + 4)).take a.value.length := by
  induction span with
  | done => simp at member
  | @step offset stop rest fits tail ih =>
    rcases List.mem_cons.mp member with same | old
    · obtain ⟨_,_,length⟩ := spanHead (.step fits tail)
      subst a
      refine ⟨rfl,?_⟩
      rw [length]
      rfl
    · exact ih old

theorem spanUnique (left : Span packet start stop as) (right : Span packet start stop bs) :
    as = bs := by
  induction left generalizing bs with
  | done offset =>
    cases right with
    | done => rfl
    | step fits tail =>
      have moved := followingLe packet offset
      have ahead := spanLe tail
      omega
  | @step offset stop rest fits tail ih =>
    cases right with
    | done =>
      have moved := followingLe packet offset
      have ahead := spanLe tail
      omega
    | step fits' tail' => rw [ih tail']

theorem attributeAgrees {other : Bytes} (same : ∀ i, start ≤ i → i < stop → packet[i]? = other[i]?)
    (inside : start + 4 + lengthAt packet start ≤ stop) :
    attributeAt packet start = attributeAt other start ∧
      lengthAt packet start = lengthAt other start := by
  have length : lengthAt packet start = lengthAt other start := by
    unfold lengthAt
    rw [readU16Congr (a := packet.drop (start + 2)) (b := other.drop (start + 2))]
    · simpa using same (start + 2) (by omega) (by omega)
    · simpa using same (start + 2 + 1) (by omega) (by omega)
  have type : readU16 (packet.drop start) = readU16 (other.drop start) := by
    apply readU16Congr
    · simpa using same start (by omega) (by omega)
    · simpa using same (start + 1) (by omega) (by omega)
  have value : (packet.drop (start + 4)).take (lengthAt packet start) =
      (other.drop (start + 4)).take (lengthAt packet start) := by
    apply List.ext_getElem?
    intro i
    simp only [List.getElem?_take,List.getElem?_drop]
    split
    · exact same _ (by omega) (by omega)
    · rfl
  refine ⟨?_,length⟩
  simp only [attributeAt,type]
  rw [value,length]

theorem spanAgrees {other : Bytes} (span : Span packet start stop as) (inside : stop ≤ other.length)
    (same : ∀ i, start ≤ i → i < stop → packet[i]? = other[i]?) : Span other start stop as := by
  induction span with
  | done offset => exact .done offset
  | @step offset stop rest fits tail ih =>
    have moved := followingLe packet offset
    have ahead := spanLe tail
    obtain ⟨read,length⟩ := attributeAgrees same (by omega)
    have next : following packet offset = following other offset := by
      unfold following; rw [length]
    have rest := ih inside fun i low high => same i (by omega) high
    rw [read]
    rw [next] at rest
    exact .step (by omega) rest

theorem scanFromSpan {fuel : Nat} (ok : scanFrom visit packet fuel result offset = some final) :
    ∃ as, Span packet offset packet.length as ∧ as.foldlM visit result = some final := by
  induction fuel generalizing result offset with
  | zero => simp [scanFrom] at ok
  | succ fuel ih =>
    unfold scanFrom at ok
    split at ok
    · split at ok
      · contradiction
      · rename_i fits
        split at ok
        · contradiction
        · rename_i next visited
          obtain ⟨as,span,folded⟩ := ih ok
          refine ⟨attributeAt packet offset :: as,.step (by omega) span,?_⟩
          simp only [List.foldlM_cons,visited]
          exact folded
    · split at ok
      · contradiction
      · rename_i ends
        obtain rfl : offset = packet.length := by omega
        exact ⟨[],.done _,ok⟩

theorem spanScanFrom (span : Span packet offset stop as) (whole : stop = packet.length)
    (folded : as.foldlM visit result = some final) (fuel : Nat)
    (enough : packet.length < offset + fuel) :
    scanFrom visit packet fuel result offset = some final := by
  induction span generalizing result fuel with
  | done offset =>
    cases fuel with
    | zero => omega
    | succ fuel =>
      simp only [scanFrom]
      rw [if_neg (by omega),if_neg (by omega)]
      exact folded
  | @step offset stop rest fits tail ih =>
    cases fuel with
    | zero =>
      have ahead := spanLe tail
      have moved := followingLe packet offset
      omega
    | succ fuel =>
      have moved := followingLe packet offset
      simp only [List.foldlM_cons] at folded
      cases visited : visit result (attributeAt packet offset) with
      | none => simp [visited] at folded
      | some next =>
        simp only [visited] at folded
        simp only [scanFrom,visited]
        rw [if_pos (by omega),if_neg (by omega)]
        exact ih whole folded fuel (by omega)

theorem scanExact : scan visit packet result offset = some final ↔
      ∃ as, Span packet offset packet.length as ∧ as.foldlM visit result = some final := by
  constructor
  · exact scanFromSpan
  · rintro ⟨as,span,folded⟩
    exact spanScanFrom span rfl folded _ (by omega)

theorem collected (as seen : List Attribute) :
    as.foldlM (fun seen a => some (seen ++ [a])) seen = some (seen ++ as) := by
  induction as generalizing seen with
  | nil => simp
  | cons a as ih => simp [ih]

theorem attributesExact :
    attributes packet offset = some as ↔ Span packet offset packet.length as := by
  unfold attributes
  rw [scanExact]
  constructor
  · rintro ⟨bs,span,folded⟩
    rw [collected] at folded
    cases Option.some.inj folded
    exact span
  · intro span
    exact ⟨as,span,collected as []⟩

def padding (n : Nat) : Bytes := List.replicate ((4 - n % 4) % 4) 0

def appendAttribute (packet : Bytes) (type : UInt16) (value : Bytes) : Bytes :=
  let output := packet ++ u16 type ++ u16 (UInt16.ofNat value.length) ++ value
  output ++ padding output.length

theorem appendLength (even : packet.length % 4 = 0) (type : UInt16) (value : Bytes) :
    (appendAttribute packet type value).length = packet.length + 4 + align value.length := by
  simp only [appendAttribute,padding,List.length_append,u16Length,List.length_replicate,align]
  omega

theorem appendEven (even : packet.length % 4 = 0) (type : UInt16) (value : Bytes) :
    (appendAttribute packet type value).length % 4 = 0 := by
  have whole := alignMod value.length
  rw [appendLength even]
  omega

theorem appendLaid (packet : Bytes) (type : UInt16) (value after : Bytes) :
    ∃ tail, appendAttribute packet type value ++ after = packet ++
      (u16 type ++ (u16 (UInt16.ofNat value.length) ++ (value ++ tail))) := by
  exact ⟨padding (packet ++ u16 type ++ u16 (UInt16.ofNat value.length) ++ value).length ++
    after,by simp [appendAttribute]⟩

theorem appendSpan (even : packet.length % 4 = 0) (type : UInt16) {value : Bytes}
    (short : value.length < 65536) (after : Bytes) :
    Span (appendAttribute packet type value ++ after) packet.length
      (appendAttribute packet type value).length [⟨packet.length,type,value⟩] := by
  obtain ⟨tail,laid⟩ := appendLaid packet type value after
  have length : lengthAt (appendAttribute packet type value ++ after) packet.length =
      value.length := by
    unfold lengthAt
    rw [laid,List.drop_length_add_append]
    change (readU16 (u16 (UInt16.ofNat value.length) ++ _)).toNat = _
    rw [readU16Written,UInt16.toNat_ofNat',Nat.mod_eq_of_lt short]
  have read : attributeAt (appendAttribute packet type value ++ after) packet.length =
      ⟨packet.length,type,value⟩ := by
    unfold attributeAt
    rw [length,laid,List.drop_left,List.drop_length_add_append,readU16Written]
    change Attribute.mk _ _ ((value ++ _).take value.length) = _
    rw [List.take_left]
  have next : following (appendAttribute packet type value ++ after) packet.length =
      (appendAttribute packet type value).length := by
    unfold following
    rw [length,Nat.add_assoc,alignFour even,appendLength even,Nat.add_assoc]
    congr 1
    exact alignFour (n := 4) rfl value.length
  have fits : packet.length + 4 + value.length ≤ (appendAttribute packet type value).length := by
    have grows := alignLe value.length
    rw [appendLength even]
    omega
  have step : Span (appendAttribute packet type value ++ after) packet.length
      (following (appendAttribute packet type value ++ after) packet.length) [_] :=
    .step (by rw [length,List.length_append]; omega) (.done _)
  rw [read,next] at step
  exact step

def appendAll (packet : Bytes) (as : List (UInt16 × Bytes)) : Bytes :=
  as.foldl (fun packet a => appendAttribute packet a.1 a.2) packet

def bodySize (as : List (UInt16 × Bytes)) : Nat := (as.map fun a => 4 + align a.2.length).sum

def place (offset : Nat) : List (UInt16 × Bytes) → List Attribute
  | [] => []
  | a :: as => ⟨offset,a.1,a.2⟩ :: place (offset + (4 + align a.2.length)) as

theorem valueSmall {as : List (UInt16 × Bytes)} {a : UInt16 × Bytes} (member : a ∈ as) :
    a.2.length ≤ bodySize as := by
  have grows := alignLe a.2.length
  induction as with
  | nil => simp at member
  | cons b as ih =>
    simp only [bodySize,List.map_cons,List.sum_cons] at ih ⊢
    rcases List.mem_cons.mp member with same | old
    · subst b; omega
    · have := ih old; omega

theorem placeAppend (offset : Nat) (as bs : List (UInt16 × Bytes)) :
    place offset (as ++ bs) = place offset as ++ place (offset + bodySize as) bs := by
  induction as generalizing offset with
  | nil => rfl
  | cons a as ih => simp [place,bodySize,ih,Nat.add_assoc]

theorem appendAllLength (even : packet.length % 4 = 0) (as : List (UInt16 × Bytes)) :
    (appendAll packet as).length = packet.length + bodySize as := by
  induction as generalizing packet with
  | nil => rfl
  | cons a as ih =>
    have next := ih (appendEven even a.1 a.2)
    simp only [appendAll,List.foldl_cons] at next ⊢
    rw [next,appendLength even]
    simp only [bodySize,List.map_cons,List.sum_cons]
    omega

theorem appendAllMore (packet : Bytes) (as : List (UInt16 × Bytes)) :
    ∃ more, appendAll packet as = packet ++ more := by
  induction as generalizing packet with
  | nil => exact ⟨[],by simp [appendAll]⟩
  | cons a as ih =>
    obtain ⟨more,written⟩ := ih (appendAttribute packet a.1 a.2)
    obtain ⟨tail,laid⟩ := appendLaid packet a.1 a.2 more
    exact ⟨_,written.trans laid⟩

theorem appendAllSpan (even : packet.length % 4 = 0) {as : List (UInt16 × Bytes)}
    (short : ∀ a ∈ as, a.2.length < 65536) (after : Bytes) :
    Span (appendAll packet as ++ after) packet.length (appendAll packet as).length
      (place packet.length as) := by
  induction as generalizing packet with
  | nil => exact .done _
  | cons a as ih =>
    have rest := ih (appendEven even a.1 a.2) fun b member =>
      short b (List.mem_cons_of_mem _ member)
    obtain ⟨more,written⟩ := appendAllMore (appendAttribute packet a.1 a.2) as
    have first := appendSpan even a.1 (short a (List.mem_cons_self ..)) (more ++ after)
    rw [← List.append_assoc,← written] at first
    have whole := spanAppend first rest
    rw [appendLength even,Nat.add_assoc] at whole
    exact whole

end MediaServer.Tlv
