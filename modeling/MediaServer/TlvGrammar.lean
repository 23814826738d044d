import MediaServer.Tlv

/-! The grammar of attributes. A body is a sequence of parts, each a type word, a length word, the
value and the bytes that fill it up to a multiple of four, whatever they are. The walk over a packet
finds exactly these parts, and the same walk with every read checked never leaves the packet. The
file names nothing of the server. -/
namespace MediaServer.Tlv
open Bytes

variable {σ : Type}

structure Part where
  type : UInt16
  value : Bytes
  fill : Bytes
  deriving DecidableEq, Repr

def Part.bytes (part : Part) : Bytes :=
  u16 part.type ++ (u16 (UInt16.ofNat part.value.length) ++ (part.value ++ part.fill))

structure Part.Fits (part : Part) : Prop where
  short : part.value.length < 65536
  filled : part.value.length + part.fill.length = align part.value.length

def Part.attribute (part : Part) (offset : Nat) : Attribute := ⟨offset,part.type,part.value⟩

def located (offset : Nat) : List Part → List Attribute
  | [] => []
  | part :: parts => part.attribute offset :: located (offset + part.bytes.length) parts

theorem partLength {part : Part} (fits : part.Fits) :
    part.bytes.length = 4 + align part.value.length := by
  rw [← fits.filled]
  simp only [Part.bytes,List.length_append,u16Length]
  omega

variable {packet : Bytes} {offset : Nat}

theorem partRead {part : Part} {rest : Bytes} (fits : part.Fits)
    (here : packet.drop offset = part.bytes ++ rest) :
    lengthAt packet offset = part.value.length ∧
      attributeAt packet offset = part.attribute offset := by
  have laid : packet.drop offset = u16 part.type ++ (u16 (UInt16.ofNat part.value.length) ++
      (part.value ++ (part.fill ++ rest))) := by
    rw [here,Part.bytes]
    simp only [List.append_assoc]
  have length : lengthAt packet offset = part.value.length := by
    unfold lengthAt
    rw [← List.drop_drop,laid]
    change (readU16 (u16 (UInt16.ofNat part.value.length) ++ _)).toNat = _
    rw [readU16Written,UInt16.toNat_ofNat',Nat.mod_eq_of_lt fits.short]
  refine ⟨length,?_⟩
  unfold attributeAt Part.attribute
  rw [length,← List.drop_drop,laid,readU16Written]
  change Attribute.mk _ _ ((part.value ++ _).take part.value.length) = _
  rw [List.take_left]

theorem partsSpan (even : offset % 4 = 0) (inside : offset ≤ packet.length) {parts : List Part}
    (fits : ∀ part ∈ parts, part.Fits) (here : packet.drop offset = parts.flatMap Part.bytes) :
    Span packet offset packet.length (located offset parts) := by
  induction parts generalizing offset with
  | nil =>
    have ends : packet.length ≤ offset := List.drop_eq_nil_iff.mp here
    obtain rfl : offset = packet.length := by omega
    exact .done _
  | cons part parts ih =>
    have fit := fits part List.mem_cons_self
    rw [List.flatMap_cons] at here
    obtain ⟨length,read⟩ := partRead fit here
    have size := congrArg List.length here
    have whole := alignMod part.value.length
    rw [List.length_drop,List.length_append,partLength fit] at size
    have next : following packet offset = offset + part.bytes.length := by
      rw [following,length,Nat.add_assoc,alignFour even,partLength fit]
      congr 1
      exact alignFour (n := 4) rfl part.value.length
    have rest : packet.drop (offset + part.bytes.length) = parts.flatMap Part.bytes := by
      rw [← List.drop_drop,here,List.drop_left]
    have tail := ih (by rw [partLength fit]; omega) (by rw [partLength fit]; omega)
      (fun other member => fits other (List.mem_cons_of_mem _ member)) rest
    have grows := alignLe part.value.length
    have walk : Span packet offset packet.length
        (attributeAt packet offset :: located (offset + part.bytes.length) parts) :=
      .step (by rw [length]; omega) (next ▸ tail)
    rw [read] at walk
    exact walk

theorem spanPart (even : offset % 4 = 0) (inside : following packet offset ≤ packet.length) :
    ∃ part : Part, part.Fits ∧ attributeAt packet offset = part.attribute offset ∧
      packet.drop offset = part.bytes ++ packet.drop (following packet offset) ∧
      following packet offset = offset + part.bytes.length := by
  have bound : lengthAt packet offset < 65536 := (readU16 (packet.drop (offset + 2))).toNat_lt
  have grows := alignLe (offset + 4 + lengthAt packet offset)
  have next : following packet offset = offset + (4 + align (lengthAt packet offset)) := by
    rw [following,Nat.add_assoc,alignFour even]
    congr 1
    exact alignFour (n := 4) rfl _
  have more := alignLe (lengthAt packet offset)
  let value := (packet.drop (offset + 4)).take (lengthAt packet offset)
  let fill := (packet.drop (offset + 4 + lengthAt packet offset)).take
    (align (lengthAt packet offset) - lengthAt packet offset)
  have valueLength : value.length = lengthAt packet offset := by
    simp only [value,List.length_take,List.length_drop]
    omega
  have fillLength : fill.length = align (lengthAt packet offset) - lengthAt packet offset := by
    simp only [fill,List.length_take,List.length_drop]
    omega
  have fits : Part.Fits ⟨readU16 (packet.drop offset),value,fill⟩ :=
    ⟨by rw [valueLength]; exact bound,by rw [valueLength,fillLength]; omega⟩
  refine ⟨_,fits,rfl,?_,?_⟩
  · have type : u16 (readU16 (packet.drop offset)) = (packet.drop offset).take 2 := by
      have same : readU16 (packet.drop offset) = readU16 ((packet.drop offset).take 2) := by
        apply readU16Congr <;> simp
      rw [same]
      exact u16Read _ (by rw [List.length_take,List.length_drop]; omega)
    have size : u16 (UInt16.ofNat value.length) = (packet.drop (offset + 2)).take 2 := by
      have same : readU16 (packet.drop (offset + 2)) =
          readU16 ((packet.drop (offset + 2)).take 2) := by
        apply readU16Congr <;> simp
      rw [valueLength,lengthAt,UInt16.ofNat_toNat,same]
      exact u16Read _ (by rw [List.length_take,List.length_drop]; omega)
    have cut : ∀ start n, (packet.drop start).take n ++ packet.drop (start + n) =
        packet.drop start := by
      intro start n
      rw [← List.drop_drop,List.take_append_drop]
    have end_ : following packet offset = offset + 4 + lengthAt packet offset +
        (align (lengthAt packet offset) - lengthAt packet offset) := by omega
    simp only [Part.bytes,type,size,List.append_assoc]
    rw [end_,cut,cut,cut (offset + 2) 2,cut]
  · rw [next,partLength fits,valueLength]

theorem spanParts {stop : Nat} {as : List Attribute} (span : Span packet offset stop as)
    (even : offset % 4 = 0) (whole : stop = packet.length) :
    ∃ parts : List Part, (∀ part ∈ parts, part.Fits) ∧
      packet.drop offset = parts.flatMap Part.bytes ∧ as = located offset parts := by
  induction span with
  | done offset =>
    exact ⟨[],(fun _ member => nomatch member),by simp [whole],rfl⟩
  | @step offset stop rest fits tail ih =>
    have inside : following packet offset ≤ packet.length := whole ▸ spanLe tail
    obtain ⟨part,fit,read,here,next⟩ := spanPart even inside
    obtain ⟨parts,fitting,bytes,same⟩ := ih (alignMod _) whole
    refine ⟨part :: parts,?_,?_,?_⟩
    · intro other member
      rcases List.mem_cons.mp member with first | later
      · subst first
        exact fit
      · exact fitting other later
    · rw [List.flatMap_cons,here,bytes]
    · rw [read,same,next]
      rfl

theorem spanGrammar {as : List Attribute} (even : offset % 4 = 0) (inside : offset ≤ packet.length) :
    Span packet offset packet.length as ↔
      ∃ parts : List Part, (∀ part ∈ parts, part.Fits) ∧
        packet.drop offset = parts.flatMap Part.bytes ∧ as = located offset parts := by
  constructor
  · intro span
    exact spanParts span even rfl
  · rintro ⟨parts,fits,here,same⟩
    subst same
    exact partsSpan even inside fits here

def readBytes (packet : Bytes) : Nat → Nat → Option Bytes
  | _, 0 => some []
  | start, n + 1 => do
    let byte ← packet[start]?
    let rest ← readBytes packet (start + 1) n
    some (byte :: rest)

theorem readInside {start n : Nat} (inside : start + n ≤ packet.length) :
    readBytes packet start n = some ((packet.drop start).take n) := by
  induction n generalizing start with
  | zero => simp [readBytes]
  | succ n ih =>
    have here : start < packet.length := by omega
    rw [readBytes,ih (by omega),List.getElem?_eq_getElem here,List.drop_eq_getElem_cons here]
    rfl

/- The walk with every read checked. Nothing is returned when a byte is read that the packet does not
have, or when the fuel is used up. -/
def checkedFrom (visit : σ → Attribute → Option σ) (packet : Bytes) :
    Nat → σ → Nat → Option (Option σ)
  | 0, _, _ => none
  | fuel + 1, result, offset =>
    if offset + 4 ≤ packet.length then do
      let type ← readBytes packet offset 2
      let size ← readBytes packet (offset + 2) 2
      let length := (readU16 size).toNat
      if offset + 4 + length > packet.length then some none
      else
        let value ← readBytes packet (offset + 4) length
        match visit result ⟨offset,readU16 type,value⟩ with
        | none => some none
        | some result => checkedFrom visit packet fuel result (align (offset + 4 + length))
    else some (if offset ≠ packet.length then none else some result)

theorem checkedScan {visit : σ → Attribute → Option σ} (fuel : Nat) {result : σ}
    (enough : packet.length < offset + fuel + 1) :
    checkedFrom visit packet (fuel + 1) result offset =
      some (scanFrom visit packet (fuel + 1) result offset) := by
  induction fuel generalizing result offset with
  | zero =>
    have short : ¬offset + 4 ≤ packet.length := by omega
    simp only [checkedFrom,scanFrom,if_neg short]
  | succ fuel ih =>
    rw [checkedFrom,scanFrom]
    split
    · rename_i room
      have type : readU16 ((packet.drop offset).take 2) = readU16 (packet.drop offset) := by
        apply readU16Congr <;> simp
      have size : readU16 ((packet.drop (offset + 2)).take 2) =
          readU16 (packet.drop (offset + 2)) := by
        apply readU16Congr <;> simp
      rw [readInside (by omega),readInside (by omega)]
      simp only [Option.bind_eq_bind,Option.bind_some,type,size]
      change (if offset + 4 + lengthAt packet offset > packet.length then some none else _) = _
      split
      · rfl
      · rename_i fits
        have inside : offset + 4 + (readU16 (packet.drop (offset + 2))).toNat ≤ packet.length :=
          Nat.le_of_not_gt fits
        rw [readInside inside]
        simp only [Option.bind_some]
        change (match visit result (attributeAt packet offset) with
          | none => some none
          | some result => checkedFrom visit packet (fuel + 1) result (following packet offset)) = _
        have moved := followingLe packet offset
        cases visit result (attributeAt packet offset) with
        | none => rfl
        | some next => exact ih (by omega)
    · rfl

end MediaServer.Tlv
