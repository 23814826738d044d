import Mathlib.Algebra.Order.Ring.Int
import Mathlib.Data.List.Basic
import MediaServer.Text

/-! The identities of the simulated devices and channels (fleet_state.go). A string is a list with one
character a byte. -/
namespace MediaServer.Simulator
open Text

def identitySuffixLength : Nat := 7

def validDigits (value : Text) (length : Nat) : Bool :=
  value.length == length && value.all Char.isDigit

def atoi (text : Text) : Option Int64 :=
  ((match text with
    | '-' :: rest => (natural rest).map fun n : Nat => -(n : Int)
    | '+' :: rest => (natural rest).map fun n : Nat => (n : Int)
    | _ => (natural text).map fun n : Nat => (n : Int)).filter fun n =>
      -2 ^ 63 ≤ n ∧ n < 2 ^ 63).map Int64.ofInt

structure IdentitySet where
  devicePrefix : Text
  channelPrefix : Text
  deviceStart : Int64
  channelStart : Int64
  count : Int64
  deriving DecidableEq, Repr

inductive Refusal where
  | invalidRange | notNumber | exceedsSuffix
  deriving DecidableEq, Repr

def suffixOf (identity : Text) : Text := identity.drop (identity.length - identitySuffixLength)
def leadOf (identity : Text) : Text := identity.take (identity.length - identitySuffixLength)

def newIdentitySet (deviceID channelID : Text) (count : Int64) : Except Refusal IdentitySet :=
  if !validDigits deviceID 20 || !validDigits channelID 20 || count ≤ 0 then .error .invalidRange
  else
    match atoi (suffixOf deviceID) with
    | none => .error .notNumber
    | some deviceStart =>
      match atoi (suffixOf channelID) with
      | none => .error .notNumber
      | some channelStart =>
        if deviceStart + count > 10000000 || channelStart + count > 10000000 then
          .error .exceedsSuffix
        else .ok ⟨leadOf deviceID,leadOf channelID,deviceStart,channelStart,count⟩

/- The zeros stop where the number begins, and a long number writes into the front part; none is the
panic of a slice that begins before the buffer. -/
def formatIdentity (lead : Text) (suffix : Int64) : Option Text :=
  let value := showInt suffix.toInt
  let length := lead.length + identitySuffixLength
  if length < value.length then none
  else
    let identity := lead ++ List.replicate (length - value.length - lead.length) '0'
    some (identity.take (length - value.length) ++ value)

def IdentitySet.parseIndex (s : IdentitySet) (identity lead : Text) (start : Int64) :
    Int64 × Bool :=
  if identity.length ≠ lead.length + identitySuffixLength || identity.take lead.length ≠ lead then
    (0,false)
  else
    let value := atoi (identity.drop lead.length)
    let index := value.getD 0 - start
    (index,value.isSome && index ≥ 0 && index < s.count)

def IdentitySet.deviceID (s : IdentitySet) (index : Int64) : Option Text :=
  formatIdentity s.devicePrefix (s.deviceStart + index)

def IdentitySet.channelID (s : IdentitySet) (index : Int64) : Option Text :=
  formatIdentity s.channelPrefix (s.channelStart + index)

def IdentitySet.deviceIndex (s : IdentitySet) (deviceID : Text) : Int64 × Bool :=
  s.parseIndex deviceID s.devicePrefix s.deviceStart

def IdentitySet.channelIndex (s : IdentitySet) (channelID : Text) : Int64 × Bool :=
  s.parseIndex channelID s.channelPrefix s.channelStart

theorem digitsBelow (digits : Text) (all : ∀ c ∈ digits, c.isDigit = true) :
    Nat.ofDigitChars 10 digits 0 < 10 ^ digits.length := by
  induction digits with
  | nil => decide
  | cons c rest ih =>
    have below := ih fun d member => all d (List.mem_cons_of_mem _ member)
    have digit := all c List.mem_cons_self
    simp only [Char.isDigit,Bool.and_eq_true,decide_eq_true_eq] at digit
    have small : c.toNat ≤ 57 := digit.2
    rw [Nat.ofDigitChars_cons,Nat.ofDigitChars_eq_ofDigitChars_zero,List.length_cons,Nat.pow_succ,
      Nat.mul_zero,Nat.zero_add]
    have zero : '0'.toNat = 48 := rfl
    have least : c.toNat - '0'.toNat ≤ 9 := by omega
    have scaled := Nat.mul_le_mul_left (10 ^ rest.length) least
    omega

theorem digitsUnique {left right : Text} (all : ∀ c ∈ left, c.isDigit = true)
    (all' : ∀ c ∈ right, c.isDigit = true) (same : left.length = right.length)
    (value : Nat.ofDigitChars 10 left 0 = Nat.ofDigitChars 10 right 0) : left = right := by
  induction left generalizing right with
  | nil => exact (List.length_eq_zero_iff.mp same.symm).symm
  | cons c rest ih =>
    cases right with
    | nil => cases same
    | cons d others =>
      have lengths : rest.length = others.length := Nat.succ.inj same
      have low := digitsBelow rest fun e member => all e (List.mem_cons_of_mem _ member)
      have low' := digitsBelow others fun e member => all' e (List.mem_cons_of_mem _ member)
      have digit := all c List.mem_cons_self
      have digit' := all' d List.mem_cons_self
      simp only [Char.isDigit,Bool.and_eq_true,decide_eq_true_eq] at digit digit'
      have bound : 48 ≤ c.toNat := digit.1
      have bound' : 48 ≤ d.toNat := digit'.1
      have zero : '0'.toNat = 48 := rfl
      rw [Nat.ofDigitChars_cons,Nat.ofDigitChars_eq_ofDigitChars_zero,Nat.ofDigitChars_cons,
        Nat.ofDigitChars_eq_ofDigitChars_zero (l := others),lengths] at value
      rw [lengths] at low
      have positive : 0 < 10 ^ others.length := Nat.pow_pos (by decide)
      have first : 10 * 0 + (c.toNat - '0'.toNat) = 10 * 0 + (d.toNat - '0'.toNat) := by
        have quotient := congrArg (· / 10 ^ others.length) value
        rwa [Nat.mul_add_div positive,Nat.mul_add_div positive,Nat.div_eq_of_lt low,
          Nat.div_eq_of_lt low',Nat.add_zero,Nat.add_zero] at quotient
      have equal : c = d := by
        rw [← Char.ofNat_toNat c,← Char.ofNat_toNat d]
        congr 1
        omega
      subst equal
      have rest' := ih (fun e member => all e (List.mem_cons_of_mem _ member))
        (fun e member => all' e (List.mem_cons_of_mem _ member)) lengths (by omega)
      rw [rest']

def padded (width n : Nat) : Text := List.replicate (width - (decimal n).length) '0' ++ decimal n

variable {width n : Nat} {text identity : Text}

theorem decimalShort (some_ : 0 < width) (small : n < 10 ^ width) :
    (decimal n).length ≤ width := (Nat.length_toDigits_le_iff (by decide) some_).mpr small

theorem paddedLength (some_ : 0 < width) (small : n < 10 ^ width) :
    (padded width n).length = width := by
  have short := decimalShort some_ small
  rw [padded,List.length_append,List.length_replicate]
  omega

theorem paddedDigits {c : Char} (member : c ∈ padded width n) : c.isDigit = true := by
  rcases List.mem_append.mp member with zero | own
  · rw [List.eq_of_mem_replicate zero]
    decide
  · exact decimalDigits own

theorem paddedValue (width n : Nat) : Nat.ofDigitChars 10 (padded width n) 0 = n := by
  rw [padded,Nat.ofDigitChars_append,Nat.ofDigitChars_replicate_zero,Nat.mul_zero]
  exact Nat.ofDigitChars_ten_toDigits

theorem naturalPadded (width n : Nat) : natural (padded width n) = some n := by
  have some_ : (padded width n).isEmpty = false := by
    simp [padded,decimalNonempty]
  have digits : (padded width n).all Char.isDigit = true :=
    List.all_eq_true.mpr fun c member => paddedDigits member
  rw [natural,some_,digits,paddedValue]
  rfl

theorem naturalText (read : natural text = some n) :
    text = padded text.length n ∧ n < 10 ^ text.length ∧ ∀ c ∈ text, c.isDigit = true := by
  unfold natural at read
  split at read
  · rename_i kept
    rw [Bool.and_eq_true,List.all_eq_true] at kept
    cases Option.some.inj read
    have below := digitsBelow text kept.2
    have some_ : 0 < text.length := by
      cases text with
      | nil => cases kept.1
      | cons c rest => exact Nat.succ_pos _
    refine ⟨?_,below,kept.2⟩
    refine digitsUnique kept.2 (fun c member => paddedDigits member) ?_ ?_
    · rw [paddedLength some_ below]
    · rw [paddedValue]
  · cases read

theorem atoiNatural (read : natural text = some n) (small : n < 2 ^ 63) :
    atoi text = some (Int64.ofInt n) := by
  have digits := (naturalText read).2.2
  unfold atoi
  split
  · rename_i rest
    have sign := digits '-' List.mem_cons_self
    contradiction
  · rename_i rest
    have sign := digits '+' List.mem_cons_self
    contradiction
  · rw [read,Option.map_some,Option.filter_some,if_pos (by simp; omega),Option.map_some]

def isSign (c : Char) : Prop := c = '-' ∨ c = '+'

theorem atoiCases {v : Int64} (read : atoi text = some v) :
    (∃ n, natural text = some n ∧ v.toInt = n) ∨
      ∃ sign rest n, text = sign :: rest ∧ isSign sign ∧ natural rest = some n ∧
        v.toInt ≤ n := by
  unfold atoi at read
  obtain ⟨m,kept,same⟩ := Option.map_eq_some_iff.mp read
  obtain ⟨found,fits⟩ := Option.filter_eq_some_iff.mp kept
  rw [decide_eq_true_eq] at fits
  have value : v.toInt = m := by
    rw [← same]
    exact Int64.toInt_ofInt_of_le fits.1 fits.2
  split at found
  · rename_i rest
    obtain ⟨n,own,rfl⟩ := Option.map_eq_some_iff.mp found
    exact .inr ⟨'-',rest,n,rfl,.inl rfl,own,by omega⟩
  · rename_i rest
    obtain ⟨n,own,rfl⟩ := Option.map_eq_some_iff.mp found
    exact .inr ⟨'+',rest,n,rfl,.inr rfl,own,by omega⟩
  · obtain ⟨n,own,rfl⟩ := Option.map_eq_some_iff.mp found
    exact .inl ⟨n,own,value⟩

theorem signedBelow {rest : Text} {sign : Char} (cut : text = sign :: rest)
    (own : natural rest = some n) (length : text.length = 7) : n < 10 ^ 6 := by
  have small := (naturalText own).2.1
  rw [cut,List.length_cons] at length
  have six : rest.length = 6 := by omega
  rwa [six] at small

theorem atoiBelow {v : Int64} (read : atoi text = some v) (length : text.length = 7) :
    v.toInt < 10 ^ 7 := by
  rcases atoiCases read with ⟨n,own,value⟩ | ⟨sign,rest,n,cut,_,own,value⟩
  · have small := (naturalText own).2.1
    rw [length] at small
    omega
  · have small := signedBelow cut own length
    omega

theorem suffixLength {lead : Text} (length : identity.length = lead.length + identitySuffixLength) :
    (identity.drop lead.length).length = 7 := by
  rw [List.length_drop,length,identitySuffixLength]
  omega

theorem sumInt {a b : Int64} (low : 0 ≤ a.toInt + b.toInt) (high : a.toInt + b.toInt < 2 ^ 63) :
    (a + b).toInt = a.toInt + b.toInt := by
  rw [Int64.toInt_add]
  exact Int.bmod_eq_of_le (by omega) (by omega)

theorem parseTrue {s : IdentitySet} {lead : Text} {start i : Int64} :
    s.parseIndex identity lead start = (i,true) ↔
      identity.length = lead.length + identitySuffixLength ∧ identity.take lead.length = lead ∧
      (∃ v, atoi (identity.drop lead.length) = some v ∧ v = start + i) ∧ 0 ≤ i ∧ i < s.count := by
  unfold IdentitySet.parseIndex
  split
  · rename_i other
    simp only [ne_eq,Bool.or_eq_true,decide_eq_true_eq] at other
    constructor
    · intro same
      cases same
    · rintro ⟨length,front,_⟩
      rcases other with wrong | wrong
      · exact absurd length wrong
      · exact absurd front wrong
  · rename_i own
    simp only [ne_eq,Bool.or_eq_true,decide_eq_true_eq,not_or,Decidable.not_not] at own
    simp only [Prod.mk.injEq,Bool.and_eq_true,decide_eq_true_eq,Option.isSome_iff_exists]
    constructor
    · rintro ⟨rfl,⟨⟨v,read⟩,low⟩,high⟩
      rw [read,Option.getD_some] at low high ⊢
      exact ⟨own.1,own.2,⟨v,rfl,by rw [Int64.add_comm,Int64.sub_add_cancel]⟩,low,high⟩
    · rintro ⟨_,_,⟨v,read,rfl⟩,low,high⟩
      have index : start + i - start = i := by rw [Int64.add_comm,Int64.add_sub_cancel]
      rw [read,Option.getD_some,index]
      exact ⟨rfl,⟨⟨_,rfl⟩,low⟩,high⟩

theorem formatSmall (lead : Text) {suffix : Int64} (value : suffix.toInt = n) (small : n < 10 ^ 7) :
    formatIdentity lead suffix = some (lead ++ padded 7 n) := by
  have short := decimalShort (by decide) small
  have shown : showInt suffix.toInt = decimal n := by rw [value]; rfl
  unfold formatIdentity
  rw [shown,identitySuffixLength]
  dsimp only
  rw [if_neg (by omega),List.take_of_length_le (by simp; omega)]
  have zeros : lead.length + 7 - (decimal n).length - lead.length = 7 - (decimal n).length := by
    omega
  rw [zeros,List.append_assoc,padded]

structure Numbered (lead : Text) (start count : Int64) : Prop where
  length : lead.length = 13
  low : 0 ≤ start.toInt
  high : start.toInt < 10 ^ 7
  some_ : 0 < count.toInt
  fits : (start + count).toInt ≤ 10 ^ 7

def Inverse (parse : Text → Int64 × Bool) (format : Int64 → Option Text) (count : Int64)
    (identity : Text) : Prop :=
  ∀ i, parse identity = (i,true) ↔ 0 ≤ i ∧ i < count ∧ format i = some identity

section
variable {s : IdentitySet} {lead : Text} {start : Int64}

variable {identity : Text} {i : Int64}

theorem formatParses (numbered : Numbered lead start s.count)
    (whole : start.toInt + s.count.toInt ≤ 10 ^ 7) (low : 0 ≤ i) (high : i < s.count)
    (shown : formatIdentity lead (start + i) = some identity) :
    s.parseIndex identity lead start = (i,true) := by
  have least := Int64.le_iff_toInt_le.mp low
  have most := Int64.lt_iff_toInt_lt.mp high
  rw [Int64.toInt_zero] at least
  have bottom := numbered.low
  have sum := sumInt (a := start) (b := i) (by omega) (by omega)
  obtain ⟨n,value⟩ := Int.eq_ofNat_of_zero_le (a := (start + i).toInt) (by omega)
  have small : n < 10 ^ 7 := by omega
  rw [formatSmall lead value small] at shown
  cases Option.some.inj shown
  refine parseTrue.mpr ⟨?_,List.take_left,⟨start + i,?_,rfl⟩,low,high⟩
  · rw [List.length_append,paddedLength (by decide) small]
    rfl
  · rw [List.drop_left,atoiNatural (naturalPadded 7 n) (by omega),← value,Int64.ofInt_toInt]

theorem parseFormats (plain : ∀ c, identity[lead.length]? = some c → ¬isSign c)
    (parsed : s.parseIndex identity lead start = (i,true)) :
    0 ≤ i ∧ i < s.count ∧ formatIdentity lead (start + i) = some identity := by
  obtain ⟨length,front,⟨v,read,same⟩,low,high⟩ := parseTrue.mp parsed
  refine ⟨low,high,?_⟩
  have behind := suffixLength length
  rcases atoiCases read with ⟨n,own,value⟩ | ⟨sign,rest,n,text,signed,_⟩
  · obtain ⟨text,small,_⟩ := naturalText own
    rw [behind] at text small
    rw [← same,formatSmall lead value small,← text,Option.some.injEq]
    nth_rewrite 1 [← front]
    exact List.take_append_drop _ _
  · refine absurd signed (plain sign ?_)
    have first := congrArg (·[0]?) text
    simpa using first

theorem inversePlain (numbered : Numbered lead start s.count)
    (whole : start.toInt + s.count.toInt ≤ 10 ^ 7)
    (plain : ∀ c, identity[lead.length]? = some c → ¬isSign c) :
    Inverse (s.parseIndex · lead start) (fun i => formatIdentity lead (start + i)) s.count
      identity := by
  intro i
  constructor
  · exact parseFormats plain
  · rintro ⟨low,high,shown⟩
    exact formatParses numbered whole low high shown

theorem parsePlain (large : 10 ^ 6 ≤ start.toInt) (whole : start.toInt + s.count.toInt ≤ 10 ^ 7)
    (parsed : s.parseIndex identity lead start = (i,true)) :
    ∀ c, identity[lead.length]? = some c → ¬isSign c := by
  obtain ⟨length,front,⟨v,read,same⟩,low,high⟩ := parseTrue.mp parsed
  have least := Int64.le_iff_toInt_le.mp low
  have most := Int64.lt_iff_toInt_lt.mp high
  rw [Int64.toInt_zero] at least
  have sum := sumInt (a := start) (b := i) (by omega) (by omega)
  rw [← same] at sum
  have behind := suffixLength length
  intro c here signed
  rcases atoiCases read with ⟨n,own,value⟩ | ⟨sign,rest,n,text,_,own,value⟩
  · have digits := (naturalText own).2.2
    have member : c ∈ identity.drop lead.length := by
      refine List.mem_of_getElem? (i := 0) ?_
      rwa [List.getElem?_drop,Nat.add_zero]
    have digit := digits c member
    rcases signed with rfl | rfl <;> contradiction
  · have small := signedBelow text own behind
    omega

theorem signedAccepted (numbered : Numbered lead start s.count) (small : start.toInt < 10 ^ 6) :
    ∃ identity, s.parseIndex identity lead start = (0,true) ∧
      formatIdentity lead (start + 0) ≠ some identity := by
  obtain ⟨n,value⟩ := Int.eq_ofNat_of_zero_le numbered.low
  have six : n < 10 ^ 6 := by omega
  refine ⟨lead ++ '+' :: padded 6 n,?_,?_⟩
  · refine parseTrue.mpr ⟨?_,List.take_left,⟨start,?_,(Int64.add_zero start).symm⟩,?_,?_⟩
    · rw [List.length_append,List.length_cons,paddedLength (by decide) six]
      rfl
    · rw [List.drop_left]
      simp only [atoi,naturalPadded,Option.map_some]
      rw [Option.filter_some,if_pos (by simp; omega),Option.map_some,← value,Int64.ofInt_toInt]
    · exact Int64.le_refl 0
    · rw [Int64.lt_iff_toInt_lt,Int64.toInt_zero]
      exact numbered.some_
  · rw [Int64.add_zero,formatSmall lead value (by omega)]
    intro same
    have suffix : padded 7 n = '+' :: padded 6 n := List.append_cancel_left (Option.some.inj same)
    have member : '+' ∈ padded 7 n := by
      rw [suffix]
      exact List.mem_cons_self
    have digit := paddedDigits member
    contradiction

theorem showIntShort {value : Int} (low : 0 ≤ value) (high : value ≤ 10 ^ 7) :
    (showInt value).length ≤ 8 := by
  obtain ⟨n,rfl⟩ := Int.eq_ofNat_of_zero_le low
  exact decimalShort (by decide) (by omega)

theorem wrappedBroken (numbered : Numbered lead start s.count)
    (large : ¬start.toInt + s.count.toInt ≤ 10 ^ 7) :
    ∃ identity, ¬Inverse (s.parseIndex · lead start) (fun i => formatIdentity lead (start + i))
      s.count identity := by
  have bottom := numbered.low
  have top := numbered.high
  have most := Int64.toInt_lt s.count
  have index : (Int64.ofInt (10 ^ 7 - start.toInt)).toInt = 10 ^ 7 - start.toInt :=
    Int64.toInt_ofInt_of_le (by omega) (by omega)
  have sum := sumInt (a := start) (b := Int64.ofInt (10 ^ 7 - start.toInt)) (by omega) (by omega)
  have short : (showInt (start + Int64.ofInt (10 ^ 7 - start.toInt)).toInt).length ≤ 8 :=
    showIntShort (by omega) (by omega)
  obtain ⟨identity,shown⟩ : ∃ identity,
      formatIdentity lead (start + Int64.ofInt (10 ^ 7 - start.toInt)) = some identity := by
    have long := numbered.length
    unfold formatIdentity
    dsimp only
    rw [if_neg (by rw [identitySuffixLength]; omega)]
    exact ⟨_,rfl⟩
  refine ⟨identity,?_⟩
  intro inverse
  have parsed := (inverse (Int64.ofInt (10 ^ 7 - start.toInt))).mpr ⟨?_,?_,shown⟩
  · obtain ⟨length,_,⟨v,read,same⟩,_⟩ := parseTrue.mp parsed
    have below := atoiBelow read (suffixLength length)
    rw [same] at below
    omega
  · rw [Int64.le_iff_toInt_le,Int64.toInt_zero]
    omega
  · rw [Int64.lt_iff_toInt_lt]
    omega

theorem inverseExactly (numbered : Numbered lead start s.count) :
    (∀ identity, Inverse (s.parseIndex · lead start) (fun i => formatIdentity lead (start + i))
      s.count identity) ↔
      10 ^ 6 ≤ start.toInt ∧ start.toInt + s.count.toInt ≤ 10 ^ 7 := by
  constructor
  · intro every
    constructor
    · by_contra small
      obtain ⟨identity,parsed,other⟩ := signedAccepted numbered (by omega)
      exact other ((every identity 0).mp parsed).2.2
    · by_contra large
      obtain ⟨identity,broken⟩ := wrappedBroken numbered large
      exact broken (every identity)
  · rintro ⟨large,whole⟩ identity i
    constructor
    · intro parsed
      exact parseFormats (parsePlain large whole parsed) parsed
    · rintro ⟨low,high,shown⟩
      exact formatParses numbered whole low high shown

end

theorem startRange {start : Int64} (digits : validDigits identity 20 = true)
    (read : atoi (suffixOf identity) = some start) :
    (leadOf identity).length = 13 ∧ 0 ≤ start.toInt ∧ start.toInt < 10 ^ 7 := by
  rw [validDigits,Bool.and_eq_true,beq_iff_eq,List.all_eq_true] at digits
  obtain ⟨length,digits⟩ := digits
  have cut : identity.length - identitySuffixLength = 13 := by rw [length]; rfl
  have front : (leadOf identity).length = 13 := by
    rw [leadOf,List.length_take,cut,length]
    rfl
  have behind : (suffixOf identity).length = 7 := by
    rw [suffixOf,List.length_drop,cut,length]
  have below := atoiBelow read behind
  refine ⟨front,?_,below⟩
  rcases atoiCases read with ⟨n,own,value⟩ | ⟨sign,rest,n,text,signed,_⟩
  · omega
  · have member : sign ∈ identity := by
      refine List.mem_of_mem_drop (i := identity.length - identitySuffixLength) ?_
      have here : sign ∈ suffixOf identity := by rw [text]; exact List.mem_cons_self
      exact here
    have digit := digits sign member
    rcases signed with rfl | rfl <;> contradiction

theorem madeNumbered {deviceID channelID : Text} {count : Int64} {s : IdentitySet}
    (made : newIdentitySet deviceID channelID count = .ok s) :
    Numbered s.devicePrefix s.deviceStart s.count ∧
      Numbered s.channelPrefix s.channelStart s.count := by
  unfold newIdentitySet at made
  split at made
  · cases made
  · rename_i valid
    simp only [Bool.or_eq_true,Bool.not_eq_true',decide_eq_true_eq,not_or,
      Bool.not_eq_false] at valid
    obtain ⟨⟨device,channel⟩,some_⟩ := valid
    have positive : 0 < count.toInt := by
      have above := Int64.not_le.mp some_
      rwa [Int64.lt_iff_toInt_lt,Int64.toInt_zero] at above
    split at made
    · cases made
    · rename_i deviceStart deviceRead
      split at made
      · cases made
      · rename_i channelStart channelRead
        split at made
        · cases made
        · rename_i fits
          simp only [Bool.or_eq_true,decide_eq_true_eq,not_or] at fits
          cases made
          obtain ⟨length,low,high⟩ := startRange device deviceRead
          obtain ⟨length',low',high'⟩ := startRange channel channelRead
          have most := Int64.le_iff_toInt_le.mp (Int64.not_lt.mp fits.1)
          have most' := Int64.le_iff_toInt_le.mp (Int64.not_lt.mp fits.2)
          exact ⟨⟨length,low,high,positive,most⟩,⟨length',low',high',positive,most'⟩⟩

def IdentitySet.DeviceInverse (s : IdentitySet) (identity : Text) : Prop :=
  Inverse s.deviceIndex s.deviceID s.count identity

def IdentitySet.ChannelInverse (s : IdentitySet) (identity : Text) : Prop :=
  Inverse s.channelIndex s.channelID s.count identity

theorem simulatorIdentities {deviceID channelID : Text} {count : Int64} {s : IdentitySet}
    (made : newIdentitySet deviceID channelID count = .ok s) :
    ((∀ identity, s.DeviceInverse identity ∧ s.ChannelInverse identity) ↔
      (10 ^ 6 ≤ s.deviceStart.toInt ∧ s.deviceStart.toInt + s.count.toInt ≤ 10 ^ 7) ∧
      10 ^ 6 ≤ s.channelStart.toInt ∧ s.channelStart.toInt + s.count.toInt ≤ 10 ^ 7) ∧
    (s.deviceStart.toInt + s.count.toInt ≤ 10 ^ 7 → ∀ identity,
      (∀ c, identity[s.devicePrefix.length]? = some c → ¬isSign c) → s.DeviceInverse identity) ∧
    (s.channelStart.toInt + s.count.toInt ≤ 10 ^ 7 → ∀ identity,
      (∀ c, identity[s.channelPrefix.length]? = some c → ¬isSign c) →
        s.ChannelInverse identity) := by
  obtain ⟨device,channel⟩ := madeNumbered made
  refine ⟨?_,?_,?_⟩
  · have first := inverseExactly device
    have second := inverseExactly channel
    constructor
    · intro every
      exact ⟨first.mp fun identity => (every identity).1,
        second.mp fun identity => (every identity).2⟩
    · rintro ⟨own,other⟩ identity
      exact ⟨first.mpr own identity,second.mpr other identity⟩
  · intro whole identity plain
    exact inversePlain device whole plain
  · intro whole identity plain
    exact inversePlain channel whole plain

theorem sampleIdentities : ∃ s : IdentitySet,
    newIdentitySet "34020000001321000001".toList "34020000001311000001".toList 5 = .ok s ∧
    ∀ identity, s.DeviceInverse identity ∧ s.ChannelInverse identity := by
  let s : IdentitySet :=
    ⟨"3402000000132".toList,"3402000000131".toList,1000001,1000001,5⟩
  have made : newIdentitySet "34020000001321000001".toList "34020000001311000001".toList 5 =
      .ok s := by decide +kernel
  exact ⟨s,made,(simulatorIdentities made).1.mpr (by decide +kernel)⟩

theorem signedIdentity : ∃ s : IdentitySet,
    newIdentitySet "34020000001320000001".toList "34020000001310000001".toList 5 = .ok s ∧
    s.deviceIndex "3402000000132+000001".toList = (0,true) ∧
    s.deviceID 0 ≠ some "3402000000132+000001".toList :=
  ⟨⟨"3402000000132".toList,"3402000000131".toList,1,1,5⟩,by decide +kernel,by decide +kernel,
    by decide +kernel⟩

end MediaServer.Simulator
