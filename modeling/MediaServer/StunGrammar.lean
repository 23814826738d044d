import Mathlib.Data.List.Induction
import Mathlib.Data.List.TakeWhile
import MediaServer.StunAuthentication
import MediaServer.TlvGrammar

/-! The grammar scan_stun_attributes accepts, and what it gives back. The attributes that count are
those before the first MESSAGE-INTEGRITY, that one, and the FINGERPRINTs behind it. -/
namespace MediaServer.Stun
open Bytes Tlv

def beforeIntegrity (as : List Attribute) : List Attribute :=
  as.takeWhile (·.type != attributeMessageIntegrity)

def fromIntegrity (as : List Attribute) : List Attribute :=
  as.dropWhile (·.type != attributeMessageIntegrity)

def counted (as : List Attribute) : List Attribute :=
  beforeIntegrity as ++ ((fromIntegrity as).take 1 ++
    ofType attributeFingerprint ((fromIntegrity as).drop 1))

def single : List UInt16 :=
  [attributeUsername,attributePriority,attributeUseCandidate,attributeIceControlling,
    attributeIceControlled,attributeFingerprint]

def sizes : List (UInt16 × Nat) :=
  [(attributePriority,4),(attributeUseCandidate,0),(attributeIceControlling,8),
    (attributeIceControlled,8),(attributeFingerprint,4),(attributeMessageIntegrity,20)]

def Attribute.Sized (a : Attribute) : Prop :=
  ∀ size, sizes.lookup a.type = some size → a.value.length = size

instance (a : Attribute) : Decidable (Attribute.Sized a) :=
  inferInstanceAs (Decidable (∀ size ∈ sizes.lookup a.type, a.value.length = size))

structure Grammatical (as : List Attribute) : Prop where
  once : ∀ type ∈ single, (ofType type as).length ≤ 1
  sized : ∀ a ∈ as, Attribute.Sized a

/- A type below 0x8000 that is neither one of the types above nor one of those of a response. -/
def unknown (a : Attribute) : Bool :=
  a.type < 0x8000 && !([attributeUsername,attributeMessageIntegrity,attributePriority,
    attributeUseCandidate,attributeErrorCode,attributeUnknownAttributes,
    attributeXorMappedAddress].contains a.type)

def summary (as before : List Attribute) : BindingAttributes where
  username := (ofType attributeUsername as).head?.map (·.value)
  messageIntegrityOffset := (ofType attributeMessageIntegrity as).head?.map (·.offset)
  fingerprintOffset := (ofType attributeFingerprint as).head?.map (·.offset)
  unknownRequiredAttributes := (before.filter unknown).map (·.type)
  priority := !(ofType attributePriority as).isEmpty
  iceControlling := !(ofType attributeIceControlling as).isEmpty
  iceControlled := !(ofType attributeIceControlled as).isEmpty
  useCandidate := !(ofType attributeUseCandidate as).isEmpty

variable {type : UInt16} {a : Attribute} {as before : List Attribute}

theorem ofTypeOther (differs : a.type ≠ type) (as : List Attribute) :
    ofType type (as ++ [a]) = ofType type as := by
  simp [ofType,List.filter_append,differs]

theorem ofTypeSame (same : a.type = type) (as : List Attribute) :
    ofType type (as ++ [a]) = ofType type as ++ [a] := by
  simp [ofType,List.filter_append,same]

theorem grammaticalSnoc :
    Grammatical (as ++ [a]) ↔
      Grammatical as ∧ Attribute.Sized a ∧ (a.type ∈ single → ofType a.type as = []) := by
  constructor
  · intro good
    refine ⟨⟨?_,fun b member => good.sized b (List.mem_append_left _ member)⟩,
      good.sized a (by simp),?_⟩
    · intro type member
      have most := good.once type member
      by_cases same : a.type = type
      · rw [ofTypeSame same,List.length_append] at most
        omega
      · rwa [ofTypeOther same] at most
    · intro member
      have most := good.once a.type member
      rw [ofTypeSame rfl,List.length_append,List.length_singleton] at most
      exact List.eq_nil_of_length_eq_zero (by omega)
  · rintro ⟨good,sized,first⟩
    refine ⟨?_,?_⟩
    · intro type member
      by_cases same : a.type = type
      · subst same
        rw [ofTypeSame rfl,first member]
        simp
      · rw [ofTypeOther same]
        exact good.once type member
    · intro b member
      rcases List.mem_append.mp member with old | last
      · exact good.sized b old
      · cases List.mem_singleton.mp last
        exact sized

theorem sizedSome {size : Nat} (found : sizes.lookup a.type = some size) :
    Attribute.Sized a ↔ a.value.length = size := by
  constructor
  · intro sized
    exact sized size found
  · intro long n other
    cases found.symm.trans other
    exact long

theorem sizedNone (absent : sizes.lookup a.type = none) : Attribute.Sized a := by
  intro size found
  rw [absent] at found
  cases found

theorem ofTypeSnoc (type : UInt16) (as : List Attribute) (a : Attribute) :
    ofType type (as ++ [a]) = ofType type as ++ if a.type = type then [a] else [] := by
  by_cases same : a.type = type
  · rw [ofTypeSame same,if_pos same]
  · rw [ofTypeOther same,if_neg same,List.append_nil]

theorem refusedOr {good : Prop} {bad : Bool} {next rest result : BindingAttributes}
    (exact_ : bad = false ↔ good) (same : good → next = rest) :
    (if bad then none else some next) = some result ↔ good ∧ result = rest := by
  cases bad with
  | true => simpa using fun yes => absurd (exact_.mpr yes) (by decide)
  | false => simp [exact_.mp rfl,same (exact_.mp rfl),eq_comm]

theorem takenOnce {result next : BindingAttributes} {size : Nat} {seen : Bool}
    (kind : a.type = type) (member : type ∈ single) (found : sizes.lookup type = some size)
    (noted : seen = !(ofType type as).isEmpty)
    (same : ofType type as = [] → next = summary (as ++ [a]) (before ++ [a])) :
    (if decide (a.value.length ≠ size) || seen then none else some next) = some result ↔
      (Attribute.Sized a ∧ (a.type ∈ single → ofType a.type as = [])) ∧
        result = summary (as ++ [a]) (before ++ [a]) := by
  subst kind
  apply refusedOr
  · rw [sizedSome found,noted]
    simp [member]
  · rintro ⟨-,first⟩
    exact same (first member)

theorem takeCounted (result : BindingAttributes)
    (counts : ofType attributeMessageIntegrity as = [] ∨ a.type = attributeFingerprint) :
    takeAttribute (summary as before) a = some result ↔
      (Attribute.Sized a ∧ (a.type ∈ single → ofType a.type as = [])) ∧
        result = summary (as ++ [a]) (before ++ [a]) := by
  have skipped : ((summary as before).messageIntegrityOffset.isSome &&
      a.type != attributeFingerprint) = false := by
    rcases counts with empty | last
    · simp [summary,empty]
    · simp [last]
  unfold takeAttribute
  rw [if_neg (by rw [skipped]; decide)]
  by_cases username : a.type = attributeUsername
  · rw [if_pos username]
    apply refusedOr
    · have sized : Attribute.Sized a := sizedNone (by rw [username]; decide)
      simp +decide [summary,sized,username]
    · rintro ⟨-,first⟩
      rw [username] at first
      simp +decide [summary,ofTypeSnoc,username,first (by decide),unknown]
  rw [if_neg username]
  by_cases integrity : a.type = attributeMessageIntegrity
  · rw [if_pos integrity]
    have empty := counts.resolve_right (by rw [integrity]; decide)
    apply refusedOr
    · have plain : a.type ∉ single := by rw [integrity]; decide
      have sized : Attribute.Sized a ↔ a.value.length = messageIntegritySize :=
        sizedSome (by rw [integrity]; rfl)
      by_cases long : a.value.length = messageIntegritySize <;>
        simp [summary,empty,plain,sized,long]
    · intro _
      simp +decide [summary,ofTypeSnoc,integrity,empty,unknown]
  rw [if_neg integrity]
  by_cases priority : a.type = attributePriority
  · rw [if_pos priority]
    refine takenOnce priority (by decide) rfl rfl fun _ => ?_
    simp +decide [summary,ofTypeSnoc,priority,unknown]
  rw [if_neg priority]
  by_cases candidate : a.type = attributeUseCandidate
  · rw [if_pos candidate]
    refine takenOnce candidate (by decide) rfl rfl fun _ => ?_
    simp +decide [summary,ofTypeSnoc,candidate,unknown]
  rw [if_neg candidate]
  by_cases last : a.type = attributeFingerprint
  · rw [if_pos last]
    have noted : (summary as before).fingerprintOffset.isSome =
        !(ofType attributeFingerprint as).isEmpty := by
      cases here : ofType attributeFingerprint as <;> simp [summary,here]
    refine takenOnce last (by decide) rfl noted fun empty => ?_
    simp +decide [summary,ofTypeSnoc,last,empty,unknown]
  rw [if_neg last]
  by_cases controlling : a.type = attributeIceControlling
  · rw [if_pos controlling]
    refine takenOnce controlling (by decide) rfl rfl fun _ => ?_
    simp +decide [summary,ofTypeSnoc,controlling,unknown]
  rw [if_neg controlling]
  by_cases controlled : a.type = attributeIceControlled
  · rw [if_pos controlled]
    refine takenOnce controlled (by decide) rfl rfl fun _ => ?_
    simp +decide [summary,ofTypeSnoc,controlled,unknown]
  rw [if_neg controlled]
  have empty := counts.resolve_right last
  have sized : Attribute.Sized a := sizedNone (by
    rw [List.lookup_eq_none_iff]
    simp [sizes,priority,candidate,controlling,controlled,last,integrity])
  have plain : a.type ∉ single := by
    simp [single,username,priority,candidate,controlling,controlled,last]
  have listed : (decide (a.type < 0x8000) && !(summary as before).messageIntegrityOffset.isSome &&
      a.type != attributeErrorCode && a.type != attributeUnknownAttributes &&
      a.type != attributeXorMappedAddress) = unknown a := by
    rw [Bool.eq_iff_iff]
    simp [summary,empty,unknown,username,integrity,priority,candidate,and_assoc]
  have rest : (if unknown a then some {summary as before with unknownRequiredAttributes :=
      (summary as before).unknownRequiredAttributes ++ [a.type]} else some (summary as before)) =
      some (summary (as ++ [a]) (before ++ [a])) := by
    cases here : unknown a <;>
      simp [summary,ofTypeOther username,ofTypeOther integrity,ofTypeOther priority,
        ofTypeOther candidate,ofTypeOther last,ofTypeOther controlling,ofTypeOther controlled,here]
  rw [listed,rest]
  constructor
  · intro same
    exact ⟨⟨sized,fun member => absurd member plain⟩,(Option.some.inj same).symm⟩
  · rintro ⟨-,same⟩
    rw [same]

def described (as : List Attribute) : BindingAttributes := summary (counted as) (beforeIntegrity as)

theorem integrityCut (as : List Attribute) :
    (∀ b ∈ as, (b.type != attributeMessageIntegrity) = true) ∨
      ∃ before m behind, as = before ++ m :: behind ∧ m.type = attributeMessageIntegrity ∧
        ∀ b ∈ before, (b.type != attributeMessageIntegrity) = true := by
  cases found : as.find? (·.type == attributeMessageIntegrity) with
  | none =>
    left
    intro b member
    simpa using List.find?_eq_none.mp found b member
  | some m =>
    right
    obtain ⟨here,before,behind,same,plain⟩ := List.find?_eq_some_iff_append.mp found
    exact ⟨before,m,behind,same,by simpa using here,fun b member => by simpa using plain b member⟩

theorem openBefore (as : List Attribute)
    (plain : ∀ b ∈ as, (b.type != attributeMessageIntegrity) = true) :
    beforeIntegrity as = as ∧ counted as = as := by
  have before : as.takeWhile (·.type != attributeMessageIntegrity) = as :=
    List.takeWhile_eq_self_iff.mpr plain
  have behind : as.dropWhile (·.type != attributeMessageIntegrity) = [] :=
    List.dropWhile_eq_nil_iff.mpr plain
  simp [beforeIntegrity,counted,fromIntegrity,before,behind,ofType]

theorem closedBefore {m : Attribute} (behind : List Attribute)
    (here : m.type = attributeMessageIntegrity)
    (plain : ∀ b ∈ before, (b.type != attributeMessageIntegrity) = true) :
    beforeIntegrity (before ++ m :: behind) = before ∧
      counted (before ++ m :: behind) = before ++ m :: ofType attributeFingerprint behind := by
  have first : (before ++ m :: behind).takeWhile (·.type != attributeMessageIntegrity) =
      before := by
    rw [List.takeWhile_append_of_pos plain]
    simp [here]
  have rest : (before ++ m :: behind).dropWhile (·.type != attributeMessageIntegrity) =
      m :: behind := by
    rw [List.dropWhile_append_of_pos plain]
    simp [here]
  simp [beforeIntegrity,counted,fromIntegrity,first,rest]

theorem summaryDropped (named : unknown a = false) (as before : List Attribute) :
    summary as (before ++ [a]) = summary as before := by
  simp [summary,named]

theorem describedSnoc (as : List Attribute) (a : Attribute) :
    ((ofType attributeMessageIntegrity (counted as) = [] ∨ a.type = attributeFingerprint) ∧
        counted (as ++ [a]) = counted as ++ [a] ∧
        described (as ++ [a]) = summary (counted as ++ [a]) (beforeIntegrity as ++ [a])) ∨
      ((described as).messageIntegrityOffset.isSome = true ∧ a.type ≠ attributeFingerprint ∧
        counted (as ++ [a]) = counted as ∧ described (as ++ [a]) = described as) := by
  rcases integrityCut as with plain | ⟨before,m,behind,rfl,here,plain⟩
  · left
    obtain ⟨whole,all⟩ := openBefore as plain
    have none_ : ofType attributeMessageIntegrity (counted as) = [] := by
      rw [all]
      exact List.filter_eq_nil_iff.mpr fun b member => by simpa using plain b member
    refine ⟨.inl none_,?_⟩
    by_cases last : a.type = attributeMessageIntegrity
    · obtain ⟨wholeNext,next⟩ := closedBefore [] last plain
      rw [described,wholeNext,next,whole,all]
      exact ⟨rfl,(summaryDropped (by simp [unknown,last]) _ _).symm⟩
    · obtain ⟨wholeNext,next⟩ := openBefore (as ++ [a]) fun b member => by
        rcases List.mem_append.mp member with old | new
        · exact plain b old
        · cases List.mem_singleton.mp new
          simpa using last
      rw [described,wholeNext,next,whole,all]
      exact ⟨rfl,rfl⟩
  · have same : before ++ m :: behind ++ [a] = before ++ m :: (behind ++ [a]) := by simp
    obtain ⟨whole,all⟩ := closedBefore behind here plain
    obtain ⟨wholeNext,next⟩ := closedBefore (behind ++ [a]) here plain
    by_cases last : a.type = attributeFingerprint
    · left
      rw [described,same,wholeNext,next,whole,all,ofTypeSame last]
      refine ⟨.inr last,by simp,?_⟩
      rw [summaryDropped (by simp +decide [unknown,last])]
      simp
    · right
      rw [described,described,same,wholeNext,next,whole,all,ofTypeOther last]
      refine ⟨?_,last,rfl,rfl⟩
      simp [summary,ofType,here]

theorem takeDescribed (result : BindingAttributes) (good : Grammatical (counted as)) :
    takeAttribute (described as) a = some result ↔
      Grammatical (counted (as ++ [a])) ∧ result = described (as ++ [a]) := by
  rcases describedSnoc as a with ⟨counts,list,next⟩ | ⟨held,other,list,next⟩
  · rw [list,next,grammaticalSnoc,described,takeCounted result counts]
    constructor
    · rintro ⟨fits,same⟩
      exact ⟨⟨good,fits⟩,same⟩
    · rintro ⟨⟨-,fits⟩,same⟩
      exact ⟨fits,same⟩
  · rw [list,next,takeAttribute,if_pos (by simp [held,other])]
    constructor
    · intro same
      exact ⟨good,(Option.some.inj same).symm⟩
    · rintro ⟨-,same⟩
      rw [same]

theorem countedGood (good : Grammatical (counted (as ++ [a]))) : Grammatical (counted as) := by
  rcases describedSnoc as a with ⟨-,list,-⟩ | ⟨-,-,list,-⟩
  · rw [list] at good
    exact (grammaticalSnoc.mp good).1
  · rwa [list] at good

theorem takeAll (as : List Attribute) : ∀ result, as.foldlM takeAttribute {} = some result ↔
    Grammatical (counted as) ∧ result = described as := by
  induction as using List.reverseRecOn with
  | nil =>
    intro result
    have good : Grammatical (counted []) :=
      ⟨fun type _ => by simp [counted,beforeIntegrity,fromIntegrity,ofType],nofun⟩
    constructor
    · intro same
      cases Option.some.inj same
      exact ⟨good,rfl⟩
    · rintro ⟨-,rfl⟩
      rfl
  | append_singleton as a inner =>
    intro result
    rw [List.foldlM_append]
    constructor
    · intro done
      obtain ⟨mid,first,last⟩ := Option.bind_eq_some_iff.mp done
      obtain ⟨good,rfl⟩ := (inner mid).mp first
      refine (takeDescribed result good).mp ?_
      simpa using last
    · rintro ⟨good,same⟩
      refine Option.bind_eq_some_iff.mpr ⟨described as,(inner _).mpr ⟨countedGood good,rfl⟩,?_⟩
      simpa using (takeDescribed result (countedGood good)).mpr ⟨good,same⟩

theorem stunGrammar (packet : Bytes) (long : headerSize ≤ packet.length) :
    checkedFrom takeAttribute packet (packet.length + 1) {} headerSize =
        some (scanStunAttributes packet) ∧
      ∀ result, scanStunAttributes packet = some result ↔
        ∃ parts : List Part, (∀ part ∈ parts, part.Fits) ∧
          packet.drop headerSize = parts.flatMap Part.bytes ∧
          Grammatical (counted (located headerSize parts)) ∧
          result = described (located headerSize parts) := by
  refine ⟨checkedScan _ (by omega),fun result => ?_⟩
  unfold scanStunAttributes
  rw [scanExact]
  constructor
  · rintro ⟨as,span,folded⟩
    obtain ⟨parts,fits,bytes,rfl⟩ := (spanGrammar rfl long).mp span
    obtain ⟨good,same⟩ := (takeAll _ result).mp folded
    exact ⟨parts,fits,bytes,good,same⟩
  · rintro ⟨parts,fits,bytes,good,same⟩
    exact ⟨_,(spanGrammar rfl long).mpr ⟨parts,fits,bytes,rfl⟩,(takeAll _ result).mpr ⟨good,same⟩⟩

def namedRequest : Bytes :=
  u16 bindingRequestType ++ u16 12 ++ u32 magicCookie ++ List.replicate 12 0 ++
    (u16 attributeUsername ++ u16 2 ++ [0x61,0x62,0,0]) ++ (u16 0x0011 ++ u16 0)

theorem namedRequestScanned : headerSize ≤ namedRequest.length ∧
    scanStunAttributes namedRequest =
      some {username := some [0x61,0x62], unknownRequiredAttributes := [0x0011]} := by
  have long : headerSize ≤ namedRequest.length := by decide
  refine ⟨long,((stunGrammar namedRequest long).2 _).mpr
    ⟨[⟨attributeUsername,[0x61,0x62],[0,0]⟩,⟨0x0011,[],[]⟩],?_,by decide,⟨?_,?_⟩,by decide⟩⟩
  · intro part member
    simp only [List.mem_cons,List.not_mem_nil,or_false] at member
    rcases member with rfl | rfl <;> constructor <;> decide
  · intro type member
    simp only [single,List.mem_cons,List.not_mem_nil,or_false] at member
    rcases member with rfl | rfl | rfl | rfl | rfl | rfl <;> decide
  · decide

end MediaServer.Stun
