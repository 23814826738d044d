import Mathlib.Data.List.Basic
import MediaServer.Bytes

/-! dtls_transport::pump_outgoing: the bytes of the write BIO leave as one datagram a DTLS record. A
byte of the buffer is read with its bound; none is a read outside of it. -/
namespace MediaServer.Dtls

def recordHeaderSize : Nat := 13
def intMax : Nat := 2147483647

/- BUF_MEM_grow_clean lets a memory BIO hold no more. -/
def memoryBioLimit : Nat := 2147483644

def span (output : Bytes) (offset size : Nat) : Option Bytes :=
  if offset + size ≤ output.length then some ((output.drop offset).take size) else none

def walk (output : Bytes) (offset : Nat) (sent : List Bytes) : Option (List Bytes × Bool) :=
  if offset < output.length then
    if output.length - offset < recordHeaderSize then some (sent,false)
    else
      match output[offset + 11]?, output[offset + 12]? with
      | some high, some low =>
        let recordSize := recordHeaderSize + (high.toNat * 256 + low.toNat)
        if recordSize > output.length - offset then some (sent,false)
        else
          match span output offset recordSize with
          | none => none
          | some datagram => walk output (offset + recordSize) (sent ++ [datagram])
      | _, _ => none
  else some (sent,true)
termination_by output.length - offset
decreasing_by simp only [recordHeaderSize]; omega

structure Pumped where
  sent : List Bytes
  bio : Bytes
  ok : Bool
  deriving DecidableEq, Repr

def pump (bio : Bytes) (sent : List Bytes) : Option Pumped :=
  if 0 < bio.length then
    if bio.length > intMax then some ⟨sent,bio,false⟩
    else
      match walk bio 0 sent with
      | none => none
      | some (sent,false) => some ⟨sent,[],false⟩
      | some (sent,true) => pump (bio.drop bio.length) sent
  else some ⟨sent,bio,true⟩
termination_by bio.length
decreasing_by simp only [List.drop_length,List.length_nil]; omega

def pumpOutgoing (bio : Bytes) : Option Pumped := pump bio []

def IsRecord (record : Bytes) : Prop :=
  ∃ high low, record[11]? = some high ∧ record[12]? = some low ∧
    record.length = recordHeaderSize + (high.toNat * 256 + low.toNat)

theorem recordLong {record : Bytes} (well : IsRecord record) : 13 ≤ record.length := by
  obtain ⟨high,low,_,_,size⟩ := well
  rw [size,recordHeaderSize]
  omega

inductive Walked : Bytes → List Bytes → Bool → Prop where
  | done : Walked [] [] true
  | stop (rest : Bytes) (some_ : rest ≠ [])
      (none_ : ∀ record tail, IsRecord record → rest ≠ record ++ tail) : Walked rest [] false
  | record {rest sent ok} (record : Bytes) (well : IsRecord record) (next : Walked rest sent ok) :
      Walked (record ++ rest) (record :: sent) ok

theorem recordFront {record tail : Bytes} {high low : UInt8} (well : IsRecord record)
    (first : (record ++ tail)[11]? = some high) (second : (record ++ tail)[12]? = some low) :
    record.length = recordHeaderSize + (high.toNat * 256 + low.toNat) := by
  have long := recordLong well
  obtain ⟨high',low',first',second',size⟩ := well
  rw [List.getElem?_append_left (by omega),first'] at first
  rw [List.getElem?_append_left (by omega),second'] at second
  cases Option.some.inj first
  cases Option.some.inj second
  exact size

theorem walkWalked (output : Bytes) (offset : Nat) (sent : List Bytes) (fits : offset ≤ output.length) :
    ∃ more ok, walk output offset sent = some (sent ++ more,ok) ∧
      Walked (output.drop offset) more ok := by
  generalize left : output.length - offset = n
  induction n using Nat.strongRecOn generalizing offset sent with
  | ind n ih =>
    have header : recordHeaderSize = 13 := rfl
    have remaining : (output.drop offset).length = output.length - offset := List.length_drop
    rw [walk]
    split
    · rename_i inside
      have some_ : output.drop offset ≠ [] := by
        intro empty
        rw [empty,List.length_nil] at remaining
        omega
      split
      · rename_i short
        refine ⟨[],false,by rw [List.append_nil],.stop _ some_ ?_⟩
        intro record tail well same
        have long := recordLong well
        rw [same,List.length_append] at remaining
        omega
      · rename_i enough
        have eleven : offset + 11 < output.length := by omega
        have twelve : offset + 12 < output.length := by omega
        rw [List.getElem?_eq_getElem eleven,List.getElem?_eq_getElem twelve]
        dsimp only
        have high : (output.drop offset)[11]? = some output[offset + 11] := by
          rw [List.getElem?_drop,List.getElem?_eq_getElem eleven]
        have low : (output.drop offset)[12]? = some output[offset + 12] := by
          rw [List.getElem?_drop,List.getElem?_eq_getElem twelve]
        obtain ⟨size,same⟩ : ∃ size, recordHeaderSize +
            (output[offset + 11].toNat * 256 + output[offset + 12].toNat) = size := ⟨_,rfl⟩
        rw [same]
        split
        · rename_i large
          refine ⟨[],false,by rw [List.append_nil],.stop _ some_ ?_⟩
          intro record tail well cut
          rw [cut] at high low remaining
          have exact_ := recordFront well high low
          rw [List.length_append] at remaining
          omega
        · rename_i whole
          rw [span,if_pos (by omega)]
          dsimp only
          obtain ⟨more,ok,ran,walked⟩ := ih (output.length - (offset + size)) (by omega)
            (offset + size) (sent ++ [(output.drop offset).take size]) (by omega) rfl
          refine ⟨(output.drop offset).take size :: more,ok,?_,?_⟩
          · rw [ran,List.append_assoc]
            rfl
          · have cut : output.drop offset =
                (output.drop offset).take size ++ output.drop (offset + size) := by
              rw [← List.drop_drop,List.take_append_drop]
            nth_rewrite 1 [cut]
            refine .record _ ⟨output[offset + 11],output[offset + 12],?_,?_,?_⟩ walked
            · rw [List.getElem?_take_of_lt (by omega)]
              exact high
            · rw [List.getElem?_take_of_lt (by omega)]
              exact low
            · rw [List.length_take,remaining,same]
              omega
    · rename_i ended
      have empty : output.drop offset = [] := List.drop_eq_nil_iff.mpr (by omega)
      refine ⟨[],true,by rw [List.append_nil],?_⟩
      rw [empty]
      exact .done

theorem Walked.parts {data : Bytes} {sent : List Bytes} {ok : Bool} (walked : Walked data sent ok) :
    (∀ record ∈ sent, IsRecord record) ∧
      ∃ rest, data = sent.flatten ++ rest ∧ (ok = true ↔ rest = []) ∧
        (ok = false → ∀ record tail, IsRecord record → rest ≠ record ++ tail) := by
  induction walked with
  | done => exact ⟨nofun,[],rfl,by simp,nofun⟩
  | stop rest some_ none_ => exact ⟨nofun,rest,rfl,by simpa using some_,fun _ => none_⟩
  | record record well next ih =>
    obtain ⟨all,rest,same,ended⟩ := ih
    refine ⟨?_,rest,?_,ended⟩
    · intro other member
      rcases List.mem_cons.mp member with rfl | later
      · exact well
      · exact all other later
    · rw [same,List.flatten_cons,List.append_assoc]

theorem Walked.whole {records : List Bytes} (all : ∀ record ∈ records, IsRecord record)
    {sent : List Bytes} {ok : Bool} (walked : Walked records.flatten sent ok) :
    sent = records ∧ ok = true := by
  induction records generalizing sent with
  | nil =>
    rw [List.flatten_nil] at walked
    generalize empty : ([] : Bytes) = data at walked
    cases walked with
    | done => exact ⟨rfl,rfl⟩
    | stop _ some_ _ => exact absurd empty.symm some_
    | record record well _ =>
      have long := recordLong well
      have none_ := congrArg List.length empty
      rw [List.length_nil,List.length_append] at none_
      omega
  | cons first rest ih =>
    have own := all first List.mem_cons_self
    rw [List.flatten_cons] at walked
    generalize joined : first ++ rest.flatten = data at walked
    cases walked with
    | done =>
      have long := recordLong own
      have none_ := congrArg List.length joined
      rw [List.length_nil,List.length_append] at none_
      omega
    | stop _ _ none_ => exact absurd joined.symm (none_ first rest.flatten own)
    | @record tail sent _ record well next =>
      obtain ⟨high,low,at11,at12,size⟩ := well
      have bound : 13 ≤ record.length := by rw [size,recordHeaderSize]; omega
      have first11 : (first ++ rest.flatten)[11]? = some high := by
        rw [joined,List.getElem?_append_left (by omega),at11]
      have first12 : (first ++ rest.flatten)[12]? = some low := by
        rw [joined,List.getElem?_append_left (by omega),at12]
      have sized := recordFront own first11 first12
      obtain ⟨rfl,rfl⟩ := List.append_inj joined (by rw [sized,size])
      obtain ⟨rfl,done⟩ := ih (fun other member => all other (List.mem_cons_of_mem _ member)) next
      exact ⟨rfl,done⟩

theorem pumpEmpty (sent : List Bytes) : pump [] sent = some ⟨sent,[],true⟩ := by
  rw [pump]
  rfl

theorem pumpWalked {bio : Bytes} (some_ : bio ≠ []) (small : bio.length ≤ intMax) :
    ∃ sent ok, pumpOutgoing bio = some ⟨sent,[],ok⟩ ∧ Walked bio sent ok := by
  obtain ⟨sent,ok,ran,walked⟩ := walkWalked bio 0 [] (Nat.zero_le _)
  rw [List.nil_append] at ran
  rw [List.drop_zero] at walked
  have positive : 0 < bio.length := List.length_pos_of_ne_nil some_
  refine ⟨sent,ok,?_,walked⟩
  rw [pumpOutgoing,pump,if_pos positive,if_neg (by omega),ran]
  cases ok with
  | false => rfl
  | true =>
    dsimp only
    rw [List.drop_length]
    exact pumpEmpty sent

theorem dtlsOutput (bio : Bytes) (held : bio.length ≤ memoryBioLimit) :
    (∀ records : List Bytes, (∀ record ∈ records, IsRecord record) → bio = records.flatten →
      pumpOutgoing bio = some ⟨records,[],true⟩) ∧
    ((¬∃ records : List Bytes, (∀ record ∈ records, IsRecord record) ∧ bio = records.flatten) →
      ∃ sent rest, pumpOutgoing bio = some ⟨sent,[],false⟩ ∧
        (∀ record ∈ sent, IsRecord record) ∧ bio = sent.flatten ++ rest ∧
        ∀ record tail, IsRecord record → rest ≠ record ++ tail) := by
  have small : bio.length ≤ intMax := Nat.le_trans held (by decide)
  constructor
  · rintro records all rfl
    by_cases some_ : records.flatten = []
    · have none_ : records = [] := by
        cases records with
        | nil => rfl
        | cons first rest =>
          have long := recordLong (all first List.mem_cons_self)
          have empty := congrArg List.length some_
          rw [List.flatten_cons,List.length_append,List.length_nil] at empty
          omega
      subst none_
      exact pumpEmpty []
    · obtain ⟨sent,ok,ran,walked⟩ := pumpWalked some_ small
      obtain ⟨rfl,rfl⟩ := walked.whole all
      exact ran
  · intro other
    have some_ : bio ≠ [] := by
      rintro rfl
      exact other ⟨[],nofun,rfl⟩
    obtain ⟨sent,ok,ran,walked⟩ := pumpWalked some_ small
    obtain ⟨all,rest,same,ended,stopped⟩ := walked.parts
    cases ok with
    | false => exact ⟨sent,rest,ran,all,same,stopped rfl⟩
    | true =>
      rw [ended.mp rfl,List.append_nil] at same
      exact absurd ⟨sent,all,same⟩ other

def handshakeRecord : Bytes := [22,254,253,0,0,0,0,0,0,0,0,0,2,1,0]
def changeRecord : Bytes := [20,254,253,0,0,0,0,0,0,0,1,0,1,1]

theorem twoRecordsSent : pumpOutgoing (handshakeRecord ++ changeRecord) =
    some ⟨[handshakeRecord,changeRecord],[],true⟩ := by
  refine (dtlsOutput _ (by decide)).1 [handshakeRecord,changeRecord] ?_ rfl
  intro record member
  simp only [List.mem_cons,List.not_mem_nil,or_false] at member
  rcases member with rfl | rfl
  · exact ⟨0,2,rfl,rfl,rfl⟩
  · exact ⟨0,1,rfl,rfl,rfl⟩

end MediaServer.Dtls
