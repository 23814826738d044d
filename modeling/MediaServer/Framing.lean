import MediaServer.Bytes

/-! Frames with a two byte length in front, as in RTP over TCP. A byte string falls into its
complete frames and a rest that holds none; appending bytes extends the rest only. The file
names nothing of the server. -/
namespace MediaServer.Framing
open Bytes

def frame (body : Bytes) : Bytes := u16 (UInt16.ofNat body.length) ++ body

def first (data : Bytes) : Option (Bytes × Bytes) :=
  if data.length < 2 then none
  else if data.length < (readU16 data).toNat + 2 then none
  else some ((data.drop 2).take (readU16 data).toNat,data.drop ((readU16 data).toNat + 2))

@[simp] theorem frameLength (body : Bytes) : (frame body).length = body.length + 2 := by
  rw [frame,List.length_append,u16Length,Nat.add_comm]

variable {body data rest : Bytes}

theorem firstFrame (short : body.length < 65536) (rest : Bytes) :
    first (frame body ++ rest) = some (body,rest) := by
  have size : (readU16 (frame body ++ rest)).toNat = body.length := by
    rw [frame,List.append_assoc,readU16Written]
    simpa using short
  unfold first
  rw [size,if_neg (by simp; omega),if_neg (by simp)]
  simp [frame,u16]

theorem firstSome (found : first data = some (body,rest)) :
    body.length < 65536 ∧ data = frame body ++ rest := by
  unfold first at found
  obtain ⟨two,found⟩ := Option.ite_none_left_eq_some.mp found
  obtain ⟨full,found⟩ := Option.ite_none_left_eq_some.mp found
  cases Option.some.inj found
  have bound := (readU16 data).toNat_lt
  have length : ((data.drop 2).take (readU16 data).toNat).length = (readU16 data).toNat := by
    rw [List.length_take,List.length_drop]
    omega
  have head : u16 (readU16 data) = data.take 2 := by
    have same : readU16 data = readU16 (data.take 2) := by
      apply readU16Congr <;> simp
    rw [same]
    exact u16Read _ (by rw [List.length_take]; omega)
  refine ⟨by omega,?_⟩
  rw [frame,length,UInt16.ofNat_toNat,head,List.append_assoc,Nat.add_comm,← List.drop_drop,
    List.take_append_drop,List.take_append_drop]

theorem firstAppend (found : first data = some (body,rest)) (more : Bytes) :
    first (data ++ more) = some (body,rest ++ more) := by
  obtain ⟨short,same⟩ := firstSome found
  rw [same,List.append_assoc]
  exact firstFrame short (rest ++ more)

theorem firstShorter (found : first data = some (body,rest)) : rest.length < data.length := by
  rw [(firstSome found).2,List.length_append,frameLength]
  omega

def split (data : Bytes) : List Bytes × Bytes :=
  match found : first data with
  | none => ([],data)
  | some (body,rest) =>
    have _ := firstShorter found
    (body :: (split rest).1,(split rest).2)
termination_by data.length

theorem splitNone (none_ : first data = none) : split data = ([],data) := by
  rw [split]
  split
  · rfl
  · rename_i found
    rw [none_] at found
    contradiction

theorem splitSome (found : first data = some (body,rest)) :
    split data = (body :: (split rest).1,(split rest).2) := by
  rw [split]
  split
  · rename_i none_
    rw [found] at none_
    contradiction
  · rename_i again
    cases Option.some.inj (found.symm.trans again)
    rfl

theorem framesInduction {P : Bytes → Prop} (short : ∀ data, first data = none → P data)
    (frame : ∀ data body rest, first data = some (body,rest) → P rest → P data) (data : Bytes) :
    P data := by
  generalize size : data.length = n
  induction n using Nat.strongRecOn generalizing data with
  | ind n ih =>
    cases found : first data with
    | none => exact short data found
    | some pair =>
      obtain ⟨body,rest⟩ := pair
      have less := firstShorter found
      exact frame data body rest found (ih rest.length (by omega) rest rfl)

theorem splitAppend (data more : Bytes) :
    split (data ++ more) =
      ((split data).1 ++ (split ((split data).2 ++ more)).1,(split ((split data).2 ++ more)).2) := by
  induction data using framesInduction with
  | short data none_ =>
    rw [splitNone none_]
    rfl
  | frame data body rest found ih =>
    rw [splitSome found,splitSome (firstAppend found more),ih]
    rfl

theorem splitFrames (packets : List Bytes) (short : ∀ p ∈ packets, p.length < 65536) :
    split (packets.flatMap frame) = (packets,[]) := by
  induction packets with
  | nil => exact splitNone rfl
  | cons p rest ih =>
    have own := short p List.mem_cons_self
    rw [List.flatMap_cons,splitSome (firstFrame own _),
      ih fun q member => short q (List.mem_cons_of_mem _ member)]

def packetsOf (data : Bytes) : List Bytes := (split data).1.filter fun body => !body.isEmpty

theorem packetsAppend (data more : Bytes) :
    packetsOf (data ++ more) = packetsOf data ++ packetsOf ((split data).2 ++ more) := by
  simp [packetsOf,splitAppend data more]

theorem packetsNone (none_ : first data = none) : packetsOf data = [] := by
  rw [packetsOf,splitNone none_]
  rfl

theorem packetsEmpty (found : first data = some ([],rest)) : packetsOf data = packetsOf rest := by
  rw [packetsOf,splitSome found]
  rfl

theorem packetsCons (found : first data = some (body,rest)) (filled : body ≠ []) :
    packetsOf data = body :: packetsOf rest := by
  rw [packetsOf,splitSome found]
  simp [filled,packetsOf]

end MediaServer.Framing
