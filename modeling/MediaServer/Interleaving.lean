import Mathlib.Data.List.Nodup

/-! Pairs of channels given to keyed tracks of one connection. A track that has none holds minus one
twice. The file names nothing of the server. -/
namespace MediaServer.Interleaving

structure Channels where
  rtp : Int := -1
  rtcp : Int := -1
  deriving DecidableEq, Repr

def Channels.up (c : Channels) : Bool := 0 ≤ c.rtp

structure Channels.Valid (c : Channels) : Prop where
  rtp : 0 ≤ c.rtp ∧ c.rtp ≤ 255
  rtcp : 0 ≤ c.rtcp ∧ c.rtcp ≤ 255
  distinct : c.rtp ≠ c.rtcp

structure Apart (a b : Channels) : Prop where
  rtp : a.rtp ≠ b.rtp
  cross : a.rtp ≠ b.rtcp
  back : a.rtcp ≠ b.rtp
  rtcp : a.rtcp ≠ b.rtcp

theorem Apart.symm {a b : Channels} (apart : Apart a b) : Apart b a :=
  ⟨apart.rtp.symm,apart.back.symm,apart.cross.symm,apart.rtcp.symm⟩

variable {ι : Type}

structure Assigned (items : List (ι × Channels)) : Prop where
  keys : (items.map Prod.fst).Nodup
  down : ∀ item ∈ items, item.2.up = false → item.2 = {}
  valid : ∀ item ∈ items, item.2.up = true → item.2.Valid
  apart : ∀ a ∈ items, ∀ b ∈ items, a.1 ≠ b.1 → a.2.up = true → b.2.up = true → Apart a.2 b.2

def assign [DecidableEq ι] (items : List (ι × Channels)) (key : ι) (new : Channels) : List (ι × Channels) :=
  items.map fun item => if item.1 = key then (item.1,new) else item

def Carries (channel : Int) (item : ι × Channels) : Bool :=
  item.2.rtp = channel || item.2.rtcp = channel

variable {items : List (ι × Channels)}

section Assign
variable [DecidableEq ι] {key : ι} {new : Channels}

theorem assignKeys : (assign items key new).map Prod.fst = items.map Prod.fst := by
  unfold assign
  rw [List.map_map]
  apply List.map_congr_left
  intro item _
  simp only [Function.comp_apply]
  split <;> rfl

theorem memAssign {item : ι × Channels} (member : item ∈ assign items key new) :
    (item.1 = key ∧ item.2 = new) ∨ (item.1 ≠ key ∧ item ∈ items) := by
  obtain ⟨old,inside,same⟩ := List.mem_map.mp member
  split at same
  · rename_i here
    subst same
    exact .inl ⟨here,rfl⟩
  · rename_i other
    subst same
    exact .inr ⟨other,inside⟩

theorem assignKeeps {item : ι × Channels} (member : item ∈ items) (other : item.1 ≠ key) :
    item ∈ assign items key new :=
  List.mem_map.mpr ⟨item,member,if_neg other⟩

theorem assigned (now : Assigned items) (valid : new.Valid)
    (free : ∀ item ∈ items, item.1 ≠ key → item.2.up = true → Apart item.2 new) :
    Assigned (assign items key new) := by
  refine ⟨by rw [assignKeys]; exact now.keys,?_,?_,?_⟩
  · intro item member low
    rcases memAssign member with ⟨-,same⟩ | ⟨-,old⟩
    · rw [same,Channels.up,decide_eq_false_iff_not] at low
      exact absurd valid.rtp.1 low
    · exact now.down item old low
  · intro item member high
    rcases memAssign member with ⟨-,same⟩ | ⟨-,old⟩
    · rw [same]
      exact valid
    · exact now.valid item old high
  · intro a left b right differs highA highB
    rcases memAssign left with ⟨keyA,newA⟩ | ⟨otherA,oldA⟩ <;>
      rcases memAssign right with ⟨keyB,newB⟩ | ⟨otherB,oldB⟩
    · exact absurd (keyA.trans keyB.symm) differs
    · rw [newA]
      exact (free b oldB otherB highB).symm
    · rw [newB]
      exact free a oldA otherA highA
    · exact now.apart a oldA b oldB differs highA highB

end Assign

theorem carriesUp (now : Assigned items) {channel : Int} (natural : 0 ≤ channel)
    {item : ι × Channels} (member : item ∈ items) (carries : Carries channel item = true) :
    item.2.up = true := by
  by_contra low
  have none_ := now.down item member (by simpa using low)
  simp only [Carries,none_,Bool.or_eq_true,decide_eq_true_eq] at carries
  omega

theorem carriedOnce (now : Assigned items) {channel : Int} (natural : 0 ≤ channel) :
    (items.filter (Carries channel)).length ≤ 1 := by
  have unique : ∀ a ∈ items.filter (Carries channel), ∀ b ∈ items.filter (Carries channel),
      a.1 = b.1 := by
    intro a left b right
    obtain ⟨insideA,carriesA⟩ := List.mem_filter.mp left
    obtain ⟨insideB,carriesB⟩ := List.mem_filter.mp right
    by_contra differs
    have apart := now.apart a insideA b insideB differs
      (carriesUp now natural insideA carriesA) (carriesUp now natural insideB carriesB)
    simp only [Carries,Bool.or_eq_true,decide_eq_true_eq] at carriesA carriesB
    obtain ⟨rtp,cross,back,rtcp⟩ := apart
    omega
  have keys : ((items.filter (Carries channel)).map Prod.fst).Nodup :=
    now.keys.sublist (List.filter_sublist.map Prod.fst)
  generalize items.filter (Carries channel) = found at unique keys
  match found with
  | [] => exact Nat.zero_le _
  | [_] => exact Nat.le_refl _
  | a :: b :: rest =>
    have same := unique a List.mem_cons_self b (List.mem_cons_of_mem _ List.mem_cons_self)
    simp [same] at keys

def placed (states : List Channels) : List (Nat × Channels) :=
  states.zipIdx.map fun (c,i) => (i,c)

theorem placedMem {states : List Channels} {i : Nat} {c : Channels} :
    (i,c) ∈ placed states ↔ states[i]? = some c := by
  constructor
  · intro member
    obtain ⟨⟨c',i'⟩,inside,same⟩ := List.mem_map.mp member
    cases same
    simpa using List.mem_zipIdx_iff_getElem?.mp inside
  · intro here
    exact List.mem_map.mpr ⟨(c,i),List.mem_zipIdx_iff_getElem?.mpr (by simpa using here),rfl⟩

theorem placedKeys (states : List Channels) :
    (placed states).map Prod.fst = List.range states.length := by
  unfold placed
  rw [List.map_map]
  change states.zipIdx.map Prod.snd = _
  rw [List.zipIdx_map_snd,List.range'_eq_map_range]
  simp

theorem placedSet (states : List Channels) (i : Nat) (new : Channels) :
    placed (states.set i new) = assign (placed states) i new := by
  unfold placed assign
  rw [List.map_map]
  apply List.ext_getElem?
  intro n
  simp only [List.getElem?_map,List.getElem?_zipIdx,List.getElem?_set]
  by_cases here : i = n
  · subst here
    cases there : states[i]? with
    | none =>
      have past := List.getElem?_eq_none_iff.mp there
      simp [Nat.not_lt.mpr past]
    | some c =>
      obtain ⟨inside,-⟩ := List.getElem?_eq_some_iff.mp there
      simp [inside]
  · have other : n ≠ i := fun same => here same.symm
    cases states[n]? <;> simp [here,other]

end MediaServer.Interleaving
