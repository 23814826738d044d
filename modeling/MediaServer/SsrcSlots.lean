import Mathlib.Data.List.Perm.Subperm
import Mathlib.Data.List.Range
import Mathlib.Data.String.Basic
import MediaServer.Controller
import MediaServer.DeviceRegistry
import MediaServer.Ssrc

/-! The SSRC allocator over whole runs. What is held is read off the calls; the slots of the allocator
are the last four digits of what is held. -/
namespace MediaServer.Ssrc
open Controller
open DeviceRegistry (validDigits)

def digitsValue (digits : List Char) : Nat :=
  digits.foldl (fun n c => n * 10 + (c.toNat - 48)) 0

def written : Nat → Nat → List Char
  | 0,_ => []
  | width + 1,n => written width (n / 10) ++ [Char.ofNat (n % 10 + 48)]

def newAllocator (domain : String) : Option Allocator :=
  if validDigits domain 10 then
    some ⟨Fin.ofNat 100000 (digitsValue ((domain.toList.drop 3).take 5)),1,[],firstLow,firstHigh⟩
  else none

inductive Event where
  | acquire (playback : Bool)
  | release (ssrc : Nat)
  deriving DecidableEq, Repr

def step (a : Allocator) : Event → Allocator × List Nat
  | .acquire playback =>
    match acquire a playback with
    | none => (a,[])
    | some (ssrc,b) => (b,[ssrc])
  | .release ssrc => (release a ssrc,[])

abbrev Turn := Round Allocator Event Nat

def heldAfter (held : List Nat) (r : Turn) : List Nat :=
  match r.event with
  | .acquire _ => r.effects ++ held
  | .release ssrc => held.erase ssrc

def held (past : List Turn) : List Nat := past.foldl heldAfter []

theorem heldSnoc (past : List Turn) (r : Turn) : held (past ++ [r]) = heldAfter (held past) r := by
  simp [held]

def Allocator.candidate (a : Allocator) (i : Nat) : Nat := (a.next - 1 + i) % 9999 + 1

theorem candidateFirst (a : Allocator) : a.candidate 0 = a.next := by
  have low := a.low
  have high := a.high
  unfold Allocator.candidate
  omega

theorem candidateNext (a : Allocator) (i : Nat) : a.advance.candidate i = a.candidate (i + 1) := by
  have low := a.low
  have high := a.high
  unfold Allocator.candidate Allocator.advance
  dsimp only
  split <;> omega

theorem scanFails (playback : Bool) (tries : Nat) (a : Allocator) :
    acquireFrom playback tries a = none ↔ ∀ i < tries, a.candidate i ∈ a.active := by
  induction tries generalizing a with
  | zero => simp [acquireFrom]
  | succ tries ih =>
    unfold acquireFrom
    split
    · rename_i taken
      rw [ih]
      constructor
      · intro later i inside
        cases i with
        | zero => rw [candidateFirst]; exact taken
        | succ i => rw [← candidateNext]; exact later i (by omega)
      · intro all i inside
        rw [candidateNext]
        exact all (i + 1) (by omega)
    · rename_i free
      constructor
      · nofun
      · intro all
        have first := all 0 (by omega)
        rw [candidateFirst] at first
        exact absurd first free

variable {a : Allocator} {slot : Nat} {domain : Fin 100000} {past : List Turn}

theorem scanTakes {playback : Bool} {tries : Nat} {b : Allocator} {ssrc : Nat}
    (ok : acquireFrom playback tries a = some (ssrc,b)) :
    ∃ slot, 1 ≤ slot ∧ slot ≤ 9999 ∧ ssrc = a.ssrc playback slot ∧ b.domain = a.domain := by
  induction tries generalizing a with
  | zero => cases ok
  | succ tries ih =>
    unfold acquireFrom at ok
    split at ok
    · obtain ⟨slot,low,high,same,domain⟩ := ih ok
      exact ⟨slot,low,high,same,domain⟩
    · cases Option.some.inj ok
      have high := a.high
      exact ⟨a.next,a.low,by omega,rfl,rfl⟩

theorem slotOf (a : Allocator) (playback : Bool) (high : slot ≤ 9999) :
    a.ssrc playback slot % 10000 = slot := by
  unfold Allocator.ssrc
  split <;> omega

structure Good (domain : Fin 100000) (past : List Turn) (a : Allocator) : Prop where
  domain : a.domain = domain
  slots : a.active.Perm ((held past).map (· % 10000))
  distinct : a.active.Nodup
  range : ∀ n ∈ a.active, 1 ≤ n ∧ n ≤ 9999

theorem activeFull (distinct : a.active.Nodup) (range : ∀ n ∈ a.active, 1 ≤ n ∧ n ≤ 9999) :
    a.active.length = 9999 ↔ ∀ i < 9999, a.candidate i ∈ a.active := by
  have inside : a.active ⊆ List.range' 1 9999 := by
    intro n member
    have bound := range n member
    rw [List.mem_range'_1]
    omega
  have part := List.subperm_of_subset distinct inside
  constructor
  · intro full i _
    have same := part.perm_of_length_le (by rw [List.length_range',full])
    refine same.mem_iff.mpr ?_
    rw [List.mem_range'_1]
    unfold Allocator.candidate
    omega
  · intro all
    have every : List.range' 1 9999 ⊆ a.active := by
      intro n member
      rw [List.mem_range'_1] at member
      have here := all ((n - 1 + (9999 - (a.next - 1))) % 9999) (Nat.mod_lt _ (by decide))
      have low := a.low
      have high := a.high
      have same : a.candidate ((n - 1 + (9999 - (a.next - 1))) % 9999) = n := by
        unfold Allocator.candidate
        omega
      rwa [same] at here
    have back := List.subperm_of_subset List.nodup_range' every
    have most := part.length_le
    have least := back.length_le
    rw [List.length_range'] at most least
    omega

theorem acquireFails (good : Good domain past a) (playback : Bool) :
    acquire a playback = none ↔ (held past).length = 9999 := by
  have count := good.slots.length_eq
  rw [List.length_map] at count
  rw [acquire,scanFails,← activeFull good.distinct good.range,count]

theorem goodStep (past : List Turn) (a : Allocator) (e : Event) (good : Good domain past a)
    (own : ∀ ssrc, e = .release ssrc → ssrc ∈ held past) :
    Good domain (past ++ [.of step a e]) (step a e).1 := by
  cases e with
  | acquire playback =>
    cases got : acquire a playback with
    | none =>
      refine ⟨?_,?_,?_,?_⟩ <;> simp only [step,got]
      · exact good.domain
      · rw [heldSnoc]
        simpa [heldAfter,Round.of,step,got] using good.slots
      · exact good.distinct
      · exact good.range
    | some pair =>
      obtain ⟨ssrc,b⟩ := pair
      obtain ⟨fresh,active⟩ := acquireActive got
      obtain ⟨slot,low,high,same,kept⟩ := scanTakes got
      have digits : ssrc % 10000 = slot := by rw [same,slotOf a playback high]
      refine ⟨?_,?_,?_,?_⟩ <;> simp only [step,got]
      · exact kept.trans good.domain
      · rw [heldSnoc,active]
        simpa [heldAfter,Round.of,step,got] using good.slots
      · rw [active]
        exact List.nodup_cons.mpr ⟨fresh,good.distinct⟩
      · rw [active]
        intro n member
        rcases List.mem_cons.mp member with first | old
        · omega
        · exact good.range n old
  | release ssrc =>
    have mine := own ssrc rfl
    have here : ssrc % 10000 ∈ a.active := good.slots.mem_iff.mpr (List.mem_map_of_mem mine)
    refine ⟨good.domain,?_,good.distinct.filter _,?_⟩
    · have dropped : (release a ssrc).active = a.active.erase (ssrc % 10000) := by
        rw [good.distinct.erase_eq_filter]
        simp only [release,ne_eq,decide_not]
        rfl
      have taken := good.slots.erase (ssrc % 10000)
      have rest := ((List.perm_cons_erase mine).map (· % 10000)).erase (ssrc % 10000)
      rw [List.map_cons,List.erase_cons_head] at rest
      change (release a ssrc).active.Perm _
      rw [dropped,heldSnoc]
      exact taken.trans rest
    · intro n member
      exact good.range n (List.mem_of_mem_filter member)

theorem digitsValueSnoc (digits : List Char) (c : Char) :
    digitsValue (digits ++ [c]) = digitsValue digits * 10 + (c.toNat - 48) := by
  simp [digitsValue]

theorem digitRange {c : Char} (digit : ('0' ≤ c && c ≤ '9') = true) :
    48 ≤ c.toNat ∧ c.toNat ≤ 57 := by
  rw [Bool.and_eq_true,decide_eq_true_eq,decide_eq_true_eq] at digit
  exact digit

theorem writtenValue (digits : List Char) (all : ∀ c ∈ digits, ('0' ≤ c && c ≤ '9') = true) :
    written digits.length (digitsValue digits) = digits ∧
      digitsValue digits < 10 ^ digits.length := by
  induction digits using List.reverseRecOn with
  | nil => exact ⟨rfl,by decide⟩
  | append_singleton digits c ih =>
    obtain ⟨same,small⟩ := ih fun d member => all d (List.mem_append_left _ member)
    obtain ⟨low,high⟩ := digitRange (all c (by simp))
    rw [digitsValueSnoc,List.length_append,List.length_singleton]
    constructor
    · unfold written
      have front : (digitsValue digits * 10 + (c.toNat - 48)) / 10 = digitsValue digits := by omega
      have last : (digitsValue digits * 10 + (c.toNat - 48)) % 10 + 48 = c.toNat := by omega
      rw [front,last,same,Char.ofNat_toNat]
    · rw [Nat.pow_succ]
      omega

theorem writtenAppend (front back m n : Nat) (small : n < 10 ^ back) :
    written (front + back) (m * 10 ^ back + n) = written front m ++ written back n := by
  induction back generalizing n with
  | zero =>
    have zero : n = 0 := by simpa using small
    simp [zero,written]
  | succ back ih =>
    rw [Nat.pow_succ] at small
    have upper : (m * 10 ^ (back + 1) + n) / 10 = m * 10 ^ back + n / 10 := by
      rw [Nat.pow_succ,← Nat.mul_assoc]
      omega
    have lower : (m * 10 ^ (back + 1) + n) % 10 = n % 10 := by
      rw [Nat.pow_succ,← Nat.mul_assoc]
      omega
    rw [← Nat.add_assoc,written,written,upper,lower,ih (n / 10) (by omega),List.append_assoc]

def frontDigits (domain : String) (playback : Bool) : List Char :=
  (if playback then '1' else '0') :: (domain.toList.drop 3).take 5

theorem digitsLength (digits : List Char) (all : ∀ c ∈ digits, ('0' ≤ c && c ≤ '9') = true) :
    String.utf8Len digits = digits.length := by
  induction digits with
  | nil => rfl
  | cons c rest ih =>
    obtain ⟨_,high⟩ := digitRange (all c List.mem_cons_self)
    have one : c.utf8Size = 1 := Char.utf8Size_eq_one_iff.mpr (by
      show c.val.toNat ≤ 127
      exact Nat.le_trans high (by decide))
    rw [String.utf8Len_cons,ih fun d member => all d (List.mem_cons_of_mem _ member),one,
      List.length_cons]

theorem domainDigits {domain : String} (valid : validDigits domain 10 = true) :
    ((domain.toList.drop 3).take 5).length = 5 ∧
      ∀ c ∈ (domain.toList.drop 3).take 5, ('0' ≤ c && c ≤ '9') = true := by
  unfold validDigits at valid
  rw [Bool.and_eq_true,beq_iff_eq,List.all_eq_true] at valid
  obtain ⟨size,digits⟩ := valid
  have ten : domain.toList.length = 10 := by
    rw [← digitsLength _ digits,String.utf8Len_toList,size]
  constructor
  · rw [List.length_take,List.length_drop,ten]
    rfl
  · intro c member
    exact digits c (List.mem_of_mem_drop (List.mem_of_mem_take member))

theorem ssrcWritten {domain : String} (valid : validDigits domain 10 = true)
    (prefix_ : a.domain.val = digitsValue ((domain.toList.drop 3).take 5)) (playback : Bool)
    (high : slot ≤ 9999) :
    a.ssrc playback slot < 2 ^ 32 ∧
      written 10 (a.ssrc playback slot) = frontDigits domain playback ++ written 4 slot := by
  obtain ⟨five,digits⟩ := domainDigits valid
  obtain ⟨same,_⟩ := writtenValue _ digits
  rw [five,← prefix_] at same
  have small := a.domain.isLt
  have kind : a.ssrc playback slot =
      ((if playback then 1 else 0) * 10 ^ 5 + a.domain.val) * 10 ^ 4 + slot := by
    unfold Allocator.ssrc
    split <;> omega
  constructor
  · unfold Allocator.ssrc
    split <;> omega
  · rw [kind,writtenAppend 6 4 _ slot (by omega),writtenAppend 1 5 _ _ (by omega),same]
    cases playback <;> rfl

def Owned (past : List Turn) (e : Event) : Prop := ∀ ssrc, e = .release ssrc → ssrc ∈ held past

structure Distinct (ssrcs : List Nat) : Prop where
  slots : (ssrcs.map (· % 10000)).Nodup
  range : ∀ ssrc ∈ ssrcs, 1 ≤ ssrc % 10000 ∧ ssrc % 10000 ≤ 9999

theorem Good.heldDistinct (good : Good domain past a) : Distinct (held past) where
  slots := good.slots.nodup_iff.mp good.distinct
  range _ member := good.range _ (good.slots.mem_iff.mpr (List.mem_map_of_mem member))

/- One call after others: what is held before and after it, what it gives and what it frees. -/
structure Allocates (domain : String) (before : List Turn) (r : Turn) : Prop where
  distinct : Distinct (held before)
  after : Distinct (held (before ++ [r]))
  cursor : 1 ≤ r.next.next ∧ r.next.next ≤ 9999
  fails : ∀ playback, r.event = .acquire playback →
    (r.effects = [] ↔ (held before).length = 9999)
  gives : ∀ playback, r.event = .acquire playback → ∀ ssrc ∈ r.effects, ssrc < 2 ^ 32 ∧
    written 10 ssrc = frontDigits domain playback ++ written 4 (ssrc % 10000)
  frees : ∀ ssrc, r.event = .release ssrc → ssrc % 10000 ∈ r.state.active ∧
    ∀ n, n ∈ r.next.active ↔ n ∈ r.state.active ∧ n ≠ ssrc % 10000

theorem ssrcSlots (domain : String) (valid : validDigits domain 10 = true) :
    ∃ a, newAllocator domain = some a ∧ ∀ events : List Event,
      (∀ before r after, rounds step a events = before ++ r :: after → Owned before r.event) →
      ∀ before r after, rounds step a events = before ++ r :: after →
        Allocates domain before r := by
  obtain ⟨five,digits⟩ := domainDigits valid
  have small := (writtenValue _ digits).2
  rw [five] at small
  refine ⟨_,if_pos valid,fun events owned before r after cut => ?_⟩
  have fresh : Good (Fin.ofNat 100000 (digitsValue ((domain.toList.drop 3).take 5))) []
      ⟨Fin.ofNat 100000 (digitsValue ((domain.toList.drop 3).take 5)),1,[],firstLow,firstHigh⟩ :=
    ⟨rfl,.refl _,List.nodup_nil,nofun⟩
  obtain ⟨good,same⟩ := roundsGuarded Owned fresh goodStep owned cut
  have mine := owned before r after cut
  have next := goodStep before r.state r.event good mine
  have front : r.state.domain.val = digitsValue ((domain.toList.drop 3).take 5) := by
    rw [good.domain]
    exact Nat.mod_eq_of_lt small
  obtain ⟨s,e,t,effects⟩ := r
  simp only [Round.of,Round.mk.injEq,true_and] at same
  obtain ⟨rfl,rfl⟩ := same
  rw [List.nil_append] at good
  refine ⟨good.heldDistinct,next.heldDistinct,⟨(step s e).1.low,?_⟩,?_,?_,?_⟩
  · exact Nat.le_of_lt_succ (step s e).1.high
  · rintro playback rfl
    rw [← acquireFails good playback]
    dsimp only [Round.of,step]
    split <;> simp [*]
  · rintro playback rfl ssrc member
    dsimp only [Round.of,step] at member
    split at member
    · cases member
    · rename_i given b got
      cases List.mem_singleton.mp member
      obtain ⟨slot,_,high,equal,_⟩ := scanTakes got
      rw [equal,slotOf s playback high]
      exact ssrcWritten valid front playback high
  · rintro ssrc rfl
    refine ⟨good.slots.mem_iff.mpr (List.mem_map_of_mem (mine ssrc rfl)),fun n => ?_⟩
    exact memRelease

def sampleEvents : List Event := [.acquire false,.acquire true,.release 200000001]

theorem sampleSlots : validDigits "3402000000" 10 = true ∧ ∃ a,
    newAllocator "3402000000" = some a ∧
      (rounds step a sampleEvents).map (·.effects) = [[200000001],[1200000002],[]] ∧
      ∀ before r after, rounds step a sampleEvents = before ++ r :: after →
        Allocates "3402000000" before r := by
  have valid : validDigits "3402000000" 10 = true := by decide +kernel
  obtain ⟨a,made,all⟩ := ssrcSlots "3402000000" valid
  have known : newAllocator "3402000000" = some ⟨20000,1,[],firstLow,firstHigh⟩ := by
    decide +kernel
  cases Option.some.inj (known.symm.trans made)
  refine ⟨valid,_,made,by decide +kernel,all sampleEvents ?_⟩
  intro before r after cut ssrc event
  have count := congrArg List.length cut
  have calls := congrArg (List.map (·.event)) cut
  rw [roundsEvents,List.map_append,List.map_cons,event] at calls
  match before with
  | [] => simp [sampleEvents] at calls
  | [_] => simp [sampleEvents] at calls
  | [first,second] =>
    simp only [sampleEvents,List.map_cons,List.map_nil,List.cons_append,List.nil_append,
      List.cons.injEq,Event.release.injEq] at calls
    obtain ⟨_,_,same,_⟩ := calls
    subst same
    have shape := congrArg (List.take 2) cut
    simp only [List.cons_append,List.nil_append,List.take_succ_cons,List.take_zero] at shape
    rw [← shape]
    decide +kernel
  | _ :: _ :: _ :: _ =>
    simp only [sampleEvents,rounds,List.length_cons,List.length_append,List.length_nil] at count
    omega

end MediaServer.Ssrc
