import Mathlib.Data.List.Nodup
import MediaServer.Controller

/-! media/net/media_port_pool: the even ports of the media range, each either available or used. The
lists are the vectors of the source, their back at the end. -/
namespace MediaServer.MediaPortPool
open Controller

abbrev Port := UInt16

def mediaPortStart : Nat := 49152
def mediaPortEnd : Nat := 65535

structure Pool where
  available : List Port
  used : List Port
  deriving DecidableEq, Repr

def Pool.initial : Pool :=
  ⟨(List.range ((mediaPortEnd - mediaPortStart + 1) / 2)).map fun i =>
    UInt16.ofNat (mediaPortEnd - 1 - 2 * i),[]⟩

def acquire (s : Pool) : Pool × Option Port :=
  match s.available.getLast? with
  | none => (s,none)
  | some port => (⟨s.available.dropLast,s.used ++ [port]⟩,some port)

def release (s : Pool) (port : Port) : Pool :=
  if port ∈ s.used then ⟨s.available ++ [port],s.used.erase port⟩ else s

inductive Event where
  | acquire
  | release (port : Port)
  deriving DecidableEq, Repr

def step (s : Pool) : Event → Pool × List Port
  | .acquire => ((acquire s).1,(acquire s).2.toList)
  | .release port => (release s port,[])

abbrev Turn := Round Pool Event Port

/- Round i returned the port, and no round after it released the port. -/
def Held (past : List Turn) (i : Nat) (port : Port) : Prop :=
  (∃ r, past[i]? = some r ∧ port ∈ r.effects) ∧
    ∀ j r, i < j → past[j]? = some r → r.event ≠ .release port

def inRange (port : Port) : Bool := mediaPortStart ≤ port.toNat && port.toNat % 2 = 0

def Split (s : Pool) : Prop :=
  ∀ port, (s.available ++ s.used).count port = if inRange port then 1 else 0

structure Ledger (past : List Turn) (s : Pool) : Prop where
  split : Split s
  used : ∀ port, port ∈ s.used ↔ ∃ i, Held past i port
  once : ∀ i j port, Held past i port → Held past j port → i = j

variable {i : Nat} {s : Pool} {port : Port} {past : List Turn} {r : Turn}

theorem portNumber (inside : i < 8192) :
    (UInt16.ofNat (mediaPortEnd - 1 - 2 * i)).toNat = 65534 - 2 * i := by
  rw [UInt16.toNat_ofNat']
  simp only [mediaPortEnd]
  omega

theorem initialPort (port : Port) : port ∈ Pool.initial.available ↔ inRange port = true := by
  simp only [Pool.initial,List.mem_map,List.mem_range,inRange,Bool.and_eq_true,
    decide_eq_true_eq]
  constructor
  · rintro ⟨i,inside,same⟩
    rw [← same,portNumber inside]
    have short : i < 8192 := inside
    simp only [mediaPortStart]
    omega
  · rintro ⟨low,even⟩
    have high := port.toNat_lt
    have short : (65534 - port.toNat) / 2 < 8192 := by simp only [mediaPortStart] at low; omega
    refine ⟨(65534 - port.toNat) / 2,short,?_⟩
    apply UInt16.toNat_inj.mp
    rw [portNumber short]
    omega

theorem initialNodup : Pool.initial.available.Nodup := by
  simp only [Pool.initial]
  refine List.Nodup.map_on ?_ List.nodup_range
  intro i inside j within same
  have left := portNumber (List.mem_range.mp inside)
  rw [same,portNumber (List.mem_range.mp within)] at left
  have first : i < 8192 := List.mem_range.mp inside
  have second : j < 8192 := List.mem_range.mp within
  omega

theorem initialSplit : Split .initial := by
  intro port
  change (Pool.initial.available ++ []).count port = _
  rw [List.append_nil,initialNodup.count]
  simp only [initialPort]

theorem acquired (got : (acquire s).2 = some port) :
    s.available = (acquire s).1.available ++ [port] ∧ (acquire s).1.used = s.used ++ [port] := by
  unfold acquire at got ⊢
  split at got
  · contradiction
  · rename_i last here
    cases Option.some.inj got
    refine ⟨?_,rfl⟩
    obtain ⟨front,same⟩ := List.getLast?_eq_some_iff.mp here
    rw [same]
    simp

theorem acquireFails : (acquire s).2 = none ↔ s.available = [] := by
  unfold acquire
  split
  · rename_i none_
    simpa using List.getLast?_eq_none_iff.mp none_
  · rename_i last here
    constructor
    · nofun
    · intro empty
      rw [empty] at here
      contradiction

theorem refused (got : (acquire s).2 = none) : (acquire s).1 = s := by
  unfold acquire at got ⊢
  split at got
  · rfl
  · contradiction

theorem acquireSplit (split : Split s) : Split (acquire s).1 := by
  cases got : (acquire s).2 with
  | none =>
    rw [refused got]
    exact split
  | some port =>
    obtain ⟨available,used⟩ := acquired got
    intro other
    rw [← split other,available,used]
    simp only [List.count_append]
    omega

theorem releaseSplit (split : Split s) (port : Port) : Split (release s port) := by
  unfold release
  split
  · rename_i member
    intro other
    rw [← split other]
    have moved := (List.perm_cons_erase member).count_eq other
    simp only [List.count_append,List.count_cons,List.count_nil] at moved ⊢
    omega
  · exact split

theorem usedOnce (split : Split s) (member : port ∈ s.used) :
    port ∉ s.available ∧ s.used.count port = 1 ∧ inRange port = true := by
  have total := split port
  rw [List.count_append] at total
  have positive := List.count_pos_iff.mpr member
  split at total
  · rename_i inside
    refine ⟨?_,by omega,inside⟩
    intro here
    have more := List.count_pos_iff.mpr here
    omega
  · omega

theorem heldBefore (held : Held (past ++ [r]) i port) :
    (Held past i port ∧ r.event ≠ .release port) ∨ (i = past.length ∧ port ∈ r.effects) := by
  obtain ⟨⟨x,there,got⟩,later⟩ := held
  rcases Nat.lt_trichotomy i past.length with earlier | same | beyond
  · refine .inl ⟨⟨⟨x,by rwa [List.getElem?_append_left earlier] at there,got⟩,?_⟩,?_⟩
    · intro j y after here
      have short := (List.getElem?_eq_some_iff.mp here).1
      exact later j y after (by rwa [List.getElem?_append_left short])
    · exact later past.length r earlier (by simp)
  · subst same
    rw [List.getElem?_concat_length] at there
    cases Option.some.inj there
    exact .inr ⟨rfl,got⟩
  · rw [List.getElem?_eq_none (by simp; omega)] at there
    contradiction

theorem heldStill (held : Held past i port) (other : r.event ≠ .release port) :
    Held (past ++ [r]) i port := by
  obtain ⟨⟨x,there,got⟩,later⟩ := held
  have short := (List.getElem?_eq_some_iff.mp there).1
  refine ⟨⟨x,by rwa [List.getElem?_append_left short],got⟩,?_⟩
  intro j y after here
  rcases Nat.lt_trichotomy j past.length with earlier | same | beyond
  · rw [List.getElem?_append_left earlier] at here
    exact later j y after here
  · subst same
    rw [List.getElem?_concat_length] at here
    cases Option.some.inj here
    exact other
  · rw [List.getElem?_eq_none (by simp; omega)] at here
    contradiction

theorem heldNow (past : List Turn) (got : port ∈ r.effects) :
    Held (past ++ [r]) past.length port := by
  refine ⟨⟨r,List.getElem?_concat_length,got⟩,?_⟩
  intro j y after here
  rw [List.getElem?_eq_none (by simp; omega)] at here
  contradiction

theorem heldAcquire :
    Held (past ++ [.of step s .acquire]) i port ↔
      Held past i port ∨ (i = past.length ∧ (acquire s).2 = some port) := by
  constructor
  · intro held
    rcases heldBefore held with ⟨before,_⟩ | ⟨now,got⟩
    · exact .inl before
    · exact .inr ⟨now,Option.mem_toList.mp got⟩
  · rintro (before | ⟨rfl,got⟩)
    · exact heldStill before (by simp [Round.of])
    · exact heldNow past (Option.mem_toList.mpr got)

theorem heldRelease {released : Port} :
    Held (past ++ [.of step s (.release released)]) i port ↔
      Held past i port ∧ port ≠ released := by
  constructor
  · intro held
    rcases heldBefore held with ⟨before,other⟩ | ⟨_,got⟩
    · exact ⟨before,fun same => other (by rw [same]; rfl)⟩
    · cases got
  · rintro ⟨before,other⟩
    refine heldStill before ?_
    rintro ⟨⟩
    exact other rfl

theorem acquireUsed (s : Pool) (port : Port) :
    port ∈ (acquire s).1.used ↔ port ∈ s.used ∨ (acquire s).2 = some port := by
  cases got : (acquire s).2 with
  | none => simp [refused got]
  | some last => simp [(acquired got).2,eq_comm]

theorem releaseUsed (split : Split s) (released port : Port) :
    port ∈ (release s released).used ↔ port ∈ s.used ∧ port ≠ released := by
  unfold release
  split
  · rename_i member
    have single := (usedOnce split member).2.1
    by_cases same : port = released
    · subst same
      have gone : (s.used.erase port).count port = 0 := by
        rw [List.count_erase_self]
        omega
      simp [List.count_eq_zero.mp gone]
    · simp [List.mem_erase_of_ne same,same]
  · rename_i absent
    constructor
    · exact fun member => ⟨member,fun same => absent (same ▸ member)⟩
    · exact And.left

theorem acquireLedger (ledger : Ledger past s) :
    Ledger (past ++ [.of step s .acquire]) (acquire s).1 := by
  have fresh : ∀ i port, (acquire s).2 = some port → ¬Held past i port := by
    intro i port got held
    refine (usedOnce ledger.split ((ledger.used port).mpr ⟨i,held⟩)).1 ?_
    rw [(acquired got).1]
    exact List.mem_append_right _ (List.mem_singleton_self _)
  refine ⟨acquireSplit ledger.split,?_,?_⟩
  · intro port
    rw [acquireUsed,ledger.used]
    simp only [heldAcquire,exists_or,exists_eq_left]
  · intro i j port first second
    rcases heldAcquire.mp first with left | ⟨left,got⟩
    · rcases heldAcquire.mp second with right | ⟨_,got⟩
      · exact ledger.once i j port left right
      · exact absurd left (fresh i port got)
    · rcases heldAcquire.mp second with right | ⟨right,_⟩
      · exact absurd right (fresh j port got)
      · rw [left,right]

theorem releaseLedger (ledger : Ledger past s) (released : Port) :
    Ledger (past ++ [.of step s (.release released)]) (release s released) := by
  refine ⟨releaseSplit ledger.split released,?_,?_⟩
  · intro port
    rw [releaseUsed ledger.split,ledger.used]
    simp only [heldRelease,exists_and_right]
  · intro i j port first second
    exact ledger.once i j port (heldRelease.mp first).1 (heldRelease.mp second).1

theorem ledgerStep (past : List Turn) (s : Pool) (e : Event) (ledger : Ledger past s) :
    Ledger (past ++ [.of step s e]) (step s e).1 := by
  cases e with
  | acquire => exact acquireLedger ledger
  | release released => exact releaseLedger ledger released

theorem splitEmpty (split : Split s) :
    s.available = [] ↔ ∀ port, inRange port = true → port ∈ s.used := by
  constructor
  · intro empty port inside
    have total := split port
    rw [empty,List.nil_append,if_pos inside] at total
    exact List.count_pos_iff.mp (by omega)
  · intro all
    apply List.eq_nil_iff_forall_not_mem.mpr
    intro port member
    have total := split port
    have positive := List.count_pos_iff.mpr member
    rw [List.count_append] at total
    split at total
    · rename_i inside
      have more := List.count_pos_iff.mpr (all port inside)
      omega
    · omega

theorem mediaPorts (events : List Event) :
    Split (final step .initial events) ∧
    (∀ port, port ∈ (final step .initial events).used ↔
      ∃ i, Held (rounds step .initial events) i port) ∧
    ((acquire (final step .initial events)).2 = none ↔
      ∀ port, inRange port = true → ∃ i, Held (rounds step .initial events) i port) ∧
    (∀ i j p q, Held (rounds step .initial events) i p → Held (rounds step .initial events) j q →
      i ≠ j → p ≠ q ∧ p.toNat + 1 ≠ q.toNat ∧ p.toNat ≠ q.toNat + 1) ∧
    ∀ port, (∀ i, ¬Held (rounds step .initial events) i port) →
      release (final step .initial events) port = final step .initial events := by
  have start : Ledger [] .initial := by
    refine ⟨initialSplit,fun port => ⟨fun member => ?_,?_⟩,?_⟩
    · cases member
    · rintro ⟨i,⟨r,here,_⟩,_⟩
      cases here
    · rintro i j port ⟨⟨r,here,_⟩,_⟩
      cases here
  have ledger : Ledger (rounds step .initial events) (final step .initial events) :=
    finalHistory (P := Ledger) start ledgerStep
  refine ⟨ledger.split,ledger.used,?_,?_,?_⟩
  · rw [acquireFails,splitEmpty ledger.split]
    simp only [ledger.used]
  · intro i j p q first second different
    have left := (usedOnce ledger.split ((ledger.used p).mpr ⟨i,first⟩)).2.2
    have right := (usedOnce ledger.split ((ledger.used q).mpr ⟨j,second⟩)).2.2
    simp only [inRange,Bool.and_eq_true,decide_eq_true_eq] at left right
    refine ⟨fun same => different (ledger.once i j p first (same ▸ second)),?_,?_⟩
    · omega
    · omega
  · intro port free
    refine if_neg fun member => ?_
    obtain ⟨i,held⟩ := (ledger.used port).mp member
    exact free i held

end MediaServer.MediaPortPool
