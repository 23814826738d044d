import Mathlib.Data.List.Basic
import MediaServer.Controller

/-! media/net/worker_pool: leases_ counts the leases of every worker. A worker_lease is an object
that is constructed by lease, moved from and destroyed; objects keep their places here, and one that
is destroyed is none. lease and release hold lease_mutex_, so that a run is a list of whole calls. -/
namespace MediaServer.WorkerPool
open Controller

structure WorkerLease where
  pool : Bool
  index : Nat
  deriving DecidableEq, Repr

structure Pool where
  leases : List Nat
  objects : List (Option WorkerLease)
  fault : Bool
  deriving DecidableEq, Repr

def Pool.initial (size : Nat) : Pool := ⟨List.replicate size 0,[],false⟩

inductive Event where
  | lease
  | move (object : Nat)
  | destroy (object : Nat)
  deriving DecidableEq, Repr

inductive Effect where
  | leased (index : Nat)
  | released (index : Nat)
  deriving DecidableEq, Repr

def scan (best value next : Nat) : List Nat → Nat
  | [] => best
  | count :: rest =>
    if count < value then scan next count (next + 1) rest else scan best value (next + 1) rest

def minElement : List Nat → Nat
  | [] => 0
  | count :: rest => scan 0 count 1 rest

def lease (p : Pool) : Pool × List Effect :=
  let index := minElement p.leases
  ({p with
    leases := p.leases.set index (p.leases.getD index 0 + 1)
    objects := p.objects ++ [some ⟨true,index⟩]},[.leased index])

def release (p : Pool) (index : Nat) : Pool :=
  if p.leases.getD index 0 = 0 then {p with fault := true}
  else {p with leases := p.leases.set index (p.leases.getD index 0 - 1)}

def moveFrom (p : Pool) (object : Nat) (other : WorkerLease) : Pool :=
  {p with objects := p.objects.set object (some {other with pool := false}) ++ [some other]}

def destroy (p : Pool) (object : Nat) (gone : WorkerLease) : Pool × List Effect :=
  let left := {p with objects := p.objects.set object none}
  if gone.pool then (release left gone.index,[.released gone.index]) else (left,[])

def step (p : Pool) : Event → Pool × List Effect
  | .lease => lease p
  | .move object =>
    match p.objects[object]? with
    | some (some other) => (moveFrom p object other,[])
    | _ => (p,[])
  | .destroy object =>
    match p.objects[object]? with
    | some (some gone) => destroy p object gone
    | _ => (p,[])

abbrev Turn := Round Pool Event Effect

def Pool.count (p : Pool) (i : Nat) : Nat := p.leases.getD i 0

def Pool.owners (p : Pool) (i : Nat) : Nat := p.objects.count (some ⟨true,i⟩)

theorem setCount (leases : List Nat) {k : Nat} (inside : k < leases.length) (count i : Nat) :
    (leases.set k count).getD i 0 = if i = k then count else leases.getD i 0 := by
  simp only [List.getD_eq_getElem?_getD,List.getElem?_set]
  by_cases same : i = k
  · simp [same,inside]
  · simp [same,Ne.symm same]

theorem scanLeast (all rest : List Nat) (best value next : Nat) (front : List Nat)
    (split : all = front ++ rest) (size : front.length = next) (inside : best < next)
    (here : all.getD best 0 = value) (least : ∀ j < next, value ≤ all.getD j 0) :
    scan best value next rest < all.length ∧
      ∀ j < all.length, all.getD (scan best value next rest) 0 ≤ all.getD j 0 := by
  induction rest generalizing best value next front with
  | nil =>
    rw [List.append_nil] at split
    rw [scan,here,split,size]
    rw [split] at least
    exact ⟨inside,least⟩
  | cons count rest ih =>
    have there : all.getD next 0 = count := by simp [split,← size]
    have more : all = (front ++ [count]) ++ rest := by simp [split]
    have long : (front ++ [count]).length = next + 1 := by simp [size]
    rw [scan]
    split
    · rename_i smaller
      refine ih next count (next + 1) _ more long (Nat.lt_succ_self next) there ?_
      intro j below
      rcases Nat.lt_succ_iff_lt_or_eq.mp below with earlier | rfl
      · exact Nat.le_trans (Nat.le_of_lt smaller) (least j earlier)
      · exact Nat.le_of_eq there.symm
    · rename_i larger
      refine ih best value (next + 1) _ more long (by omega) here ?_
      intro j below
      rcases Nat.lt_succ_iff_lt_or_eq.mp below with earlier | rfl
      · exact least j earlier
      · rw [there]
        omega

theorem minLeast {leases : List Nat} (some_ : leases ≠ []) :
    minElement leases < leases.length ∧
      ∀ j < leases.length, leases.getD (minElement leases) 0 ≤ leases.getD j 0 := by
  obtain ⟨count,rest,rfl⟩ := List.exists_cons_of_ne_nil some_
  refine scanLeast (count :: rest) rest 0 count 1 [count] rfl rfl (by omega) rfl ?_
  intro j below
  cases show j = 0 by omega
  exact Nat.le_refl _

structure Sound (n : Nat) (p : Pool) : Prop where
  fault : p.fault = false
  size : p.leases.length = n + 1
  counted : ∀ i, p.count i = p.owners i

variable {n object : Nat} {p : Pool}

theorem Sound.inside (sound : Sound n p) {i : Nat} (owned : 0 < p.owners i) :
    i < p.leases.length := by
  by_contra outside
  rw [← sound.counted,Pool.count,List.getD_eq_getElem?_getD,
    List.getElem?_eq_none (Nat.le_of_not_lt outside)] at owned
  exact absurd owned (Nat.lt_irrefl 0)

theorem Sound.least (sound : Sound n p) :
    minElement p.leases ≤ n ∧ ∀ j ≤ n, p.count (minElement p.leases) ≤ p.count j := by
  have some_ : p.leases ≠ [] := by
    intro empty
    have size := sound.size
    rw [empty,List.length_nil] at size
    omega
  obtain ⟨inside,least⟩ := minLeast some_
  rw [sound.size] at inside least
  exact ⟨by omega,fun j below => least j (by omega)⟩

theorem leaseCount (sound : Sound n p) (i : Nat) :
    (lease p).1.count i = if i = minElement p.leases then p.count i + 1 else p.count i := by
  have inside := sound.least.1
  simp only [lease,Pool.count]
  rw [setCount _ (by rw [sound.size]; omega)]
  split
  · rename_i same
    rw [same]
  · rfl

theorem leaseSound (sound : Sound n p) : Sound n (lease p).1 := by
  refine ⟨sound.fault,by simp [lease,sound.size],?_⟩
  intro i
  rw [leaseCount sound,sound.counted]
  by_cases same : i = minElement p.leases
  · simp [lease,Pool.owners,same]
  · simp [lease,Pool.owners,same,Ne.symm same]

theorem ownersSet {old : WorkerLease} (here : p.objects[object]? = some (some old))
    (new : Option WorkerLease) (i : Nat) :
    (p.objects.set object new).count (some ⟨true,i⟩) +
        (if old = ⟨true,i⟩ then 1 else 0) =
      p.owners i + (if new = some ⟨true,i⟩ then 1 else 0) := by
  obtain ⟨inside,same⟩ := List.getElem?_eq_some_iff.mp here
  have member : some old ∈ p.objects := List.mem_of_getElem? here
  rw [List.count_set inside,same,Pool.owners]
  by_cases owner : old = ⟨true,i⟩
  · have positive : 0 < p.objects.count (some ⟨true,i⟩) := List.count_pos_iff.mpr (owner ▸ member)
    simp [owner]
    omega
  · simp [owner]

theorem movedOwners {other : WorkerLease} (here : p.objects[object]? = some (some other)) (i : Nat) :
    (moveFrom p object other).owners i = p.owners i := by
  have set := ownersSet here (some {other with pool := false}) i
  simp only [moveFrom,Pool.owners,List.count_append,List.count_singleton,beq_iff_eq,
    Option.some.injEq,WorkerLease.mk.injEq,Bool.false_eq_true,false_and,if_false] at set ⊢
  omega

theorem destroyedSound {gone : WorkerLease} (sound : Sound n p)
    (here : p.objects[object]? = some (some gone)) :
    Sound n (destroy p object gone).1 ∧ ∀ i, p.count i = (destroy p object gone).1.count i +
      (destroy p object gone).2.count (.released i) := by
  have set := ownersSet here none
  obtain ⟨owner,index⟩ := gone
  cases owner with
  | false =>
    refine ⟨⟨sound.fault,sound.size,?_⟩,by simp [destroy,Pool.count]⟩
    intro i
    have kept := set i
    simp only [WorkerLease.mk.injEq,Bool.false_eq_true,false_and,if_false,reduceCtorEq] at kept
    exact (sound.counted i).trans kept.symm
  | true =>
    have owned : 0 < p.owners index := List.count_pos_iff.mpr (List.mem_of_getElem? here)
    have inside := sound.inside owned
    have positive : p.leases.getD index 0 ≠ 0 := by
      have same := sound.counted index
      unfold Pool.count at same
      omega
    have counts : ∀ i, (destroy p object ⟨true,index⟩).1.count i =
        if i = index then p.count i - 1 else p.count i := by
      intro i
      simp only [destroy,release,Pool.count,if_true,if_neg positive]
      rw [setCount _ inside]
      split
      · rename_i same
        rw [same]
      · rfl
    refine ⟨⟨?_,?_,?_⟩,?_⟩
    · simp only [destroy,release,if_true,if_neg positive]
      exact sound.fault
    · simp only [destroy,release,if_true,if_neg positive,List.length_set]
      exact sound.size
    · intro i
      have left := set i
      have owners : (destroy p object ⟨true,index⟩).1.owners i =
          (p.objects.set object none).count (some ⟨true,i⟩) := by
        simp only [destroy,release,Pool.owners,if_true,if_neg positive]
      rw [counts,owners,sound.counted]
      by_cases same : i = index
      · simp [same] at left ⊢
        omega
      · simp [same,Ne.symm same] at left ⊢
        omega
    · intro i
      rw [counts]
      simp only [destroy,if_true,List.count_singleton,beq_iff_eq,Effect.released.injEq]
      by_cases same : i = index
      · subst same
        have some_ : p.count i ≠ 0 := positive
        simp
        omega
      · simp [same,Ne.symm same]

theorem stepSound (sound : Sound n p) (e : Event) :
    Sound n (step p e).1 ∧ ∀ i, p.count i + (step p e).2.count (.leased i) =
      (step p e).1.count i + (step p e).2.count (.released i) := by
  cases e with
  | lease =>
    refine ⟨leaseSound sound,fun i => ?_⟩
    rw [step,leaseCount sound]
    by_cases same : i = minElement p.leases
    · simp [lease,same]
    · simp [lease,same,Ne.symm same]
  | move object =>
    rw [step]
    split
    · rename_i other here
      refine ⟨⟨sound.fault,sound.size,fun i => ?_⟩,fun i => rfl⟩
      exact (sound.counted i).trans (movedOwners here i).symm
    · exact ⟨sound,fun i => rfl⟩
  | destroy object =>
    rw [step]
    split
    · rename_i gone here
      obtain ⟨next,counts⟩ := destroyedSound sound here
      refine ⟨next,fun i => ?_⟩
      have silent : (destroy p object gone).2.count (.leased i) = 0 := by
        unfold destroy
        split <;> simp
      rw [silent]
      exact counts i
    · exact ⟨sound,fun i => rfl⟩

def effectsOf (past : List Turn) : List Effect := past.flatMap (·.effects)

structure Ledger (n : Nat) (past : List Turn) (p : Pool) : Prop where
  sound : Sound n p
  balance : ∀ i, (effectsOf past).count (.leased i) =
    (effectsOf past).count (.released i) + p.count i
  level : (∀ i, .released i ∉ effectsOf past) → ∀ i j, i ≤ n → j ≤ n → p.count i ≤ p.count j + 1

theorem levelStep (sound : Sound n p) (level : ∀ i j, i ≤ n → j ≤ n → p.count i ≤ p.count j + 1)
    (e : Event) (kept : ∀ i, .released i ∉ (step p e).2) {i j : Nat} (first : i ≤ n)
    (second : j ≤ n) : (step p e).1.count i ≤ (step p e).1.count j + 1 := by
  have flow := (stepSound sound e).2
  cases e with
  | lease =>
    have least := sound.least.2 j second
    have near := level i j first second
    rw [step,leaseCount sound,leaseCount sound]
    split
    · rename_i same
      rw [same]
      split <;> omega
    · split <;> omega
  | move object =>
    have same : ∀ k, (step p (.move object)).1.count k = p.count k := by
      intro k
      rw [step]
      split <;> rfl
    rw [same,same]
    exact level i j first second
  | destroy object =>
    have same : ∀ k, (step p (.destroy object)).1.count k = p.count k := by
      intro k
      have none_ := List.count_eq_zero.mpr (kept k)
      have silent : (step p (.destroy object)).2.count (.leased k) = 0 := by
        rw [step]
        split
        · unfold destroy
          split <;> simp
        · rfl
      have total := flow k
      omega
    rw [same,same]
    exact level i j first second

theorem ledgerStep (n : Nat) (past : List Turn) (p : Pool) (e : Event) (ledger : Ledger n past p) :
    Ledger n (past ++ [.of step p e]) (step p e).1 := by
  have effects : effectsOf (past ++ [.of step p e]) = effectsOf past ++ (step p e).2 := by
    simp [effectsOf,Round.of]
  obtain ⟨sound,flow⟩ := stepSound ledger.sound e
  refine ⟨sound,fun i => ?_,fun never i j first second => ?_⟩
  · have old := ledger.balance i
    have new := flow i
    rw [effects,List.count_append,List.count_append]
    omega
  · rw [effects] at never
    have before : ∀ k, .released k ∉ effectsOf past := fun k member =>
      never k (List.mem_append_left _ member)
    have now : ∀ k, .released k ∉ (step p e).2 := fun k member =>
      never k (List.mem_append_right _ member)
    exact levelStep ledger.sound (ledger.level before) e now first second

theorem initialLedger (n : Nat) : Ledger n [] (.initial (n + 1)) := by
  have zero : ∀ i, (Pool.initial (n + 1)).count i = 0 := by
    intro i
    simp only [Pool.count,Pool.initial,List.getD_eq_getElem?_getD,List.getElem?_replicate]
    split <;> rfl
  refine ⟨⟨rfl,by simp [Pool.initial],fun i => (zero i).trans rfl⟩,fun i => ?_,fun _ i j _ _ => ?_⟩
  · rw [zero]
    rfl
  · rw [zero]
    omega

theorem leaseBalance (n : Nat) (events : List Event) :
    (final step (.initial (n + 1)) events).fault = false ∧
    (∀ i, (final step (.initial (n + 1)) events).leases.getD i 0 =
      (final step (.initial (n + 1)) events).objects.count (some ⟨true,i⟩)) ∧
    (∀ i, (effectsOf (rounds step (.initial (n + 1)) events)).count (.leased i) =
      (effectsOf (rounds step (.initial (n + 1)) events)).count (.released i) +
        (final step (.initial (n + 1)) events).objects.count (some ⟨true,i⟩)) ∧
    (∀ r ∈ rounds step (.initial (n + 1)) events, r.event = .lease → ∃ index ≤ n,
      r.effects = [.leased index] ∧ ∀ j ≤ n, r.state.objects.count (some ⟨true,index⟩) ≤
        r.state.objects.count (some ⟨true,j⟩)) ∧
    (∀ r ∈ rounds step (.initial (n + 1)) events, ∀ object other, r.event = .move object →
      r.state.objects[object]? = some (some other) →
        r.next.leases = r.state.leases ∧ r.effects = [] ∧
          r.next.objects = r.state.objects.set object (some ⟨false,other.index⟩) ++ [some other]) ∧
    ((∀ i, .released i ∉ effectsOf (rounds step (.initial (n + 1)) events)) →
      ∀ i j, i ≤ n → j ≤ n → (final step (.initial (n + 1)) events).leases.getD i 0 ≤
        (final step (.initial (n + 1)) events).leases.getD j 0 + 1) := by
  have ledger : Ledger n (rounds step (.initial (n + 1)) events)
      (final step (.initial (n + 1)) events) :=
    finalHistory (P := Ledger n) (initialLedger n) (ledgerStep n)
  have run : ∀ r ∈ rounds step (.initial (n + 1)) events,
      Sound n r.state ∧ step r.state r.event = (r.next,r.effects) :=
    roundsInvariant (initialLedger n).sound fun p e sound => (stepSound sound e).1
  refine ⟨ledger.sound.fault,ledger.sound.counted,fun i => ?_,?_,?_,ledger.level⟩
  · rw [ledger.balance i,ledger.sound.counted i]
    rfl
  · intro r member event
    obtain ⟨sound,taken⟩ := run r member
    obtain ⟨inside,least⟩ := sound.least
    rw [event] at taken
    refine ⟨_,inside,(congrArg Prod.snd taken).symm,fun j below => ?_⟩
    have fewer := least j below
    rw [sound.counted,sound.counted] at fewer
    exact fewer
  · intro r member object other event here
    obtain ⟨_,taken⟩ := run r member
    rw [event,step,here] at taken
    have next : moveFrom r.state object other = r.next := congrArg Prod.fst taken
    rw [← next]
    exact ⟨rfl,(congrArg Prod.snd taken).symm,rfl⟩

example : ((rounds step (.initial 2) [.lease,.move 0,.lease,.destroy 0,.destroy 1,.lease]).map
    (·.effects)) = [[.leased 0],[],[.leased 1],[],[.released 0],[.leased 0]] := by decide

end MediaServer.WorkerPool
