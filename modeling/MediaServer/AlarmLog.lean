import Mathlib.Algebra.Order.Ring.Int
import Mathlib.Data.List.Basic
import MediaServer.Controller
import MediaServer.Text

/-! alarm.go: the log of the last alarms and a client that follows its cursor. The fields of an alarm
besides its number are left open and texts are lists of characters. The numbers are natural numbers:
they are those of the source while there are fewer than 2^63 of them. -/
namespace MediaServer.AlarmLog
open Controller

variable {α : Type}

def alarmCapacity : Nat := 1000
def alarmPageLimit : Nat := 200

structure AlarmRecord (α : Type) where
  seq : Nat
  alarm : α
  deriving DecidableEq, Repr

structure Log (α : Type) where
  generation : Text
  records : List (AlarmRecord α)
  latest : Nat
  deriving DecidableEq, Repr

structure AlarmPage (α : Type) where
  alarms : List (AlarmRecord α)
  latest : Nat
  nextCursor : Text
  reset : Bool
  gap : Bool
  deriving DecidableEq, Repr

def Log.add (l : Log α) (alarm : α) : Log α :=
  let records := l.records ++ [⟨l.latest + 1,alarm⟩]
  {l with
    latest := l.latest + 1
    records := if records.length > alarmCapacity then records.drop (records.length - alarmCapacity)
      else records}

def signed : Text → Option Int
  | '-' :: rest => (Text.natural rest).map fun n => -(n : Int)
  | '+' :: rest => (Text.natural rest).map fun n => (n : Int)
  | text => (Text.natural text).map fun n => (n : Int)

def parseInt (text : Text) : Option Int :=
  (signed text).filter fun n => -2 ^ 63 ≤ n && n < 2 ^ 63

def gather (after : Nat) : List (AlarmRecord α) → List (AlarmRecord α) → Bool →
    List (AlarmRecord α) × Bool
  | [], alarms, gap => (alarms,gap)
  | record :: rest, alarms, gap =>
    if record.seq ≤ after then gather after rest alarms gap
    else
      let gap := if alarms.length = 0 then decide (record.seq ≠ after + 1) else gap
      if alarms.length = alarmPageLimit then (alarms,gap)
      else gather after rest (alarms ++ [record]) gap

def Log.page (l : Log α) (after : Nat) (reset : Bool) : AlarmPage α :=
  let (alarms,gap) := gather after l.records [] false
  let last := (alarms.getLast?.map AlarmRecord.seq).getD after
  ⟨alarms,l.latest,l.generation ++ '.' :: Text.decimal last,reset,gap⟩

def Log.since (l : Log α) (cursor : Text) : Option (AlarmPage α) :=
  if cursor = ['0'] then some (l.page 0 false)
  else
    match Text.cut '.' cursor with
    | none => none
    | some (generation,sequence) =>
      match parseInt sequence with
      | none => none
      | some after =>
        if generation.isEmpty || after < 0 || Text.showInt after ≠ sequence then none
        else if generation ≠ l.generation || after > l.latest then some (l.page 0 true)
        else some (l.page after.toNat false)

structure Client (α : Type) where
  log : Log α
  cursor : Text
  deriving DecidableEq, Repr

inductive Event (α : Type) where
  | add (alarm : α)
  | fetch
  deriving DecidableEq, Repr

inductive Effect (α : Type) where
  | page (page : AlarmPage α)
  | invalid
  deriving DecidableEq, Repr

def step (s : Client α) : Event α → Client α × List (Effect α)
  | .add alarm => ({s with log := s.log.add alarm},[])
  | .fetch =>
    match s.log.since s.cursor with
    | none => (s,[.invalid])
    | some page => ({s with cursor := page.nextCursor},[.page page])

def start (generation : Text) : Client α := ⟨⟨generation,[],0⟩,['0']⟩

def number : Nat → List α → List (AlarmRecord α)
  | _,[] => []
  | n,alarm :: rest => ⟨n + 1,alarm⟩ :: number (n + 1) rest

theorem numberAppend (n : Nat) (first last : List α) :
    number n (first ++ last) = number n first ++ number (n + first.length) last := by
  induction first generalizing n with
  | nil => rfl
  | cons alarm rest ih =>
    simp only [List.cons_append,number,ih,List.length_cons]
    rw [Nat.add_right_comm,Nat.add_assoc]

theorem numberLength (n : Nat) (alarms : List α) : (number n alarms).length = alarms.length := by
  induction alarms generalizing n with
  | nil => rfl
  | cons alarm rest ih => simp [number,ih]

theorem numberSeq (n : Nat) (alarms : List α) :
    (number n alarms).map AlarmRecord.seq = List.range' (n + 1) alarms.length := by
  induction alarms generalizing n with
  | nil => rfl
  | cons alarm rest ih => simp [number,ih,List.range'_succ]

variable {n : Nat} {record : AlarmRecord α} {generation : Text} {added : List α} {l : Log α}

theorem numberMember {alarms : List α} (member : record ∈ number n alarms) :
    n < record.seq ∧ record.seq ≤ n + alarms.length := by
  have inside : record.seq ∈ (number n alarms).map AlarmRecord.seq := List.mem_map_of_mem member
  rw [numberSeq,List.mem_range'_1] at inside
  omega

theorem numberDrop (n k : Nat) (alarms : List α) :
    (number n alarms).drop k = number (n + k) (alarms.drop k) := by
  induction k generalizing n alarms with
  | zero => rfl
  | succ k ih =>
    cases alarms with
    | nil => simp [number]
    | cons alarm rest =>
      simp only [number,List.drop_succ_cons,ih]
      rw [Nat.add_right_comm,Nat.add_assoc]

theorem numberTake (n k : Nat) (alarms : List α) :
    (number n alarms).take k = number n (alarms.take k) := by
  induction k generalizing n alarms with
  | zero => rfl
  | succ k ih =>
    cases alarms with
    | nil => rfl
    | cons alarm rest => simp only [number,List.take_succ_cons,ih]

structure Holds (generation : Text) (added : List α) (l : Log α) : Prop where
  generation : l.generation = generation
  latest : l.latest = added.length
  records : l.records = number (added.length - alarmCapacity)
    (added.drop (added.length - alarmCapacity))

theorem holdsAdd (holds : Holds generation added l) (alarm : α) :
    Holds generation (added ++ [alarm]) (l.add alarm) where
  generation := holds.generation
  latest := by simp [Log.add,holds.latest]
  records := by
    have capacity : alarmCapacity = 1000 := rfl
    have grown : l.records ++ [⟨l.latest + 1,alarm⟩] = number (added.length - alarmCapacity)
        ((added ++ [alarm]).drop (added.length - alarmCapacity)) := by
      rw [List.drop_append_of_le_length (by omega),numberAppend,← holds.records,holds.latest,
        List.length_drop]
      have place : added.length - alarmCapacity + (added.length - (added.length - alarmCapacity)) =
          added.length := by omega
      rw [place]
      rfl
    simp only [Log.add,grown,numberLength,List.length_drop,List.length_append,
      List.length_singleton]
    split
    · rename_i full
      rw [numberDrop,List.drop_drop]
      have place : added.length - alarmCapacity + (added.length + 1 -
          (added.length - alarmCapacity) - alarmCapacity) = added.length + 1 - alarmCapacity := by
        omega
      rw [place]
    · rename_i fits
      have place : added.length - alarmCapacity = added.length + 1 - alarmCapacity := by omega
      rw [place]

theorem gatherSkip {after : Nat} {old : List (AlarmRecord α)} (rest : List (AlarmRecord α))
    (all : ∀ record ∈ old, record.seq ≤ after) (gap : Bool) :
    gather after (old ++ rest) [] gap = gather after rest [] gap := by
  induction old with
  | nil => rfl
  | cons record old ih =>
    rw [List.cons_append,gather,if_pos (all record List.mem_cons_self)]
    exact ih fun other member => all other (List.mem_cons_of_mem _ member)

theorem gatherTake {after : Nat} (rest alarms : List (AlarmRecord α)) (gap : Bool)
    (all : ∀ record ∈ rest, after < record.seq) (some_ : alarms ≠ [])
    (fits : alarms.length ≤ alarmPageLimit) :
    gather after rest alarms gap = (alarms ++ rest.take (alarmPageLimit - alarms.length),gap) := by
  induction rest generalizing alarms with
  | nil => simp [gather]
  | cons record rest ih =>
    have above := all record List.mem_cons_self
    have long : alarms.length ≠ 0 := fun zero => some_ (List.length_eq_zero_iff.mp zero)
    rw [gather,if_neg (by omega)]
    simp only [if_neg long]
    split
    · rename_i full
      rw [full,Nat.sub_self,List.take_zero,List.append_nil]
    · rename_i room
      rw [ih _ (fun other member => all other (List.mem_cons_of_mem _ member)) (by simp)
        (by rw [List.length_append,List.length_singleton]; omega)]
      have one : alarmPageLimit - alarms.length =
          alarmPageLimit - (alarms ++ [record]).length + 1 := by
        rw [List.length_append,List.length_singleton]
        omega
      rw [one,List.take_succ_cons,List.append_assoc]
      rfl

theorem gatherFilter (after : Nat) (records : List (AlarmRecord α)) :
    (gather after records [] false).1 =
      (records.filter fun record => after < record.seq).take alarmPageLimit := by
  have all : ∀ (rest alarms : List (AlarmRecord α)) gap, alarms.length ≤ alarmPageLimit →
      (gather after rest alarms gap).1 = alarms ++
        (rest.filter fun record => after < record.seq).take (alarmPageLimit - alarms.length) := by
    intro rest
    induction rest with
    | nil => simp [gather]
    | cons record rest ih =>
      intro alarms gap fits
      rw [gather]
      split
      · rename_i old
        rw [ih _ _ fits,List.filter_cons_of_neg (by simpa using old)]
      · rename_i new
        rw [List.filter_cons_of_pos (by simpa using new)]
        dsimp only
        split
        · rename_i full
          rw [full,Nat.sub_self,List.take_zero,List.append_nil]
        · rename_i room
          have one : alarmPageLimit - alarms.length =
              alarmPageLimit - (alarms ++ [record]).length + 1 := by
            rw [List.length_append,List.length_singleton]
            omega
          rw [ih _ _ (by rw [List.length_append,List.length_singleton]; omega),one,
            List.take_succ_cons,List.append_assoc]
          rfl
  rw [all records [] false (Nat.zero_le _)]
  rfl

theorem pageExact (holds : Holds generation added l) (after : Nat) :
    gather after l.records [] false =
      (number (max after (added.length - alarmCapacity))
        ((added.drop (max after (added.length - alarmCapacity))).take alarmPageLimit),
        decide (after < added.length - alarmCapacity)) := by
  have capacity : alarmCapacity = 1000 := rfl
  have limit : alarmPageLimit = 200 := rfl
  obtain ⟨lost,same⟩ : ∃ lost, added.length - alarmCapacity = lost := ⟨_,rfl⟩
  have split := List.take_append_drop (after - lost) (number lost (added.drop lost))
  rw [holds.records,same,← split,gatherSkip]
  · rw [numberDrop,List.drop_drop]
    have place : lost + (after - lost) = max after lost := by omega
    rw [place]
    cases rest : added.drop (max after lost) with
    | nil =>
      have short := List.drop_eq_nil_iff.mp rest
      have kept : ¬after < lost := by omega
      simp [number,gather,kept]
    | cons alarm later =>
      have first : ¬(⟨max after lost + 1,alarm⟩ : AlarmRecord α).seq ≤ after := by
        show ¬max after lost + 1 ≤ after
        omega
      rw [number,gather,if_neg first]
      simp only [List.length_nil,if_true,limit,if_neg (show ¬(0 = 200) by decide)]
      rw [gatherTake _ _ _ ?_ (by simp) (by simp [limit]),numberTake,List.take_succ_cons,number]
      · have gap : decide (max after lost + 1 ≠ after + 1) = decide (after < lost) := by
          rw [decide_eq_decide]
          omega
        rw [List.nil_append,gap]
        rfl
      · intro record member
        have range := numberMember member
        omega
  · intro record member
    rw [numberTake] at member
    have range := numberMember member
    rw [List.length_take] at range
    omega

theorem parseDecimal (small : n < 2 ^ 63) : parseInt (Text.decimal n) = some (n : Int) := by
  have digits : ∀ c ∈ Text.decimal n, c.isDigit = true := fun c => Text.decimalDigits
  have read : signed (Text.decimal n) = some (n : Int) := by
    unfold signed
    split
    · rename_i rest same
      exact absurd (digits '-' (by simp [same])) (by decide)
    · rename_i rest same
      exact absurd (digits '+' (by simp [same])) (by decide)
    · rw [Text.naturalDecimal n]
      rfl
  have low : -2 ^ 63 ≤ (n : Int) := by omega
  have high : (n : Int) < 2 ^ 63 := by omega
  simp only [parseInt,read,Option.filter_some,low,high,decide_true,Bool.and_self,if_true]

def CursorAt (generation cursor : Text) (n : Nat) : Prop :=
  (cursor = ['0'] ∧ n = 0) ∨ cursor = generation ++ '.' :: Text.decimal n

theorem sinceExact {cursor : Text} (some_ : generation ≠ []) (plain : '.' ∉ generation)
    (holds : Holds generation added l) (stands : CursorAt generation cursor n)
    (known : n ≤ added.length) (small : n < 2 ^ 63) : l.since cursor = some (l.page n false) := by
  unfold Log.since
  rcases stands with ⟨rfl,rfl⟩ | rfl
  · rw [if_pos rfl]
  · have other : generation ++ '.' :: Text.decimal n ≠ ['0'] := by
      intro same
      have long := congrArg List.length same
      have first : 0 < generation.length := List.length_pos_of_ne_nil some_
      simp only [List.length_append,List.length_cons,List.length_nil] at long
      omega
    rw [if_neg other,Text.cutSome.mpr ⟨rfl,plain⟩]
    have full : generation.isEmpty = false := by simpa using some_
    have positive : ¬((n : Int) < 0) := by omega
    have inside : ¬((n : Int) > (l.latest : Int)) := by rw [holds.latest]; omega
    simp only [parseDecimal small,full,holds.generation,decide_eq_false positive,decide_eq_false inside,
      Text.showInt,ne_eq,not_true_eq_false,decide_false,Bool.or_self,Bool.false_eq_true,if_false,
      Int.toNat_natCast]

abbrev Turn (α : Type) := Round (Client α) (Event α) (Effect α)

def Event.alarm? : Event α → Option α
  | .add alarm => some alarm
  | .fetch => none

def Effect.records : Effect α → List (AlarmRecord α)
  | .page shown => shown.alarms
  | .invalid => []

def addedIn (past : List (Turn α)) : List α := past.filterMap fun r => r.event.alarm?

def received (past : List (Turn α)) : List (AlarmRecord α) :=
  past.flatMap fun r => r.effects.flatMap Effect.records

def Log.evicted (l : Log α) (m : Nat) : Prop :=
  1 ≤ m ∧ m ≤ l.latest ∧ m ∉ l.records.map AlarmRecord.seq

def Reported (past : List (Turn α)) (m : Nat) : Prop :=
  ∃ r ∈ past, ∃ page, .page page ∈ r.effects ∧ page.gap = true ∧ r.state.log.evicted m

structure PageSpec (l : Log α) (n next : Nat) (page : AlarmPage α) : Prop where
  records : page.alarms = (l.records.filter fun record => n < record.seq).take alarmPageLimit
  reset : page.reset = false
  consecutive : ∃ first, page.alarms.map AlarmRecord.seq = List.range' first page.alarms.length ∧
    n < first
  limit : page.alarms.length ≤ alarmPageLimit
  gap : page.gap = true ↔ ∃ m first, (page.alarms.map AlarmRecord.seq).head? = some first ∧
    n < m ∧ m < first ∧ l.evicted m
  empty : page.alarms = [] ↔ n = l.latest
  covers : ∀ m, n < m → m ≤ next →
    m ∈ page.alarms.map AlarmRecord.seq ∨ page.gap = true ∧ l.evicted m
  most : ∀ m ∈ page.alarms.map AlarmRecord.seq, m ≤ next
  last : n ≤ next ∧ next ≤ l.latest

variable {past : List (Turn α)}

theorem evictedIff (holds : Holds generation added l) (m : Nat) :
    l.evicted m ↔ 1 ≤ m ∧ m ≤ added.length - alarmCapacity := by
  have capacity : alarmCapacity = 1000 := rfl
  rw [Log.evicted,holds.records,holds.latest,numberSeq,List.mem_range'_1,List.length_drop]
  omega

theorem pageSpec (holds : Holds generation added l) (known : n ≤ added.length) :
    ∃ next, (l.page n false).nextCursor = generation ++ '.' :: Text.decimal next ∧
      PageSpec l n next (l.page n false) := by
  have capacity : alarmCapacity = 1000 := rfl
  have limit : alarmPageLimit = 200 := rfl
  have exact_ := pageExact holds n
  obtain ⟨from_,place⟩ : ∃ from_, max n (added.length - alarmCapacity) = from_ := ⟨_,rfl⟩
  obtain ⟨shown,cut⟩ : ∃ shown, (added.drop from_).take alarmPageLimit = shown := ⟨_,rfl⟩
  rw [place,cut] at exact_
  have size : shown.length = min 200 (added.length - from_) := by
    rw [← cut,List.length_take,List.length_drop,limit]
  have alarms : (l.page n false).alarms = number from_ shown := by simp only [Log.page,exact_]
  have gap : (l.page n false).gap = decide (n < added.length - alarmCapacity) := by
    simp only [Log.page,exact_]
  have numbers : (l.page n false).alarms.map AlarmRecord.seq =
      List.range' (from_ + 1) shown.length := by rw [alarms,numberSeq]
  have last : ((number from_ shown).getLast?.map AlarmRecord.seq).getD n =
      if shown.length = 0 then n else from_ + shown.length := by
    rw [← List.getLast?_map,numberSeq,List.getLast?_range']
    split <;> simp
  refine ⟨if shown.length = 0 then n else from_ + shown.length,?_,?_⟩
  · simp only [Log.page,exact_,last,holds.generation]
  · refine ⟨gatherFilter n l.records,rfl,⟨from_ + 1,?_,by omega⟩,?_,?_,?_,?_,?_,?_⟩
    · rw [numbers,alarms,numberLength]
    · rw [alarms,numberLength,size,limit]
      exact Nat.min_le_left _ _
    · rw [gap,numbers,decide_eq_true_eq]
      constructor
      · intro lost
        refine ⟨n + 1,from_ + 1,?_,by omega,by omega,(evictedIff holds _).mpr (by omega)⟩
        rw [List.head?_range']
        exact if_neg (by omega)
      · rintro ⟨m,first,_,above,_,evicted⟩
        have range := (evictedIff holds m).mp evicted
        omega
    · rw [alarms,← List.length_eq_zero_iff,numberLength,holds.latest]
      omega
    · intro m above below
      rw [numbers,List.mem_range'_1,gap,decide_eq_true_eq,evictedIff holds]
      split at below <;> omega
    · intro m member
      rw [numbers,List.mem_range'_1] at member
      split <;> omega
    · rw [holds.latest]
      split <;> omega

structure Delivered (past : List (Turn α)) (n : Nat) : Prop where
  order : ((received past).map AlarmRecord.seq).Pairwise (· < ·)
  own : ∀ record ∈ received past, record ∈ number 0 (addedIn past)
  most : ∀ record ∈ received past, record.seq ≤ n
  all : ∀ record ∈ number 0 (addedIn past), record.seq ≤ n →
    record ∈ received past ∨ Reported past record.seq

structure Good (generation : Text) (past : List (Turn α)) (s : Client α) : Prop where
  log : Holds generation (addedIn past) s.log
  cursor : ∃ n, CursorAt generation s.cursor n ∧ n ≤ (addedIn past).length ∧ Delivered past n

theorem addedSnoc (past : List (Turn α)) (r : Turn α) :
    addedIn (past ++ [r]) = addedIn past ++ r.event.alarm?.toList := by
  cases found : r.event.alarm? with
  | none => simp [addedIn,found]
  | some alarm => simp [addedIn,found]

theorem receivedSnoc (past : List (Turn α)) (r : Turn α) :
    received (past ++ [r]) = received past ++ r.effects.flatMap Effect.records := by
  simp [received]

theorem Reported.later {m : Nat} (reported : Reported past m) (r : Turn α) :
    Reported (past ++ [r]) m := by
  obtain ⟨q,member,rest⟩ := reported
  exact ⟨q,List.mem_append_left _ member,rest⟩

theorem recordsOwn (holds : Holds generation added l) (member : record ∈ l.records) :
    record ∈ number 0 added := by
  have whole := numberDrop 0 (added.length - alarmCapacity) added
  rw [Nat.zero_add] at whole
  rw [holds.records,← whole] at member
  exact List.mem_of_mem_drop member

theorem numberUnique {alarms : List α} {other : AlarmRecord α} (first : record ∈ number n alarms)
    (second : other ∈ number n alarms) (same : record.seq = other.seq) : record = other := by
  induction alarms generalizing n with
  | nil => cases first
  | cons alarm rest ih =>
    rcases List.mem_cons.mp first with rfl | first
    · rcases List.mem_cons.mp second with rfl | second
      · rfl
      · have above := (numberMember second).1
        rw [← same] at above
        exact absurd above (Nat.lt_irrefl _)
    · rcases List.mem_cons.mp second with rfl | second
      · have above := (numberMember first).1
        rw [same] at above
        exact absurd above (Nat.lt_irrefl _)
      · exact ih first second

theorem deliveredAdd (delivered : Delivered past n) (known : n ≤ (addedIn past).length) {r : Turn α}
    {alarm : α} (event : r.event = .add alarm) (silent : r.effects = []) :
    Delivered (past ++ [r]) n := by
  have grown : number 0 (addedIn (past ++ [r])) =
      number 0 (addedIn past) ++ [⟨(addedIn past).length + 1,alarm⟩] := by
    rw [addedSnoc,event]
    simp [Event.alarm?,numberAppend,number]
  have same : received (past ++ [r]) = received past := by simp [receivedSnoc,silent]
  refine ⟨same ▸ delivered.order,?_,same ▸ delivered.most,?_⟩
  · intro record member
    rw [same] at member
    rw [grown]
    exact List.mem_append_left _ (delivered.own record member)
  · intro record member low
    rw [grown,List.mem_append,List.mem_singleton] at member
    rcases member with old | rfl
    · rw [same]
      exact (delivered.all record old low).imp_right (·.later r)
    · exact absurd (show (addedIn past).length + 1 ≤ n from low) (by omega)

theorem deliveredFetch {next : Nat} {r : Turn α} {page : AlarmPage α} (delivered : Delivered past n)
    (holds : Holds generation (addedIn past) r.state.log) (spec : PageSpec r.state.log n next page)
    (event : r.event = .fetch) (shown : r.effects = [.page page]) :
    Delivered (past ++ [r]) next := by
  have added : addedIn (past ++ [r]) = addedIn past := by simp [addedSnoc,event,Event.alarm?]
  have more : received (past ++ [r]) = received past ++ page.alarms := by
    simp [receivedSnoc,shown,Effect.records]
  have own : ∀ record ∈ page.alarms, record ∈ number 0 (addedIn past) := by
    intro record member
    rw [spec.records] at member
    exact recordsOwn holds (List.mem_of_mem_filter (List.mem_of_mem_take member))
  obtain ⟨first,numbers,above⟩ := spec.consecutive
  refine ⟨?_,?_,?_,?_⟩
  · rw [more,List.map_append,List.pairwise_append,numbers]
    refine ⟨delivered.order,List.pairwise_lt_range',?_⟩
    intro m old k new
    obtain ⟨record,member,rfl⟩ := List.mem_map.mp old
    have low := delivered.most record member
    rw [List.mem_range'_1] at new
    omega
  · rw [added,more]
    intro record member
    exact (List.mem_append.mp member).elim (delivered.own record) (own record)
  · rw [more]
    intro record member
    rcases List.mem_append.mp member with old | new
    · exact Nat.le_trans (delivered.most record old) spec.last.1
    · exact spec.most record.seq (List.mem_map_of_mem new)
  · rw [added,more]
    intro record member low
    by_cases old : record.seq ≤ n
    · exact (delivered.all record member old).imp (List.mem_append_left _) (·.later r)
    · rcases spec.covers record.seq (by omega) low with here | ⟨gap,evicted⟩
      · obtain ⟨other,inside,same⟩ := List.mem_map.mp here
        cases numberUnique (own other inside) member same
        exact .inl (List.mem_append_right _ inside)
      · exact .inr ⟨r,by simp,page,by simp [shown],gap,evicted⟩

theorem fetchSpec {s : Client α} (some_ : generation ≠ []) (plain : '.' ∉ generation)
    (good : Good generation past s) (small : (addedIn past).length < 2 ^ 63) :
    ∃ n next page, CursorAt generation s.cursor n ∧ Delivered past n ∧
      PageSpec s.log n next page ∧
      step s .fetch = ({s with cursor := generation ++ '.' :: Text.decimal next},[.page page]) := by
  obtain ⟨n,stands,known,delivered⟩ := good.cursor
  obtain ⟨next,text,spec⟩ := pageSpec good.log known
  refine ⟨n,next,_,stands,delivered,spec,?_⟩
  simp only [step,sinceExact some_ plain good.log stands known (by omega),text]

theorem addedShort (past : List (Turn α)) : (addedIn past).length ≤ past.length :=
  List.length_filterMap_le _ _

theorem goodStep (some_ : generation ≠ []) (plain : '.' ∉ generation) (past : List (Turn α))
    (s : Client α) (e : Event α) (good : past.length < 2 ^ 63 → Good generation past s)
    (small : (past ++ [Round.of step s e]).length < 2 ^ 63) :
    Good generation (past ++ [.of step s e]) (step s e).1 := by
  rw [List.length_append] at small
  have good := good (by omega)
  have few := addedShort past
  cases e with
  | add alarm =>
    obtain ⟨n,stands,known,delivered⟩ := good.cursor
    have added : addedIn (past ++ [.of step s (.add alarm)]) = addedIn past ++ [alarm] :=
      addedSnoc past _
    refine ⟨?_,n,stands,?_,deliveredAdd delivered known rfl rfl⟩
    · rw [added]
      exact holdsAdd good.log alarm
    · rw [added,List.length_append]
      omega
  | fetch =>
    obtain ⟨n,next,page,_,delivered,spec,moved⟩ := fetchSpec some_ plain good (by omega)
    have added : addedIn (past ++ [.of step s .fetch]) = addedIn past := by
      simp [addedSnoc,Round.of,Event.alarm?]
    have bound := spec.last
    rw [good.log.latest] at bound
    refine ⟨?_,next,?_,?_,?_⟩
    · rw [added,moved]
      exact good.log
    · rw [moved]
      exact .inr rfl
    · rw [added]
      exact bound.2
    · exact deliveredFetch delivered good.log spec rfl (congrArg Prod.snd moved)

structure Follows (generation : Text) (before : List (Turn α)) (r : Turn α) : Prop where
  records : Holds generation (addedIn (before ++ [r])) r.next.log
  delivered : ∃ n, CursorAt generation r.next.cursor n ∧ n ≤ r.next.log.latest ∧
    Delivered (before ++ [r]) n
  pages : r.event = .fetch → ∃ n next page, CursorAt generation r.state.cursor n ∧
    CursorAt generation r.next.cursor next ∧ r.effects = [.page page] ∧
    PageSpec r.state.log n next page

theorem alarmCursor (generation : Text) (some_ : generation ≠ []) (plain : '.' ∉ generation)
    (events : List (Event α)) (int64 : events.length < 2 ^ 63) {before after : List (Turn α)}
    {r : Turn α} (cut : rounds step (start generation) events = before ++ r :: after) :
    Follows generation before r := by
  have fresh : Good generation [] (start generation : Client α) :=
    ⟨⟨rfl,rfl,by simp [addedIn,start,number]⟩,0,.inl ⟨rfl,rfl⟩,Nat.le_refl _,
      ⟨List.Pairwise.nil,nofun,nofun,nofun⟩⟩
  obtain ⟨good,same⟩ := roundsHistory (P := fun past s => past.length < 2 ^ 63 →
    Good generation past s) (fun _ => fresh) (goodStep some_ plain) cut
  have size := congrArg List.length (roundsEvents step (start generation) events)
  rw [cut] at size
  simp only [List.map_append,List.length_append,List.length_map,List.length_cons] at size
  have few := addedShort before
  have next := goodStep some_ plain before r.state r.event good
    (by rw [List.length_append,List.length_singleton]; omega)
  have good := good (by rw [List.nil_append]; omega)
  rw [List.nil_append] at good
  obtain ⟨s,e,t,effects⟩ := r
  simp only [Round.of,Round.mk.injEq,true_and] at same
  obtain ⟨rfl,rfl⟩ := same
  obtain ⟨m,now,known,delivered⟩ := next.cursor
  refine ⟨next.log,⟨m,now,next.log.latest ▸ known,delivered⟩,?_⟩
  rintro rfl
  obtain ⟨n,behind,page,stands,_,spec,fetched⟩ := fetchSpec some_ plain good (by omega)
  refine ⟨n,behind,page,stands,?_,?_,spec⟩
  · simp only [fetched]
    exact .inr rfl
  · simp only [fetched]

def sampleAlarms : List (Event Nat) := [.add 7,.fetch,.add 8,.add 9,.fetch,.fetch]

theorem sampleFollows : (rounds step (start ['g']) sampleAlarms).map
      (fun r => r.effects.flatMap Effect.records) = [[],[⟨1,7⟩],[],[],[⟨2,8⟩,⟨3,9⟩],[]] ∧
    ∀ before r after, rounds step (start ['g']) sampleAlarms = before ++ r :: after →
      Follows ['g'] before r :=
  ⟨by decide +kernel,fun _ _ _ cut =>
    alarmCursor ['g'] (by decide) (by decide) sampleAlarms (by decide) cut⟩

end MediaServer.AlarmLog
