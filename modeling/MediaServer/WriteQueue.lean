import Mathlib.Algebra.Order.Ring.Int
import Mathlib.Algebra.BigOperators.Group.List.Basic

/-! Output queues that count their bytes and hand their front to a writer. A queue that is asked for
more than it has gives nothing back, so that an underflow shows. The file names nothing of the
server. -/
namespace MediaServer.WriteQueue

variable {α : Type}

structure Queue (α : Type) where
  items : List α := []
  bytes : Nat := 0
  deriving DecidableEq, Repr

def total (size : α → Nat) (items : List α) : Nat := (items.map size).sum

@[simp] theorem totalNil (size : α → Nat) : total size [] = 0 := rfl

@[simp] theorem totalCons (size : α → Nat) (a : α) (items : List α) :
    total size (a :: items) = size a + total size items := by simp [total]

@[simp] theorem totalAppend (size : α → Nat) (first last : List α) :
    total size (first ++ last) = total size first + total size last := by simp [total]

def Queue.push (size : α → Nat) (q : Queue α) (a : α) : Queue α :=
  ⟨q.items ++ [a],q.bytes + size a⟩

def Queue.popBy (amount : Nat) (q : Queue α) : Option (Queue α) :=
  match q.items with
  | [] => none
  | _ :: rest => if q.bytes < amount then none else some ⟨rest,q.bytes - amount⟩

def Queue.pop (size : α → Nat) (q : Queue α) : Option (Queue α) :=
  match q.items with
  | [] => none
  | front :: _ => q.popBy (size front)

def Queue.popMany (size : α → Nat) : Nat → Queue α → Option (Queue α)
  | 0, q => some q
  | n + 1, q => (q.pop size).bind (popMany size n)

def Queue.Counted (size : α → Nat) (q : Queue α) : Prop := q.bytes = total size q.items

section Counted
variable {size : α → Nat} {q : Queue α}

theorem countedPush (counted : q.Counted size) (a : α) : (q.push size a).Counted size := by
  unfold Queue.Counted at counted
  simp [Queue.Counted,Queue.push,counted]

theorem countedFront {front : α} {rest : List α} (counted : q.Counted size)
    (items : q.items = front :: rest) : q.bytes = size front + total size rest := by
  unfold Queue.Counted at counted
  rw [counted,items,totalCons]

theorem popByFront {front : α} {rest : List α} (counted : q.Counted size)
    (items : q.items = front :: rest) :
    q.popBy (size front) = some ⟨rest,total size rest⟩ := by
  have bytes := countedFront counted items
  unfold Queue.popBy
  rw [items]
  dsimp only
  rw [if_neg (by omega),bytes,Nat.add_sub_cancel_left]

theorem popFront {front : α} {rest : List α} (counted : q.Counted size)
    (items : q.items = front :: rest) : q.pop size = some ⟨rest,total size rest⟩ := by
  unfold Queue.pop
  rw [items]
  exact popByFront counted items

theorem popBatch {batch rest : List α} (counted : q.Counted size)
    (items : q.items = batch ++ rest) :
    q.popMany size batch.length = some ⟨rest,total size rest⟩ := by
  induction batch generalizing q with
  | nil =>
    obtain ⟨kept,bytes⟩ := q
    unfold Queue.Counted at counted
    simp only [List.nil_append] at items
    subst items
    rw [List.length_nil,Queue.popMany]
    exact congrArg (fun bytes => some (Queue.mk kept bytes)) counted
  | cons front batch ih =>
    rw [List.length_cons,Queue.popMany,popFront counted items,Option.bind_some]
    exact ih rfl rfl

theorem totalTail (batch rest : List α) :
    total size rest.tail ≤ total size (batch ++ rest).tail := by
  cases batch with
  | nil => exact Nat.le_refl _
  | cons front batch =>
    cases rest with
    | nil => exact Nat.zero_le _
    | cons next rest =>
      simp only [List.tail_cons,List.cons_append,totalAppend,totalCons]
      omega

end Counted

theorem onlyFlight {flight : List α} (one : flight.length ≤ 1) {i : Nat} {a : α}
    (there : flight[i]? = some a) : flight = [a] ∧ flight.eraseIdx i = [] := by
  obtain ⟨inside,here⟩ := List.getElem?_eq_some_iff.mp there
  have first : i = 0 := by omega
  subst first
  obtain ⟨other,single⟩ := List.length_eq_one_iff.mp (show flight.length = 1 by omega)
  simp only [single,List.getElem_cons_zero] at here
  subst here
  exact ⟨single,by rw [single]; rfl⟩

/- What was accepted and what was handed over differ by the part of the queue behind the batch
that was handed over last. -/
def Pending (accepted handed items : List α) (inFlight : List (List α)) : Prop :=
  ∃ batch rest, items = batch ++ rest ∧ accepted = handed ++ rest ∧
    (inFlight = [batch] ∨ inFlight = [])

section Pending
variable {accepted handed items : List α} {inFlight : List (List α)}

theorem pendingPush (pending : Pending accepted handed items inFlight) (a : α) :
    Pending (accepted ++ [a]) handed (items ++ [a]) inFlight := by
  obtain ⟨batch,rest,rfl,rfl,flight⟩ := pending
  exact ⟨batch,rest ++ [a],by simp,by simp,flight⟩

theorem pendingEmpty (pending : Pending accepted handed [] inFlight) : accepted = handed := by
  obtain ⟨batch,rest,empty,rfl,-⟩ := pending
  rw [(List.append_eq_nil_iff.mp empty.symm).2,List.append_nil]

theorem pendingBatch {batch : List α} (pending : Pending accepted handed items [batch]) :
    ∃ rest, items = batch ++ rest ∧ accepted = handed ++ rest := by
  obtain ⟨_,rest,whole,split,same | never⟩ := pending
  · cases same
    exact ⟨rest,whole,split⟩
  · cases never

theorem pendingDropped (pending : Pending accepted handed items inFlight) :
    Pending accepted handed items [] := by
  obtain ⟨batch,rest,whole,split,-⟩ := pending
  exact ⟨batch,rest,whole,split,.inr rfl⟩

theorem pendingPrefix (pending : Pending accepted handed items inFlight) : handed <+: accepted := by
  obtain ⟨_,rest,-,split,-⟩ := pending
  exact ⟨rest,split.symm⟩

theorem pendingFront (pending : Pending accepted handed items inFlight) :
    inFlight.length ≤ 1 ∧ ∀ batch ∈ inFlight, batch <+: items := by
  obtain ⟨batch,rest,whole,-,flight | flight⟩ := pending
  · subst flight
    refine ⟨Nat.le_refl _,fun other member => ?_⟩
    cases List.mem_singleton.mp member
    exact ⟨rest,whole.symm⟩
  · subst flight
    exact ⟨Nat.zero_le _,nofun⟩

theorem pendingIdle (split : accepted = handed ++ items) : Pending accepted handed items [] :=
  ⟨[],items,rfl,split,.inr rfl⟩

end Pending

end MediaServer.WriteQueue
