import Mathlib.Data.List.AList

/-! Finite maps with the operations of a map that is read, written, deleted from
and ranged over. They are association lists with distinct keys; lookups are stated
with one conditional so that the caller's key comparison decides them. -/
namespace MediaServer

abbrev Table (K V : Type*) := AList fun _ : K => V

namespace Table

variable {K V : Type*} [DecidableEq K]

def get (t : Table K V) (k : K) : Option V := AList.lookup k t
def set (t : Table K V) (k : K) (v : V) : Table K V := AList.insert k v t
def delete (t : Table K V) (k : K) : Table K V := AList.erase k t

def entries (t : Table K V) : List (K × V) := (AList.entries t).map fun e => (e.1,e.2)

def deleteFunc (t : Table K V) (drop : K → V → Bool) : Table K V :=
  ⟨(AList.entries t).filter (fun e => !drop e.1 e.2),
    t.nodupKeys.sublist List.filter_sublist⟩

@[simp, grind =] theorem getEmpty (k : K) : get (∅ : Table K V) k = none := rfl

@[simp, grind =] theorem getSet (t : Table K V) (k k' : K) (v : V) :
    get (set t k v) k' = if k' = k then some v else get t k' := by
  by_cases same : k' = k
  · subst same; simp [get,set]
  · simp [get,set,same,AList.lookup_insert_ne same]

@[simp, grind =] theorem getDelete (t : Table K V) (k k' : K) :
    get (delete t k) k' = if k' = k then none else get t k' := by
  by_cases same : k' = k
  · subst same; simp [get,delete]
  · simp [get,delete,same,AList.lookup_erase_ne same]

@[grind =] theorem memEntries {t : Table K V} {k : K} {v : V} :
    (k,v) ∈ entries t ↔ get t k = some v := by
  rw [get,← Option.mem_def,AList.mem_lookup_iff,entries,List.mem_map]
  constructor
  · rintro ⟨⟨a,b⟩,mem,same⟩
    cases same
    exact mem
  · intro mem
    exact ⟨⟨k,v⟩,mem,rfl⟩

@[simp, grind =] theorem getDeleteFunc (t : Table K V) (drop : K → V → Bool) (k : K) :
    get (deleteFunc t drop) k = (get t k).filter fun v => !drop k v := by
  ext v
  have filtered : get (deleteFunc t drop) k = some v ↔ get t k = some v ∧ drop k v = false := by
    rw [get,← Option.mem_def,AList.mem_lookup_iff,get,← Option.mem_def,AList.mem_lookup_iff]
    simp [deleteFunc]
  rw [filtered,Option.filter_eq_some_iff]
  simp

omit [DecidableEq K] in
theorem keysNodup (t : Table K V) : ((entries t).map Prod.fst).Nodup := by
  have keys := t.nodupKeys
  simpa [entries,List.NodupKeys,List.keys,List.map_map,Function.comp_def] using keys

end Table
end MediaServer
