import MediaServer.Transition

/-! Threads over a shared state. A thread is the list of what it has still to do, the
next frame first. Running a frame gives the new shared state, the frames the thread goes
on with and the threads it starts. A view keeps the frames a projection knows, in
order. The file names nothing of the server. -/
namespace MediaServer.Pool

variable {σ φ ι κ : Type*}

structure State (σ φ : Type*) where
  shared : σ
  tasks : List (List φ)

structure Outcome (σ φ : Type*) where
  shared : σ
  next : List φ := []
  spawned : List (List φ) := []

def run (exec : σ → φ → ι → Option (Outcome σ φ)) (s : State σ φ) (i : Nat) (input : ι) :
    Option (State σ φ) :=
  match s.tasks[i]? with
  | some (f :: rest) =>
      (exec s.shared f input).map fun out =>
        ⟨out.shared,s.tasks.set i (out.next ++ rest) ++ out.spawned⟩
  | _ => none

def next (s : State σ φ) (i : Nat) : Option φ := s.tasks[i]?.bind List.head?

theorem nextMem {s : State σ φ} {i : Nat} {f : φ} (runs : next s i = some f) :
    ∃ rest, f :: rest ∈ s.tasks := by
  obtain ⟨task,here,first⟩ := Option.bind_eq_some_iff.mp runs
  obtain ⟨rest,same⟩ := List.head?_eq_some_iff.mp first
  exact ⟨rest,same ▸ List.mem_of_getElem? here⟩

/- One thread's turn. Without a frame it is a call from outside, which only adds threads. -/
inductive Turn : Option φ → Outcome σ φ → List (List φ) → List (List φ) → Prop where
  | frame (f : φ) (out : Outcome σ φ) (before rest after) :
      Turn (some f) out (before ++ (f :: rest) :: after)
        (before ++ (out.next ++ rest) :: (after ++ out.spawned))
  | enter (t : σ) (spawned tasks) : Turn none ⟨t,[],spawned⟩ tasks (tasks ++ spawned)

theorem runTurn {exec : σ → φ → ι → Option (Outcome σ φ)} {s t : State σ φ} {i : Nat} {input : ι}
    (ok : run exec s i input = some t) :
    ∃ f out, next s i = some f ∧ exec s.shared f input = some out ∧ t.shared = out.shared ∧
      Turn (some f) out s.tasks t.tasks := by
  unfold run at ok
  split at ok <;> try contradiction
  rename_i f rest at_i
  obtain ⟨out,ran,same⟩ := Option.map_eq_some_iff.mp ok
  subst same
  obtain ⟨short,here⟩ := List.getElem?_eq_some_iff.mp at_i
  refine ⟨f,out,by simp [next,at_i],ran,rfl,?_⟩
  have parts : s.tasks = s.tasks.take i ++ (f :: rest) :: s.tasks.drop (i + 1) := by
    rw [← here,List.getElem_cons_drop,List.take_append_drop]
  have turned := Turn.frame f out (s.tasks.take i) rest (s.tasks.drop (i + 1))
  rw [← parts] at turned
  simpa [List.set_eq_take_append_cons_drop,short] using turned

def view (p : φ → Option κ) (tasks : List (List φ)) : List κ := tasks.flatten.filterMap p

@[simp] theorem viewNil (p : φ → Option κ) : view p [] = [] := rfl

@[simp] theorem viewAppend (p : φ → Option κ) (a b : List (List φ)) :
    view p (a ++ b) = view p a ++ view p b := by simp [view]

@[simp] theorem viewCons (p : φ → Option κ) (task : List φ) (tasks : List (List φ)) :
    view p (task :: tasks) = task.filterMap p ++ view p tasks := by simp [view]

variable {frame : Option φ} {out : Outcome σ φ} {tasks tasks' : List (List φ)} {p : φ → Option κ}

theorem Turn.view (turn : Turn frame out tasks tasks') (p : φ → Option κ) :
    ∃ a b, view p tasks = a ++ (frame.bind p).toList ++ b ∧
      Pool.view p tasks' = a ++ out.next.filterMap p ++ b ++ Pool.view p out.spawned := by
  cases turn with
  | frame f out before rest after =>
    refine ⟨Pool.view p before,rest.filterMap p ++ Pool.view p after,?_,?_⟩
    · cases known : p f <;> simp [known]
    · simp
  | enter t spawned tasks => exact ⟨Pool.view p tasks,[],by simp,by simp⟩

theorem Turn.viewMore (turn : Turn frame out tasks tasks') (old : frame.bind p = none)
    (next : out.next.filterMap p = []) :
    Pool.view p tasks' = Pool.view p tasks ++ Pool.view p out.spawned := by
  obtain ⟨a,b,before,after⟩ := turn.view p
  rw [old] at before
  rw [next] at after
  rw [before,after]
  simp

theorem Turn.viewMem (turn : Turn frame out tasks tasks') {y : κ} (mem : y ∈ Pool.view p tasks') :
    y ∈ Pool.view p tasks ∨ y ∈ out.next.filterMap p ∨ y ∈ Pool.view p out.spawned := by
  obtain ⟨a,b,before,after⟩ := turn.view p
  rw [after] at mem
  rw [before]
  simp only [List.mem_append] at mem ⊢
  rcases mem with ((first | new) | last) | spawned
  · exact .inl (.inl (.inl first))
  · exact .inr (.inl new)
  · exact .inl (.inr last)
  · exact .inr (.inr spawned)

theorem viewEmpty (blind : ∀ task ∈ tasks, ∀ f ∈ task, p f = none) : view p tasks = [] := by
  rw [view,List.filterMap_eq_nil_iff]
  intro f mem
  obtain ⟨task,inside,here⟩ := List.mem_flatten.mp mem
  exact blind task inside f here

theorem Turn.mem (turn : Turn frame out tasks tasks') {task : List φ} (mem : task ∈ tasks') :
    task ∈ tasks ∨ task ∈ out.spawned ∨
      ∃ f rest, frame = some f ∧ f :: rest ∈ tasks ∧ task = out.next ++ rest := by
  cases turn with
  | frame f out before rest after =>
    simp only [List.mem_append,List.mem_cons] at mem ⊢
    rcases mem with old | moved | old | new
    · exact .inl (.inl old)
    · exact .inr (.inr ⟨f,rest,rfl,.inr (.inl rfl),moved⟩)
    · exact .inl (.inr (.inr old))
    · exact .inr (.inl new)
  | enter t spawned tasks =>
    rcases List.mem_append.mp mem with old | new
    · exact .inl old
    · exact .inr (.inl new)

end MediaServer.Pool
