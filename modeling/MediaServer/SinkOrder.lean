import MediaServer.SinkMove
import MediaServer.SinkLane

/-! Every reachable state is orderly: the names it holds belong to groups of the
right worker, a call walks each group once, and a sink appears only in the group it
was added to. The lane of a group is read off such a state. -/
namespace MediaServer.SinkDispatcher

variable {Frame Sink Worker Id : Type} [DecidableEq Sink] [DecidableEq Worker] [DecidableEq Id]

def Call.pairs : Call Frame Sink Worker Id → List (Worker × Id)
  | .remove _ rest | .ending rest | .endDirect _ _ rest | .endPost _ rest => rest
  | _ => []

def Call.rest : Call Frame Sink Worker Id → List Id
  | .publish _ rest _ | .publishDirect _ _ _ rest _ | .publishPost _ _ rest _ => rest
  | _ => []

def Call.spilled : Call Frame Sink Worker Id → List Id
  | .publish _ _ spilled | .publishDirect _ _ _ _ spilled | .publishPost _ _ _ spilled => spilled
  | _ => []

def Call.ends : Call Frame Sink Worker Id → Bool
  | .ending _ | .endDirect _ _ _ | .endPost _ _ => true
  | _ => false

def Call.posting : Call Frame Sink Worker Id → Option Id
  | .publishPost g _ _ _ | .endPost g _ => some g
  | _ => none

def Call.direct : Call Frame Sink Worker Id → Option (Id × List Sink)
  | .publishDirect _ g sinks _ _ | .endDirect g sinks _ => some (g,sinks)
  | _ => none

def Drain.sinks : Drain Frame Sink → List Sink
  | .callbacks _ sinks => sinks
  | _ => []

def State.workerOf (s : State Frame Sink Worker Id) (g : Id) : Option Worker :=
  (s.groups g).map (·.worker)

section
omit [DecidableEq Sink] [DecidableEq Worker] [DecidableEq Id]
variable {queued : Bool} {g : Id} {f : Frame} {rest spilled : List Id} {pairs : List (Worker × Id)}

@[simp] theorem publishNextPairs :
    (publishNext queued g f rest spilled : Call Frame Sink Worker Id).pairs = [] := by
  cases queued <;> rfl
@[simp] theorem publishNextRest :
    (publishNext queued g f rest spilled : Call Frame Sink Worker Id).rest = rest := by
  cases queued <;> rfl
@[simp] theorem publishNextSpilled :
    (publishNext queued g f rest spilled : Call Frame Sink Worker Id).spilled = spilled := by
  cases queued <;> rfl
@[simp] theorem publishNextEnds :
    (publishNext queued g f rest spilled : Call Frame Sink Worker Id).ends = false := by
  cases queued <;> rfl
@[simp] theorem publishNextDirect :
    (publishNext queued g f rest spilled : Call Frame Sink Worker Id).direct = none := by
  cases queued <;> rfl
@[simp] theorem publishNextPosting :
    (publishNext queued g f rest spilled : Call Frame Sink Worker Id).posting =
      if queued then none else some g := by
  cases queued <;> rfl
@[simp] theorem endNextPairs :
    (endNext queued g pairs : Call Frame Sink Worker Id).pairs = pairs := by cases queued <;> rfl
@[simp] theorem endNextRest :
    (endNext queued g pairs : Call Frame Sink Worker Id).rest = [] := by cases queued <;> rfl
@[simp] theorem endNextSpilled :
    (endNext queued g pairs : Call Frame Sink Worker Id).spilled = [] := by cases queued <;> rfl
@[simp] theorem endNextEnds :
    (endNext queued g pairs : Call Frame Sink Worker Id).ends = true := by cases queued <;> rfl
@[simp] theorem endNextDirect :
    (endNext queued g pairs : Call Frame Sink Worker Id).direct = none := by cases queued <;> rfl
@[simp] theorem endNextPosting :
    (endNext queued g pairs : Call Frame Sink Worker Id).posting =
      if queued then none else some g := by
  cases queued <;> rfl
end

structure Orderly (s : State Frame Sink Worker Id) : Prop where
  entry : ∀ w g, s.sinkGroups.get w = some g → s.workerOf g = some w
  queued : ∀ w g, g ∈ s.queue w → s.workerOf g = some w ∧ w ≠ s.owner
  runs : ∀ w g d, s.running w = some (g,d) → s.workerOf g = some w ∧ w ≠ s.owner
  pair : ∀ w g, (w,g) ∈ s.call.pairs → s.workerOf g = some w
  keys : (s.call.pairs.map Prod.fst).Nodup
  removing : s.call.ends = false → ∀ w g, (w,g) ∈ s.call.pairs → s.sinkGroups.get w = some g
  ended : s.call.ends = true → ∀ w, s.sinkGroups.get w = none
  visits : (s.call.rest ++ s.call.spilled).Nodup
  visited : ∀ g, g ∈ s.call.rest ++ s.call.spilled → ∃ w, s.sinkGroups.get w = some g
  posting : ∀ g, s.call.posting = some g → ∃ w, s.workerOf g = some w ∧ w ≠ s.owner
  direct : ∀ g sinks, s.call.direct = some (g,sinks) → s.workerOf g = some s.owner
  members : ∀ g G x, s.groups g = some G → x ∈ G.sinks → s.home x = some g
  called : ∀ w g d x, s.running w = some (g,d) → x ∈ d.sinks → s.home x = some g
  directs : ∀ g sinks x, s.call.direct = some (g,sinks) → x ∈ sinks → s.home x = some g
  homes : ∀ x g, s.home x = some g → ∃ w, s.workerOf g = some w
  unseen : ∀ x, s.home x = none → s.log x = []

omit [DecidableEq Sink] [DecidableEq Worker] in
theorem updateWorker {groups : Id → Option (SinkGroup Frame Sink Worker)} {g h : Id}
    {group group' : SinkGroup Frame Sink Worker} (found : groups g = some group)
    (same : group'.worker = group.worker) :
    (Function.update groups g (some group') h).map (·.worker) = (groups h).map (·.worker) := by
  by_cases this : h = g
  · subst h; simp [found,same]
  · simp [this]

variable {s : State Frame Sink Worker Id}

omit [DecidableEq Sink] in
theorem eraseOverflowedGet {spilled : List Id} {w : Worker} {g : Id} {table : Table Worker Id} :
    (eraseOverflowed s spilled table).get w = some g ↔
      table.get w = some g ∧ ¬ (g ∈ spilled ∧ s.workerOf g = some w) := by
  induction spilled generalizing table with
  | nil => simp [eraseOverflowed]
  | cons h rest ih =>
    rw [eraseOverflowed,ih]
    unfold State.workerOf
    grind

omit [DecidableEq Sink] [DecidableEq Worker] [DecidableEq Id] in
theorem idsNodup {order : List (Worker × Id)} (keys : (order.map Prod.fst).Nodup)
    (known : ∀ w g, (w,g) ∈ order → s.workerOf g = some w) : (order.map Prod.snd).Nodup := by
  have same : (order.map Prod.snd).map s.workerOf = (order.map Prod.fst).map some := by
    simp only [List.map_map]
    exact List.map_congr_left fun e mem => known e.1 e.2 mem
  exact List.Nodup.of_map s.workerOf (same ▸ keys.map fun _ _ => Option.some.inj)

section
variable {s t : State Frame Sink Worker Id} (o : Orderly s) (move : Move s t)
include move

theorem moveOwner : t.owner = s.owner := by cases move <;> rfl

theorem moveWorker {g : Id} {w : Worker} (known : s.workerOf g = some w) :
    t.workerOf g = some w := by
  cases move
  case addNew x w' g' _ _ _ _ unused =>
    have apart : g ≠ g' := by
      intro same; subst g; simp [State.workerOf,unused] at known
    simpa [State.workerOf,State.setGroup,apart] using known
  case addOld found | removeAt found _ _ | publishTake found _ | publishQueue found _ _ _
      | publishFull found _ _ _ | endTake found _ | endMark found _ | drainFrame found _
      | drainLast found _ _ | drainStop found _ _ | drainSnapshot found =>
    exact (updateWorker found (by rfl)).trans known
  all_goals exact known

variable {x : Sink}

theorem homeMove {g : Id} (known : s.home x = some g) : t.home x = some g := by
  cases move
  case addOld y _ _ _ _ unseen _ _ _ | addNew y _ _ _ unseen _ _ _ =>
    have apart : x ≠ y := by rintro rfl; simp [unseen] at known
    simpa [State.setGroup,apart] using known
  all_goals exact known

include o

theorem entryMove {w : Worker} {g : Id} (found : t.sinkGroups.get w = some g) :
    t.workerOf g = some w := by
  have old (before : s.sinkGroups.get w = some g) := moveWorker move (o.entry w g before)
  cases move
  case addNew x w' g' _ _ _ _ unused =>
    simp only [Table.getSet] at found
    split at found
    · cases Option.some.inj found
      subst w'
      simp [State.workerOf,State.setGroup]
    · exact old found
  case removeAt sinks _ =>
    cases empty : sinks.isEmpty <;> simp only [empty] at found
    · exact old found
    · simp at found; exact old found.2
  case publishEnd => exact old (eraseOverflowedGet.mp found).1
  case endStart => simp at found
  all_goals exact old found

theorem queuedMove {w : Worker} {g : Id} (found : g ∈ t.queue w) :
    t.workerOf g = some w ∧ w ≠ t.owner := by
  rw [moveOwner move]
  have old (before : g ∈ s.queue w) : t.workerOf g = some w ∧ w ≠ s.owner :=
    ⟨moveWorker move (o.queued w g before).1,(o.queued w g before).2⟩
  have posted {w'} {h : Id} (known : s.workerOf h = some w' ∧ w' ≠ s.owner)
      (mem : g ∈ Function.update s.queue w' (s.queue w' ++ [h]) w) :
      t.workerOf g = some w ∧ w ≠ s.owner := by
    by_cases this : w = w'
    · subst this
      rw [Function.update_self,List.mem_append,List.mem_singleton] at mem
      rcases mem with mem | rfl
      · exact old mem
      · exact ⟨moveWorker move known.1,known.2⟩
    · rw [Function.update_of_ne this] at mem
      exact old mem
  cases move
  case publishPost g' f rest spilled group atCall found' =>
    obtain ⟨w',known,other⟩ := o.posting g' (by rw [atCall]; rfl)
    obtain rfl : group.worker = w' := by simpa [State.workerOf,found'] using known
    exact posted ⟨known,other⟩ found
  case endPost g' rest group atCall found' =>
    obtain ⟨w',known,other⟩ := o.posting g' (by rw [atCall]; rfl)
    obtain rfl : group.worker = w' := by simpa [State.workerOf,found'] using known
    exact posted ⟨known,other⟩ found
  case drainRepost w' g' f group atRun found' =>
    have known := o.runs w' g' _ atRun
    obtain rfl : group.worker = w' := by simpa [State.workerOf,found'] using known.1
    exact posted known found
  case start w' g' rest free queue =>
    apply old
    by_cases this : w = w'
    · subst this
      have mem : g ∈ rest := by simpa using found
      simp [queue,mem]
    · simpa [this] using found
  all_goals exact old found

variable {d : Drain Frame Sink} {sinks : List Sink}

theorem runsMove {w : Worker} {g : Id} (found : t.running w = some (g,d)) :
    t.workerOf g = some w ∧ w ≠ t.owner := by
  rw [moveOwner move]
  have old {d'} (before : s.running w = some (g,d')) : t.workerOf g = some w ∧ w ≠ s.owner :=
    ⟨moveWorker move (o.runs w g d' before).1,(o.runs w g d' before).2⟩
  have other {w'} {h : Id} {d' d'' : Drain Frame Sink} (was : s.running w' = some (h,d'))
      (now : Function.update s.running w' (some (h,d'')) w = some (g,d)) :
      t.workerOf g = some w ∧ w ≠ s.owner := by
    by_cases this : w = w'
    · subst this
      obtain ⟨rfl,-⟩ : h = g ∧ d'' = d := by simpa using now
      exact old was
    · rw [Function.update_of_ne this] at now
      exact old now
  have stopped {w'} (now : Function.update s.running w' none w = some (g,d)) :
      t.workerOf g = some w ∧ w ≠ s.owner := by
    by_cases this : w = w'
    · simp [this] at now
    · rw [Function.update_of_ne this] at now
      exact old now
  cases move
  case start w' g' rest free queue =>
    by_cases this : w = w'
    · subst this
      obtain ⟨rfl,-⟩ : g' = g ∧ Drain.loop = d := by simpa [State.runs] using found
      have known := o.queued w g' (by simp [queue])
      exact ⟨known.1,known.2⟩
    · exact old (by simpa [State.runs,this] using found)
  case drainFrame atRun _ _ | drainLast atRun _ _ _ | drainSnapshot atRun _ | drainCall atRun
      | drainAgain atRun => exact other atRun found
  case drainStop | drainEnded | drainRepost => exact stopped found
  all_goals exact old found

theorem pairMove {w : Worker} {g : Id} (found : (w,g) ∈ t.call.pairs) : t.workerOf g = some w := by
  have old (before : (w,g) ∈ s.call.pairs) := moveWorker move (o.pair w g before)
  have entry (before : s.sinkGroups.get w = some g) := moveWorker move (o.entry w g before)
  cases move
  case removeStart perm | endStart perm => exact entry (Table.memEntries.mp (perm.mem_iff.mp found))
  case removeAt atCall _ _ _ => exact old (by rw [atCall]; exact List.mem_cons_of_mem _ found)
  case endTake atCall _ _ => exact old (by rw [atCall]; exact List.mem_cons_of_mem _ found)
  case endMark atCall _ _ =>
    have mem := by simpa [State.goto] using found
    exact old (by rw [atCall]; exact List.mem_cons_of_mem _ mem)
  case endDirectDone atCall | endDirectCall atCall | endPost atCall _ =>
    exact old (by rw [atCall]; exact found)
  case publishQueue | publishFull => simp [State.goto] at found
  case addOld | addNew | start | drainFrame | drainLast | drainStop | drainSnapshot | drainCall
      | drainEnded | drainRepost | drainAgain | expire => exact old found
  all_goals exact nomatch found

theorem keysMove : (t.call.pairs.map Prod.fst).Nodup := by
  have keys := o.keys
  cases move
  case removeStart perm | endStart perm => exact (perm.map Prod.fst).nodup_iff.mpr (Table.keysNodup _)
  case removeAt atCall _ _ _ => rw [atCall] at keys; exact (List.nodup_cons.mp keys).2
  case endTake atCall _ _ => rw [atCall] at keys; exact (List.nodup_cons.mp keys).2
  case endMark atCall _ _ =>
    rw [atCall] at keys
    simpa [State.goto] using (List.nodup_cons.mp keys).2
  case endDirectDone atCall | endDirectCall atCall | endPost atCall _ => rw [atCall] at keys; exact keys
  case publishQueue | publishFull => simp [State.goto]
  case addOld | addNew | start | drainFrame | drainLast | drainStop | drainSnapshot | drainCall
      | drainEnded | drainRepost | drainAgain | expire => exact keys
  all_goals exact List.nodup_nil

theorem removingMove (stays : t.call.ends = false) {w : Worker} {g : Id}
    (found : (w,g) ∈ t.call.pairs) : t.sinkGroups.get w = some g := by
  cases move
  case removeStart perm => exact Table.memEntries.mp (perm.mem_iff.mp found)
  case removeAt x w' g' rest group atCall _ sinks _ =>
    have keys := o.keys
    rw [atCall] at keys
    have apart : w ≠ w' := by
      rintro rfl
      exact (List.nodup_cons.mp keys).1 (List.mem_map.mpr ⟨(w,g),found,rfl⟩)
    have old := o.removing (by rw [atCall]; rfl) w g (by rw [atCall]; exact List.mem_cons_of_mem _ found)
    split <;> simp [apart,old]
  case endStart | endTake | endDirectDone | endDirectCall | endPost => exact nomatch stays
  case endMark => simp [State.goto] at stays
  case publishQueue | publishFull => simp [State.goto] at found
  case addOld idle _ _ _ _ => simp [State.setGroup,idle,Call.pairs] at found
  case addNew idle _ _ _ _ => simp [State.setGroup,idle,Call.pairs] at found
  case start | drainFrame | drainLast | drainStop | drainSnapshot | drainCall
      | drainEnded | drainRepost | drainAgain | expire => exact o.removing stays w g found
  all_goals exact nomatch found

theorem endedMove (ends : t.call.ends = true) (w : Worker) : t.sinkGroups.get w = none := by
  cases move
  case endStart => simp
  case endTake atCall _ _ | endMark atCall _ _ | endDirectDone atCall | endDirectCall atCall
      | endPost atCall _ => exact o.ended (by rw [atCall]; rfl) w
  case publishQueue | publishFull => simp [State.goto] at ends
  case addOld idle _ _ _ _ | addNew idle _ _ _ _ => simp [State.setGroup,idle,Call.ends] at ends
  case start | drainFrame | drainLast | drainStop | drainSnapshot | drainCall
      | drainEnded | drainRepost | drainAgain | expire => exact o.ended ends w
  all_goals exact nomatch ends

theorem visitsMove : (t.call.rest ++ t.call.spilled).Nodup := by
  have visits := o.visits
  cases move
  case publishStart order _ perm =>
    have keys := (perm.map Prod.fst).nodup_iff.mpr (Table.keysNodup _)
    have known w g (mem : (w,g) ∈ order) := o.entry w g (Table.memEntries.mp (perm.mem_iff.mp mem))
    simpa [State.goto,Call.rest,Call.spilled] using idsNodup keys known
  case publishTake atCall _ _ | publishSkip atCall _ _ _ =>
    rw [atCall] at visits
    exact (List.nodup_cons.mp visits).2
  case publishQueue rest spilled group atCall _ _ _ _ =>
    rw [atCall] at visits
    have tail : (rest ++ spilled).Nodup := (List.nodup_cons.mp visits).2
    simpa [State.goto] using tail
  case publishFull g rest spilled group atCall _ _ _ _ =>
    rw [atCall] at visits
    have moved : (rest ++ (spilled ++ [g])).Perm (g :: (rest ++ spilled)) := by
      rw [← List.append_assoc]
      exact List.perm_append_singleton g (rest ++ spilled)
    simpa [State.goto] using moved.nodup_iff.mpr visits
  case directDone atCall | directCall atCall | publishPost atCall _ => rw [atCall] at visits; exact visits
  case endMark => simp [State.goto]
  case addOld | addNew | start | drainFrame | drainLast | drainStop | drainSnapshot | drainCall
      | drainEnded | drainRepost | drainAgain | expire => exact visits
  all_goals exact List.nodup_nil

theorem visitedMove {g : Id} (found : g ∈ t.call.rest ++ t.call.spilled) :
    ∃ w, t.sinkGroups.get w = some g := by
  cases move
  case publishStart order _ perm =>
    obtain ⟨w,mem⟩ : ∃ w, (w,g) ∈ order := by simpa [State.goto,Call.rest,Call.spilled] using found
    exact ⟨w,Table.memEntries.mp (perm.mem_iff.mp mem)⟩
  case publishTake atCall _ _ | publishSkip atCall _ _ _ =>
    exact o.visited g (by rw [atCall]; exact List.mem_cons_of_mem _ found)
  case publishQueue atCall _ _ _ _ =>
    have mem := by simpa [State.goto] using found
    exact o.visited g (by rw [atCall]; simp [Call.rest,Call.spilled]; tauto)
  case publishFull atCall _ _ _ _ =>
    have mem := by simpa [State.goto] using found
    exact o.visited g (by rw [atCall]; simp [Call.rest,Call.spilled]; tauto)
  case directDone atCall | directCall atCall | publishPost atCall _ =>
    exact o.visited g (by rw [atCall]; exact found)
  case endMark => simp [State.goto] at found
  case addOld idle _ _ _ _ | addNew idle _ _ _ _ =>
    simp [State.setGroup,idle,Call.rest,Call.spilled] at found
  case start | drainFrame | drainLast | drainStop | drainSnapshot | drainCall
      | drainEnded | drainRepost | drainAgain | expire => exact o.visited g found
  all_goals exact nomatch found

theorem postingMove {g : Id} (found : t.call.posting = some g) :
    ∃ w, t.workerOf g = some w ∧ w ≠ t.owner := by
  rw [moveOwner move]
  have old {w} (before : s.workerOf g = some w) := moveWorker move before
  cases move
  case publishQueue g' _ _ group _ known other _ _ | publishFull g' _ _ group _ known other _ _ =>
    obtain ⟨-,rfl⟩ : group.drainQueued = false ∧ g' = g := by simpa [State.goto] using found
    exact ⟨_,old (by simp [State.workerOf,known]),other⟩
  case endMark w g' _ group atCall known other =>
    obtain ⟨-,rfl⟩ : group.drainQueued = false ∧ g' = g := by simpa [State.goto] using found
    exact ⟨w,old (o.pair w g' (by rw [atCall]; exact List.mem_cons_self)),other⟩
  case addOld idle _ _ _ _ | addNew idle _ _ _ _ =>
    simp [State.setGroup,idle,Call.posting] at found
  case start | drainFrame | drainLast | drainStop | drainSnapshot | drainCall
      | drainEnded | drainRepost | drainAgain | expire =>
    obtain ⟨w,known,other⟩ := o.posting g found
    exact ⟨w,old known,other⟩
  all_goals exact nomatch found

theorem directMove {g : Id} (found : t.call.direct = some (g,sinks)) :
    t.workerOf g = some t.owner := by
  rw [moveOwner move]
  have old (before : s.workerOf g = some s.owner) := moveWorker move before
  cases move
  case publishTake group _ known own =>
    cases found
    exact old (by simp [State.workerOf,known,own])
  case endTake w g' _ group atCall known own =>
    cases found
    exact old (own ▸ o.pair w g (by rw [atCall]; exact List.mem_cons_self))
  case directCall atCall =>
    cases found
    exact old (o.direct _ _ (by rw [atCall]; rfl))
  case endDirectCall atCall =>
    cases found
    exact old (o.direct _ _ (by rw [atCall]; rfl))
  case publishQueue | publishFull | endMark => simp [State.goto] at found
  case addOld idle _ _ _ _ | addNew idle _ _ _ _ =>
    simp [State.setGroup,idle,Call.direct] at found
  case start | drainFrame | drainLast | drainStop | drainSnapshot | drainCall
      | drainEnded | drainRepost | drainAgain | expire => exact old (o.direct g sinks found)
  all_goals exact nomatch found

theorem membersMove {g : Id} {G : SinkGroup Frame Sink Worker} (found : t.groups g = some G)
    (mem : x ∈ G.sinks) : t.home x = some g := by
  have old {G' : SinkGroup Frame Sink Worker} (known : s.groups g = some G')
      (mem' : x ∈ G'.sinks) := homeMove move (o.members g G' x known mem')
  have changed {h : Id} {group group' : SinkGroup Frame Sink Worker}
      (known : s.groups h = some group)
      (now : Function.update s.groups h (some group') g = some G)
      (fewer : x ∈ group'.sinks → x ∈ group.sinks) : t.home x = some g := by
    by_cases this : g = h
    · subst this
      rw [Function.update_self] at now
      cases Option.some.inj now
      exact old known (fewer mem)
    · rw [Function.update_of_ne this] at now
      exact old now mem
  cases move
  case addOld y w g' group _ _ _ _ known =>
    by_cases this : x = y
    · subst this
      by_cases same : g = g'
      · simp [same]
      · have kept : s.groups g = some G := by simpa [State.setGroup,same] using found
        exact old kept mem
    · exact changed known found fun mem' => by simpa [this] using mem'
  case addNew y w g' _ _ _ _ unused =>
    by_cases same : g = g'
    · subst same
      obtain rfl : (⟨w,[y],[],false,false⟩ : SinkGroup Frame Sink Worker) = G := by
        simpa [State.setGroup] using found
      obtain rfl : x = y := by simpa using mem
      simp
    · exact old (by simpa [State.setGroup,same] using found) mem
  case removeAt known _ kept =>
    exact changed known found fun mem' => List.mem_of_mem_filter (kept ▸ mem')
  case publishTake known _ | endTake known _ | drainSnapshot known =>
    exact changed known found List.mem_of_mem_filter
  case publishQueue known _ _ _ | publishFull known _ _ _ | endMark known _
      | drainFrame known _ | drainLast known _ _ | drainStop known _ _ =>
    exact changed known found id
  all_goals exact old found mem

theorem calledMove {w : Worker} {g : Id} (found : t.running w = some (g,d)) (mem : x ∈ d.sinks) :
    t.home x = some g := by
  have old {d'} (before : s.running w = some (g,d')) (mem' : x ∈ d'.sinks) :=
    homeMove move (o.called w g d' x before mem')
  have replaced {w' task} (now : Function.update s.running w' task w = some (g,d))
      (new : w = w' → task = some (g,d) → t.home x = some g) : t.home x = some g := by
    by_cases this : w = w'
    · subst this
      exact new rfl (by simpa using now)
    · rw [Function.update_of_ne this] at now
      exact old now mem
  cases move
  case start | drainAgain | drainFrame | drainLast =>
    refine replaced found fun _ task => ?_
    cases Option.some.inj task
    exact nomatch mem
  case drainStop | drainEnded | drainRepost => exact replaced found fun _ task => nomatch task
  case drainSnapshot known =>
    refine replaced found fun _ task => ?_
    cases Option.some.inj task
    exact o.members g _ x known (List.mem_of_mem_filter mem)
  case drainCall atRun =>
    refine replaced found fun same task => ?_
    subst same
    cases Option.some.inj task
    exact old atRun (List.mem_cons_of_mem _ mem)
  all_goals exact old found mem

theorem directsMove {g : Id} (found : t.call.direct = some (g,sinks)) (mem : x ∈ sinks) :
    t.home x = some g := by
  cases move
  case publishTake known _ | endTake known _ =>
    cases found
    exact o.members g _ x known (List.mem_of_mem_filter mem)
  case directCall atCall | endDirectCall atCall =>
    cases found
    exact o.directs g _ x (by rw [atCall]; rfl) (List.mem_cons_of_mem _ mem)
  case publishQueue | publishFull | endMark => simp [State.goto] at found
  case addOld idle _ _ _ _ | addNew idle _ _ _ _ =>
    simp [State.setGroup,idle,Call.direct] at found
  case start | drainFrame | drainLast | drainStop | drainSnapshot | drainCall
      | drainEnded | drainRepost | drainAgain | expire => exact o.directs g sinks x found mem
  all_goals exact nomatch found

theorem homesMove {g : Id} (found : t.home x = some g) : ∃ w, t.workerOf g = some w := by
  have old (before : s.home x = some g) : ∃ w, t.workerOf g = some w :=
    (o.homes x g before).imp fun _ known => moveWorker move known
  cases move
  case addOld y w' g' group _ _ _ entry _ =>
    by_cases this : x = y
    · subst this
      obtain rfl : g' = g := by simpa using found
      exact ⟨group.worker,by simp [State.workerOf,State.setGroup]⟩
    · exact old (by simpa [this] using found)
  case addNew y w' g' _ _ _ _ _ =>
    by_cases this : x = y
    · subst this
      obtain rfl : g' = g := by simpa using found
      exact ⟨w',by simp [State.workerOf,State.setGroup]⟩
    · exact old (by simpa [this] using found)
  all_goals exact old found

theorem unseenMove (found : t.home x = none) : t.log x = [] := by
  have other {y : Sink} {g : Id} {c : Callback Frame} (known : s.home y = some g)
      (found' : s.home x = none) : Function.update s.log y (s.log y ++ [c]) x = [] := by
    have apart : x ≠ y := by rintro rfl; simp [known] at found'
    rw [Function.update_of_ne apart]
    exact o.unseen x found'
  cases move
  case addOld y _ _ _ _ _ _ _ _ | addNew y _ _ _ _ _ _ _ =>
    by_cases this : x = y
    · subst this; simp at found
    · exact o.unseen x (by simpa [this] using found)
  case directCall atCall | endDirectCall atCall =>
    exact other (o.directs _ _ _ (by rw [atCall]; rfl) List.mem_cons_self) found
  case drainCall atRun => exact other (o.called _ _ _ _ atRun List.mem_cons_self) found
  all_goals exact o.unseen x found

theorem orderlyMove : Orderly t where
  entry _ _ := entryMove o move
  queued _ _ := queuedMove o move
  runs _ _ _ := runsMove o move
  pair _ _ := pairMove o move
  keys := keysMove o move
  removing := removingMove o move
  ended := endedMove o move
  visits := visitsMove o move
  visited _ := visitedMove o move
  posting _ := postingMove o move
  direct _ _ := directMove o move
  members _ _ _ := membersMove o move
  called _ _ _ _ := calledMove o move
  directs _ _ _ := directsMove o move
  homes _ _ := homesMove o move
  unseen _ := unseenMove o move

end

theorem reachedOrderly {owner : Worker} (reached : Reached owner s) : Orderly s := by
  refine reached.invariant ?_ fun _ _ _ o taken => orderlyMove o (stepMove taken)
  rintro _ rfl
  constructor <;> simp [initial,Call.pairs,Call.rest,Call.spilled,Call.ends,Call.posting,Call.direct]

variable {t : State Frame Sink Worker Id}

theorem leadsOwner (leads : Transition.Leads step s t) :
    t.owner = s.owner :=
  leads.kept (P := fun t => t.owner = s.owner) rfl fun _ _ _ same taken =>
    (moveOwner (stepMove taken)).trans same

theorem leadsWorker {g : Id} {w : Worker} (leads : Transition.Leads step s t)
    (known : s.workerOf g = some w) : t.workerOf g = some w :=
  leads.kept (P := fun t => t.workerOf g = some w) known fun _ _ _ same taken =>
    moveWorker (stepMove taken) same

end MediaServer.SinkDispatcher
