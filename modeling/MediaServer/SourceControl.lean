import MediaServer.SessionReach
import MediaServer.StreamStock

/-! source_control_http.go, rtsp_pull_session.go: startSource, stopSource and stopPushDevice
exclude each other, so the entry that startSource reserved is the one it confirms or takes
back. -/
namespace MediaServer.Signaling

def sourcing (f : Frame) : Option Frame := if f.part = .source then some f else none

def Frame.Reserved (s : Server) : Frame → Prop
  | .source sourceID (.create streamID) => s.pulls.get sourceID = some ⟨streamID,true⟩
  | .source sourceID .finish | .source sourceID .drop =>
      ∃ streamID, s.pulls.get sourceID = some ⟨streamID,true⟩
  | _ => True

inductive Sourced (s : Server) : List Frame → Prop where
  | free (idle : s.sourceBusy = false) : Sourced s []
  | held (f : Frame) (busy : s.sourceBusy = true) (reserved : f.Reserved s) : Sourced s [f]

inductive PullChange (s t : Server) : Prop where
  | kept (pulls : ∀ d pull, t.pulls.get d = some pull → s.pulls.get d = some pull)
  | reserved (d streamID : String) (unused : streamID ∉ s.drawn) (drawn : streamID ∈ t.drawn)
      (absent : s.pulls.get d = none) (pulls : t.pulls = s.pulls.set d ⟨streamID,true⟩)
  | confirmed (d streamID : String) (here : s.pulls.get d = some ⟨streamID,true⟩)
      (pulls : t.pulls = s.pulls.set d ⟨streamID,false⟩)

section
variable {s t : Server} {tasks tasks' : List (List Frame)} {frame : Option Frame} {out : Outcome}

theorem PullChange.still (same : t.pulls = s.pulls) : PullChange s t :=
  .kept fun _ _ here => by rw [← same]; exact here

theorem PullChange.deleted {d : String} (same : t.pulls = s.pulls.delete d) : PullChange s t := by
  refine .kept fun d' pull here => ?_
  rw [same,Table.getDelete] at here
  split at here <;> try contradiction
  exact here

theorem Frame.Reserved.kept {f : Frame} (reserved : f.Reserved s)
    (pulls : ∀ d streamID, s.pulls.get d = some ⟨streamID,true⟩ → t.pulls.get d = some ⟨streamID,true⟩) :
    f.Reserved t := by
  unfold Frame.Reserved at *
  split at reserved
  · exact pulls _ _ reserved
  · obtain ⟨streamID,here⟩ := reserved; exact ⟨streamID,pulls _ _ here⟩
  · obtain ⟨streamID,here⟩ := reserved; exact ⟨streamID,pulls _ _ here⟩
  · trivial

theorem Sourced.kept {fs : List Frame} (sourced : Sourced s fs) (busy : t.sourceBusy = s.sourceBusy)
    (pulls : ∀ d streamID, s.pulls.get d = some ⟨streamID,true⟩ → t.pulls.get d = some ⟨streamID,true⟩) :
    Sourced t fs := by
  cases sourced with
  | free idle => exact .free (busy.trans idle)
  | held f held reserved => exact .held f (busy.trans held) (reserved.kept pulls)

theorem Unsourced.view (unsourced : Unsourced frame out) (turn : Pool.Turn frame out tasks tasks') :
    Pool.view sourcing tasks' = Pool.view sourcing tasks := by
  obtain ⟨a,b,before,after⟩ := turn.view sourcing
  have old : (frame.bind sourcing).toList = [] := by
    cases frame with
    | none => rfl
    | some f => simp [sourcing,unsourced.old f rfl]
  have next : out.next.filterMap sourcing = [] := by
    rw [List.filterMap_eq_nil_iff]
    intro f mem
    simp [sourcing,unsourced.next f mem]
  have spawned : Pool.view sourcing out.spawned = [] := by
    rw [Pool.view,List.filterMap_eq_nil_iff]
    intro f mem
    obtain ⟨task,inside,mem⟩ := List.mem_flatten.mp mem
    simp [sourcing,unsourced.spawned task inside f mem]
  rw [before,after,old,next,spawned]
  simp

theorem Sourced.runs {f : Frame} (sourced : Sourced s (Pool.view sourcing tasks))
    (part : f.part = .source) (turn : Pool.Turn (some f) out tasks tasks') :
    s.sourceBusy = true ∧ f.Reserved s ∧
      Pool.view sourcing tasks' = out.next.filterMap sourcing ++ Pool.view sourcing out.spawned := by
  obtain ⟨a,b,before,after⟩ := turn.view sourcing
  simp only [Option.bind_some,sourcing,part,if_pos,Option.toList_some] at before
  rw [before] at sourced
  generalize shape : a ++ [f] ++ b = fs at sourced
  cases sourced with
  | free => simp at shape
  | held g busy reserved =>
    cases a with
    | cons x xs => simp at shape
    | nil =>
      simp only [List.nil_append,List.cons_append,List.cons.injEq] at shape
      obtain ⟨same,empty⟩ := shape
      subst same
      subst empty
      exact ⟨busy,reserved,by simpa using after⟩

theorem Sourced.enters {f : Frame} {u : Server} (sourced : Sourced s (Pool.view sourcing tasks))
    (idle : s.sourceBusy = false) (part : f.part = .source) (busy : u.sourceBusy = true)
    (reserved : f.Reserved u) (turn : Pool.Turn none ⟨u,[],[[f]]⟩ tasks tasks') :
    Sourced u (Pool.view sourcing tasks') := by
  obtain ⟨a,b,before,after⟩ := turn.view sourcing
  rw [before] at sourced
  generalize shape : a ++ (Option.bind none sourcing).toList ++ b = fs at sourced
  cases sourced with
  | held g held => exact nomatch idle.symm.trans held
  | free =>
    simp only [Option.bind_none,Option.toList_none,List.append_nil,List.append_eq_nil_iff] at shape
    rw [after,shape.1,shape.2]
    simp only [List.filterMap_nil,List.append_nil,List.nil_append,Pool.viewCons,Pool.viewNil,
      List.filterMap_cons,sourcing,part,if_pos]
    exact .held f busy reserved

theorem sourceTurn {sourceID : String} {stage : SourceStage} {r : Reply}
    (sourced : Sourced s (Pool.view sourcing tasks)) (ok : sourceExec s sourceID r stage = some out)
    (turn : Pool.Turn (some (.source sourceID stage)) out tasks tasks') :
    PullChange s out.shared ∧ Sourced out.shared (Pool.view sourcing tasks') := by
  obtain ⟨busy,reserved,view⟩ := sourced.runs rfl turn
  rw [view,(sourceNext ok).2]
  simp only [Pool.viewNil,List.append_nil]
  cases stage with
  | reserve streamID =>
    simp only [sourceExec] at ok
    split at ok
    · cases Option.some.inj ok; exact ⟨.still rfl,.free rfl⟩
    · rename_i absent
      split at ok <;> try contradiction
      rename_i unused
      cases Option.some.inj ok
      refine ⟨.reserved sourceID streamID unused (List.mem_cons_self ..) absent rfl,.held _ busy ?_⟩
      simp [Frame.Reserved]
  | create streamID =>
    cases Option.some.inj ok
    refine ⟨.still rfl,?_⟩
    by_cases made : r = .ok
    · simp only [made,if_pos]
      exact .held _ busy ⟨streamID,reserved⟩
    · simp only [if_neg made]
      exact .held _ busy ⟨streamID,reserved⟩
  | finish =>
    obtain ⟨streamID,here⟩ := reserved
    simp only [sourceExec,here,Option.getD_some] at ok
    cases Option.some.inj ok
    exact ⟨.confirmed sourceID streamID here rfl,.free rfl⟩
  | drop =>
    simp only [sourceExec] at ok
    split at ok <;> cases Option.some.inj ok
    · exact ⟨.still rfl,.free rfl⟩
    · exact ⟨.deleted rfl,.free rfl⟩
  | take =>
    simp only [sourceExec] at ok
    split at ok <;> cases Option.some.inj ok
    · exact ⟨.still rfl,.free rfl⟩
    · exact ⟨.deleted rfl,.held _ busy trivial⟩
  | delete streamID =>
    cases Option.some.inj ok
    exact ⟨.still rfl,.free rfl⟩

theorem tokenTurn (sourced : Sourced s (Pool.view sourcing tasks)) (effect : TokenEffect s out)
    (turn : Pool.Turn none ⟨out.shared,[],out.spawned⟩ tasks tasks') :
    PullChange s out.shared ∧ Sourced out.shared (Pool.view sourcing tasks') := by
  have quiet {u : Server} (pulls : u.pulls = s.pulls) (busy : u.sourceBusy = s.sourceBusy)
      (turn : Pool.Turn none ⟨u,[],[]⟩ tasks tasks') :
      PullChange s u ∧ Sourced u (Pool.view sourcing tasks') := by
    have unsourced : Unsourced none ⟨u,[],[]⟩ := ⟨nofun,nofun,nofun⟩
    rw [unsourced.view turn]
    exact ⟨.still pulls,sourced.kept busy fun _ _ here => by rw [pulls]; exact here⟩
  cases effect with
  | stopped rows d run fewer here free =>
    exact ⟨.still rfl,sourced.enters (f := .deleteReceiver run.streamID) free rfl rfl trivial turn⟩
  | entered sourceID stage first free =>
    refine ⟨.still rfl,sourced.enters free rfl rfl ?_ turn⟩
    rcases first with same | ⟨streamID,same⟩ <;> subst same <;> trivial
  | _ => exact quiet rfl rfl turn

theorem pullChange (sourced : Sourced s (Pool.view sourcing tasks)) (change : StockChange s frame out)
    (turn : Pool.Turn frame out tasks tasks') :
    PullChange s out.shared ∧ Sourced out.shared (Pool.view sourcing tasks') := by
  have quiet (same : SameSources s out.shared) (unsourced : Unsourced frame out) :
      PullChange s out.shared ∧ Sourced out.shared (Pool.view sourcing tasks') := by
    rw [unsourced.view turn]
    exact ⟨.still same.pulls,sourced.kept same.sourceBusy fun _ _ here => by rw [same.pulls]; exact here⟩
  cases change with
  | turn x f r ran run shared unsourced => exact quiet (by rw [shared]; exact turnSources ran) unsourced
  | born x o fresh unused new shared unsourced => exact quiet (by rw [shared]; exact bornSources ..) unsourced
  | same same unsourced => exact quiet same.toSameSources unsourced
  | call effect =>
    have turned := tokenTurn sourced effect turn
    exact turned
  | source sourceID stage r ok => exact sourceTurn sourced ok turn
  | closed streamID gone =>
    obtain ⟨_,_,view⟩ := sourced.runs rfl turn
    rw [view]
    exact ⟨.still rfl,.free rfl⟩
  | pull p e rest =>
    have unsourced : Unsourced (some (.pass p (.dropPulls (e :: rest))))
        ⟨s.dropEndedPull p e.1 e.2,[.pass p (.dropPulls rest)],[]⟩ := by
      refine ⟨?_,by simp [Frame.part],by simp⟩
      intro f known
      cases Option.some.inj known
      simp [Frame.part]
    rw [unsourced.view turn]
    simp only [Server.dropEndedPull]
    split
    · rename_i pull here
      split
      · exact ⟨.still rfl,sourced⟩
      · rename_i confirmed
        simp only [not_or,Bool.not_eq_true] at confirmed
        refine ⟨.deleted rfl,sourced.kept rfl ?_⟩
        intro d streamID starting
        simp only [Server.record,Server.dropPull,Table.getDelete]
        split
        ·
          rename_i self
          rw [self,here] at starting
          cases Option.some.inj starting
          cases confirmed.2.2
        · exact starting
    · exact ⟨.still rfl,sourced⟩
  | pushes p =>
    have unsourced : Unsourced (some (.pass p .dropPushes))
        ⟨p.pushes.foldl (dropEndedPush p) s,[.pass p .knownLives],[]⟩ := by
      refine ⟨?_,by simp [Frame.part],by simp⟩
      intro f known
      cases Option.some.inj known
      simp [Frame.part]
    have dropped := dropPushesDropped p p.pushes s
    rw [unsourced.view turn]
    refine ⟨.still (by rw [dropped.same]),sourced.kept (by rw [dropped.same]) ?_⟩
    rw [dropped.same]
    exact fun _ _ here => here

end

theorem reachedSourced {s : State} (reached : Reached s) :
    Sourced s.shared (Pool.view sourcing s.tasks) :=
  reached.invariant (P := fun s => Sourced s.shared (Pool.view sourcing s.tasks))
    (fun s boot => by rw [boot.tasks]; exact .free boot.sourceBusy)
    fun s a t sourced ok => by
      obtain ⟨out,ran,same,turn⟩ := stepSection ok
      rw [same]
      exact (pullChange sourced (sectionStock ran) turn).2

end MediaServer.Signaling
