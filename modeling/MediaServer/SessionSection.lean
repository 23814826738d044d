import MediaServer.ServerFrames
import MediaServer.SessionGood

/-! What one section of the server does to the sessions. Most sections leave them alone;
the others are listed here, once. -/
namespace MediaServer.Signaling

inductive Section (s : Server) : Option Frame → Outcome → Prop where
  | call (c : Call) {out : Outcome} (ok : call s c = some out) :
      Section s none ⟨out.shared,[],out.spawned⟩
  | frame (f : Frame) (r : Reply) {out : Outcome} (ok : exec s f r = some out) :
      Section s (some f) out
  | world (w : World) {t : Server} (ok : world s w = some t) : Section s none ⟨t,[],[]⟩

theorem stepSection {s t : State} {a : Action} (ok : step s a = some t) :
    ∃ out, Section s.shared (running s a) out ∧ t.shared = out.shared ∧
      Pool.Turn (running s a) out s.tasks t.tasks := by
  cases a with
  | call c =>
    obtain ⟨out,ran,same⟩ := Option.map_eq_some_iff.mp ok
    subst same
    exact ⟨_,.call c ran,rfl,.enter ..⟩
  | run i r =>
    obtain ⟨f,out,here,ran,same,turn⟩ := Pool.runTurn ok
    have running : running s (.run i r) = some f := here
    rw [running]
    exact ⟨out,.frame f r ran,same,turn⟩
  | world w =>
    obtain ⟨u,ran,same⟩ := Option.map_eq_some_iff.mp ok
    subst same
    have turn := Pool.Turn.enter u ([] : List (List Frame)) s.tasks
    rw [List.append_nil] at turn
    exact ⟨_,.world w ran,rfl,turn⟩

def about (x : Sid) : Frame → Option SessionFrame
  | .session y f => if y = x then some f else none
  | _ => none

@[simp] theorem aboutSession (x y : Sid) (f : SessionFrame) :
    about x (.session y f) = if y = x then some f else none := rfl

theorem aboutNext (x y : Sid) (fs : List SessionFrame) :
    (fs.map (Frame.session y)).filterMap (about x) = if y = x then fs else [] := by
  rw [List.filterMap_map]
  split <;> rename_i known <;> simp [Function.comp_def,known]

theorem aboutSpawned (x y : Sid) (fs : List SessionFrame) :
    Pool.view (about x) (fs.map fun f => [Frame.session y f]) = if y = x then fs else [] := by
  have flat : (fs.map fun f => [Frame.session y f]).flatten = fs.map (Frame.session y) := by
    induction fs with
    | nil => rfl
    | cons f fs ih => simp [ih]
  rw [Pool.view,flat,aboutNext]

variable {y : Sid} {tasks tasks' : List (List Frame)}

variable {out : SessionOutcome} {t : Server}

theorem outcomeViews {f : SessionFrame}
    (turn : Pool.Turn (some (.session y f)) (out.outcome y) tasks tasks') :
    (∀ x, x ≠ y → Pool.view (about x) tasks' = Pool.view (about x) tasks) ∧
      ∃ a b, Pool.view (about y) tasks = a ++ f :: b ∧
        Pool.view (about y) tasks' = a ++ out.next ++ b ++ out.spawned := by
  constructor
  · intro x other
    obtain ⟨a,b,before,after⟩ := turn.view (about x)
    simp only [Option.bind_some,aboutSession,if_neg (Ne.symm other),Option.toList_none,
      SessionOutcome.outcome,aboutNext,aboutSpawned,List.append_nil] at before after
    rw [before,after]
  · obtain ⟨a,b,before,after⟩ := turn.view (about y)
    simp only [Option.bind_some,aboutSession,if_pos,Option.toList_some,SessionOutcome.outcome,
      aboutNext,aboutSpawned,List.append_assoc,List.singleton_append] at before after
    exact ⟨a,b,before,by simpa using after⟩

theorem enteredViews (turn : Pool.Turn none (out.entered y) tasks tasks') :
    (∀ x, x ≠ y → Pool.view (about x) tasks' = Pool.view (about x) tasks) ∧
      Pool.view (about y) tasks' = Pool.view (about y) tasks ++ out.next ++ out.spawned := by
  constructor
  · intro x other
    obtain ⟨a,b,before,after⟩ := turn.view (about x)
    simp only [Option.bind_none,Option.toList_none,SessionOutcome.entered,aboutNext,aboutSpawned,
      List.filterMap_nil,List.append_nil,Pool.viewAppend,Pool.viewCons,Pool.viewNil,
      if_neg (Ne.symm other)] at before after
    rw [before,after]
  · obtain ⟨a,b,before,after⟩ := turn.view (about y)
    simp only [Option.bind_none,Option.toList_none,SessionOutcome.entered,aboutNext,aboutSpawned,
      List.filterMap_nil,List.append_nil,Pool.viewAppend,Pool.viewCons,Pool.viewNil,
      if_pos] at before after
    rw [after,before,List.append_assoc (a ++ b)]

theorem bornViews {stage : StartStage} {callers : List SessionFrame}
    (turn : Pool.Turn none
      ⟨t,[],[.session y (.start stage)] :: callers.map fun f => [.session y f]⟩ tasks tasks') :
    (∀ x, x ≠ y → Pool.view (about x) tasks' = Pool.view (about x) tasks) ∧
      Pool.view (about y) tasks' = Pool.view (about y) tasks ++ (.start stage :: callers) := by
  constructor
  · intro x other
    obtain ⟨a,b,before,after⟩ := turn.view (about x)
    simp only [Option.bind_none,Option.toList_none,List.filterMap_nil,List.append_nil,Pool.viewCons,
      List.filterMap_cons,aboutSession,if_neg (Ne.symm other),aboutSpawned] at before after
    rw [before,after]
  · obtain ⟨a,b,before,after⟩ := turn.view (about y)
    simp only [Option.bind_none,Option.toList_none,List.filterMap_nil,List.append_nil,Pool.viewCons,
      List.filterMap_cons,aboutSession,if_pos,aboutSpawned] at before after
    rw [before,after]
    simp

theorem quietViews (turn : Pool.Turn none ⟨t,[],[]⟩ tasks tasks') (x : Sid) :
    Pool.view (about x) tasks' = Pool.view (about x) tasks := by
  obtain ⟨a,b,before,after⟩ := turn.view (about x)
  rw [before,after]
  simp

structure SameSessions (s t : Server) : Prop where
  sessions : t.sessions = s.sessions
  heap : t.heap = s.heap
  ssrcs : t.ssrcs = s.ssrcs
  drawn : s.drawn ⊆ t.drawn

theorem SameSessions.refl (s : Server) : SameSessions s s := ⟨rfl,rfl,rfl,fun _ h => h⟩

def Guests (s : Server) (spawned : List (List Frame)) : Prop :=
  ∀ x, ∀ f ∈ Pool.view (about x) spawned, f.outside = true ∧ (s.heap x).isSome = true

inductive SessionChange (s : Server) : Option Frame → Outcome → Prop where
  | turn (x : Sid) (f : SessionFrame) (r : Reply) {out : SessionOutcome}
      (ran : s.sessionTurn x f r = some out) :
      SessionChange s (some (.session x f)) (out.outcome x)
  | called (x : Sid) {out : SessionOutcome} (ran : s.sessionTurn x (.stop false) .ok = some out) :
      SessionChange s none (out.entered x)
  | born (x : Sid) (deviceID channelID historyID id : String) (duration : Nat) {ssrc : Nat}
      {ssrcs : Ssrc.Allocator} {stage : StartStage} {callers : List SessionFrame}
      (kind : Admission) (playback : Bool)
      (acquired : Ssrc.acquire s.ssrcs playback = some (ssrc,ssrcs))
      (fresh : s.heap x = none) (unused : id ∉ s.drawn)
      (running : s.stoppingDevices deviceID = false)
      (history : (historyID = "" ∧ s.sessions.get ⟨deviceID,channelID,""⟩ = none) ∨ historyID = id)
      (early : stage.early = true) (outside : ∀ f ∈ callers, f.outside = true) :
      SessionChange s none
        ⟨s.addSession x {key := ⟨deviceID,channelID,historyID⟩, streamID := id, ssrc := ssrc
                         playbackDuration := duration} ssrcs kind,[],
          [.session x (.start stage)] :: callers.map fun f => [.session x f]⟩
  | marked (x : Sid) {o : Session} {t : Server} (claimed : Nat) (ctxErr : Bool)
      (here : s.heap x = some o)
      (same : SameSessions (s.put x {o with claimed := claimed, ctxErr := ctxErr}) t) :
      SessionChange s none ⟨t,[],[]⟩
  | other {frame : Option Frame} {out : Outcome} (same : SameSessions s out.shared)
      (quiet : ∀ x, frame.bind (about x) = none) (next : ∀ x, out.next.filterMap (about x) = [])
      (guests : Guests s out.spawned) : SessionChange s frame out

section
variable {s : Server} {x : Sid}

variable {fits : Sid → Session → Bool} {r : Reply} {spawned : List (List Frame)}
  {channelID id : String} {look : Lookup}

theorem memMatching :
    x ∈ s.matching fits ↔
      ∃ key o, s.sessions.get key = some x ∧ s.heap x = some o ∧ fits x o = true := by
  simp only [Server.matching,List.mem_map,List.mem_filter,Option.any_eq_true]
  constructor
  · rintro ⟨⟨key,y⟩,⟨mem,o,here,fit⟩,same⟩
    cases same
    exact ⟨key,o,Table.memEntries.mp mem,here,fit⟩
  · rintro ⟨key,o,stored,here,fit⟩
    exact ⟨(key,x),⟨Table.memEntries.mpr stored,o,here,fit⟩,rfl⟩

theorem foundSome {fits : Session → Bool} (found : s.find fits = some x) :
    ∃ key o, s.sessions.get key = some x ∧ s.heap x = some o ∧ fits o = true := by
  obtain ⟨⟨key,y⟩,first,same⟩ := Option.map_eq_some_iff.mp found
  cases same
  have fitting : (s.heap y).any fits = true := by simpa using List.find?_some first
  obtain ⟨o,here,fit⟩ := (Option.any_eq_true ..).mp fitting
  exact ⟨key,o,Table.memEntries.mp (List.mem_of_find?_eq_some first),here,fit⟩

variable {t : Server} {f : SessionFrame} {deviceID : String} {out : Outcome}

theorem actSpec {o : Session} {act : Act} (ok : s.act o act = some t) :
    t.heap = s.heap ∧ s.drawn ⊆ t.drawn ∧ t.stoppingDevices = s.stoppingDevices ∧
      t.sessions = (if act = .remove then s.sessions.delete o.key else s.sessions) ∧
      t.ssrcs = (if act = .remove then Ssrc.release s.ssrcs o.ssrc else s.ssrcs) := by
  cases act with
  | issue value =>
    obtain ⟨_,same⟩ := issueSpec ok
    subst same
    exact ⟨rfl,fun _ h => List.mem_cons_of_mem _ h,rfl,rfl,rfl⟩
  | _ => cases Option.some.inj ok; exact ⟨rfl,fun _ h => h,rfl,rfl,rfl⟩

theorem turnSpec {out : SessionOutcome} (ran : s.sessionTurn x f r = some out) :
    ∃ o e, s.heap x = some o ∧ Moves o (s.current x o) f e ∧ out.next = e.next ∧
      out.spawned = e.spawned ∧ (s.put x e.session).act e.session e.act = some out.server := by
  simp only [Server.sessionTurn,bind,Option.bind_eq_some_iff] at ran
  obtain ⟨o,here,e,moved,t,acted,last⟩ := ran
  cases Option.some.inj last
  exact ⟨o,e,here,stepMoves moved,rfl,rfl,acted⟩

theorem guestsNone : Guests s [] := by
  intro y f mem
  cases mem

theorem guestsOne (outside : f.outside = true) (here : (s.heap x).isSome = true) :
    Guests s [[.session x f]] := by
  intro y g mem
  simp only [Pool.viewCons,Pool.viewNil,List.append_nil,List.mem_filterMap,List.mem_singleton] at mem
  obtain ⟨_,same,known⟩ := mem
  subst same
  rw [aboutSession] at known
  split at known <;> try contradiction
  rename_i same
  cases same
  cases Option.some.inj known
  exact ⟨outside,here⟩

theorem guestsOf
    (each : ∀ task ∈ spawned, ∀ x f, .session x f ∈ task → f.outside = true ∧ (s.heap x).isSome = true) :
    Guests s spawned := by
  intro y g mem
  obtain ⟨f,inside,known⟩ := List.mem_filterMap.mp mem
  obtain ⟨task,mem,inside⟩ := List.mem_flatten.mp inside
  cases f with
  | session x f =>
    rw [aboutSession] at known
    split at known <;> try contradiction
    rename_i same
    cases same
    cases Option.some.inj known
    exact each task mem _ _ inside
  | _ => cases known

theorem guestsStops (group : Nat) : Guests s (s.stopMatching group fits).spawned := by
  apply guestsOf
  intro task mem x f inside
  obtain ⟨y,found,same⟩ := List.mem_map.mp mem
  subst same
  obtain ⟨key,o,_,here,_⟩ := memMatching.mp found
  simp only [List.mem_cons,List.not_mem_nil,or_false,reduceCtorEq] at inside
  cases inside
  exact ⟨rfl,by simp [here]⟩

theorem guestsDevice (mem : .session x f ∈ s.deviceStop deviceID) :
    f.outside = true ∧ (s.heap x).isSome = true := by
  simp only [Server.deviceStop,List.mem_append,List.mem_map,List.mem_singleton,reduceCtorEq,or_false,
    and_false,exists_false] at mem
  obtain ⟨y,found,same⟩ := mem
  cases same
  obtain ⟨key,o,_,here,_⟩ := memMatching.mp found
  exact ⟨rfl,by simp [here]⟩

theorem TalksOnly.sessions (only : TalksOnly s t) : SameSessions s t := by
  refine ⟨?_,?_,?_,only.drawn⟩ <;> rw [only.same]

theorem TokensOnly.sessions (only : TokensOnly s t) : SameSessions s t := by
  refine ⟨?_,?_,?_,only.drawn⟩ <;> rw [only.same]

theorem DevicesOnly.sessions (only : DevicesOnly s t) : SameSessions s t := by
  refine ⟨?_,?_,?_,?_⟩ <;> rw [only.same]
  exact fun _ h => h

theorem PassOnly.sessions (only : PassOnly s t) : SameSessions s t := by
  refine ⟨?_,?_,?_,?_⟩ <;> rw [only.same]
  exact fun _ h => h

theorem SessionChange.calls (same : SameSessions s out.shared) (guests : Guests s out.spawned) :
    SessionChange s none ⟨out.shared,[],out.spawned⟩ :=
  .other same (fun _ => rfl) (fun _ => rfl) guests

abbrev Keyed (s : Server) : Prop :=
  ∀ key x, s.sessions.get key = some x → ∃ o, s.heap x = some o ∧ o.key = key

inductive LiveEffect (s : Server) : Outcome → Prop where
  | idle : LiveEffect s {shared := s}
  | guest (x : Sid) (f : SessionFrame) (outside : f.outside = true)
      (here : Keyed s → (s.heap x).isSome = true) :
      LiveEffect s {shared := s, spawned := [[.session x f]]}
  | stopped (x : Sid) {out : SessionOutcome} (ran : s.sessionTurn x (.stop false) .ok = some out) :
      LiveEffect s (out.entered x)
  | stopsAll (group : Nat) (fits : Sid → Session → Bool) : LiveEffect s (s.stopMatching group fits)
  | born (x : Sid) (deviceID channelID historyID id : String) (duration : Nat) {ssrc : Nat}
      {ssrcs : Ssrc.Allocator} {stage : StartStage} {callers : List SessionFrame}
      (kind : Admission) (playback : Bool)
      (acquired : Ssrc.acquire s.ssrcs playback = some (ssrc,ssrcs))
      (fresh : s.heap x = none) (unused : id ∉ s.drawn)
      (running : s.stoppingDevices deviceID = false)
      (history : (historyID = "" ∧ s.sessions.get ⟨deviceID,channelID,""⟩ = none) ∨ historyID = id)
      (early : stage.early = true) (outside : ∀ f ∈ callers, f.outside = true) :
      LiveEffect s
        ⟨s.addSession x {key := ⟨deviceID,channelID,historyID⟩, streamID := id, ssrc := ssrc
                         playbackDuration := duration} ssrcs kind,[],
          [.session x (.start stage)] :: callers.map fun f => [.session x f]⟩

theorem startLiveEffect (ok : s.startLive deviceID channelID look x id = some out) :
    LiveEffect s out := by
  unfold Server.startLive at ok
  split at ok
  · cases Option.some.inj ok; exact .idle
  rename_i allowed
  simp only [not_or,Bool.not_eq_true] at allowed
  split at ok
  · rename_i y existing
    split at ok
    · cases Option.some.inj ok; exact .idle
    · cases Option.some.inj ok
      refine .guest y .join rfl fun keyed => ?_
      obtain ⟨o,here,_⟩ := keyed _ _ existing
      simp [here]
  · rename_i absent
    split at ok
    · cases Option.some.inj ok; exact .idle
    · rename_i ssrc ssrcs acquired
      split at ok <;> try contradiction
      rename_i new
      simp only [not_or,Bool.not_eq_true,Option.isSome_eq_false_iff,Option.isNone_iff_eq_none] at new
      cases Option.some.inj ok
      have outside : ∀ f ∈ ([] : List SessionFrame), f.outside = true := nofun
      exact .born x deviceID channelID "" id 0 .live false acquired new.1 new.2 allowed.2.1
        (.inl ⟨rfl,absent⟩) (rfl : StartStage.online.early = true) outside

theorem startPlaybackEffect {duration : Nat}
    (ok : s.startPlayback deviceID channelID look duration x id = some out) : LiveEffect s out := by
  unfold Server.startPlayback at ok
  split at ok
  · cases Option.some.inj ok; exact .idle
  rename_i allowed
  simp only [not_or,Bool.not_eq_true] at allowed
  split at ok
  · cases Option.some.inj ok; exact .idle
  · rename_i ssrc ssrcs acquired
    split at ok <;> try contradiction
    rename_i new
    simp only [not_or,Bool.not_eq_true,Option.isSome_eq_false_iff,Option.isNone_iff_eq_none] at new
    cases Option.some.inj ok
    have outside : ∀ f ∈ [SessionFrame.caller], f.outside = true := by simp [SessionFrame.outside]
    exact .born x deviceID channelID id id duration .history true acquired new.1 new.2 allowed.2.1
      (.inr rfl) (rfl : StartStage.create.early = true) outside

theorem liveEffect {c : LiveCall} (ok : liveCall s c = some out) : LiveEffect s out := by
  have stopped {id : String} {history : Bool} (ok : s.stopID id history = some out) :
      LiveEffect s out := by
    unfold Server.stopID at ok
    split at ok
    · cases Option.some.inj ok; exact .idle
    · obtain ⟨turned,ran,same⟩ := Option.map_eq_some_iff.mp ok
      subst same
      exact .stopped _ ran
  cases c with
  | startLive => exact startLiveEffect ok
  | startPlayback => exact startPlaybackEffect ok
  | stopLiveID => exact stopped ok
  | stopPlaybackID => exact stopped ok
  | shutdown group =>
    simp only [liveCall] at ok
    split at ok <;> try contradiction
    cases Option.some.inj ok
    exact .stopsAll group _
  | remoteBye y known =>
    simp only [liveCall,Server.remoteBye] at ok
    split at ok <;> try contradiction
    rename_i o here
    split at ok <;> cases Option.some.inj ok
    · refine .guest y _ ?_ fun _ => by simp [here]
      cases o.history <;> rfl
    · exact .idle
  | playbackEnd y channelID known =>
    simp only [liveCall,Server.playbackEnd] at ok
    split at ok <;> try contradiction
    rename_i o here
    split at ok <;> cases Option.some.inj ok
    · exact .guest y _ rfl fun _ => by simp [here]
    · exact .idle
  | controlPlayback id action =>
    simp only [liveCall,Server.controlPlayback] at ok
    split at ok
    · cases Option.some.inj ok; exact .idle
    · rename_i y found
      obtain ⟨_,o,_,here,_⟩ := foundSome found
      split at ok <;> cases Option.some.inj ok
      · exact .idle
      · exact .guest y _ rfl fun _ => by simp [here]

theorem liveChange (keyed : Keyed s) (effect : LiveEffect s out) :
    SessionChange s none ⟨out.shared,[],out.spawned⟩ := by
  cases effect with
  | idle => exact .calls (.refl s) guestsNone
  | guest x f outside here => exact .calls (.refl s) (guestsOne outside (here keyed))
  | stopped x ran => exact .called x ran
  | stopsAll group => exact .calls ⟨rfl,rfl,rfl,fun _ h => h⟩ (guestsStops group)
  | born x deviceID channelID historyID id duration kind playback acquired fresh unused running history
      early outside =>
    exact .born x deviceID channelID historyID id duration kind playback acquired fresh unused running
      history early outside

theorem playChange {value streamID : String} :
    SessionChange s none ⟨s.after (s.play value streamID),[],[]⟩ := by
  have quiet {t : Server} (same : SameSessions s t) : SessionChange s none ⟨t,[],[]⟩ :=
    .other same (fun _ => rfl) (fun _ => rfl) guestsNone
  unfold Server.play
  split
  · exact quiet (.refl s)
  split
  · exact quiet (.refl s)
  split
  · exact quiet (.refl s)
  split
  · rename_i y o found
    obtain ⟨z,_,known⟩ := Option.bind_eq_some_iff.mp found
    obtain ⟨p,here,same⟩ := Option.map_eq_some_iff.mp known
    cases same
    unfold Server.claim
    split
    · exact quiet (.refl s)
    · exact .marked y (o.claimed + 1) o.ctxErr here ⟨rfl,rfl,rfl,fun _ h => h⟩
  · split
    · exact quiet ⟨rfl,rfl,rfl,fun _ h => h⟩
    · exact quiet (.refl s)

theorem guestsPart (part : Part) (other : part ≠ .session)
    (each : ∀ task ∈ spawned, ∀ f ∈ task, f.part = part) : Guests s spawned :=
  guestsOf fun task mem _ _ inside => absurd (each task mem _ inside).symm other

theorem nextPart {next : List Frame} (part : Part) (other : part ≠ .session)
    (each : ∀ f ∈ next, f.part = part) (x : Sid) : next.filterMap (about x) = [] := by
  rw [List.filterMap_eq_nil_iff]
  intro f mem
  cases f with
  | session => exact absurd (each _ mem).symm other
  | _ => rfl

theorem tokenChange {c : TokenCall} (ok : tokenCall s c = some out) :
    SessionChange s none ⟨out.shared,[],out.spawned⟩ := by
  by_cases play : ∃ value streamID store, c = .consumeStreamToken value .play streamID store
  · obtain ⟨value,streamID,store,same⟩ := play
    subst same
    cases Option.some.inj ok
    exact playChange
  · exact .calls (tokenCallOnly ok fun value streamID store same => play ⟨value,streamID,store,same⟩).sessions
      (guestsPart .source nofun (tokenSpawned ok))

theorem deviceChange (effect : DeviceEffect s out) :
    SessionChange s none ⟨out.shared,[],out.spawned⟩ := by
  refine .calls effect.only.sessions (guestsOf fun task mem y f inside => ?_)
  rcases effect.frames task mem _ inside with ⟨key,same⟩ | ⟨d,stop⟩
  · cases same
  · exact guestsDevice stop

theorem frameChange {f : Frame} (ok : exec s f r = some out) : SessionChange s (some f) out := by
  cases f with
  | session x f =>
    obtain ⟨turned,ran,same⟩ := Option.map_eq_some_iff.mp ok
    subst same
    exact .turn x f r ran
  | talk b f =>
    obtain ⟨t,turned,here,ran,same⟩ := talkTurnSpec ok
    subst same
    exact .other (talkOnly ran).sessions (fun _ => rfl) (nextPart .talk (by simp) (by simp [Frame.part]))
      guestsNone
  | source sourceID stage =>
    obtain ⟨next,spawned⟩ := sourceNext ok
    exact .other (sourceOnly ok).sessions (fun _ => rfl) (nextPart .source (by simp) next)
      (by rw [spawned]; exact guestsNone)
  | pass p stage =>
    obtain ⟨next,spawned⟩ := passNext ok
    refine .other (passOnly ok).sessions (fun _ => rfl) (nextPart .pass (by simp) next) ?_
    rcases spawned with none | ⟨_,fits,same⟩
    · rw [none]; exact guestsNone
    · rw [same]; exact guestsStops p.number
  | _ =>
    cases Option.some.inj ok
    exact .other ⟨rfl,rfl,rfl,fun _ h => h⟩ (fun _ => rfl) (fun _ => rfl) guestsNone

theorem sectionChange (keyed : Keyed s) {frame : Option Frame} (ran : Section s frame out) :
    SessionChange s frame out := by
  cases ran with
  | frame f r ok => exact frameChange ok
  | call c ok =>
    cases c with
    | live c => exact liveChange keyed (liveEffect ok)
    | token c => exact tokenChange ok
    | device c => exact deviceChange (deviceEffect ok)
    | talk c => exact .calls (talkCallOnly ok).sessions (guestsPart .talk nofun (talkSpawned ok))
    | reconcile pass =>
      simp only [call,Server.beginPass] at ok
      split at ok <;> try contradiction
      cases Option.some.inj ok
      refine .calls ((passStopsOnly ..).sessions) ?_
      have stops : Guests s (s.stopMatching pass fun _ o => o.lapsed).spawned := guestsStops pass
      intro y f mem
      exact stops y f mem
  | world w ok =>
    have quiet {t : Server} (same : SameSessions s t) : SessionChange s none ⟨t,[],[]⟩ :=
      .other same (fun _ => rfl) (fun _ => rfl) guestsNone
    cases w with
    | clock now =>
      simp only [world] at ok
      split at ok <;> try contradiction
      cases Option.some.inj ok; exact quiet ⟨rfl,rfl,rfl,fun _ h => h⟩
    | endContext y =>
      obtain ⟨o,here,same⟩ := Option.map_eq_some_iff.mp ok
      subst same
      exact .marked y o.claimed true here (.refl _)
    | appear streamID =>
      simp only [world] at ok
      split at ok <;> try contradiction
      cases Option.some.inj ok; exact quiet ⟨rfl,rfl,rfl,fun _ h => h⟩
    | vanish => cases Option.some.inj ok; exact quiet ⟨rfl,rfl,rfl,fun _ h => h⟩

end

end MediaServer.Signaling
