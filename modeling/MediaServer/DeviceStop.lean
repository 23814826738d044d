import MediaServer.SessionLifecycle
import MediaServer.TalkSetup

/-! device_lifecycle.go: a device has one stop at a time, takes nothing on while it stops, and
has nothing left in the tables when its flag is cleared. -/
namespace MediaServer.Signaling

def Event.admits : Event → Option String
  | .admitted _ deviceID => some deviceID
  | _ => none

structure Guarded (s t : Server) : Prop where
  log : Logged s t fun e => e.admits = none
  owners : ∀ key, t.ptzOwners.get key = some () →
    s.ptzOwners.get key = some () ∨ s.stoppingDevices key.deviceID = false

def clearing (d : String) : Frame → Option Unit
  | .clearStop e => if e = d then some () else none
  | _ => none

inductive StopChange (s : Server) : Option Frame → Outcome → Prop where
  | beside {frame : Option Frame} {out : Outcome}
      (flags : out.shared.stoppingDevices = s.stoppingDevices)
      (old : ∀ d, frame ≠ some (.clearStop d)) (next : ∀ d, .clearStop d ∉ out.next)
      (spawned : ∀ task ∈ out.spawned, ∀ d, .clearStop d ∉ task) : StopChange s frame out
  | cleared (d : String) : StopChange s (some (.clearStop d)) ⟨s.clearStop d,[],[]⟩
  | stops (expired : List String) :
      StopChange s none ⟨(expired.foldl expireStep (s,[])).1,[],[(expired.foldl expireStep (s,[])).2]⟩

section
variable {s t : Server}

theorem Guarded.beside {fits : Event → Prop} (owners : t.ptzOwners = s.ptzOwners)
    (log : Logged s t fits) (silent : ∀ e, fits e → e.admits = none) : Guarded s t where
  log := by
    obtain ⟨new,same,each⟩ := log
    exact ⟨new,same,fun e mem => (each e mem).imp_left (silent e)⟩
  owners key here := .inl (by rw [← owners]; exact here)

theorem Guarded.quiet (owners : t.ptzOwners = s.ptzOwners) (log : t.log = s.log) : Guarded s t :=
  .beside owners (Logged.none log : Logged s t fun _ => False) fun _ none => none.elim

theorem Guarded.one {e : Event} (owners : t.ptzOwners = s.ptzOwners) (log : t.log = s.log ++ [e])
    (silent : e.admits = none) : Guarded s t :=
  .beside owners (Logged.one log silent : Logged s t fun e => e.admits = none) fun _ => id

theorem TalksOnly.guarded (only : TalksOnly s t) : Guarded s t := by
  refine .beside (by rw [only.same]) only.log fun e fit => ?_
  cases e <;> first | rfl | cases fit

theorem TokensOnly.guarded (only : TokensOnly s t) : Guarded s t := by
  refine .beside (by rw [only.same]) only.log fun e fit => ?_
  cases e <;> first | rfl | cases fit

theorem PassOnly.guarded (only : PassOnly s t) : Guarded s t := by
  refine .beside (by rw [only.same]) only.log fun e fit => ?_
  cases e <;> first | rfl | cases fit

theorem expireOwners (expired : List String) (out : Server × List Frame) :
    (expired.foldl expireStep out).1.ptzOwners = out.1.ptzOwners := by
  induction expired generalizing out with
  | nil => rfl
  | cons d rest ih =>
    rw [List.foldl_cons,ih]
    unfold expireStep Server.beginDeviceStop
    split
    · rfl
    · cases out.1.broadcasts.get d <;> rfl

variable {out : Outcome}

theorem DeviceEffect.guarded (effect : DeviceEffect s out) : Guarded s out.shared := by
  have only := effect.only
  cases effect with
  | idle => exact .quiet rfl rfl
  | admits kind deviceID => exact .beside rfl only.log fun _ none => none.elim
  | steers key free =>
    refine ⟨.admission rfl free,fun other here => ?_⟩
    simp only [Table.getSet] at here
    split at here
    · rename_i self
      rw [self]
      exact .inr free
    · exact .inl here
  | stops expired =>
    exact .quiet (expireOwners expired (s,[])) (expireOnly expired (s,[])).2

theorem actGuarded {x : Sid} {o : Session} {act : Act} (ok : (s.put x o).act o act = some t) :
    Guarded s t ∧ t.stoppingDevices = s.stoppingDevices := by
  cases act with
  | issue value =>
    obtain ⟨_,same⟩ := issueSpec ok
    subst same
    exact ⟨.one rfl rfl rfl,rfl⟩
  | _ => cases Option.some.inj ok; exact ⟨.quiet rfl rfl,rfl⟩

theorem turnGuarded {x : Sid} {f : SessionFrame} {r : Reply} {out : SessionOutcome}
    (ran : s.sessionTurn x f r = some out) :
    Guarded s out.server ∧ out.server.stoppingDevices = s.stoppingDevices := by
  obtain ⟨o,e,_,_,_,_,acts⟩ := turnSpec ran
  exact actGuarded acts

theorem StopChange.calls (flags : out.shared.stoppingDevices = s.stoppingDevices)
    (spawned : ∀ task ∈ out.spawned, ∀ f ∈ task, f.part ≠ .device) :
    StopChange s none ⟨out.shared,[],out.spawned⟩ :=
  .beside flags nofun nofun fun task mem _ inside => spawned task mem _ inside rfl

theorem stopsParts {fits : Sid → Session → Bool} (group : Nat) :
    ∀ task ∈ (s.stopMatching group fits).spawned, ∀ f ∈ task, f.part ≠ .device := by
  intro task mem f inside
  obtain ⟨y,_,same⟩ := List.mem_map.mp mem
  subst same
  simp only [List.mem_cons,List.not_mem_nil,or_false] at inside
  rcases inside with same | same <;> subst same <;> nofun

theorem liveStops (effect : LiveEffect s out) :
    Guarded s out.shared ∧ StopChange s none ⟨out.shared,[],out.spawned⟩ := by
  cases effect with
  | idle => exact ⟨.quiet rfl rfl,.calls rfl nofun⟩
  | guest x f => exact ⟨.quiet rfl rfl,.calls rfl (by simp [Frame.part])⟩
  | stopped x ran =>
    obtain ⟨guarded,flags⟩ := turnGuarded ran
    exact ⟨guarded,.calls flags (by simp [SessionOutcome.entered,Frame.part])⟩
  | stopsAll group => exact ⟨.quiet rfl rfl,.calls rfl (stopsParts group)⟩
  | born x deviceID channelID historyID id duration kind playback acquired fresh unused running =>
    refine ⟨⟨?_,fun _ here => .inl here⟩,.calls rfl (by simp [Frame.part])⟩
    exact .admission rfl running

theorem playGuarded (value streamID : String) : Guarded s (s.after (s.play value streamID)) ∧
    (s.after (s.play value streamID)).stoppingDevices = s.stoppingDevices := by
  have refused : Guarded s s ∧ s.stoppingDevices = s.stoppingDevices := ⟨.quiet rfl rfl,rfl⟩
  unfold Server.play
  split
  · exact refused
  split
  · exact refused
  split
  · exact refused
  split
  · unfold Server.claim
    split
    · exact refused
    · exact ⟨.one rfl rfl rfl,rfl⟩
  · split
    · exact ⟨.one rfl rfl rfl,rfl⟩
    · exact refused

theorem tokenStops {c : TokenCall} (ok : tokenCall s c = some out) :
    Guarded s out.shared ∧ StopChange s none ⟨out.shared,[],out.spawned⟩ := by
  have parts : ∀ task ∈ out.spawned, ∀ f ∈ task, f.part ≠ .device := by
    intro task mem f inside
    rw [tokenSpawned ok task mem f inside]
    nofun
  by_cases play : ∃ value streamID store, c = .consumeStreamToken value .play streamID store
  · obtain ⟨value,streamID,store,same⟩ := play
    subst same
    cases Option.some.inj ok
    obtain ⟨guarded,flags⟩ := playGuarded (s := s) value streamID
    exact ⟨guarded,.calls flags parts⟩
  · have only := tokenCallOnly ok fun value streamID store same => play ⟨value,streamID,store,same⟩
    exact ⟨only.guarded,.calls (by rw [only.same]) parts⟩

theorem DeviceEffect.stopChange (effect : DeviceEffect s out) :
    StopChange s none ⟨out.shared,[],out.spawned⟩ := by
  cases effect with
  | idle | admits => exact .calls rfl nofun
  | steers key =>
    refine .beside rfl nofun nofun ?_
    simp
  | stops expired => exact .stops expired

theorem frameStops {f : Frame} {r : Reply} (ok : exec s f r = some out) :
    Guarded s out.shared ∧ StopChange s (some f) out := by
  have other (part : f.part ≠ .device) (flags : out.shared.stoppingDevices = s.stoppingDevices)
      (next : ∀ g ∈ out.next, g.part ≠ .device)
      (spawned : ∀ task ∈ out.spawned, ∀ g ∈ task, g.part ≠ .device) : StopChange s (some f) out := by
    refine .beside flags (fun d same => ?_) (fun d mem => next _ mem rfl)
      fun task mem d inside => spawned task mem _ inside rfl
    cases Option.some.inj same
    exact part rfl
  cases f with
  | session x f =>
    obtain ⟨turned,ran,same⟩ := Option.map_eq_some_iff.mp ok
    subst same
    obtain ⟨guarded,flags⟩ := turnGuarded ran
    refine ⟨guarded,other (by simp [Frame.part]) flags ?_ ?_⟩ <;>
      simp [SessionOutcome.outcome,Frame.part]
  | talk b f =>
    obtain ⟨t,turned,here,ran,same⟩ := talkTurnSpec ok
    subst same
    have only := talkOnly ran
    exact ⟨only.guarded,other (by simp [Frame.part]) (by rw [only.same]) (by simp [Frame.part])
      (by simp [Frame.part])⟩
  | source sourceID stage =>
    obtain ⟨next,spawned⟩ := sourceNext ok
    have only := sourceOnly ok
    refine ⟨only.guarded,other (by simp [Frame.part]) (by rw [only.same])
      (fun g mem => by rw [next g mem]; simp) ?_⟩
    rw [spawned]
    simp
  | pass p stage =>
    obtain ⟨next,spawned⟩ := passNext ok
    have only := passOnly ok
    refine ⟨only.guarded,other (by simp [Frame.part]) (by rw [only.same])
      (fun g mem => by rw [next g mem]; simp) ?_⟩
    rcases spawned with none | ⟨_,fits,same⟩
    · rw [none]; simp
    · rw [same]; exact stopsParts p.number
  | clearStop d =>
    cases Option.some.inj ok
    exact ⟨.quiet rfl rfl,.cleared d⟩
  | ptzDone key =>
    cases Option.some.inj ok
    refine ⟨⟨.none rfl,fun other here => .inl ?_⟩,.beside rfl (by simp) (by simp) (by simp)⟩
    simp only [Table.getDelete] at here
    split at here
    · cases here
    · exact here
  | deleteReceiver | waitDone =>
    cases Option.some.inj ok
    exact ⟨.quiet rfl rfl,other (by simp [Frame.part]) rfl (by simp [Frame.part]) (by simp [Frame.part])⟩

theorem sectionStops {frame : Option Frame} (ran : Section s frame out) :
    Guarded s out.shared ∧ StopChange s frame out := by
  cases ran with
  | frame f r ok => exact frameStops ok
  | call c ok =>
    cases c with
    | live c =>
      have both := liveStops (liveEffect ok)
      exact both
    | token c =>
      have both := tokenStops ok
      exact both
    | device c =>
      have effect := deviceEffect ok
      exact ⟨effect.guarded,effect.stopChange⟩
    | talk c =>
      have only := talkCallOnly ok
      refine ⟨only.guarded,.calls (by rw [only.same]) fun task mem f inside => ?_⟩
      rw [talkSpawned ok task mem f inside]
      simp
    | reconcile pass =>
      simp only [call,Server.beginPass] at ok
      split at ok <;> try contradiction
      cases Option.some.inj ok
      have only := passStopsOnly (s := s) pass true fun _ o => o.lapsed
      refine ⟨only.guarded,.calls rfl fun task mem f inside => ?_⟩
      rcases List.mem_cons.mp mem with first | stop
      · subst first
        cases List.mem_singleton.mp inside
        simp [Frame.part]
      · exact stopsParts pass task stop f inside
  | world w ok =>
    have quiet {t : Server} (flags : t.stoppingDevices = s.stoppingDevices)
        (owners : t.ptzOwners = s.ptzOwners) (log : t.log = s.log) :
        Guarded s t ∧ StopChange s none ⟨t,[],[]⟩ :=
      ⟨.quiet owners log,.beside flags (by simp) (by simp) (by simp)⟩
    cases w with
    | clock now | appear streamID =>
      simp only [world] at ok
      split at ok <;> try contradiction
      cases Option.some.inj ok; exact quiet rfl rfl rfl
    | endContext y =>
      obtain ⟨o,here,same⟩ := Option.map_eq_some_iff.mp ok
      subst same
      exact quiet rfl rfl rfl
    | vanish => cases Option.some.inj ok; exact quiet rfl rfl rfl

end

def SessionFrame.attends : SessionFrame → Bool
  | .stop true | .waitDone true | .clean .stopper _ | .bye (.clean .stopper) _ => true
  | _ => false

structure Covers (s : Server) (d : String) (fs : List Frame) : Prop where
  sessions : ∀ x o, Stored s x o → o.key.deviceID = d → ∃ f, f.attends = true ∧ .session x f ∈ fs
  talk : ∀ b, s.broadcasts.get d = some b → .talk b (.waitDone true) ∈ fs

def Attended (s : Server) (task : List Frame) : Prop :=
  ∀ fs d rest, task = fs ++ .clearStop d :: rest → Covers s d fs

structure StopGood (s : Server) (tasks : List (List Frame)) : Prop where
  flags : ∀ d, (Pool.view (clearing d) tasks).length = (s.stoppingDevices d).toNat
  attended : ∀ task ∈ tasks, Attended s task

section
variable {s t : Server} {tasks tasks' : List (List Frame)} {d : String}

theorem attendsStopper {f : SessionFrame} (attends : f.attends = true) :
    (∀ role stage, f = .clean role stage → role = .stopper) ∧
      ∀ after stage, f = .bye after stage → after = .clean .stopper := by
  constructor
  · intro role stage same
    subst same
    cases role with
    | starter => cases attends
    | stopper => rfl
  · intro after stage same
    subst same
    cases after with
    | clean role =>
      cases role with
      | starter => cases attends
      | stopper => rfl
    | drain => cases attends

theorem Moves.attends {o : Session} {current : Bool} {f : SessionFrame} {e : Effect}
    (move : Moves o current f e) (attends : f.attends = true) (here : current = true)
    (done : o.done = 0) (stays : e.stays = true) : ∃ g ∈ e.next, g.attends = true := by
  obtain ⟨cleans,byes⟩ := attendsStopper attends
  cases move with
  | leaves outside reason absent =>
    cases f with
    | stop patient => exact nomatch here.symm.trans (absent patient rfl)
    | waitDone patient =>
      cases patient with
      | false => cases attends
      | true =>
        have closed := reason true rfl rfl
        omega
    | _ => first | cases attends | cases outside
  | hangsUp role | skipsBye | deleted role =>
    cases cleans _ _ rfl
    exact ⟨_,List.mem_singleton_self _,rfl⟩
  | missing role gone => exact nomatch here.symm.trans gone
  | removed role => cases stays
  | byeLocked after | byeSent after | byeEnded after =>
    cases byes _ _ rfl
    exact ⟨_,List.mem_singleton_self _,rfl⟩
  | stopsStream patient | stopsStart patient =>
    cases patient with
    | false => cases attends
    | true => exact ⟨_,List.mem_singleton_self _,rfl⟩
  | _ => cases attends

theorem splitAt {α : Type} {a b before rest : List α} {f : α} (same : a ++ b = before ++ f :: rest) :
    (∃ more, a = before ++ f :: more) ∨ ∃ more, before = a ++ more ∧ b = more ++ f :: rest := by
  rcases List.append_eq_append_iff.mp same with ⟨more,first,second⟩ | ⟨more,first,second⟩
  · exact .inr ⟨more,first,second⟩
  · cases more with
    | nil => exact .inr ⟨[],by simpa using first.symm,by simpa using second.symm⟩
    | cons g more =>
      cases (List.cons.inj second).1
      exact .inl ⟨more,first⟩

variable {fs : List Frame} {frame : Option Frame} {out : Outcome}

theorem Covers.mono {gs : List Frame} (covers : Covers s d fs) (more : fs ⊆ gs) :
    Covers s d gs where
  sessions x o stored own := by
    obtain ⟨f,attends,mem⟩ := covers.sessions x o stored own
    exact ⟨f,attends,more mem⟩
  talk b held := more (covers.talk b held)

theorem Covers.tables (covers : Covers s d fs) (sessions : t.sessions = s.sessions)
    (heap : t.heap = s.heap) (broadcasts : t.broadcasts = s.broadcasts) : Covers t d fs where
  sessions x o stored own := by
    refine covers.sessions x o ⟨?_,?_⟩ own
    · rw [← heap]; exact stored.here
    · have current := stored.current
      unfold Server.current at current
      rw [sessions] at current
      exact current
  talk b held := covers.talk b (by rw [← broadcasts]; exact held)

structure NothingNew (s t : Server) (d : String) : Prop where
  sessions : ∀ x p, Stored t x p → p.key.deviceID = d → ∃ o, Stored s x o ∧ o.key = p.key
  talk : ∀ b, t.broadcasts.get d = some b → s.broadcasts.get d = some b

theorem nothingNew (rooted : Rooted s tasks) (ran : Section s frame out)
    (stopping : s.stoppingDevices d = true) : NothingNew s out.shared d where
  sessions x p stored own := by
    cases storedChange rooted (sectionChange rooted.keyed ran) with
    | carried _ _ back =>
      obtain ⟨o,before,twin⟩ := back x p stored
      exact ⟨o,before,twin.key.symm⟩
    | removed _ _ _ _ _ _ _ back => exact ⟨p,back x p stored,rfl⟩
    | added y o _ new _ _ running _ _ back =>
      by_cases self : x = y
      · subst self
        cases Option.some.inj (stored.here.symm.trans new.here)
        rw [own,stopping] at running
        cases running
      · exact ⟨p,back x p self stored,rfl⟩
  talk b held := by
    cases sectionTalks ran with
    | kept kept => rw [← kept.broadcasts]; exact held
    | starts c deviceID sourceID mediaID sn free =>
      simp only [Table.getSet] at held
      split at held
      · rename_i self
        rw [← self,stopping] at free
        cases free
      · exact held
    | notified | invites | answers => exact held
    | hears c talk w r here heard => rw [← hearsBroadcasts heard]; exact held
    | ends c talk here =>
      by_cases own : s.broadcasts.get talk.deviceID = some c
      · simp only [if_pos own,Table.getDelete] at held
        split at held
        · cases held
        · exact held
      · simp only [if_neg own] at held
        exact held

theorem Covers.keep (covers : Covers s d fs) (nothing : NothingNew s t d) :
    Covers t d fs where
  sessions x p stored own := by
    obtain ⟨o,before,key⟩ := nothing.sessions x p stored own
    exact covers.sessions x o before (by rw [key]; exact own)
  talk b held := covers.talk b (nothing.talk b held)

theorem Covers.moved (rooted : Rooted s tasks) (talks : TalkGood s tasks) {f : Frame} {r : Reply}
    (covers : Covers s d (f :: fs)) (ok : exec s f r = some out)
    (nothing : NothingNew s out.shared d) : Covers out.shared d (out.next ++ fs) where
  sessions x p stored own := by
    obtain ⟨o,before,key⟩ := nothing.sessions x p stored own
    obtain ⟨g,attends,mem⟩ := covers.sessions x o before (by rw [key]; exact own)
    rcases List.mem_cons.mp mem with first | later
    · subst first
      obtain ⟨turned,ran,same⟩ := Option.map_eq_some_iff.mp ok
      subst same
      obtain ⟨o',e,here,move,next,_,acts⟩ := turnSpec ran
      cases Option.some.inj (before.here.symm.trans here)
      obtain ⟨heap,_,_,current⟩ := Rooted.acted move acts
      have done : o.done = 0 := by
        have closed := (rooted.good x o here).done
        simp only [before.current] at closed
        exact closed
      have stays : e.stays = true := by
        have now := stored.here
        simp only [SessionOutcome.outcome] at now
        rw [heap,Function.update_self] at now
        cases Option.some.inj now
        have still := stored.current
        simp only [SessionOutcome.outcome] at still
        rw [current,before.current] at still
        exact still
      obtain ⟨g',more,attends'⟩ := move.attends attends before.current done stays
      refine ⟨g',attends',List.mem_append_left _ (List.mem_map.mpr ⟨g',?_,rfl⟩)⟩
      rw [next]
      exact more
    · exact ⟨g,attends,List.mem_append_right _ later⟩
  talk b held := by
    have before := nothing.talk b held
    rcases List.mem_cons.mp (covers.talk b before) with first | later
    · subst first
      obtain ⟨talk,turned,here,ran,_⟩ := talkTurnSpec ok
      simp only [talkExec] at ran
      split at ran <;> try contradiction
      rename_i complete
      obtain ⟨talk',here',_,done⟩ := talks.stored d b before
      cases Option.some.inj (here.symm.trans here')
      simp [done] at complete
    · exact List.mem_append_right _ later

theorem deviceStopCovers {rest : List Frame} {e : String}
    (same : s.deviceStop d = fs ++ .clearStop e :: rest) : e = d ∧ Covers s d fs := by
  unfold Server.deviceStop at same
  rcases splitAt same with ⟨more,early⟩ | ⟨more,first,last⟩
  · have inside : Frame.clearStop e ∈ fs ++ .clearStop e :: more := by simp
    rw [← early] at inside
    simp at inside
  · obtain ⟨_,flag⟩ : more = [] ∧ Frame.clearStop d = .clearStop e := by
      cases more with
      | nil => exact ⟨rfl,(List.cons.inj last).1⟩
      | cons g more => simp at last
    cases flag
    refine ⟨rfl,?_⟩
    subst first
    constructor
    · intro x o stored own
      refine ⟨.stop true,rfl,List.mem_append_left _ (List.mem_append_left _ (List.mem_map.mpr ⟨x,?_,rfl⟩))⟩
      exact memMatching.mpr ⟨o.key,o,stored.get,stored.here,by simpa using own⟩
    · intro b held
      simp [held]

theorem expireCovers {expired : List String} {out : Server × List Frame}
    (same : out.1.sessions = s.sessions ∧ out.1.heap = s.heap ∧ out.1.broadcasts = s.broadcasts)
    (attended : Attended s out.2) : Attended s (expired.foldl expireStep out).2 := by
  induction expired generalizing out with
  | nil => exact attended
  | cons d rest ih =>
    rw [List.foldl_cons]
    have only := (expireStepOnly out d).1.same
    refine ih (by rw [only]; exact same) ?_
    unfold expireStep
    split
    · exact attended
    · intro fs e post split
      have alike : out.1.deviceStop d = s.deviceStop d := by
        unfold Server.deviceStop Server.deviceSessions Server.matching
        rw [same.1,same.2.1,same.2.2]
      rcases splitAt split with ⟨more,early⟩ | ⟨more,first,last⟩
      · exact attended fs e more early
      · rw [alike] at last
        obtain ⟨self,covers⟩ := deviceStopCovers last
        subst self
        rw [first]
        exact covers.mono (List.subset_append_right ..)

theorem deviceStopClears (d e : String) :
    (s.deviceStop e).filterMap (clearing d) = if e = d then [()] else [] := by
  unfold Server.deviceStop
  rw [List.filterMap_append,List.filterMap_append]
  have sessions (xs : List Sid) :
      (xs.map fun x => Frame.session x (.stop true)).filterMap (clearing d) = [] := by
    simp [clearing]
  have talk (bs : List Bid) : (bs.map fun b => Frame.talk b (.waitDone true)).filterMap (clearing d) = [] := by
    simp [clearing]
  rw [sessions,talk]
  split <;> rename_i known <;> simp [clearing,known]

theorem expireFlags (d : String) (expired : List String) (out : Server × List Frame) (n : Nat)
    (now : (out.2.filterMap (clearing d)).length + n = (out.1.stoppingDevices d).toNat) :
    ((expired.foldl expireStep out).2.filterMap (clearing d)).length + n =
      ((expired.foldl expireStep out).1.stoppingDevices d).toNat := by
  induction expired generalizing out with
  | nil => exact now
  | cons e rest ih =>
    rw [List.foldl_cons]
    refine ih _ ?_
    unfold expireStep
    split
    · exact now
    · rename_i free
      have flags : (out.1.beginDeviceStop e).stoppingDevices d =
          Function.update out.1.stoppingDevices e true d := rfl
      simp only [List.filterMap_append,List.length_append,deviceStopClears,flags]
      by_cases self : e = d
      · subst self
        rw [if_pos rfl,Function.update_self]
        simp only [free,Bool.toNat_false] at now
        simp only [List.length_singleton,Bool.toNat_true]
        omega
      · rw [if_neg self,Function.update_of_ne (Ne.symm self)]
        exact now

theorem stopGoodBoot {s : State} (boot : Boot s) : StopGood s.shared s.tasks where
  flags d := by rw [boot.tasks,boot.stopping]; rfl
  attended task mem := by rw [boot.tasks] at mem; cases mem

theorem StopGood.stopping (good : StopGood s tasks) {task rest : List Frame} (mem : task ∈ tasks)
    (here : task = fs ++ .clearStop d :: rest) : s.stoppingDevices d = true := by
  have counted := good.flags d
  have pending : () ∈ Pool.view (clearing d) tasks := by
    refine List.mem_filterMap.mpr ⟨.clearStop d,List.mem_flatten.mpr ⟨task,mem,?_⟩,by simp [clearing]⟩
    rw [here]
    simp
  have some := List.length_pos_of_mem pending
  cases flag : s.stoppingDevices d with
  | true => rfl
  | false =>
    rw [counted,flag] at some
    cases some

theorem clearView (free : ∀ d, .clearStop d ∉ fs) : fs.filterMap (clearing d) = [] := by
  rw [List.filterMap_eq_nil_iff]
  intro f mem
  cases f with
  | clearStop e => exact absurd mem (free e)
  | _ => rfl

theorem StopGood.counts (good : StopGood s tasks) (change : StopChange s frame out)
    (turn : Pool.Turn frame out tasks tasks') (d : String) :
    (Pool.view (clearing d) tasks').length = (out.shared.stoppingDevices d).toNat := by
  have counted := good.flags d
  obtain ⟨a,b,before,after⟩ := turn.view (clearing d)
  rw [before] at counted
  rw [after]
  cases change with
  | beside flags old next spawned =>
    have none : frame.bind (clearing d) = .none := by
      cases frame with
      | none => rfl
      | some f =>
        cases f with
        | clearStop e => exact absurd rfl (old e)
        | _ => rfl
    have quiet : Pool.view (clearing d) out.spawned = [] :=
      Pool.viewEmpty fun task mem f inside => by
        cases f with
        | clearStop e => exact absurd inside (spawned task mem e)
        | _ => rfl
    rw [clearView next,quiet,flags,← counted,none]
    simp
  | cleared e =>
    by_cases self : e = d
    · subst self
      simp only [Server.clearStop,Function.update_self,Option.bind_some,clearing,if_true,Option.toList_some,
        List.length_append,List.length_singleton,List.filterMap_nil,List.length_nil,Pool.viewNil,
        Bool.toNat_false] at counted ⊢
      have most := Bool.toNat_le (s.stoppingDevices e)
      omega
    · simp only [Server.clearStop,Function.update_of_ne (Ne.symm self),Option.bind_some,clearing,if_neg self,
        Option.toList_none,List.append_nil,List.filterMap_nil,Pool.viewNil] at counted ⊢
      exact counted
  | stops expired =>
    have fold := expireFlags d expired (s,[]) (s.stoppingDevices d).toNat (by simp)
    simp only [Option.bind_none,Option.toList_none,List.append_nil] at counted
    simp only [List.filterMap_nil,List.append_nil,Pool.viewCons,Pool.viewNil,List.length_append] at counted ⊢
    omega

theorem StopGood.next (good : StopGood s tasks) (rooted : Rooted s tasks) (talks : TalkGood s tasks)
    (ran : Section s frame out) (turn : Pool.Turn frame out tasks tasks') :
    StopGood out.shared tasks' where
  flags := good.counts (sectionStops ran).2 turn
  attended := by
    have change := (sectionStops ran).2
    intro task mem fs d rest here
    rcases turn.mem mem with old | new | ⟨f,others,runs,old,same⟩
    · have stopping := good.stopping old here
      exact (good.attended task old fs d rest here).keep (nothingNew rooted ran stopping)
    · cases change with
      | beside flags _ next spawned =>
        have inside : Frame.clearStop d ∈ task := by rw [here]; simp
        exact absurd inside (spawned task new d)
      | cleared e => cases new
      | stops expired =>
        cases List.mem_singleton.mp new
        have only := (expireOnly expired (s,[])).1.same
        have attended : Attended s (expired.foldl expireStep (s,[])).2 :=
          expireCovers ⟨rfl,rfl,rfl⟩ fun fs _ _ none => by simp at none
        refine (attended fs d rest here).tables ?_ ?_ ?_ <;> simp only <;> rw [only]
    · subst same
      rcases splitAt here with ⟨more,early⟩ | ⟨more,first,last⟩
      · have inside : Frame.clearStop d ∈ out.next := by rw [early]; simp
        cases change with
        | beside _ _ next => exact absurd inside (next d)
        | cleared | stops => cases inside
      · have whole : f :: others = (f :: more) ++ .clearStop d :: rest := by rw [last]; rfl
        have covers := good.attended _ old _ d rest whole
        have nothing := nothingNew rooted ran (good.stopping old whole)
        rw [first]
        cases ran with
        | frame g r ok =>
          cases Option.some.inj runs
          exact covers.moved rooted talks ok nothing
        | call | world => cases runs

theorem reachedStops {s : State} (reached : Reached s) : StopGood s.shared s.tasks := by
  induction reached with
  | start boot => exact stopGoodBoot boot
  | next before taken good =>
    obtain ⟨out,ran,same,turn⟩ := stepSection taken
    rw [same]
    exact good.next (reachedRooted before) (reachedTalks before) ran turn

end

theorem deviceStopExclusive {s : State} (reached : Reached s) (d : String) :
    (Pool.view (clearing d) s.tasks).length = (s.shared.stoppingDevices d).toNat ∧
    (∀ a t, step s a = some t → s.shared.stoppingDevices d = true →
      (∃ new, t.shared.log = s.shared.log ++ new ∧ ∀ kind, .admitted kind d ∉ new) ∧
      (∀ x o, Stored t.shared x o → o.key.deviceID = d → ∃ p, Stored s.shared x p) ∧
      (∀ b, t.shared.broadcasts.get d = some b → s.shared.broadcasts.get d = some b) ∧
      ∀ key, key.deviceID = d → t.shared.ptzOwners.get key = some () →
        s.shared.ptzOwners.get key = some ()) ∧
    (∀ a, running s a = some (.clearStop d) →
      (∀ x o, Stored s.shared x o → o.key.deviceID ≠ d) ∧ s.shared.broadcasts.get d = none) := by
  have good := reachedStops reached
  refine ⟨good.flags d,?_,?_⟩
  · intro a t ok stopping
    obtain ⟨out,ran,same,_⟩ := stepSection ok
    rw [same]
    have guarded := (sectionStops ran).1
    have nothing := nothingNew (reachedRooted reached) ran stopping
    refine ⟨?_,?_,nothing.talk,?_⟩
    · obtain ⟨new,log,each⟩ := guarded.log
      refine ⟨new,log,fun kind mem => ?_⟩
      rcases each _ mem with silent | ⟨kind',e,admitted,free⟩
      · cases silent
      · cases admitted
        exact nomatch stopping.symm.trans free
    · intro x o stored own
      obtain ⟨p,before,_⟩ := nothing.sessions x o stored own
      exact ⟨p,before⟩
    · intro key own here
      rcases guarded.owners key here with old | free
      · exact old
      · rw [own,stopping] at free
        cases free
  · intro a runs
    obtain ⟨rest,mem⟩ : ∃ rest, .clearStop d :: rest ∈ s.tasks := by
      cases a with
      | run i r => exact Pool.nextMem runs
      | call | world => cases runs
    have covers := good.attended _ mem [] d rest rfl
    constructor
    · intro x o stored own
      obtain ⟨_,_,none⟩ := covers.sessions x o stored own
      cases none
    · cases held : s.shared.broadcasts.get d with
      | none => rfl
      | some b => cases covers.talk b held

def stopDuringStart : List Action :=
  [.call (.live (.startLive "d" "c" {} 0 "id")),.call (.device (.unregister "d" true true)),.run 1 .ok,
    .run 0 .fail,.run 0 .ok,.run 1 .ok]

theorem stopDuringStartClears : ∃ s, Reached s ∧ .admitted .live "d" ∈ s.shared.log ∧
    running s (.run 1 .ok) = some (.clearStop "d") ∧
    (∀ x o, Stored s.shared x o → o.key.deviceID ≠ "d") ∧ s.shared.broadcasts.get "d" = none := by
  have ends : (Transition.run step firstStart stopDuringStart).any (fun s =>
      decide (.admitted .live "d" ∈ s.shared.log) &&
        decide (running s (.run 1 .ok) = some (.clearStop "d"))) = true := by decide
  obtain ⟨s,reached,ends⟩ := reachedBy ends
  simp only [Bool.and_eq_true,decide_eq_true_eq] at ends
  exact ⟨s,reached,ends.1,ends.2,(deviceStopExclusive reached "d").2.2 _ ends.2⟩

end MediaServer.Signaling
