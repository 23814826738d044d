import MediaServer.Signaling

/-! What the sections that are not about sessions leave alone, component by component. -/
namespace MediaServer.Signaling

variable {s : Server} {r : Reply}

inductive Part where
  | session | talk | source | device | pass
  deriving DecidableEq

def Frame.part : Frame → Part
  | .session _ _ => .session
  | .talk _ _ => .talk
  | .source _ _ | .deleteReceiver _ => .source
  | .clearStop _ | .ptzDone _ => .device
  | .waitDone _ | .pass _ _ => .pass

def Logged (s t : Server) (fits : Event → Prop) : Prop :=
  ∃ new, t.log = s.log ++ new ∧ ∀ e ∈ new, fits e ∨
    ∃ kind d, e = .admitted kind d ∧ s.stoppingDevices d = false

variable {fits : Event → Prop} {b : Bid} {out : Outcome} {streamID : String}

theorem Logged.none {t : Server} (same : t.log = s.log) : Logged s t fits :=
  ⟨[],by simp [same],nofun⟩

theorem Logged.one {t : Server} {e : Event} (same : t.log = s.log ++ [e]) (fit : fits e) :
    Logged s t fits :=
  ⟨[e],same,fun _ mem => .inl (List.mem_singleton.mp mem ▸ fit)⟩

theorem Logged.admission {t : Server} {kind : Admission} {d : String}
    (same : t.log = s.log ++ [.admitted kind d]) (free : s.stoppingDevices d = false) :
    Logged s t fits :=
  ⟨[_],same,fun _ mem => .inr ⟨kind,d,List.mem_singleton.mp mem,free⟩⟩

def Event.talks : Event → Prop
  | .peered _ _ => True
  | _ => False

structure TalksOnly (s t : Server) : Prop where
  same : t = {s with broadcasts := t.broadcasts, talks := t.talks, dialogs := t.dialogs
                     drawn := t.drawn, log := t.log}
  drawn : s.drawn ⊆ t.drawn
  log : Logged s t Event.talks

theorem TalksOnly.quiet {t : Server}
    (same : t = {s with broadcasts := t.broadcasts, talks := t.talks, dialogs := t.dialogs}) :
    TalksOnly s t := by
  constructor
  · rw [same]
  · rw [same]; exact fun _ h => h
  · exact .none (by rw [same])

theorem prepareOnly {t : Talk} {w : Waiting} {out : TalkOutcome}
    (ok : prepareStep s b t w r = some out) : TalksOnly s out.server := by
  unfold prepareStep at ok
  split at ok <;> try contradiction
  · split at ok <;> try contradiction
    cases Option.some.inj ok; exact .quiet rfl
  · split at ok <;> try contradiction
    cases Option.some.inj ok; exact .quiet rfl
  · obtain ⟨⟨d,dialog⟩,_,ok⟩ := Option.bind_eq_some_iff.mp ok
    simp only at ok
    split at ok <;> try contradiction
    cases Option.some.inj ok; exact .quiet rfl
  · obtain ⟨dialog,_,ok⟩ := Option.bind_eq_some_iff.mp ok
    split at ok <;> try contradiction
    cases Option.some.inj ok; exact .quiet rfl
  · cases Option.some.inj ok; exact .quiet rfl
  · split at ok <;> try contradiction
    cases Option.some.inj ok; exact .quiet rfl

variable {f : TalkFrame} {c : TalkCall} {value sourceID deviceID : String} {stage : SourceStage}
  {p : Pass}

theorem talkOnly {t : Talk} {out : TalkOutcome} (ok : talkExec s b t r f = some out) :
    TalksOnly s out.server := by
  cases f with
  | prepare w =>
    simp only [talkExec] at ok
    split at ok
    · obtain ⟨dialog,_,same⟩ := Option.map_eq_some_iff.mp ok
      subst same
      exact ⟨rfl,fun _ h => h,.one rfl trivial⟩
    · exact prepareOnly ok
  | create =>
    simp only [talkExec] at ok
    split at ok <;> first | contradiction | (cases Option.some.inj ok; exact .quiet rfl)
  | answer d | acks d =>
    obtain ⟨dialog,_,same⟩ := Option.map_eq_some_iff.mp ok
    subst same
    exact .quiet rfl
  | result failed rejected =>
    simp only [talkExec] at ok
    cases Option.some.inj ok
    cases failed <;> exact .quiet rfl
  | last =>
    simp only [talkExec] at ok
    cases Option.some.inj ok
    simp only
    split <;> exact .quiet rfl
  | settle | answerWait | ackWait | caller | waitDone =>
    simp only [talkExec] at ok
    split at ok <;> first | contradiction | (cases Option.some.inj ok; exact .quiet rfl)
  | _ => cases Option.some.inj ok; exact .quiet rfl

theorem foldCancel (bs : List Bid) (cause : TalkCause) (s : Server) :
    ∃ talks, bs.foldl (fun s b => s.cancelTalk b cause) s = {s with talks := talks} := by
  induction bs generalizing s with
  | nil => exact ⟨s.talks,rfl⟩
  | cons b rest ih =>
    obtain ⟨talks,same⟩ := ih (s.cancelTalk b cause)
    exact ⟨talks,same⟩

theorem talkCallOnly (ok : talkCall s c = some out) : TalksOnly s out.shared := by
  cases c with
  | startBroadcast deviceID look b sourceID mediaID sn =>
    simp only [talkCall,Server.startBroadcast] at ok
    split at ok
    · cases Option.some.inj ok; exact .quiet rfl
    · rename_i allowed
      split at ok <;> try contradiction
      cases Option.some.inj ok
      simp only [not_or,Bool.not_eq_true] at allowed
      exact ⟨rfl,fun _ h => List.mem_cons_of_mem _ h,.admission rfl allowed.2.1⟩
  | stopBroadcast deviceID mediaID =>
    cases Option.some.inj ok
    unfold Server.stopBroadcast
    split
    · exact .quiet rfl
    · split <;> exact .quiet rfl
  | response =>
    cases Option.some.inj ok
    simp only [Server.broadcastResponse]
    split
    · exact .quiet rfl
    · split <;> exact .quiet rfl
  | invite =>
    simp only [talkCall,Server.broadcastInvite] at ok
    split at ok
    · cases Option.some.inj ok; exact .quiet rfl
    · split at ok <;> try contradiction
      cases Option.some.inj ok; exact .quiet rfl
  | ack =>
    cases Option.some.inj ok
    simp only [Server.broadcastAck]
    split
    · split <;> exact .quiet rfl
    · exact .quiet rfl
  | bye =>
    cases Option.some.inj ok
    simp only [Server.broadcastBye]
    split
    · split <;> exact .quiet rfl
    · exact .quiet rfl
  | shutdown =>
    simp only [talkCall] at ok
    obtain ⟨talks,same⟩ := foldCancel (s.broadcasts.entries.map Prod.snd) .canceled s
    rw [same] at ok
    cases Option.some.inj ok
    exact .quiet rfl

def Event.tokens : Event → Prop
  | .issued _ _ | .played _ _ _ | .published _ _ _ => True
  | _ => False

structure TokensOnly (s t : Server) : Prop where
  same : t = {s with tokens := t.tokens, prepared := t.prepared, pushRuns := t.pushRuns
                     pushDevices := t.pushDevices, pulls := t.pulls, sourceBusy := t.sourceBusy
                     receivers := t.receivers, opened := t.opened, drawn := t.drawn, log := t.log}
  drawn : s.drawn ⊆ t.drawn
  log : Logged s t Event.tokens

theorem TokensOnly.quiet {t : Server}
    (same : t = {s with tokens := t.tokens, prepared := t.prepared, pushRuns := t.pushRuns
                        pushDevices := t.pushDevices, pulls := t.pulls, sourceBusy := t.sourceBusy
                        receivers := t.receivers, opened := t.opened}) : TokensOnly s t := by
  constructor
  · rw [same]
  · rw [same]; exact fun _ h => h
  · exact .none (by rw [same])

theorem issueSpec {t : Server} (ok : s.issue value streamID = some t) :
    value ∉ s.drawn ∧
      t = {s with tokens := s.tokens.set value ⟨streamID,s.now + s.tokenTTL⟩
                  drawn := value :: s.drawn
                  log := s.log ++ [.issued value ⟨streamID,s.now + s.tokenTTL⟩]} := by
  unfold Server.issue at ok
  split at ok <;> try contradiction
  rename_i unused
  cases Option.some.inj ok
  exact ⟨unused,rfl⟩

theorem issueOnly {t : Server} (ok : s.issue value streamID = some t) : TokensOnly s t := by
  obtain ⟨_,same⟩ := issueSpec ok
  subst same
  exact ⟨rfl,fun _ h => List.mem_cons_of_mem _ h,.one rfl trivial⟩

theorem revoked {v : String} {token : StreamToken}
    (here : (s.revokeStream streamID).tokens.get v = some token) :
    s.tokens.get v = some token ∧ token.streamID ≠ streamID := by
  simp only [Server.revokeStream,Table.getDeleteFunc] at here
  obtain ⟨found,other⟩ := Option.filter_eq_some_iff.mp here
  exact ⟨found,by simpa using other⟩

theorem sourceOnly (ok : sourceExec s sourceID r stage = some out) : TokensOnly s out.shared := by
  cases stage with
  | reserve streamID =>
    simp only [sourceExec] at ok
    split at ok
    · cases Option.some.inj ok; exact .quiet rfl
    · split at ok <;> try contradiction
      cases Option.some.inj ok
      exact ⟨rfl,fun _ h => List.mem_cons_of_mem _ h,.none rfl⟩
  | drop | take =>
    simp only [sourceExec] at ok
    split at ok <;> cases Option.some.inj ok <;> exact .quiet rfl
  | _ => cases Option.some.inj ok; exact .quiet rfl

theorem deviceCreateOnly {t : Server} {name token : String} {protocol : PushProtocol} {store : Bool}
    (ok : s.deviceCreate deviceID name protocol token store = some t) : TokensOnly s t := by
  simp only [Server.deviceCreate] at ok
  split at ok <;> try contradiction
  split at ok
  · cases Option.some.inj ok; exact .quiet rfl
  · split at ok
    · cases Option.some.inj ok; exact .quiet rfl
    · rename_i u made
      cases Option.some.inj ok
      unfold Server.createPushDevice at made
      split at made <;> try contradiction
      cases Option.some.inj made
      exact ⟨rfl,fun _ h => List.mem_cons_of_mem _ h,.none rfl⟩

theorem tokenCallOnly {c : TokenCall} (ok : tokenCall s c = some out)
    (other : ∀ value streamID store, c ≠ .consumeStreamToken value .play streamID store) :
    TokensOnly s out.shared := by
  cases c with
  | newPlaybackURLs source ready value =>
    obtain ⟨t,ran,same⟩ := Option.map_eq_some_iff.mp ok
    subst same
    unfold Server.newPlaybackURLs at ran
    split at ran
    · cases Option.some.inj ran; exact .quiet rfl
    · split at ran
      · cases Option.some.inj ran; exact .quiet rfl
      · exact issueOnly ran
  | consumeStreamToken value operation streamID store =>
    cases operation with
    | play => exact absurd rfl (other value streamID store)
    | publish =>
      cases Option.some.inj ok
      simp only [Server.consumeStreamToken,Server.publish]
      split
      · exact .quiet rfl
      split
      · exact .quiet rfl
      split
      · exact .quiet rfl
      · exact ⟨rfl,fun _ h => h,.one rfl trivial⟩
  | expire => cases Option.some.inj ok; exact .quiet rfl
  | credentialPrepare value =>
    obtain ⟨t,ran,same⟩ := Option.map_eq_some_iff.mp ok
    subst same
    unfold Server.credentialPrepare at ran
    split at ran <;> try contradiction
    cases Option.some.inj ran
    exact ⟨rfl,fun _ h => List.mem_cons_of_mem _ h,.none rfl⟩
  | deviceCreate deviceID name protocol token store =>
    obtain ⟨t,ran,same⟩ := Option.map_eq_some_iff.mp ok
    subst same
    exact deviceCreateOnly ran
  | devicePatch deviceID name protocol store =>
    cases Option.some.inj ok
    simp only [Server.devicePatch]
    split
    · exact .quiet rfl
    · split <;> exact .quiet rfl
  | pushPublish deviceID value store =>
    obtain ⟨t,ran,same⟩ := Option.map_eq_some_iff.mp ok
    subst same
    unfold Server.pushPublish at ran
    split at ran <;> try contradiction
    split at ran
    · cases Option.some.inj ran; exact .quiet rfl
    · split at ran
      · cases Option.some.inj ran; exact .quiet rfl
      · split at ran
        · cases Option.some.inj ran
          exact ⟨rfl,fun _ h => List.mem_cons_of_mem _ h,.none rfl⟩
        · cases Option.some.inj ran; exact .quiet rfl
  | stopPushDevice deviceID remove store =>
    simp only [tokenCall,Server.stopPushDevice] at ok
    split at ok <;> try contradiction
    split at ok
    · cases Option.some.inj ok; exact .quiet rfl
    · split at ok <;> cases Option.some.inj ok <;> cases remove <;> exact .quiet rfl
  | startSource sourceID streamID store =>
    simp only [tokenCall,Server.enterSource] at ok
    split at ok <;> try contradiction
    split at ok <;> cases Option.some.inj ok <;> exact .quiet rfl
  | stopSource sourceID store =>
    simp only [tokenCall,Server.enterSource] at ok
    split at ok <;> try contradiction
    split at ok <;> cases Option.some.inj ok <;> exact .quiet rfl

structure DevicesOnly (s t : Server) : Prop where
  same : t = {s with stoppingDevices := t.stoppingDevices, talks := t.talks, tokens := t.tokens
                     ptzOwners := t.ptzOwners, log := t.log}
  log : Logged s t fun _ => False
  tokens : ∀ v token, t.tokens.get v = some token → s.tokens.get v = some token

theorem beginOnly (deviceID : String) : DevicesOnly s (s.beginDeviceStop deviceID) := by
  unfold Server.beginDeviceStop
  have fewer (drop : String → StreamToken → Bool) (v : String) (token : StreamToken)
      (here : (s.tokens.deleteFunc drop).get v = some token) : s.tokens.get v = some token := by
    rw [Table.getDeleteFunc] at here
    exact (Option.filter_eq_some_iff.mp here).1
  cases s.broadcasts.get deviceID <;> exact ⟨rfl,.none rfl,fewer _⟩

theorem expireStepOnly (out : Server × List Frame) (deviceID : String) :
    DevicesOnly out.1 (expireStep out deviceID).1 ∧ (expireStep out deviceID).1.log = out.1.log := by
  unfold expireStep
  split
  · exact ⟨⟨rfl,.none rfl,fun _ _ here => here⟩,rfl⟩
  · refine ⟨beginOnly deviceID,?_⟩
    simp only [Server.beginDeviceStop]
    split <;> rfl

theorem expireOnly (expired : List String) (out : Server × List Frame) :
    DevicesOnly out.1 (expired.foldl expireStep out).1 ∧
      (expired.foldl expireStep out).1.log = out.1.log := by
  induction expired generalizing out with
  | nil => exact ⟨⟨rfl,.none rfl,fun _ _ here => here⟩,rfl⟩
  | cons d rest ih =>
    rw [List.foldl_cons]
    obtain ⟨first,kept⟩ := expireStepOnly out d
    obtain ⟨later,log⟩ := ih (expireStep out d)
    refine ⟨⟨?_,.none (log.trans kept),?_⟩,log.trans kept⟩
    · rw [later.same,first.same]
    · exact fun v token here => first.tokens v token (later.tokens v token here)

inductive DeviceEffect (s : Server) : Outcome → Prop where
  | idle : DeviceEffect s {shared := s}
  | admits (kind : Admission) (deviceID : String) (free : s.stoppingDevices deviceID = false) :
      DeviceEffect s {shared := s.admission kind deviceID}
  | steers (key : LiveKey) (free : s.stoppingDevices key.deviceID = false) :
      DeviceEffect s {shared := {s.admission .ptz key.deviceID with ptzOwners := s.ptzOwners.set key ()}
                      spawned := [[.ptzDone key]]}
  | stops (expired : List String) :
      DeviceEffect s {shared := (expired.foldl expireStep (s,[])).1
                      spawned := [(expired.foldl expireStep (s,[])).2]}

theorem DeviceEffect.stop (free : s.stoppingDevices deviceID = false) :
    DeviceEffect s {shared := s.beginDeviceStop deviceID, spawned := [s.deviceStop deviceID]} := by
  have effect := DeviceEffect.stops (s := s) [deviceID]
  simpa [expireStep,free] using effect

theorem deviceEffect {c : DeviceCall} (ok : deviceCall s c = some out) : DeviceEffect s out := by
  cases c with
  | expireDevices expired => cases Option.some.inj ok; exact .stops expired
  | register | keepalive =>
    simp only [deviceCall] at ok
    split at ok <;> cases Option.some.inj ok
    · exact .idle
    · rename_i allowed
      simp only [not_or,Bool.not_eq_true] at allowed
      exact .admits _ _ allowed.2
  | catalogQuery deviceID look =>
    simp only [deviceCall] at ok
    split at ok <;> cases Option.some.inj ok
    · exact .idle
    · rename_i allowed
      simp only [not_or,Bool.not_eq_true] at allowed
      exact .admits .catalog deviceID allowed.2.1
  | unregister deviceID known registered =>
    simp only [deviceCall] at ok
    split at ok <;> cases Option.some.inj ok
    · exact .idle
    · rename_i allowed
      simp only [not_or,Bool.not_eq_true] at allowed
      exact .stop allowed.2.1
  | deleteDevice deviceID stored =>
    simp only [deviceCall] at ok
    split at ok <;> cases Option.some.inj ok
    · exact .idle
    · rename_i allowed
      simp only [not_or,Bool.not_eq_true] at allowed
      exact .stop allowed.2
  | ptz deviceID channelID look =>
    simp only [deviceCall] at ok
    split at ok <;> cases Option.some.inj ok
    · exact .idle
    · rename_i allowed
      simp only [not_or,Bool.not_eq_true] at allowed
      exact .steers ⟨deviceID,channelID,""⟩ allowed.2.2.1

theorem DeviceEffect.only (effect : DeviceEffect s out) : DevicesOnly s out.shared := by
  cases effect with
  | idle => exact ⟨rfl,.none rfl,fun _ _ here => here⟩
  | admits kind deviceID free => exact ⟨rfl,.admission rfl free,fun _ _ here => here⟩
  | steers key free => exact ⟨rfl,.admission rfl free,fun _ _ here => here⟩
  | stops expired => exact (expireOnly expired (s,[])).1

theorem expireFrames {expired : List String} {out : Server × List Frame}
    (same : out.1.sessions = s.sessions ∧ out.1.heap = s.heap ∧ out.1.broadcasts = s.broadcasts)
    {f : Frame} (mem : f ∈ (expired.foldl expireStep out).2) : f ∈ out.2 ∨ ∃ d, f ∈ s.deviceStop d := by
  induction expired generalizing out with
  | nil => exact .inl mem
  | cons d rest ih =>
    rw [List.foldl_cons] at mem
    have only := (expireStepOnly out d).1.same
    rcases ih (by rw [only]; exact same) mem with early | later
    · unfold expireStep at early
      split at early
      · exact .inl early
      · rcases List.mem_append.mp early with old | new
        · exact .inl old
        · refine .inr ⟨d,?_⟩
          unfold Server.deviceStop Server.deviceSessions Server.matching at *
          rw [same.1,same.2.1,same.2.2] at new
          exact new
    · exact .inr later

theorem DeviceEffect.frames (effect : DeviceEffect s out) :
    ∀ task ∈ out.spawned, ∀ f ∈ task, (∃ key, f = .ptzDone key) ∨ ∃ d, f ∈ s.deviceStop d := by
  intro task mem f inside
  cases effect with
  | idle | admits => cases mem
  | steers key =>
    cases List.mem_singleton.mp mem
    exact .inl ⟨key,List.mem_singleton.mp inside⟩
  | stops expired =>
    cases List.mem_singleton.mp mem
    exact .inr ((expireFrames ⟨rfl,rfl,rfl⟩ inside).resolve_left List.not_mem_nil)

def Event.passes : Event → Prop
  | .listed _ _ | .stopped _ _ _ | .droppedPull _ _ _ | .droppedPush _ _ _ | .orphaned _ _ => True
  | _ => False

structure PassOnly (s t : Server) : Prop where
  same : t = {s with waits := t.waits, talks := t.talks, pulls := t.pulls, tokens := t.tokens
                     pushRuns := t.pushRuns, receivers := t.receivers, log := t.log}
  log : Logged s t Event.passes

theorem passStopsOnly (pass : Nat) (lapsed : Bool) (fits : Sid → Session → Bool) :
    PassOnly s (s.passStops pass lapsed fits).shared := by
  refine ⟨rfl,_,rfl,?_⟩
  intro e mem
  obtain ⟨x,_,same⟩ := List.mem_map.mp mem
  subst same
  exact .inl trivial

theorem dropPushOnly (p : Pass) (e : String × PushRun) : PassOnly s (dropEndedPush p s e) := by
  unfold dropEndedPush
  split
  · split
    · exact ⟨rfl,.none rfl⟩
    · exact ⟨rfl,.one rfl trivial⟩
  · exact ⟨rfl,.none rfl⟩

theorem PassOnly.trans {t u : Server} (first : PassOnly s t) (second : PassOnly t u) :
    PassOnly s u := by
  obtain ⟨new,same,fits⟩ := first.log
  obtain ⟨new',same',fits'⟩ := second.log
  have flags : t.stoppingDevices = s.stoppingDevices := by rw [first.same]
  refine ⟨?_,new ++ new',by rw [same',same,List.append_assoc],?_⟩
  · rw [second.same,first.same]
  · intro e mem
    rcases List.mem_append.mp mem with old | late
    · exact fits e old
    · rcases fits' e late with fit | ⟨kind,d,admitted,free⟩
      · exact .inl fit
      · exact .inr ⟨kind,d,admitted,by rw [← flags]; exact free⟩

theorem dropPushesOnly (p : Pass) (pushes : List (String × PushRun)) (s : Server) :
    PassOnly s (pushes.foldl (dropEndedPush p) s) := by
  induction pushes generalizing s with
  | nil => exact ⟨rfl,.none rfl⟩
  | cons e rest ih => exact (dropPushOnly p e).trans (ih _)

theorem passOnly {stage : PassStage} (ok : passExec s p r stage = some out) :
    PassOnly s out.shared := by
  cases stage with
  | lapsed | endedWait =>
    simp only [passExec] at ok
    split at ok <;> try contradiction
    cases Option.some.inj ok; exact ⟨rfl,.none rfl⟩
  | leases rest =>
    cases rest with
    | nil => cases Option.some.inj ok; exact ⟨rfl,.none rfl⟩
    | cons b rest =>
      simp only [passExec] at ok
      cases Option.some.inj ok
      simp only [Server.endLease]
      split
      · exact ⟨rfl,.none rfl⟩
      · split
        · split <;> exact ⟨rfl,.none rfl⟩
        · exact ⟨rfl,.none rfl⟩
  | list =>
    simp only [passExec] at ok
    split at ok <;> cases Option.some.inj ok
    · exact ⟨rfl,.one rfl trivial⟩
    · exact ⟨rfl,.none rfl⟩
  | ended =>
    cases Option.some.inj ok
    exact passStopsOnly ..
  | dropPulls rest =>
    cases rest with
    | nil => cases Option.some.inj ok; exact ⟨rfl,.none rfl⟩
    | cons e rest =>
      simp only [passExec] at ok
      cases Option.some.inj ok
      simp only [Server.dropEndedPull]
      split
      · split
        · exact ⟨rfl,.none rfl⟩
        · exact ⟨rfl,.one rfl trivial⟩
      · exact ⟨rfl,.none rfl⟩
  | dropPushes =>
    cases Option.some.inj ok
    exact dropPushesOnly p p.pushes s
  | orphans rest =>
    cases rest with
    | nil => cases Option.some.inj ok; exact ⟨rfl,.none rfl⟩
    | cons streamID rest =>
      simp only [passExec] at ok
      split at ok <;> cases Option.some.inj ok
      · exact ⟨rfl,.none rfl⟩
      · exact ⟨rfl,.one rfl trivial⟩
  | _ => cases Option.some.inj ok; exact ⟨rfl,.none rfl⟩

theorem tokenSpawned {c : TokenCall} (ok : tokenCall s c = some out) :
    ∀ task ∈ out.spawned, ∀ f ∈ task, f.part = .source := by
  have enter {sourceID : String} {stage : SourceStage} {store : Bool}
      (ok : s.enterSource sourceID stage store = some out) :
      ∀ task ∈ out.spawned, ∀ f ∈ task, f.part = .source := by
    unfold Server.enterSource at ok
    split at ok <;> try contradiction
    split at ok <;> cases Option.some.inj ok
    · simp [Frame.part]
    · nofun
  cases c with
  | newPlaybackURLs | credentialPrepare | deviceCreate | pushPublish =>
    obtain ⟨t,_,same⟩ := Option.map_eq_some_iff.mp ok
    subst same
    nofun
  | consumeStreamToken => cases Option.some.inj ok; nofun
  | expire | devicePatch => cases Option.some.inj ok; nofun
  | stopPushDevice deviceID remove store =>
    simp only [tokenCall,Server.stopPushDevice] at ok
    split at ok <;> try contradiction
    split at ok
    · cases Option.some.inj ok; nofun
    · split at ok <;> cases Option.some.inj ok
      · nofun
      · simp [Frame.part]
  | startSource => exact enter ok
  | stopSource => exact enter ok

theorem sourceNext (ok : sourceExec s sourceID r stage = some out) :
    (∀ f ∈ out.next, f.part = .source) ∧ out.spawned = [] := by
  cases stage with
  | reserve streamID =>
    simp only [sourceExec] at ok
    split at ok
    · cases Option.some.inj ok; exact ⟨nofun,rfl⟩
    · split at ok <;> try contradiction
      cases Option.some.inj ok; exact ⟨by simp [Frame.part],rfl⟩
  | create => cases Option.some.inj ok; exact ⟨by simp [Frame.part],rfl⟩
  | drop =>
    simp only [sourceExec] at ok
    split at ok <;> cases Option.some.inj ok <;> exact ⟨nofun,rfl⟩
  | take =>
    simp only [sourceExec] at ok
    split at ok <;> cases Option.some.inj ok
    · exact ⟨nofun,rfl⟩
    · exact ⟨by simp [Frame.part],rfl⟩
  | _ => cases Option.some.inj ok; exact ⟨nofun,rfl⟩

theorem talkSpawned (ok : talkCall s c = some out) :
    ∀ task ∈ out.spawned, ∀ f ∈ task, f.part = .talk := by
  cases c with
  | startBroadcast =>
    simp only [talkCall,Server.startBroadcast] at ok
    split at ok
    · cases Option.some.inj ok; nofun
    · split at ok <;> try contradiction
      cases Option.some.inj ok; simp [Frame.part]
  | stopBroadcast =>
    cases Option.some.inj ok
    unfold Server.stopBroadcast
    split
    · nofun
    · split
      · simp [Frame.part]
      · nofun
  | invite =>
    simp only [talkCall,Server.broadcastInvite] at ok
    split at ok
    · cases Option.some.inj ok; nofun
    · split at ok <;> try contradiction
      cases Option.some.inj ok; simp [Frame.part]
  | _ => cases Option.some.inj ok; nofun

theorem talkTurnSpec (ok : s.talkTurn b f r = some out) :
    ∃ t turned, s.talks b = some t ∧ talkExec s b t r f = some turned ∧
      out = {shared := turned.server, next := turned.next.map (.talk b)} := by
  simp only [Server.talkTurn,bind,Option.bind_eq_some_iff] at ok
  obtain ⟨t,here,turned,ran,last⟩ := ok
  exact ⟨t,turned,here,ran,(Option.some.inj last).symm⟩

theorem passNext {stage : PassStage} (ok : passExec s p r stage = some out) :
    (∀ f ∈ out.next, f.part = .pass) ∧
      (out.spawned = [] ∨
        stage = .ended ∧ ∃ fits, out.spawned = (s.stopMatching p.number fits).spawned) := by
  cases stage with
  | lapsed | endedWait =>
    simp only [passExec] at ok
    split at ok <;> try contradiction
    cases Option.some.inj ok; exact ⟨by simp [Frame.part],.inl rfl⟩
  | list =>
    simp only [passExec] at ok
    split at ok <;> cases Option.some.inj ok
    · exact ⟨by simp [Frame.part],.inl rfl⟩
    · exact ⟨nofun,.inl rfl⟩
  | leases rest | dropPulls rest =>
    cases rest <;> cases Option.some.inj ok <;> exact ⟨by simp [Frame.part],.inl rfl⟩
  | orphans rest =>
    cases rest with
    | nil => cases Option.some.inj ok; exact ⟨nofun,.inl rfl⟩
    | cons streamID rest =>
      simp only [passExec] at ok
      split at ok <;> cases Option.some.inj ok <;> exact ⟨by simp [Frame.part],.inl rfl⟩
  | ended => cases Option.some.inj ok; exact ⟨by simp [Frame.part],.inr ⟨rfl,_,rfl⟩⟩
  | _ => cases Option.some.inj ok; exact ⟨by simp [Frame.part],.inl rfl⟩

end MediaServer.Signaling
