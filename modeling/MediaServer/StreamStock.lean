import MediaServer.SessionSection

/-! What one section does to the push devices, the pulls and the credentials: most sections
leave them alone, and the others are a call of the token service, a section of startSource or
stopSource, or a drop by a pass. -/
namespace MediaServer.Signaling

def Event.publication : Event → Option (String × String × Nat)
  | .published value deviceID now => some (value,deviceID,now)
  | _ => none

def Event.ticket : Event → Option (String × StreamToken)
  | .issued value token => some (value,token)
  | _ => none

def Event.play : Event → Option (String × String × Nat)
  | .played value streamID now => some (value,streamID,now)
  | _ => none

def Server.publications (s : Server) : List (String × String × Nat) :=
  s.log.filterMap Event.publication

def Server.tickets (s : Server) : List (String × StreamToken) := s.log.filterMap Event.ticket

def Server.plays (s : Server) : List (String × String × Nat) := s.log.filterMap Event.play

structure SameTokenLog (s t : Server) : Prop where
  publications : t.publications = s.publications
  tickets : t.tickets = s.tickets
  plays : t.plays = s.plays

def Session.card (o : Session) : LiveKey × String × Nat × Nat := (o.key,o.streamID,o.tickets,o.claimed)

structure SameSources (s t : Server) : Prop where
  prepared : t.prepared = s.prepared
  pushRuns : t.pushRuns = s.pushRuns
  pushDevices : t.pushDevices = s.pushDevices
  pulls : t.pulls = s.pulls
  sourceBusy : t.sourceBusy = s.sourceBusy
  publications : t.publications = s.publications
  clock : 0 < unixMilli s.now → 0 < unixMilli t.now
  receivers : ∀ id ∈ t.receivers, id ∈ s.receivers ∨ id ∈ t.opened

structure SameStock (s t : Server) : Prop extends SameSources s t where
  cards : ∀ x, (t.heap x).map Session.card = (s.heap x).map Session.card
  tokens : ∀ v token, t.tokens.get v = some token → s.tokens.get v = some token
  opened : t.opened = s.opened
  tickets : t.tickets = s.tickets
  plays : t.plays = s.plays

inductive TokenEffect (s : Server) : Outcome → Prop where
  | idle : TokenEffect s {shared := s}
  | issued (value streamID : String) (named : streamID ≠ "") (running : s.streamRunning streamID = true)
      (unused : value ∉ s.drawn) :
      TokenEffect s {shared := {s with
        tokens := s.tokens.set value ⟨streamID,s.now + s.tokenTTL⟩, drawn := value :: s.drawn
        log := s.log ++ [.issued value ⟨streamID,s.now + s.tokenTTL⟩]}}
  | claimed (value : String) (token : StreamToken) (x : Sid) (o : Session)
      (here : s.tokens.get value = some token) (early : s.now < token.expiresAt)
      (found : s.heap x = some o) (stored : ∃ key, s.sessions.get key = some x)
      (history : o.key.historyID = token.streamID) (free : s.stoppingDevices o.key.deviceID = false)
      (state : o.state = .preparing) (context : o.ctxErr = false) :
      TokenEffect s {shared := {s.put x {o with claimed := o.claimed + 1} with
        tokens := s.tokens.delete value, log := s.log ++ [.played value token.streamID s.now]}}
  | played (value : String) (token : StreamToken) (here : s.tokens.get value = some token)
      (early : s.now < token.expiresAt) (running : s.streamRunning token.streamID = true) :
      TokenEffect s {shared := {s with
        tokens := s.tokens.delete value, log := s.log ++ [.played value token.streamID s.now]}}
  | published (d : String) (row : PushDevice) (here : s.pushDevices.get d = some row)
      (unused : row.usedAt = 0) (early : unixMilli s.now < row.expiresAt) :
      TokenEffect s {shared := {s with
        pushDevices := s.pushDevices.set d {row with usedAt := unixMilli s.now}
        pushRuns := s.pushRuns.set d ⟨row.credential,s.now⟩, opened := row.credential :: s.opened
        log := s.log ++ [.published row.credential d s.now]}}
  | expired : TokenEffect s {shared := s.expireTokens}
  | prepared (value : String) (unused : value ∉ s.drawn) :
      TokenEffect s {shared := {s.expireTokens with
        prepared := s.expireTokens.prepared.set value (s.now + pushCredentialTTL)
        drawn := value :: s.drawn}}
  | created (d : String) (row : PushDevice) (unused : d ∉ s.drawn)
      (ready : ∃ e, s.expireTokens.prepared.get row.credential = some e) :
      TokenEffect s {shared := {s.expireTokens with
        pushDevices := s.pushDevices.set d row
        prepared := s.expireTokens.prepared.delete row.credential, drawn := d :: s.drawn}}
  | patched (d : String) (row : PushDevice) (name : String) (protocol : PushProtocol)
      (here : s.pushDevices.get d = some row) :
      TokenEffect s {shared := {s with
        pushDevices := s.pushDevices.set d {row with name := name, protocol := protocol}}}
  | renewed (d value : String) (row : PushDevice) (deadline : Nat) (idle : s.pushRuns.get d = none)
      (here : s.pushDevices.get d = some row) (unused : value ∉ s.drawn) :
      TokenEffect s {shared := {s with
        pushDevices := s.pushDevices.set d {row with credential := value, expiresAt := deadline, usedAt := 0}
        drawn := value :: s.drawn}}
  | removed (rows : Table String PushDevice)
      (fewer : ∀ d row, rows.get d = some row → s.pushDevices.get d = some row) :
      TokenEffect s {shared := {s with pushDevices := rows}}
  | stopped (rows : Table String PushDevice) (d : String) (run : PushRun)
      (fewer : ∀ d row, rows.get d = some row → s.pushDevices.get d = some row)
      (here : s.pushRuns.get d = some run) (free : s.sourceBusy = false) :
      TokenEffect s {shared := {Server.dropPush {s with pushDevices := rows} d run with sourceBusy := true}
                     spawned := [[.deleteReceiver run.streamID]]}
  | entered (sourceID : String) (stage : SourceStage)
      (first : stage = .take ∨ ∃ streamID, stage = .reserve streamID) (free : s.sourceBusy = false) :
      TokenEffect s {shared := {s with sourceBusy := true}, spawned := [[.source sourceID stage]]}

structure Unsourced (frame : Option Frame) (out : Outcome) : Prop where
  old : ∀ f, frame = some f → f.part ≠ .source
  next : ∀ f ∈ out.next, f.part ≠ .source
  spawned : ∀ task ∈ out.spawned, ∀ f ∈ task, f.part ≠ .source

inductive StockChange (s : Server) : Option Frame → Outcome → Prop where
  | turn (x : Sid) (f : SessionFrame) (r : Reply) {turned : SessionOutcome} {frame : Option Frame}
      {out : Outcome} (ran : s.sessionTurn x f r = some turned)
      (run : frame = some (.session x f) ∨ f = .stop false) (shared : out.shared = turned.server)
      (unsourced : Unsourced frame out) : StockChange s frame out
  | born (x : Sid) (o : Session) {ssrcs : Ssrc.Allocator} {kind : Admission} {out : Outcome}
      (fresh : s.heap x = none) (unused : o.streamID ∉ s.drawn) (new : o.tickets = 0 ∧ o.claimed = 0)
      (shared : out.shared = s.addSession x o ssrcs kind) (unsourced : Unsourced none out) :
      StockChange s none out
  | same {frame : Option Frame} {out : Outcome} (same : SameStock s out.shared)
      (unsourced : Unsourced frame out) : StockChange s frame out
  | call {out : Outcome} (effect : TokenEffect s out) : StockChange s none ⟨out.shared,[],out.spawned⟩
  | source (sourceID : String) (stage : SourceStage) (r : Reply) {out : Outcome}
      (ok : sourceExec s sourceID r stage = some out) :
      StockChange s (some (.source sourceID stage)) out
  | closed (streamID : String) (gone : Bool) :
      StockChange s (some (.deleteReceiver streamID))
        ⟨(s.closeReceiver streamID gone).leaveSource,[],[]⟩
  | pull (p : Pass) (e : String × Pull) (rest : List (String × Pull)) :
      StockChange s (some (.pass p (.dropPulls (e :: rest))))
        ⟨s.dropEndedPull p e.1 e.2,[.pass p (.dropPulls rest)],[]⟩
  | pushes (p : Pass) :
      StockChange s (some (.pass p .dropPushes))
        ⟨p.pushes.foldl (dropEndedPush p) s,[.pass p .knownLives],[]⟩

section
variable {s t : Server}

theorem Logged.tokenLog {fits : Event → Prop} (logged : Logged s t fits)
    (silent : ∀ e, fits e → e.publication = .none ∧ e.ticket = .none ∧ e.play = .none) :
    SameTokenLog s t := by
  obtain ⟨new,same,each⟩ := logged
  have quiet (e : Event) (mem : e ∈ new) : e.publication = .none ∧ e.ticket = .none ∧ e.play = .none := by
    rcases each e mem with fit | ⟨kind,d,admitted,_⟩
    · exact silent e fit
    · subst admitted; exact ⟨rfl,rfl,rfl⟩
  have unseen {α : Type} (view : Event → Option α) (blind : ∀ e ∈ new, view e = .none) :
      t.log.filterMap view = s.log.filterMap view := by
    rw [same,List.filterMap_append,List.filterMap_eq_nil_iff.mpr blind,List.append_nil]
  exact ⟨unseen _ fun e mem => (quiet e mem).1,unseen _ fun e mem => (quiet e mem).2.1,
    unseen _ fun e mem => (quiet e mem).2.2⟩

theorem SameTokenLog.refl (same : t.log = s.log) : SameTokenLog s t := by
  refine ⟨?_,?_,?_⟩ <;> simp only [Server.publications,Server.tickets,Server.plays,same]

variable {e : Event} {x : Sid} {streamID : String} {out : Outcome} {store : Bool}

theorem publicationsMore (log : t.log = s.log ++ [e]) :
    t.publications = s.publications ++ e.publication.toList := by
  unfold Server.publications
  rw [log,List.filterMap_append]
  cases known : e.publication <;> simp [known]

theorem ticketsMore (log : t.log = s.log ++ [e]) : t.tickets = s.tickets ++ e.ticket.toList := by
  unfold Server.tickets
  rw [log,List.filterMap_append]
  cases known : e.ticket <;> simp [known]

theorem playsMore (log : t.log = s.log ++ [e]) : t.plays = s.plays ++ e.play.toList := by
  unfold Server.plays
  rw [log,List.filterMap_append]
  cases known : e.play <;> simp [known]

theorem SameStock.beside
    (same : t = {s with stoppingDevices := t.stoppingDevices, ptzOwners := t.ptzOwners
                        broadcasts := t.broadcasts, talks := t.talks, dialogs := t.dialogs
                        waits := t.waits, tokens := t.tokens, drawn := t.drawn, log := t.log})
    (tokens : ∀ v token, t.tokens.get v = some token → s.tokens.get v = some token)
    (log : SameTokenLog s t) : SameStock s t := by
  refine ⟨⟨?_,?_,?_,?_,?_,log.publications,?_,?_⟩,?_,tokens,?_,log.tickets,log.plays⟩ <;> rw [same]
  · exact id
  · exact fun _ mem => .inl mem
  · exact fun _ => rfl

theorem SameStock.refl (s : Server) : SameStock s s :=
  .beside rfl (fun _ _ here => here) (.refl rfl)

variable {o : Session} {id value deviceID : String} {r : Reply} {frame : Option Frame}

theorem SameStock.card (same : SameStock s t) (here : t.heap x = some o) :
    ∃ p, s.heap x = some p ∧ p.key = o.key ∧ p.streamID = o.streamID ∧ p.tickets = o.tickets ∧
      p.claimed = o.claimed := by
  have alike := same.cards x
  rw [here] at alike
  obtain ⟨p,before,card⟩ := Option.map_eq_some_iff.mp alike.symm
  simp only [Session.card,Prod.mk.injEq] at card
  exact ⟨p,before,card⟩

theorem TalksOnly.stock (only : TalksOnly s t) : SameStock s t := by
  refine .beside (by rw [only.same]) ?_ (only.log.tokenLog ?_)
  · rw [only.same]; exact fun _ _ here => here
  · intro e fit
    cases e <;> first | exact ⟨rfl,rfl,rfl⟩ | cases fit

theorem DevicesOnly.stock (only : DevicesOnly s t) : SameStock s t :=
  .beside (by rw [only.same]) only.tokens (only.log.tokenLog fun _ none => none.elim)

theorem closedReceivers {gone : Bool} (mem : id ∈ (s.closeReceiver streamID gone).receivers) :
    id ∈ s.receivers := by
  cases gone with
  | false => exact mem
  | true => exact List.mem_of_mem_filter mem

theorem openedReceivers {made : Bool} (mem : id ∈ (s.openReceiver streamID made).receivers) :
    id ∈ s.receivers ∨ id ∈ (s.openReceiver streamID made).opened := by
  cases made with
  | false => exact .inl mem
  | true =>
    rcases List.mem_cons.mp mem with self | old
    · rw [self]; exact .inr (List.mem_cons_self ..)
    · exact .inl old

theorem actSources {act : Act} (ok : (s.put x o).act o act = some t) : SameSources s t := by
  cases act with
  | issue value =>
    obtain ⟨_,same⟩ := issueSpec ok
    subst same
    refine ⟨rfl,rfl,rfl,rfl,rfl,?_,id,fun _ mem => .inl mem⟩
    simp [Server.publications,Server.put,Event.publication]
  | create made =>
    cases Option.some.inj ok
    exact ⟨rfl,rfl,rfl,rfl,rfl,rfl,id,fun _ mem => openedReceivers mem⟩
  | delete gone =>
    cases Option.some.inj ok
    exact ⟨rfl,rfl,rfl,rfl,rfl,rfl,id,fun _ mem => .inl (closedReceivers mem)⟩
  | _ => cases Option.some.inj ok; exact ⟨rfl,rfl,rfl,rfl,rfl,rfl,id,fun _ mem => .inl mem⟩

theorem turnSources {f : SessionFrame} {out : SessionOutcome} (ran : s.sessionTurn x f r = some out) :
    SameSources s out.server := by
  obtain ⟨o,e,_,_,_,_,acts⟩ := turnSpec ran
  exact actSources acts

theorem bornSources (x : Sid) (o : Session) (ssrcs : Ssrc.Allocator) (kind : Admission) :
    SameSources s (s.addSession x o ssrcs kind) := by
  refine ⟨rfl,rfl,rfl,rfl,rfl,?_,id,fun _ mem => .inl mem⟩
  simp [Server.publications,Server.addSession,Event.publication]

theorem StockChange.calls (same : SameStock s out.shared)
    (spawned : ∀ task ∈ out.spawned, ∀ f ∈ task, f.part ≠ .source) :
    StockChange s none ⟨out.shared,[],out.spawned⟩ :=
  .same same ⟨nofun,nofun,spawned⟩

theorem stopsPart {fits : Sid → Session → Bool} (group : Nat) :
    ∀ task ∈ (s.stopMatching group fits).spawned, ∀ f ∈ task, f.part ≠ .source := by
  intro task mem f inside
  obtain ⟨y,_,same⟩ := List.mem_map.mp mem
  subst same
  simp only [List.mem_cons,List.not_mem_nil,or_false] at inside
  rcases inside with same | same <;> subst same <;> nofun

theorem onePart {f : Frame} (other : f.part ≠ .source) :
    ∀ task ∈ [[f]], ∀ g ∈ task, g.part ≠ .source := by
  intro task mem g inside
  cases List.mem_singleton.mp mem
  cases List.mem_singleton.mp inside
  exact other

theorem liveStock (effect : LiveEffect s out) : StockChange s none ⟨out.shared,[],out.spawned⟩ := by
  cases effect with
  | idle => exact .calls (.refl s) (by simp)
  | guest x f => exact .calls (.refl s) (onePart (by simp [Frame.part]))
  | stopped x ran =>
    refine .turn x _ _ ran (.inr rfl) rfl ⟨by simp,by simp,?_⟩
    simp [SessionOutcome.entered,Frame.part]
  | stopsAll group =>
    exact .calls (.beside rfl (fun _ _ here => here) (.refl rfl)) (stopsPart group)
  | born x deviceID channelID historyID id duration kind playback acquired fresh unused =>
    exact .born x _ fresh unused ⟨rfl,rfl⟩ rfl ⟨by simp,by simp,by simp [Frame.part]⟩

theorem deviceStopPart (deviceID : String) : ∀ f ∈ s.deviceStop deviceID, f.part ≠ .source := by
  intro f mem
  simp only [Server.deviceStop,List.mem_append,List.mem_map,List.mem_singleton] at mem
  rcases mem with (⟨x,_,same⟩ | ⟨b,_,same⟩) | same <;> subst same <;> simp [Frame.part]

theorem deviceStock (effect : DeviceEffect s out) :
    StockChange s none ⟨out.shared,[],out.spawned⟩ := by
  refine .calls effect.only.stock fun task mem f inside => ?_
  rcases effect.frames task mem f inside with ⟨key,same⟩ | ⟨d,stop⟩
  · subst same; nofun
  · exact deviceStopPart d f stop

theorem passLog (only : PassOnly s t) : SameTokenLog s t := by
  refine only.log.tokenLog ?_
  intro e fit
  cases e <;> first | exact ⟨rfl,rfl,rfl⟩ | cases fit

theorem passStopsStock (pass : Nat) (lapsed : Bool) (fits : Sid → Session → Bool) :
    SameStock s (s.passStops pass lapsed fits).shared :=
  .beside rfl (fun _ _ here => here) (passLog (passStopsOnly pass lapsed fits))

theorem passStock {p : Pass} {stage : PassStage} (ok : passExec s p r stage = some out) :
    StockChange s (some (.pass p stage)) out := by
  obtain ⟨next,spawned⟩ := passNext ok
  have next : ∀ f ∈ out.next, f.part ≠ .source := fun f mem => by rw [next f mem]; nofun
  have spawned : ∀ task ∈ out.spawned, ∀ f ∈ task, f.part ≠ .source := by
    rcases spawned with none | ⟨_,fits,same⟩
    · rw [none]; nofun
    · rw [same]; exact stopsPart p.number
  have log := passLog (passOnly ok)
  have quiet (same : SameStock s out.shared) : StockChange s (some (.pass p stage)) out := by
    refine .same same ⟨?_,next,spawned⟩
    intro f known
    cases Option.some.inj known
    nofun
  cases stage with
  | dropPulls rest =>
    cases rest with
    | nil => cases Option.some.inj ok; exact quiet (.refl s)
    | cons e rest => cases Option.some.inj ok; exact .pull p e rest
  | dropPushes => cases Option.some.inj ok; exact .pushes p
  | lapsed | endedWait =>
    simp only [passExec] at ok
    split at ok <;> try contradiction
    cases Option.some.inj ok; exact quiet (.refl s)
  | leases rest =>
    refine quiet ?_
    cases rest with
    | nil => cases Option.some.inj ok; exact .refl s
    | cons b rest =>
      simp only [passExec] at ok
      cases Option.some.inj ok
      simp only [Server.endLease]
      split
      · exact .refl s
      · split
        · split
          · exact .beside rfl (fun _ _ here => here) (.refl rfl)
          · exact .refl s
        · exact .refl s
  | list =>
    refine quiet ?_
    simp only [passExec] at ok
    split at ok <;> cases Option.some.inj ok
    · exact .beside rfl (fun _ _ here => here) log
    · exact .refl s
  | ended => cases Option.some.inj ok; exact quiet (passStopsStock ..)
  | orphans rest =>
    refine quiet ?_
    cases rest with
    | nil => cases Option.some.inj ok; exact .refl s
    | cons streamID rest =>
      simp only [passExec] at ok
      split at ok <;> cases Option.some.inj ok
      · exact .refl s
      · refine ⟨⟨rfl,rfl,rfl,rfl,rfl,log.publications,id,?_⟩,fun _ => rfl,fun _ _ here => here,rfl,
          log.tickets,log.plays⟩
        exact fun id mem => .inl (closedReceivers mem)
  | _ => cases Option.some.inj ok; exact quiet (.refl s)

theorem consumedRow {v d : String} {row : PushDevice} (found : s.consumePushCredential v = some (d,row)) :
    s.pushDevices.get d = some row ∧ row.credential = v ∧ row.usedAt = 0 ∧
      unixMilli s.now < row.expiresAt := by
  unfold Server.consumePushCredential at found
  have fits := List.find?_some found
  simp only [Bool.and_eq_true,beq_iff_eq,decide_eq_true_eq] at fits
  exact ⟨Table.memEntries.mp (List.mem_of_find?_eq_some found),fits.1.1,fits.1.2,fits.2⟩

theorem playedSpec (ok : s.play value streamID = .ok t) :
    ∃ token, token.streamID = streamID ∧ s.tokens.get value = some token ∧
      t.plays = s.plays ++ [(value,streamID,s.now)] ∧ TokenEffect s {shared := t} := by
  unfold Server.play at ok
  split at ok <;> try contradiction
  rename_i token here
  split at ok <;> try contradiction
  rename_i early
  split at ok <;> try contradiction
  rename_i same
  simp only [not_not] at early same
  subst same
  refine ⟨token,rfl,here,?_⟩
  split at ok
  · rename_i x o found
    obtain ⟨y,stored,known⟩ := Option.bind_eq_some_iff.mp found
    obtain ⟨p,here',same⟩ := Option.map_eq_some_iff.mp known
    cases same
    obtain ⟨key,p,held,there,history⟩ := foundSome stored
    cases Option.some.inj (here'.symm.trans there)
    unfold Server.claim at ok
    split at ok <;> try contradiction
    rename_i ready
    simp only [not_or,not_not,Bool.not_eq_true] at ready
    cases Except.ok.inj ok
    exact ⟨playsMore (e := .played value token.streamID s.now) rfl,.claimed value token x o here early
      here' ⟨key,held⟩ (beq_iff_eq.mp history) ready.1 ready.2.1 ready.2.2⟩
  · split at ok <;> try contradiction
    rename_i running
    cases Except.ok.inj ok
    exact ⟨playsMore (e := .played value token.streamID s.now) rfl,.played value token here early running⟩

theorem publishedSpec (ok : s.publish value streamID store = .ok t) :
    ∃ d row, s.pushDevices.get d = some row ∧ row.credential = value ∧ row.usedAt = 0 ∧
      unixMilli s.now < row.expiresAt ∧ t.publications = s.publications ++ [(value,d,s.now)] ∧
      TokenEffect s {shared := t} := by
  unfold Server.publish at ok
  split at ok <;> try contradiction
  split at ok <;> try contradiction
  split at ok <;> try contradiction
  rename_i d row found
  obtain ⟨here,same,unused,early⟩ := consumedRow found
  subst same
  cases Except.ok.inj ok
  exact ⟨d,row,here,rfl,unused,early,publicationsMore (e := .published row.credential d s.now) rfl,
    .published d row here unused early⟩

theorem consumeEffect (value : String) (operation : Operation) (streamID : String) (store : Bool) :
    TokenEffect s {shared := s.after (s.consumeStreamToken value operation streamID store)} := by
  cases answer : s.consumeStreamToken value operation streamID store with
  | error => exact .idle
  | ok t =>
    cases operation with
    | play => obtain ⟨_,_,_,_,effect⟩ := playedSpec answer; exact effect
    | publish => obtain ⟨_,_,_,_,_,_,_,effect⟩ := publishedSpec answer; exact effect

theorem deviceCreateEffect {name token : String} {protocol : PushProtocol}
    (ok : s.deviceCreate deviceID name protocol token store = some t) :
    TokenEffect s {shared := t} := by
  simp only [Server.deviceCreate] at ok
  split at ok <;> try contradiction
  rename_i unused
  split at ok
  · cases Option.some.inj ok; exact .expired
  rename_i ready
  simp only [not_or,Option.isNone_iff_eq_none] at ready
  split at ok
  · cases Option.some.inj ok; exact .expired
  · rename_i u made
    cases Option.some.inj ok
    unfold Server.createPushDevice at made
    split at made <;> try contradiction
    cases Option.some.inj made
    exact .created deviceID ⟨name,protocol,token,_,0⟩ unused (Option.ne_none_iff_exists'.mp ready.1)

theorem stopPushEffect {remove : Bool} (ok : s.stopPushDevice deviceID remove store = some out) :
    TokenEffect s out := by
  simp only [Server.stopPushDevice] at ok
  split at ok <;> try contradiction
  rename_i free
  have free := eq_false_of_ne_true free
  split at ok
  · cases Option.some.inj ok; exact .idle
  cases remove with
  | false =>
    split at ok <;> rename_i found <;> cases Option.some.inj ok
    · exact .idle
    · exact .stopped s.pushDevices deviceID _ (fun _ _ here => here) found free
  | true =>
    have fewer (d : String) (row : PushDevice) (here : (s.pushDevices.delete deviceID).get d = some row) :
        s.pushDevices.get d = some row := by
      rw [Table.getDelete] at here
      split at here <;> try contradiction
      exact here
    split at ok <;> rename_i found <;> cases Option.some.inj ok
    · exact .removed _ fewer
    · exact .stopped _ deviceID _ fewer found free

theorem tokenEffect {c : TokenCall} (ok : tokenCall s c = some out) : TokenEffect s out := by
  have enter {sourceID : String} {stage : SourceStage} {store : Bool}
      (first : stage = .take ∨ ∃ streamID, stage = .reserve streamID)
      (ok : s.enterSource sourceID stage store = some out) : TokenEffect s out := by
    unfold Server.enterSource at ok
    split at ok <;> try contradiction
    rename_i free
    split at ok <;> cases Option.some.inj ok
    · exact .entered sourceID stage first (eq_false_of_ne_true free)
    · exact .idle
  cases c with
  | newPlaybackURLs source ready value =>
    obtain ⟨u,ran,same⟩ := Option.map_eq_some_iff.mp ok
    subst same
    unfold Server.newPlaybackURLs at ran
    split at ran
    · cases Option.some.inj ran; exact .idle
    split at ran
    · cases Option.some.inj ran; exact .idle
    · rename_i streamID _ refused
      simp only [not_or,Bool.not_eq_false] at refused
      obtain ⟨unused,same⟩ := issueSpec ran
      subst same
      exact .issued value streamID refused.1 refused.2.1 unused
  | consumeStreamToken => cases Option.some.inj ok; exact consumeEffect ..
  | expire => cases Option.some.inj ok; exact .expired
  | credentialPrepare value =>
    obtain ⟨u,ran,same⟩ := Option.map_eq_some_iff.mp ok
    subst same
    unfold Server.credentialPrepare at ran
    split at ran <;> try contradiction
    rename_i unused
    cases Option.some.inj ran
    exact .prepared value unused
  | deviceCreate deviceID name protocol token store =>
    obtain ⟨u,ran,same⟩ := Option.map_eq_some_iff.mp ok
    subst same
    exact deviceCreateEffect ran
  | devicePatch deviceID name protocol store =>
    cases Option.some.inj ok
    simp only [Server.devicePatch]
    split
    · exact .idle
    · rename_i row here
      split
      · exact .patched deviceID row name (protocol.getD row.protocol) here
      · exact .idle
  | pushPublish deviceID value store =>
    obtain ⟨u,ran,same⟩ := Option.map_eq_some_iff.mp ok
    subst same
    unfold Server.pushPublish at ran
    split at ran <;> try contradiction
    rename_i free
    simp only [not_or] at free
    split at ran
    · cases Option.some.inj ran; exact .idle
    rename_i idle
    simp only [Bool.not_eq_true,Option.isSome_eq_false_iff,Option.isNone_iff_eq_none] at idle
    split at ran
    · cases Option.some.inj ran; exact .idle
    rename_i row here
    split at ran <;> cases Option.some.inj ran
    · exact .renewed deviceID value row _ idle here free.2
    · exact .idle
  | stopPushDevice deviceID remove store => exact stopPushEffect ok
  | startSource sourceID streamID store => exact enter (.inr ⟨streamID,rfl⟩) ok
  | stopSource sourceID store => exact enter (.inl rfl) ok

theorem sectionStock (ran : Section s frame out) : StockChange s frame out := by
  cases ran with
  | call c ok =>
    cases c with
    | live c => exact liveStock (liveEffect ok)
    | token c => exact .call (tokenEffect ok)
    | device c => exact deviceStock (deviceEffect ok)
    | talk c =>
      refine .calls (talkCallOnly ok).stock fun task mem f inside => ?_
      rw [talkSpawned ok task mem f inside]
      simp
    | reconcile pass =>
      simp only [call,Server.beginPass] at ok
      split at ok <;> try contradiction
      cases Option.some.inj ok
      refine .calls (passStopsStock ..) ?_
      intro task mem
      rcases List.mem_cons.mp mem with first | other
      · subst first; simp [Frame.part]
      · exact stopsPart pass task other
  | frame f r ok =>
    cases f with
    | session x f =>
      obtain ⟨turned,ran,same⟩ := Option.map_eq_some_iff.mp ok
      subst same
      refine .turn x f r ran (.inl rfl) rfl
        ⟨fun f known => by cases Option.some.inj known; simp [Frame.part],?_,?_⟩
      · simp [SessionOutcome.outcome,Frame.part]
      · simp [SessionOutcome.outcome,Frame.part]
    | talk b f =>
      obtain ⟨t,turned,_,ran,same⟩ := talkTurnSpec ok
      subst same
      refine .same (talkOnly ran).stock
        ⟨fun f known => by cases Option.some.inj known; simp [Frame.part],?_,by simp⟩
      simp [Frame.part]
    | source sourceID stage => exact .source sourceID stage r ok
    | deleteReceiver streamID => cases Option.some.inj ok; exact .closed streamID (r == .ok)
    | pass p stage => exact passStock ok
    | _ =>
      cases Option.some.inj ok
      exact .same (.beside rfl (fun _ _ here => here) (.refl rfl))
        ⟨fun f known => by cases Option.some.inj known; simp [Frame.part],by simp,by simp⟩
  | world w ok =>
    have quiet {t : Server} (same : SameStock s t) : StockChange s none ⟨t,[],[]⟩ :=
      .same same ⟨by simp,by simp,by simp⟩
    cases w with
    | clock now =>
      simp only [world] at ok
      split at ok <;> try contradiction
      rename_i later
      cases Option.some.inj ok
      exact quiet ⟨⟨rfl,rfl,rfl,rfl,rfl,rfl,fun _ => later,fun _ mem => .inl mem⟩,fun _ => rfl,
        fun _ _ here => here,rfl,rfl,rfl⟩
    | endContext x =>
      obtain ⟨o,here,same⟩ := Option.map_eq_some_iff.mp ok
      subst same
      refine quiet ⟨⟨rfl,rfl,rfl,rfl,rfl,rfl,id,fun _ mem => .inl mem⟩,?_,fun _ _ here => here,rfl,rfl,rfl⟩
      intro y
      by_cases self : y = x
      · subst self; simp [Server.put,here,Session.card]
      · simp [Server.put,Function.update_of_ne self]
    | appear streamID =>
      simp only [world] at ok
      split at ok <;> try contradiction
      rename_i asked
      cases Option.some.inj ok
      refine quiet ⟨⟨rfl,rfl,rfl,rfl,rfl,rfl,id,?_⟩,fun _ => rfl,fun _ _ here => here,rfl,rfl,rfl⟩
      intro id mem
      rcases List.mem_cons.mp mem with self | old
      · rw [self]; exact .inr asked
      · exact .inl old
    | vanish streamID =>
      cases Option.some.inj ok
      exact quiet ⟨⟨rfl,rfl,rfl,rfl,rfl,rfl,id,fun id mem => .inl (closedReceivers mem)⟩,fun _ => rfl,
        fun _ _ here => here,rfl,rfl,rfl⟩

theorem changeDrawn (change : SessionChange s frame out) : s.drawn ⊆ out.shared.drawn := by
  cases change with
  | turn x f r ran | called x ran =>
    obtain ⟨o,e,_,_,_,_,acts⟩ := turnSpec ran
    exact (actSpec acts).2.1
  | born => exact fun _ mem => List.mem_cons_of_mem _ mem
  | marked x claimed ctxErr here same => exact same.drawn
  | other same => exact same.drawn

structure RunsDropped (s t : Server) : Prop where
  same : t = {s with pushRuns := t.pushRuns, tokens := t.tokens, log := t.log}
  runs : ∀ d run, t.pushRuns.get d = some run → s.pushRuns.get d = some run
  tokens : ∀ v token, t.tokens.get v = some token → s.tokens.get v = some token ∧
    ∀ d run, s.pushRuns.get d = some run → run.streamID = token.streamID →
      t.pushRuns.get d = some run

theorem RunsDropped.refl (s : Server) : RunsDropped s s :=
  ⟨rfl,fun _ _ here => here,fun _ _ here => ⟨here,fun _ _ active _ => active⟩⟩

theorem dropPushDropped (p : Pass) (s : Server) (e : String × PushRun) :
    RunsDropped s (dropEndedPush p s e) := by
  unfold dropEndedPush
  split
  · rename_i run active
    split
    · exact .refl s
    · refine ⟨rfl,?_,?_⟩
      · intro d other here
        simp only [Server.record,Server.dropPush,Table.getDelete] at here
        split at here <;> try contradiction
        exact here
      · intro v token here
        obtain ⟨found,other⟩ := revoked here
        refine ⟨found,?_⟩
        intro d run' held same
        simp only [Server.record,Server.dropPush,Table.getDelete]
        split
        · rename_i self
          rw [self,active] at held
          cases Option.some.inj held
          exact absurd same.symm other
        · exact held
  · exact .refl s

theorem dropPushesDropped (p : Pass) (pushes : List (String × PushRun)) (s : Server) :
    RunsDropped s (pushes.foldl (dropEndedPush p) s) := by
  induction pushes generalizing s with
  | nil => exact .refl s
  | cons e rest ih =>
    have first := dropPushDropped p s e
    have later := ih (dropEndedPush p s e)
    rw [List.foldl_cons]
    refine ⟨?_,fun d run here => first.runs d run (later.runs d run here),?_⟩
    · rw [later.same,first.same]
    · intro v token here
      obtain ⟨middle,kept⟩ := later.tokens v token here
      obtain ⟨found,before⟩ := first.tokens v token middle
      exact ⟨found,fun d run held same => kept d run (before d run held same) same⟩

end

end MediaServer.Signaling
