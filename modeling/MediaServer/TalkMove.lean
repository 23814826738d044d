import MediaServer.SessionSection

/-! gb_broadcast.go: what one section does to the talks and their dialogs. Most sections leave
them as they are or end a context; the others are listed here, once. -/
namespace MediaServer.Signaling

structure Talk.Kept (t u : Talk) : Prop where
  deviceID : u.deviceID = t.deviceID
  sourceID : u.sourceID = t.sourceID
  dialog : u.dialog = t.dialog
  accepted : u.accepted = t.accepted
  done : u.done = t.done
  agreed : t.agreed ≤ u.agreed
  invited : u.invited ⊆ t.invited
  business : true ∈ u.business → true ∈ t.business ∨ 0 < u.agreed

theorem Talk.Kept.refl (t : Talk) : t.Kept t :=
  ⟨rfl,rfl,rfl,rfl,rfl,Nat.le_refl _,List.Subset.refl _,.inl⟩

theorem Talk.Kept.trans {t u v : Talk} (first : t.Kept u) (second : u.Kept v) : t.Kept v where
  deviceID := second.deviceID.trans first.deviceID
  sourceID := second.sourceID.trans first.sourceID
  dialog := second.dialog.trans first.dialog
  accepted := second.accepted.trans first.accepted
  done := second.done.trans first.done
  agreed := Nat.le_trans first.agreed second.agreed
  invited := List.Subset.trans second.invited first.invited
  business mem := by
    rcases second.business mem with old | some
    · rcases first.business old with older | some
      · exact .inl older
      · exact .inr (Nat.lt_of_lt_of_le some second.agreed)
    · exact .inr some

structure Dialog.Kept (x y : Dialog) : Prop where
  talk : y.talk = x.talk
  target : y.target = x.target
  peer : y.peer = x.peer
  answerDone : y.answerDone = x.answerDone
  answerErr : y.answerErr = x.answerErr
  acks : x.acks ≤ y.acks
  acked : y.acked = true → x.acked = true ∨ 0 < y.acks

theorem Dialog.Kept.refl (x : Dialog) : x.Kept x := ⟨rfl,rfl,rfl,rfl,rfl,Nat.le_refl _,.inl⟩

theorem Dialog.Kept.trans {x y z : Dialog} (first : x.Kept y) (second : y.Kept z) : x.Kept z where
  talk := second.talk.trans first.talk
  target := second.target.trans first.target
  peer := second.peer.trans first.peer
  answerDone := second.answerDone.trans first.answerDone
  answerErr := second.answerErr.trans first.answerErr
  acks := Nat.le_trans first.acks second.acks
  acked on := by
    rcases second.acked on with old | some
    · rcases first.acked old with older | some
      · exact .inl older
      · exact .inr (Nat.lt_of_lt_of_le some second.acks)
    · exact .inr some

structure KeptTalks (s t : Server) : Prop where
  broadcasts : t.broadcasts = s.broadcasts
  talks : ∀ b x, s.talks b = some x → ∃ y, t.talks b = some y ∧ x.Kept y
  noTalk : ∀ b, s.talks b = none → t.talks b = none
  dialogs : ∀ d x, s.dialogs d = some x → ∃ y, t.dialogs d = some y ∧ x.Kept y
  noDialog : ∀ d, s.dialogs d = none → t.dialogs d = none
  peers : ∀ b peer, .peered b peer ∈ t.log → .peered b peer ∈ s.log

def Frame.plain : Frame → Bool
  | .talk _ (.prepare _) | .talk _ (.answer _) => false
  | _ => true

inductive TalkChange (s : Server) : Option Frame → Outcome → Prop where
  | kept {frame : Option Frame} {out : Outcome} (kept : KeptTalks s out.shared)
      (old : ∀ f, frame = some f → f.plain = true) (next : ∀ f ∈ out.next, f.plain = true)
      (spawned : ∀ task ∈ out.spawned, ∀ f ∈ task, f.plain = true) : TalkChange s frame out
  | starts (b : Bid) (deviceID sourceID mediaID : String) (sn : Nat)
      (free : s.stoppingDevices deviceID = false) (idle : s.broadcasts.get deviceID = none)
      (fresh : s.talks b = none) :
      TalkChange s none
        ⟨{s.putTalk b {deviceID := deviceID, sourceID := sourceID, mediaID := mediaID, sn := sn} with
            broadcasts := s.broadcasts.set deviceID b, drawn := mediaID :: s.drawn
            log := s.log ++ [.admitted .broadcast deviceID]},[],[[.talk b .create],[.talk b .caller]]⟩
  | notified (b : Bid) (talk : Talk) (here : s.talks b = some talk) :
      TalkChange s (some (.talk b .notify)) ⟨s,[.talk b (.prepare {})],[]⟩
  | invites (b : Bid) (talk : Talk) (d : Did) (peer : Peer) (here : s.talks b = some talk)
      (silent : talk.dialog = none) (fresh : s.dialogs d = none) :
      TalkChange s none
        ⟨(s.putDialog d {talk := b, target := talk.sourceID, peer := peer}).putTalk b
            {talk with dialog := some d, invited := [d], accepted := talk.accepted ++ [d]},[],
          [[.talk b (.acks d)],[.talk b (.answer d)]]⟩
  | hears (b : Bid) (talk : Talk) (w : Waiting) (r : Reply) {turned : TalkOutcome}
      (here : s.talks b = some talk) (ran : talkExec s b talk r (.prepare w) = some turned) :
      TalkChange s (some (.talk b (.prepare w))) ⟨turned.server,turned.next.map (.talk b),[]⟩
  | answers (b : Bid) (d : Did) (dialog : Dialog) (failed : Bool) (here : s.dialogs d = some dialog) :
      TalkChange s (some (.talk b (.answer d)))
        ⟨s.putDialog d {dialog with answerErr := failed, answerDone := dialog.answerDone + 1},[],[]⟩
  | ends (b : Bid) (talk : Talk) (here : s.talks b = some talk) :
      TalkChange s (some (.talk b .last))
        ⟨if s.broadcasts.get talk.deviceID = some b then
            {s.putTalk b {talk with done := talk.done + 1} with
              broadcasts := s.broadcasts.delete talk.deviceID}
          else s.putTalk b {talk with done := talk.done + 1},[],[]⟩

section
variable {s t u : Server}

theorem KeptTalks.beside (broadcasts : t.broadcasts = s.broadcasts) (talks : t.talks = s.talks)
    (dialogs : t.dialogs = s.dialogs) (peers : ∀ b peer, .peered b peer ∈ t.log → .peered b peer ∈ s.log) :
    KeptTalks s t where
  broadcasts := broadcasts
  talks b x here := ⟨x,by rw [talks]; exact here,.refl x⟩
  noTalk b none := by rw [talks]; exact none
  dialogs d x here := ⟨x,by rw [dialogs]; exact here,.refl x⟩
  noDialog d none := by rw [dialogs]; exact none
  peers := peers

theorem KeptTalks.refl (s : Server) : KeptTalks s s := .beside rfl rfl rfl fun _ _ => id

theorem KeptTalks.trans (first : KeptTalks s t) (second : KeptTalks t u) : KeptTalks s u where
  broadcasts := second.broadcasts.trans first.broadcasts
  talks b x here := by
    obtain ⟨y,there,kept⟩ := first.talks b x here
    obtain ⟨z,last,kept'⟩ := second.talks b y there
    exact ⟨z,last,kept.trans kept'⟩
  noTalk b none := second.noTalk b (first.noTalk b none)
  dialogs d x here := by
    obtain ⟨y,there,kept⟩ := first.dialogs d x here
    obtain ⟨z,last,kept'⟩ := second.dialogs d y there
    exact ⟨z,last,kept.trans kept'⟩
  noDialog d none := second.noDialog d (first.noDialog d none)
  peers b peer mem := first.peers b peer (second.peers b peer mem)

variable {b : Bid} {x : Talk} {f : Frame} {out : Outcome} {r : Reply}

theorem KeptTalks.putTalk {y : Talk} (here : s.talks b = some x) (kept : x.Kept y) :
    KeptTalks s (s.putTalk b y) := by
  refine ⟨rfl,?_,?_,fun d x there => ⟨x,there,.refl x⟩,fun _ none => none,fun _ _ mem => mem⟩
  · intro c z there
    simp only [Server.putTalk]
    by_cases self : c = b
    · subst self
      cases Option.some.inj (here.symm.trans there)
      exact ⟨y,Function.update_self ..,kept⟩
    · exact ⟨z,(Function.update_of_ne self ..).trans there,.refl z⟩
  · intro c none
    have other : c ≠ b := fun self => by subst self; exact nomatch here.symm.trans none
    exact (Function.update_of_ne other ..).trans none

theorem KeptTalks.putDialog {d : Did} {x y : Dialog} (here : s.dialogs d = some x) (kept : x.Kept y) :
    KeptTalks s (s.putDialog d y) := by
  refine ⟨rfl,fun b x there => ⟨x,there,.refl x⟩,fun _ none => none,?_,?_,fun _ _ mem => mem⟩
  · intro e z there
    simp only [Server.putDialog]
    by_cases self : e = d
    · subst self
      cases Option.some.inj (here.symm.trans there)
      exact ⟨y,Function.update_self ..,kept⟩
    · exact ⟨z,(Function.update_of_ne self ..).trans there,.refl z⟩
  · intro e none
    have other : e ≠ d := fun self => by subst self; exact nomatch here.symm.trans none
    exact (Function.update_of_ne other ..).trans none

theorem cancelKept (t : Talk) (cause : TalkCause) : t.Kept (t.cancel cause) :=
  ⟨rfl,rfl,rfl,rfl,rfl,Nat.le_refl _,List.Subset.refl _,.inl⟩

theorem KeptTalks.cancel (b : Bid) (cause : TalkCause) : KeptTalks s (s.cancelTalk b cause) := by
  cases here : s.talks b with
  | none =>
    refine .beside rfl ?_ rfl fun _ _ mem => mem
    simp only [Server.cancelTalk,here,Option.map_none]
    rw [← here,Function.update_eq_self]
  | some x =>
    have same : s.cancelTalk b cause = s.putTalk b (x.cancel cause) := by
      simp only [Server.cancelTalk,Server.putTalk,here,Option.map_some]
    rw [same]
    exact .putTalk here (cancelKept x cause)

theorem KeptTalks.cancelAll (bs : List Bid) (cause : TalkCause) (s : Server) :
    KeptTalks s (bs.foldl (fun s b => s.cancelTalk b cause) s) := by
  induction bs generalizing s with
  | nil => exact .refl s
  | cons b rest ih => exact (KeptTalks.cancel b cause).trans (ih _)

theorem KeptTalks.logged {fits : Event → Prop} (logged : Logged s t fits)
    (silent : ∀ b peer, ¬ fits (.peered b peer)) (b : Bid) (peer : Peer) (mem : .peered b peer ∈ t.log) :
    .peered b peer ∈ s.log := by
  obtain ⟨new,same,each⟩ := logged
  rw [same] at mem
  rcases List.mem_append.mp mem with old | late
  · exact old
  · rcases each _ late with fit | ⟨kind,d,admitted,_⟩
    · exact absurd fit (silent b peer)
    · cases admitted

theorem TokensOnly.talks (only : TokensOnly s t) : KeptTalks s t := by
  refine .beside ?_ ?_ ?_ (KeptTalks.logged only.log fun _ _ => id) <;> rw [only.same]

theorem beginKept (deviceID : String) : KeptTalks s (s.beginDeviceStop deviceID) := by
  unfold Server.beginDeviceStop
  cases s.broadcasts.get deviceID with
  | none => exact .beside rfl rfl rfl fun _ _ mem => mem
  | some b => exact (KeptTalks.cancel b .offline).trans (.beside rfl rfl rfl fun _ _ mem => mem)

theorem expireKept (expired : List String) (out : Server × List Frame) :
    KeptTalks out.1 (expired.foldl expireStep out).1 := by
  induction expired generalizing out with
  | nil => exact .refl out.1
  | cons d rest ih =>
    rw [List.foldl_cons]
    have first : KeptTalks out.1 (expireStep out d).1 := by
      unfold expireStep
      split
      · exact .refl out.1
      · exact beginKept d
    exact first.trans (ih _)

theorem partPlain (other : f.part ≠ .talk) : f.plain = true := by
  cases f with
  | talk => exact absurd rfl other
  | _ => rfl

theorem stopPlain (deviceID : String) : ∀ f ∈ s.deviceStop deviceID, f.plain = true := by
  intro f mem
  simp only [Server.deviceStop,List.mem_append,List.mem_map,List.mem_singleton] at mem
  rcases mem with (⟨x,_,same⟩ | ⟨b,_,same⟩) | same <;> subst same <;> rfl

theorem TalkChange.calls {tasks : List (List Frame)} (kept : KeptTalks s t)
    (spawned : ∀ task ∈ tasks, ∀ f ∈ task, f.plain = true) : TalkChange s none ⟨t,[],tasks⟩ :=
  .kept kept nofun nofun spawned

theorem TalkChange.quiet (kept : KeptTalks s t) : TalkChange s none ⟨t,[],[]⟩ := .calls kept nofun

theorem deviceTalks (effect : DeviceEffect s out) :
    TalkChange s none ⟨out.shared,[],out.spawned⟩ := by
  refine .calls ?_ fun task mem f inside => ?_
  · have peers := KeptTalks.logged effect.only.log fun _ _ => id
    cases effect with
    | stops expired => exact expireKept expired (s,[])
    | _ => exact .beside rfl rfl rfl peers
  · rcases effect.frames task mem f inside with ⟨key,same⟩ | ⟨d,stop⟩
    · subst same; rfl
    · exact stopPlain d f stop

theorem onePlain (plain : f.plain = true) : ∀ task ∈ [[f]], ∀ g ∈ task, g.plain = true := by
  intro task mem g inside
  cases List.mem_singleton.mp mem
  cases List.mem_singleton.mp inside
  exact plain

theorem ofTalk {deviceID : String} (found : s.talkOf deviceID = some (b,x)) :
    s.broadcasts.get deviceID = some b ∧ s.talks b = some x := by
  obtain ⟨c,stored,known⟩ := Option.bind_eq_some_iff.mp found
  obtain ⟨y,here,same⟩ := Option.map_eq_some_iff.mp known
  cases same
  exact ⟨stored,here⟩

theorem invited {sender target : String} {subject known read : Bool} {peer : Option Peer} {p : Peer}
    (found : s.inviteTarget sender target subject known peer read = some (b,x,p)) :
    s.talks b = some x ∧ x.dialog = none ∧ x.sourceID = target ∧ s.broadcasts.get sender = some b := by
  unfold Server.inviteTarget at found
  split at found <;> try contradiction
  rename_i c y here
  split at found <;> try contradiction
  rename_i fits
  split at found <;> try contradiction
  rename_i silent
  obtain ⟨q,_,same⟩ := Option.map_eq_some_iff.mp found
  cases same
  simp only [not_or,not_not,Bool.not_eq_true,Option.isSome_eq_false_iff,Option.isNone_iff_eq_none] at fits silent
  exact ⟨(ofTalk here).2,silent.1,fits.2.1,(ofTalk here).1⟩

theorem responseKept (x : Talk) (ok : Bool) :
    x.Kept {(if ok then {x with agreed := x.agreed + 1} else x.cancel .rejected) with
      business := if (if ok then {x with agreed := x.agreed + 1} else x.cancel .rejected).business = [] then [ok]
        else (if ok then {x with agreed := x.agreed + 1} else x.cancel .rejected).business} := by
  cases ok with
  | true =>
    refine ⟨rfl,rfl,rfl,rfl,rfl,Nat.le_succ _,List.Subset.refl _,fun _ => .inr (Nat.succ_pos _)⟩
  | false =>
    refine ⟨rfl,rfl,rfl,rfl,rfl,Nat.le_refl _,List.Subset.refl _,?_⟩
    intro mem
    simp only [Talk.cancel,Bool.false_eq_true,if_false] at mem
    split at mem
    · simp at mem
    · exact .inl mem

theorem talkCallChange {c : TalkCall} (ok : talkCall s c = some out) :
    TalkChange s none ⟨out.shared,[],out.spawned⟩ := by
  have idle : TalkChange s none ⟨s,[],[]⟩ := .quiet (.refl s)
  cases c with
  | startBroadcast deviceID look b sourceID mediaID sn =>
    simp only [talkCall,Server.startBroadcast] at ok
    split at ok
    · cases Option.some.inj ok; exact idle
    · rename_i allowed
      split at ok <;> try contradiction
      rename_i new
      simp only [not_or,Bool.not_eq_true,Option.isSome_eq_false_iff,Option.isNone_iff_eq_none] at allowed new
      cases Option.some.inj ok
      exact .starts b deviceID sourceID mediaID sn allowed.2.1 allowed.2.2.2 new.1
  | stopBroadcast deviceID mediaID =>
    cases Option.some.inj ok
    unfold Server.stopBroadcast
    split
    · exact idle
    · rename_i b x found
      split
      · exact .calls (.putTalk (ofTalk found).2 (cancelKept x .canceled)) (onePlain rfl)
      · exact idle
  | response deviceID sn agrees sender known =>
    cases Option.some.inj ok
    simp only [Server.broadcastResponse]
    split
    · exact idle
    · rename_i b x found
      split
      · exact idle
      · exact .quiet (.putTalk (ofTalk found).2 (responseKept x agrees))
  | invite sender target subject known peer read d =>
    simp only [talkCall,Server.broadcastInvite] at ok
    split at ok
    · cases Option.some.inj ok; exact idle
    · rename_i b x p found
      obtain ⟨here,silent,same,_⟩ := invited found
      split at ok <;> try contradiction
      rename_i room
      simp only [not_or,Bool.not_eq_true,Option.isSome_eq_false_iff,Option.isNone_iff_eq_none] at room
      cases Option.some.inj ok
      subst same
      exact .invites b x d p here silent room.1
  | ack d recipient known read =>
    cases Option.some.inj ok
    simp only [Server.broadcastAck]
    split
    · rename_i dialog _ here
      split
      · refine .quiet (.putDialog here ?_)
        exact ⟨rfl,rfl,rfl,rfl,rfl,Nat.le_succ _,fun _ => .inr (Nat.succ_pos _)⟩
      · exact idle
    · exact idle
  | bye d valid =>
    cases Option.some.inj ok
    simp only [Server.broadcastBye]
    split
    · split
      · exact .quiet (.cancel _ .remoteBye)
      · exact idle
    · exact idle
  | shutdown =>
    cases Option.some.inj ok
    exact .quiet (.cancelAll _ .canceled s)

theorem talkTurnChange {f : TalkFrame} (ok : s.talkTurn b f r = some out) :
    TalkChange s (some (.talk b f)) out := by
  obtain ⟨x,turned,here,ran,same⟩ := talkTurnSpec ok
  subst same
  have kept (same : KeptTalks s turned.server) (plain : Frame.plain (.talk b f) = true)
      (next : ∀ g ∈ turned.next, Frame.plain (.talk b g) = true) :
      TalkChange s (some (.talk b f)) {shared := turned.server, next := turned.next.map (.talk b)} := by
    refine .kept same ?_ ?_ (by simp)
    · intro g known
      cases Option.some.inj known
      exact plain
    · intro g mem
      obtain ⟨h,inside,same⟩ := List.mem_map.mp mem
      subst same
      exact next h inside
  cases f with
  | prepare w => exact .hears b x w r here ran
  | create =>
    simp only [talkExec] at ran
    split at ran <;> try contradiction
    · cases Option.some.inj ran
      refine kept (.refl s) rfl ?_
      simp only [List.mem_singleton,forall_eq]
      split <;> rfl
    · cases Option.some.inj ran; exact kept (.refl s) rfl (by simp [Frame.plain])
    · cases Option.some.inj ran; exact kept (.refl s) rfl (by simp [Frame.plain])
  | bind =>
    cases Option.some.inj ran
    refine kept (.putTalk here ?_) rfl (by simp [Frame.plain])
    exact ⟨rfl,rfl,rfl,rfl,rfl,Nat.le_refl _,List.Subset.refl _,.inl⟩
  | notify =>
    simp only [talkExec] at ran
    cases Option.some.inj ran
    by_cases answer : r = .ok
    · simp only [if_pos answer]
      exact .notified b x here
    · simp only [if_neg answer] at kept ⊢
      exact kept (.refl s) rfl (by simp [Frame.plain])
  | result failed rejected =>
    simp only [talkExec] at ran
    cases Option.some.inj ran
    refine kept ?_ rfl (by simp [Frame.plain])
    cases failed with
    | true => exact .putTalk here (cancelKept x .failed)
    | false => exact .refl s
  | settle rejected =>
    simp only [talkExec] at ran
    split at ran <;> try contradiction
    cases Option.some.inj ran
    refine kept (.refl s) rfl ?_
    simp only [List.mem_singleton,forall_eq]
    split <;> rfl
  | hangup =>
    simp only [talkExec] at ran
    cases Option.some.inj ran
    refine kept (.refl s) rfl ?_
    simp only [List.mem_singleton,forall_eq]
    split <;> rfl
  | answerWait | ackWait | waitDone =>
    simp only [talkExec] at ran
    split at ran <;> try contradiction
    cases Option.some.inj ran
    exact kept (.refl s) rfl (by simp [Frame.plain])
  | caller =>
    simp only [talkExec] at ran
    split at ran <;> cases Option.some.inj ran
    · exact kept (.putTalk here (cancelKept x .canceled)) rfl (by simp [Frame.plain])
    · exact kept (.refl s) rfl (by simp)
  | last =>
    simp only [talkExec] at ran
    cases Option.some.inj ran
    exact .ends b x here
  | answer d =>
    obtain ⟨dialog,known,same⟩ := Option.map_eq_some_iff.mp ran
    subst same
    exact .answers b d dialog _ known
  | acks d =>
    obtain ⟨dialog,known,same⟩ := Option.map_eq_some_iff.mp ran
    subst same
    refine kept (.putDialog known ?_) rfl (by simp)
    exact ⟨rfl,rfl,rfl,rfl,rfl,Nat.le_refl _,.inl⟩
  | token | configure | release | bye =>
    simp only [talkExec] at ran
    cases Option.some.inj ran
    refine kept (.refl s) rfl ?_
    simp only [List.mem_singleton,forall_eq]
    first | rfl | (split <;> rfl)

theorem actTalks {x : Sid} {o : Session} {act : Act} (ok : (s.put x o).act o act = some t) :
    KeptTalks s t := by
  cases act with
  | issue value =>
    obtain ⟨_,same⟩ := issueSpec ok
    subst same
    refine .beside rfl rfl rfl fun b peer mem => ?_
    simpa [Server.put] using mem
  | _ => cases Option.some.inj ok; exact .beside rfl rfl rfl fun _ _ mem => mem

theorem turnTalks {x : Sid} {f : SessionFrame} {out : SessionOutcome}
    (ran : s.sessionTurn x f r = some out) : KeptTalks s out.server := by
  obtain ⟨o,e,_,_,_,_,acts⟩ := turnSpec ran
  exact actTalks acts

theorem stopsPlain {fits : Sid → Session → Bool} (group : Nat) :
    ∀ task ∈ (s.stopMatching group fits).spawned, ∀ f ∈ task, f.plain = true := by
  intro task mem f inside
  obtain ⟨y,_,same⟩ := List.mem_map.mp mem
  subst same
  simp only [List.mem_cons,List.not_mem_nil,or_false] at inside
  rcases inside with same | same <;> subst same <;> rfl

theorem liveTalks (effect : LiveEffect s out) : TalkChange s none ⟨out.shared,[],out.spawned⟩ := by
  cases effect with
  | idle => exact .quiet (.refl s)
  | guest x f => exact .calls (.refl s) (onePlain rfl)
  | stopped x ran =>
    refine .calls (turnTalks ran) ?_
    simp [SessionOutcome.entered,Frame.plain]
  | stopsAll group => exact .calls (.beside rfl rfl rfl fun _ _ mem => mem) (stopsPlain group)
  | born =>
    refine .calls (.beside rfl rfl rfl fun b peer mem => ?_) (by simp [Frame.plain])
    simpa [Server.addSession] using mem

theorem dropPushesTalks (p : Pass) (pushes : List (String × PushRun)) (s : Server) :
    (pushes.foldl (dropEndedPush p) s).talks = s.talks := by
  induction pushes generalizing s with
  | nil => rfl
  | cons e rest ih =>
    rw [List.foldl_cons,ih]
    unfold dropEndedPush
    split
    · split <;> rfl
    · rfl

theorem passKept {p : Pass} {stage : PassStage} (ok : passExec s p r stage = some out) :
    KeptTalks s out.shared := by
  have only := passOnly ok
  have rest (talks : out.shared.talks = s.talks) : KeptTalks s out.shared := by
    refine .beside ?_ talks ?_ (KeptTalks.logged only.log fun _ _ => id) <;> rw [only.same]
  cases stage with
  | leases left =>
    cases left with
    | nil => cases Option.some.inj ok; exact .refl s
    | cons b left =>
      simp only [passExec] at ok
      cases Option.some.inj ok
      simp only [Server.endLease]
      split
      · exact .refl s
      · split
        · split
          · exact .cancel b .failed
          · exact .refl s
        · exact .refl s
  | dropPulls left =>
    cases left with
    | nil => cases Option.some.inj ok; exact .refl s
    | cons e left =>
      cases Option.some.inj ok
      refine rest ?_
      simp only [Server.dropEndedPull]
      split
      · split <;> rfl
      · rfl
  | dropPushes => cases Option.some.inj ok; exact rest (dropPushesTalks p p.pushes s)
  | lapsed | endedWait =>
    simp only [passExec] at ok
    split at ok <;> try contradiction
    cases Option.some.inj ok; exact .refl s
  | list =>
    simp only [passExec] at ok
    split at ok <;> cases Option.some.inj ok <;> exact rest rfl
  | orphans left =>
    cases left with
    | nil => cases Option.some.inj ok; exact .refl s
    | cons streamID left =>
      simp only [passExec] at ok
      split at ok <;> cases Option.some.inj ok <;> exact rest rfl
  | _ => cases Option.some.inj ok; exact rest rfl

theorem frameTalks (ok : exec s f r = some out) : TalkChange s (some f) out := by
  have other (plain : f.plain = true) (kept : KeptTalks s out.shared)
      (next : ∀ g ∈ out.next, g.plain = true)
      (spawned : ∀ task ∈ out.spawned, ∀ g ∈ task, g.plain = true) : TalkChange s (some f) out := by
    refine .kept kept ?_ next spawned
    intro g known
    cases Option.some.inj known
    exact plain
  cases f with
  | session x f =>
    obtain ⟨turned,ran,same⟩ := Option.map_eq_some_iff.mp ok
    subst same
    refine other rfl (turnTalks ran) ?_ ?_ <;> simp [SessionOutcome.outcome,Frame.plain]
  | talk b f => exact talkTurnChange ok
  | source sourceID stage =>
    obtain ⟨next,spawned⟩ := sourceNext ok
    refine other rfl (sourceOnly ok).talks (fun g mem => partPlain (by rw [next g mem]; simp)) ?_
    rw [spawned]; simp
  | pass p stage =>
    obtain ⟨next,spawned⟩ := passNext ok
    refine other rfl (passKept ok) (fun g mem => partPlain (by rw [next g mem]; simp)) ?_
    rcases spawned with none | ⟨_,fits,same⟩
    · rw [none]; simp
    · rw [same]; exact stopsPlain p.number
  | _ =>
    cases Option.some.inj ok
    exact other rfl (.beside rfl rfl rfl fun _ _ mem => mem) (by simp) (by simp)

theorem playTalks (value streamID : String) : KeptTalks s (s.after (s.play value streamID)) := by
  have log {t : Server} (same : t.log = s.log ++ [.played value streamID s.now]) (b : Bid) (peer : Peer)
      (mem : .peered b peer ∈ t.log) : .peered b peer ∈ s.log := by
    rw [same] at mem
    simpa using mem
  unfold Server.play
  split
  · exact .refl s
  split
  · exact .refl s
  split
  · exact .refl s
  split
  · unfold Server.claim
    split
    · exact .refl s
    · exact .beside rfl rfl rfl (log rfl)
  · split
    · exact .beside rfl rfl rfl (log rfl)
    · exact .refl s

theorem tokenTalks {c : TokenCall} (ok : tokenCall s c = some out) :
    TalkChange s none ⟨out.shared,[],out.spawned⟩ := by
  refine .calls ?_ fun task mem f inside => partPlain (by rw [tokenSpawned ok task mem f inside]; nofun)
  by_cases play : ∃ value streamID store, c = .consumeStreamToken value .play streamID store
  · obtain ⟨value,streamID,store,same⟩ := play
    subst same
    cases Option.some.inj ok
    exact playTalks value streamID
  · exact (tokenCallOnly ok fun value streamID store same => play ⟨value,streamID,store,same⟩).talks

theorem sectionTalks {frame : Option Frame} (ran : Section s frame out) :
    TalkChange s frame out := by
  cases ran with
  | frame f r ok => exact frameTalks ok
  | call c ok =>
    cases c with
    | live c => exact liveTalks (liveEffect ok)
    | token c => exact tokenTalks ok
    | device c => exact deviceTalks (deviceEffect ok)
    | talk c => exact talkCallChange ok
    | reconcile pass =>
      simp only [call,Server.beginPass] at ok
      split at ok <;> try contradiction
      cases Option.some.inj ok
      refine .calls ?_ ?_
      · have only := passStopsOnly (s := s) pass true fun _ o => o.lapsed
        exact .beside rfl rfl rfl (KeptTalks.logged only.log fun _ _ => id)
      · intro task mem f inside
        rcases List.mem_cons.mp mem with self | old
        · rw [self,List.mem_singleton] at inside
          rw [inside]
          rfl
        · exact stopsPlain pass task old f inside
  | world w ok =>
    cases w with
    | clock now =>
      simp only [world] at ok
      split at ok <;> try contradiction
      cases Option.some.inj ok; exact .quiet (.beside rfl rfl rfl fun _ _ mem => mem)
    | endContext y =>
      obtain ⟨o,here,same⟩ := Option.map_eq_some_iff.mp ok
      subst same
      exact .quiet (.beside rfl rfl rfl fun _ _ mem => mem)
    | appear streamID =>
      simp only [world] at ok
      split at ok <;> try contradiction
      cases Option.some.inj ok; exact .quiet (.beside rfl rfl rfl fun _ _ mem => mem)
    | vanish => cases Option.some.inj ok; exact .quiet (.beside rfl rfl rfl fun _ _ mem => mem)

end

end MediaServer.Signaling
