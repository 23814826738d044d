import MediaServer.SessionMove

/-! One session and all threads that have to do with it. Three things are conserved by
every section: the frame that must still remove the session, the frame that must still
close established, and the frame inside the dialog mutex. What a pending frame may rely
on is said once, frame by frame. -/
namespace MediaServer.Signaling

def Session.byes (o : Session) : Nat := (o.sent.filter (·.method == .bye)).length

namespace SessionFrame

def owns : SessionFrame → Nat
  | .start _ | .clean _ _ | .bye _ _ | .drain => 1
  | _ => 0

def starting : SessionFrame → Nat
  | .start _ | .clean .starter _ | .bye (.clean .starter) _ | .established => 1
  | _ => 0

def holds : SessionFrame → Nat
  | .bye _ .send | .bye _ .wait => 1
  | .control .check | .control .send | .control .wait | .control .unlock => 1
  | _ => 0

def Fits (o : Session) : SessionFrame → Prop
  | .start stage =>
      o.streamed = false ∧ o.byes = 0 ∧ o.answer = stage.answered ∧
        o.invite.isSome = stage.invited ∧ (stage.early = true → o.created = false) ∧
        (stage.ticketless = true → o.tickets = 0)
  | .clean .starter (.begin sendBye) =>
      o.streamed = false ∧ o.byes = 0 ∧ o.answer = sendBye ∧ (sendBye = true → o.invite.isSome)
  | .clean .starter .delete => o.streamed = false ∧ o.byes = o.answer.toNat
  | .clean .starter .remove =>
      o.streamed = false ∧ o.byes = o.answer.toNat ∧ (o.created = true → 0 < o.deletes)
  | .bye (.clean .starter) .wait => o.streamed = false ∧ o.answer = true ∧ o.byes = 1
  | .bye (.clean .starter) _ =>
      o.streamed = false ∧ o.answer = true ∧ o.byes = 0 ∧ o.invite.isSome
  | .clean .stopper (.begin true) => o.streamed = true ∧ o.byes = 0 ∧ o.invite.isSome
  | .clean .stopper _ | .drain | .bye _ .wait => o.streamed = true
  | .bye _ _ => o.streamed = true ∧ o.byes = 0 ∧ o.invite.isSome
  | .established => o.streamed = false → o.byes = o.answer.toNat ∧ (o.created = true → 0 < o.deletes)
  | .control .send => o.byes = 0 ∧ o.invite.isSome
  | _ => True

variable {f : SessionFrame}

theorem outsideFree (outside : f.outside = true) :
    f.owns = 0 ∧ f.starting = 0 ∧ f.holds = 0 ∧ ∀ o, f.Fits o := by
  cases f with
  | start | clean | bye | drain | established => cases outside
  | control stage =>
    cases stage with
    | tryLock => exact ⟨rfl,rfl,rfl,fun _ => trivial⟩
    | _ => cases outside
  | _ => exact ⟨rfl,rfl,rfl,fun _ => trivial⟩

theorem ownerStreamed {o : Session} (owner : f.owns = 1) (later : f.starting = 0) (fits : f.Fits o) :
    o.streamed = true := by
  cases f with
  | clean role stage =>
    cases role with
    | starter => cases later
    | stopper =>
      cases stage with
      | begin sendBye => cases sendBye; exacts [fits,fits.1]
      | _ => exact fits
  | bye after stage =>
    cases after with
    | clean role =>
      cases role with
      | starter => cases later
      | stopper => cases stage; exacts [fits.1,fits.1,fits]
    | drain => cases stage; exacts [fits.1,fits.1,fits]
  | drain => exact fits
  | start => cases later
  | _ => cases owner

end SessionFrame

structure SameCore (o p : Session) : Prop where
  streamed : p.streamed = o.streamed
  answer : p.answer = o.answer
  created : p.created = o.created
  invite : p.invite = o.invite
  byes : p.byes = o.byes
  deletes : p.deletes = o.deletes
  tickets : p.tickets = o.tickets

variable {o p : Session} {f : SessionFrame} {m : Method} {w : SessionFrame → Nat}
  {fs : List SessionFrame}

theorem SameCore.fits (same : SameCore o p) (fits : f.Fits o) : f.Fits p := by
  unfold SessionFrame.Fits at *
  rw [same.streamed,same.answer,same.created,same.invite,same.byes,same.deletes,same.tickets]
  exact fits

theorem nextByes (next : o.nextDialogRequest m = some p) :
    p.byes = o.byes + (if m = .bye then 1 else 0) := by
  obtain ⟨first,_,same⟩ := Option.map_eq_some_iff.mp next
  subst same
  cases m <;> simp [Session.byes]

theorem nextSame (next : o.nextDialogRequest m = some p) :
    p = {o with cseq := p.cseq, sent := p.sent} := by
  obtain ⟨first,_,same⟩ := Option.map_eq_some_iff.mp next
  subst same
  rfl

def Effect.stays (e : Effect) : Bool := e.act != .remove

def busy (current : Bool) (o : Session) : Nat :=
  if current = true ∧ o.state ≠ .streaming then 1 else 0

def weigh (w : SessionFrame → Nat) (frames : List SessionFrame) : Nat := (frames.map w).sum

@[simp] theorem weighNil (w : SessionFrame → Nat) : weigh w [] = 0 := rfl

@[simp] theorem weighCons (w : SessionFrame → Nat) (f : SessionFrame) (fs : List SessionFrame) :
    weigh w (f :: fs) = w f + weigh w fs := by simp [weigh]

@[simp] theorem weighAppend (w : SessionFrame → Nat) (fs gs : List SessionFrame) :
    weigh w (fs ++ gs) = weigh w fs + weigh w gs := by simp [weigh]

theorem weighMem (mem : f ∈ fs) : w f ≤ weigh w fs := by
  induction fs with
  | nil => cases mem
  | cons g fs ih =>
    rw [weighCons]
    rcases List.mem_cons.mp mem with same | later
    · subst same; omega
    · have := ih later; omega

theorem weighZero (zero : ∀ f ∈ fs, w f = 0) : weigh w fs = 0 := by
  induction fs with
  | nil => rfl
  | cons f rest ih =>
    rw [weighCons,zero f (List.mem_cons_self ..),ih fun g mem => zero g (List.mem_cons_of_mem _ mem)]

namespace Moves

variable {o : Session} {current : Bool} {f : SessionFrame} {e : Effect}

theorem identity (move : Moves o current f e) :
    e.session.key = o.key ∧ e.session.streamID = o.streamID ∧ e.session.ssrc = o.ssrc ∧
      e.session.claimed = o.claimed := by
  cases move with
  | byeSent after next => rw [nextSame next]; exact ⟨rfl,rfl,rfl,rfl⟩
  | controlSent next => rw [nextSame next]; exact ⟨rfl,rfl,rfl,rfl⟩
  | _ => exact ⟨rfl,rfl,rfl,rfl⟩

theorem ownsKept (move : Moves o current f e)
    (alive : f.owns = 1 → current = true ∧ o.state ≠ .streaming) :
    weigh SessionFrame.owns e.next + weigh SessionFrame.owns e.spawned + busy current o =
      f.owns + busy (current && e.stays) e.session := by
  cases move with
  | byeSent after next =>
    rw [nextSame next]
    simp [SessionFrame.owns,Effect.stays,busy]
  | controlSent next =>
    rw [nextSame next]
    simp [SessionFrame.owns,Effect.stays,busy]
  | inviting port ready state =>
    simp [SessionFrame.owns,Effect.stays,busy,state]
  | confirmed state =>
    simp [SessionFrame.owns,Effect.stays,busy,state,(alive rfl).1]
  | removed role here =>
    cases role <;> simp [SessionFrame.owns,Effect.stays,busy,Role.rest,here,(alive rfl).2]
  | missing role gone => exact nomatch (alive rfl).1.symm.trans gone
  | byeEnded after => cases after <;> simp [SessionFrame.owns,Effect.stays,busy,After.frame]
  | stopsStream patient here state => simp [SessionFrame.owns,Effect.stays,busy,here,state]
  | stopsStart patient here state => simp [SessionFrame.owns,Effect.stays,busy,here,state]
  | finished sendBye here state =>
    cases sendBye <;> simp [SessionFrame.owns,Effect.stays,busy,here,state]
  | byeReceived here state => simp [SessionFrame.owns,Effect.stays,busy,here,state]
  | leaves outside => simp [(SessionFrame.outsideFree outside).1,Effect.stays,busy]
  | abandoned early quiet =>
    rcases quiet with rfl | rfl <;> simp [SessionFrame.owns,Effect.stays,busy]
  | _ => simp [SessionFrame.owns,Effect.stays,busy]

theorem startingKept (move : Moves o current f e) :
    weigh SessionFrame.starting e.next + weigh SessionFrame.starting e.spawned +
      e.session.established = f.starting + o.established := by
  cases move with
  | byeSent after next =>
    rw [nextSame next]
    rcases after with ⟨⟨⟩⟩ | _ <;> simp [SessionFrame.starting]
  | controlSent next =>
    rw [nextSame next]
    simp [SessionFrame.starting]
  | removed role here => cases role <;> simp [SessionFrame.starting,Role.rest]
  | missing role gone => cases role <;> simp [SessionFrame.starting,Role.rest]
  | hangsUp role => cases role <;> simp [SessionFrame.starting]
  | @skipsBye role => cases role <;> simp [SessionFrame.starting]
  | deleted role => cases role <;> simp [SessionFrame.starting]
  | byeLocked after => rcases after with ⟨⟨⟩⟩ | _ <;> simp [SessionFrame.starting]
  | byeEnded after => rcases after with ⟨⟨⟩⟩ | _ <;> simp [SessionFrame.starting,After.frame]
  | finished sendBye => cases sendBye <;> simp [SessionFrame.starting]
  | returned => simp [SessionFrame.starting]; omega
  | leaves outside => simp [(SessionFrame.outsideFree outside).2.1]
  | _ => simp [SessionFrame.starting]

theorem holdsKept (move : Moves o current f e) (inside : f.holds = 1 → o.dialog = true) :
    weigh SessionFrame.holds e.next + weigh SessionFrame.holds e.spawned + o.dialog.toNat =
      f.holds + e.session.dialog.toNat := by
  cases move with
  | byeSent after next =>
    rw [nextSame next]
    simp [SessionFrame.holds]
  | controlSent next =>
    rw [nextSame next]
    simp [SessionFrame.holds]
  | removed role here => cases role <;> simp [SessionFrame.holds,Role.rest]
  | missing role gone => cases role <;> simp [SessionFrame.holds,Role.rest]
  | byeLocked after free => simp [SessionFrame.holds,free]
  | byeEnded after => cases after <;> simp [SessionFrame.holds,After.frame,inside rfl]
  | finished sendBye => cases sendBye <;> simp [SessionFrame.holds]
  | controlLocked free => simp [SessionFrame.holds,free]
  | controlUnlocked => simp [SessionFrame.holds,inside rfl]
  | leaves outside => simp [(SessionFrame.outsideFree outside).2.2.1]
  | _ => simp [SessionFrame.holds]

theorem guest (move : Moves o current f e) (guest : f.owns = 0) :
    SameCore o e.session ∧ e.stays = true ∧ e.session.done = o.done ∧
      e.session.released = o.released ∧
      (e.session.state = o.state ∨ e.session.state = .stopping) := by
  cases move with
  | byeSent after next => cases guest
  | controlSent next =>
    have byes := nextByes next
    rw [nextSame next] at byes ⊢
    exact ⟨⟨rfl,rfl,rfl,rfl,byes,rfl,rfl⟩,rfl,rfl,rfl,.inl rfl⟩
  | stopsStream | stopsStart | finished | byeReceived =>
    exact ⟨⟨rfl,rfl,rfl,rfl,rfl,rfl,rfl⟩,rfl,rfl,rfl,.inr rfl⟩
  | returned | controlLocked | controlChecked | controlRefused | controlAnswered
  | controlUnlocked | callerStops | leaves =>
    exact ⟨⟨rfl,rfl,rfl,rfl,rfl,rfl,rfl⟩,rfl,rfl,rfl,.inl rfl⟩
  | _ => cases guest

theorem forward (move : Moves o current f e) :
    (o.streamed = true → e.session.streamed = true) ∧
      (o.invite.isSome = true → e.session.invite.isSome = true) ∧
      (f.holds = 0 → e.session.byes = o.byes) := by
  cases move with
  | byeSent after next =>
    rw [nextSame next]
    exact ⟨id,id,nofun⟩
  | controlSent next =>
    rw [nextSame next]
    exact ⟨id,id,nofun⟩
  | confirmed => exact ⟨fun _ => rfl,id,fun _ => rfl⟩
  | inviteStored first => exact ⟨id,fun _ => rfl,fun _ => rfl⟩
  | _ => exact ⟨id,id,fun _ => rfl⟩

theorem closing (move : Moves o current f e) :
    e.session.done = o.done + (!e.stays).toNat ∧
      e.session.released = o.released + (!e.stays).toNat ∧
      (e.stays = false → current = true ∧ ∃ role, f = .clean role .remove) := by
  cases move with
  | removed role here => exact ⟨rfl,rfl,fun _ => ⟨here,role,rfl⟩⟩
  | byeSent after next =>
    rw [nextSame next]
    exact ⟨rfl,rfl,nofun⟩
  | controlSent next =>
    rw [nextSame next]
    exact ⟨rfl,rfl,nofun⟩
  | abandoned early quiet => rcases quiet with rfl | rfl <;> exact ⟨rfl,rfl,nofun⟩
  | _ => exact ⟨rfl,rfl,nofun⟩

theorem states (move : Moves o current f e) :
    e.session.state = o.state ∨ e.session.state = .stopping ∨
      (o.state = .preparing ∧ e.session.state = .inviting) ∨
      (o.state = .inviting ∧ f = .start .confirm ∧ e.session.state = .streaming ∧
        e.session.streamed = true ∧ e.session.byes = o.byes ∧ e.session.invite = o.invite) := by
  cases move with
  | inviting port ready state => exact .inr (.inr (.inl ⟨state,rfl⟩))
  | confirmed state => exact .inr (.inr (.inr ⟨state,rfl,rfl,rfl,rfl,rfl⟩))
  | stopsStream | stopsStart | finished | byeReceived => exact .inr (.inl rfl)
  | byeSent after next =>
    rw [nextSame next]
    exact .inl rfl
  | controlSent next =>
    rw [nextSame next]
    exact .inl rfl
  | _ => exact .inl rfl

theorem atMostOnce (move : Moves o current f e) (fits : f.Fits o) :
    (e.session.byes = o.byes ∨ e.session.byes = 1) ∧
      (e.session.tickets = o.tickets ∨ e.session.tickets = 1) := by
  cases move with
  | ticketed port value =>
    refine ⟨.inl rfl,.inr ?_⟩
    have none := fits.2.2.2.2.2 rfl
    exact congrArg (· + 1) none
  | byeSent after next =>
    have byes := nextByes next
    refine ⟨.inr ?_,.inl (by rw [nextSame next])⟩
    rcases after with ⟨⟨⟩⟩ | _
    · rw [byes,fits.2.2.1]; rfl
    · rw [byes,fits.2.1]; rfl
    · rw [byes,fits.2.1]; rfl
  | controlSent next => exact ⟨.inl (nextByes next),.inl (by rw [nextSame next])⟩
  | _ => exact ⟨.inl rfl,.inl rfl⟩

theorem ticketing (move : Moves o current f e) :
    (e.session.tickets = o.tickets ∧ ∀ value, e.act ≠ .issue value) ∨
      (e.session.tickets = o.tickets + 1 ∧ o.history = true ∧ (∃ port, f = .start (.prepared port)) ∧
        ∃ value, e.act = .issue value) := by
  cases move with
  | ticketed port value history => exact .inr ⟨rfl,history,⟨port,rfl⟩,value,rfl⟩
  | abandoned early quiet => rcases quiet with rfl | rfl <;> exact .inl ⟨rfl,nofun⟩
  | byeSent after next => rw [nextSame next]; exact .inl ⟨rfl,nofun⟩
  | controlSent next => rw [nextSame next]; exact .inl ⟨rfl,nofun⟩
  | _ => exact .inl ⟨rfl,nofun⟩

theorem establishedOnce (move : Moves o current f e) :
    f = .established ∨ e.session.established = o.established := by
  cases move with
  | returned => exact .inl rfl
  | byeSent after next => exact .inr (by rw [nextSame next])
  | controlSent next => exact .inr (by rw [nextSame next])
  | _ => exact .inr rfl

end Moves

namespace SessionFrame

variable {o : Session} {stage : StartStage} {role : Role} {after : After}

theorem startAdvances {later : StartStage} (leads : stage.Leads later)
    (fits : (start stage).Fits o) : (start later).Fits o := by
  obtain ⟨early,ticketless,invited,answered⟩ := leads.keeps
  obtain ⟨streamed,byes,answer,invite,created,tickets⟩ := fits
  refine ⟨streamed,byes,by rw [answered]; exact answer,by rw [invited]; exact invite,?_,?_⟩
  · intro soon
    rw [early] at soon
    exact created (Bool.and_eq_true_iff.mp soon).1
  · rw [ticketless]; exact tickets

theorem startAbandoned (early : stage.early = true) (fits : (start stage).Fits o) :
    (clean .starter .remove).Fits o := by
  obtain ⟨streamed,byes,answer,invite,created,tickets⟩ := fits
  have unanswered : stage.answered = false := by cases stage <;> first | rfl | cases early
  refine ⟨streamed,?_,?_⟩
  · rw [answer,unanswered]; exact byes
  · rw [created early]; nofun

variable {port : Nat}

theorem startInvites (ready : stage = .target ∨ stage = .prepared port)
    (fits : (start stage).Fits o) :
    (start .sdp).Fits {o with rtpPort := port, state := .inviting} := by
  obtain ⟨streamed,byes,answer,invite,created,tickets⟩ := fits
  have plain : stage.answered = false ∧ stage.invited = false := by
    rcases ready with rfl | rfl <;> exact ⟨rfl,rfl⟩
  exact ⟨streamed,byes,answer.trans plain.1,invite.trans plain.2,nofun,nofun⟩

theorem startFails (fits : (start stage).Fits o) :
    (clean .starter (.begin stage.answered)).Fits {o with rtpPort := port} := by
  obtain ⟨streamed,byes,answer,invite,created,tickets⟩ := fits
  refine ⟨streamed,byes,answer,fun known => ?_⟩
  have invited : stage.invited = true := by cases stage <;> first | rfl | cases known
  exact invite.trans invited

theorem cleanHangsUp (answer : o.answer = true) (fits : (clean role (.begin true)).Fits o) :
    (bye (.clean role) .lock).Fits o := by
  cases role with
  | starter => exact ⟨fits.1,answer,fits.2.1,fits.2.2.2 rfl⟩
  | stopper => exact fits

theorem cleanSkipsBye {sendBye : Bool} (quiet : sendBye = true → o.answer = false)
    (fits : (clean role (.begin sendBye)).Fits o) : (clean role .delete).Fits o := by
  cases role with
  | starter =>
    obtain ⟨streamed,byes,answer,invite⟩ := fits
    have silent : o.answer = false := by
      cases sendBye with
      | false => exact answer
      | true => exact quiet rfl
    exact ⟨streamed,by rw [silent]; exact byes⟩
  | stopper => exact ownerStreamed (f := .clean .stopper (.begin sendBye)) rfl rfl fits

theorem cleanDeletes (fits : (clean role .delete).Fits o) :
    (clean role .remove).Fits {o with deletes := o.deletes + 1} := by
  cases role with
  | starter => exact ⟨fits.1,fits.2,fun _ => Nat.succ_pos _⟩
  | stopper => exact fits

theorem cleanReturns (fits : (clean role .remove).Fits o) : ∀ g ∈ role.rest, g.Fits o := by
  cases role with
  | starter =>
    intro g mem
    cases List.mem_singleton.mp mem
    exact fun _ => fits.2
  | stopper => nofun

theorem byeLocks (fits : (bye after .lock).Fits o) :
    (bye after .send).Fits {o with dialog := true} := by
  rcases after with ⟨⟨⟩⟩ | _ <;> exact fits

theorem byeSends {p : Session} (next : o.nextDialogRequest .bye = some p)
    (fits : (bye after .send).Fits o) : (bye after .wait).Fits p := by
  have byes := nextByes next
  rw [nextSame next] at byes ⊢
  rcases after with ⟨⟨⟩⟩ | _
  · exact ⟨fits.1,fits.2.1,byes.trans (by simp [fits.2.2.1])⟩
  · exact fits.1
  · exact fits.1

theorem byeEnds (fits : (bye after .wait).Fits o) :
    after.frame.Fits {o with dialog := false} := by
  rcases after with ⟨⟨⟩⟩ | _
  · exact ⟨fits.1,fits.2.2.trans (by simp [fits.2.1])⟩
  · exact fits
  · exact fits

end SessionFrame

namespace Moves

variable {o : Session} {current : Bool} {f : SessionFrame} {e : Effect}

theorem fitsNext (move : Moves o current f e) (fits : f.Fits o)
    (streams : o.state = .streaming → o.streamed = true ∧ o.byes = 0 ∧ o.invite.isSome = true) :
    ∀ g ∈ e.next ++ e.spawned, g.Fits e.session := by
  have one {p : Session} {g : SessionFrame} (fits : g.Fits p) : ∀ h ∈ [g], h.Fits p := by
    intro h mem
    cases List.mem_singleton.mp mem
    exact fits
  cases move with
  | advance leads => exact one (SessionFrame.startAdvances leads fits)
  | abandoned early quiet => exact one (SessionFrame.startAbandoned early fits)
  | created port =>
    obtain ⟨streamed,byes,answer,invite,created,tickets⟩ := fits
    exact one ⟨streamed,byes,answer,invite,nofun,tickets⟩
  | ticketed port value =>
    obtain ⟨streamed,byes,answer,invite,created,tickets⟩ := fits
    exact one ⟨streamed,byes,answer,invite,nofun,nofun⟩
  | inviting port ready state => exact one (SessionFrame.startInvites ready fits)
  | inviteStored first =>
    obtain ⟨streamed,byes,answer,invite,created,tickets⟩ := fits
    exact one ⟨streamed,byes,answer,rfl,nofun,nofun⟩
  | answerStored =>
    obtain ⟨streamed,byes,answer,invite,created,tickets⟩ := fits
    exact one ⟨streamed,byes,rfl,invite,nofun,nofun⟩
  | confirmed => exact one nofun
  | failed port late => exact one (SessionFrame.startFails fits)
  | hangsUp role answer => exact one (SessionFrame.cleanHangsUp answer fits)
  | skipsBye quiet => exact one (SessionFrame.cleanSkipsBye quiet fits)
  | deleted role gone => exact one (SessionFrame.cleanDeletes fits)
  | removed role here =>
    rw [List.append_nil]
    exact fun g mem => SameCore.fits ⟨rfl,rfl,rfl,rfl,rfl,rfl,rfl⟩ (SessionFrame.cleanReturns fits g mem)
  | missing role gone =>
    rw [List.append_nil]
    exact SessionFrame.cleanReturns fits
  | byeLocked after free => exact one (SessionFrame.byeLocks fits)
  | byeSent after next => exact one (SessionFrame.byeSends next fits)
  | byeEnded after => exact one (SessionFrame.byeEnds fits)
  | drained => exact one fits
  | stopsStream patient here state => exact one (streams state)
  | finished sendBye here state =>
    cases sendBye with
    | false => exact one (streams state).1
    | true => exact one (streams state)
  | byeReceived here state => exact one (streams state).1
  | controlChecked here state => exact one (streams state).2
  | returned | controlUnlocked | leaves => nofun
  | _ => exact one trivial

end Moves

end MediaServer.Signaling
