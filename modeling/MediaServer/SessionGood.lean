import MediaServer.SessionLife

/-! The invariant of one session's life, kept by every section of every thread. -/
namespace MediaServer.Signaling

def Session.Counted (o : Session) : Prop :=
  match o.invite with
  | none => o.sent = [] ∧ o.cseq = 0
  | some first =>
      first + o.sent.length < 2 ^ 32 →
        o.sent.map (·.cseq) = List.range' (first + 1) o.sent.length ∧
          o.cseq = if o.sent.length = 0 then 0 else first + o.sent.length

theorem countedNext {o p : Session} {m : Method} (counted : o.Counted)
    (next : o.nextDialogRequest m = some p) : p.Counted := by
  obtain ⟨first,invite,same⟩ := Option.map_eq_some_iff.mp next
  subst same
  unfold Session.Counted at counted ⊢
  simp only [invite] at counted ⊢
  intro short
  simp only [List.length_append,List.length_singleton] at short
  obtain ⟨numbers,last⟩ := counted (by omega)
  have number : ((if o.cseq = 0 then first else o.cseq) + 1) % 2 ^ 32 =
      first + 1 + o.sent.length := by
    rw [last]
    split
    · rename_i none
      rw [if_pos rfl,none]
      exact Nat.mod_eq_of_lt (by omega)
    · rename_i some
      rw [if_neg (by omega)]
      rw [Nat.mod_eq_of_lt (by omega)]
      omega
  simp only [number,List.map_append,List.map_cons,List.map_nil,List.length_append,
    List.length_singleton,numbers]
  refine ⟨?_,by rw [if_neg (by omega)]; omega⟩
  rw [List.range'_concat]
  simp

theorem Moves.counted {o : Session} {current : Bool} {f : SessionFrame} {e : Effect}
    (move : Moves o current f e) (fits : f.Fits o) (counted : o.Counted) : e.session.Counted := by
  cases move with
  | inviteStored first =>
    have none : o.invite = none := Option.isNone_iff_eq_none.mp (by
      have absent : o.invite.isSome = false := fits.2.2.2.1
      cases known : o.invite <;> simp_all)
    unfold Session.Counted at counted ⊢
    simp only [none] at counted
    simp only [counted.1,counted.2]
    intro _
    exact ⟨rfl,rfl⟩
  | byeSent after next => exact countedNext counted next
  | controlSent next => exact countedNext counted next
  | _ => exact counted

structure Life where
  session : Session
  stored : Bool
  frames : List SessionFrame

structure Life.Good (l : Life) : Prop where
  owned : weigh SessionFrame.owns l.frames = busy l.stored l.session
  started : weigh SessionFrame.starting l.frames + l.session.established = 1
  held : weigh SessionFrame.holds l.frames = l.session.dialog.toNat
  done : l.session.done = (!l.stored).toNat
  released : l.session.released = (!l.stored).toNat
  fits : ∀ f ∈ l.frames, f.Fits l.session
  streams : l.session.state = .streaming → l.stored = true ∧ l.session.streamed = true ∧
    l.session.byes = 0 ∧ l.session.invite.isSome = true
  settled : 0 < l.session.established → l.session.streamed = false →
    l.session.byes = l.session.answer.toNat ∧ (l.session.created = true → 0 < l.session.deletes)
  byes : l.session.byes ≤ 1
  tickets : l.session.tickets ≤ 1
  counted : l.session.Counted

namespace Life.Good

variable {l : Life} {a b : List SessionFrame} {f g : SessionFrame} {e : Effect}

theorem alive (good : l.Good) (mem : f ∈ l.frames) (owner : f.owns = 1) :
    l.stored = true ∧ l.session.state ≠ .streaming := by
  have some := weighMem (w := SessionFrame.owns) mem
  have owned := good.owned
  unfold busy at owned
  split at owned
  · assumption
  · omega

theorem inside (good : l.Good) (mem : f ∈ l.frames) (holder : f.holds = 1) :
    l.session.dialog = true := by
  have some := weighMem (w := SessionFrame.holds) mem
  have held := good.held
  cases open_ : l.session.dialog with
  | true => rfl
  | false =>
    rw [open_,Bool.toNat_false] at held
    omega

theorem ownerAlone (good : l.Good) (frames : l.frames = a ++ f :: b) (mem : g ∈ a ++ b)
    (owner : f.owns = 1) : g.owns = 0 := by
  have some := weighMem (w := SessionFrame.owns) mem
  have owned := good.owned
  have most : busy l.stored l.session ≤ 1 := by unfold busy; split <;> omega
  rw [frames] at owned
  simp only [weighAppend,weighCons] at owned some
  omega

theorem holderAlone (good : l.Good) (frames : l.frames = a ++ f :: b) (mem : g ∈ a ++ b)
    (holder : g.holds = 1) : f.holds = 0 := by
  have some := weighMem (w := SessionFrame.holds) mem
  have held := good.held
  have most := Bool.toNat_le l.session.dialog
  rw [frames] at held
  simp only [weighAppend,weighCons] at held some
  omega

theorem starterAlone (good : l.Good) (frames : l.frames = a ++ f :: b) (mem : g ∈ a ++ b)
    (starter : g.starting = 1) : f.starting = 0 ∧ l.session.established = 0 := by
  have some := weighMem (w := SessionFrame.starting) mem
  have started := good.started
  rw [frames] at started
  simp only [weighAppend,weighCons] at started some
  omega

theorem starterLast (good : l.Good) (frames : l.frames = a ++ f :: b)
    (closed : 0 < l.session.established) : f.starting = 0 := by
  have started := good.started
  rw [frames] at started
  simp only [weighAppend,weighCons] at started
  omega

theorem fitsOthers (good : l.Good) (frames : l.frames = a ++ f :: b)
    (move : Moves l.session l.stored f e) (mem : g ∈ a ++ b) : g.Fits e.session := by
  have here : g ∈ l.frames := by
    rw [frames]
    rcases List.mem_append.mp mem with left | right
    · exact List.mem_append_left _ left
    · exact List.mem_append_right _ (List.mem_cons_of_mem _ right)
  have moved : f ∈ l.frames := by rw [frames]; simp
  have fits := good.fits g here
  obtain ⟨streamed,invite,byes⟩ := move.forward
  rcases Nat.eq_zero_or_pos f.owns with guest | some
  · exact (move.guest guest).1.fits fits
  have owner : f.owns = 1 := by
    have : f.owns ≤ 1 := by unfold SessionFrame.owns; split <;> omega
    omega
  have alone := good.ownerAlone frames mem owner
  cases g with
  | start | clean | bye | drain => cases alone
  | established =>
    intro silent
    have later := (good.starterAlone frames mem rfl).1
    have known := SessionFrame.ownerStreamed owner later (good.fits f moved)
    exact nomatch (streamed known).symm.trans silent
  | control stage =>
    cases stage with
    | send =>
      have free := good.holderAlone frames mem rfl
      exact ⟨(byes free).trans fits.1,invite fits.2⟩
    | _ => trivial
  | _ => trivial

theorem turn (good : l.Good) (frames : l.frames = a ++ f :: b)
    (move : Moves l.session l.stored f e) :
    Good ⟨e.session,l.stored && e.stays,a ++ e.next ++ b ++ e.spawned⟩ := by
  have mem : f ∈ l.frames := by rw [frames]; simp
  have fits := good.fits f mem
  have owner : f.owns = 0 ∨ f.owns = 1 := by
    unfold SessionFrame.owns; split <;> simp
  have streams (state : l.session.state = .streaming) := (good.streams state).2
  have owned := move.ownsKept (good.alive mem)
  have started := move.startingKept
  have held := move.holdsKept (good.inside mem)
  obtain ⟨done,released,taken⟩ := move.closing
  have ownedBefore := good.owned
  have startedBefore := good.started
  have heldBefore := good.held
  rw [frames] at ownedBefore startedBefore heldBefore
  simp only [weighAppend,weighCons] at ownedBefore startedBefore heldBefore
  constructor
  case owned =>
    simp only [weighAppend]
    omega
  case started =>
    simp only [weighAppend]
    omega
  case held =>
    simp only [weighAppend]
    omega
  case done =>
    rw [done,good.done]
    cases stays : e.stays with
    | true => simp
    | false => simp [(taken stays).1]
  case released =>
    rw [released,good.released]
    cases stays : e.stays with
    | true => simp
    | false => simp [(taken stays).1]
  case fits =>
    intro g member
    simp only [List.mem_append] at member
    rcases member with ((left | new) | right) | new
    · exact good.fitsOthers frames move (List.mem_append_left _ left)
    · exact move.fitsNext fits streams g (List.mem_append_left _ new)
    · exact good.fitsOthers frames move (List.mem_append_right _ right)
    · exact move.fitsNext fits streams g (List.mem_append_right _ new)
  case streams =>
    intro state
    rcases move.states with same | stopping | ⟨_,inviting⟩ | ⟨_,confirm,_,streamed,byes,invite⟩
    ·
      have before := same.symm.trans state
      have guest : f.owns = 0 := by
        rcases owner with guest | owner
        · exact guest
        · exact absurd before (good.alive mem owner).2
      obtain ⟨core,stays,_⟩ := move.guest guest
      obtain ⟨here,streamed,byes,invite⟩ := good.streams before
      exact ⟨by simp [here,stays],core.streamed.trans streamed,core.byes.trans byes,
        by rw [core.invite]; exact invite⟩
    · exact nomatch stopping.symm.trans state
    · exact nomatch inviting.symm.trans state
    · subst confirm
      have here := (good.alive mem rfl).1
      have stays : e.stays = true := by
        cases known : e.stays with
        | true => rfl
        | false =>
          obtain ⟨_,role,other⟩ := taken known
          cases other
      exact ⟨by simp [here,stays],streamed,byes.trans fits.2.1,
        by rw [invite]; exact fits.2.2.2.1⟩
  case settled =>
    intro closed silent
    rcases move.establishedOnce with first | same
    · subst first
      have core := (move.guest rfl).1
      rw [core.byes,core.answer,core.created,core.deletes]
      exact fits (core.streamed.symm.trans silent)
    · rw [same] at closed
      rcases owner with guest | owner
      · have core := (move.guest guest).1
        rw [core.byes,core.answer,core.created,core.deletes]
        exact good.settled closed (core.streamed.symm.trans silent)
      · have known := SessionFrame.ownerStreamed owner (good.starterLast frames closed) fits
        exact nomatch (move.forward.1 known).symm.trans silent
  case byes =>
    have before := good.byes
    rcases (move.atMostOnce fits).1 with same | one <;> simp only <;> omega
  case tickets =>
    have before := good.tickets
    rcases (move.atMostOnce fits).2 with same | one <;> simp only <;> omega
  case counted => exact move.counted fits good.counted

theorem enter (good : l.Good) {new : List SessionFrame} (outside : ∀ f ∈ new, f.outside = true) :
    Good {l with frames := l.frames ++ new} := by
  have light (w : SessionFrame → Nat) (zero : ∀ f, f.outside = true → w f = 0) : weigh w new = 0 := by
    induction new with
    | nil => rfl
    | cons f rest ih =>
      rw [weighCons,zero f (outside f (List.mem_cons_self ..)),
        ih fun g mem => outside g (List.mem_cons_of_mem _ mem)]
  constructor
  case owned =>
    rw [weighAppend,light _ fun f h => (SessionFrame.outsideFree h).1]
    exact good.owned
  case started =>
    rw [weighAppend,light _ fun f h => (SessionFrame.outsideFree h).2.1]
    exact good.started
  case held =>
    rw [weighAppend,light _ fun f h => (SessionFrame.outsideFree h).2.2.1]
    exact good.held
  case fits =>
    intro f mem
    rcases List.mem_append.mp mem with old | new
    · exact good.fits f old
    · exact (SessionFrame.outsideFree (outside f new)).2.2.2 _
  case done => exact good.done
  case released => exact good.released
  case streams => exact good.streams
  case settled => exact good.settled
  case byes => exact good.byes
  case tickets => exact good.tickets
  case counted => exact good.counted

theorem called (good : l.Good) (outside : f.outside = true) (move : Moves l.session l.stored f e) :
    Good ⟨e.session,l.stored && e.stays,l.frames ++ e.next ++ e.spawned⟩ := by
  have entered : Good {l with frames := l.frames ++ [f]} := good.enter (by simpa using outside)
  have moved := entered.turn (a := l.frames) (b := []) rfl move
  simpa using moved

theorem marked (good : l.Good) (claimed : Nat) (ctxErr : Bool) :
    Good {l with session := {l.session with claimed := claimed, ctxErr := ctxErr}} where
  owned := good.owned
  started := good.started
  held := good.held
  done := good.done
  released := good.released
  fits f mem := (SameCore.mk rfl rfl rfl rfl rfl rfl rfl : SameCore l.session _).fits (good.fits f mem)
  streams := good.streams
  settled := good.settled
  byes := good.byes
  tickets := good.tickets
  counted := good.counted

theorem born (key : LiveKey) (streamID : String) (ssrc duration : Nat) {stage : StartStage}
    (early : stage.early = true) :
    Good ⟨{key := key, streamID := streamID, ssrc := ssrc, playbackDuration := duration},true,
      [.start stage]⟩ where
  owned := rfl
  started := rfl
  held := rfl
  done := rfl
  released := rfl
  fits f mem := by
    cases List.mem_singleton.mp mem
    have plain : stage.answered = false ∧ stage.invited = false := by
      cases stage <;> first | exact ⟨rfl,rfl⟩ | cases early
    exact ⟨rfl,rfl,plain.1.symm,plain.2.symm,fun _ => rfl,fun _ => rfl⟩
  streams := nofun
  settled := nofun
  byes := Nat.zero_le _
  tickets := Nat.zero_le _
  counted := ⟨rfl,rfl⟩

end Life.Good

end MediaServer.Signaling
