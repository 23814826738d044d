import MediaServer.SessionLifecycle

/-! live_dialog.go, gb_playback.go: the INFO and BYE requests of one dialog. Their numbers
follow the INVITE's, one is in flight at a time, and the BYE is the last. A call that saw the
session streaming may still send its INFO after the session has left that state; it is the
only one that can. -/
namespace MediaServer.Signaling

namespace SessionFrame

def flies : SessionFrame → Nat
  | .bye _ .wait | .control .wait => 1
  | _ => 0

def pledges : SessionFrame → Nat
  | .control .send => 1
  | _ => 0

theorem fliesHolds (f : SessionFrame) : f.flies ≤ f.holds := by
  cases f with
  | bye after stage => cases stage <;> first | exact Nat.le_refl _ | exact Nat.zero_le _
  | control stage => cases stage <;> decide
  | _ => exact Nat.zero_le _

theorem pledgesHolds (f : SessionFrame) : f.pledges ≤ f.holds := by
  cases f with
  | control stage => cases stage <;> decide
  | _ => exact Nat.zero_le _

theorem outsidePledges {f : SessionFrame} (outside : f.outside = true) : f.pledges = 0 := by
  cases f with
  | control stage => cases stage <;> first | rfl | cases outside
  | _ => rfl

end SessionFrame

def Session.infos (o : Session) : Nat := (o.sent.filter (·.method == .info)).length

def Session.ByeLast (o : Session) : Prop :=
  ∀ pre n post, o.sent = pre ++ ⟨.bye,n⟩ :: post → post = []

theorem weighLe {v w : SessionFrame → Nat} (below : ∀ f, v f ≤ w f) (fs : List SessionFrame) :
    weigh v fs ≤ weigh w fs := by
  induction fs with
  | nil => exact Nat.le_refl _
  | cons f rest ih =>
    have := below f
    rw [weighCons,weighCons]
    omega

section
variable {o p : Session} {current : Bool} {f : SessionFrame} {e : Effect}

theorem Session.Counted.increasing (counted : o.Counted) {first : Nat} (invite : o.invite = some first)
    (short : first + o.sent.length < 2 ^ 32) : (first :: o.sent.map (·.cseq)).Pairwise (· < ·) := by
  unfold Session.Counted at counted
  rw [invite] at counted
  have consecutive : first :: List.range' (first + 1) o.sent.length =
      List.range' first (o.sent.length + 1) := List.range'_succ.symm
  rw [(counted short).1,consecutive]
  exact List.pairwise_lt_range'

theorem byeLastNext {m : Method} (none : o.byes = 0) (next : o.nextDialogRequest m = some p) :
    p.ByeLast := by
  obtain ⟨first,_,same⟩ := Option.map_eq_some_iff.mp next
  subst same
  intro pre n post split
  rcases List.eq_nil_or_concat post with empty | ⟨body,last,shape⟩
  · exact empty
  ·
    rw [shape,List.concat_eq_append,← List.cons_append,← List.append_assoc] at split
    have before := (List.append_inj' split rfl).1
    have counted : 0 < o.byes := by
      unfold Session.byes
      rw [before]
      exact List.length_pos_of_mem (List.mem_filter.mpr ⟨by simp,rfl⟩ : (⟨.bye,n⟩ : Request) ∈ _)
    omega

theorem Moves.byeLast (move : Moves o current f e) (fits : f.Fits o) (last : o.ByeLast) :
    e.session.ByeLast := by
  cases move with
  | byeSent after next =>
    refine byeLastNext ?_ next
    cases after with
    | clean role => cases role; exacts [fits.2.2.1,fits.2.1]
    | drain => exact fits.2.1
  | controlSent next => exact byeLastNext fits.1 next
  | _ => exact last

theorem nextInfos {m : Method} (next : o.nextDialogRequest m = some p) :
    p.infos = o.infos + (if m = .info then 1 else 0) := by
  obtain ⟨first,_,same⟩ := Option.map_eq_some_iff.mp next
  subst same
  cases m <;> simp [Session.infos]

theorem Moves.infosSent (move : Moves o current f e) :
    o.infos ≤ e.session.infos ∧ (e.session.infos = o.infos ∨ f = .control .send) ∧
    (e.session.infos + weigh SessionFrame.pledges e.next + weigh SessionFrame.pledges e.spawned ≤
        o.infos + f.pledges ∨
      (f = .control .check ∧ current = true ∧ o.state = .streaming ∧ o.ctxErr = false)) := by
  cases move with
  | byeSent after next =>
    have same := nextInfos next
    rw [if_neg (by decide),Nat.add_zero] at same
    exact ⟨Nat.le_of_eq same.symm,.inl same,.inl (by rw [same]; exact Nat.le_refl _)⟩
  | controlSent next =>
    have same := nextInfos next
    rw [if_pos rfl] at same
    exact ⟨by rw [same]; exact Nat.le_succ _,.inr rfl,.inl (by rw [same]; exact Nat.le_refl _)⟩
  | controlChecked here state context =>
    exact ⟨Nat.le_refl _,.inl rfl,.inr ⟨rfl,here,state,context⟩⟩
  | removed role | missing role => cases role <;> exact ⟨Nat.le_refl _,.inl rfl,.inl (Nat.le_refl _)⟩
  | byeEnded after => cases after <;> exact ⟨Nat.le_refl _,.inl rfl,.inl (Nat.le_refl _)⟩
  | finished sendBye => cases sendBye <;> exact ⟨Nat.le_refl _,.inl rfl,.inl (Nat.le_refl _)⟩
  | _ => exact ⟨Nat.le_refl _,.inl rfl,.inl (Nat.le_add_right ..)⟩

end

section
variable {s t : State} {a : Action} {x : Sid} {o p : Session}

theorem stepPledges (rooted : Rooted s.shared s.tasks) (ok : step s a = some t)
    (here : s.shared.heap x = some o) (now : t.shared.heap x = some p) :
    o.infos ≤ p.infos ∧
    (p.infos = o.infos ∨ running s a = some (.session x (.control .send))) ∧
    (p.infos + weigh SessionFrame.pledges (Pool.view (about x) t.tasks) ≤
        o.infos + weigh SessionFrame.pledges (Pool.view (about x) s.tasks) ∨
      (running s a = some (.session x (.control .check)) ∧ Stored s.shared x o ∧
        o.state = .streaming ∧ o.ctxErr = false)) := by
  obtain ⟨none,_⟩ | ⟨o',known,became⟩ := stepBecame rooted ok now
  · exact nomatch none.symm.trans here
  cases Option.some.inj (here.symm.trans known)
  cases became with
  | marked claimed ctxErr new same after outside =>
    subst same
    have free : weigh SessionFrame.pledges new = 0 :=
      weighZero fun f mem => SessionFrame.outsidePledges (outside f mem)
    rw [after,weighAppend,free]
    exact ⟨Nat.le_refl _,.inl rfl,.inl (Nat.le_refl _)⟩
  | moved f e a b run move same after =>
    subst same
    obtain ⟨grows,sent,pledged⟩ := move.infosSent
    refine ⟨grows,?_,?_⟩
    · rcases sent with same | frame
      · exact .inl same
      · rcases run with ⟨run,_⟩ | ⟨other,_⟩
        · rw [frame] at run; exact .inr run
        · rw [frame] at other; cases other
    · rw [after]
      simp only [weighAppend]
      rcases run with ⟨run,before⟩ | ⟨other,before⟩
      · rw [before,weighAppend,weighCons]
        rcases pledged with bound | ⟨frame,current,state,context⟩
        · left; omega
        · rw [frame] at run
          exact .inr ⟨run,⟨here,current⟩,state,context⟩
      · rw [before,weighAppend]
        subst other
        rcases pledged with bound | ⟨frame,_⟩
        · have zero : (SessionFrame.stop false).pledges = 0 := rfl
          left; omega
        · cases frame

theorem byeLastStep (rooted : Rooted s.shared s.tasks) (ok : step s a = some t)
    (last : ∀ x o, s.shared.heap x = some o → o.ByeLast) (now : t.shared.heap x = some p) :
    p.ByeLast := by
  obtain ⟨_,new⟩ | ⟨o,here,became⟩ := stepBecame rooted ok now
  · intro pre n post split
    rw [new] at split
    exact absurd split (by simp)
  · have fits := (rooted.good x o here).fits
    cases became with
    | marked claimed ctxErr new same => subst same; exact last x o here
    | moved f e a b run move same =>
      subst same
      refine move.byeLast ?_ (last x o here)
      rcases run with ⟨_,before⟩ | ⟨other,_⟩
      · exact fits f (by rw [before]; simp)
      · subst other; trivial

theorem reachedByeLast (reached : Reached s) : ∀ x o, s.shared.heap x = some o → o.ByeLast := by
  have both : Rooted s.shared s.tasks ∧ ∀ x o, s.shared.heap x = some o → o.ByeLast :=
    reached.invariant
      (P := fun s => Rooted s.shared s.tasks ∧ ∀ x o, s.shared.heap x = some o → o.ByeLast)
      (fun s boot => ⟨rootedBoot boot,fun x o here => by rw [boot.heap] at here; cases here⟩)
      fun s a t now ok => ⟨rootedStep now.1 ok,fun x p here => byeLastStep now.1 ok now.2 here⟩
  exact both.2

theorem infosAfter (rooted : Rooted s.shared s.tasks) (here : s.shared.heap x = some o)
    (stopping : o.state = .stopping) (leads : Transition.Leads step s t)
    (now : t.shared.heap x = some p) :
    p.infos ≤ o.infos + weigh SessionFrame.pledges (Pool.view (about x) s.tasks) := by
  have kept : Rooted t.shared t.tasks ∧ ∃ q, t.shared.heap x = some q ∧ q.state = .stopping ∧
      q.infos + weigh SessionFrame.pledges (Pool.view (about x) t.tasks) ≤
        o.infos + weigh SessionFrame.pledges (Pool.view (about x) s.tasks) :=
    leads.kept (P := fun t => Rooted t.shared t.tasks ∧ ∃ q, t.shared.heap x = some q ∧
        q.state = .stopping ∧
        q.infos + weigh SessionFrame.pledges (Pool.view (about x) t.tasks) ≤
          o.infos + weigh SessionFrame.pledges (Pool.view (about x) s.tasks))
      ⟨rooted,o,here,stopping,Nat.le_refl _⟩ (by
        intro t a u before ok
        obtain ⟨rooted,q,here,stopping,bound⟩ := before
        obtain ⟨q',now⟩ := heapKept rooted ok here
        obtain ⟨_,_,pledged⟩ := stepPledges rooted ok here now
        refine ⟨rootedStep rooted ok,q',now,(takenOut rooted ok here now).2.2 stopping,?_⟩
        rcases pledged with less | ⟨_,_,streaming,_⟩
        · omega
        · exact nomatch stopping.symm.trans streaming)
  obtain ⟨_,q,found,_,bound⟩ := kept
  cases Option.some.inj (found.symm.trans now)
  omega

end

theorem dialogRequests {s : State} (reached : Reached s) {x : Sid} {o : Session}
    (here : s.shared.heap x = some o) :
    (o.invite = none → o.sent = []) ∧
    (∀ first, o.invite = some first → first + o.sent.length < 2 ^ 32 →
      (first :: o.sent.map (·.cseq)).Pairwise (· < ·)) ∧
    weigh SessionFrame.flies (Pool.view (about x) s.tasks) ≤ 1 ∧
    (∀ pre n post, o.sent = pre ++ ⟨.bye,n⟩ :: post → post = []) ∧
    (o.state = .stopping → ∀ t p, Transition.Leads step s t → t.shared.heap x = some p →
      p.infos ≤ o.infos + 1) ∧
    (∀ a t p, step s a = some t → t.shared.heap x = some p →
      (p.infos ≠ o.infos → running s a = some (.session x (.control .send))) ∧
      (weigh SessionFrame.pledges (Pool.view (about x) s.tasks) <
          weigh SessionFrame.pledges (Pool.view (about x) t.tasks) →
        running s a = some (.session x (.control .check)) ∧ Stored s.shared x o ∧
          o.state = .streaming ∧ o.ctxErr = false ∧ o.dialog = true)) := by
  have rooted := reachedRooted reached
  have good := rooted.good x o here
  have counted : o.Counted := good.counted
  have held : weigh SessionFrame.holds (Pool.view (about x) s.tasks) ≤ 1 := by
    have held := good.held
    simp only at held
    rw [held]
    exact Bool.toNat_le o.dialog
  refine ⟨?_,?_,?_,?_,?_,?_⟩
  · intro none
    unfold Session.Counted at counted
    rw [none] at counted
    exact counted.1
  · intro first invite short
    exact counted.increasing invite short
  · exact Nat.le_trans (weighLe SessionFrame.fliesHolds _) held
  · exact reachedByeLast reached x o here
  · intro stopping t p leads now
    have bound := infosAfter rooted here stopping leads now
    have few := Nat.le_trans (weighLe SessionFrame.pledgesHolds (Pool.view (about x) s.tasks)) held
    omega
  · intro a t p ok now
    obtain ⟨grows,sent,pledged⟩ := stepPledges rooted ok here now
    refine ⟨fun more => sent.resolve_left more,?_⟩
    intro more
    rcases pledged with less | ⟨run,stored,state,context⟩
    · omega
    · refine ⟨run,stored,state,context,?_⟩
      obtain ⟨_,_,_,turn⟩ := stepSection ok
      obtain ⟨before,after,view,_⟩ := turn.view (about x)
      rw [run] at view
      refine good.inside (f := .control .check) ?_ rfl
      simp only [view]
      simp

/- A playback that is paused while the device reports its end: the check of the pause passes,
the session stops, and only then the INFO goes out. -/
def pausedAtTheEnd : List Action :=
  [.call (.live (.startPlayback "d" "c" {} 60 0 "u")),.run 0 (.port 6000),.run 0 (.token "v"),
    .call (.token (.consumeStreamToken "v" .play "u" true)),.run 0 .claimed,.run 0 .ok,.run 0 .ok,
    .run 0 .ok,.run 0 (.cseq 1),.run 0 .ok,.run 0 .accepted,.run 0 .ok,.run 0 .ok,.run 0 .ok,.run 0 .ok,
    .run 0 .ok,.call (.live (.controlPlayback "u" .pause)),.run 2 .ok,.run 2 .ok,
    .call (.live (.playbackEnd 0 "c" true)),.run 3 .ok]

theorem infoAfterStreaming : ∃ s a t o p, Reached s ∧ step s a = some t ∧
    s.shared.heap 0 = some o ∧ o.streamed = true ∧ o.state = .stopping ∧ o.invite = some 1 ∧
    t.shared.heap 0 = some p ∧ p.sent = o.sent ++ [⟨.info,2⟩] := by
  have ends : (Transition.run step firstStart pausedAtTheEnd).any (fun s =>
      (step s (.run 2 .ok)).any fun t => (s.shared.heap 0).any fun o => (t.shared.heap 0).any fun p =>
        decide (o.streamed = true ∧ o.state = .stopping ∧ o.invite = some 1 ∧
          p.sent = o.sent ++ [⟨.info,2⟩])) = true := by decide
  obtain ⟨s,reached,ends⟩ := reachedBy ends
  obtain ⟨t,ok,ends⟩ := (Option.any_eq_true ..).mp ends
  obtain ⟨o,here,ends⟩ := (Option.any_eq_true ..).mp ends
  obtain ⟨p,now,ends⟩ := (Option.any_eq_true ..).mp ends
  obtain ⟨streamed,stopping,invite,sent⟩ := of_decide_eq_true ends
  exact ⟨s,_,t,o,p,reached,ok,here,streamed,stopping,invite,now,sent⟩

theorem byeAfterLateInfo : ∃ s o, Reached s ∧ s.shared.heap 0 = some o ∧
    o.sent = [⟨.info,2⟩,⟨.bye,3⟩] ∧ (1 :: o.sent.map (·.cseq)).Pairwise (· < ·) := by
  have ends : (Transition.run step firstStart (pausedAtTheEnd ++
      [.run 2 .ok,.run 2 .ok,.run 2 .ok,.run 4 .ok,.run 4 .ok])).any (fun s =>
      (s.shared.heap 0).any fun o => decide (o.invite = some 1 ∧ o.sent = [⟨.info,2⟩,⟨.bye,3⟩])) =
      true := by decide
  obtain ⟨s,reached,ends⟩ := reachedBy ends
  obtain ⟨o,here,ends⟩ := (Option.any_eq_true ..).mp ends
  obtain ⟨invite,sent⟩ := of_decide_eq_true ends
  exact ⟨s,o,reached,here,sent,(dialogRequests reached here).2.1 1 invite (by rw [sent]; decide)⟩

end MediaServer.Signaling
