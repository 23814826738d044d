import MediaServer.TalkMove

/-! gb_broadcast.go: the setup of a talk. prepareBroadcast returns a peer once the device has
agreed, its INVITE has been accepted and answered, and the answer has been acknowledged. -/
namespace MediaServer.Signaling

def preparing : Frame → Option (Bid × Waiting)
  | .talk b (.prepare w) => some (b,w)
  | _ => none

def answering (d : Did) : Frame → Option Unit
  | .talk _ (.answer e) => if e = d then some () else none
  | _ => none

theorem plainBlind {f : Frame} (plain : f.plain = true) : preparing f = none ∧ ∀ d, answering d f = none := by
  cases f with
  | talk b f =>
    cases f with
    | prepare => cases plain
    | answer => cases plain
    | _ => exact ⟨rfl,fun _ => rfl⟩
  | _ => exact ⟨rfl,fun _ => rfl⟩

structure Waits (s : Server) (b : Bid) (w : Waiting) (talk : Talk) : Prop where
  here : s.talks b = some talk
  business : w.business = false → 0 < talk.agreed
  invited : w.dialog = none → w.invited = true
  dialog : ∀ d, w.dialog = some d → talk.dialog = some d ∧ ∃ x, s.dialogs d = some x ∧
    (w.acked = false → 0 < x.acks) ∧ (w.answered = false → 0 < x.answerDone ∧ x.answerErr = false)

structure Prepared (s : Server) (b : Bid) (peer : Peer) (talk : Talk) (d : Did) (x : Dialog) : Prop where
  here : s.talks b = some talk
  agreed : 0 < talk.agreed
  dialog : talk.dialog = some d
  accepted : talk.accepted = [d]
  there : s.dialogs d = some x
  owner : x.talk = b
  target : x.target = talk.sourceID
  peer : x.peer = peer
  acked : 0 < x.acks
  answered : 0 < x.answerDone
  success : x.answerErr = false

structure Talk.Good (s : Server) (b : Bid) (talk : Talk) : Prop where
  business : true ∈ talk.business → 0 < talk.agreed
  silent : talk.dialog = none → talk.invited = [] ∧ talk.accepted = []
  heard : ∀ d, talk.dialog = some d → talk.accepted = [d] ∧ (∀ e ∈ talk.invited, e = d) ∧
    ∃ x, s.dialogs d = some x ∧ x.talk = b ∧ x.target = talk.sourceID

structure TalkGood (s : Server) (tasks : List (List Frame)) : Prop where
  stored : ∀ deviceID b, s.broadcasts.get deviceID = some b → ∃ talk, s.talks b = some talk ∧
    talk.deviceID = deviceID ∧ talk.done = 0
  talks : ∀ b talk, s.talks b = some talk → talk.Good s b
  acked : ∀ d x, s.dialogs d = some x → x.acked = true → 0 < x.acks
  answers : ∀ d x, s.dialogs d = some x → (Pool.view (answering d) tasks).length + x.answerDone = 1
  unborn : ∀ d, s.dialogs d = none → Pool.view (answering d) tasks = []
  waits : ∀ b w, (b,w) ∈ Pool.view preparing tasks → ∃ talk, Waits s b w talk
  peers : ∀ b peer, .peered b peer ∈ s.log → ∃ talk d x, Prepared s b peer talk d x

structure Grows (s t : Server) : Prop where
  talks : ∀ b x, s.talks b = some x → ∃ y, t.talks b = some y ∧ y.sourceID = x.sourceID ∧
    x.agreed ≤ y.agreed ∧ ∀ d, x.dialog = some d → y.dialog = some d ∧ y.accepted = x.accepted
  dialogs : ∀ d x, s.dialogs d = some x → ∃ y, t.dialogs d = some y ∧ y.talk = x.talk ∧
    y.target = x.target ∧ y.peer = x.peer ∧ x.acks ≤ y.acks ∧
    (0 < x.answerDone → 0 < y.answerDone ∧ y.answerErr = x.answerErr)

section
variable {s t : Server} {tasks tasks' : List (List Frame)}

theorem KeptTalks.grows (kept : KeptTalks s t) : Grows s t where
  talks b x here := by
    obtain ⟨y,there,same⟩ := kept.talks b x here
    exact ⟨y,there,same.sourceID,same.agreed,fun d known => ⟨same.dialog.trans known,same.accepted⟩⟩
  dialogs d x here := by
    obtain ⟨y,there,same⟩ := kept.dialogs d x here
    refine ⟨y,there,same.talk,same.target,same.peer,same.acks,fun some => ?_⟩
    exact ⟨by rw [same.answerDone]; exact some,same.answerErr⟩

variable {b : Bid} {w : Waiting} {talk : Talk} {d : Did} {x : Dialog}

theorem Grows.waits (grows : Grows s t) (waits : Waits s b w talk) : ∃ talk, Waits t b w talk := by
  obtain ⟨u,there,_,agreed,dialog⟩ := grows.talks b talk waits.here
  refine ⟨u,there,fun off => Nat.lt_of_lt_of_le (waits.business off) agreed,waits.invited,?_⟩
  intro d known
  obtain ⟨own,x,here,acked,answered⟩ := waits.dialog d known
  obtain ⟨y,now,_,_,_,acks,answer⟩ := grows.dialogs d x here
  refine ⟨(dialog d own).1,y,now,fun off => Nat.lt_of_lt_of_le (acked off) acks,fun off => ?_⟩
  obtain ⟨some,failed⟩ := answered off
  exact ⟨(answer some).1,(answer some).2.trans failed⟩

variable {peer : Peer} {y : Talk} {frame : Option Frame} {out : Outcome} {r : Reply}
  {turned : TalkOutcome}

theorem Grows.prepared (grows : Grows s t) (done : Prepared s b peer talk d x) :
    ∃ talk d x, Prepared t b peer talk d x := by
  obtain ⟨u,there,source,agreed,dialog⟩ := grows.talks b talk done.here
  obtain ⟨y,now,own,target,same,acks,answer⟩ := grows.dialogs d x done.there
  obtain ⟨answered,failed⟩ := answer done.answered
  obtain ⟨kept,accepted⟩ := dialog d done.dialog
  exact ⟨u,d,y,{
    here := there
    agreed := Nat.lt_of_lt_of_le done.agreed agreed
    dialog := kept
    accepted := accepted.trans done.accepted
    there := now
    owner := own.trans done.owner
    target := target.trans (done.target.trans source.symm)
    peer := same.trans done.peer
    acked := Nat.lt_of_lt_of_le done.acked acks
    answered := answered
    success := failed.trans done.success }⟩

theorem Talk.Good.kept {x : Talk} (good : x.Good s b) (grows : Grows s t) (same : x.Kept y) :
    y.Good t b where
  business mem := by
    rcases same.business mem with old | some
    · exact Nat.lt_of_lt_of_le (good.business old) same.agreed
    · exact some
  silent none := by
    rw [same.dialog] at none
    obtain ⟨empty,accepted⟩ := good.silent none
    refine ⟨List.eq_nil_iff_forall_not_mem.mpr fun d mem => ?_,same.accepted.trans accepted⟩
    have old := same.invited mem
    rw [empty] at old
    cases old
  heard d known := by
    rw [same.dialog] at known
    obtain ⟨accepted,invited,z,here,own,target⟩ := good.heard d known
    obtain ⟨z',there,own',target',_⟩ := grows.dialogs d z here
    refine ⟨same.accepted.trans accepted,fun e mem => invited e (same.invited mem),z',there,
      own'.trans own,?_⟩
    rw [target',same.sourceID]
    exact target

theorem TalkGood.grow (good : TalkGood s tasks) (grows : Grows s t)
    (stored : ∀ deviceID b, t.broadcasts.get deviceID = some b → ∃ talk, t.talks b = some talk ∧
      talk.deviceID = deviceID ∧ talk.done = 0)
    (talks : ∀ b talk, t.talks b = some talk → talk.Good t b)
    (acked : ∀ d x, t.dialogs d = some x → x.acked = true → 0 < x.acks)
    (answers : ∀ d x, t.dialogs d = some x → (Pool.view (answering d) tasks').length + x.answerDone = 1)
    (unborn : ∀ d, t.dialogs d = none → Pool.view (answering d) tasks' = [])
    (waits : ∀ b w, (b,w) ∈ Pool.view preparing tasks' → (b,w) ∈ Pool.view preparing tasks ∨
      ∃ talk, Waits t b w talk)
    (peers : ∀ b peer, .peered b peer ∈ t.log → .peered b peer ∈ s.log ∨
      ∃ talk d x, Prepared t b peer talk d x) : TalkGood t tasks' where
  stored := stored
  talks := talks
  acked := acked
  answers := answers
  unborn := unborn
  waits b w mem := by
    rcases waits b w mem with old | new
    · obtain ⟨talk,known⟩ := good.waits b w old
      exact grows.waits known
    · exact new
  peers b peer mem := by
    rcases peers b peer mem with old | new
    · obtain ⟨talk,d,x,done⟩ := good.peers b peer old
      exact grows.prepared done
    · exact new

theorem TalkGood.keep (good : TalkGood s tasks) (kept : KeptTalks s t)
    (answers : ∀ d, Pool.view (answering d) tasks' = Pool.view (answering d) tasks)
    (waits : ∀ b w, (b,w) ∈ Pool.view preparing tasks' → (b,w) ∈ Pool.view preparing tasks ∨
      ∃ talk, Waits t b w talk) : TalkGood t tasks' := by
  refine good.grow kept.grows ?_ ?_ ?_ ?_ ?_ waits fun b peer mem => .inl (kept.peers b peer mem)
  · intro deviceID b held
    rw [kept.broadcasts] at held
    obtain ⟨x,here,own,running⟩ := good.stored deviceID b held
    obtain ⟨y,there,same⟩ := kept.talks b x here
    exact ⟨y,there,same.deviceID.trans own,same.done.trans running⟩
  · intro b y there
    cases here : s.talks b with
    | none => exact nomatch there.symm.trans (kept.noTalk b here)
    | some x =>
      obtain ⟨z,now,same⟩ := kept.talks b x here
      cases Option.some.inj (now.symm.trans there)
      exact (good.talks b x here).kept kept.grows same
  · intro d y there on
    cases here : s.dialogs d with
    | none => exact nomatch there.symm.trans (kept.noDialog d here)
    | some x =>
      obtain ⟨z,now,same⟩ := kept.dialogs d x here
      cases Option.some.inj (now.symm.trans there)
      rcases same.acked on with old | some
      · exact Nat.lt_of_lt_of_le (good.acked d x here old) same.acks
      · exact some
  · intro d y there
    cases here : s.dialogs d with
    | none => exact nomatch there.symm.trans (kept.noDialog d here)
    | some x =>
      obtain ⟨z,now,same⟩ := kept.dialogs d x here
      cases Option.some.inj (now.symm.trans there)
      rw [answers d,same.answerDone]
      exact good.answers d x here
  · intro d none
    rw [answers d]
    cases here : s.dialogs d with
    | none => exact good.unborn d here
    | some x =>
      obtain ⟨z,now,_⟩ := kept.dialogs d x here
      exact nomatch now.symm.trans none

theorem plainViews (turn : Pool.Turn frame out tasks tasks')
    (old : ∀ f, frame = some f → f.plain = true) (next : ∀ f ∈ out.next, f.plain = true)
    (spawned : ∀ task ∈ out.spawned, ∀ f ∈ task, f.plain = true) {κ : Type} {p : Frame → Option κ}
    (blind : ∀ f, f.plain = true → p f = none) : Pool.view p tasks' = Pool.view p tasks := by
  have quiet : frame.bind p = none := by
    cases known : frame with
    | none => rfl
    | some f => exact blind f (old f known)
  rw [turn.viewMore quiet (List.filterMap_eq_nil_iff.mpr fun f mem => blind f (next f mem)),
    Pool.viewEmpty fun task mem f inside => blind f (spawned task mem f inside),List.append_nil]

theorem hearsSpec (good : TalkGood s tasks) (waits : Waits s b w talk)
    (ran : talkExec s b talk r (.prepare w) = some turned) :
    (∃ d x, w.complete = true ∧ w.dialog = some d ∧ s.dialogs d = some x ∧
      turned = ⟨s.record (.peered b x.peer),[.token x.peer]⟩) ∨
    (KeptTalks s turned.server ∧ ∀ g ∈ turned.next, (Frame.talk b g).plain = true ∨
      ∃ w' talk', g = .prepare w' ∧ Waits turned.server b w' talk') := by
  have here := waits.here
  have own := good.talks b talk here
  simp only [talkExec] at ran
  split at ran
  · rename_i complete
    obtain ⟨x,found,same⟩ := Option.map_eq_some_iff.mp ran
    obtain ⟨d,known,there⟩ := Option.bind_eq_some_iff.mp found
    exact .inl ⟨d,x,complete,known,there,same.symm⟩
  · right
    unfold prepareStep at ran
    split at ran
    · split at ran <;> try contradiction
      rename_i agrees rest on channel
      cases Option.some.inj ran
      have kept : KeptTalks s (s.putTalk b {talk with business := rest}) := by
        refine .putTalk here ⟨rfl,rfl,rfl,rfl,rfl,Nat.le_refl _,List.Subset.refl _,fun mem => .inl ?_⟩
        rw [channel]
        exact List.mem_cons_of_mem _ mem
      refine ⟨kept,?_⟩
      cases agrees with
      | false => simp [Frame.plain]
      | true =>
        simp only [if_true,List.mem_singleton,forall_eq]
        have agreed := own.business (by rw [channel]; exact List.mem_cons_self ..)
        exact .inr ⟨_,_,rfl,Function.update_self ..,fun _ => agreed,waits.invited,waits.dialog⟩
    · split at ran <;> try contradiction
      rename_i d rest on channel
      cases Option.some.inj ran
      have kept : KeptTalks s (s.putTalk b {talk with invited := rest}) := by
        refine .putTalk here ⟨rfl,rfl,rfl,rfl,rfl,Nat.le_refl _,?_,.inl⟩
        rw [channel]
        exact List.subset_cons_self ..
      refine ⟨kept,?_⟩
      simp only [List.mem_singleton,forall_eq]
      have dialog : talk.dialog = some d := by
        cases known : talk.dialog with
        | none =>
          have empty := (own.silent known).1
          rw [channel] at empty
          cases empty
        | some e =>
          have same := (own.heard e known).2.1 d (by rw [channel]; exact List.mem_cons_self ..)
          rw [same]
      obtain ⟨_,_,x,there,_⟩ := own.heard d dialog
      refine .inr ⟨_,_,rfl,Function.update_self ..,waits.business,by simp,?_⟩
      intro e known
      cases Option.some.inj known
      exact ⟨dialog,x,there,by simp,by simp⟩
    · obtain ⟨⟨d,x⟩,found,rest⟩ := Option.bind_eq_some_iff.mp ran
      obtain ⟨e,known,there⟩ := Option.bind_eq_some_iff.mp found
      obtain ⟨y,there,same⟩ := Option.map_eq_some_iff.mp there
      cases same
      simp only at rest
      split at rest <;> try contradiction
      rename_i ready
      simp only [Bool.and_eq_true] at ready
      cases Option.some.inj rest
      have kept : KeptTalks s (s.putDialog d {x with acked := false}) :=
        .putDialog there ⟨rfl,rfl,rfl,rfl,rfl,Nat.le_refl _,by simp⟩
      refine ⟨kept,?_⟩
      simp only [List.mem_singleton,forall_eq]
      obtain ⟨dialog,z,here',_,answered⟩ := waits.dialog d known
      cases Option.some.inj (there.symm.trans here')
      refine .inr ⟨_,talk,rfl,here,waits.business,waits.invited,?_⟩
      intro e own'
      cases Option.some.inj (known.symm.trans own')
      exact ⟨dialog,_,Function.update_self ..,fun _ => good.acked d x there ready.2,answered⟩
    · obtain ⟨x,found,rest⟩ := Option.bind_eq_some_iff.mp ran
      obtain ⟨d,known,there⟩ := Option.bind_eq_some_iff.mp found
      split at rest <;> try contradiction
      rename_i ready
      simp only [Bool.and_eq_true,decide_eq_true_eq] at ready
      cases Option.some.inj rest
      refine ⟨.refl s,?_⟩
      cases failed : x.answerErr with
      | true => simp [Frame.plain]
      | false =>
        simp only [Bool.false_eq_true,if_false,List.mem_singleton,forall_eq]
        obtain ⟨dialog,z,here',acked,_⟩ := waits.dialog d known
        cases Option.some.inj (there.symm.trans here')
        refine .inr ⟨_,talk,rfl,here,waits.business,waits.invited,?_⟩
        intro e own'
        cases Option.some.inj (known.symm.trans own')
        exact ⟨dialog,x,there,acked,fun _ => ⟨ready.2,failed⟩⟩
    · cases Option.some.inj ran
      exact ⟨.refl s,by simp [Frame.plain]⟩
    · split at ran <;> try contradiction
      cases Option.some.inj ran
      exact ⟨.refl s,by simp [Frame.plain]⟩
    · contradiction

theorem updatedTalk {c : Bid} {x : Talk} (now : Function.update s.talks b (some x) c = some y) :
    (c = b ∧ y = x) ∨ (c ≠ b ∧ s.talks c = some y) := by
  by_cases self : c = b
  · rw [self,Function.update_self] at now
    exact .inl ⟨self,(Option.some.inj now).symm⟩
  · rw [Function.update_of_ne self] at now
    exact .inr ⟨self,now⟩

theorem updatedDialog {e : Did} {y : Dialog} (now : Function.update s.dialogs d (some x) e = some y) :
    (e = d ∧ y = x) ∨ (e ≠ d ∧ s.dialogs e = some y) := by
  by_cases self : e = d
  · rw [self,Function.update_self] at now
    exact .inl ⟨self,(Option.some.inj now).symm⟩
  · rw [Function.update_of_ne self] at now
    exact .inr ⟨self,now⟩

theorem TalkGood.started (good : TalkGood s tasks) {deviceID sourceID mediaID : String} {sn : Nat}
    (fresh : s.talks b = none) (broadcasts : t.broadcasts = s.broadcasts.set deviceID b)
    (talks : t.talks = Function.update s.talks b
      (some {deviceID := deviceID, sourceID := sourceID, mediaID := mediaID, sn := sn}))
    (dialogs : t.dialogs = s.dialogs) (log : t.log = s.log ++ [.admitted .broadcast deviceID])
    (answers : ∀ d, Pool.view (answering d) tasks' = Pool.view (answering d) tasks)
    (waits : Pool.view preparing tasks' = Pool.view preparing tasks) : TalkGood t tasks' := by
  have grows : Grows s t := by
    constructor
    · intro c x here
      have other : c ≠ b := fun self => by subst self; exact nomatch here.symm.trans fresh
      refine ⟨x,?_,rfl,Nat.le_refl _,fun d known => ⟨known,rfl⟩⟩
      rw [talks,Function.update_of_ne other]
      exact here
    · intro d x here
      exact ⟨x,by rw [dialogs]; exact here,rfl,rfl,rfl,Nat.le_refl _,fun some => ⟨some,rfl⟩⟩
  refine good.grow grows ?_ ?_ (by rw [dialogs]; exact good.acked) ?_ ?_ ?_ ?_
  · intro other c held
    rw [broadcasts,Table.getSet] at held
    rw [talks]
    split at held
    · rename_i self
      cases Option.some.inj held
      exact ⟨_,Function.update_self ..,self.symm,rfl⟩
    · obtain ⟨x,here,own,running⟩ := good.stored other c held
      have different : c ≠ b := fun self => by subst self; exact nomatch here.symm.trans fresh
      exact ⟨x,(Function.update_of_ne different ..).trans here,own,running⟩
  · intro c x here
    rw [talks] at here
    rcases updatedTalk here with ⟨_,same⟩ | ⟨_,before⟩
    · subst same
      exact ⟨nofun,fun _ => ⟨rfl,rfl⟩,nofun⟩
    · exact (good.talks c x before).kept grows (.refl x)
  · intro d x here
    rw [dialogs] at here
    rw [answers]
    exact good.answers d x here
  · intro d none
    rw [dialogs] at none
    rw [answers]
    exact good.unborn d none
  · intro c w mem
    rw [waits] at mem
    exact .inl mem
  · intro c peer mem
    rw [log] at mem
    exact .inl (by simpa using mem)

theorem TalkGood.invited (good : TalkGood s tasks) (here : s.talks b = some talk)
    (silent : talk.dialog = none) (fresh : s.dialogs d = none)
    (answers : ∀ e, Pool.view (answering e) tasks' =
      Pool.view (answering e) tasks ++ if d = e then [()] else [])
    (waits : Pool.view preparing tasks' = Pool.view preparing tasks) :
    TalkGood ((s.putDialog d {talk := b, target := talk.sourceID, peer := peer}).putTalk b
      {talk with dialog := some d, invited := [d], accepted := talk.accepted ++ [d]}) tasks' := by
  have own := good.talks b talk here
  have accepted := (own.silent silent).2
  have other (e : Did) (x : Dialog) (known : s.dialogs e = some x) : e ≠ d := fun self => by
    subst self; exact nomatch known.symm.trans fresh
  have grows : Grows s ((s.putDialog d {talk := b, target := talk.sourceID, peer := peer}).putTalk b
      {talk with dialog := some d, invited := [d], accepted := talk.accepted ++ [d]}) := by
    constructor
    · intro c x known
      by_cases self : c = b
      · subst self
        cases Option.some.inj (here.symm.trans known)
        exact ⟨_,Function.update_self ..,rfl,Nat.le_refl _,fun e old => nomatch silent.symm.trans old⟩
      · exact ⟨x,(Function.update_of_ne self ..).trans known,rfl,Nat.le_refl _,fun e old => ⟨old,rfl⟩⟩
    · intro e x known
      exact ⟨x,(Function.update_of_ne (other e x known) ..).trans known,rfl,rfl,rfl,Nat.le_refl _,
        fun some => ⟨some,rfl⟩⟩
  refine good.grow grows ?_ ?_ ?_ ?_ ?_ ?_ fun _ _ mem => .inl mem
  · intro deviceID c held
    obtain ⟨x,known,device,running⟩ := good.stored deviceID c held
    by_cases self : c = b
    · subst self
      cases Option.some.inj (here.symm.trans known)
      exact ⟨_,Function.update_self ..,device,running⟩
    · exact ⟨x,(Function.update_of_ne self ..).trans known,device,running⟩
  · intro c x known
    rcases updatedTalk (s := s) known with ⟨self,same⟩ | ⟨_,before⟩
    · subst same
      refine ⟨own.business,nofun,fun e same => ?_⟩
      cases Option.some.inj same
      refine ⟨by rw [accepted]; rfl,by simp,_,Function.update_self ..,self.symm,rfl⟩
    · exact (good.talks c x before).kept grows (.refl x)
  · intro e x known on
    rcases updatedDialog known with ⟨_,same⟩ | ⟨_,before⟩
    · subst same; cases on
    · exact good.acked e x before on
  · intro e x known
    rw [answers e]
    rcases updatedDialog known with ⟨self,same⟩ | ⟨different,before⟩
    · subst same
      rw [self,good.unborn d fresh,if_pos rfl]
      rfl
    · rw [if_neg (Ne.symm different),List.append_nil]
      exact good.answers e x before
  · intro e none
    have different : e ≠ d := fun self => by
      subst self
      exact nomatch (Function.update_self ..).symm.trans none
    rw [answers e,if_neg (Ne.symm different),List.append_nil]
    exact good.unborn e ((Function.update_of_ne different ..).symm.trans none)
  · intro c w mem
    rw [waits] at mem
    exact .inl mem

theorem TalkGood.answered (good : TalkGood s tasks) {failed : Bool} (here : s.dialogs d = some x)
    (answers : ∀ e, (Pool.view (answering e) tasks').length + (if d = e then 1 else 0) =
      (Pool.view (answering e) tasks).length)
    (waits : Pool.view preparing tasks' = Pool.view preparing tasks) :
    TalkGood (s.putDialog d {x with answerErr := failed, answerDone := x.answerDone + 1}) tasks' := by
  have once := good.answers d x here
  have gone := answers d
  rw [if_pos rfl] at gone
  have grows : Grows s (s.putDialog d {x with answerErr := failed, answerDone := x.answerDone + 1}) := by
    constructor
    · intro c y known
      exact ⟨y,known,rfl,Nat.le_refl _,fun e old => ⟨old,rfl⟩⟩
    · intro e y known
      by_cases self : e = d
      · subst self
        cases Option.some.inj (here.symm.trans known)
        refine ⟨_,Function.update_self ..,rfl,rfl,rfl,Nat.le_refl _,fun some => ?_⟩
        omega
      · exact ⟨y,(Function.update_of_ne self ..).trans known,rfl,rfl,rfl,Nat.le_refl _,
          fun some => ⟨some,rfl⟩⟩
  refine good.grow grows good.stored ?_ ?_ ?_ ?_ ?_ fun _ _ mem => .inl mem
  · intro c y known
    exact (good.talks c y known).kept grows (.refl y)
  · intro e y known on
    rcases updatedDialog known with ⟨_,same⟩ | ⟨_,before⟩
    · subst same; exact good.acked d x here on
    · exact good.acked e y before on
  · intro e y known
    have left := answers e
    rcases updatedDialog known with ⟨self,same⟩ | ⟨different,before⟩
    · subst same
      subst self
      simp only
      omega
    · have old := good.answers e y before
      rw [if_neg (Ne.symm different)] at left
      omega
  · intro e none
    have different : e ≠ d := fun self => by
      subst self
      exact nomatch (Function.update_self ..).symm.trans none
    have old := good.unborn e ((Function.update_of_ne different ..).symm.trans none)
    have left := answers e
    rw [old,if_neg (Ne.symm different)] at left
    exact List.length_eq_zero_iff.mp left
  · intro c w mem
    rw [waits] at mem
    exact .inl mem

theorem TalkGood.ended (good : TalkGood s tasks) (here : s.talks b = some talk)
    (broadcasts : t.broadcasts = if s.broadcasts.get talk.deviceID = some b
      then s.broadcasts.delete talk.deviceID else s.broadcasts)
    (talks : t.talks = Function.update s.talks b (some {talk with done := talk.done + 1}))
    (dialogs : t.dialogs = s.dialogs) (log : t.log = s.log)
    (answers : ∀ d, Pool.view (answering d) tasks' = Pool.view (answering d) tasks)
    (waits : Pool.view preparing tasks' = Pool.view preparing tasks) : TalkGood t tasks' := by
  have grows : Grows s t := by
    constructor
    · intro c x known
      rw [talks]
      by_cases self : c = b
      · subst self
        cases Option.some.inj (here.symm.trans known)
        exact ⟨_,Function.update_self ..,rfl,Nat.le_refl _,fun e old => ⟨old,rfl⟩⟩
      · exact ⟨x,(Function.update_of_ne self ..).trans known,rfl,Nat.le_refl _,fun e old => ⟨old,rfl⟩⟩
    · intro d x known
      exact ⟨x,by rw [dialogs]; exact known,rfl,rfl,rfl,Nat.le_refl _,fun some => ⟨some,rfl⟩⟩
  refine good.grow grows ?_ ?_ (by rw [dialogs]; exact good.acked) ?_ ?_ ?_ ?_
  · intro deviceID c held
    have before : s.broadcasts.get deviceID = some c ∧
        ¬(s.broadcasts.get talk.deviceID = some b ∧ deviceID = talk.deviceID) := by
      rw [broadcasts] at held
      split at held
      · rw [Table.getDelete] at held
        split at held <;> try contradiction
        rename_i other
        exact ⟨held,fun both => other both.2⟩
      · rename_i foreign
        exact ⟨held,fun both => foreign both.1⟩
    obtain ⟨x,known,device,running⟩ := good.stored deviceID c before.1
    have different : c ≠ b := fun self => by
      subst self
      cases Option.some.inj (here.symm.trans known)
      exact before.2 ⟨by rw [device]; exact before.1,device.symm⟩
    rw [talks]
    exact ⟨x,(Function.update_of_ne different ..).trans known,device,running⟩
  · intro c x known
    rw [talks] at known
    rcases updatedTalk known with ⟨self,same⟩ | ⟨_,before⟩
    · subst same
      subst self
      have own := (good.talks c talk here).kept grows (.refl talk)
      exact ⟨own.business,own.silent,own.heard⟩
    · exact (good.talks c x before).kept grows (.refl x)
  · intro d x known
    rw [dialogs] at known
    rw [answers]
    exact good.answers d x known
  · intro d none
    rw [dialogs] at none
    rw [answers]
    exact good.unborn d none
  · intro c w mem
    rw [waits] at mem
    exact .inl mem
  · intro c peer mem
    rw [log] at mem
    exact .inl mem

theorem preparedNow (good : TalkGood s tasks) (waits : Waits s b w talk)
    (complete : w.complete = true) (known : w.dialog = some d) (there : s.dialogs d = some x) :
    Prepared s b x.peer talk d x := by
  simp only [Waiting.complete,Bool.not_eq_true',Bool.or_eq_false_iff] at complete
  obtain ⟨own,y,same,acked,answered⟩ := waits.dialog d known
  cases Option.some.inj (there.symm.trans same)
  obtain ⟨accepted,_,z,same',owner,target⟩ := (good.talks b talk waits.here).heard d own
  cases Option.some.inj (there.symm.trans same')
  exact {
    here := waits.here
    agreed := waits.business complete.1.1.1
    dialog := own
    accepted := accepted
    there := there
    owner := owner
    target := target
    peer := rfl
    acked := acked complete.1.2
    answered := (answered complete.2).1
    success := (answered complete.2).2 }

theorem TalkGood.heard (good : TalkGood s tasks) (here : s.talks b = some talk)
    (ran : talkExec s b talk r (.prepare w) = some turned)
    (turn : Pool.Turn (some (.talk b (.prepare w))) ⟨turned.server,turned.next.map (.talk b),[]⟩ tasks tasks') :
    TalkGood turned.server tasks' := by
  have mem : (b,w) ∈ Pool.view preparing tasks := by
    obtain ⟨left,right,before,_⟩ := turn.view preparing
    rw [before]
    simp [preparing]
  obtain ⟨talk',waits⟩ := good.waits b w mem
  cases Option.some.inj (here.symm.trans waits.here)
  have quiet (e : Did) (next : ∀ g ∈ turned.next, answering e (.talk b g) = none) :
      Pool.view (answering e) tasks' = Pool.view (answering e) tasks := by
    have views := turn.viewMore (p := answering e) rfl (by
      rw [List.filterMap_map,List.filterMap_eq_nil_iff]
      exact next)
    rw [views]
    exact List.append_nil _
  rcases hearsSpec good waits ran with ⟨d,x,complete,known,there,same⟩ | ⟨kept,next⟩
  · subst same
    have answers (e : Did) := quiet e (by simp [answering])
    refine good.grow ⟨fun c y now => ⟨y,now,rfl,Nat.le_refl _,fun e old => ⟨old,rfl⟩⟩,
      fun e y now => ⟨y,now,rfl,rfl,rfl,Nat.le_refl _,fun some => ⟨some,rfl⟩⟩⟩ good.stored ?_ good.acked
      ?_ ?_ ?_ ?_
    · intro c y now
      have old := good.talks c y now
      exact ⟨old.business,old.silent,old.heard⟩
    · intro e y now
      rw [answers e]
      exact good.answers e y now
    · intro e none
      rw [answers e]
      exact good.unborn e none
    · intro c v inside
      rcases turn.viewMem inside with old | new | new
      · exact .inl old
      · simp [preparing] at new
      · cases new
    · intro c peer inside
      rcases List.mem_append.mp inside with old | new
      · exact .inl old
      · cases List.mem_singleton.mp new
        have done := preparedNow good waits complete known there
        exact .inr ⟨talk,d,x,{done with}⟩
  · have plain (g : TalkFrame) (inside : g ∈ turned.next) (e : Did) : answering e (.talk b g) = none := by
      rcases next g inside with plain | ⟨v,u,same,_⟩
      · exact (plainBlind plain).2 e
      · subst same; rfl
    refine good.keep kept (fun e => quiet e fun g inside => plain g inside e) ?_
    intro c v inside
    rcases turn.viewMem inside with old | new | new
    · exact .inl old
    · simp only [List.filterMap_map,List.mem_filterMap,Function.comp] at new
      obtain ⟨g,later,same⟩ := new
      rcases next g later with plain | ⟨v',u,shape,known⟩
      · exact nomatch (plainBlind plain).1.symm.trans same
      · subst shape
        cases Option.some.inj same
        exact .inr ⟨u,known⟩
    · cases new

theorem TalkGood.next (good : TalkGood s tasks) (change : TalkChange s frame out)
    (turn : Pool.Turn frame out tasks tasks') : TalkGood out.shared tasks' := by
  have same (κ : Type) (p : Frame → Option κ) (blind : ∀ f, f.plain = true → p f = none)
      (old : ∀ f, frame = some f → f.plain = true) (next : ∀ f ∈ out.next, f.plain = true)
      (spawned : ∀ task ∈ out.spawned, ∀ f ∈ task, f.plain = true) :
      Pool.view p tasks' = Pool.view p tasks := plainViews turn old next spawned blind
  have blindAnswers (d : Did) (f : Frame) (plain : f.plain = true) := (plainBlind plain).2 d
  have blindWaits (f : Frame) (plain : f.plain = true) := (plainBlind plain).1
  cases change with
  | kept kept old next spawned =>
    refine good.keep kept (fun d => same _ _ (blindAnswers d) old next spawned) fun c w mem => ?_
    rw [same _ _ blindWaits old next spawned] at mem
    exact .inl mem
  | starts b deviceID sourceID mediaID sn free idle fresh =>
    have plain : ∀ task ∈ [[Frame.talk b .create],[Frame.talk b .caller]], ∀ f ∈ task, f.plain = true := by
      simp [Frame.plain]
    exact good.started fresh rfl rfl rfl rfl (fun d => same _ _ (blindAnswers d) (by simp) (by simp) plain)
      (same _ _ blindWaits (by simp) (by simp) plain)
  | notified b talk here =>
    refine good.keep (.refl s) (fun d => ?_) fun c w mem => ?_
    · rw [turn.viewMore (p := answering d) rfl rfl]
      exact List.append_nil _
    · rcases turn.viewMem mem with old | new | new
      · exact .inl old
      · simp only [preparing,List.filterMap_cons,List.filterMap_nil,List.mem_singleton,Prod.mk.injEq] at new
        rw [new.1,new.2]
        exact .inr ⟨talk,here,by simp,fun _ => rfl,by simp⟩
      · cases new
  | invites b talk d peer here silent fresh =>
    refine good.invited here silent fresh (fun e => ?_) ?_
    · rw [turn.viewMore (p := answering e) rfl rfl]
      by_cases self : d = e <;> simp [answering,self]
    · rw [turn.viewMore (p := preparing) rfl rfl]
      exact List.append_nil _
  | hears b talk w r here ran => exact good.heard here ran turn
  | answers b d x failed here =>
    refine good.answered here (fun e => ?_) ?_
    · obtain ⟨left,right,before,after⟩ := turn.view (answering e)
      rw [before,after]
      by_cases self : d = e <;> simp [answering,self]
      omega
    · rw [turn.viewMore (p := preparing) rfl rfl]
      exact List.append_nil _
  | ends b talk here =>
    have plain : ∀ f, some (Frame.talk b .last) = some f → f.plain = true := by
      intro f known
      cases Option.some.inj known
      rfl
    refine good.ended here ?_ ?_ ?_ ?_ (fun d => same _ _ (blindAnswers d) plain (by simp) (by simp))
      (same _ _ blindWaits plain (by simp) (by simp)) <;> split <;> rfl

end

variable {s : State} {b : Bid}

theorem talkGoodBoot (boot : Boot s) : TalkGood s.shared s.tasks := by
  constructor
  case stored => intro deviceID b held; rw [boot.broadcasts] at held; cases held
  case talks => intro b talk here; rw [boot.talks] at here; cases here
  case acked => intro d x here; rw [boot.dialogs] at here; cases here
  case answers => intro d x here; rw [boot.dialogs] at here; cases here
  case unborn => intro d _; rw [boot.tasks]; rfl
  case waits => intro b w mem; rw [boot.tasks] at mem; cases mem
  case peers => intro b peer mem; rw [boot.log] at mem; cases mem

theorem reachedTalks (reached : Reached s) : TalkGood s.shared s.tasks := by
  refine reached.invariant (P := fun s => TalkGood s.shared s.tasks) (fun _ boot => talkGoodBoot boot) ?_
  intro s a t good ok
  obtain ⟨out,ran,same,turn⟩ := stepSection ok
  rw [same]
  exact good.next (sectionTalks ran) turn

theorem hearsBroadcasts {s : Server} {talk : Talk} {w : Waiting} {r : Reply} {turned : TalkOutcome}
    (ran : talkExec s b talk r (.prepare w) = some turned) :
    turned.server.broadcasts = s.broadcasts := by
  simp only [talkExec] at ran
  split at ran
  · obtain ⟨x,_,same⟩ := Option.map_eq_some_iff.mp ran
    subst same
    rfl
  · unfold prepareStep at ran
    split at ran
    case h_3 =>
      obtain ⟨⟨d,x⟩,_,rest⟩ := Option.bind_eq_some_iff.mp ran
      simp only at rest
      split at rest <;> try contradiction
      cases Option.some.inj rest
      rfl
    case h_4 =>
      obtain ⟨x,_,rest⟩ := Option.bind_eq_some_iff.mp ran
      split at rest <;> try contradiction
      cases Option.some.inj rest
      rfl
    all_goals
      try split at ran
      all_goals
        cases ran
        try rfl

end MediaServer.Signaling
