import MediaServer.SessionReach

/-! The lifecycle of sessions: one per key, taken out once, with their SSRCs, and at most one
BYE each. -/
namespace MediaServer.Signaling

structure Stored (s : Server) (x : Sid) (o : Session) : Prop where
  here : s.heap x = some o
  current : s.current x o = true

section
variable {s t : Server} {tasks tasks' : List (List Frame)} {x y : Sid} {o p : Session}

theorem Stored.get (stored : Stored s x o) : s.sessions.get o.key = some x :=
  beq_iff_eq.mp stored.current

theorem Stored.key (first : Stored s x o) (second : Stored s y p) (same : o.key = p.key) : x = y := by
  have held := first.get
  rw [same,second.get] at held
  exact (Option.some.inj held).symm

structure Allotted (s : Server) : Prop where
  active : ∀ n, n ∈ s.ssrcs.active ↔ ∃ x o, Stored s x o ∧ o.ssrc % 10000 = n
  apart : ∀ x y o p, Stored s x o → Stored s y p → o.ssrc % 10000 = p.ssrc % 10000 → x = y

theorem Allotted.same (allotted : Allotted s) (ssrcs : t.ssrcs = s.ssrcs)
    (forth : ∀ x o, Stored s x o → ∃ p, Stored t x p ∧ p.ssrc = o.ssrc)
    (back : ∀ x p, Stored t x p → ∃ o, Stored s x o ∧ p.ssrc = o.ssrc) : Allotted t where
  active n := by
    rw [ssrcs,allotted.active]
    constructor
    · rintro ⟨x,o,stored,same⟩
      obtain ⟨p,stored',ssrc⟩ := forth x o stored
      exact ⟨x,p,stored',by rw [ssrc]; exact same⟩
    · rintro ⟨x,p,stored,same⟩
      obtain ⟨o,stored',ssrc⟩ := back x p stored
      exact ⟨x,o,stored',by rw [← ssrc]; exact same⟩
  apart x y p q first second same := by
    obtain ⟨o,first',ssrc⟩ := back x p first
    obtain ⟨o',second',ssrc'⟩ := back y q second
    exact allotted.apart x y o o' first' second' (by rw [← ssrc,← ssrc']; exact same)

theorem Allotted.remove (allotted : Allotted s) (stored : Stored s x o)
    (ssrcs : t.ssrcs = Ssrc.release s.ssrcs o.ssrc) (gone : ∀ p, ¬ Stored t x p)
    (forth : ∀ y p, y ≠ x → Stored s y p → Stored t y p)
    (back : ∀ y p, Stored t y p → Stored s y p) : Allotted t where
  active n := by
    rw [ssrcs,Ssrc.memRelease,allotted.active]
    constructor
    · rintro ⟨⟨y,p,there,same⟩,other⟩
      refine ⟨y,p,forth y p ?_ there,same⟩
      intro self
      subst self
      cases Option.some.inj (stored.here.symm.trans there.here)
      exact other same.symm
    · rintro ⟨y,p,there,same⟩
      refine ⟨⟨y,p,back y p there,same⟩,?_⟩
      intro taken
      have self := allotted.apart y x p o (back y p there) stored (same.trans taken)
      subst self
      exact gone p there
  apart y z p q first second same :=
    allotted.apart y z p q (back y p first) (back z q second) same

theorem Allotted.add (allotted : Allotted s) {ssrc : Nat} {playback : Bool}
    (acquired : Ssrc.acquire s.ssrcs playback = some (ssrc,t.ssrcs)) (stored : Stored t x o)
    (own : o.ssrc = ssrc) (new : ∀ p, ¬ Stored s x p)
    (forth : ∀ y p, Stored s y p → Stored t y p)
    (back : ∀ y p, y ≠ x → Stored t y p → Stored s y p) : Allotted t := by
  obtain ⟨free,active⟩ := Ssrc.acquireActive acquired
  have others (y : Sid) (p : Session) (other : y ≠ x) (there : Stored t y p) :
      p.ssrc % 10000 ≠ ssrc % 10000 := fun same =>
    free ((allotted.active _).mpr ⟨y,p,back y p other there,same⟩)
  constructor
  · intro n
    rw [active,List.mem_cons,allotted.active]
    constructor
    · rintro (same | ⟨y,p,there,same⟩)
      · exact ⟨x,o,stored,by rw [own]; exact same.symm⟩
      · exact ⟨y,p,forth y p there,same⟩
    · rintro ⟨y,p,there,same⟩
      by_cases self : y = x
      · subst self
        cases Option.some.inj (stored.here.symm.trans there.here)
        exact .inl (by rw [← own]; exact same.symm)
      · exact .inr ⟨y,p,back y p self there,same⟩
  · intro y z p q first second same
    by_cases left : y = x
    · by_cases right : z = x
      · exact left.trans right.symm
      · subst left
        cases Option.some.inj (stored.here.symm.trans first.here)
        exact absurd (same.symm.trans (by rw [own])) (others z q right second)
    · by_cases right : z = x
      · subst right
        cases Option.some.inj (stored.here.symm.trans second.here)
        exact absurd (same.trans (by rw [own])) (others y p left first)
      · exact allotted.apart y z p q (back y p left first) (back z q right second) same

structure Twin (o p : Session) : Prop where
  key : p.key = o.key
  streamID : p.streamID = o.streamID
  ssrc : p.ssrc = o.ssrc

inductive StoredChange (s t : Server) : Prop where
  | carried (ssrcs : t.ssrcs = s.ssrcs)
      (forth : ∀ x o, Stored s x o → ∃ p, Stored t x p ∧ Twin o p)
      (back : ∀ x p, Stored t x p → ∃ o, Stored s x o ∧ Twin o p)
  | removed (x : Sid) (o : Session) (stored : Stored s x o)
      (ssrcs : t.ssrcs = Ssrc.release s.ssrcs o.ssrc)
      (revokes : ∀ v token, t.tokens.get v = some token → token.streamID ≠ o.streamID)
      (gone : ∀ p, ¬ Stored t x p) (forth : ∀ y p, y ≠ x → Stored s y p → Stored t y p)
      (back : ∀ y p, Stored t y p → Stored s y p)
  | added (x : Sid) (o : Session) (playback : Bool) (stored : Stored t x o)
      (acquired : Ssrc.acquire s.ssrcs playback = some (o.ssrc,t.ssrcs))
      (unused : o.streamID ∉ s.drawn) (running : s.stoppingDevices o.key.deviceID = false)
      (new : ∀ p, ¬ Stored s x p) (forth : ∀ y p, Stored s y p → Stored t y p)
      (back : ∀ y p, y ≠ x → Stored t y p → Stored s y p)

theorem turnStored {f : SessionFrame} {e : Effect} (here : s.heap x = some o)
    (move : Moves o (s.current x o) f e)
    (acts : (s.put x e.session).act e.session e.act = some t) : StoredChange s t := by
  obtain ⟨heap,_,sessions,current⟩ := Rooted.acted move acts
  obtain ⟨_,_,_,_,ssrcs⟩ := actSpec acts
  obtain ⟨key,stream,ssrc,_⟩ := move.identity
  have heapOther (y : Sid) (other : y ≠ x) : t.heap y = s.heap y := by
    rw [heap,Function.update_of_ne other]
  have heapSelf : t.heap x = some e.session := by rw [heap,Function.update_self]
  have apart (y : Sid) (q : Session) (other : y ≠ x) : t.current y q = s.current y q := by
    unfold Server.current
    rcases sessions with same | ⟨mine,same⟩
    · rw [same]
    · rw [same,Table.getDelete]
      split
      · rename_i shared
        have held : s.sessions.get o.key = some x := beq_iff_eq.mp mine
        rw [shared,held]
        simp [Ne.symm other]
      · rfl
  have forth (y : Sid) (q : Session) (other : y ≠ x) (stored : Stored s y q) : Stored t y q :=
    ⟨(heapOther y other).trans stored.here,(apart y q other).trans stored.current⟩
  have back (y : Sid) (q : Session) (other : y ≠ x) (stored : Stored t y q) : Stored s y q :=
    ⟨(heapOther y other).symm.trans stored.here,(apart y q other).symm.trans stored.current⟩
  cases stays : e.stays with
  | true =>
    have kept : e.act ≠ .remove := by simpa [Effect.stays] using stays
    rw [if_neg kept] at ssrcs
    rw [stays,Bool.and_true] at current
    refine .carried ssrcs ?_ ?_
    · intro y q stored
      by_cases self : y = x
      · subst self
        cases Option.some.inj (here.symm.trans stored.here)
        exact ⟨_,⟨heapSelf,current.trans stored.current⟩,⟨key,stream,ssrc⟩⟩
      · exact ⟨q,forth y q self stored,rfl,rfl,rfl⟩
    · intro y q stored
      by_cases self : y = x
      · subst self
        cases Option.some.inj (heapSelf.symm.trans stored.here)
        exact ⟨o,⟨here,current.symm.trans stored.current⟩,⟨key,stream,ssrc⟩⟩
      · exact ⟨q,back y q self stored,rfl,rfl,rfl⟩
  | false =>
    have removed : e.act = .remove := by simpa [Effect.stays] using stays
    rw [if_pos removed,ssrc] at ssrcs
    rw [stays,Bool.and_false] at current
    have gone (q : Session) : ¬ Stored t x q := by
      intro stored
      cases Option.some.inj (heapSelf.symm.trans stored.here)
      cases current.symm.trans stored.current
    have revokes (v : String) (token : StreamToken) (left : t.tokens.get v = some token) :
        token.streamID ≠ o.streamID := by
      rw [removed] at acts
      cases Option.some.inj acts
      rw [← stream]
      exact (revoked left).2
    refine .removed x o ⟨here,(move.closing.2.2 stays).1⟩ ssrcs revokes gone forth ?_
    intro y q stored
    by_cases self : y = x
    · subst self
      exact absurd stored (gone q)
    · exact back y q self stored

theorem storedChange (rooted : Rooted s tasks) {frame : Option Frame} {out : Outcome}
    (change : SessionChange s frame out) : StoredChange s out.shared := by
  cases change with
  | turn x f r ran =>
    obtain ⟨o,e,here,move,_,_,acts⟩ := turnSpec ran
    exact turnStored here move acts
  | called x ran =>
    obtain ⟨o,e,here,move,_,_,acts⟩ := turnSpec ran
    exact turnStored here move acts
  | @born x deviceID channelID historyID id duration ssrc ssrcs stage callers kind playback acquired
      fresh unused running history =>
    have absent : s.sessions.get ⟨deviceID,channelID,historyID⟩ = none := by
      refine rooted.absent unused ?_
      rcases history with ⟨rfl,none⟩ | same
      · exact .inl ⟨rfl,none⟩
      · exact .inr same
    refine .added x {key := ⟨deviceID,channelID,historyID⟩, streamID := id, ssrc := ssrc
                     playbackDuration := duration} playback ⟨Function.update_self ..,?_⟩ acquired unused
      running ?_ ?_ ?_
    · simp [Server.current,Server.addSession]
    · intro p stored
      cases fresh.symm.trans stored.here
    · intro y p stored
      have other : y ≠ x := fun self => by
        subst self; cases fresh.symm.trans stored.here
      refine ⟨(Function.update_of_ne other ..).trans stored.here,?_⟩
      have held := stored.get
      simp only [Server.current,Server.addSession,Table.getSet]
      split
      · rename_i same
        rw [same,absent] at held
        cases held
      · exact stored.current
    · intro y p other stored
      refine ⟨(Function.update_of_ne other ..).symm.trans stored.here,?_⟩
      have held := stored.get
      simp only [Server.addSession,Table.getSet] at held
      split at held
      · exact absurd (Option.some.inj held).symm other
      · exact beq_iff_eq.mpr held
  | @marked x o t claimed ctxErr here same =>
    have current (y : Sid) (q : Session) : t.current y q = s.current y q := by
      unfold Server.current; rw [same.sessions]; rfl
    have heapOther (y : Sid) (other : y ≠ x) : t.heap y = s.heap y := by
      rw [same.heap]; exact Function.update_of_ne other ..
    have heapSelf : t.heap x = some {o with claimed := claimed, ctxErr := ctxErr} := by
      rw [same.heap]; exact Function.update_self ..
    refine .carried same.ssrcs ?_ ?_
    · intro y q stored
      by_cases self : y = x
      · subst self
        cases Option.some.inj (here.symm.trans stored.here)
        exact ⟨_,⟨heapSelf,(current ..).trans stored.current⟩,rfl,rfl,rfl⟩
      · exact ⟨q,⟨(heapOther y self).trans stored.here,(current ..).trans stored.current⟩,rfl,rfl,rfl⟩
    · intro y q stored
      by_cases self : y = x
      · subst self
        cases Option.some.inj (heapSelf.symm.trans stored.here)
        exact ⟨o,⟨here,(current ..).symm.trans stored.current⟩,rfl,rfl,rfl⟩
      · exact ⟨q,⟨(heapOther y self).symm.trans stored.here,(current ..).symm.trans stored.current⟩,
          rfl,rfl,rfl⟩
  | other same =>
    have both (y : Sid) (q : Session) : Stored out.shared y q ↔ Stored s y q := by
      constructor
      · intro stored
        exact ⟨by rw [← same.heap]; exact stored.here,
          by have := stored.current; unfold Server.current at this ⊢; rw [← same.sessions]; exact this⟩
      · intro stored
        exact ⟨by rw [same.heap]; exact stored.here,
          by have := stored.current; unfold Server.current at this ⊢; rw [same.sessions]; exact this⟩
    exact .carried same.ssrcs (fun y q stored => ⟨q,(both y q).mpr stored,rfl,rfl,rfl⟩)
      fun y q stored => ⟨q,(both y q).mp stored,rfl,rfl,rfl⟩

theorem allottedChange (allotted : Allotted s) (change : StoredChange s t) : Allotted t := by
  cases change with
  | carried ssrcs forth back =>
    refine allotted.same ssrcs ?_ ?_
    · intro x o stored
      obtain ⟨p,stored',twin⟩ := forth x o stored
      exact ⟨p,stored',twin.ssrc⟩
    · intro x p stored
      obtain ⟨o,stored',twin⟩ := back x p stored
      exact ⟨o,stored',twin.ssrc⟩
  | removed x o stored ssrcs revokes gone forth back =>
    exact allotted.remove stored ssrcs gone forth back
  | added x o playback stored acquired unused running new forth back =>
    exact allotted.add acquired stored rfl new forth back

end

variable {s t : State} {a : Action} {x : Sid} {p o : Session}

theorem stepStored (rooted : Rooted s.shared s.tasks) (ok : step s a = some t) :
    StoredChange s.shared t.shared := by
  obtain ⟨out,ran,same,_⟩ := stepSection ok
  rw [same]
  exact storedChange rooted (sectionChange rooted.keyed ran)

theorem reachedAllotted (reached : Reached s) : Allotted s.shared := by
  have both : Rooted s.shared s.tasks ∧ Allotted s.shared :=
    reached.invariant (P := fun s => Rooted s.shared s.tasks ∧ Allotted s.shared)
      (fun s boot => ⟨rootedBoot boot,{
        active := fun n => by
          rw [boot.ssrcs]
          constructor
          · nofun
          · rintro ⟨x,o,stored,_⟩
            have here := stored.here
            rw [boot.heap] at here
            cases here
        apart := fun x y o p stored => by
          have here := stored.here
          rw [boot.heap] at here
          cases here}⟩)
      fun s a t now ok => ⟨rootedStep now.1 ok,allottedChange now.2 (stepStored now.1 ok)⟩
  exact both.2

/- How one step takes an existing session and its frames on: a mark, a section of its own or a
stop that a caller made. -/
inductive Became (frame : Option Frame) (x : Sid) (current : Bool) (o p : Session)
    (fs fs' : List SessionFrame) : Prop where
  | marked (claimed : Nat) (ctxErr : Bool) (new : List SessionFrame)
      (same : p = {o with claimed := claimed, ctxErr := ctxErr})
      (after : fs' = fs ++ new) (outside : ∀ f ∈ new, f.outside = true)
  | moved (f : SessionFrame) (e : Effect) (a b : List SessionFrame)
      (run : (frame = some (.session x f) ∧ fs = a ++ f :: b) ∨ (f = .stop false ∧ fs = a ++ b))
      (move : Moves o current f e) (same : p = e.session)
      (after : fs' = a ++ e.next ++ b ++ e.spawned)

theorem changeBecame {s : Server} {tasks tasks' : List (List Frame)} {frame : Option Frame}
    {out : Outcome} (change : SessionChange s frame out) (turn : Pool.Turn frame out tasks tasks')
    (now : out.shared.heap x = some p) :
    (s.heap x = none ∧ p = {key := p.key, streamID := p.streamID, ssrc := p.ssrc
                            playbackDuration := p.playbackDuration}) ∨
      ∃ o, s.heap x = some o ∧ Became frame x (s.current x o) o p
        (Pool.view (about x) tasks) (Pool.view (about x) tasks') := by
  have still (same : Pool.view (about x) tasks' = Pool.view (about x) tasks) (here : s.heap x = some p) :
      ∃ o, s.heap x = some o ∧ Became frame x (s.current x o) o p
        (Pool.view (about x) tasks) (Pool.view (about x) tasks') :=
    ⟨p,here,.marked p.claimed p.ctxErr [] rfl (by rw [same,List.append_nil]) nofun⟩
  cases change with
  | @turn y f r turned ran =>
    obtain ⟨o,e,here,move,next,spawned,acts⟩ := turnSpec ran
    obtain ⟨heap,_⟩ := Rooted.acted move acts
    obtain ⟨others,a,b,before,after⟩ := outcomeViews turn
    simp only [SessionOutcome.outcome,heap] at now
    right
    by_cases self : x = y
    · subst self
      rw [Function.update_self] at now
      rw [next,spawned] at after
      exact ⟨o,here,.moved f e a b (.inl ⟨rfl,before⟩) move (Option.some.inj now).symm after⟩
    · rw [Function.update_of_ne self] at now
      exact still (others x self) now
  | @called y turned ran =>
    obtain ⟨o,e,here,move,next,spawned,acts⟩ := turnSpec ran
    obtain ⟨heap,_⟩ := Rooted.acted move acts
    obtain ⟨others,after⟩ := enteredViews turn
    simp only [SessionOutcome.entered,heap] at now
    right
    by_cases self : x = y
    · subst self
      rw [Function.update_self] at now
      rw [next,spawned] at after
      refine ⟨o,here,.moved _ e (Pool.view (about x) tasks) [] (.inr ⟨rfl,?_⟩) move
        (Option.some.inj now).symm ?_⟩
      · rw [List.append_nil]
      · rw [List.append_nil]; exact after
    · rw [Function.update_of_ne self] at now
      exact still (others x self) now
  | @born y deviceID channelID historyID id duration ssrc ssrcs stage callers kind playback acquired
      fresh =>
    simp only [Server.addSession] at now
    by_cases self : x = y
    · subst self
      rw [Function.update_self] at now
      cases Option.some.inj now
      exact .inl ⟨fresh,rfl⟩
    · rw [Function.update_of_ne self] at now
      exact .inr (still ((bornViews turn).1 x self) now)
  | @marked y o t claimed ctxErr here same =>
    have before : Function.update s.heap y (some {o with claimed := claimed, ctxErr := ctxErr}) x =
        some p := by
      rw [← now]; exact congrFun same.heap.symm x
    by_cases self : x = y
    · subst self
      rw [Function.update_self] at before
      refine .inr ⟨o,here,.marked claimed ctxErr [] (Option.some.inj before).symm ?_ nofun⟩
      rw [quietViews turn,List.append_nil]
    · rw [Function.update_of_ne self] at before
      exact .inr (still (quietViews turn x) before)
  | other same quiet next guests =>
    rw [same.heap] at now
    exact .inr ⟨p,now,.marked p.claimed p.ctxErr _ rfl (turn.viewMore (quiet x) (next x))
      fun f mem => (guests x f mem).1⟩

theorem stepBecame (rooted : Rooted s.shared s.tasks) (ok : step s a = some t)
    (now : t.shared.heap x = some p) :
    (s.shared.heap x = none ∧ p = {key := p.key, streamID := p.streamID, ssrc := p.ssrc
                                   playbackDuration := p.playbackDuration}) ∨
      ∃ o, s.shared.heap x = some o ∧ Became (running s a) x (s.shared.current x o) o p
        (Pool.view (about x) s.tasks) (Pool.view (about x) t.tasks) := by
  obtain ⟨out,taken,shared,turn⟩ := stepSection ok
  rw [shared] at now
  exact changeBecame (sectionChange rooted.keyed taken) turn now

theorem heapKept (rooted : Rooted s.shared s.tasks) (ok : step s a = some t)
    (here : s.shared.heap x = some o) : ∃ p, t.shared.heap x = some p := by
  obtain ⟨out,taken,shared,_⟩ := stepSection ok
  have change := sectionChange rooted.keyed taken
  have updated (y : Sid) (q : Session) : ∃ p, Function.update s.shared.heap y (some q) x = some p := by
    by_cases self : x = y
    · subst self; exact ⟨q,Function.update_self ..⟩
    · exact ⟨o,(Function.update_of_ne self ..).trans here⟩
  rw [shared]
  generalize running s a = frame at change
  cases change with
  | turn y f r ran | called y ran =>
    obtain ⟨_,e,_,move,_,_,acts⟩ := turnSpec ran
    obtain ⟨heap,_⟩ := Rooted.acted move acts
    simp only [SessionOutcome.outcome,SessionOutcome.entered,heap]
    exact updated y e.session
  | born y => exact updated y _
  | marked y claimed ctxErr _ same => rw [same.heap]; exact updated y _
  | other same => rw [same.heap]; exact ⟨o,here⟩

theorem storedDone (rooted : Rooted s.shared s.tasks) (here : s.shared.heap x = some o) :
    (Stored s.shared x o → o.done = 0 ∧ o.released = 0) ∧
      (¬ Stored s.shared x o → o.done = 1 ∧ o.released = 1) := by
  have good := rooted.good x o here
  have done := good.done
  have released := good.released
  simp only at done released
  constructor
  · intro stored
    rw [stored.current] at done released
    exact ⟨done,released⟩
  · intro gone
    have absent : s.shared.current x o = false := eq_false_of_ne_true fun current => gone ⟨here,current⟩
    rw [absent] at done released
    exact ⟨done,released⟩

theorem takenOut (rooted : Rooted s.shared s.tasks) (ok : step s a = some t)
    (here : s.shared.heap x = some o) (now : t.shared.heap x = some p) :
    ((Stored s.shared x o ∧ ¬ Stored t.shared x p) ∨ p.done ≠ o.done ∨ p.released ≠ o.released →
      ∃ role, running s a = some (.session x (.clean role .remove))) ∧
    (¬ Stored s.shared x o → ¬ Stored t.shared x p) ∧
    (o.state = .stopping → p.state = .stopping) := by
  have before := storedDone rooted here
  have after := storedDone (rootedStep rooted ok) now
  obtain ⟨none,_⟩ | ⟨o',known,became⟩ := stepBecame rooted ok now
  · exact nomatch none.symm.trans here
  cases Option.some.inj (here.symm.trans known)
  have grows : o.done ≤ p.done := by
    cases became with
    | marked claimed ctxErr new same => subst same; exact Nat.le_refl _
    | moved f e a b run move same =>
      subst same
      rw [move.closing.1]
      omega
  refine ⟨?_,?_,?_⟩
  · intro changed
    have differs : p.done ≠ o.done ∨ p.released ≠ o.released := by
      rcases changed with ⟨stored,gone⟩ | differs
      · left
        rw [(before.1 stored).1,(after.2 gone).1]
        omega
      · exact differs
    cases became with
    | marked claimed ctxErr new same => subst same; rcases differs with h | h <;> exact absurd rfl h
    | moved f e a b run move same =>
      subst same
      obtain ⟨done,released,taken⟩ := move.closing
      have gone : e.stays = false := by
        cases stays : e.stays with
        | false => rfl
        | true =>
          rw [stays] at done released
          rcases differs with h | h
          · exact absurd done h
          · exact absurd released h
      obtain ⟨_,role,frame⟩ := taken gone
      subst frame
      rcases run with ⟨run,_⟩ | ⟨other,_⟩
      · exact ⟨role,run⟩
      · cases other
  · intro gone stored
    have closed := (before.2 gone).1
    have opened := (after.1 stored).1
    omega
  · intro stopping
    cases became with
    | marked claimed ctxErr new same => subst same; exact stopping
    | moved f e a b run move same =>
      subst same
      rcases move.states with same | stopped | ⟨early,_⟩ | ⟨early,_⟩
      · exact same.trans stopping
      · exact stopped
      · exact nomatch early.symm.trans stopping
      · exact nomatch early.symm.trans stopping

theorem streamsFromInviting (rooted : Rooted s.shared s.tasks) (ok : step s a = some t)
    (now : t.shared.heap x = some p) (streaming : p.state = .streaming) :
    ∃ o, s.shared.heap x = some o ∧ (o.state = .streaming ∨ o.state = .inviting) := by
  obtain ⟨_,new⟩ | ⟨o,here,became⟩ := stepBecame rooted ok now
  · rw [new] at streaming
    cases streaming
  refine ⟨o,here,?_⟩
  cases became with
  | marked claimed ctxErr new same => subst same; exact .inl streaming
  | moved f e a b run move same =>
    subst same
    rcases move.states with same | stopped | ⟨_,inviting⟩ | ⟨inviting,_⟩
    · exact .inl (same.symm.trans streaming)
    · exact nomatch stopped.symm.trans streaming
    · exact nomatch inviting.symm.trans streaming
    · exact .inr inviting

theorem sessionLifecycle {s : State} (reached : Reached s) :
    (∀ x y o p, Stored s.shared x o → Stored s.shared y p → o.key = p.key → x = y) ∧
    (∀ x o, s.shared.heap x = some o →
      (Stored s.shared x o → o.done = 0 ∧ o.released = 0) ∧
      (¬ Stored s.shared x o → o.done = 1 ∧ o.released = 1)) ∧
    (∀ a t x o p, step s a = some t → s.shared.heap x = some o → t.shared.heap x = some p →
      ((Stored s.shared x o ∧ ¬ Stored t.shared x p) ∨ p.done ≠ o.done ∨ p.released ≠ o.released →
        ∃ role, running s a = some (.session x (.clean role .remove))) ∧
      (¬ Stored s.shared x o → ¬ Stored t.shared x p) ∧
      (o.state = .stopping → p.state = .stopping)) ∧
    (∀ a t x p, step s a = some t → t.shared.heap x = some p → p.state = .streaming →
      ∃ o, s.shared.heap x = some o ∧ (o.state = .streaming ∨ o.state = .inviting)) ∧
    (∀ n, n ∈ s.shared.ssrcs.active ↔ ∃ x o, Stored s.shared x o ∧ o.ssrc % 10000 = n) ∧
    (∀ x o, s.shared.heap x = some o → (o.sent.filter (·.method == .bye)).length ≤ 1) := by
  have rooted := reachedRooted reached
  refine ⟨?_,?_,?_,?_,?_,?_⟩
  · intro x y o p first second same
    exact first.key second same
  · intro x o here
    exact storedDone rooted here
  · intro a t x o p ok here now
    exact takenOut rooted ok here now
  · intro a t x p ok now streaming
    exact streamsFromInviting rooted ok now streaming
  · exact (reachedAllotted reached).active
  · intro x o here
    exact (rooted.good x o here).byes

def oneStream : List Action :=
  [.call (.live (.startLive "d" "c" {} 0 "u")),.run 0 .ok,.run 0 (.port 6000),.run 0 .ok,.run 0 .ok,
    .run 0 .ok,.run 0 (.cseq 1),.run 0 .ok,.run 0 .accepted,.run 0 .ok,.run 0 .ok,.run 0 .ok,.run 0 .ok,
    .run 0 .ok,.call (.live (.stopLiveID "u")),.run 1 .ok,.run 1 .ok,.run 1 .ok,.run 1 .ok,.run 1 .ok,
    .run 1 .ok]

theorem oneStreamLifecycle : ∃ s o, Reached s ∧ s.shared.heap 0 = some o ∧
    ¬ Stored s.shared 0 o ∧ o.sent = [⟨.bye,2⟩] ∧ o.done = 1 ∧ o.released = 1 := by
  have ends : (Transition.run step firstStart oneStream).any (fun s => (s.shared.heap 0).any fun o =>
      !s.shared.current 0 o && o.sent == [⟨.bye,2⟩]) = true := by decide
  obtain ⟨s,reached,ends⟩ := reachedBy ends
  obtain ⟨o,here,ends⟩ := (Option.any_eq_true ..).mp ends
  simp only [Bool.and_eq_true,Bool.not_eq_true',beq_iff_eq] at ends
  have gone : ¬ Stored s.shared 0 o := by
    intro stored
    exact nomatch stored.current.symm.trans ends.1
  exact ⟨s,o,reached,here,gone,ends.2,((sessionLifecycle reached).2.1 0 o here).2 gone⟩

end MediaServer.Signaling
