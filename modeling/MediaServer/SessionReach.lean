import MediaServer.SessionSection

/-! The invariant of all sessions together, along every run of the server. -/
namespace MediaServer.Signaling

structure Rooted (s : Server) (tasks : List (List Frame)) : Prop where
  unborn : ∀ x, s.heap x = none → Pool.view (about x) tasks = []
  keyed : Keyed s
  drawn : ∀ x o, s.heap x = some o →
    o.streamID ∈ s.drawn ∧ (o.key.historyID = "" ∨ o.key.historyID = o.streamID)
  empty : "" ∈ s.drawn
  distinct : ∀ x y o p, s.heap x = some o → s.heap y = some p → o.streamID = p.streamID → x = y
  good : ∀ x o, s.heap x = some o → Life.Good ⟨o,s.current x o,Pool.view (about x) tasks⟩

namespace Rooted

variable {s t : Server} {tasks tasks' : List (List Frame)} {x y : Sid} {o p : Session}

theorem moved (rooted : Rooted s tasks) (here : s.heap x = some o)
    (heap : t.heap = Function.update s.heap x (some p)) (key : p.key = o.key)
    (stream : p.streamID = o.streamID)
    (sessions : t.sessions = s.sessions ∨ (s.current x o = true ∧ t.sessions = s.sessions.delete o.key))
    (drawn : s.drawn ⊆ t.drawn)
    (others : ∀ y, y ≠ x → Pool.view (about y) tasks' = Pool.view (about y) tasks)
    (good : Life.Good ⟨p,t.current x p,Pool.view (about x) tasks'⟩) : Rooted t tasks' := by
  have heapOther (y : Sid) (other : y ≠ x) : t.heap y = s.heap y := by
    rw [heap,Function.update_of_ne other]
  have heapSelf : t.heap x = some p := by rw [heap,Function.update_self]
  constructor
  case unborn =>
    intro y none
    have other : y ≠ x := fun same => by rw [same,heapSelf] at none; cases none
    rw [others y other]
    exact rooted.unborn y (by rw [← heapOther y other]; exact none)
  case keyed =>
    intro k y stored
    have before : s.sessions.get k = some y := by
      rcases sessions with same | ⟨_,same⟩
      · rw [← same]; exact stored
      · rw [same,Table.getDelete] at stored
        split at stored <;> try contradiction
        exact stored
    obtain ⟨q,found,same⟩ := rooted.keyed k y before
    by_cases self : y = x
    · subst self
      cases Option.some.inj (here.symm.trans found)
      exact ⟨p,heapSelf,key.trans same⟩
    · exact ⟨q,by rw [heapOther y self]; exact found,same⟩
  case drawn =>
    intro y q found
    by_cases self : y = x
    · subst self
      cases Option.some.inj (heapSelf.symm.trans found)
      obtain ⟨known,history⟩ := rooted.drawn y o here
      exact ⟨drawn (by rw [stream]; exact known),by rw [key,stream]; exact history⟩
    · rw [heapOther y self] at found
      obtain ⟨known,history⟩ := rooted.drawn y q found
      exact ⟨drawn known,history⟩
  case empty => exact drawn rooted.empty
  case distinct =>
    have before (y : Sid) (q : Session) (found : t.heap y = some q) :
        ∃ q', s.heap y = some q' ∧ q'.streamID = q.streamID := by
      by_cases self : y = x
      · subst self
        cases Option.some.inj (heapSelf.symm.trans found)
        exact ⟨o,here,stream.symm⟩
      · exact ⟨q,by rw [← heapOther y self]; exact found,rfl⟩
    intro y z q q' found found' same
    obtain ⟨u,hu,su⟩ := before y q found
    obtain ⟨v,hv,sv⟩ := before z q' found'
    exact rooted.distinct y z u v hu hv (su.trans (same.trans sv.symm))
  case good =>
    intro y q found
    by_cases self : y = x
    · subst self
      cases Option.some.inj (heapSelf.symm.trans found)
      exact good
    · rw [heapOther y self] at found
      have before := rooted.good y q found
      have current : t.current y q = s.current y q := by
        unfold Server.current
        rcases sessions with same | ⟨mine,same⟩
        · rw [same]
        · rw [same,Table.getDelete]
          split
          · rename_i shared
            have held : s.sessions.get o.key = some x := beq_iff_eq.mp mine
            rw [shared,held]
            simp [Ne.symm self]
          · rfl
      rw [current,others y self]
      exact before

theorem stayed (rooted : Rooted s tasks) (same : SameSessions s t)
    (frames : ∀ x, ∃ new, Pool.view (about x) tasks' = Pool.view (about x) tasks ++ new ∧
      ∀ f ∈ new, f.outside = true ∧ (s.heap x).isSome = true) : Rooted t tasks' := by
  constructor
  case unborn =>
    intro x none
    rw [same.heap] at none
    obtain ⟨new,view,guests⟩ := frames x
    rw [view,rooted.unborn x none]
    cases new with
    | nil => rfl
    | cons f rest =>
      have here := (guests f (List.mem_cons_self ..)).2
      rw [none] at here
      cases here
  case keyed => intro k x; rw [same.sessions,same.heap]; exact rooted.keyed k x
  case drawn =>
    intro x o
    rw [same.heap]
    intro here
    obtain ⟨known,history⟩ := rooted.drawn x o here
    exact ⟨same.drawn known,history⟩
  case empty => exact same.drawn rooted.empty
  case distinct => intro x y o p; rw [same.heap]; exact rooted.distinct x y o p
  case good =>
    intro x o here
    rw [same.heap] at here
    obtain ⟨new,view,guests⟩ := frames x
    have current : t.current x o = s.current x o := by unfold Server.current; rw [same.sessions]
    rw [view,current]
    exact (rooted.good x o here).enter fun f mem => (guests f mem).1

theorem absent (rooted : Rooted s tasks) {key : LiveKey} {id : String} (unused : id ∉ s.drawn)
    (history : (key.historyID = "" ∧ s.sessions.get key = none) ∨ key.historyID = id) :
    s.sessions.get key = none := by
  rcases history with live | playback
  · exact live.2
  · cases stored : s.sessions.get key with
    | none => rfl
    | some y =>
      obtain ⟨q,found,same⟩ := rooted.keyed key y stored
      obtain ⟨known,empty | own⟩ := rooted.drawn y q found
      · rw [same,playback] at empty
        subst empty
        exact absurd rooted.empty unused
      · rw [same,playback] at own
        rw [own] at unused
        exact absurd known unused

theorem added (rooted : Rooted s tasks) {key : LiveKey} {id : String} {ssrc duration : Nat}
    {ssrcs : Ssrc.Allocator} {kind : Admission} {stage : StartStage} {callers : List SessionFrame}
    (fresh : s.heap x = none) (unused : id ∉ s.drawn)
    (history : (key.historyID = "" ∧ s.sessions.get key = none) ∨ key.historyID = id)
    (early : stage.early = true) (outside : ∀ f ∈ callers, f.outside = true)
    (view : Pool.view (about x) tasks' = Pool.view (about x) tasks ++ (.start stage :: callers))
    (others : ∀ y, y ≠ x → Pool.view (about y) tasks' = Pool.view (about y) tasks) :
    Rooted (s.addSession x {key := key, streamID := id, ssrc := ssrc, playbackDuration := duration}
      ssrcs kind) tasks' := by
  have absent := rooted.absent unused history
  have heapOther (y : Sid) (other : y ≠ x) :
      (Function.update s.heap x (some {key := key, streamID := id, ssrc := ssrc
                                       playbackDuration := duration})) y = s.heap y :=
    Function.update_of_ne other ..
  have strange (y : Sid) (q : Session) (found : s.heap y = some q) : q.streamID ≠ id := fun same =>
    unused (by rw [← same]; exact (rooted.drawn y q found).1)
  have heapSelf : (Function.update s.heap x (some {key := key, streamID := id, ssrc := ssrc
                                                   playbackDuration := duration})) x = some _ :=
    Function.update_self ..
  constructor
  case unborn =>
    intro y none
    have other : y ≠ x := fun same => by rw [same] at none; exact nomatch heapSelf.symm.trans none
    rw [others y other]
    exact rooted.unborn y ((heapOther y other).symm.trans none)
  case keyed =>
    intro k y stored
    simp only [Server.addSession,Table.getSet] at stored
    split at stored
    · rename_i same
      cases Option.some.inj stored
      exact ⟨_,heapSelf,same.symm⟩
    · obtain ⟨q,found,same⟩ := rooted.keyed k y stored
      have other : y ≠ x := fun self => by rw [self,fresh] at found; cases found
      exact ⟨q,(heapOther y other).trans found,same⟩
  case drawn =>
    intro y q found
    by_cases self : y = x
    · subst self
      cases Option.some.inj (heapSelf.symm.trans found)
      refine ⟨List.mem_cons_self ..,?_⟩
      rcases history with live | playback
      · exact .inl live.1
      · exact .inr playback
    · obtain ⟨known,own⟩ := rooted.drawn y q ((heapOther y self).symm.trans found)
      exact ⟨List.mem_cons_of_mem _ known,own⟩
  case empty => exact List.mem_cons_of_mem _ rooted.empty
  case distinct =>
    intro y z q q' found found' same
    by_cases first : y = x
    · by_cases second : z = x
      · exact first.trans second.symm
      · subst first
        cases Option.some.inj (heapSelf.symm.trans found)
        exact absurd same.symm (strange z q' ((heapOther z second).symm.trans found'))
    · by_cases second : z = x
      · subst second
        cases Option.some.inj (heapSelf.symm.trans found')
        exact absurd same (strange y q ((heapOther y first).symm.trans found))
      · exact rooted.distinct y z q q' ((heapOther y first).symm.trans found)
          ((heapOther z second).symm.trans found') same
  case good =>
    intro y q found
    by_cases self : y = x
    · subst self
      cases Option.some.inj (heapSelf.symm.trans found)
      have current : (s.addSession y {key := key, streamID := id, ssrc := ssrc
                                      playbackDuration := duration} ssrcs kind).current y
          {key := key, streamID := id, ssrc := ssrc, playbackDuration := duration} = true := by
        simp [Server.current,Server.addSession]
      rw [current,view,rooted.unborn y fresh]
      exact (Life.Good.born key id ssrc duration early).enter outside
    · have before := (heapOther y self).symm.trans found
      have current : (s.addSession x {key := key, streamID := id, ssrc := ssrc
                                      playbackDuration := duration} ssrcs kind).current y q =
          s.current y q := by
        simp only [Server.current,Server.addSession,Table.getSet]
        split
        · rename_i same
          rw [same,absent]
          simp [Ne.symm self]
        · rfl
      rw [current,others y self]
      exact rooted.good y q before

theorem acted {f : SessionFrame} {e : Effect} (move : Moves o (s.current x o) f e)
    (acted : (s.put x e.session).act e.session e.act = some t) :
    t.heap = Function.update s.heap x (some e.session) ∧ s.drawn ⊆ t.drawn ∧
      (t.sessions = s.sessions ∨ (s.current x o = true ∧ t.sessions = s.sessions.delete o.key)) ∧
      t.current x e.session = (s.current x o && e.stays) := by
  obtain ⟨heap,drawn,_,sessions,_⟩ := actSpec acted
  obtain ⟨key,_⟩ := move.identity
  refine ⟨heap,drawn,?_,?_⟩
  · rw [sessions,key]
    split
    · rename_i removed
      have gone : e.stays = false := by simp [Effect.stays,removed]
      exact .inr ⟨(move.closing.2.2 gone).1,rfl⟩
    · exact .inl rfl
  · unfold Server.current Effect.stays
    rw [sessions,key]
    split
    · rename_i removed
      simp [removed]
    · rename_i kept
      simp [Server.put,kept]

theorem changed (rooted : Rooted s tasks) {frame : Option Frame} {out : Outcome}
    (change : SessionChange s frame out) (turn : Pool.Turn frame out tasks tasks') :
    Rooted out.shared tasks' := by
  cases change with
  | @turn x f r turned ran =>
    obtain ⟨o,e,here,move,next,spawned,acts⟩ := turnSpec ran
    obtain ⟨heap,drawn,sessions,current⟩ := acted move acts
    obtain ⟨key,stream,_⟩ := move.identity
    obtain ⟨others,a,b,before,after⟩ := outcomeViews turn
    refine rooted.moved here heap key stream sessions drawn others ?_
    have good := (rooted.good x o here).turn before move
    rw [after,next,spawned]
    simpa [SessionOutcome.outcome,current] using good
  | @called x turned ran =>
    obtain ⟨o,e,here,move,next,spawned,acts⟩ := turnSpec ran
    obtain ⟨heap,drawn,sessions,current⟩ := acted move acts
    obtain ⟨key,stream,_⟩ := move.identity
    obtain ⟨others,after⟩ := enteredViews turn
    refine rooted.moved here heap key stream sessions drawn others ?_
    have good := (rooted.good x o here).called rfl move
    rw [after,next,spawned]
    simpa [SessionOutcome.entered,current] using good
  | @born x deviceID channelID historyID id duration ssrc ssrcs stage callers kind playback acquired
      fresh unused running history early outside =>
    obtain ⟨others,view⟩ := bornViews turn
    refine rooted.added fresh unused ?_ early outside view others
    rcases history with ⟨rfl,none⟩ | same
    · exact .inl ⟨rfl,none⟩
    · exact .inr same
  | @marked x o t claimed ctxErr here same =>
    have views := quietViews turn
    refine rooted.moved here same.heap rfl rfl (.inl same.sessions) same.drawn (fun y _ => views y) ?_
    have current : t.current x {o with claimed := claimed, ctxErr := ctxErr} = s.current x o := by
      unfold Server.current; rw [same.sessions]; rfl
    rw [views,current]
    exact (rooted.good x o here).marked claimed ctxErr
  | other same quiet next guests =>
    exact rooted.stayed same fun x => ⟨_,turn.viewMore (quiet x) (next x),guests x⟩

end Rooted

theorem rootedBoot {s : State} (boot : Boot s) : Rooted s.shared s.tasks where
  unborn x _ := by rw [boot.tasks]; rfl
  keyed key x stored := by rw [boot.sessions] at stored; cases stored
  drawn x o here := by rw [boot.heap] at here; cases here
  empty := boot.empty
  distinct x y o p here := by rw [boot.heap] at here; cases here
  good x o here := by rw [boot.heap] at here; cases here

theorem rootedStep {s t : State} {a : Action} (rooted : Rooted s.shared s.tasks)
    (ok : step s a = some t) : Rooted t.shared t.tasks := by
  obtain ⟨out,ran,same,turn⟩ := stepSection ok
  rw [same]
  exact rooted.changed (sectionChange rooted.keyed ran) turn

theorem reachedRooted {s : State} (reached : Reached s) : Rooted s.shared s.tasks :=
  reached.invariant (P := fun s => Rooted s.shared s.tasks) (fun _ => rootedBoot)
    fun _ _ _ rooted ok => rootedStep rooted ok

end MediaServer.Signaling
