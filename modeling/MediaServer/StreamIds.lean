import MediaServer.PushCredentials
import MediaServer.SourceControl

/-! Random values and uuids never repeat, so each has one use for good: it is the id of a
session, the id of a pull, a push credential or a play token. -/
namespace MediaServer.Signaling

inductive Use where
  | session | pull | credential | ticket
  deriving DecidableEq, Repr

def Uses (s : Server) (v : String) : Use → Prop
  | .session => ∃ x o, s.heap x = some o ∧ o.streamID = v
  | .pull => ∃ d pull, s.pulls.get d = some pull ∧ pull.streamID = v
  | .credential => (∃ e, s.prepared.get v = some e) ∨
      (∃ d row, s.pushDevices.get d = some row ∧ row.credential = v) ∨ ∃ p ∈ s.publications, p.1 = v
  | .ticket => ∃ p ∈ s.tickets, p.1 = v

inductive UsesChange (s t : Server) : Prop where
  | kept (uses : ∀ v u, Uses t v u → Uses s v u)
  | fresh (v : String) (u : Use) (unused : v ∉ s.drawn) (drawn : v ∈ t.drawn)
      (uses : ∀ w k, Uses t w k → Uses s w k ∨ (w = v ∧ k = u))

structure Apart (s : Server) : Prop where
  drawn : ∀ v u, Uses s v u → v ∈ s.drawn
  apart : ∀ v u k, Uses s v u → Uses s v k → u = k

theorem Apart.next {s t : Server} (apart : Apart s) (drawn : s.drawn ⊆ t.drawn)
    (change : UsesChange s t) : Apart t := by
  cases change with
  | kept uses =>
    constructor
    · exact fun v u used => drawn (apart.drawn v u (uses v u used))
    · exact fun v u k used used' => apart.apart v u k (uses v u used) (uses v k used')
  | fresh v u unused new uses =>
    constructor
    · intro w k used
      rcases uses w k used with old | ⟨same,_⟩
      · exact drawn (apart.drawn w k old)
      · rw [same]; exact new
    · intro w k k' used used'
      rcases uses w k used with old | ⟨same,kind⟩ <;> rcases uses w k' used' with old' | ⟨same',kind'⟩
      · exact apart.apart w k k' old old'
      · rw [same'] at old; exact absurd (apart.drawn v k old) unused
      · rw [same] at old'; exact absurd (apart.drawn v k' old') unused
      · rw [kind,kind']

section
variable {s t : Server}

theorem UsesChange.pulls (pulls : PullChange s t)
    (streams : ∀ x o, t.heap x = some o → ∃ p, s.heap x = some p ∧ p.streamID = o.streamID)
    (credentials : ∀ v, Uses t v .credential → Uses s v .credential)
    (tickets : t.tickets = s.tickets) : UsesChange s t := by
  have others (v : String) (u : Use) (used : Uses t v u) (other : u ≠ .pull) : Uses s v u := by
    cases u with
    | session =>
      obtain ⟨x,o,here,same⟩ := used
      obtain ⟨p,before,stream⟩ := streams x o here
      exact ⟨x,p,before,stream.trans same⟩
    | pull => exact absurd rfl other
    | credential => exact credentials v used
    | ticket => unfold Uses at *; rw [← tickets]; exact used
  cases pulls with
  | kept pulls =>
    refine .kept fun v u used => ?_
    cases u with
    | pull =>
      obtain ⟨d,pull,here,same⟩ := used
      exact ⟨d,pull,pulls d pull here,same⟩
    | _ => exact others v _ used nofun
  | reserved d streamID unused drawn absent pulls =>
    refine .fresh streamID .pull unused drawn fun v u used => ?_
    cases u with
    | pull =>
      obtain ⟨d',pull,here,same⟩ := used
      rw [pulls,Table.getSet] at here
      split at here
      · cases Option.some.inj here; exact .inr ⟨same.symm,rfl⟩
      · exact .inl ⟨d',pull,here,same⟩
    | _ => exact .inl (others v _ used nofun)
  | confirmed d streamID here pulls =>
    refine .kept fun v u used => ?_
    cases u with
    | pull =>
      obtain ⟨d',pull,found,same⟩ := used
      rw [pulls,Table.getSet] at found
      split at found
      · cases Option.some.inj found; exact ⟨d,_,here,same⟩
      · exact ⟨d',pull,found,same⟩
    | _ => exact others v _ used nofun

theorem pushUses (prepared : ∀ v e, t.prepared.get v = some e → s.prepared.get v = some e)
    (rows : ∀ d row, t.pushDevices.get d = some row → ∃ old, s.pushDevices.get d = some old ∧
      row.credential = old.credential)
    (publications : t.publications = s.publications) (v : String) (used : Uses t v .credential) :
    Uses s v .credential := by
  rcases used with ⟨e,ready⟩ | ⟨d,row,here,same⟩ | published
  · exact .inl ⟨e,prepared v e ready⟩
  · obtain ⟨old,before,alike⟩ := rows d row here
    exact .inr (.inl ⟨d,old,before,alike.symm.trans same⟩)
  · rw [publications] at published; exact .inr (.inr published)

theorem SameSources.uses (same : SameSources s t) (v : String) (used : Uses t v .credential) :
    Uses s v .credential := by
  refine pushUses ?_ ?_ same.publications v used
  · intro v e ready; rw [← same.prepared]; exact ready
  · intro d row here; rw [same.pushDevices] at here; exact ⟨row,here,rfl⟩

theorem updatedStreams {x : Sid} {o p : Session} (here : s.heap x = some o)
    (same : p.streamID = o.streamID) (y : Sid) (q : Session)
    (now : Function.update s.heap x (some p) y = some q) :
    ∃ q', s.heap y = some q' ∧ q'.streamID = q.streamID := by
  by_cases self : y = x
  · subst self
    rw [Function.update_self] at now
    cases Option.some.inj now
    exact ⟨o,here,same.symm⟩
  · rw [Function.update_of_ne self] at now
    exact ⟨q,now,rfl⟩

theorem UsesChange.issues {value : String} {token : StreamToken} (unused : value ∉ s.drawn)
    (drawn : value ∈ t.drawn) (sources : SameSources s t)
    (streams : ∀ x o, t.heap x = some o → ∃ p, s.heap x = some p ∧ p.streamID = o.streamID)
    (tickets : t.tickets = s.tickets ++ [(value,token)]) : UsesChange s t := by
  refine .fresh value .ticket unused drawn fun v u used => ?_
  cases u with
  | session =>
    obtain ⟨x,o,here,same⟩ := used
    obtain ⟨p,before,stream⟩ := streams x o here
    exact .inl ⟨x,p,before,stream.trans same⟩
  | pull =>
    obtain ⟨d,pull,here,same⟩ := used
    rw [sources.pulls] at here
    exact .inl ⟨d,pull,here,same⟩
  | credential => exact .inl (sources.uses v used)
  | ticket =>
    obtain ⟨p,mem,same⟩ := used
    rw [tickets] at mem
    rcases List.mem_append.mp mem with old | new
    · exact .inl ⟨p,old,same⟩
    · rw [List.mem_singleton.mp new] at same
      exact .inr ⟨same.symm,rfl⟩

inductive ActEffect (s t : Server) (o : Session) : Act → Prop where
  | none (tokens : t.tokens = s.tokens) (opened : t.opened = s.opened) (tickets : t.tickets = s.tickets) :
      ActEffect s t o .none
  | revoke (tokens : t.tokens = (s.revokeStream o.streamID).tokens) (opened : t.opened = s.opened)
      (tickets : t.tickets = s.tickets) : ActEffect s t o .revoke
  | issue (value : String) (unused : value ∉ s.drawn) (drawn : value ∈ t.drawn)
      (tokens : t.tokens = s.tokens.set value ⟨o.streamID,s.now + s.tokenTTL⟩)
      (opened : t.opened = s.opened)
      (tickets : t.tickets = s.tickets ++ [(value,⟨o.streamID,s.now + s.tokenTTL⟩)]) :
      ActEffect s t o (.issue value)
  | create (made : Bool) (tokens : t.tokens = s.tokens) (opened : t.opened = o.streamID :: s.opened)
      (tickets : t.tickets = s.tickets) : ActEffect s t o (.create made)
  | delete (gone : Bool) (tokens : t.tokens = s.tokens) (opened : t.opened = s.opened)
      (tickets : t.tickets = s.tickets) : ActEffect s t o (.delete gone)
  | remove (tokens : t.tokens = (s.revokeStream o.streamID).tokens) (opened : t.opened = s.opened)
      (tickets : t.tickets = s.tickets) : ActEffect s t o .remove

theorem actEffect {x : Sid} {o : Session} {act : Act} (ok : (s.put x o).act o act = some t) :
    ActEffect s t o act ∧ t.plays = s.plays := by
  cases act with
  | issue value =>
    obtain ⟨unused,same⟩ := issueSpec ok
    subst same
    refine ⟨.issue value unused (List.mem_cons_self ..) rfl rfl ?_,?_⟩
    · simp [Server.tickets,Server.put,Event.ticket]
    · simp [Server.plays,Server.put,Event.play]
  | none => cases Option.some.inj ok; exact ⟨.none rfl rfl rfl,rfl⟩
  | revoke => cases Option.some.inj ok; exact ⟨.revoke rfl rfl rfl,rfl⟩
  | create made => cases Option.some.inj ok; exact ⟨.create made rfl rfl rfl,rfl⟩
  | delete gone => cases Option.some.inj ok; exact ⟨.delete gone rfl rfl rfl,rfl⟩
  | remove => cases Option.some.inj ok; exact ⟨.remove rfl rfl rfl,rfl⟩

theorem turnUses {x : Sid} {f : SessionFrame} {r : Reply} {out : SessionOutcome}
    (ran : s.sessionTurn x f r = some out) : UsesChange s out.server := by
  have sources := turnSources ran
  obtain ⟨o,e,here,move,_,_,acts⟩ := turnSpec ran
  obtain ⟨heap,_⟩ := Rooted.acted move acts
  have streams := updatedStreams (s := s) here move.identity.2.1
  rw [← heap] at streams
  have plain (tickets : out.server.tickets = s.tickets) : UsesChange s out.server :=
    .pulls (.still sources.pulls) streams sources.uses tickets
  generalize out.server = t at *
  obtain ⟨effect,_⟩ := actEffect acts
  generalize e.act = act at effect
  cases effect with
  | issue value unused drawn _ _ tickets => exact .issues unused drawn sources streams tickets
  | none _ _ tickets | revoke _ _ tickets | create _ _ _ tickets | delete _ _ _ tickets
  | remove _ _ tickets => exact plain tickets

theorem sourceKept {sourceID : String} {stage : SourceStage} {r : Reply} {out : Outcome}
    (ok : sourceExec s sourceID r stage = some out) :
    out.shared = {s with pulls := out.shared.pulls, sourceBusy := out.shared.sourceBusy
                         tokens := out.shared.tokens, receivers := out.shared.receivers
                         opened := out.shared.opened, drawn := out.shared.drawn} := by
  cases stage with
  | reserve streamID =>
    simp only [sourceExec] at ok
    split at ok
    · cases Option.some.inj ok; rfl
    · split at ok <;> try contradiction
      cases Option.some.inj ok; rfl
  | drop | take =>
    simp only [sourceExec] at ok
    split at ok <;> cases Option.some.inj ok <;> rfl
  | _ => cases Option.some.inj ok; rfl

theorem dropPullKept (p : Pass) (sourceID : String) (pull : Pull) :
    (s.dropEndedPull p sourceID pull) =
      {s with pulls := (s.dropEndedPull p sourceID pull).pulls
              tokens := (s.dropEndedPull p sourceID pull).tokens
              log := (s.dropEndedPull p sourceID pull).log} ∧
    SameTokenLog s (s.dropEndedPull p sourceID pull) := by
  unfold Server.dropEndedPull
  split
  · split
    · exact ⟨rfl,.refl rfl⟩
    · refine ⟨rfl,?_,?_,?_⟩
      · simp [Server.publications,Server.record,Server.dropPull,Server.revokeStream,Event.publication]
      · simp [Server.tickets,Server.record,Server.dropPull,Server.revokeStream,Event.ticket]
      · simp [Server.plays,Server.record,Server.dropPull,Server.revokeStream,Event.play]
  · exact ⟨rfl,.refl rfl⟩

theorem UsesChange.quiet (pulls : t.pulls = s.pulls)
    (streams : ∀ x o, t.heap x = some o → ∃ p, s.heap x = some p ∧ p.streamID = o.streamID)
    (prepared : ∀ v e, t.prepared.get v = some e → s.prepared.get v = some e)
    (rows : ∀ d row, t.pushDevices.get d = some row → ∃ old, s.pushDevices.get d = some old ∧
      row.credential = old.credential)
    (publications : t.publications = s.publications) (tickets : t.tickets = s.tickets) :
    UsesChange s t :=
  .pulls (.still pulls) streams (pushUses prepared rows publications) tickets

theorem UsesChange.credential {value : String} (unused : value ∉ s.drawn) (drawn : value ∈ t.drawn)
    (heap : t.heap = s.heap) (pulls : t.pulls = s.pulls) (log : t.log = s.log)
    (prepared : ∀ v e, t.prepared.get v = some e → v = value ∨ s.prepared.get v = some e)
    (rows : ∀ d row, t.pushDevices.get d = some row → row.credential = value ∨
      s.pushDevices.get d = some row) : UsesChange s t := by
  refine .fresh value .credential unused drawn fun v u used => ?_
  cases u with
  | session => unfold Uses at *; rw [heap] at used; exact .inl used
  | pull => unfold Uses at *; rw [pulls] at used; exact .inl used
  | ticket => unfold Uses Server.tickets at *; rw [log] at used; exact .inl used
  | credential =>
    rcases used with ⟨e,ready⟩ | ⟨d,row,here,same⟩ | published
    · rcases prepared v e ready with self | old
      · exact .inr ⟨self,rfl⟩
      · exact .inl (.inl ⟨e,old⟩)
    · rcases rows d row here with self | old
      · exact .inr ⟨same.symm.trans self,rfl⟩
      · exact .inl (.inr (.inl ⟨d,row,old,same⟩))
    · unfold Server.publications at published
      rw [log] at published
      exact .inl (.inr (.inr published))

theorem tokenUses {out : Outcome} (effect : TokenEffect s out) : UsesChange s out.shared := by
  have streams (x : Sid) (o : Session) (here : s.heap x = some o) :
      ∃ p, s.heap x = some p ∧ p.streamID = o.streamID := ⟨o,here,rfl⟩
  have rows (d : String) (row : PushDevice) (here : s.pushDevices.get d = some row) :
      ∃ old, s.pushDevices.get d = some old ∧ row.credential = old.credential := ⟨row,here,rfl⟩
  cases effect with
  | idle | entered => exact .quiet rfl streams (fun _ _ here => here) rows rfl rfl
  | expired => exact .quiet rfl streams (fun _ _ here => expiredPrepared here) rows rfl rfl
  | issued value streamID named running unused =>
    exact .issues unused (List.mem_cons_self ..)
      ⟨rfl,rfl,rfl,rfl,rfl,(publicationsMore rfl).trans (List.append_nil _),id,fun _ mem => .inl mem⟩
      streams (ticketsMore (s := s) (e := .issued value ⟨streamID,s.now + s.tokenTTL⟩) rfl)
  | claimed value token x o here early found =>
    exact .quiet rfl (updatedStreams found rfl) (fun _ _ here => here) rows
      ((publicationsMore rfl).trans (List.append_nil _)) ((ticketsMore rfl).trans (List.append_nil _))
  | played =>
    exact .quiet rfl streams (fun _ _ here => here) rows
      ((publicationsMore rfl).trans (List.append_nil _)) ((ticketsMore rfl).trans (List.append_nil _))
  | published d row here =>
    refine .pulls (.still rfl) streams ?_ ((ticketsMore rfl).trans (List.append_nil _))
    intro v used
    rcases used with ready | ⟨d',new,found,same⟩ | ⟨p,mem,same⟩
    · exact .inl ready
    · rw [Table.getSet] at found
      split at found
      · cases Option.some.inj found; exact .inr (.inl ⟨d,row,here,same⟩)
      · exact .inr (.inl ⟨d',new,found,same⟩)
    · rw [publicationsMore (s := s) rfl] at mem
      rcases List.mem_append.mp mem with old | new
      · exact .inr (.inr ⟨p,old,same⟩)
      · rw [List.mem_singleton.mp new] at same
        exact .inr (.inl ⟨d,row,here,same⟩)
  | prepared value unused =>
    refine .credential unused (List.mem_cons_self ..) rfl rfl rfl ?_ (fun _ _ here => .inr here)
    intro v e ready
    rw [Table.getSet] at ready
    split at ready
    · rename_i self; exact .inl self
    · exact .inr (expiredPrepared ready)
  | created d row unused ready =>
    obtain ⟨e,ready⟩ := ready
    refine .pulls (.still rfl) streams ?_ rfl
    intro v used
    rcases used with ⟨e',left⟩ | ⟨d',new,found,same⟩ | published
    · rw [Table.getDelete] at left
      split at left <;> try contradiction
      exact .inl ⟨e',expiredPrepared left⟩
    · rw [Table.getSet] at found
      split at found
      · cases Option.some.inj found
        rw [same] at ready
        exact .inl ⟨e,expiredPrepared ready⟩
      · exact .inr (.inl ⟨d',new,found,same⟩)
    · exact .inr (.inr published)
  | patched d row name protocol here =>
    refine .quiet rfl streams (fun _ _ here => here) ?_ rfl rfl
    intro d' new found
    rw [Table.getSet] at found
    split at found
    · rename_i self
      cases Option.some.inj found
      exact ⟨row,by rw [self]; exact here,rfl⟩
    · exact ⟨new,found,rfl⟩
  | renewed d value row deadline idle here unused =>
    refine .credential unused (List.mem_cons_self ..) rfl rfl rfl (fun _ _ here => .inr here) ?_
    intro d' new found
    rw [Table.getSet] at found
    split at found
    · cases Option.some.inj found; exact .inl rfl
    · exact .inr found
  | removed rows fewer =>
    exact .quiet rfl streams (fun _ _ here => here) (fun d row here => ⟨row,fewer d row here,rfl⟩) rfl rfl
  | stopped rows d run fewer =>
    exact .quiet rfl streams (fun _ _ here => here) (fun d row here => ⟨row,fewer d row here,rfl⟩) rfl rfl

theorem bornUses (x : Sid) (o : Session) (ssrcs : Ssrc.Allocator) (kind : Admission)
    (unused : o.streamID ∉ s.drawn) : UsesChange s (s.addSession x o ssrcs kind) := by
  have sources := bornSources (s := s) x o ssrcs kind
  refine .fresh o.streamID .session unused (List.mem_cons_self ..) fun v u used => ?_
  cases u with
  | session =>
    obtain ⟨y,p,here,same⟩ := used
    simp only [Server.addSession] at here
    by_cases self : y = x
    · rw [self,Function.update_self] at here
      cases Option.some.inj here
      exact .inr ⟨same.symm,rfl⟩
    · rw [Function.update_of_ne self] at here
      exact .inl ⟨y,p,here,same⟩
  | pull => exact .inl used
  | credential => exact .inl (sources.uses v used)
  | ticket =>
    unfold Uses at *
    rw [ticketsMore (s := s) rfl] at used
    exact .inl (by simpa [Event.ticket] using used)

theorem usesChange {frame : Option Frame} {out : Outcome} (pulls : PullChange s out.shared)
    (change : StockChange s frame out) : UsesChange s out.shared := by
  cases change with
  | turn x f r ran run shared => rw [shared]; exact turnUses ran
  | born x o fresh unused new shared => rw [shared]; exact bornUses x o _ _ unused
  | same same =>
    refine .pulls pulls ?_ same.uses same.tickets
    intro x o here
    obtain ⟨p,before,card⟩ := same.card here
    exact ⟨p,before,card.2.1⟩
  | call effect =>
    have change := tokenUses effect
    exact change
  | source sourceID stage r ok =>
    have kept := sourceKept ok
    refine .pulls pulls ?_ ?_ ?_
    · rw [kept]; exact fun _ o here => ⟨o,here,rfl⟩
    · rw [kept]; exact fun _ used => used
    · rw [kept]; rfl
  | closed => exact .pulls pulls (fun _ o here => ⟨o,here,rfl⟩) (fun _ used => used) rfl
  | pull p e rest =>
    obtain ⟨kept,log⟩ := dropPullKept (s := s) p e.1 e.2
    refine .pulls pulls ?_ (pushUses ?_ ?_ log.publications) log.tickets <;> rw [kept]
    · exact fun _ o here => ⟨o,here,rfl⟩
    · exact fun _ _ here => here
    · exact fun _ row here => ⟨row,here,rfl⟩
  | pushes p =>
    have dropped := dropPushesDropped p p.pushes s
    have log := passLog (dropPushesOnly p p.pushes s)
    refine .pulls pulls ?_ (pushUses ?_ ?_ log.publications) log.tickets <;> rw [dropped.same]
    · exact fun _ o here => ⟨o,here,rfl⟩
    · exact fun _ _ here => here
    · exact fun _ row here => ⟨row,here,rfl⟩

end

theorem apartBoot {s : State} (boot : Boot s) : Apart s.shared := by
  have onlyRows (v : String) (u : Use) (used : Uses s.shared v u) :
      u = .credential ∧ ∃ d row, s.shared.pushDevices.get d = some row ∧ row.credential = v := by
    cases u with
    | session => obtain ⟨x,o,here,_⟩ := used; rw [boot.heap] at here; cases here
    | pull => obtain ⟨d,pull,here,_⟩ := used; rw [boot.pulls] at here; cases here
    | ticket => obtain ⟨p,mem,_⟩ := used; unfold Server.tickets at mem; rw [boot.log] at mem; cases mem
    | credential =>
      rcases used with ⟨e,ready⟩ | row | ⟨p,mem,_⟩
      · rw [boot.prepared] at ready; cases ready
      · exact ⟨rfl,row⟩
      · unfold Server.publications at mem; rw [boot.log] at mem; cases mem
  constructor
  · intro v u used
    obtain ⟨_,d,row,here,same⟩ := onlyRows v u used
    rw [← same]
    exact (boot.devicesDrawn d row here).2
  · intro v u k used used'
    rw [(onlyRows v u used).1,(onlyRows v k used').1]

theorem apartStep {s t : State} {a : Action} (reached : Reached s) (apart : Apart s.shared)
    (ok : step s a = some t) : Apart t.shared := by
  have rooted := reachedRooted reached
  have sourced := reachedSourced reached
  obtain ⟨out,ran,same,turn⟩ := stepSection ok
  rw [same]
  have stock := sectionStock ran
  exact apart.next (changeDrawn (sectionChange rooted.keyed ran))
    (usesChange (pullChange sourced stock turn).1 stock)

theorem reachedApart {s : State} (reached : Reached s) : Apart s.shared := by
  induction reached with
  | start boot => exact apartBoot boot
  | next before ok ih => exact apartStep before ih ok

end MediaServer.Signaling
