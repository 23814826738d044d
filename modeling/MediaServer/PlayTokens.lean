import MediaServer.SessionLifecycle
import MediaServer.StreamIds

/-! stream_token.go: play tokens. A token in the table names a stream that somebody owns, it
was issued for that stream, and it is gone once it has been used. -/
namespace MediaServer.Signaling

def Owned (s : Server) (id : String) : Prop :=
  (∃ x o, Stored s x o ∧ o.streamID = id) ∨
    (∃ d pull, s.pulls.get d = some pull ∧ pull.streamID = id) ∨
    ∃ d run, s.pushRuns.get d = some run ∧ run.streamID = id

inductive Running (s : Server) (id : String) : Prop where
  | live (x : Sid) (o : Session) (stored : Stored s x o) (same : o.streamID = id)
      (live : o.history = false) (state : o.state = .streaming)
      (free : s.stoppingDevices o.key.deviceID = false)
  | pull (d : String) (pull : Pull) (here : s.pulls.get d = some pull) (same : pull.streamID = id)
      (confirmed : pull.starting = false)
  | push (d : String) (run : PushRun) (here : s.pushRuns.get d = some run) (same : run.streamID = id)

inductive Playable (s : Server) (id : String) : Prop where
  | runs (run : Running s id)
  | history (x : Sid) (o : Session) (stored : Stored s x o) (same : o.streamID = id)
      (history : o.history = true) (state : o.state = .preparing) (context : o.ctxErr = false)
      (free : s.stoppingDevices o.key.deviceID = false)

section
variable {s t : Server}

variable {x : Sid} {id v : String} {token : StreamToken} {out : Outcome} {tasks : List (List Frame)}
  {frame : Option Frame}

variable {o : Session} {r : Reply} {f : SessionFrame} {tasks' : List (List Frame)} {d : String}

theorem storedOf (keyed : Keyed s) {key : LiveKey} (held : s.sessions.get key = some x)
    (here : s.heap x = some o) : Stored s x o := by
  obtain ⟨p,found,same⟩ := keyed key x held
  cases Option.some.inj (here.symm.trans found)
  exact ⟨here,by unfold Server.current; rw [same,held]; exact beq_self_eq_true _⟩

theorem streamRuns (keyed : Keyed s) (running : s.streamRunning id = true) : Running s id := by
  unfold Server.streamRunning at running
  split at running
  · rename_i x found
    obtain ⟨key,o,held,here,fits⟩ := foundSome found
    obtain ⟨p,known,free⟩ := (Option.any_eq_true ..).mp running
    cases Option.some.inj (here.symm.trans known)
    simp only [Bool.and_eq_true,beq_iff_eq,Bool.not_eq_true'] at fits free
    exact .live x o (storedOf keyed held here) fits.1.1 fits.1.2 fits.2 free
  · simp only [Bool.or_eq_true,List.any_eq_true,Bool.and_eq_true,beq_iff_eq,Bool.not_eq_true'] at running
    rcases running with ⟨⟨d,pull⟩,mem,same,confirmed⟩ | ⟨⟨d,run⟩,mem,same⟩
    · exact .pull d pull (Table.memEntries.mp mem) same confirmed
    · exact .push d run (Table.memEntries.mp mem) same

theorem Running.owned (run : Running s id) : Owned s id := by
  cases run with
  | live x o stored same => exact .inl ⟨x,o,stored,same⟩
  | pull d pull here same => exact .inr (.inl ⟨d,pull,here,same⟩)
  | push d run here same => exact .inr (.inr ⟨d,run,here,same⟩)

inductive LedgerChange (s t : Server) : Prop where
  | shrunk (tokens : ∀ v token, t.tokens.get v = some token → s.tokens.get v = some token)
      (tickets : t.tickets = s.tickets) (plays : t.plays = s.plays)
  | issues (v : String) (token : StreamToken) (unused : v ∉ s.drawn) (named : token.streamID ≠ "")
      (owned : Owned s token.streamID) (tokens : t.tokens = s.tokens.set v token)
      (tickets : t.tickets = s.tickets ++ [(v,token)]) (plays : t.plays = s.plays)
  | uses (v : String) (token : StreamToken) (here : s.tokens.get v = some token)
      (early : s.now < token.expiresAt) (playable : Playable s token.streamID)
      (tokens : t.tokens = s.tokens.delete v) (tickets : t.tickets = s.tickets)
      (plays : t.plays = s.plays ++ [(v,token.streamID,s.now)])

theorem LedgerChange.same (tokens : t.tokens = s.tokens) (log : t.log = s.log) : LedgerChange s t := by
  refine .shrunk (fun _ _ here => by rw [← tokens]; exact here) ?_ ?_
  · unfold Server.tickets; rw [log]
  · unfold Server.plays; rw [log]

theorem revokedFewer (tokens : t.tokens = (s.revokeStream id).tokens) (v : String)
    (token : StreamToken) (here : t.tokens.get v = some token) : s.tokens.get v = some token := by
  rw [tokens] at here
  exact (revoked here).1

theorem expiredFewer (here : s.expireTokens.tokens.get v = some token) :
    s.tokens.get v = some token := by
  simp only [Server.expireTokens,Table.getDeleteFunc] at here
  exact (Option.filter_eq_some_iff.mp here).1

theorem sourceFewer {sourceID : String} {stage : SourceStage}
    (ok : sourceExec s sourceID r stage = some out) (v : String) (token : StreamToken)
    (here : out.shared.tokens.get v = some token) : s.tokens.get v = some token := by
  cases stage with
  | reserve streamID =>
    simp only [sourceExec] at ok
    split at ok
    · cases Option.some.inj ok; exact here
    · split at ok <;> try contradiction
      cases Option.some.inj ok; exact here
  | drop | take =>
    simp only [sourceExec] at ok
    split at ok <;> cases Option.some.inj ok
    · exact here
    · exact (revoked here).1
  | _ => cases Option.some.inj ok; exact here

theorem dropPullFewer (p : Pass) (sourceID : String) (pull : Pull) (v : String) (token : StreamToken)
    (here : (s.dropEndedPull p sourceID pull).tokens.get v = some token) :
    s.tokens.get v = some token := by
  unfold Server.dropEndedPull at here
  split at here
  · split at here
    · exact here
    · exact (revoked here).1
  · exact here

theorem turnMem (turn : Pool.Turn (some (.session x f)) out tasks tasks') :
    f ∈ Pool.view (about x) tasks := by
  obtain ⟨a,b,before,_⟩ := turn.view (about x)
  rw [before]
  simp

theorem historyID (rooted : Rooted s tasks) (here : s.heap x = some o) (history : o.history = true) :
    o.key.historyID = o.streamID ∧ o.streamID ≠ "" := by
  have named : o.key.historyID ≠ "" := by simpa [Session.history] using history
  have same := (rooted.drawn x o here).2.resolve_left named
  exact ⟨same,by rw [← same]; exact named⟩

theorem tokenLedger (rooted : Rooted s tasks)
    (named : ∀ v token, s.tokens.get v = some token → token.streamID ≠ "")
    (effect : TokenEffect s out) : LedgerChange s out.shared := by
  cases effect with
  | issued value streamID name running unused =>
    exact .issues value ⟨streamID,_⟩ unused name (streamRuns rooted.keyed running).owned rfl
      (ticketsMore (s := s) (e := .issued value ⟨streamID,s.now + s.tokenTTL⟩) rfl)
      ((playsMore rfl).trans (List.append_nil _))
  | claimed value token x o here early found stored own free state context =>
    obtain ⟨key,held⟩ := stored
    have history : o.history = true := by
      have name := named value token here
      rw [← own] at name
      simpa [Session.history] using name
    have same := (historyID rooted found history).1.symm.trans own
    exact .uses value token here early
      (.history x o (storedOf rooted.keyed held found) same history state context free) rfl
      ((ticketsMore rfl).trans (List.append_nil _))
      (playsMore (s := s) (e := .played value token.streamID s.now) rfl)
  | played value token here early running =>
    exact .uses value token here early (.runs (streamRuns rooted.keyed running)) rfl
      ((ticketsMore rfl).trans (List.append_nil _))
      (playsMore (s := s) (e := .played value token.streamID s.now) rfl)
  | published =>
    exact .shrunk (fun _ _ here => here) ((ticketsMore rfl).trans (List.append_nil _))
      ((playsMore rfl).trans (List.append_nil _))
  | expired | prepared | created => exact .shrunk (fun _ _ here => expiredFewer here) rfl rfl
  | stopped rows d run =>
    exact .shrunk (fun _ _ here => (revoked (s := {s with pushDevices := rows}) here).1) rfl rfl
  | _ => exact .same rfl rfl

theorem turnLedger (rooted : Rooted s tasks) {turned : SessionOutcome}
    (ran : s.sessionTurn x f r = some turned)
    (pending : f ∈ Pool.view (about x) tasks ∨ f = .stop false) : LedgerChange s turned.server := by
  obtain ⟨o,e,here,move,_,_,acts⟩ := turnSpec ran
  obtain ⟨_,stream,_⟩ := move.identity
  have ticketing := move.ticketing
  generalize turned.server = t at acts
  obtain ⟨effect,plays⟩ := actEffect acts
  generalize e.act = act at effect ticketing
  cases effect with
  | issue value unused drawn tokens opened tickets =>
    rcases ticketing with ⟨_,other⟩ | ⟨_,history,⟨port,frame⟩,_⟩
    · exact absurd rfl (other value)
    · have mem := pending.resolve_right (by rw [frame]; nofun)
      have stored := (rooted.good x o here).alive mem (by rw [frame]; rfl)
      refine .issues value _ unused ?_ (.inl ⟨x,o,⟨here,stored.1⟩,stream.symm⟩) tokens tickets plays
      rw [stream]
      exact (historyID rooted here history).2
  | none tokens _ tickets | create _ tokens _ tickets | delete _ tokens _ tickets =>
    exact .shrunk (fun _ _ here => by rw [← tokens]; exact here) tickets plays
  | revoke tokens _ tickets | remove tokens _ tickets =>
    exact .shrunk (revokedFewer tokens) tickets plays

theorem ledgerChange (rooted : Rooted s tasks)
    (named : ∀ v token, s.tokens.get v = some token → token.streamID ≠ "")
    (change : StockChange s frame out) (turn : Pool.Turn frame out tasks tasks') :
    LedgerChange s out.shared := by
  cases change with
  | turn x f r ran run shared =>
    rw [shared]
    refine turnLedger rooted ran ?_
    rcases run with run | stop
    · rw [run] at turn
      exact .inl (turnMem turn)
    · exact .inr stop
  | born x o fresh unused new shared =>
    rw [shared]
    exact .shrunk (fun _ _ here => here) ((ticketsMore rfl).trans (List.append_nil _))
      ((playsMore rfl).trans (List.append_nil _))
  | same same => exact .shrunk same.tokens same.tickets same.plays
  | call effect =>
    have change := tokenLedger rooted named effect
    exact change
  | source sourceID stage r ok =>
    have log : out.shared.log = s.log := by rw [sourceKept ok]
    refine .shrunk (sourceFewer ok) ?_ ?_
    · unfold Server.tickets; rw [log]
    · unfold Server.plays; rw [log]
  | closed => exact .same rfl rfl
  | pull p e rest =>
    have log := (dropPullKept (s := s) p e.1 e.2).2
    exact .shrunk (dropPullFewer p e.1 e.2) log.tickets log.plays
  | pushes p =>
    have dropped := dropPushesDropped p p.pushes s
    have log := passLog (dropPushesOnly p p.pushes s)
    exact .shrunk (fun v token here => (dropped.tokens v token here).1) log.tickets log.plays

theorem pullsCovered (change : StockChange s frame out)
    (left : out.shared.tokens.get v = some token) {pull : Pull} (here : s.pulls.get d = some pull)
    (same : pull.streamID = token.streamID) :
    ∃ d pull, out.shared.pulls.get d = some pull ∧ pull.streamID = token.streamID := by
  have still (pulls : out.shared.pulls = s.pulls) :
      ∃ d pull, out.shared.pulls.get d = some pull ∧ pull.streamID = token.streamID :=
    ⟨d,pull,by rw [pulls]; exact here,same⟩
  have dropped {t : Server} {gone : String} {old : Pull} (found : s.pulls.get gone = some old)
      (pulls : t.pulls = s.pulls.delete gone) (other : token.streamID ≠ old.streamID) :
      ∃ d pull, t.pulls.get d = some pull ∧ pull.streamID = token.streamID := by
    refine ⟨d,pull,?_,same⟩
    rw [pulls,Table.getDelete]
    split
    · rename_i self
      rw [self,found] at here
      cases Option.some.inj here
      exact absurd same.symm other
    · exact here
  cases change with
  | turn x f r ran run shared => exact still (by rw [shared]; exact (turnSources ran).pulls)
  | born x o fresh unused new shared => exact still (by rw [shared]; rfl)
  | same same => exact still same.pulls
  | call effect => cases effect <;> exact still rfl
  | source sourceID stage r ok =>
    cases stage with
    | reserve streamID =>
      simp only [sourceExec] at ok
      split at ok
      · cases Option.some.inj ok; exact still rfl
      · rename_i absent
        split at ok <;> try contradiction
        cases Option.some.inj ok
        refine ⟨d,pull,?_,same⟩
        rw [Table.getSet]
        split
        · rename_i self
          rw [self,absent] at here
          cases here
        · exact here
    | finish =>
      simp only [sourceExec] at ok
      cases Option.some.inj ok
      by_cases self : d = sourceID
      · refine ⟨d,{pull with starting := false},?_,same⟩
        simp only [Server.leaveSource,Table.getSet]
        rw [if_pos self,← self,here,Option.getD_some]
      · refine ⟨d,pull,?_,same⟩
        simp only [Server.leaveSource,Table.getSet]
        rw [if_neg self]
        exact here
    | drop | take =>
      simp only [sourceExec] at ok
      split at ok
      · cases Option.some.inj ok; exact still rfl
      · rename_i old found
        cases Option.some.inj ok
        exact dropped found rfl (revoked left).2
    | create | delete => cases Option.some.inj ok; exact still rfl
  | closed => exact still rfl
  | pull p e rest =>
    simp only [Server.dropEndedPull] at left ⊢
    split at left
    · rename_i old found
      split at left
      · rename_i keep
        rw [if_pos keep]
        exact ⟨d,pull,here,same⟩
      · rename_i drop
        rw [if_neg drop]
        exact dropped found rfl (revoked left).2
    · exact ⟨d,pull,here,same⟩
  | pushes p => exact still (by rw [(dropPushesDropped p p.pushes s).same])

theorem runsCovered (good : PushGood s) (change : StockChange s frame out)
    (left : out.shared.tokens.get v = some token) {run : PushRun}
    (here : s.pushRuns.get d = some run) (same : run.streamID = token.streamID) :
    out.shared.pushRuns.get d = some run := by
  have still (runs : out.shared.pushRuns = s.pushRuns) : out.shared.pushRuns.get d = some run := by
    rw [runs]; exact here
  cases change with
  | turn x f r ran run shared => exact still (by rw [shared]; exact (turnSources ran).pushRuns)
  | born x o fresh unused new shared => exact still (by rw [shared]; rfl)
  | same same => exact still same.pushRuns
  | call effect =>
    cases effect with
    | published e row found unused =>
      simp only [Table.getSet]
      split
      · rename_i self
        rw [self,good.idle found unused] at here
        cases here
      · exact here
    | stopped rows e old fewer found =>
      have other := (revoked (s := {s with pushDevices := rows}) left).2
      simp only [Server.dropPush,Table.getDelete]
      split
      · rename_i self
        rw [self,found] at here
        cases Option.some.inj here
        exact absurd same.symm other
      · exact here
    | _ => exact still rfl
  | source sourceID stage r ok => exact still (by rw [sourceKept ok])
  | closed => exact still rfl
  | pull p e rest => exact still (by rw [(dropPullKept (s := s) p e.1 e.2).1])
  | pushes p => exact ((dropPushesDropped p p.pushes s).tokens v token left).2 d run here same

theorem ownedCovered (rooted : Rooted s tasks) (good : PushGood s)
    (sessions : SessionChange s frame out) (change : StockChange s frame out)
    (left : out.shared.tokens.get v = some token) (owned : Owned s token.streamID) :
    Owned out.shared token.streamID := by
  rcases owned with ⟨x,o,stored,same⟩ | ⟨d,pull,here,same⟩ | ⟨d,run,here,same⟩
  · left
    cases storedChange rooted sessions with
    | carried _ forth =>
      obtain ⟨p,kept,twin⟩ := forth x o stored
      exact ⟨x,p,kept,twin.streamID.trans same⟩
    | removed y p _ _ revokes _ forth =>
      have other : x ≠ y := by
        intro self
        subst self
        cases Option.some.inj (stored.here.symm.trans ‹Stored s x p›.here)
        exact revokes v token left same.symm
      exact ⟨x,o,forth x o other stored,same⟩
    | added _ _ _ _ _ _ _ _ forth => exact ⟨x,o,forth x o stored,same⟩
  · exact .inr (.inl (pullsCovered change left here same))
  · exact .inr (.inr ⟨d,run,runsCovered good change left here same,same⟩)

end

structure TokenGood (s : Server) : Prop where
  named : ∀ v token, s.tokens.get v = some token → token.streamID ≠ ""
  owned : ∀ v token, s.tokens.get v = some token → Owned s token.streamID
  issued : ∀ v token, s.tokens.get v = some token → (v,token) ∈ s.tickets
  once : (s.tickets.map Prod.fst).Nodup
  unplayed : ∀ v token, s.tokens.get v = some token → ∀ p ∈ s.plays, p.1 ≠ v
  playedOnce : (s.plays.map Prod.fst).Nodup
  played : ∀ p ∈ s.plays, ∃ token, (p.1,token) ∈ s.tickets ∧ token.streamID = p.2.1 ∧
    p.2.2 < token.expiresAt

variable {s : State} {t : Server} {v : String}

theorem TokenGood.next {s : Server} (good : TokenGood s) (apart : Apart s)
    (change : LedgerChange s t)
    (covered : ∀ v token, t.tokens.get v = some token → Owned s token.streamID →
      Owned t token.streamID) :
    TokenGood t := by
  have known (v : String) (token : StreamToken) (mem : (v,token) ∈ s.tickets) : v ∈ s.drawn :=
    apart.drawn v .ticket ⟨_,mem,rfl⟩
  cases change with
  | shrunk tokens tickets plays =>
    constructor
    case named => exact fun v token here => good.named v token (tokens v token here)
    case owned => exact fun v token here => covered v token here (good.owned v token (tokens v token here))
    case issued => rw [tickets]; exact fun v token here => good.issued v token (tokens v token here)
    case once => rw [tickets]; exact good.once
    case unplayed => rw [plays]; exact fun v token here => good.unplayed v token (tokens v token here)
    case playedOnce => rw [plays]; exact good.playedOnce
    case played => rw [plays,tickets]; exact good.played
  | issues v token unused named owned tokens tickets plays =>
    have split (w : String) (other : StreamToken) (here : t.tokens.get w = some other) :
        (w = v ∧ other = token) ∨ s.tokens.get w = some other := by
      rw [tokens,Table.getSet] at here
      split at here
      · rename_i same; exact .inl ⟨same,(Option.some.inj here).symm⟩
      · exact .inr here
    constructor
    case named =>
      intro w other here
      rcases split w other here with ⟨_,same⟩ | old
      · rw [same]; exact named
      · exact good.named w other old
    case owned =>
      intro w other here
      refine covered w other here ?_
      rcases split w other here with ⟨_,same⟩ | old
      · rw [same]; exact owned
      · exact good.owned w other old
    case issued =>
      intro w other here
      rw [tickets]
      rcases split w other here with ⟨self,same⟩ | old
      · rw [self,same]; simp
      · exact List.mem_append_left _ (good.issued w other old)
    case once =>
      rw [tickets,List.map_append,List.nodup_append]
      refine ⟨good.once,by simp,?_⟩
      intro w mem w' new same
      obtain ⟨p,inside,first⟩ := List.mem_map.mp mem
      simp only [List.map_cons,List.map_nil,List.mem_singleton] at new
      have old := known p.1 p.2 inside
      rw [first,same,new] at old
      exact unused old
    case unplayed =>
      intro w other here p mem
      rw [plays] at mem
      rcases split w other here with ⟨self,_⟩ | old
      · intro same
        obtain ⟨earlier,issued,_⟩ := good.played p mem
        have drawn := known p.1 earlier issued
        rw [same,self] at drawn
        exact unused drawn
      · exact good.unplayed w other old p mem
    case playedOnce => rw [plays]; exact good.playedOnce
    case played =>
      intro p mem
      rw [plays] at mem
      obtain ⟨earlier,issued,rest⟩ := good.played p mem
      exact ⟨earlier,by rw [tickets]; exact List.mem_append_left _ issued,rest⟩
  | uses v token here early playable tokens tickets plays =>
    have left (w : String) (other : StreamToken) (found : t.tokens.get w = some other) :
        w ≠ v ∧ s.tokens.get w = some other := by
      rw [tokens,Table.getDelete] at found
      split at found <;> try contradiction
      rename_i different
      exact ⟨different,found⟩
    constructor
    case named => exact fun w other found => good.named w other (left w other found).2
    case owned => exact fun w other found => covered w other found (good.owned w other (left w other found).2)
    case issued => rw [tickets]; exact fun w other found => good.issued w other (left w other found).2
    case once => rw [tickets]; exact good.once
    case unplayed =>
      intro w other found p mem
      rw [plays] at mem
      rcases List.mem_append.mp mem with old | new
      · exact good.unplayed w other (left w other found).2 p old
      · rw [List.mem_singleton.mp new]
        exact (left w other found).1.symm
    case playedOnce =>
      rw [plays,List.map_append,List.nodup_append]
      refine ⟨good.playedOnce,by simp,?_⟩
      intro w mem w' new same
      obtain ⟨p,inside,first⟩ := List.mem_map.mp mem
      simp only [List.map_cons,List.map_nil,List.mem_singleton] at new
      exact good.unplayed v token here p inside (first.trans (same.trans new))
    case played =>
      intro p mem
      rw [plays] at mem
      rw [tickets]
      rcases List.mem_append.mp mem with old | new
      · exact good.played p old
      · rw [List.mem_singleton.mp new]
        exact ⟨token,good.issued v token here,rfl,early⟩

structure Ticketed (s : Server) (o : Session) : Prop where
  none : o.tickets = 0 → o.claimed = 0 ∧
    ∀ v token, s.tokens.get v = some token → token.streamID ≠ o.streamID
  single : ∀ v w token token', s.tokens.get v = some token → s.tokens.get w = some token' →
    token.streamID = o.streamID → token'.streamID = o.streamID → v = w
  spent : 0 < o.claimed → ∀ v token, s.tokens.get v = some token → token.streamID ≠ o.streamID
  once : o.claimed ≤ 1

section
variable {s t : Server} {o p : Session}

theorem Ticketed.shrink (ticketed : Ticketed s o) (stream : p.streamID = o.streamID)
    (tickets : p.tickets = o.tickets) (claimed : p.claimed = o.claimed)
    (tokens : ∀ v token, t.tokens.get v = some token → token.streamID = o.streamID →
      s.tokens.get v = some token) : Ticketed t p where
  none zero := by
    rw [tickets] at zero
    obtain ⟨unclaimed,unnamed⟩ := ticketed.none zero
    rw [claimed,stream]
    exact ⟨unclaimed,fun v token here same => unnamed v token (tokens v token here same) same⟩
  single v w token token' here there first second := by
    rw [stream] at first second
    exact ticketed.single v w token token' (tokens v token here first) (tokens w token' there second)
      first second
  spent some v token here := by
    rw [claimed] at some
    rw [stream]
    exact fun same => ticketed.spent some v token (tokens v token here same) same
  once := by rw [claimed]; exact ticketed.once

variable {v : String} {token : StreamToken}

theorem Ticketed.issue (ticketed : Ticketed s o) (zero : o.tickets = 0)
    (stream : p.streamID = o.streamID) (tickets : p.tickets = o.tickets + 1)
    (claimed : p.claimed = o.claimed) (tokens : t.tokens = s.tokens.set v token) :
    Ticketed t p := by
  obtain ⟨unclaimed,unnamed⟩ := ticketed.none zero
  have only (w : String) (other : StreamToken) (here : t.tokens.get w = some other)
      (same : other.streamID = p.streamID) : w = v := by
    rw [tokens,Table.getSet] at here
    split at here
    · assumption
    · exact absurd (same.trans stream) (unnamed w other here)
  constructor
  · intro none; omega
  · intro w w' other other' here there first second
    rw [only w other here first,only w' other' there second]
  · intro some; omega
  · omega

theorem Ticketed.claim (ticketed : Ticketed s o) (here : s.tokens.get v = some token)
    (same : token.streamID = o.streamID) (stream : p.streamID = o.streamID)
    (tickets : p.tickets = o.tickets) (claimed : p.claimed = o.claimed + 1)
    (tokens : t.tokens = s.tokens.delete v) : Ticketed t p := by
  have unclaimed : o.claimed = 0 := by
    cases zero : o.claimed with
    | zero => rfl
    | succ n => exact absurd same (ticketed.spent (by omega) v token here)
  have gone (w : String) (other : StreamToken) (left : t.tokens.get w = some other) :
      other.streamID ≠ p.streamID := by
    intro naming
    rw [tokens,Table.getDelete] at left
    split at left <;> try contradiction
    rename_i different
    exact different (ticketed.single w v other token left here (naming.trans stream) same)
  constructor
  · intro zero
    exact absurd same ((ticketed.none (by omega)).2 v token here)
  · intro w w' other other' left _ first _
    exact absurd first (gone w other left)
  · intro _; exact gone
  · omega

end

section
variable {s t : Server} {tasks tasks' : List (List Frame)}

variable {id : String} {x : Sid} {o : Session} {out : Outcome}

theorem Owned.use (owned : Owned s id) (push : PushGood s) : ∃ u, Uses s id u := by
  rcases owned with ⟨x,o,stored,same⟩ | ⟨d,pull,here,same⟩ | ⟨d,run,here,same⟩
  · exact ⟨.session,x,o,stored.here,same⟩
  · exact ⟨.pull,d,pull,here,same⟩
  · exact ⟨.credential,.inr (.inr ⟨_,push.verified d run here,same⟩)⟩

theorem Running.other (run : Running s id) (rooted : Rooted s tasks) (push : PushGood s)
    (apart : Apart s) (here : s.heap x = some o) (history : o.history = true) :
    id ≠ o.streamID := by
  intro same
  have session : Uses s id .session := ⟨x,o,here,same.symm⟩
  cases run with
  | live y p stored stream live =>
    have self := rooted.distinct x y o p here stored.here (same.symm.trans stream.symm)
    subst self
    cases Option.some.inj (here.symm.trans stored.here)
    exact nomatch history.symm.trans live
  | pull d pull found stream => exact nomatch apart.apart id .session .pull session ⟨d,pull,found,stream⟩
  | push d run found stream =>
    exact nomatch apart.apart id .session .credential session
      (.inr (.inr ⟨_,push.verified d run found,stream⟩))

theorem actTokens {act : Act} (effect : ActEffect s t o act) :
    (∀ v token, t.tokens.get v = some token → s.tokens.get v = some token) ∨
      ∃ value, act = .issue value ∧ t.tokens = s.tokens.set value ⟨o.streamID,s.now + s.tokenTTL⟩ := by
  cases effect with
  | issue value _ _ tokens => exact .inr ⟨value,rfl,tokens⟩
  | none tokens | create _ tokens | delete _ tokens =>
    exact .inl fun _ _ here => by rw [← tokens]; exact here
  | revoke tokens | remove tokens => exact .inl (revokedFewer tokens)

def AllTicketed (s : Server) : Prop :=
  ∀ x o, s.heap x = some o → o.history = true → Ticketed s o

theorem AllTicketed.shrink (all : AllTicketed s) (heap : t.heap = s.heap)
    (tokens : ∀ v token, t.tokens.get v = some token → s.tokens.get v = some token) : AllTicketed t := by
  intro x o here history
  rw [heap] at here
  exact (all x o here history).shrink rfl rfl rfl fun v token left _ => tokens v token left

theorem AllTicketed.turn (all : AllTicketed s) (rooted : Rooted s tasks) {f : SessionFrame}
    {r : Reply} {turned : SessionOutcome} (ran : s.sessionTurn x f r = some turned)
    (pending : f ∈ Pool.view (about x) tasks ∨ f = .stop false) : AllTicketed turned.server := by
  obtain ⟨o,e,here,move,_,_,acts⟩ := turnSpec ran
  obtain ⟨heap,_⟩ := Rooted.acted move acts
  obtain ⟨key,stream,_,claimed⟩ := move.identity
  have tokens := actTokens (actEffect acts).1
  rw [stream] at tokens
  intro y p now history
  rw [heap] at now
  by_cases self : y = x
  · rw [self,Function.update_self] at now
    cases Option.some.inj now
    have before := all x o here (by unfold Session.history at *; rw [← key]; exact history)
    rcases move.ticketing with ⟨tickets,other⟩ | ⟨tickets,_,⟨port,frame⟩,value,issue⟩
    · rcases tokens with fewer | ⟨value,issue,_⟩
      · exact before.shrink stream tickets claimed fun v token left _ => fewer v token left
      · exact absurd issue (other value)
    · have mem := pending.resolve_right (by rw [frame]; nofun)
      have fits := (rooted.good x o here).fits f mem
      rw [frame] at fits
      have effect := (actEffect acts).1
      rw [issue] at effect
      cases effect with
      | issue _ _ _ more => exact before.issue (fits.2.2.2.2.2 rfl) stream tickets claimed more
  · rw [Function.update_of_ne self] at now
    refine (all y p now history).shrink rfl rfl rfl fun v token left same => ?_
    rcases tokens with fewer | ⟨value,_,more⟩
    · exact fewer v token left
    · rw [more,Table.getSet] at left
      split at left
      · cases Option.some.inj left
        exact absurd (rooted.distinct y x p o now here same.symm) self
      · exact left

theorem AllTicketed.born (all : AllTicketed s) (push : PushGood s) (apart : Apart s) (good : TokenGood s)
    (x : Sid) (o : Session) (ssrcs : Ssrc.Allocator) (kind : Admission) (unused : o.streamID ∉ s.drawn)
    (new : o.tickets = 0 ∧ o.claimed = 0) : AllTicketed (s.addSession x o ssrcs kind) := by
  have unnamed (v : String) (token : StreamToken) (here : s.tokens.get v = some token) :
      token.streamID ≠ o.streamID := by
    intro same
    obtain ⟨u,used⟩ := (good.owned v token here).use push
    have drawn := apart.drawn _ u used
    rw [same] at drawn
    exact unused drawn
  intro y p now history
  simp only [Server.addSession] at now
  by_cases self : y = x
  · rw [self,Function.update_self] at now
    cases Option.some.inj now
    refine ⟨fun _ => ⟨new.2,unnamed⟩,?_,fun _ => unnamed,by omega⟩
    intro v w token token' here _ same
    exact absurd same (unnamed v token here)
  · rw [Function.update_of_ne self] at now
    exact (all y p now history).shrink rfl rfl rfl fun _ _ left _ => left

theorem AllTicketed.called (all : AllTicketed s) (rooted : Rooted s tasks) (push : PushGood s)
    (apart : Apart s) (good : TokenGood s) (effect : TokenEffect s out) :
    AllTicketed out.shared := by
  cases effect with
  | issued value streamID named running unused =>
    intro x o here history
    refine (all x o here history).shrink rfl rfl rfl fun v token left same => ?_
    simp only [Table.getSet] at left
    split at left
    · cases Option.some.inj left
      exact absurd same ((streamRuns rooted.keyed running).other rooted push apart here history)
    · exact left
  | claimed value token x o here early found stored own =>
    have history : o.history = true := by
      have name := good.named value token here
      rw [← own] at name
      simpa [Session.history] using name
    have same := (historyID rooted found history).1.symm.trans own
    intro y p now history
    simp only [Server.put] at now
    by_cases self : y = x
    · rw [self,Function.update_self] at now
      cases Option.some.inj now
      exact (all x o found history).claim here same.symm rfl rfl rfl rfl
    · rw [Function.update_of_ne self] at now
      refine (all y p now history).shrink rfl rfl rfl fun v token left _ => ?_
      simp only [Table.getDelete] at left
      split at left <;> try contradiction
      exact left
  | played value token here =>
    refine all.shrink rfl fun v token left => ?_
    simp only [Table.getDelete] at left
    split at left <;> try contradiction
    exact left
  | expired | prepared | created => exact all.shrink rfl fun _ _ left => expiredFewer left
  | stopped rows d run =>
    exact all.shrink rfl fun _ _ left => (revoked (s := {s with pushDevices := rows}) left).1
  | _ => exact all.shrink rfl fun _ _ left => left

theorem AllTicketed.next (all : AllTicketed s) (rooted : Rooted s tasks) (push : PushGood s)
    (apart : Apart s) (good : TokenGood s) {frame : Option Frame} (change : StockChange s frame out)
    (turn : Pool.Turn frame out tasks tasks') : AllTicketed out.shared := by
  cases change with
  | turn x f r ran run shared =>
    rw [shared]
    refine all.turn rooted ran ?_
    rcases run with run | stop
    · rw [run] at turn
      exact .inl (turnMem turn)
    · exact .inr stop
  | born x o fresh unused new shared =>
    rw [shared]
    exact all.born push apart good x o _ _ unused new
  | same same =>
    intro x o here history
    obtain ⟨p,before,key,stream,tickets,claimed⟩ := same.card here
    refine (all x p before (by unfold Session.history at *; rw [key]; exact history)).shrink
      stream.symm tickets.symm claimed.symm fun v token left _ => same.tokens v token left
  | call effect =>
    have after := all.called rooted push apart good effect
    exact after
  | source sourceID stage r ok => exact all.shrink (by rw [sourceKept ok]) (sourceFewer ok)
  | closed => exact all.shrink rfl fun _ _ left => left
  | pull p e rest =>
    exact all.shrink (by rw [(dropPullKept (s := s) p e.1 e.2).1]) (dropPullFewer p e.1 e.2)
  | pushes p =>
    have dropped := dropPushesDropped p p.pushes s
    exact all.shrink (by rw [dropped.same]) fun v token left => (dropped.tokens v token left).1

end

theorem reachedTokens (reached : Reached s) : TokenGood s.shared ∧ AllTicketed s.shared := by
  induction reached with
  | start boot =>
    have none (v : String) (token : StreamToken) : (∅ : Table String StreamToken).get v ≠ some token := nofun
    refine ⟨?_,fun x o here => by rw [boot.heap] at here; cases here⟩
    constructor
    case once => unfold Server.tickets; rw [boot.log]; exact .nil
    case playedOnce => unfold Server.plays; rw [boot.log]; exact .nil
    case played => unfold Server.plays; rw [boot.log]; nofun
    all_goals
      intro v token here
      rw [boot.tokens] at here
      exact absurd here (none v token)
  | @next s a t before ok ih =>
    obtain ⟨good,all⟩ := ih
    have rooted := reachedRooted before
    have push := reachedPush before
    have apart := reachedApart before
    obtain ⟨out,ran,same,turn⟩ := stepSection ok
    have stock := sectionStock ran
    rw [same]
    exact ⟨good.next apart (ledgerChange rooted good.named stock turn) fun v token left owned =>
      ownedCovered rooted push (sectionChange rooted.keyed ran) stock left owned,
      all.next rooted push apart good stock turn⟩

theorem LedgerChange.kept {s : Server} (change : LedgerChange s t) :
    s.tickets ⊆ t.tickets ∧ s.plays ⊆ t.plays := by
  cases change with
  | shrunk _ tickets plays => rw [tickets,plays]; exact ⟨List.Subset.refl _,List.Subset.refl _⟩
  | issues _ _ _ _ _ _ tickets plays =>
    rw [tickets,plays]
    exact ⟨List.subset_append_left ..,List.Subset.refl _⟩
  | uses _ _ _ _ _ _ tickets plays =>
    rw [tickets,plays]
    exact ⟨List.Subset.refl _,List.subset_append_left ..⟩

theorem ledgerKept {t : State} (reached : Reached s) (leads : Transition.Leads step s t) :
    s.shared.tickets ⊆ t.shared.tickets ∧ s.shared.plays ⊆ t.shared.plays := by
  induction leads with
  | here => exact ⟨List.Subset.refl _,List.Subset.refl _⟩
  | @more u a t before ok ih =>
    have there := before.reachable reached
    obtain ⟨out,ran,shared,turn⟩ := stepSection ok
    rw [shared]
    have change := ledgerChange (reachedRooted there) (reachedTokens there).1.named (sectionStock ran) turn
    exact ⟨List.Subset.trans ih.1 change.kept.1,List.Subset.trans ih.2 change.kept.2⟩

variable {token : StreamToken} {operation : Operation} {streamID : String} {store : Bool}

theorem spentRefused (reached : Reached s) (issued : (v,token) ∈ s.shared.tickets)
    (ok : s.shared.consumeStreamToken v operation streamID store = .ok t) :
    operation = .play ∧ ∀ p ∈ s.shared.plays, p.1 ≠ v := by
  cases operation with
  | play =>
    obtain ⟨earlier,_,here,_⟩ := playedSpec ok
    exact ⟨rfl,(reachedTokens reached).1.unplayed v earlier here⟩
  | publish =>
    have ticket : Uses s.shared v .ticket := ⟨_,issued,rfl⟩
    obtain ⟨d,row,here,same,_⟩ := publishedSpec ok
    exact nomatch (reachedApart reached).apart v .ticket .credential ticket (.inr (.inl ⟨d,row,here,same⟩))

theorem playedNow {s : Server} (change : LedgerChange s t) (here : s.tokens.get v = some token)
    (plays : t.plays = s.plays ++ [(v,token.streamID,s.now)]) :
    s.now < token.expiresAt ∧ Playable s token.streamID := by
  cases change with
  | shrunk _ _ same => simp [same] at plays
  | issues _ _ _ _ _ _ _ same => simp [same] at plays
  | uses w other there early playable _ _ same =>
    have entry := List.append_cancel_left (same.symm.trans plays)
    simp only [List.cons.injEq,Prod.mk.injEq,and_true] at entry
    rw [entry.1] at there
    cases Option.some.inj (here.symm.trans there)
    exact ⟨early,playable⟩

theorem consumeStep (ok : s.shared.consumeStreamToken v operation streamID store = .ok t) :
    step s (.call (.token (.consumeStreamToken v operation streamID store))) = some ⟨t,s.tasks⟩ := by
  simp only [step,call,tokenCall,ok,Server.after,Option.map_some,List.append_nil]

theorem playTokensOnce {s : State} (reached : Reached s) :
    (∀ v token operation streamID store t, (v,token) ∈ s.shared.tickets →
      s.shared.consumeStreamToken v operation streamID store = .ok t →
      operation = .play ∧ streamID = token.streamID ∧ s.shared.now < token.expiresAt ∧
      Playable s.shared streamID ∧
      ∀ u, Transition.Leads step ⟨t,s.tasks⟩ u → ∀ operation' streamID' store' t',
        u.shared.consumeStreamToken v operation' streamID' store' ≠ .ok t') ∧
    (∀ v streamID store t, s.shared.consumeStreamToken v .play streamID store = .ok t →
      ∃ token, (v,token) ∈ s.shared.tickets) ∧
    (∀ x o, s.shared.heap x = some o → o.history = true → o.claimed ≤ 1) ∧
    (∀ v token, s.shared.tokens.get v = some token → Owned s.shared token.streamID) := by
  obtain ⟨good,all⟩ := reachedTokens reached
  refine ⟨?_,?_,fun x o here history => (all x o here history).once,good.owned⟩
  · intro v token operation streamID store t issued ok
    obtain ⟨play,_⟩ := spentRefused reached issued ok
    subst play
    obtain ⟨found,same,here,plays,effect⟩ := playedSpec ok
    have one : found = token :=
      congrArg Prod.snd (List.inj_on_of_nodup_map good.once (good.issued v found here) issued rfl)
    subst one
    subst same
    obtain ⟨early,playable⟩ := playedNow (tokenLedger (reachedRooted reached) good.named effect) here plays
    refine ⟨rfl,rfl,early,playable,fun u leads operation' streamID' store' t' again => ?_⟩
    obtain ⟨tickets,played⟩ := ledgerKept (.next reached (consumeStep ok)) leads
    have before := (ledgerKept reached (.more (.here s) (consumeStep ok))).1 issued
    have there := leads.reachable (.next reached (consumeStep ok))
    have mem : (v,found.streamID,s.shared.now) ∈ t.plays := by
      rw [plays]
      exact List.mem_append_right _ (List.mem_singleton.mpr rfl)
    exact (spentRefused there (tickets before) again).2 _ (played mem) rfl
  · intro v streamID store t ok
    obtain ⟨token,_,here,_⟩ := playedSpec ok
    exact ⟨token,good.issued v token here⟩

def ticketIssued : List Action :=
  [.call (.live (.startPlayback "d" "c" {} 60 0 "u")),.run 0 (.port 6000),.run 0 (.token "v")]

theorem ticketPlayedOnce : ∃ s t, Reached s ∧ ("v",⟨"u",61000000000⟩) ∈ s.shared.tickets ∧
    s.shared.consumeStreamToken "v" .play "u" true = .ok t ∧ Playable s.shared "u" ∧
    ∀ u, Transition.Leads step ⟨t,s.tasks⟩ u → ∀ operation streamID store t',
      u.shared.consumeStreamToken "v" operation streamID store ≠ .ok t' := by
  have ends : (Transition.run step firstStart ticketIssued).any (fun s =>
      decide (("v",⟨"u",61000000000⟩) ∈ s.shared.tickets) &&
        (s.shared.consumeStreamToken "v" .play "u" true).toOption.isSome) = true := by decide
  obtain ⟨s,reached,ends⟩ := reachedBy ends
  simp only [Bool.and_eq_true,decide_eq_true_eq] at ends
  obtain ⟨issued,accepted⟩ := ends
  cases answer : s.shared.consumeStreamToken "v" .play "u" true with
  | error => rw [answer] at accepted; cases accepted
  | ok t =>
    obtain ⟨_,_,_,playable,once⟩ := (playTokensOnce reached).1 "v" _ .play "u" true t issued answer
    exact ⟨s,t,reached,issued,answer,playable,once⟩

end MediaServer.Signaling
