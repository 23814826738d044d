import MediaServer.DeviceLifecycle
import MediaServer.LiveService
import MediaServer.StreamTokens

/-! media_reconcile.go: one pass. Every table is read in a section of its own, and the
receiver list of the media server between them. -/
namespace MediaServer.Signaling

def pushRegistrationGrace : Nat := 3000000000

def Session.lapsed (o : Session) : Bool := o.history && o.state == .streaming && o.ctxErr

def Session.watched (o : Session) : Bool :=
  o.state == .streaming || (o.history && o.state == .stopping)

def recordStops (s : Server) (pass : Nat) (stopped : List Sid) (lapsed : Bool) : Server :=
  {s with log := s.log ++ stopped.map fun x => .stopped pass x lapsed}

def Server.passStops (s : Server) (pass : Nat) (lapsed : Bool) (fits : Sid → Session → Bool) :
    Outcome :=
  let out := s.stopMatching pass fits
  {out with shared := recordStops out.shared pass (s.matching fits) lapsed}

def Server.beginPass (s : Server) (pass : Nat) : Option Outcome :=
  if (s.waits pass).isSome then none
  else
    let out := s.passStops pass true fun _ o => o.lapsed
    some {out with spawned := [.pass {number := pass} .lapsed] :: out.spawned}

def Server.leasedTalks (s : Server) : List Bid :=
  (s.broadcasts.entries.filter fun e => (s.talks e.2).any fun t => t.bound && t.cause.isNone).map
    Prod.snd

def Server.endLease (s : Server) (b : Bid) : Server :=
  match s.talks b with
  | some t => if s.broadcasts.get t.deviceID = some b then s.cancelTalk b .failed else s
  | none => s

def Server.ended (s : Server) (p : Pass) : List Sid :=
  p.lives.filter fun x => (s.heap x).any fun o => decide (o.streamID ∉ p.receivers)

def Server.dropEndedPull (s : Server) (p : Pass) (sourceID : String) (expected : Pull) : Server :=
  match s.pulls.get sourceID with
  | some pull =>
      if expected.streamID ∈ p.receivers ∨ pull.streamID ≠ expected.streamID ∨ pull.starting then s
      else (s.dropPull sourceID pull).record (.droppedPull p.number sourceID pull)
  | none => s

def dropEndedPush (p : Pass) (s : Server) (e : String × PushRun) : Server :=
  match s.pushRuns.get e.1 with
  | some run =>
      if e.2.streamID ∈ p.receivers ∨ run.streamID ≠ e.2.streamID then s
      else (s.dropPush e.1 run).record (.droppedPush p.number e.1 run)
  | none => s

def passExec (s : Server) (p : Pass) (r : Reply) : PassStage → Option Outcome
  | .lapsed =>
      if s.waits p.number = some 0 then some {shared := s, next := [.pass p (.leases s.leasedTalks)]}
      else none
  | .leases [] => some {shared := s, next := [.pass {p with now := s.now} .lives]}
  | .leases (b :: rest) =>
      some {shared := if r = .ok then s else s.endLease b, next := [.pass p (.leases rest)]}
  | .lives =>
      some {shared := s, next := [.pass {p with lives := s.matching fun _ o => o.watched} .pulls]}
  | .pulls =>
      some {shared := s
            next := [.pass {p with pulls := s.pulls.entries.filter fun e => !e.2.starting} .pushes]}
  | .pushes =>
      let old := s.pushRuns.entries.filter fun e =>
        decide (e.2.verifiedAt + pushRegistrationGrace < p.now)
      some {shared := s, next := [.pass {p with pushes := old} .list]}
  | .list =>
      if r = .ok then
        some {shared := s.record (.listed p.number s.receivers)
              next := [.pass {p with receivers := s.receivers} .ended]}
      else some {shared := s}
  | .ended =>
      let out := s.passStops p.number false fun x _ => decide (x ∈ s.ended p)
      some {out with next := [.pass p .endedWait]}
  | .endedWait =>
      if s.waits p.number = some 0 then some {shared := s, next := [.pass p (.dropPulls p.pulls)]}
      else none
  | .dropPulls [] => some {shared := s, next := [.pass p .dropPushes]}
  | .dropPulls (e :: rest) =>
      some {shared := s.dropEndedPull p e.1 e.2, next := [.pass p (.dropPulls rest)]}
  | .dropPushes =>
      some {shared := p.pushes.foldl (dropEndedPush p) s, next := [.pass p .knownLives]}
  | .knownLives =>
      let ids := s.sessions.entries.filterMap fun e => (s.heap e.2).map (·.streamID)
      some {shared := s, next := [.pass {p with known := ids} .knownPulls]}
  | .knownPulls =>
      let ids := s.pulls.entries.map (·.2.streamID)
      some {shared := s, next := [.pass {p with known := p.known ++ ids} .knownPushes]}
  | .knownPushes =>
      let ids := s.pushRuns.entries.map (·.2.streamID)
      some {shared := s, next := [.pass {p with known := p.known ++ ids} (.orphans p.receivers)]}
  | .orphans [] => some {shared := s}
  | .orphans (streamID :: rest) =>
      if streamID ∈ p.known then some {shared := s, next := [.pass p (.orphans rest)]}
      else
        some {shared := (s.closeReceiver streamID (r == .ok)).record (.orphaned p.number streamID)
              next := [.pass p (.orphans rest)]}

end MediaServer.Signaling
