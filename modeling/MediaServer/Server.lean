import MediaServer.Broadcast
import MediaServer.Pool
import MediaServer.Ssrc
import MediaServer.Table

/-! The tables of the signaling server, what the media server holds, and the threads.
Time is in nanoseconds since the Unix epoch. Random values and uuids are inputs that must
not have been drawn before. -/
namespace MediaServer.Signaling

structure StreamToken where
  streamID : String
  expiresAt : Nat
  deriving DecidableEq, Repr

structure PushRun where
  streamID : String
  verifiedAt : Nat
  deriving DecidableEq, Repr

inductive PushProtocol where
  | rtmp | rtsp | whip
  deriving DecidableEq, Repr

structure PushDevice where
  name : String
  protocol : PushProtocol
  credential : String
  expiresAt : Nat
  usedAt : Nat := 0
  deriving DecidableEq, Repr

structure Pull where
  streamID : String
  starting : Bool
  deriving DecidableEq, Repr

inductive Admission where
  | live | history | broadcast | ptz | catalog | registration | keepalive
  deriving DecidableEq, Repr

inductive Event where
  | admitted (kind : Admission) (deviceID : String)
  | issued (value : String) (token : StreamToken)
  | played (value streamID : String) (now : Nat)
  | published (value deviceID : String) (now : Nat)
  | listed (pass : Nat) (receivers : List String)
  | stopped (pass : Nat) (x : Sid) (lapsed : Bool)
  | droppedPull (pass : Nat) (sourceID : String) (pull : Pull)
  | droppedPush (pass : Nat) (deviceID : String) (run : PushRun)
  | orphaned (pass : Nat) (streamID : String)
  | peered (b : Bid) (peer : Peer)
  deriving DecidableEq, Repr

structure Pass where
  number : Nat
  now : Nat := 0
  lives : List Sid := []
  pulls : List (String × Pull) := []
  pushes : List (String × PushRun) := []
  receivers : List String := []
  known : List String := []
  deriving DecidableEq, Repr

inductive PassStage where
  | lapsed
  | leases (rest : List Bid)
  | lives
  | pulls
  | pushes
  | list
  | ended
  | endedWait
  | dropPulls (rest : List (String × Pull))
  | dropPushes
  | knownLives
  | knownPulls
  | knownPushes
  | orphans (rest : List String)
  deriving DecidableEq, Repr

inductive SourceStage where
  | reserve (streamID : String)
  | create (streamID : String)
  | finish
  | drop
  | take
  | delete (streamID : String)
  deriving DecidableEq, Repr

inductive Frame where
  | session (x : Sid) (f : SessionFrame)
  | talk (b : Bid) (f : TalkFrame)
  | source (sourceID : String) (stage : SourceStage)
  | deleteReceiver (streamID : String)
  | clearStop (deviceID : String)
  | ptzDone (key : LiveKey)
  | waitDone (group : Nat)
  | pass (p : Pass) (stage : PassStage)
  deriving DecidableEq, Repr

structure Server where
  sessions : Table LiveKey Sid
  heap : Sid → Option Session
  ssrcs : Ssrc.Allocator
  stoppingDevices : String → Bool
  ptzOwners : Table LiveKey Unit
  broadcasts : Table String Bid
  talks : Bid → Option Talk
  dialogs : Did → Option Dialog
  tokens : Table String StreamToken
  prepared : Table String Nat
  pushRuns : Table String PushRun
  pushDevices : Table String PushDevice
  pulls : Table String Pull
  sourceBusy : Bool
  waits : Nat → Option Nat
  now : Nat
  tokenTTL : Nat
  receivers : List String
  opened : List String
  drawn : List String
  log : List Event

abbrev State := Pool.State Server Frame
abbrev Outcome := Pool.Outcome Server Frame

structure Lookup where
  stored : Bool := true
  online : Bool := true
  channel : Option Bool := some true
  deriving DecidableEq, Repr

def Server.put (s : Server) (x : Sid) (o : Session) : Server :=
  {s with heap := Function.update s.heap x (some o)}

def Server.putTalk (s : Server) (b : Bid) (t : Talk) : Server :=
  {s with talks := Function.update s.talks b (some t)}

def Server.putDialog (s : Server) (d : Did) (dialog : Dialog) : Server :=
  {s with dialogs := Function.update s.dialogs d (some dialog)}

def Server.record (s : Server) (event : Event) : Server := {s with log := s.log ++ [event]}

def Server.current (s : Server) (x : Sid) (o : Session) : Bool := s.sessions.get o.key == some x

def Server.revokeStream (s : Server) (streamID : String) : Server :=
  {s with tokens := s.tokens.deleteFunc fun _ token => token.streamID == streamID}

def Server.find (s : Server) (fits : Session → Bool) : Option Sid :=
  (s.sessions.entries.find? fun e => (s.heap e.2).any fits).map Prod.snd

def Server.matching (s : Server) (fits : Sid → Session → Bool) : List Sid :=
  (s.sessions.entries.filter fun e => (s.heap e.2).any (fits e.2)).map Prod.snd

def Server.issue (s : Server) (value streamID : String) : Option Server :=
  if value ∈ s.drawn then none
  else
    let token : StreamToken := ⟨streamID,s.now + s.tokenTTL⟩
    some {s with tokens := s.tokens.set value token, drawn := value :: s.drawn
                 log := s.log ++ [.issued value token]}

def Server.openReceiver (s : Server) (streamID : String) (made : Bool) : Server :=
  {s with opened := streamID :: s.opened
          receivers := if made then streamID :: s.receivers else s.receivers}

def Server.closeReceiver (s : Server) (streamID : String) (gone : Bool) : Server :=
  {s with receivers := if gone then s.receivers.filter (· ≠ streamID) else s.receivers}

def Server.act (s : Server) (o : Session) : Act → Option Server
  | .none => some s
  | .revoke => some (s.revokeStream o.streamID)
  | .issue value => s.issue value o.streamID
  | .create made => some (s.openReceiver o.streamID made)
  | .delete gone => some (s.closeReceiver o.streamID gone)
  | .remove =>
      some {s.revokeStream o.streamID with
        sessions := s.sessions.delete o.key, ssrcs := Ssrc.release s.ssrcs o.ssrc}

structure SessionOutcome where
  server : Server
  next : List SessionFrame
  spawned : List SessionFrame

def Server.sessionTurn (s : Server) (x : Sid) (f : SessionFrame) (r : Reply) : Option SessionOutcome := do
  let o ← s.heap x
  let e ← f.step o (s.current x o) r
  let t ← (s.put x e.session).act e.session e.act
  some ⟨t,e.next,e.spawned⟩

def SessionOutcome.outcome (x : Sid) (out : SessionOutcome) : Outcome where
  shared := out.server
  next := out.next.map (.session x)
  spawned := out.spawned.map fun f => [.session x f]

def SessionOutcome.entered (x : Sid) (out : SessionOutcome) : Outcome where
  shared := out.server
  spawned := [out.next.map (.session x)] ++ out.spawned.map fun f => [.session x f]

end MediaServer.Signaling
