import MediaServer.Server

/-! live_session.go, gb_playback.go: the calls that start, find, stop and steer sessions. -/
namespace MediaServer.Signaling

inductive ControlAction where
  | pause | resume
  | seek (position : Rat)
  | scale
  deriving DecidableEq, Repr

def ControlAction.invalid (action : ControlAction) (duration : Nat) : Bool :=
  match action with
  | .pause | .resume => false
  | .seek position => duration == 0 || decide ((duration : Rat) < position)
  | .scale => duration == 0

inductive LiveCall where
  | startLive (deviceID channelID : String) (look : Lookup) (x : Sid) (id : String)
  | startPlayback (deviceID channelID : String) (look : Lookup) (duration : Nat) (x : Sid)
      (id : String)
  | stopLiveID (id : String)
  | stopPlaybackID (id : String)
  | shutdown (group : Nat)
  | remoteBye (x : Sid) (known : Bool)
  | playbackEnd (x : Sid) (channelID : String) (known : Bool)
  | controlPlayback (id : String) (action : ControlAction)

def Server.addSession (s : Server) (x : Sid) (o : Session) (ssrcs : Ssrc.Allocator)
    (kind : Admission) : Server :=
  {s with sessions := s.sessions.set o.key x, heap := Function.update s.heap x (some o)
          ssrcs := ssrcs, drawn := o.streamID :: s.drawn
          log := s.log ++ [.admitted kind o.key.deviceID]}

def Server.startLive (s : Server) (deviceID channelID : String) (look : Lookup) (x : Sid)
    (id : String) : Option Outcome :=
  if look.stored = false ∨ s.stoppingDevices deviceID ∨ look.online = false ∨
      look.channel ≠ some true then some {shared := s}
  else match s.sessions.get ⟨deviceID,channelID,""⟩ with
    | some y =>
        if (s.heap y).any (·.state == .stopping) then some {shared := s}
        else some {shared := s, spawned := [[.session y .join]]}
    | none =>
        match Ssrc.acquire s.ssrcs false with
        | none => some {shared := s}
        | some (ssrc,ssrcs) =>
            if (s.heap x).isSome ∨ id ∈ s.drawn then none
            else
              let o : Session := {key := ⟨deviceID,channelID,""⟩, streamID := id, ssrc := ssrc}
              some {shared := s.addSession x o ssrcs .live, spawned := [[.session x (.start .online)]]}

def Server.startPlayback (s : Server) (deviceID channelID : String) (look : Lookup)
    (duration : Nat) (x : Sid) (id : String) : Option Outcome :=
  if look.stored = false ∨ s.stoppingDevices deviceID ∨ look.online = false ∨
      look.channel = none then some {shared := s}
  else match Ssrc.acquire s.ssrcs true with
    | none => some {shared := s}
    | some (ssrc,ssrcs) =>
        if (s.heap x).isSome ∨ id ∈ s.drawn then none
        else
          let o : Session :=
            {key := ⟨deviceID,channelID,id⟩, streamID := id, ssrc := ssrc
             playbackDuration := duration}
          some {shared := s.addSession x o ssrcs .history
                spawned := [[.session x (.start .create)],[.session x .caller]]}

def Server.stopID (s : Server) (id : String) (history : Bool) : Option Outcome :=
  match s.find fun o => o.streamID == id && o.history == history with
  | none => some {shared := s}
  | some x => (s.sessionTurn x (.stop false) .ok).map (SessionOutcome.entered x)

def Server.stopMatching (s : Server) (group : Nat) (fits : Sid → Session → Bool) : Outcome where
  shared := {s with waits := Function.update s.waits group (some (s.matching fits).length)}
  spawned := (s.matching fits).map fun x => [.session x (.stop false),.waitDone group]

def Server.inDialog (s : Server) (x : Sid) (o : Session) : Bool :=
  s.current x o && o.answer &&
    (o.state == .streaming || (o.history && o.state == .inviting))

def Server.remoteBye (s : Server) (x : Sid) (known : Bool) : Option Outcome :=
  match s.heap x with
  | none => none
  | some o =>
      if s.inDialog x o && known then
        some {shared := s, spawned := [[.session x (if o.history then .finish false else .remoteBye)]]}
      else some {shared := s}

def Server.playbackEnd (s : Server) (x : Sid) (channelID : String) (known : Bool) :
    Option Outcome :=
  match s.heap x with
  | none => none
  | some o =>
      if s.inDialog x o && known && o.history && o.key.channelID == channelID then
        some {shared := s, spawned := [[.session x (.finish true)]]}
      else some {shared := s}

def Server.controlPlayback (s : Server) (id : String) (action : ControlAction) : Option Outcome :=
  match s.find fun o => o.streamID == id && o.history with
  | none => some {shared := s}
  | some x =>
      if (s.heap x).any fun o => action.invalid o.playbackDuration then some {shared := s}
      else some {shared := s, spawned := [[.session x (.control .tryLock)]]}

def liveCall (s : Server) : LiveCall → Option Outcome
  | .startLive deviceID channelID look x id => s.startLive deviceID channelID look x id
  | .startPlayback deviceID channelID look duration x id =>
      s.startPlayback deviceID channelID look duration x id
  | .stopLiveID id => s.stopID id false
  | .stopPlaybackID id => s.stopID id true
  | .shutdown group =>
      if (s.waits group).isSome then none else some (s.stopMatching group fun _ _ => true)
  | .remoteBye x known => s.remoteBye x known
  | .playbackEnd x channelID known => s.playbackEnd x channelID known
  | .controlPlayback id action => s.controlPlayback id action

end MediaServer.Signaling
