import MediaServer.BroadcastService

/-! device_lifecycle.go, register.go, heartbeat.go, catalog.go, gb_ptz.go: what admits work
for a device and what stops it. -/
namespace MediaServer.Signaling

inductive DeviceCall where
  | register (deviceID : String) (known : Bool)
  | unregister (deviceID : String) (known registered : Bool)
  | expireDevices (expired : List String)
  | deleteDevice (deviceID : String) (stored : Bool)
  | keepalive (deviceID : String) (known : Bool)
  | catalogQuery (deviceID : String) (look : Lookup)
  | ptz (deviceID channelID : String) (look : Lookup)

def Server.deviceSessions (s : Server) (deviceID : String) : List Sid :=
  s.matching fun _ o => o.key.deviceID == deviceID

def Server.deviceStreams (s : Server) (deviceID : String) : List String :=
  (s.deviceSessions deviceID).filterMap fun x => (s.heap x).map (·.streamID)

def Server.beginDeviceStop (s : Server) (deviceID : String) : Server :=
  let t := match s.broadcasts.get deviceID with
    | some b => s.cancelTalk b .offline
    | none => s
  {t with stoppingDevices := Function.update s.stoppingDevices deviceID true
          tokens := s.tokens.deleteFunc fun _ token =>
            decide (token.streamID ∈ s.deviceStreams deviceID)}

def Server.deviceStop (s : Server) (deviceID : String) : List Frame :=
  (s.deviceSessions deviceID).map (fun x => .session x (.stop true)) ++
    ((s.broadcasts.get deviceID).toList.map fun b => .talk b (.waitDone true)) ++
    [.clearStop deviceID]

def Server.admission (s : Server) (kind : Admission) (deviceID : String) : Server :=
  s.record (.admitted kind deviceID)

/- expireDevices takes one section for all devices and then stops them one by one. -/
def expireStep (out : Server × List Frame) (deviceID : String) : Server × List Frame :=
  if out.1.stoppingDevices deviceID then out
  else (out.1.beginDeviceStop deviceID,out.2 ++ out.1.deviceStop deviceID)

def deviceCall (s : Server) : DeviceCall → Option Outcome
  | .register deviceID known =>
      if known = false ∨ s.stoppingDevices deviceID then some {shared := s}
      else some {shared := s.admission .registration deviceID}
  | .unregister deviceID known registered =>
      if known = false ∨ s.stoppingDevices deviceID ∨ registered = false then some {shared := s}
      else some {shared := s.beginDeviceStop deviceID, spawned := [s.deviceStop deviceID]}
  | .expireDevices expired =>
      let out := expired.foldl expireStep (s,[])
      some {shared := out.1, spawned := [out.2]}
  | .deleteDevice deviceID stored =>
      if stored = false ∨ s.stoppingDevices deviceID then some {shared := s}
      else some {shared := s.beginDeviceStop deviceID, spawned := [s.deviceStop deviceID]}
  | .keepalive deviceID known =>
      if known = false ∨ s.stoppingDevices deviceID then some {shared := s}
      else some {shared := s.admission .keepalive deviceID}
  | .catalogQuery deviceID look =>
      if look.stored = false ∨ s.stoppingDevices deviceID ∨ look.online = false then some {shared := s}
      else some {shared := s.admission .catalog deviceID}
  | .ptz deviceID channelID look =>
      let key : LiveKey := ⟨deviceID,channelID,""⟩
      if (s.ptzOwners.get key).isSome ∨ look.stored = false ∨ s.stoppingDevices deviceID ∨
          look.online = false ∨ look.channel = none then some {shared := s}
      else
        some {shared := {s.admission .ptz deviceID with ptzOwners := s.ptzOwners.set key ()}
              spawned := [[.ptzDone key]]}

def Server.clearStop (s : Server) (deviceID : String) : Server :=
  {s with stoppingDevices := Function.update s.stoppingDevices deviceID false}

end MediaServer.Signaling
