import MediaServer.Server

/-! stream_token.go, push_http.go, push_device_store.go, source_control_http.go,
rtsp_pull_session.go: play tokens, push credentials and runs, and pulls. A failing
statement of the store changes nothing. -/
namespace MediaServer.Signaling

def unixMilli (now : Nat) : Nat := now / 1000000

def pushCredentialTTL : Nat := 300000000000

def pushCredentialDeadline (now : Nat) : Nat := unixMilli (now + pushCredentialTTL)

inductive PlaySource where
  | live (id : String)
  | source (id : String)
  | pushDevice (id : String)
  deriving DecidableEq, Repr

inductive Operation where
  | play | publish
  deriving DecidableEq, Repr

inductive TokenCall where
  | newPlaybackURLs (source : PlaySource) (ready : Bool) (value : String)
  | consumeStreamToken (value : String) (operation : Operation) (streamID : String) (store : Bool)
  | expire
  | credentialPrepare (value : String)
  | deviceCreate (deviceID name : String) (protocol : PushProtocol) (token : String) (store : Bool)
  | devicePatch (deviceID name : String) (protocol : Option PushProtocol) (store : Bool)
  | pushPublish (deviceID value : String) (store : Bool)
  | stopPushDevice (deviceID : String) (remove store : Bool)
  | startSource (sourceID streamID : String) (store : Bool)
  | stopSource (sourceID : String) (store : Bool)

def Server.streamRunning (s : Server) (streamID : String) : Bool :=
  match s.find fun o => o.streamID == streamID && !o.history && o.state == .streaming with
  | some x => (s.heap x).any fun o => !s.stoppingDevices o.key.deviceID
  | none =>
      s.pulls.entries.any (fun e => e.2.streamID == streamID && !e.2.starting) ||
        s.pushRuns.entries.any fun e => e.2.streamID == streamID

def Server.playStream (s : Server) : PlaySource → Option String
  | .live id =>
      (s.find fun o => o.streamID == id && !o.history).bind fun x =>
        (s.heap x).map (·.streamID)
  | .source id => (s.pulls.get id).map (·.streamID)
  | .pushDevice id => (s.pushRuns.get id).map (·.streamID)

def PlaySource.needsMedia : PlaySource → Bool
  | .live _ => false
  | .source _ | .pushDevice _ => true

def Server.newPlaybackURLs (s : Server) (source : PlaySource) (ready : Bool) (value : String) :
    Option Server :=
  match s.playStream source with
  | none => some s
  | some streamID =>
      if streamID = "" ∨ s.streamRunning streamID = false ∨ (source.needsMedia ∧ ready = false) then
        some s
      else s.issue value streamID

def Server.consumePushCredential (s : Server) (credential : String) : Option (String × PushDevice) :=
  s.pushDevices.entries.find? fun e =>
    e.2.credential == credential && e.2.usedAt == 0 && decide (unixMilli s.now < e.2.expiresAt)

inductive Refusal where
  | publishIdentityMismatch | credentialStoreFailed | pushCredentialUnavailable
  | tokenNotFound | tokenExpired | streamIDMismatch | playbackNotPrepared | sourceNotRunning
  deriving DecidableEq, Repr

def Server.publish (s : Server) (value streamID : String) (store : Bool) : Except Refusal Server :=
  if value ≠ streamID then .error .publishIdentityMismatch
  else if store = false then .error .credentialStoreFailed
  else match s.consumePushCredential value with
    | none => .error .pushCredentialUnavailable
    | some (deviceID,device) =>
        .ok {s with
          pushDevices := s.pushDevices.set deviceID {device with usedAt := unixMilli s.now}
          pushRuns := s.pushRuns.set deviceID ⟨value,s.now⟩
          opened := value :: s.opened
          log := s.log ++ [.published value deviceID s.now]}

def Server.claim (s : Server) (x : Sid) (o : Session) (value streamID : String) :
    Except Refusal Server :=
  if s.stoppingDevices o.key.deviceID ∨ o.state ≠ .preparing ∨ o.ctxErr then
    .error .playbackNotPrepared
  else
    .ok {s.put x {o with claimed := o.claimed + 1} with
      tokens := s.tokens.delete value, log := s.log ++ [.played value streamID s.now]}

def Server.play (s : Server) (value streamID : String) : Except Refusal Server :=
  match s.tokens.get value with
  | none => .error .tokenNotFound
  | some token =>
      if ¬ s.now < token.expiresAt then .error .tokenExpired
      else if token.streamID ≠ streamID then .error .streamIDMismatch
      else match (s.find fun o => o.key.historyID == streamID).bind fun x =>
          (s.heap x).map fun o => (x,o) with
        | some (x,o) => s.claim x o value streamID
        | none =>
            if s.streamRunning streamID then
              .ok {s with tokens := s.tokens.delete value, log := s.log ++ [.played value streamID s.now]}
            else .error .sourceNotRunning

def Server.consumeStreamToken (s : Server) (value : String) (operation : Operation)
    (streamID : String) (store : Bool) : Except Refusal Server :=
  match operation with
  | .play => s.play value streamID
  | .publish => s.publish value streamID store

def Server.after (s : Server) : Except Refusal Server → Server
  | .ok t => t
  | .error _ => s

def Server.expireTokens (s : Server) : Server :=
  {s with tokens := s.tokens.deleteFunc fun _ token => !decide (s.now < token.expiresAt)
          prepared := s.prepared.deleteFunc fun _ expiresAt => !decide (s.now < expiresAt)}

def Server.credentialPrepare (s : Server) (value : String) : Option Server :=
  if value ∈ s.drawn then none
  else
    let t := s.expireTokens
    some {t with prepared := t.prepared.set value (t.now + pushCredentialTTL)
                 drawn := value :: t.drawn}

def Server.createPushDevice (s : Server) (deviceID : String) (device : PushDevice) : Option Server :=
  if (s.pushDevices.get deviceID).isSome ∨
      s.pushDevices.entries.any (fun e => e.2.credential == device.credential) then none
  else some {s with pushDevices := s.pushDevices.set deviceID device}

def Server.deviceCreate (s : Server) (deviceID name : String) (protocol : PushProtocol)
    (token : String) (store : Bool) : Option Server :=
  if deviceID ∈ s.drawn then none
  else
    let t := s.expireTokens
    if (t.prepared.get token).isNone ∨ store = false then some t
    else match t.createPushDevice deviceID ⟨name,protocol,token,pushCredentialDeadline t.now,0⟩ with
      | none => some t
      | some u => some {u with prepared := u.prepared.delete token, drawn := deviceID :: u.drawn}

def Server.devicePatch (s : Server) (deviceID name : String) (protocol : Option PushProtocol)
    (store : Bool) : Server :=
  match s.pushDevices.get deviceID with
  | none => s
  | some device =>
      if store then
        {s with pushDevices :=
          s.pushDevices.set deviceID {device with name := name, protocol := protocol.getD device.protocol}}
      else s

def Server.pushPublish (s : Server) (deviceID value : String) (store : Bool) : Option Server :=
  if s.sourceBusy ∨ value ∈ s.drawn then none
  else if (s.pushRuns.get deviceID).isSome then some s
  else match s.pushDevices.get deviceID with
    | none => some s
    | some device =>
        if store then
          some {s with
            pushDevices := s.pushDevices.set deviceID
              {device with credential := value, expiresAt := pushCredentialDeadline s.now, usedAt := 0}
            drawn := value :: s.drawn}
        else some s

def Server.dropPush (s : Server) (deviceID : String) (run : PushRun) : Server :=
  {s.revokeStream run.streamID with pushRuns := s.pushRuns.delete deviceID}

def Server.stopPushDevice (s : Server) (deviceID : String) (remove store : Bool) : Option Outcome :=
  if s.sourceBusy then none
  else if (s.pushDevices.get deviceID).isNone ∨ store = false then some {shared := s}
  else
    let t := if remove then {s with pushDevices := s.pushDevices.delete deviceID} else s
    match t.pushRuns.get deviceID with
    | none => some {shared := t}
    | some run =>
        some {shared := {t.dropPush deviceID run with sourceBusy := true}
              spawned := [[.deleteReceiver run.streamID]]}

def Server.dropPull (s : Server) (sourceID : String) (pull : Pull) : Server :=
  {s.revokeStream pull.streamID with pulls := s.pulls.delete sourceID}

def Server.enterSource (s : Server) (sourceID : String) (stage : SourceStage) (store : Bool) :
    Option Outcome :=
  if s.sourceBusy then none
  else if store then
    some {shared := {s with sourceBusy := true}, spawned := [[.source sourceID stage]]}
  else some {shared := s}

def Server.leaveSource (s : Server) : Server := {s with sourceBusy := false}

def sourceExec (s : Server) (sourceID : String) (r : Reply) : SourceStage → Option Outcome
  | .reserve streamID =>
      match s.pulls.get sourceID with
      | some _ => some {shared := s.leaveSource}
      | none =>
          if streamID ∈ s.drawn then none
          else
            some {shared := {s with pulls := s.pulls.set sourceID ⟨streamID,true⟩
                                    drawn := streamID :: s.drawn}
                  next := [.source sourceID (.create streamID)]}
  | .create streamID =>
      some {shared := s.openReceiver streamID (r == .ok)
            next := [.source sourceID (if r = .ok then .finish else .drop)]}
  | .finish =>
      let pull := (s.pulls.get sourceID).getD ⟨"",true⟩
      some {shared := {s with pulls := s.pulls.set sourceID {pull with starting := false}}.leaveSource}
  | .drop =>
      match s.pulls.get sourceID with
      | none => some {shared := s.leaveSource}
      | some pull => some {shared := (s.dropPull sourceID pull).leaveSource}
  | .take =>
      match s.pulls.get sourceID with
      | none => some {shared := s.leaveSource}
      | some pull =>
          some {shared := s.dropPull sourceID pull, next := [.source sourceID (.delete pull.streamID)]}
  | .delete streamID => some {shared := (s.closeReceiver streamID (r == .ok)).leaveSource}

def tokenCall (s : Server) : TokenCall → Option Outcome
  | .newPlaybackURLs source ready value =>
      (s.newPlaybackURLs source ready value).map fun t => {shared := t}
  | .consumeStreamToken value operation streamID store =>
      some {shared := s.after (s.consumeStreamToken value operation streamID store)}
  | .expire => some {shared := s.expireTokens}
  | .credentialPrepare value => (s.credentialPrepare value).map fun t => {shared := t}
  | .deviceCreate deviceID name protocol token store =>
      (s.deviceCreate deviceID name protocol token store).map fun t => {shared := t}
  | .devicePatch deviceID name protocol store =>
      some {shared := s.devicePatch deviceID name protocol store}
  | .pushPublish deviceID value store => (s.pushPublish deviceID value store).map fun t => {shared := t}
  | .stopPushDevice deviceID remove store => s.stopPushDevice deviceID remove store
  | .startSource sourceID streamID store => s.enterSource sourceID (.reserve streamID) store
  | .stopSource sourceID store => s.enterSource sourceID .take store

end MediaServer.Signaling
