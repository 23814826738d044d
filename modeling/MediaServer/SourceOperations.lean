import MediaServer.Table
import MediaServer.Controller

/-! source_http.go, source_control_http.go, rtsp_pull_session.go, source_store.go and the part of
media_reconcile.go that is about pulls. Every call of a handler, of resumeSources, of reconcileMedia
and of shutdownRTSPPulls is a thread; one turn of a thread is one locked section, one transaction of
the store or one request to the media server. Uuids are numbers in the order in which they are
drawn, and zero is the empty text. The wait group is the list of the calls it counts. Decoding of the
requests and the tokens of the streams are left out. -/
namespace MediaServer.Sources
open Controller

inductive DesiredState where
  | stopped | running
  deriving DecidableEq, Repr

structure RtspSource where
  streamName : String
  url : String
  username : String
  password : String
  desiredState : DesiredState
  deriving DecidableEq, Repr

structure RtspSourcePatch where
  streamName : Option String
  url : Option String
  username : Option String
  password : Option String
  deriving DecidableEq, Repr

def RtspSource.patched (source : RtspSource) (patch : RtspSourcePatch) : RtspSource :=
  {source with
    streamName := patch.streamName.getD source.streamName
    url := patch.url.getD source.url
    username := patch.username.getD source.username
    password := patch.password.getD source.password}

def RtspSourcePatch.restarts (patch : RtspSourcePatch) : Bool :=
  patch.url.isSome || patch.username.isSome || patch.password.isSome

structure RtspPullSession where
  sourceID : Nat
  streamID : Nat
  streamName : String
  starting : Bool
  deriving DecidableEq, Repr

structure PullCreateRequest where
  streamID : Nat
  url : String
  token : Option String
  username : Option String
  password : Option String
  deriving DecidableEq, Repr

def pullCreateRequest (session : RtspPullSession) (source : RtspSource) : PullCreateRequest :=
  if "http://".toList.isPrefixOf source.url.toList && source.password ≠ "" then
    ⟨session.streamID,source.url,some source.password,none,none⟩
  else if source.username ≠ "" then
    ⟨session.streamID,source.url,none,some source.username,some source.password⟩
  else ⟨session.streamID,source.url,none,none,none⟩

structure Answer where
  status : Nat
  text : String
  deriving DecidableEq, Repr

inductive Reply where
  | ok | failed | notFound | badRequest | conflict
  | receivers (running : List Nat)
  deriving DecidableEq, Repr

inductive Failure where
  | pullExists | sourceNotFound | sourceConflict | invalidSource | store
  | media (reply : Reply)
  deriving DecidableEq, Repr

def writeSourceError : Failure → Answer
  | .invalidSource => ⟨400,"invalid_request"⟩
  | .sourceNotFound => ⟨404,"not_found"⟩
  | .sourceConflict => ⟨409,"conflict"⟩
  | _ => ⟨500,"operation_failed"⟩

def writeSourceSessionError (operation : String) : Failure → Answer
  | .pullExists => ⟨409,"conflict"⟩
  | .media .badRequest => ⟨400,"invalid_request"⟩
  | .media .conflict => ⟨409,"conflict"⟩
  | .sourceNotFound => writeSourceError .sourceNotFound
  | .invalidSource => writeSourceError .invalidSource
  | .sourceConflict => writeSourceError .sourceConflict
  | .media _ | .store => ⟨502,"source_" ++ operation ++ "_failed"⟩

inductive Handler where
  | create (source : RtspSource)
  | start (sourceID : Nat)
  | stop (sourceID : Nat)
  | patch (sourceID : Nat) (patch : RtspSourcePatch)
  | delete (sourceID : Nat)
  | resume
  | reconcile
  | shutdown
  deriving DecidableEq, Repr

inductive Operation where
  | start (sourceID : Nat)
  | stop (sourceID : Nat) (desired : DesiredState)
  | deleteStopped (sourceID : Nat)
  deriving DecidableEq, Repr

inductive Held where
  | startDesire (sourceID : Nat)
  | reserve (sourceID : Nat) (source : RtspSource)
  | createPull (session : RtspPullSession) (source : RtspSource)
  | finish (session : RtspPullSession)
  | drop (session : RtspPullSession) (failure : Failure)
  | stopDesire (sourceID : Nat) (desired : DesiredState)
  | take (sourceID : Nat)
  | deleteReceiver (streamID : Nat)
  | deleteStopped (sourceID : Nat)
  deriving DecidableEq, Repr

def Operation.first : Operation → Held
  | .start sourceID => .startDesire sourceID
  | .stop sourceID desired => .stopDesire sourceID desired
  | .deleteStopped sourceID => .deleteStopped sourceID

/- How a handler goes on behind an operation; the loop is the one of resumeSources. -/
inductive After where
  | leave (answer : Option Answer)
  | lock (operation : Operation)
  | loop
  deriving DecidableEq, Repr

inductive Stage where
  | enter
  | statement
  | lock (operation : Operation)
  | held (held : Held)
  | unlock (after : After)
  | leave (answer : Option Answer)
  | done (answer : Option Answer)
  | snapshot
  | listReceivers (pulls : List RtspPullSession)
  | dropEnded (pulls : List RtspPullSession)
  | close
  | wait
  | swap
  deriving DecidableEq, Repr

structure Thread where
  handler : Handler
  rest : List Nat
  stage : Stage
  deriving DecidableEq, Repr

inductive Effect where
  | reserved (call : Nat) (session : RtspPullSession)
  | finished (call : Nat) (session : RtspPullSession)
  | removed (call : Nat) (session : RtspPullSession)
  | ended (call : Nat) (session : RtspPullSession)
  | swapped (call : Nat)
  | createPull (request : PullCreateRequest)
  | deleteReceiver (streamID : Nat)
  | answered (call : Nat) (answer : Option Answer)
  deriving DecidableEq, Repr

structure Server where
  rows : Table Nat RtspSource
  rtspPulls : Table Nat RtspPullSession
  sourceOperation : Option Nat
  sourceControlClosed : Bool
  sourceControlWait : List Nat
  uuid : Nat
  threads : Table Nat Thread
  next : Nat

def Handler.afterStart : Handler → Option Failure → After
  | .create _, _ => .leave (some ⟨201,""⟩)
  | .start _, none => .leave (some ⟨201,""⟩)
  | .start _, some failure => .leave (some (writeSourceSessionError "start" failure))
  | .patch .., _ => .leave (some ⟨200,""⟩)
  | _, _ => .loop

def Handler.afterStop : Handler → Option Failure → After
  | .stop _, none => .leave (some ⟨204,""⟩)
  | .stop _, some failure => .leave (some (writeSourceSessionError "stop" failure))
  | .delete sourceID, none => .lock (.deleteStopped sourceID)
  | .delete _, some failure => .leave (some (writeSourceSessionError "delete" failure))
  | .patch sourceID _, none => .lock (.start sourceID)
  | .patch .., some failure => .leave (some (writeSourceSessionError "patch" failure))
  | _, _ => .loop

def Thread.goto (t : Thread) : After → Thread
  | .leave answer => {t with stage := .leave answer}
  | .lock operation => {t with stage := .lock operation}
  | .loop =>
    match t.rest with
    | [] => {t with stage := .leave none}
    | sourceID :: rest => {t with rest := rest, stage := .lock (.start sourceID)}

def Server.setDesiredState (s : Server) (sourceID : Nat) (desired : DesiredState) (reply : Reply) :
    Except Failure (Server × RtspSource) :=
  if reply ≠ .ok then .error .store
  else
    match s.rows.get sourceID with
    | none => .error .sourceNotFound
    | some source =>
      let source := {source with desiredState := desired}
      .ok ({s with rows := s.rows.set sourceID source},source)

def Server.pullAt (s : Server) (sourceID : Nat) : RtspPullSession :=
  (s.rtspPulls.get sourceID).getD ⟨0,0,"",false⟩

def work (s : Server) (call : Nat) (handler : Handler) (reply : Reply) :
    Held → Server × Stage × List Effect
  | .startDesire sourceID =>
    match s.setDesiredState sourceID .running reply with
    | .error failure => (s,.unlock (handler.afterStart (some failure)),[])
    | .ok (s,source) => (s,.held (.reserve sourceID source),[])
  | .reserve sourceID source =>
    if (s.rtspPulls.get sourceID).isSome then
      (s,.unlock (handler.afterStart (some .pullExists)),[])
    else
      let session : RtspPullSession := ⟨sourceID,s.uuid + 1,source.streamName,true⟩
      ({s with uuid := s.uuid + 1, rtspPulls := s.rtspPulls.set sourceID session},
        .held (.createPull session source),[.reserved call session])
  | .createPull session source =>
    (s,if reply = .ok then .held (.finish session) else .held (.drop session (.media reply)),
      [.createPull (pullCreateRequest session source)])
  | .finish session =>
    let found := s.pullAt session.sourceID
    ({s with rtspPulls := s.rtspPulls.set session.sourceID {found with starting := false}},
      .unlock (handler.afterStart none),[.finished call found])
  | .drop session failure =>
    match s.rtspPulls.get session.sourceID with
    | none => (s,.unlock (handler.afterStart (some failure)),[])
    | some found =>
      ({s with rtspPulls := s.rtspPulls.delete session.sourceID},
        .unlock (handler.afterStart (some failure)),[.removed call found])
  | .stopDesire sourceID desired =>
    match s.setDesiredState sourceID desired reply with
    | .error failure => (s,.unlock (handler.afterStop (some failure)),[])
    | .ok (s,_) => (s,.held (.take sourceID),[])
  | .take sourceID =>
    match s.rtspPulls.get sourceID with
    | none => (s,.unlock (handler.afterStop none),[])
    | some found =>
      ({s with rtspPulls := s.rtspPulls.delete sourceID},.held (.deleteReceiver found.streamID),
        [.removed call found])
  | .deleteReceiver streamID =>
    (s,.unlock (handler.afterStop
      (if reply = .ok || reply = .notFound then none else some (.media reply))),
      [.deleteReceiver streamID])
  | .deleteStopped sourceID =>
    if reply ≠ .ok then (s,.unlock (.leave (some (writeSourceError .store))),[])
    else
      match s.rows.get sourceID with
      | none => (s,.unlock (.leave (some (writeSourceError .sourceNotFound))),[])
      | some source =>
        if source.desiredState = .stopped then
          ({s with rows := s.rows.delete sourceID},.unlock (.leave (some ⟨204,""⟩)),[])
        else (s,.unlock (.leave (some (writeSourceError .sourceConflict))),[])

def Server.nameTaken (s : Server) (sourceID : Nat) (streamName : String) : Bool :=
  s.rows.entries.any fun entry => entry.1 ≠ sourceID && entry.2.streamName == streamName

def Server.runningSources (s : Server) : List Nat :=
  ((s.rows.entries.mergeSort fun a b => decide (a.2.streamName ≤ b.2.streamName)).filter
    fun entry => entry.2.desiredState = .running).map Prod.fst

def statement (valid : RtspSource → Bool) (s : Server) (t : Thread) (reply : Reply) :
    Server × Thread :=
  match t.handler with
  | .create source =>
    let sourceID := s.uuid + 1
    let s := {s with uuid := sourceID}
    let source := {source with desiredState := .running}
    if !valid source then (s,t.goto (.leave (some (writeSourceError .invalidSource))))
    else if reply ≠ .ok then (s,t.goto (.leave (some (writeSourceError .store))))
    else if s.nameTaken sourceID source.streamName then
      (s,t.goto (.leave (some (writeSourceError .sourceConflict))))
    else ({s with rows := s.rows.set sourceID source},t.goto (.lock (.start sourceID)))
  | .patch sourceID patch =>
    if reply ≠ .ok then (s,t.goto (.leave (some (writeSourceError .store))))
    else
      match s.rows.get sourceID with
      | none => (s,t.goto (.leave (some (writeSourceError .sourceNotFound))))
      | some source =>
        let source := source.patched patch
        if !valid source then (s,t.goto (.leave (some (writeSourceError .invalidSource))))
        else if s.nameTaken sourceID source.streamName then
          (s,t.goto (.leave (some (writeSourceError .sourceConflict))))
        else
          ({s with rows := s.rows.set sourceID source},
            if source.desiredState = .running && patch.restarts then
              t.goto (.lock (.stop sourceID .running))
            else t.goto (.leave (some ⟨200,""⟩)))
  | .resume =>
    if reply ≠ .ok then (s,t.goto (.leave none))
    else (s,Thread.goto {t with rest := s.runningSources} .loop)
  | _ => (s,t.goto (.leave none))

def Handler.first : Handler → Stage
  | .start sourceID => .lock (.start sourceID)
  | .stop sourceID => .lock (.stop sourceID .stopped)
  | .delete sourceID => .lock (.stop sourceID .stopped)
  | _ => .statement

def Handler.initial : Handler → Stage
  | .reconcile => .snapshot
  | .shutdown => .close
  | _ => .enter

def Handler.refused : Handler → Option Answer
  | .resume => none
  | _ => some ⟨503,"server_shutdown"⟩

def Server.confirmedRTSPPulls (s : Server) : List RtspPullSession :=
  (s.rtspPulls.entries.map Prod.snd).filter fun session => !session.starting

def Server.dropEndedRTSPPull (s : Server) (call : Nat) (expected : RtspPullSession) :
    Server × List Effect :=
  match s.rtspPulls.get expected.sourceID with
  | none => (s,[])
  | some session =>
    if session.streamID ≠ expected.streamID || session.starting then (s,[])
    else ({s with rtspPulls := s.rtspPulls.delete expected.sourceID},[.ended call session])

def turn (valid : RtspSource → Bool) (s : Server) (call : Nat) (t : Thread) (reply : Reply) :
    Option (Server × Thread × List Effect) :=
  match t.stage with
  | .enter =>
    if s.sourceControlClosed then
      some (s,{t with stage := .done t.handler.refused},[.answered call t.handler.refused])
    else
      some ({s with sourceControlWait := call :: s.sourceControlWait},
        {t with stage := t.handler.first},[])
  | .statement =>
    let (s,t) := statement valid s t reply
    some (s,t,[])
  | .lock operation =>
    if s.sourceOperation.isSome then none
    else some ({s with sourceOperation := some call},{t with stage := .held operation.first},[])
  | .held held =>
    let (s,stage,effects) := work s call t.handler reply held
    some (s,{t with stage := stage},effects)
  | .unlock after => some ({s with sourceOperation := none},t.goto after,[])
  | .leave answer =>
    some ({s with sourceControlWait := s.sourceControlWait.erase call},
      {t with stage := .done answer},[.answered call answer])
  | .done _ => none
  | .snapshot => some (s,{t with stage := .listReceivers s.confirmedRTSPPulls},[])
  | .listReceivers pulls =>
    match reply with
    | .receivers running =>
      some (s,{t with stage := .dropEnded (pulls.filter fun pull => pull.streamID ∉ running)},[])
    | _ => some (s,{t with stage := .done none},[])
  | .dropEnded [] => some (s,{t with stage := .done none},[])
  | .dropEnded (pull :: rest) =>
    let (s,effects) := s.dropEndedRTSPPull call pull
    some (s,{t with stage := .dropEnded rest},effects)
  | .close => some ({s with sourceControlClosed := true},{t with stage := .wait},[])
  | .wait => if s.sourceControlWait = [] then some (s,{t with stage := .swap},[]) else none
  | .swap =>
    some ({s with rtspPulls := ∅},{t with stage := .done none},
      .swapped call :: s.rtspPulls.entries.map fun entry => .deleteReceiver entry.2.streamID)

inductive Event where
  | call (handler : Handler)
  | turn (call : Nat) (reply : Reply)
  deriving DecidableEq, Repr

def step (valid : RtspSource → Bool) (s : Server) : Event → Server × List Effect
  | .call handler =>
    ({s with threads := s.threads.set s.next ⟨handler,[],handler.initial⟩, next := s.next + 1},[])
  | .turn call reply =>
    match (s.threads.get call).bind fun t => turn valid s call t reply with
    | none => (s,[])
    | some (s,t,effects) => ({s with threads := s.threads.set call t},effects)

def Server.start (rows : Table Nat RtspSource) (uuid : Nat) : Server :=
  ⟨rows,∅,none,false,[],uuid,∅,0⟩

end MediaServer.Sources
