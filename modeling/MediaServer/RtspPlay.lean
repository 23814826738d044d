import MediaServer.Controller
import MediaServer.Handler
import MediaServer.MediaTypes
import MediaServer.Table
import MediaServer.Text

/-! RTSP playing: a connection, its play session and the registry of streams. The io_context of a
worker has one thread and runs what is posted to it in order, so the tasks of a connection are a
queue. Publishers on other workers change the registry between any two handlers, also between two
requests of one read. -/
namespace MediaServer.RtspPlay
open Handler

/- A media_stream object: two generations of a stream have one id and are two objects. -/
structure Stream where
  object : Nat
  streamId : Text
  tracks : List MediaTrack
  deriving DecidableEq, Repr

abbrev Registry := Table Text Stream

def Registry.add (registry : Registry) (stream : Stream) : Registry :=
  if stream.streamId.isEmpty || stream.tracks.isEmpty ||
      (registry.get stream.streamId).isSome then registry
  else registry.set stream.streamId stream

def Registry.remove (registry : Registry) (expected : Stream) : Registry :=
  if registry.get expected.streamId = some expected then registry.delete expected.streamId
  else registry

structure Url where
  protocol : Text
  hasSearch : Bool
  hasHash : Bool
  pathname : Text
  deriving DecidableEq, Repr

inductive Carrier where
  | rtpTcp | other
  deriving DecidableEq, Repr

inductive Mode where
  | unset | play | other
  deriving DecidableEq, Repr

structure Transport where
  carrier : Carrier
  multicast : Bool
  mode : Mode
  interleaved1 : Int
  interleaved2 : Int
  deriving DecidableEq, Repr

inductive Request where
  | describe (uri : Text)
  | setup (uri session : Text) (transports : List Transport) (random : Nat)
  | play (uri session : Text)
  | teardown (session : Text)
  | announce (accepted : Bool)
  | record
  | getParameter (bare : Bool)
  | interleaved (channel : Int) (empty accepted : Bool)
  deriving DecidableEq, Repr

structure Track where
  kind : MediaKind
  info : Option Text
  rtpChannel : Int
  rtcpChannel : Int
  deriving DecidableEq, Repr

def Track.up (track : Track) : Bool := 0 ≤ track.rtpChannel

/- The libraries and the other side of the connection: the URL parser, prepare_presentation and what
a publish session answers. -/
structure Environment where
  parse : Text → Option Url
  presentation : Stream → Option (List (Nat × Track))
  publish : Request → Bool
  v4 : Bool
  localAddress : Text

/- What rtsp_muxer_getinfo gives for avcTrack. -/
def avcInfo : Text :=
  ("m=video 0 RTP/AVP 96\na=rtpmap:96 H264/90000\na=fmtp:96 packetization-mode=1;" ++
    "profile-level-id=64001F;sprop-parameter-sets=" ++
    "Z2QAH6zZQFAFumoCGgKAAAADAIAAAB5HjBjL,aO+8sA==\n").toList

structure Session where
  path : Text
  stream : Option Stream
  tracks : List (Nat × Track)
  waiting : Option Nat
  muxer : Bool
  handlers : Bool
  sessionId : Text
  playing : Bool
  deriving DecidableEq, Repr

inductive Effect where
  | current (stream : Option Stream)
  | describe (code : Nat) (sdp : Text)
  | setup (code : Nat) (session transport : Text)
  | play (code : Nat)
  | teardown (code : Nat)
  | getParameter (code : Nat)
  | addSink (stream : Stream)
  | removeSink (stream : Stream)
  deriving DecidableEq, Repr

def Effect.ok : Effect → Bool
  | .describe code _ | .setup code _ _ | .play code => code = 200
  | _ => false

def afterAuthority : Text → Option Text
  | ':' :: '/' :: '/' :: rest => some rest
  | _ :: rest => afterAuthority rest
  | [] => none

def rtspPathFromUri (parse : Text → Option Url) (uri : Text) : Text :=
  match parse uri, (afterAuthority uri).map (·.dropWhile (· ≠ '/')) with
  | some url, some path =>
    if url.protocol ≠ "rtsp:".toList || url.hasSearch || url.hasHash || path.isEmpty ||
        url.pathname ≠ path then []
    else match url.pathname with
      | '/' :: rest => rest
      | path => path
  | _, _ => []

def validStreamToken (token : Text) : Bool :=
  token.length = 64 && token.all fun c => ('0' ≤ c && c ≤ '9') || ('a' ≤ c && c ≤ 'f')

def validStreamId (streamId : Text) : Bool :=
  validStreamToken streamId ||
    streamId.length = 36 && streamId.zipIdx.all fun (c,i) =>
      if i = 8 || i = 13 || i = 18 || i = 23 then c = '-'
      else ('0' ≤ c && c ≤ '9') || ('a' ≤ c && c ≤ 'f')

namespace Session

def reply (sent : Bool) (session : Session) (effect : Effect) : Turn Session Effect :=
  ⟨session,[effect],sent⟩

def whenCurrent (registry : Registry) (session : Session) (gone current : Turn Session Effect) :
    Turn Session Effect :=
  match session.stream with
  | none => ⟨session,[.current none],false⟩
  | some stream =>
    let rest := if (registry.get stream.streamId).isSome then current else gone
    ⟨rest.state,.current (some stream) :: rest.effects,rest.ok⟩

def trackPath (session : Session) (id : Nat) : Text :=
  session.path ++ "/trackID=".toList ++ Text.decimal id

def controlBase (uri : Text) : Text :=
  let base := uri.takeWhile (· ≠ '?')
  if base.getLast? = some '/' then base.dropLast else base

def mediaSdp (base : Text) : List (Nat × Track) → Option Text
  | [] => some []
  | (id,track) :: rest => do
    let text ← track.info
    let later ← mediaSdp base rest
    some (text ++ "a=control:".toList ++ base ++ "/trackID=".toList ++ Text.decimal id ++
      "\r\n".toList ++ later)

def sdpHead (env : Environment) : Text :=
  let kind := if env.v4 then "IP4".toList else "IP6".toList
  "v=0\r\no=- 1 1 IN ".toList ++ kind ++ " ".toList ++ env.localAddress ++
    "\r\ns=media_server\r\nc=IN ".toList ++ kind ++ " ".toList ++ env.localAddress ++
    "\r\nt=0 0\r\na=control:*\r\n".toList

def onDescribe (env : Environment) (registry : Registry) (sent : Bool) (session : Session)
    (uri : Text) : Turn Session Effect :=
  if !session.sessionId.isEmpty then .fail session
  else if rtspPathFromUri env.parse uri ≠ session.path then reply sent session (.describe 404 [])
  else whenCurrent registry session (reply sent session (.describe 404 []))
    (match mediaSdp (controlBase uri) session.tracks with
    | none => reply sent session (.describe 415 [])
    | some media => reply sent session (.describe 200 (sdpHead env ++ media)))

def selected (transports : List Transport) : Option Transport :=
  transports.find? fun t =>
    t.carrier = .rtpTcp && !t.multicast && (t.mode = .unset || t.mode = .play)

def channelsAvailable (session : Session) (id : Nat) (rtp rtcp : Int) : Bool :=
  rtp ≠ rtcp && session.tracks.all fun (other,track) =>
    other = id || !track.up ||
      (track.rtpChannel ≠ rtp && track.rtpChannel ≠ rtcp &&
        track.rtcpChannel ≠ rtp && track.rtcpChannel ≠ rtcp)

def usable (session : Session) (id : Nat) (t : Transport) : Bool :=
  0 ≤ t.interleaved1 && t.interleaved1 ≤ 255 && 0 ≤ t.interleaved2 && t.interleaved2 ≤ 255 &&
    session.channelsAvailable id t.interleaved1 t.interleaved2

def transportText (t : Transport) : Text :=
  "RTP/AVP/TCP;unicast;interleaved=".toList ++ Text.showInt t.interleaved1 ++ "-".toList ++
    Text.showInt t.interleaved2

def setChannels (session : Session) (id : Nat) (t : Transport) : List (Nat × Track) :=
  session.tracks.map fun (other,track) =>
    (other,if other = id then
      {track with rtpChannel := t.interleaved1, rtcpChannel := t.interleaved2} else track)

def setUp (sent : Bool) (session : Session) (id : Nat) (track : Track) (text : Text)
    (random : Nat) (t : Transport) : Turn Session Effect :=
  if track.up then
    if text = session.sessionId && track.rtpChannel = t.interleaved1 &&
        track.rtcpChannel = t.interleaved2 then
      reply sent session (.setup 200 session.sessionId (transportText t))
    else .fail session
  else if session.sessionId.isEmpty && !text.isEmpty then .fail session
  else
    let sessionId := if session.sessionId.isEmpty then Text.decimal random else session.sessionId
    reply sent {session with sessionId, tracks := session.setChannels id t}
      (.setup 200 sessionId (transportText t))

def onSetup (env : Environment) (registry : Registry) (sent : Bool) (session : Session)
    (uri text : Text) (transports : List Transport) (random : Nat) : Turn Session Effect :=
  if session.playing then .fail session
  else if session.stream.isNone then reply sent session (.setup 404 [] [])
  else
    let path := rtspPathFromUri env.parse uri
    match session.tracks.find? fun item => path = session.trackPath item.1 with
    | none => reply sent session (.setup 404 [] [])
    | some (id,track) =>
      whenCurrent registry session (.fail session)
        (if !session.sessionId.isEmpty && text ≠ session.sessionId then .fail session
        else match (selected transports).filter (session.usable id) with
          | none =>
            reply sent session (.setup 461 [] "RTP/AVP/TCP;unicast;interleaved=0-1".toList)
          | some t => session.setUp sent id track text random t)

def tracksUp (session : Session) : List (Nat × Track) := session.tracks.filter (·.2.up)

def firstVideo (session : Session) : Option Nat :=
  ((session.tracksUp.filter (·.2.kind = .video)).head?).map (·.1)

def onPlay (env : Environment) (registry : Registry) (sent : Bool) (session : Session)
    (uri text : Text) : Turn Session Effect :=
  let path := rtspPathFromUri env.parse uri
  if session.sessionId.isEmpty then .fail session
  else if path ≠ session.path && (session.tracksUp.length ≠ 1 ||
      !session.tracksUp.any fun item => path = session.trackPath item.1) then
    reply sent session (.play 404)
  else if text ≠ session.sessionId then .fail session
  else whenCurrent registry session (.fail session)
    (if session.playing || !sent then reply sent session (.play 200)
    else ⟨{session with playing := true, waiting := session.firstVideo},
      .play 200 :: session.stream.toList.map .addSink,true⟩)

def onTeardown (session : Session) (text : Text) : Turn Session Effect :=
  if text ≠ session.sessionId then .fail session else ⟨session,[.teardown 200],false⟩

def onInterleaved (session : Session) (channel : Int) (empty accepted : Bool) : Bool :=
  if session.sessionId.isEmpty then false
  else if !session.muxer || empty then true
  else if session.tracks.any fun (_,track) =>
    0 ≤ track.rtcpChannel && track.rtcpChannel = channel then accepted
  else true

def safeShutdown (session : Session) : Session :=
  {session with
    playing := false
    waiting := none
    stream := none
    muxer := false
    handlers := false}

end Session

inductive Fate where
  | dropped | failed | written
  deriving DecidableEq, Repr

structure Frame where
  track : Nat
  keyFrame : Bool
  payload : Bool
  fate : Fate
  deriving DecidableEq, Repr

def Session.onFrame (session : Session) (frame : Frame) : Session × Bool :=
  if !session.playing then (session,false)
  else if session.waiting.any fun track => frame.track ≠ track || !frame.keyFrame then
    (session,false)
  else
    let session := {session with waiting := none}
    match session.tracks.find? fun item => item.1 = frame.track with
    | none => (session,false)
    | some (_,track) =>
      if !frame.payload || !track.up then (session,false)
      else (session,decide (frame.fate = .failed))

/- What is posted to the worker. The input is what comes from outside: bytes that were read, the
answer of verify_stream and the calls of the stream. -/
inductive Input where
  | read (requests : List Request)
  | readFails
  | verified (ok : Bool)
  | frame (frame : Frame)
  | ended
  deriving DecidableEq, Repr

inductive Task where
  | input (input : Input)
  | sessionShutdown
  | connectionShutdown
  deriving DecidableEq, Repr

inductive Reader where
  | reading
  | verifying (stream : Stream) (path uri : Text) (rest : List Request)
  | finished
  deriving DecidableEq, Repr

structure Connection where
  registry : Registry
  connected : Bool
  publishing : Bool
  player : Option Session
  attached : Bool
  reader : Reader
  queue : List Task

namespace Connection

def initial : Connection := ⟨∅,true,false,none,false,.reading,[]⟩

def session (s : Connection) : Option Session := if s.attached then s.player else none

def post (s : Connection) (tasks : List Task) : Connection := {s with queue := s.queue ++ tasks}

def stop (s : Connection) : Connection :=
  {s.post [.connectionShutdown] with reader := .finished}

def proceed (s : Connection) (rest : List Request) : Connection :=
  {s with queue := .input (.read rest) :: s.queue}

def answer (s : Connection) (rest : List Request) (turn : Turn Session Effect) :
    Connection × List Effect :=
  let s := {s with player := some turn.state}
  (if turn.ok then s.proceed rest else s.stop,turn.effects)

def admissible (env : Environment) (s : Connection) (uri : Text) : Option (Stream × Text) := do
  let path := rtspPathFromUri env.parse uri
  let (streamId,token) ← Text.cut '/' path
  if !validStreamId streamId || !validStreamToken token then none
  else
    let stream ← s.registry.get streamId
    some (stream,path)

def describe (env : Environment) (s : Connection) (uri : Text) (rest : List Request) :
    Connection × List Effect :=
  if s.publishing then (s.stop,[])
  else match s.session with
    | some session => s.answer rest (session.onDescribe env s.registry s.connected uri)
    | none =>
      match s.admissible env uri with
      | none => (s.stop,[])
      | some (stream,path) => ({s with reader := .verifying stream path uri rest},[])

def verified (env : Environment) (s : Connection) (ok : Bool) (stream : Stream) (path uri : Text)
    (rest : List Request) : Connection × List Effect :=
  let s := {s with reader := .reading}
  if !ok || !s.connected then (s.stop,[])
  else match env.presentation stream with
    | none => (s.stop,[])
    | some tracks =>
      let player : Session := ⟨path,some stream,tracks,none,true,true,[],false⟩
      {s with attached := true}.answer rest
        (player.onDescribe env s.registry s.connected uri)

def published (env : Environment) (s : Connection) (request : Request) (rest : List Request) :
    Connection × List Effect :=
  (if env.publish request then s.proceed rest else s.stop,[])

def interleaved (env : Environment) (s : Connection) (channel : Int) (empty accepted : Bool)
    (rest : List Request) : Connection :=
  if s.publishing then
    if env.publish (.interleaved channel empty accepted) then s.proceed rest
    else (s.post [.connectionShutdown]).proceed rest
  else match s.session with
    | none => s.stop
    | some session =>
      if session.onInterleaved channel empty accepted then s.proceed rest
      else (s.post [.connectionShutdown]).proceed rest

def handle (env : Environment) (s : Connection) (request : Request) (rest : List Request) :
    Connection × List Effect :=
  match request with
  | .describe uri => s.describe env uri rest
  | .setup uri text transports random =>
    if s.publishing then s.published env request rest
    else match s.session with
      | none => (s.stop,[])
      | some session =>
        s.answer rest (session.onSetup env s.registry s.connected uri text transports random)
  | .play uri text =>
    match s.session with
    | none => (s.stop,[])
    | some session => s.answer rest (session.onPlay env s.registry s.connected uri text)
  | .teardown text =>
    if s.publishing then s.published env request rest
    else match s.session with
      | none => (s.stop,[])
      | some session => s.answer rest (session.onTeardown text)
  | .announce accepted =>
    if s.publishing || s.session.isSome || !accepted then (s.stop,[])
    else ({s with publishing := true}.proceed rest,[])
  | .record => if s.publishing then s.published env request rest else (s.stop,[])
  | .getParameter bare =>
    if !s.publishing && s.session.isNone && !bare then (s.stop,[])
    else (if s.connected then s.proceed rest else s.stop,[.getParameter 200])
  | .interleaved channel empty accepted => (s.interleaved env channel empty accepted rest,[])

def safeShutdown (s : Connection) : Connection :=
  let closed := {s with publishing := false, attached := false, connected := false}
  if s.session.isSome then closed.post [.sessionShutdown] else closed

def execute (env : Environment) (s : Connection) : Task → Connection × List Effect
  | .input (.read requests) =>
    match s.reader, requests with
    | .reading, request :: rest => s.handle env request rest
    | _, _ => (s,[])
  | .input .readFails => if s.reader = .reading then (s.stop,[]) else (s,[])
  | .input (.verified ok) =>
    match s.reader with
    | .verifying stream path uri rest => s.verified env ok stream path uri rest
    | _ => (s,[])
  | .input (.frame frame) =>
    match s.player with
    | none => (s,[])
    | some session =>
      let s := {s with player := some (session.onFrame frame).1}
      (if (session.onFrame frame).2 then s.post [.sessionShutdown,.connectionShutdown] else s,[])
  | .input .ended =>
    match s.player with
    | none => (s,[])
    | some session =>
      (if session.playing && session.handlers then s.post [.connectionShutdown] else s,[])
  | .sessionShutdown =>
    match s.player with
    | none => (s,[])
    | some session =>
      ({s with player := some session.safeShutdown},session.stream.toList.map .removeSink)
  | .connectionShutdown => (s.safeShutdown,[])

end Connection

inductive Event where
  | add (stream : Stream)
  | remove (stream : Stream)
  | arrive (input : Input)
  | shutdown
  | run
  deriving DecidableEq, Repr

def step (env : Environment) (s : Connection) : Event → Connection × List Effect
  | .add stream => ({s with registry := s.registry.add stream},[])
  | .remove stream => ({s with registry := s.registry.remove stream},[])
  | .arrive input => (s.post [.input input],[])
  | .shutdown => (s.post [.connectionShutdown],[])
  | .run =>
    match s.queue with
    | [] => (s,[])
    | task :: queue => {s with queue}.execute env task

end MediaServer.RtspPlay
