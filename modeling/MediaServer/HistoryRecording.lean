import MediaServer.FiniteHttpInput

/-! desktop/record_thread: a history recording over HTTP. run writes a .part file and renames it to
the target at its end; a guard that runs on every way out removes the .part file of a recording that
is not saved. -/
namespace MediaServer.Recording

inductive Failure where
  | allocation
  | targetExists
  | noDeadline
  | connectTimeout
  | connectFailed
  | openFailed
  | tracksFailed
  | notH264
  | audioUnsupported
  | partFailed
  | writeFailed
  | deadline
  | unfinished
  | readFailed
  | newTrack
  | corrupt
  | noVideo
  | trailerFailed
  | renameFailed
  | stoppedEarly
  deriving DecidableEq, Repr

structure Files where
  target : Bool
  part : Bool
  deriving DecidableEq, Repr

inductive MediaType where
  | video | audio | other
  deriving DecidableEq, Repr

structure Packet where
  stream : Nat
  type : MediaType
  corrupt : Bool
  writes : List Bool
  result : Option AvError
  deriving DecidableEq, Repr

structure Reading where
  activity : List Activity
  result : Except AvError Packet

structure Script where
  allocated : Bool
  forever : Bool
  opened : Option AvError
  inputIo : Bool
  openInput : List Activity × Option AvError
  streamInfo : List Activity × Option AvError
  video : Option (Nat × Bool)
  audio : Option (Nat × Bool)
  streams : Nat
  creatable : Bool
  outputIo : Bool
  mapped : Bool
  header : List Bool × Option AvError
  frames : List Reading
  trailer : List Bool × Option AvError
  flush : List Bool
  closed : Bool
  renamed : Bool
  removed : Bool

structure Tracks where
  streams : Nat
  video : Nat
  audio : Option Nat
  deriving DecidableEq, Repr

def Tracks.recorded (tracks : Tracks) (stream : Nat) : Bool :=
  stream < tracks.streams && (stream = tracks.video || tracks.audio = some stream)

structure LoopEnd where
  sourceEnded : Bool
  writeFailed : Bool
  error : Option Failure
  deriving DecidableEq, Repr

def LoopEnd.failed (error : Failure) : LoopEnd := ⟨false,false,some error⟩
def LoopEnd.stopped : LoopEnd := ⟨false,false,none⟩

structure Recorded where
  world : World
  videoWritten : Bool
  ended : LoopEnd

structure Local where
  world : World
  files : Files
  http : Bool
  created : Bool
  saved : Bool
  error : Option Failure

section
variable (setting : Setting)

def record (tracks : Tracks) (packet : Packet) (w : World) (videoWritten : Bool) :
    World × Bool × Option LoopEnd :=
  if !tracks.recorded packet.stream then
    if tracks.streams ≤ packet.stream || packet.type = .audio then
      (w,videoWritten,some (.failed .newTrack))
    else (w,videoWritten,none)
  else if packet.corrupt then (w.note .corrupt,videoWritten,some (.failed .corrupt))
  else
    let w := w.output setting packet.writes
    if packet.result.isSome then
      (w.note .write,videoWritten,some ⟨false,true,some .writeFailed⟩)
    else if packet.stream = tracks.video then (w.note .video,true,none)
    else (w,videoWritten,none)

def turn (tracks : Tracks) (reading : Reading) (w : World) (videoWritten : Bool) :
    World × Bool × Option LoopEnd :=
  match w.stopRequested setting with
  | (w,true) => (w,videoWritten,some .stopped)
  | (w,false) =>
    match (w.perform setting reading.activity).stopRequested setting with
    | (w,true) => (w,videoWritten,some .stopped)
    | (w,false) =>
      match w.contextError setting with
      | (w,some _) => (w,videoWritten,some (.failed .deadline))
      | (w,none) =>
        match reading.result with
        | .error .again => (w,videoWritten,none)
        | .error .eof =>
          (w.note (.eof w.http.done),videoWritten,
            some (if !w.http.done || w.failed then .failed .unfinished else ⟨true,false,none⟩))
        | .error e => (w.note (.input e),videoWritten,some (.failed .readFailed))
        | .ok packet => record setting tracks packet w videoWritten

def loop (tracks : Tracks) : List Reading → World → Bool → Recorded
  | [], w, videoWritten => ⟨w.note (.input .other),videoWritten,.failed .readFailed⟩
  | reading :: rest, w, videoWritten =>
    match turn setting tracks reading w videoWritten with
    | (w,videoWritten,none) => loop tracks rest w videoWritten
    | (w,videoWritten,some ended) => ⟨w,videoWritten,ended⟩

def conclude (script : Script) (files : Files) (recorded : Recorded) : Local :=
  match recorded.world.interruptionRequested setting with
  | (w,cancelled) =>
    if !(!cancelled && !recorded.ended.writeFailed && recorded.videoWritten &&
        recorded.ended.sourceEnded) then
      ⟨w,files,true,true,false,
        if recorded.ended.error.isNone && !cancelled && !recorded.videoWritten then some .noVideo
        else recorded.ended.error⟩
    else
      let w := w.output setting script.trailer.1
      let written := script.trailer.2.isNone && !w.outputError
      let w := w.note (.trailer written)
      if !written then ⟨w,files,true,true,false,some .trailerFailed⟩
      else
        let w := w.output setting script.flush
        let flushed := !w.outputError
        let w := (w.note (.flush flushed)).note (.close script.closed)
        if !script.closed || !flushed then ⟨w,files,true,true,false,some .trailerFailed⟩
        else match w.interruptionRequested setting with
          | (w,true) => ⟨w,files,true,true,false,none⟩
          | (w,false) =>
            let renamed := script.renamed && files.part && !files.target
            let w := w.note (.rename renamed)
            if !renamed then ⟨w,files,true,true,false,some .renameFailed⟩
            else ⟨w,⟨true,false⟩,true,true,true,none⟩

def write (script : Script) (tracks : Tracks) (w : World) (files : Files) : Local :=
  let part := {files with part := true}
  if !script.outputIo || !script.mapped then ⟨w,part,true,true,false,some .allocation⟩
  else
    let w := w.output setting script.header.1
    if script.header.2.isSome then ⟨w.note .write,part,true,true,false,some .writeFailed⟩
    else conclude setting script part (loop setting tracks script.frames w false)

def refuse (w : World) (files : Files) (failure : Failure) : Local :=
  match w.stopRequested setting with
  | (w,stopped) => ⟨w,files,true,false,false,if stopped then none else some failure⟩

def probe (script : Script) (w : World) (files : Files) : Local :=
  let w := w.perform setting script.openInput.1
  if script.openInput.2.isSome then refuse setting w files .openFailed
  else
    let w := w.perform setting script.streamInfo.1
    if script.streamInfo.2.isSome || w.failed then refuse setting w files .tracksFailed
    else match script.video, script.audio with
      | some (_,true), some (_,false) => ⟨w,files,true,false,false,some .audioUnsupported⟩
      | some (video,true), audio =>
        if files.part || !script.creatable then ⟨w,files,true,false,false,some .partFailed⟩
        else write setting script ⟨script.streams,video,audio.map (·.1)⟩ w files
      | _, _ => ⟨w,files,true,false,false,some .notH264⟩

def body (script : Script) (files : Files) : Local :=
  let w := World.start
  if !script.allocated then ⟨w,files,false,false,false,some .allocation⟩
  else if files.target then ⟨w,files,false,false,false,some .targetExists⟩
  else if script.forever then ⟨w,files,false,false,false,some .noDeadline⟩
  else match script.opened with
    | some e =>
      match w.interruptionRequested setting with
      | (w,interrupted) =>
        ⟨w,files,true,false,false,if interrupted then none
          else some (if e = .timedOut then .connectTimeout else .connectFailed)⟩
    | none =>
      if !script.inputIo then ⟨w,files,true,false,false,some .allocation⟩
      else probe setting script w files

def late (s : Local) : World × Option Failure :=
  match s.world.stopRequested setting with
  | (w,true) => (w,s.error)
  | (w,false) =>
    if s.http then
      match w.deadlineExpired setting with
      | (w,true) => (w,some .deadline)
      | (w,false) => (w,s.error)
    else (w,s.error)

def cleanup (script : Script) (s : Local) : Local :=
  let late := late setting s
  let files := if s.created && !s.saved && script.removed then {s.files with part := false}
    else s.files
  let stopped := late.1.finishRequested setting
  let cancelled := stopped.1.interruptionRequested setting
  if !s.saved && late.2.isNone && stopped.2 && !cancelled.2 then
    {s with world := cancelled.1, files, error := some .stoppedEarly}
  else {s with world := cancelled.1, files, error := late.2}

def run (script : Script) (files : Files) : Local :=
  cleanup setting script (body setting script files)

end

variable {setting : Setting} {w : World} {videoWritten : Bool}

def Finished (w : World) (videoWritten : Bool) : Prop :=
  ∃ before, w.log = before ++ [.eof true] ∧
    (∀ seen ∈ before, seen.bad = true → w.outputError = true ∧ seen = .write) ∧
    (videoWritten = true → .video ∈ before)

structure Running (setting : Setting) (w : World) (videoWritten : Bool) : Prop where
  kept : Kept setting False w
  video : videoWritten = true → .video ∈ w.log

def Turned (setting : Setting) (result : World × Bool × Option LoopEnd) : Prop :=
  match result with
  | (w,videoWritten,none) => Running setting w videoWritten
  | (w,videoWritten,some ended) => ended.sourceEnded = true → Finished w videoWritten

theorem Running.later {next : World} (running : Running setting w videoWritten)
    (later : Later w next) (kept : Kept setting False next) : Running setting next videoWritten :=
  ⟨kept,fun written => later.log (running.video written)⟩

/- What a saved recording has seen: the end of the source with the message fully parsed and nothing
bad before it, a video packet, and then every step of the end succeeding. -/
def Complete (log : List Seen) : Prop :=
  ∃ before after, log = before ++ .eof true :: after ∧ (∀ seen ∈ before, seen.bad = false) ∧
    .video ∈ before ∧ [.trailer true,.flush true,.close true,.rename true].Sublist after

theorem Complete.adds {log added : List Seen} (complete : Complete log) :
    Complete (log ++ added) := by
  obtain ⟨before,after,cut,clean,video,steps⟩ := complete
  refine ⟨before,after ++ added,by rw [cut]; simp,clean,video,?_⟩
  exact steps.trans (List.sublist_append_left ..)

namespace Sample

def response : Response := ⟨200,true,"Video/MPEG; charset=x".toList⟩

def body : Poll := ⟨false,⟨0,.none,none,0,false⟩,100,false,false⟩
def parsed : Poll := ⟨false,⟨100,.needBuffer,some response,80,true⟩,0,false,false⟩
def tail : Poll := ⟨false,⟨0,.none,none,0,false⟩,0,false,false⟩

def packet (stream : Nat) (type : MediaType) (corrupt : Bool) : Reading :=
  ⟨[],.ok ⟨stream,type,corrupt,[true],none⟩⟩

def script (frames : List Reading) (removed : Bool) : Script where
  allocated := true
  forever := false
  opened := none
  inputIo := true
  openInput := ([.read 65536 [body,parsed]],none)
  streamInfo := ([.interrupt],none)
  video := some (0,true)
  audio := none
  streams := 2
  creatable := true
  outputIo := true
  mapped := true
  header := ([true],none)
  frames
  trailer := ([true],none)
  flush := [true]
  closed := true
  renamed := true
  removed

def ffmpeg : Avio where
  afterRead
    | kept, .ok _ | kept, .error .eof => kept
    | _, .error e => some e
  afterWrites kept fine := kept || !fine
  keepsRead kept result := by
    cases result with
    | ok n => simp [Fails]
    | error e => cases e <;> simp [Fails]
  keepsWrites := by decide

def never : Setting := ⟨none,none,none,ffmpeg⟩

def ended : Reading := ⟨[.read 65536 [tail]],.error .eof⟩

end Sample

open Sample

end MediaServer.Recording
