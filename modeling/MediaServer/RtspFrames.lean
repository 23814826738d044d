import MediaServer.RtspPlay
import MediaServer.RtspReports

/-! on_frame of a play session, as the connection sees it and as the sender reports see it. The
connection takes from a frame only whether it ends the session; with that read off the other model,
the two stay together for every sequence of frames. -/
namespace MediaServer.RtspReports
open Controller

structure Plays (session : RtspPlay.Session) (s : Player) : Prop where
  playing : session.playing = s.playing
  waiting : session.waiting = s.waiting
  tracks : ∀ id,
    (session.tracks.find? fun item => item.1 = id).map (fun item => (item.2.kind,item.2.up)) =
      (s.tracks.lookup id).map fun track => (track.format.kind,track.up)

def fateOf (effects : List Effect) : RtspPlay.Fate :=
  if .shutdown ∈ effects then .failed else if .write ∈ effects then .written else .dropped

def Frame.played (s : Player) (frame : Frame) : RtspPlay.Frame :=
  ⟨frame.track,frame.keyFrame,frame.payload,fateOf (onFrame s frame).2⟩

theorem fateFailed (effects : List Effect) :
    decide (fateOf effects = .failed) = decide (.shutdown ∈ effects) := by
  unfold fateOf
  split
  · simp_all
  · split <;> simp_all

theorem emitKeeps (s : Player) (track : Track) (frame : Frame) :
    (emitReport s track frame).1.playing = s.playing ∧
      (emitReport s track frame).1.waiting = s.waiting ∧
      (emitReport s track frame).1.tracks = s.tracks := by
  unfold emitReport
  split
  · exact ⟨rfl,rfl,rfl⟩
  · split <;> exact ⟨rfl,rfl,rfl⟩

variable {session : RtspPlay.Session} {s : Player}

theorem Plays.sent {next : Player} (plays : Plays session s)
    (keeps : next.playing = true ∧ next.waiting = none ∧ next.tracks = s.tracks) :
    Plays {session with waiting := none, playing := true} next :=
  ⟨keeps.1.symm,keeps.2.1.symm,fun id => by rw [keeps.2.2]; exact plays.tracks id⟩

theorem takenKeeps {frame : Frame} {track : Track} (playing : s.playing = true)
    (awake : (s.waiting.any fun track => frame.track ≠ track || !frame.keyFrame) = false)
    (found : s.tracks.lookup frame.track = some track)
    (sent : (!frame.payload || !track.up) = false) :
    (onFrame s frame).1.playing = true ∧ (onFrame s frame).1.waiting = none ∧
      (onFrame s frame).1.tracks = s.tracks := by
  simp only [onFrame,playing,awake,found,sent,Bool.not_true,Bool.false_eq_true,if_false]
  split
  · exact ⟨rfl,rfl,rfl⟩
  · split
    · exact ⟨rfl,rfl,rfl⟩
    · split
      · exact ⟨rfl,rfl,rfl⟩
      · exact emitKeeps {s with waiting := none, playing := true} track frame

theorem sessionTaken {frame : RtspPlay.Frame} {item : Nat × RtspPlay.Track}
    (goes : session.playing = true)
    (awake : (session.waiting.any fun track => frame.track ≠ track || !frame.keyFrame) = false)
    (here : (session.tracks.find? fun item => item.1 = frame.track) = some item)
    (sent : (!frame.payload || !item.2.up) = false) :
    session.onFrame frame =
      ({session with waiting := none, playing := true},decide (frame.fate = .failed)) := by
  simp only [RtspPlay.Session.onFrame,goes,awake,here,sent,Bool.not_true,Bool.false_eq_true,if_false]

theorem framePlays (plays : Plays session s) (frame : Frame) :
    Plays (session.onFrame (frame.played s)).1 (onFrame s frame).1 ∧
      (session.onFrame (frame.played s)).2 = decide (.shutdown ∈ (onFrame s frame).2) := by
  have quiet : Plays {session with waiting := none, playing := true}
      {s with waiting := none, playing := true} := plays.sent ⟨rfl,rfl,rfl⟩
  have listed := plays.tracks frame.track
  cases playing : s.playing with
  | false =>
    have still : session.playing = false := plays.playing.trans playing
    simp only [RtspPlay.Session.onFrame,onFrame,playing,still]
    exact ⟨plays,by simp⟩
  | true =>
    have goes : session.playing = true := plays.playing.trans playing
    cases awake : s.waiting.any fun track => frame.track ≠ track || !frame.keyFrame with
    | true =>
      simp only [RtspPlay.Session.onFrame,Frame.played,onFrame,playing,goes,plays.waiting,awake]
      exact ⟨plays,by simp⟩
    | false =>
      cases found : s.tracks.lookup frame.track with
      | none =>
        have absent : (session.tracks.find? fun item => item.1 = frame.track) = none := by
          simpa [found] using listed
        simp only [RtspPlay.Session.onFrame,Frame.played,onFrame,playing,goes,plays.waiting,awake,
          found,absent,Bool.not_true,Bool.false_eq_true,if_false]
        exact ⟨quiet,by simp⟩
      | some track =>
        rw [found] at listed
        obtain ⟨⟨id,item⟩,here,same⟩ := Option.map_eq_some_iff.mp listed
        have up : item.up = track.up := (Prod.mk.inj same).2
        cases sent : !frame.payload || !track.up with
        | true =>
          simp only [RtspPlay.Session.onFrame,Frame.played,onFrame,playing,goes,plays.waiting,awake,
            found,here,up,sent,Bool.not_true,Bool.false_eq_true,if_false,if_true]
          exact ⟨quiet,by simp⟩
        | false =>
          have next := plays.sent (takenKeeps playing awake found sent)
          rw [sessionTaken goes (plays.waiting ▸ awake) here (up ▸ sent)]
          exact ⟨next,fateFailed _⟩

def playFrames : RtspPlay.Session → Player → List Frame → RtspPlay.Session
  | session, _, [] => session
  | session, s, frame :: rest =>
    playFrames (session.onFrame (frame.played s)).1 (onFrame s frame).1 rest

theorem framesPlay (plays : Plays session s) (frames : List Frame) :
    Plays (playFrames session s frames) (final onFrame s frames) := by
  induction frames generalizing session s with
  | nil => exact plays
  | cons frame rest ih => exact ih (framePlays plays frame).1

end MediaServer.RtspReports
