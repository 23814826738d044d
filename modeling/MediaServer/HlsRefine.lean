import MediaServer.HlsContent

/-! The segmenter that keeps bytes against the one of the segmenter table, which keeps the frames
themselves. The frames are kept for what the muxer made of them; everything that decides where a
segment ends, when one is discarded and when the segmenter ends is the same in both. -/
namespace MediaServer.HlsSegmenter
open Bytes Controller

section
variable {μ Stream : Type} {muxer : TsMuxer μ} {g : Segmenter μ} {k : Hls.Segmenter Stream}

structure Shown (g : Segmenter μ) (k : Hls.Segmenter Stream) : Prop where
  tracks : k.tracks = g.tracks
  segments : k.segments.map (fun s => (s.sequence,s.duration)) =
    g.segments.map fun s => (s.sequence,s.duration)
  current : k.current = [] ↔ g.currentSegment = []
  next : k.nextSequence = g.nextSequence
  start : k.segmentStart = g.segmentStartPtsNs
  latest : k.segmentMax = g.segmentMaxPtsNs
  ended : k.endedAt = g.endedAt
  waits : k.waitingForKeyFrame = g.waitingForKeyFrame
  video : k.hasVideo = g.hasVideo
  muxed : g.endedAt = none → g.muxer.isSome = true

def tagged (stream : Stream) (frame : MediaFrame) : Hls.Frame Stream :=
  ⟨stream,frame.track,frame.ptsNs,frame.keyFrame⟩

def Faults.muxing (faults : Faults) (write : Hls.Write) : Hls.Muxing :=
  ⟨faults.next,write,faults.again⟩

@[simp] theorem taggedPts (stream : Stream) (frame : MediaFrame) :
    (tagged stream frame).pts = frame.ptsNs := rfl

@[simp] theorem taggedKeyFrame (stream : Stream) (frame : MediaFrame) :
    (tagged stream frame).keyFrame = frame.keyFrame := rfl

theorem Shown.finishSegment (shown : Shown g k) (stop : Int) :
    Shown (g.finishSegment stop).1 (k.finishSegment stop) := by
  unfold Segmenter.finishSegment Hls.Segmenter.finishSegment
  by_cases empty : g.currentSegment = []
  · rw [if_pos (by simp [empty]),if_pos (by simp [shown.current.mpr empty])]
    exact shown
  · have filled : k.current ≠ [] := fun none_ => empty (shown.current.mp none_)
    rw [if_neg (by simpa using empty),if_neg (by simpa using filled)]
    have count : k.segments.length = g.segments.length := by
      simpa using congrArg List.length shown.segments
    refine {shown with segments := ?_, current := by simp, next := by simp [shown.next]}
    simp [List.map_drop,shown.segments,count,shown.next,shown.start,Segmenter.duration]

theorem Shown.begin (shown : Shown g k) (pts : Int) : Shown (g.begin pts) (k.begin pts) :=
  {shown with start := rfl, latest := rfl}

theorem Shown.discard (shown : Shown g k) (again : Bool) (now : Int) :
    Shown (g.discardSegment muxer again now).1 (k.discardSegment again now) := by
  refine {shown with current := by simp [Segmenter.discardSegment,Hls.Segmenter.discardSegment]
                     start := rfl, latest := rfl, ended := ?_, waits := shown.video, muxed := ?_}
  · simp only [Segmenter.discardSegment,Hls.Segmenter.discardSegment,shown.ended]
  · cases again with
    | true => exact fun _ => rfl
    | false => exact fun going => absurd going (Option.some_ne_none now)

theorem Shown.write (produces : Produces muxer) (shown : Shown g k) (going : g.endedAt = none)
    (stream : Stream) (frame : MediaFrame) (faults : Faults) (now : Int) :
    ∃ write, Shown (g.write muxer frame faults now).1
      (k.write (tagged stream frame) (faults.muxing write) now) := by
  have call := written muxer g frame faults now
  generalize (g.write muxer frame faults now).1 = g' at call
  generalize (g.write muxer frame faults now).2 = effects at call
  cases call with
  | stuck none_ =>
    have mux := shown.muxed going
    rw [none_] at mux
    contradiction
  | @added m _ _ _ here out =>
    refine ⟨.written,{shown with current := ?_, latest := ?_, muxed := fun _ => rfl}⟩
    · have bytes := produces.some_ m (packet frame)
      rw [out] at bytes
      simp [Hls.Segmenter.write,Faults.muxing,bytes]
    · simp [Hls.Segmenter.write,Faults.muxing,shown.latest]
  | discarded here out wrote fails => exact ⟨.failed,shown.discard faults.again now⟩

theorem Shown.opened (shown : Shown g k) (pts : Int) : Shown (g.opened pts) (k.opened pts) := by
  have awake : Shown {g with waitingForKeyFrame := false} {k with waitingForKeyFrame := false} :=
    {shown with waits := rfl}
  have same : k.segmentStart.isSome = g.segmentStartPtsNs.isSome := by rw [shown.start]
  simp only [Segmenter.opened,Hls.Segmenter.opened,same]
  split
  · exact awake
  · exact awake.begin pts

theorem Shown.boundary (shown : Shown g k) (stream : Stream) (track : MediaTrack)
    (frame : MediaFrame) (start : Int) :
    k.boundary track (tagged stream frame) start = g.boundary track frame start := by
  have empty : k.current.isEmpty = g.currentSegment.isEmpty := by
    rw [Bool.eq_iff_iff,List.isEmpty_iff,List.isEmpty_iff]
    exact shown.current
  simp only [Hls.Segmenter.boundary,Segmenter.boundary,shown.video,empty]
  rfl

theorem Shown.renew (produces : Produces muxer) (shown : Shown g k) (going : g.endedAt = none)
    (stream : Stream) (frame : MediaFrame) (faults : Faults) (now : Int) :
    ∃ write, Shown (g.renew muxer frame faults now).1
      (k.renew (tagged stream frame) (faults.muxing write) now) := by
  have cut := shown.finishSegment frame.ptsNs
  have still : (g.finishSegment frame.ptsNs).1.endedAt = none := by
    unfold Segmenter.finishSegment
    split <;> exact going
  cases again : faults.next with
  | true =>
    have fresh : Shown {(g.finishSegment frame.ptsNs).1 with
        muxer := some (muxer.create (g.finishSegment frame.ptsNs).1.tracks)}
        (k.finishSegment frame.ptsNs) := {cut with muxed := fun _ => rfl}
    obtain ⟨write,after⟩ := (fresh.begin frame.ptsNs).write produces still stream frame faults now
    refine ⟨write,?_⟩
    simp only [Segmenter.renew,Hls.Segmenter.renew,Faults.muxing,again,if_true] at after ⊢
    exact after
  | false =>
    refine ⟨.written,?_⟩
    simp only [Segmenter.renew,Hls.Segmenter.renew,Faults.muxing,again,Bool.false_eq_true,if_false]
    exact {cut with ended := rfl, muxed := fun going => absurd going (Option.some_ne_none now)}

theorem Shown.onTrack (produces : Produces muxer) (shown : Shown g k) (going : g.endedAt = none)
    (stream : Stream) (track : MediaTrack) (frame : MediaFrame) (faults : Faults) (now : Int) :
    ∃ write, Shown (g.onTrack muxer track frame faults now).1
      (k.onTrack track (tagged stream frame) (faults.muxing write) now) := by
  have opened := shown.opened frame.ptsNs
  have still : (g.opened frame.ptsNs).endedAt = none :=
    (openedSame g frame.ptsNs).2.2.2.2.2.1.trans going
  have boundary := opened.boundary stream track frame
  simp only [Segmenter.onTrack,Hls.Segmenter.onTrack,shown.waits,taggedKeyFrame,taggedPts]
  split
  · exact ⟨.written,shown⟩
  · simp only [opened.start,boundary]
    split
    · exact opened.renew produces still stream frame faults now
    · exact opened.write produces still stream frame faults now

theorem Shown.onFrame (produces : Produces muxer) (shown : Shown g k) (stream : Stream)
    (frame : MediaFrame) (faults : Faults) (now : Int) :
    ∃ write, Shown (g.onFrame muxer frame faults now).1
      (k.onFrame (tagged stream frame) (faults.muxing write) now) := by
  have find : (k.tracks.find? fun track => track.id = (tagged stream frame).track) =
      g.tracks.find? fun track => track.id = frame.track := by rw [shown.tracks]; rfl
  unfold Segmenter.onFrame Hls.Segmenter.onFrame
  rw [shown.ended]
  split
  · exact ⟨.written,shown⟩
  · rename_i going
    split
    · rename_i track found
      rw [find.trans found]
      exact shown.onTrack produces (by simpa using going) stream track frame faults now
    · rename_i absent
      rw [find.trans absent]
      exact ⟨.written,shown⟩

theorem Shown.finish (shown : Shown g k) (now : Int) : Shown (g.finish now).1 (k.finish now) := by
  unfold Segmenter.finish Hls.Segmenter.finish
  rw [shown.ended,shown.latest]
  split
  · exact shown
  · exact {shown.finishSegment g.segmentMaxPtsNs with
      ended := rfl, muxed := fun going => absurd going (Option.some_ne_none now)}

theorem startupShown {tracks : List MediaTrack} {created : Bool} (stream : Stream)
    (start : startup muxer tracks created = some g) :
    ∃ k, Hls.Segmenter.startup stream tracks created = some k ∧ Shown g k := by
  unfold startup at start
  unfold Hls.Segmenter.startup
  dsimp only at start ⊢
  split at start
  · contradiction
  · rename_i ready
    cases Option.some.inj start
    exact ⟨_,if_neg ready,⟨rfl,rfl,by simp,rfl,rfl,rfl,rfl,rfl,rfl,fun _ => rfl⟩⟩

inductive Played (stream : Stream) (k : Hls.Segmenter Stream) :
    List Event → Hls.Segmenter Stream → Prop where
  | started : Played stream k [] k
  | onFrame {past l frame faults now} (before : Played stream k past l) (write : Hls.Write) :
      Played stream k (past ++ [.onFrame frame faults now])
        (l.onFrame (tagged stream frame) (faults.muxing write) now)
  | finish {past l now} (before : Played stream k past l) :
      Played stream k (past ++ [.finish now]) (l.finish now)

theorem segmenterRefines (produces : Produces muxer) {tracks : List MediaTrack} {created : Bool}
    (stream : Stream) (start : startup muxer tracks created = some g) (events : List Event) :
    ∃ k l, Hls.Segmenter.startup stream tracks created = some k ∧ Played stream k events l ∧
      Shown (final (step muxer) g events) l := by
  obtain ⟨k,started,shown⟩ := startupShown stream start
  have run : ∃ l, Played stream k (([] ++ rounds (step muxer) g events).map Round.event) l ∧
      Shown (final (step muxer) g events) l := by
    refine finalHistory (P := fun past g => ∃ l, Played stream k (past.map Round.event) l ∧ Shown g l)
      ⟨k,.started,shown⟩ ?_
    rintro past g e ⟨l,played,before⟩
    rw [List.map_append]
    cases e with
    | onFrame frame faults now =>
      obtain ⟨write,after⟩ := before.onFrame produces stream frame faults now
      exact ⟨_,played.onFrame write,after⟩
    | finish now => exact ⟨_,played.finish,before.finish now⟩
  obtain ⟨l,played,after⟩ := run
  rw [List.nil_append,roundsEvents] at played
  exact ⟨k,l,started,played,after⟩

end

end MediaServer.HlsSegmenter
