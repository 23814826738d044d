import MediaServer.RtmpTimes

/-! The range of the times of a publish session. The counter adds up signed steps that the publisher
chooses, so a long session of long steps leaves the range of a 64-bit integer. -/
namespace MediaServer.RtmpPublish
open Bytes Handler StreamCalls WrapClock

def Int64Range (value : Int) : Prop := -2 ^ 63 ≤ value ∧ value < 2 ^ 63

instance (value : Int) : Decidable (Int64Range value) := by unfold Int64Range; infer_instance

structure Ranged (run : List (Call Session Event StreamEffect)) : Prop where
  counters : ∀ call ∈ run, Int64Range call.turn.state.timestamp.milliseconds
  frames : ∀ p ∈ publications run, Int64Range p.frame.dtsNs ∧ Int64Range p.frame.ptsNs ∧
    Int64Range (nsToMilliseconds p.frame.dtsNs) ∧ Int64Range (nsToMilliseconds p.frame.ptsNs)

def advanced : UInt32 → Int → List UInt32 → Int
  | _, time, [] => time
  | last, time, dts :: rest => advanced dts (time + rtmpTimestampDelta dts last) rest

def elapsed : List UInt32 → Int
  | [] => 0
  | first :: rest => advanced first first.toNat rest

def maxMilliseconds : Int := 9223372036854

def Bounded (time : Int) : Prop := -maxMilliseconds ≤ time ∧ time ≤ maxMilliseconds

/- No frame lies more than 292 years from zero, by the steps of the dts up to it. -/
def WithinSteps (sent : List (UInt32 × UInt32)) : Prop :=
  ∀ before dts pts after, sent = before ++ (dts,pts) :: after →
    Bounded (elapsed (before.map Prod.fst ++ [dts])) ∧
      Bounded (elapsed (before.map Prod.fst ++ [dts]) + rtmpTimestampDelta pts dts)

def Publication.sent (p : Publication) : UInt32 × UInt32 := (p.dts,p.pts)

theorem rangeBounded (time : Int) : Int64Range (millisecondsToNs time) ↔ Bounded time := by
  simp only [Int64Range,Bounded,millisecondsToNs,maxMilliseconds]
  omega

theorem deltaBounds (current previous : UInt32) :
    -2 ^ 31 ≤ rtmpTimestampDelta current previous ∧
      rtmpTimestampDelta current previous ≤ 2 ^ 31 - 1 := by
  have bound := (current - previous).toNat_lt
  simp only [rtmpTimestampDelta]
  split <;> omega

theorem advancedBounds (last : UInt32) (time : Int) (rest : List UInt32) :
    time - 2 ^ 31 * rest.length ≤ advanced last time rest ∧
      advanced last time rest ≤ time + (2 ^ 31 - 1) * rest.length := by
  induction rest generalizing last time with
  | nil => simp [advanced]
  | cons dts rest ih =>
    have step := deltaBounds dts last
    have later := ih dts (time + rtmpTimestampDelta dts last)
    simp only [advanced,List.length_cons]
    push_cast
    omega

theorem Follows.advanced {state : RtmpTimestampState} {sent : List Publication}
    (follows : Follows state sent) (started : state.started = true) :
    ∀ before p after, sent = before ++ p :: after →
      p.frame.dtsNs = millisecondsToNs (advanced state.last state.milliseconds
        (before.map Publication.dts ++ [p.dts])) ∧
      p.frame.ptsNs = millisecondsToNs (advanced state.last state.milliseconds
        (before.map Publication.dts ++ [p.dts]) + rtmpTimestampDelta p.pts p.dts) := by
  induction follows with
  | none => simp
  | @frame state q rest dtsNs ptsNs later ih =>
    have next : unwrapRtmpTimestamp q.dts state =
        ⟨q.dts,state.milliseconds + rtmpTimestampDelta q.dts state.last,true⟩ := by
      simp [unwrapRtmpTimestamp,started]
    rw [next] at dtsNs ptsNs ih
    intro before p after cut
    cases before with
    | nil =>
      cases cut
      exact ⟨dtsNs,ptsNs⟩
    | cons first before =>
      cases cut
      exact ih rfl before p after rfl

theorem Follows.elapsed {sent : List Publication} (follows : Follows ⟨0,0,false⟩ sent) :
    ∀ before p after, sent = before ++ p :: after →
      p.frame.dtsNs = millisecondsToNs (elapsed (before.map Publication.dts ++ [p.dts])) ∧
      p.frame.ptsNs = millisecondsToNs
        (elapsed (before.map Publication.dts ++ [p.dts]) + rtmpTimestampDelta p.pts p.dts) := by
  cases follows with
  | none => simp
  | @frame _ q rest dtsNs ptsNs later =>
    intro before p after cut
    cases before with
    | nil =>
      cases cut
      exact ⟨dtsNs,ptsNs⟩
    | cons first before =>
      cases cut
      exact later.advanced rfl before p after rfl

theorem callsCounters (readers : Readers) (s : Session) (events : List Event) :
    ∀ call ∈ calls (handle readers) s events,
      call.turn.state.timestamp.milliseconds = s.timestamp.milliseconds ∨
        ∃ p ∈ publications (calls (handle readers) s events),
          p.frame.dtsNs = millisecondsToNs call.turn.state.timestamp.milliseconds := by
  induction events generalizing s with
  | nil => simp [calls]
  | cons e rest ih =>
    let later := if (handle readers s e).ok then calls (handle readers) (handle readers s e).state rest
      else []
    have split_ : publications (calls (handle readers) s (e :: rest)) =
        (published (handle readers s e)).filterMap (Publication.of e) ++ publications later := by
      simp only [publications,calls,List.flatMap_cons,later]
    have here : (handle readers s e).state.timestamp.milliseconds = s.timestamp.milliseconds ∨
        ∃ p ∈ publications (calls (handle readers) s (e :: rest)),
          p.frame.dtsNs = millisecondsToNs (handle readers s e).state.timestamp.milliseconds := by
      rw [split_]
      cases clocked readers s e with
      | quiet unclocked => exact .inl (by rw [unclocked.clock])
      | @frame codec data pts dts flags vacant frame event one clock dtsNs ptsNs =>
        refine .inr ⟨⟨pts,dts,frame⟩,List.mem_append_left _ ?_,by rw [clock]; exact dtsNs⟩
        rw [one,event]
        exact List.mem_cons_self ..
    intro call member
    rcases List.mem_cons.mp member with same | after
    · subst same
      exact here
    · have inside : call ∈ later := after
      rw [split_] at here ⊢
      simp only [later] at inside ⊢
      split at inside
      · rename_i ok
        rcases ih _ call inside with same | ⟨p,found,ns⟩
        · rw [same]
          simpa only [later] using here
        · exact .inr ⟨p,List.mem_append_right _ (by rw [if_pos ok]; exact found),ns⟩
      · contradiction

theorem msExact (time : Int) : nsToMilliseconds (millisecondsToNs time) = time := by
  simp only [nsToMilliseconds,millisecondsToNs]
  exact Int.mul_tdiv_cancel _ (by decide)

theorem rangedIff (readers : Readers) (events : List Event) :
    Ranged (session readers events) ↔
      WithinSteps ((publications (session readers events)).map Publication.sent) := by
  have follows := callsFollow readers .start events
  have places := follows.elapsed
  constructor
  · intro ranged before dts pts after cut
    obtain ⟨first,rest,whole,firsts,rests⟩ := List.map_eq_append_iff.mp cut
    obtain ⟨p,others,same,mine,_⟩ := List.map_eq_cons_iff.mp rests
    subst same firsts
    cases mine
    obtain ⟨dtsNs,ptsNs⟩ := places first p others whole
    obtain ⟨dtsFits,ptsFits,_⟩ := ranged.frames p (by
      rw [whole]
      exact List.mem_append_right _ (List.mem_cons_self ..))
    rw [dtsNs,rangeBounded] at dtsFits
    rw [ptsNs,rangeBounded] at ptsFits
    rw [List.map_map]
    exact ⟨dtsFits,ptsFits⟩
  · intro within
    have frames : ∀ p ∈ publications (session readers events),
        (∃ time, p.frame.dtsNs = millisecondsToNs time ∧ Bounded time) ∧
          ∃ time, p.frame.ptsNs = millisecondsToNs time ∧ Bounded time := by
      intro p member
      obtain ⟨before,after,cut⟩ := List.append_of_mem member
      obtain ⟨dtsNs,ptsNs⟩ := places before p after cut
      have bounds := within (before.map Publication.sent) p.dts p.pts (after.map Publication.sent)
        (by rw [cut,List.map_append]; rfl)
      rw [List.map_map] at bounds
      exact ⟨⟨_,dtsNs,bounds.1⟩,⟨_,ptsNs,bounds.2⟩⟩
    have fits {time : Int} (bounded : Bounded time) : Int64Range time := by
      simp only [Bounded,maxMilliseconds,Int64Range] at bounded ⊢
      omega
    refine ⟨?_,?_⟩
    · intro call member
      rcases callsCounters readers .start events call member with same | ⟨p,found,ns⟩
      · rw [same]
        decide
      · obtain ⟨⟨time,dtsNs,bounded⟩,_⟩ := frames p found
        have equal : call.turn.state.timestamp.milliseconds = time := by
          rw [← msExact call.turn.state.timestamp.milliseconds,← ns,dtsNs,msExact]
        rw [equal]
        exact fits bounded
    · intro p member
      obtain ⟨⟨dts,dtsNs,dtsBound⟩,⟨pts,ptsNs,ptsBound⟩⟩ := frames p member
      rw [dtsNs,ptsNs,msExact,msExact]
      exact ⟨(rangeBounded dts).mpr dtsBound,(rangeBounded pts).mpr ptsBound,fits dtsBound,
        fits ptsBound⟩

theorem withinFew {sent : List (UInt32 × UInt32)} (few : sent.length ≤ 4292) : WithinSteps sent := by
  intro before dts pts after cut
  have length : before.length + 1 ≤ 4292 := by
    rw [cut,List.length_append,List.length_cons] at few
    omega
  have offset := deltaBounds pts dts
  have bounds : -2 ^ 31 * before.length ≤ elapsed (before.map Prod.fst ++ [dts]) ∧
      elapsed (before.map Prod.fst ++ [dts]) ≤ 2 ^ 32 - 1 + (2 ^ 31 - 1) * before.length := by
    cases before with
    | nil =>
      have fits := dts.toNat_lt
      simp only [List.map_nil,List.nil_append,elapsed,advanced,List.length_nil]
      omega
    | cons first rest =>
      have fits := first.1.toNat_lt
      have bounds := advancedBounds first.1 first.1.toNat (rest.map Prod.fst ++ [dts])
      simp only [List.length_append,List.length_map,List.length_singleton] at bounds
      simp only [List.map_cons,List.cons_append,elapsed,List.length_cons]
      push_cast at bounds ⊢
      omega
  simp only [Bounded,maxMilliseconds]
  omega

theorem rtmpTimesInRange (readers : Readers) (events : List Event) :
    (Ranged (session readers events) ↔
      WithinSteps ((publications (session readers events)).map Publication.sent)) ∧
    ((publications (session readers events)).length ≤ 4292 → Ranged (session readers events)) := by
  refine ⟨rangedIff readers events,?_⟩
  intro few
  exact (rangedIff readers events).mpr (withinFew (by rw [List.length_map]; exact few))

def longSteps (last : UInt32) : Nat → List UInt32
  | 0 => []
  | n + 1 => (last + 2147483647) :: longSteps (last + 2147483647) n

theorem advancedLong (last : UInt32) (time : Int) (n : Nat) :
    advanced last time (longSteps last n) = time + n * (2 ^ 31 - 1) := by
  induction n generalizing last time with
  | zero => simp [longSteps,advanced]
  | succ n ih =>
    have step : rtmpTimestampDelta (last + 2147483647) last = 2 ^ 31 - 1 := by
      have cancel : last + 2147483647 - last = 2147483647 := by
        rw [UInt32.add_comm,UInt32.add_sub_cancel]
      simp only [rtmpTimestampDelta,cancel]
      decide
    simp only [longSteps,advanced,step,ih]
    push_cast
    omega

def videoFrame (dts : UInt32) : Event := .demux .h264 [] dts dts 0 true

theorem publicationsVideo (readers : Readers) {s : Session} (tracks : s.tracks = [avcTrack])
    (sent : List UInt32) :
    (publications (calls (handle readers) s (sent.map videoFrame))).map Publication.dts = sent := by
  induction sent generalizing s with
  | nil => rfl
  | cons dts rest ih =>
    have here : ∃ frame, handle readers s (videoFrame dts) =
        ⟨{s with timestamp := unwrapRtmpTimestamp dts s.timestamp},[.publish frame],true⟩ := by
      simp [handle,videoFrame,onFlvDemux,onRawFrame,publishMedia,FlvCodec.g711,FlvCodec.raw,tracks,
        Session.fixed,avcTrack,videoTrackId]
    obtain ⟨frame,here⟩ := here
    have later := ih (s := {s with timestamp := unwrapRtmpTimestamp dts s.timestamp}) tracks
    simp only [List.map_cons,calls,publications,List.flatMap_cons,here,if_true] at later ⊢
    rw [List.map_append,later]
    rfl

def videoEvents (sent : List UInt32) : List Event :=
  .script (2 :: onMetaData ++ audioAbsent) true :: .demux .avcc avcRecord 0 0 0 true ::
    sent.map videoFrame

theorem publicationsSession (sent : List UInt32) :
    (publications (session plainReaders (videoEvents sent))).map Publication.dts = sent :=
  publicationsVideo (s := ⟨[avcTrack],⟨0,0,false⟩,none,none,some false,none⟩) plainReaders rfl sent

theorem longOverflow {n : Nat} (long : 4295 ≤ n) :
    ¬Ranged (session plainReaders (videoEvents (0 :: longSteps 0 n))) := by
  intro ranged
  have sent := publicationsSession (0 :: longSteps 0 n)
  have follows := callsFollow plainReaders .start (videoEvents (0 :: longSteps 0 n))
  rcases List.eq_nil_or_concat'
    (publications (session plainReaders (videoEvents (0 :: longSteps 0 n)))) with
    empty | ⟨before,p,whole⟩
  · rw [empty] at sent
    contradiction
  · have last := (follows.elapsed before p [] whole).1
    rw [whole,List.map_append,List.map_singleton] at sent
    rw [sent,elapsed,advancedLong,millisecondsToNs] at last
    obtain ⟨_,fits⟩ := (ranged.frames p (by
      rw [whole]
      exact List.mem_append_right _ (List.mem_cons_self ..))).1
    have zero : (0 : UInt32).toNat = 0 := rfl
    rw [last,zero] at fits
    omega

theorem rtmpTimesOverflow :
    ¬Ranged (session plainReaders (videoEvents (0 :: longSteps 0 4295))) :=
  longOverflow (le_refl _)

end MediaServer.RtmpPublish
