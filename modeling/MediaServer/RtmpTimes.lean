import MediaServer.PublishAudio
import MediaServer.WrapClock

/-! The times of a publish session, from the 32 bits of the wire to the frames it publishes and from
there to the 32 bits flv_tag_output hands to its muxer. -/
namespace MediaServer.RtmpPublish
open Bytes Handler StreamCalls WrapClock

def nsToMilliseconds (value : Int) : Int := value.tdiv 1000000
def nsToFlvMilliseconds (value : Int) : UInt32 := .ofInt (nsToMilliseconds value)

def flvTimes (frame : MediaFrame) : UInt32 × UInt32 :=
  (nsToFlvMilliseconds frame.ptsNs,nsToFlvMilliseconds frame.dtsNs)

structure Publication where
  pts : UInt32
  dts : UInt32
  frame : MediaFrame
  deriving DecidableEq, Repr

def Publication.of (event : Event) (frame : MediaFrame) : Option Publication :=
  match event with
  | .demux _ _ pts dts _ _ => some ⟨pts,dts,frame⟩
  | .script .. => none

def publications (run : List (Call Session Event StreamEffect)) : List Publication :=
  run.flatMap fun call => (published call.turn).filterMap (Publication.of call.event)

def unwraps (state : RtmpTimestampState) : List UInt32 → List Int
  | [] => []
  | timestamp :: rest =>
    (unwrapRtmpTimestamp timestamp state).milliseconds ::
      unwraps (unwrapRtmpTimestamp timestamp state) rest

def RtmpTimestampState.Aligned (state : RtmpTimestampState) : Prop :=
  state.started = true → state.milliseconds % 2 ^ 32 = state.last.toNat

theorem deltaStep (current previous : UInt32) :
    rtmpTimestampDelta current previous =
      ((current.toNat : Int) - previous.toNat).bmod (2 ^ 32) := by
  have first := current.toNat_lt
  have second := previous.toNat_lt
  simp only [rtmpTimestampDelta,UInt32.toNat_sub,Int.bmod_def]
  split <;> split <;> omega

theorem unwrapNext {timestamp : UInt32} {state : RtmpTimestampState} (aligned : state.Aligned)
    (started : state.started = true) :
    (unwrapRtmpTimestamp timestamp state).milliseconds =
      next (2 ^ 32) state.milliseconds timestamp.toNat := by
  have bounded := state.last.toNat_lt
  have same := aligned started
  simp only [unwrapRtmpTimestamp,started,deltaStep]
  exact nextOf (by push_cast; omega)

theorem unwrapAligned (timestamp : UInt32) {state : RtmpTimestampState} (aligned : state.Aligned) :
    (unwrapRtmpTimestamp timestamp state).Aligned ∧
      (unwrapRtmpTimestamp timestamp state).last = timestamp ∧
      (unwrapRtmpTimestamp timestamp state).started = true := by
  have bounded := timestamp.toNat_lt
  cases started : state.started with
  | false =>
    simp only [unwrapRtmpTimestamp,started,Bool.not_false,if_true,and_true]
    intro _
    dsimp only
    omega
  | true =>
    have residue := nextResidue (M := 2 ^ 32) state.milliseconds timestamp.toNat
    rw [← unwrapNext aligned started] at residue
    refine ⟨?_,by simp [unwrapRtmpTimestamp,started],by simp [unwrapRtmpTimestamp,started]⟩
    intro _
    have last : (unwrapRtmpTimestamp timestamp state).last = timestamp := by
      simp [unwrapRtmpTimestamp,started]
    rw [last]
    push_cast at residue
    omega

theorem ofIntResidue (time : Int) : ((UInt32.ofInt time).toNat : Int) = time % 2 ^ 32 := by
  simp only [UInt32.ofInt,UInt32.toNat_ofNat']
  omega

theorem ofIntOf {time : Int} {sent : UInt32} (same : time % 2 ^ 32 = sent.toNat) :
    UInt32.ofInt time = sent := by
  refine UInt32.toNat.inj ?_
  have residue := ofIntResidue time
  omega

structure TrueTimes (times : List Int) : Prop where
  first : ∀ time ∈ times.head?, 0 ≤ time ∧ time < 2 ^ 32
  steps : times.IsChain fun a b => -2 ^ 31 ≤ b - a ∧ b - a < 2 ^ 31

variable {times : List Int} {s : Session} {sent : List Publication}

theorem unwrapsStarted {state : RtmpTimestampState} (aligned : state.Aligned)
    (started : state.started = true)
    (steps : (state.milliseconds :: times).IsChain fun a b => -2 ^ 31 ≤ b - a ∧ b - a < 2 ^ 31) :
    unwraps state (times.map UInt32.ofInt) = times := by
  induction times generalizing state with
  | nil => rfl
  | cons time rest ih =>
    obtain ⟨near,steps⟩ := List.isChain_cons_cons.mp steps
    have here : (unwrapRtmpTimestamp (.ofInt time) state).milliseconds = time := by
      rw [unwrapNext aligned started]
      refine nextExact ?_ ?_
      · simp only [Near]
        push_cast
        omega
      · have residue := ofIntResidue time
        push_cast
        omega
    obtain ⟨later,_,goes⟩ := unwrapAligned (.ofInt time) aligned
    simp only [List.map_cons,unwraps,here]
    rw [ih later goes (by rw [here]; exact steps)]

theorem unwrapsTrue (true_ : TrueTimes times) :
    unwraps ⟨0,0,false⟩ (times.map UInt32.ofInt) = times := by
  cases times with
  | nil => rfl
  | cons time rest =>
    have fits := true_.first time rfl
    have here : (unwrapRtmpTimestamp (.ofInt time) ⟨0,0,false⟩).milliseconds = time := by
      have residue := ofIntResidue time
      simp only [unwrapRtmpTimestamp,Bool.not_false,if_true]
      omega
    have fresh : RtmpTimestampState.Aligned ⟨0,0,false⟩ := nofun
    obtain ⟨aligned,_,started⟩ := unwrapAligned (.ofInt time) fresh
    simp only [List.map_cons,unwraps,here]
    rw [unwrapsStarted aligned started (by rw [here]; exact true_.steps)]

structure Unclocked (s : Session) (turn : Turn Session StreamEffect) : Prop where
  none : published turn = []
  clock : turn.state.timestamp = s.timestamp

theorem unclockedDone (s : Session) : Unclocked s (.done s) := ⟨rfl,rfl⟩
theorem unclockedFail (s : Session) : Unclocked s (.fail s) := ⟨rfl,rfl⟩

theorem unclockedRegister {u : Session} (vacant : Bool) (same : u.timestamp = s.timestamp) :
    Unclocked s (registerStreamIfReady vacant u) := by
  unfold registerStreamIfReady
  split
  · exact ⟨rfl,same⟩
  · split
    · exact ⟨rfl,same⟩
    · split
      · exact ⟨rfl,same⟩
      · split <;> exact ⟨rfl,same⟩

theorem unclockedCompare (s : Session) (track : MediaTrack) : Unclocked s (compareFixed s track) := by
  unfold compareFixed
  split
  · exact unclockedFail s
  · split
    · exact unclockedDone s
    · exact unclockedFail s

inductive Clocked (s : Session) (e : Event) (turn : Turn Session StreamEffect) : Prop where
  | quiet (unclocked : Unclocked s turn) : Clocked s e turn
  | frame {codec data pts dts flags vacant frame}
      (event : e = .demux codec data pts dts flags vacant) (one : published turn = [frame])
      (clock : turn.state.timestamp = unwrapRtmpTimestamp dts s.timestamp)
      (dtsNs : frame.dtsNs = millisecondsToNs (unwrapRtmpTimestamp dts s.timestamp).milliseconds)
      (ptsNs : frame.ptsNs = millisecondsToNs
        ((unwrapRtmpTimestamp dts s.timestamp).milliseconds + rtmpTimestampDelta pts dts)) :
      Clocked s e turn

theorem Clocked.after {e : Event} {turn : Turn Session StreamEffect}
    {rest : Session → Turn Session StreamEffect} (first : Unclocked s turn)
    (later : ∀ u, u.timestamp = s.timestamp → Clocked u e (rest u)) :
    Clocked s e (turn.andThen rest) := by
  unfold Turn.andThen
  split
  · have silent : published (⟨(rest turn.state).state,turn.effects ++ (rest turn.state).effects,
        (rest turn.state).ok⟩ : Turn Session StreamEffect) = published (rest turn.state) := by
      have none_ := first.none
      simp only [published] at none_ ⊢
      rw [List.filterMap_append,none_,List.nil_append]
    cases later turn.state first.clock with
    | quiet unclocked =>
      exact .quiet ⟨silent.trans unclocked.none,unclocked.clock.trans first.clock⟩
    | frame event one clock dtsNs ptsNs =>
      rw [first.clock] at clock dtsNs ptsNs
      exact .frame event (silent.trans one) clock dtsNs ptsNs
  · exact .quiet first

theorem clockedPublish (s : Session) (codec : FlvCodec) (data : Bytes) (pts dts : UInt32) (flags : Int)
    (vacant : Bool) : Clocked s (.demux codec data pts dts flags vacant)
      (publishMedia s codec data pts dts flags) := by
  unfold publishMedia
  split
  · exact .quiet (unclockedFail s)
  · split
    · refine .quiet ?_
      dsimp only
      split <;> split <;> first | exact unclockedFail s | exact unclockedDone s
    · split
      · exact .quiet (unclockedFail s)
      · exact .frame rfl rfl rfl rfl rfl

theorem inferClock (s : Session) (codec : FlvCodec) (dts : UInt32) :
    (inferTracks s codec dts).timestamp = s.timestamp := by
  unfold inferTracks
  split
  · rfl
  · split <;> rfl

theorem clockedRaw (s : Session) (codec : FlvCodec) (data : Bytes) (pts dts : UInt32) (flags : Int)
    (vacant : Bool) : Clocked s (.demux codec data pts dts flags vacant)
      (onRawFrame s codec data pts dts flags vacant) := by
  unfold onRawFrame
  refine .after ?_ ?_
  · split
    · unfold initializeG711Track
      split
      · exact unclockedFail s
      · split
        · split
          · exact unclockedFail s
          · exact unclockedDone s
        · exact unclockedRegister vacant rfl
    · exact unclockedDone s
  · intro u _
    refine .after ?_ ?_
    · split
      · unfold inferTracksWithoutMetadata
        dsimp only
        split
        · exact unclockedRegister vacant (inferClock u codec dts)
        · exact ⟨rfl,inferClock u codec dts⟩
      · exact unclockedDone u
    · intro w _
      exact clockedPublish w codec data pts dts flags vacant

theorem clocked (readers : Readers) (s : Session) (e : Event) : Clocked s e (handle readers s e) := by
  cases e with
  | script data vacant =>
    refine .quiet ?_
    simp only [handle,onScript]
    split
    · exact unclockedDone s
    · split
      · exact unclockedDone s
      · split
        · exact unclockedFail s
        · split
          · exact unclockedDone s
          · split
            · exact unclockedFail s
            · split
              · exact unclockedFail s
              · exact unclockedRegister vacant rfl
  | demux codec data pts dts flags vacant =>
    have video : Unclocked s (handleVideoConfig readers s codec data vacant) := by
      unfold handleVideoConfig
      split
      · exact unclockedFail s
      · split
        · split
          · exact unclockedFail s
          · exact unclockedRegister vacant rfl
        · exact unclockedCompare s _
    have audio : Unclocked s (handleAudioConfig readers s codec data vacant) := by
      unfold handleAudioConfig
      split
      · exact unclockedFail s
      · split
        · exact unclockedFail s
        · split
          · split
            · exact unclockedFail s
            · exact unclockedRegister vacant rfl
          · exact unclockedCompare s _
    cases codec with
    | avcc => exact .quiet video
    | hvcc => exact .quiet video
    | asc => exact .quiet audio
    | opusHead => exact .quiet audio
    | _ => exact clockedRaw s _ data pts dts flags vacant

inductive Follows : RtmpTimestampState → List Publication → Prop where
  | none (state) : Follows state []
  | frame {state p rest}
      (dtsNs : p.frame.dtsNs = millisecondsToNs (unwrapRtmpTimestamp p.dts state).milliseconds)
      (ptsNs : p.frame.ptsNs = millisecondsToNs
        ((unwrapRtmpTimestamp p.dts state).milliseconds + rtmpTimestampDelta p.pts p.dts))
      (later : Follows (unwrapRtmpTimestamp p.dts state) rest) : Follows state (p :: rest)

theorem callsFollow (readers : Readers) (s : Session) (events : List Event) :
    Follows s.timestamp (publications (calls (handle readers) s events)) := by
  induction events generalizing s with
  | nil => exact .none _
  | cons e rest ih =>
    have later (u : Session) : Follows u.timestamp
        (publications (if (handle readers s e).ok then calls (handle readers) u rest else [])) := by
      split
      · exact ih u
      · exact .none _
    simp only [calls,publications,List.flatMap_cons]
    cases clocked readers s e with
    | quiet unclocked =>
      rw [unclocked.none,← unclocked.clock]
      exact later _
    | frame event one clock dtsNs ptsNs =>
      subst event
      rw [one]
      refine .frame dtsNs ptsNs ?_
      rw [← clock]
      exact later _

theorem Follows.flv {state : RtmpTimestampState} (follows : Follows state sent)
    (aligned : state.Aligned) : ∀ p ∈ sent, flvTimes p.frame = (p.pts,p.dts) := by
  induction follows with
  | none => simp
  | @frame state p rest dtsNs ptsNs later ih =>
    obtain ⟨next,last,started⟩ := unwrapAligned p.dts aligned
    have residue := next started
    rw [last] at residue
    intro q member
    rcases List.mem_cons.mp member with same | rest
    · rw [same]
      have pts := p.pts.toNat_lt
      have dts := p.dts.toNat_lt
      simp only [flvTimes,nsToFlvMilliseconds,nsToMilliseconds,dtsNs,ptsNs,millisecondsToNs,
        Int.mul_tdiv_cancel _ (show (1000000 : Int) ≠ 0 by decide),Prod.mk.injEq]
      refine ⟨ofIntOf ?_,ofIntOf residue⟩
      rw [deltaStep,Int.add_emod,residue]
      have step : ((p.pts.toNat : Int) - p.dts.toNat).bmod (2 ^ 32) % 2 ^ 32 =
          ((p.pts.toNat : Int) - p.dts.toNat) % 2 ^ 32 := Int.bmod_emod
      omega
    · exact ih next q rest

theorem Follows.exact_ {state : RtmpTimestampState} (follows : Follows state sent)
    {times : List (Int × Int)} (offsets : ∀ time ∈ times, -2 ^ 31 ≤ time.2 ∧ time.2 < 2 ^ 31)
    (same : sent.map (fun p => (p.dts,p.pts)) =
      times.map fun time => (.ofInt time.1,.ofInt (time.1 + time.2)))
    (counted : unwraps state (times.map fun time => .ofInt time.1) = times.map Prod.fst) :
    sent.map (fun p => (p.frame.dtsNs,p.frame.ptsNs)) =
      times.map fun time => (millisecondsToNs time.1,millisecondsToNs (time.1 + time.2)) := by
  induction follows generalizing times with
  | none =>
    cases times with
    | nil => rfl
    | cons => simp at same
  | @frame state p rest dtsNs ptsNs later ih =>
    cases times with
    | nil => simp at same
    | cons time others =>
      simp only [List.map_cons,List.cons.injEq,Prod.mk.injEq] at same
      obtain ⟨⟨dts,pts⟩,same⟩ := same
      simp only [List.map_cons,unwraps,List.cons.injEq] at counted
      obtain ⟨here,counted⟩ := counted
      rw [← dts] at here counted
      have rest_ := ih (fun time member => offsets time (List.mem_cons_of_mem _ member)) same counted
      have bound := offsets time (List.mem_cons_self ..)
      have offset : rtmpTimestampDelta p.pts p.dts = time.2 := by
        rw [deltaStep,dts,pts,ofIntResidue,ofIntResidue]
        have wide : (2 : Int) ^ 32 = ((2 ^ 32 : Nat) : Int) := rfl
        rw [wide,Int.emod_sub_bmod,Int.sub_emod_bmod,add_sub_cancel_left]
        exact Int.bmod_eq_of_le_mul_two (by push_cast; omega) (by push_cast; omega)
      simp only [List.map_cons,dtsNs,ptsNs,here,offset,rest_]

theorem rtmpTimesSurvive :
    (∀ times, TrueTimes times → unwraps ⟨0,0,false⟩ (times.map UInt32.ofInt) = times) ∧
    ∀ (readers : Readers) (events : List Event) (times : List (Int × Int)),
      TrueTimes (times.map Prod.fst) → (∀ time ∈ times, -2 ^ 31 ≤ time.2 ∧ time.2 < 2 ^ 31) →
      (publications (session readers events)).map (fun p => (p.dts,p.pts)) =
        times.map (fun time => (.ofInt time.1,.ofInt (time.1 + time.2))) →
      (publications (session readers events)).map (fun p => (p.frame.dtsNs,p.frame.ptsNs)) =
        times.map (fun time => (millisecondsToNs time.1,millisecondsToNs (time.1 + time.2))) ∧
      ∀ p ∈ publications (session readers events), flvTimes p.frame = (p.pts,p.dts) := by
  refine ⟨fun times => unwrapsTrue,?_⟩
  intro readers events times true_ offsets same
  have follows := callsFollow readers .start events
  have counted := unwrapsTrue true_
  rw [List.map_map] at counted
  exact ⟨follows.exact_ offsets same counted,follows.flv nofun⟩

def cycleTimes : List (Int × Int) := [(4294967290,40),(4294967301,0),(4294967295,-3)]

def cycleEvents : List Event :=
  [.script (2 :: onMetaData ++ audioNamed) true,.demux .asc [18,16] 0 0 0 true,
    .demux .avcc avcRecord 0 0 0 true,.demux .h264 [7] 34 4294967290 1 true,
    .demux .aac [9] 5 5 0 true,.demux .h264 [8] 4294967292 4294967295 0 true]

theorem cycleTimesSurvive :
    (publications (session plainReaders cycleEvents)).map (fun p => (p.frame.dtsNs,p.frame.ptsNs)) =
      cycleTimes.map (fun time => (millisecondsToNs time.1,millisecondsToNs (time.1 + time.2))) ∧
    ∀ p ∈ publications (session plainReaders cycleEvents), flvTimes p.frame = (p.pts,p.dts) := by
  refine rtmpTimesSurvive.2 plainReaders cycleEvents cycleTimes ⟨?_,?_⟩ (by decide) (by decide +kernel)
  · simp [cycleTimes]
  · simp [cycleTimes]

end MediaServer.RtmpPublish
