import MediaServer.PublishMove

/-! The tracks of a publish session are fixed in one call, and every call after it is measured
by them. -/
namespace MediaServer.RtmpPublish
open Bytes Handler StreamCalls

variable {s : Session} {track : MediaTrack} {readers : Readers} {turn : Turn Session StreamEffect}

theorem publishUnfixed (unfixed : s.tracks = []) (codec : FlvCodec) (data : Bytes)
    (pts dts : UInt32) (flags : Int) :
    publishMedia s codec data pts dts flags = .done s ∨
      publishMedia s codec data pts dts flags = .fail s := by
  unfold publishMedia
  split
  · exact .inr rfl
  · rw [if_pos (by simp [unfixed])]
    exact (ite_eq_or_eq _ _ _).symm

theorem finishUnfixed (unfixed : s.tracks = []) (e : Event) :
    finish s e = .done s ∨ finish s e = .fail s := by
  cases e with
  | script => exact .inl rfl
  | demux codec data pts dts flags vacant =>
    unfold finish
    dsimp only
    split
    · exact .inl rfl
    · exact .inl rfl
    · exact .inl rfl
    · exact .inl rfl
    · exact publishUnfixed unfixed _ _ _ _ _

inductive Sends (s : Session) (codec : FlvCodec) (data : Bytes) : Turn Session StreamEffect → Prop where
  | sent {track frame timestamp} (fixed : s.fixed track.id = some track)
      (raw : codec.raw = some (track.id,track.codec)) (placed : frame.track = track.id)
      (carried : frame.payload = data) :
      Sends s codec data ⟨{s with timestamp := timestamp},[.publish frame],true⟩

theorem fixedId {id : Nat} (found : s.fixed id = some track) :
    track ∈ s.tracks ∧ track.id = id := by
  have id := List.find?_some found
  exact ⟨List.mem_of_find?_eq_some found,by simpa using id⟩

theorem publishFixed (fixed : s.tracks ≠ []) (codec : FlvCodec) (data : Bytes) (pts dts : UInt32)
    (flags : Int) :
    Sends s codec data (publishMedia s codec data pts dts flags) ∨
      (∀ track, s.fixed track.id = some track → codec.raw ≠ some (track.id,track.codec)) ∧
        publishMedia s codec data pts dts flags = .fail s := by
  unfold publishMedia
  split
  · rename_i unknown
    exact .inr ⟨fun _ _ => by simp [unknown],rfl⟩
  · rename_i id incoming raw
    rw [if_neg (by simp [fixed])]
    split
    · rename_i differs
      refine .inr ⟨?_,rfl⟩
      intro track found same
      cases Option.some.inj (raw.symm.trans same)
      rw [found] at differs
      simp at differs
    · rename_i same
      cases found : s.fixed id with
      | none => simp [found] at same
      | some track =>
        rw [found] at same
        have codecs : track.codec = incoming := by simpa using same
        have own := (fixedId found).2
        subst own
        exact .inl (.sent found (codecs ▸ raw) rfl rfl)

theorem Lineup.fixed {expected : Option Bool} (lineup : Lineup expected s.tracks)
    (member : track ∈ s.tracks) : s.fixed track.id = some track := by
  unfold Session.fixed
  generalize s.tracks = tracks at lineup member ⊢
  cases lineup with
  | silent first =>
    cases List.mem_singleton.mp member
    simp
  | full first second =>
    rcases List.mem_pair.mp member with same | same
    · subst same
      simp
    · subst same
      simp [first,second,videoTrackId,audioTrackId]

def FlvCodec.config : FlvCodec → Bool
  | .avcc | .hvcc | .asc | .opusHead => true
  | _ => false

def configTrack (readers : Readers) (codec : FlvCodec) (data : Bytes) : Option MediaTrack :=
  match codec with
  | .avcc | .hvcc => videoConfig readers codec data
  | .asc | .opusHead => audioConfig readers codec data
  | _ => none

/- A packet that goes with the tracks: a configuration describes one of them once more, a raw
frame has the codec of its track. -/
def Fits (readers : Readers) (tracks : List MediaTrack) : Event → Prop
  | .script .. => True
  | .demux codec data .. =>
    if codec.config then
      ∃ track ∈ configTrack readers codec data, ∃ fixed ∈ tracks,
        fixed.id = track.id ∧ fixed.agrees track = true
    else ∃ fixed ∈ tracks, codec.raw = some (fixed.id,fixed.codec)

theorem compareCases {expected : Option Bool} (lineup : Lineup expected s.tracks)
    (track : MediaTrack) :
    (∃ fixed ∈ s.tracks, fixed.id = track.id ∧ fixed.agrees track = true) ∧
        compareFixed s track = .done s ∨
      (¬∃ fixed ∈ s.tracks, fixed.id = track.id ∧ fixed.agrees track = true) ∧
        compareFixed s track = .fail s := by
  unfold compareFixed
  cases found : s.fixed track.id with
  | none =>
    refine .inr ⟨?_,rfl⟩
    rintro ⟨fixed,member,id,_⟩
    have own := lineup.fixed member
    rw [id,found] at own
    contradiction
  | some fixed =>
    have own := fixedId found
    cases agrees : fixed.agrees track with
    | true => exact .inl ⟨⟨fixed,own.1,own.2,agrees⟩,by simp [agrees]⟩
    | false =>
      refine .inr ⟨?_,by simp [agrees]⟩
      rintro ⟨second,member,id,same⟩
      have found' := lineup.fixed member
      rw [id,found] at found'
      cases Option.some.inj found'
      rw [agrees] at same
      contradiction

theorem registerFixed (fixed : s.tracks ≠ []) (vacant : Bool) :
    registerStreamIfReady vacant s = .done s := by
  unfold registerStreamIfReady
  rw [if_pos (by simp [fixed])]

theorem scriptFixed (readers : Readers) (good : Good s) (fixed : s.tracks ≠ []) (data : Bytes)
    (vacant : Bool) :
    onScript readers s data vacant = .done s ∨ onScript readers s data vacant = .fail s := by
  cases data with
  | nil => exact .inl rfl
  | cons first rest =>
    simp only [onScript]
    split
    · exact .inl rfl
    · split
      · exact .inr rfl
      · split
        · exact .inl rfl
        · split
          · exact .inr rfl
          · rename_i audio read
            split
            · exact .inr rfl
            · rename_i passes
              have settled : s.expectedAudio = some audio := by
                have lineup := good.lineup fixed
                cases expected : s.expectedAudio with
                | none => rw [expected] at lineup; cases lineup
                | some known =>
                  cases known <;> cases audio <;> simp_all
              have same : {s with expectedAudio := some audio} = s := by rw [← settled]
              rw [same,registerFixed fixed]
              exact .inl rfl

theorem configFixed (readers : Readers) (good : Good s) (fixed : s.tracks ≠ []) {codec : FlvCodec}
    (config : codec.config = true) (data : Bytes) (pts dts : UInt32) (flags : Int) (vacant : Bool) :
    onFlvDemux readers s codec data pts dts flags vacant =
      match configTrack readers codec data with
      | none => .fail s
      | some track => compareFixed s track := by
  have video : ∀ codec, handleVideoConfig readers s codec data vacant =
      match videoConfig readers codec data with
      | none => .fail s
      | some track => compareFixed s track := by
    intro codec
    unfold handleVideoConfig
    cases videoConfig readers codec data <;> simp [fixed]
  have audio : ∀ codec, handleAudioConfig readers s codec data vacant =
      match audioConfig readers codec data with
      | none => .fail s
      | some track => compareFixed s track := by
    intro codec
    unfold handleAudioConfig
    cases described : audioConfig readers codec data with
    | none => simp
    | some track =>
      split
      · rename_i silent
        have lineup := good.lineup fixed
        have id := (audioConfigKind described).1
        rcases compareCases lineup track with ⟨⟨own,member,same,_⟩,_⟩ | ⟨_,refused⟩
        · rw [silent] at lineup
          generalize s.tracks = tracks at lineup member
          cases lineup with
          | silent first =>
            cases List.mem_singleton.mp member
            rw [first,id] at same
            exact absurd same (by decide)
        · exact refused.symm
      · simp [fixed]
  cases codec with
  | avcc => exact video .avcc
  | hvcc => exact video .hvcc
  | asc => exact audio .asc
  | opusHead => exact audio .opusHead
  | _ => contradiction

inductive Measured (readers : Readers) (s : Session) : Event → Turn Session StreamEffect → Prop where
  | confirmed {data vacant} : Measured readers s (.script data vacant) (.done s)
  | contradicted {data vacant} : Measured readers s (.script data vacant) (.fail s)
  | repeated {codec data pts dts flags vacant} (config : codec.config = true)
      (fits : Fits readers s.tracks (.demux codec data pts dts flags vacant)) :
      Measured readers s (.demux codec data pts dts flags vacant) (.done s)
  | sent {codec data pts dts flags vacant turn} (raw : codec.config = false)
      (sends : Sends s codec data turn) :
      Measured readers s (.demux codec data pts dts flags vacant) turn
  | refused {e} (misfit : ¬Fits readers s.tracks e) : Measured readers s e (.fail s)

theorem publishMeasured (readers : Readers) (good : Good s) (fixed : s.tracks ≠ [])
    {codec : FlvCodec} (raw : codec.config = false) (data : Bytes) (pts dts : UInt32) (flags : Int)
    (vacant : Bool) :
    Measured readers s (.demux codec data pts dts flags vacant)
      (publishMedia s codec data pts dts flags) := by
  rcases publishFixed fixed codec data pts dts flags with sends | ⟨differs,refused⟩
  · exact .sent raw sends
  · rw [refused]
    refine .refused ?_
    simp only [Fits,raw,Bool.false_eq_true,if_false]
    rintro ⟨track,member,same⟩
    exact differs track ((good.lineup fixed).fixed member) same

theorem fixedTurn (readers : Readers) (good : Good s) (fixed : s.tracks ≠ []) (e : Event) :
    Measured readers s e (handle readers s e) := by
  cases e with
  | script data vacant =>
    rcases scriptFixed readers good fixed data vacant with same | same
    · rw [handle,same]
      exact .confirmed
    · rw [handle,same]
      exact .contradicted
  | demux codec data pts dts flags vacant =>
    cases config : codec.config with
    | true =>
      rw [handle,configFixed readers good fixed config]
      cases described : configTrack readers codec data with
      | none => exact .refused (by simp [Fits,config,described])
      | some track =>
        rcases compareCases (good.lineup fixed) track with ⟨fits,same⟩ | ⟨misfit,same⟩
        · dsimp only
          rw [same]
          exact .repeated config (by simpa [Fits,config,described] using fits)
        · dsimp only
          rw [same]
          exact .refused (by simpa [Fits,config,described] using misfit)
    | false =>
      have straight : handle readers s (.demux codec data pts dts flags vacant) =
          publishMedia s codec data pts dts flags := by
        have raw : onRawFrame s codec data pts dts flags vacant =
            publishMedia s codec data pts dts flags := by simp [onRawFrame,fixed]
        cases codec <;> first | contradiction | exact raw
      rw [straight]
      exact publishMeasured readers good fixed config data pts dts flags vacant

theorem agreesSelf (track : MediaTrack) : track.agrees track = true := by
  simp [MediaTrack.agrees]

theorem readyVideo {tracks : List MediaTrack}
    (ready : {s with initialVideoTrack := some track}.ready = some tracks) : track ∈ tracks := by
  simp only [Session.ready] at ready
  split at ready
  · rename_i same
    cases Option.some.inj same
    cases Option.some.inj ready
    simp
  · rename_i same _
    cases Option.some.inj same
    cases Option.some.inj ready
    simp
  · contradiction

theorem readyAudio {tracks : List MediaTrack} (expected : s.expectedAudio ≠ some false)
    (ready : {s with initialAudioTrack := some track}.ready = some tracks) : track ∈ tracks := by
  simp only [Session.ready] at ready
  split at ready
  · rename_i silent _
    exact absurd silent expected
  · rename_i same
    cases Option.some.inj same
    cases Option.some.inj ready
    simp
  · contradiction

theorem registerGood {t : Session} {tracks : List MediaTrack} (noted : Noted t)
    (ready : t.ready = some tracks) : Good (t.register tracks) where
  video := by simp [Session.register]
  audio := by simp [Session.register]
  g711 := by simp [Session.register]
  silent := fun unfixed => absurd unfixed (readyLineup noted ready).fixes
  waiting := fun unfixed => absurd unfixed (readyLineup noted ready).fixes
  lineup := fun _ => show Lineup t.expectedAudio tracks from readyLineup noted ready

theorem finishMeasured {t : Session} {e : Event} {tracks : List MediaTrack}
    (notes : Notes readers s e t) (noted : Noted t) (ready : t.ready = some tracks) :
    Measured readers (t.register tracks) e (finish (t.register tracks) e) := by
  have good := registerGood noted ready
  have fixed := (readyLineup noted ready).fixes
  have own : ∀ track : MediaTrack, track ∈ tracks →
      ∃ fixed ∈ tracks, fixed.id = track.id ∧ fixed.agrees track = true :=
    fun track member => ⟨track,member,rfl,agreesSelf track⟩
  cases notes with
  | nothing => exact .confirmed
  | metadata audio agrees kept => exact .confirmed
  | video kind config =>
    have member := readyVideo ready
    rcases kind with same | same
    · subst same
      exact .repeated rfl ⟨_,config,own _ member⟩
    · subst same
      exact .repeated rfl ⟨_,config,own _ member⟩
  | audio kind config expected same =>
    have member := readyAudio expected ready
    rcases kind with same | same
    · subst same
      exact .repeated rfl ⟨_,config,own _ member⟩
    · subst same
      exact .repeated rfl ⟨_,config,own _ member⟩
  | @raw codec data pts dts flags vacant kind takes =>
    have raw : codec.config = false := by
      cases codec <;> first | rfl | simp [FlvCodec.raw] at kind
    have measured := publishMeasured readers good fixed raw data pts dts flags vacant
    cases codec <;> first | contradiction | exact measured

inductive Unfixed (readers : Readers) (e : Event) : Turn Session StreamEffect → Prop where
  | quiet {t : Session} {ok} (unfixed : t.tracks = []) : Unfixed readers e ⟨t,[],ok⟩
  | registered {t : Session} {tracks turn} (good : Good (t.register tracks)) (fixes : tracks ≠ [])
      (measured : Measured readers (t.register tracks) e turn) :
      Unfixed readers e ⟨turn.state,.setTracks tracks :: .add true :: turn.effects,turn.ok⟩
  | duplicate {t : Session} {tracks} (fixes : tracks ≠ []) :
      Unfixed readers e ⟨{t with tracks := tracks},[.setTracks tracks,.add false],false⟩

theorem unfixedCall (readers : Readers) (good : Good s) (unfixed : s.tracks = []) (e : Event) :
    Unfixed readers e (handle readers s e) := by
  rcases unfixedTurn readers good unfixed e with refused | ⟨t,notes,same⟩
  · rw [refused]
    exact .quiet unfixed
  · have noted := notes.noted (good.noted unfixed)
    have registered := registration noted e.vacant
    rw [same]
    generalize registerStreamIfReady e.vacant t = turn at registered ⊢
    cases registered with
    | waits waiting =>
      rw [andThenDone]
      rcases finishUnfixed noted.unfixed e with done | failed
      · rw [done]
        exact .quiet noted.unfixed
      · rw [failed]
        exact .quiet noted.unfixed
    | registers ready free =>
      exact .registered (registerGood noted ready) (readyLineup noted ready).fixes
        (finishMeasured notes noted ready)
    | duplicate ready taken => exact .duplicate (readyLineup noted ready).fixes

theorem Good.stamped (good : Good s) (timestamp : RtmpTimestampState) :
    Good {s with timestamp := timestamp} :=
  ⟨good.video,good.audio,good.g711,good.silent,good.waiting,good.lineup⟩

theorem Measured.good {e : Event} (measured : Measured readers s e turn) (good : Good s) :
    Good turn.state := by
  cases measured with
  | sent raw sends =>
    cases sends
    exact good.stamped _
  | _ => exact good

theorem handleGood (readers : Readers) (good : Good s) {e : Event}
    (ok : (handle readers s e).ok = true) : Good (handle readers s e).state := by
  by_cases fixed : s.tracks = []
  · rcases unfixedTurn readers good fixed e with refused | ⟨t,notes,same⟩
    · rw [refused] at ok
      contradiction
    · have noted := notes.noted (good.noted fixed)
      have registered := registration noted e.vacant
      rw [same] at ok ⊢
      generalize registerStreamIfReady e.vacant t = turn at registered ok ⊢
      cases registered with
      | waits waiting =>
        rw [andThenDone] at ok ⊢
        rcases finishUnfixed noted.unfixed e with done | failed
        · rw [done]
          refine ⟨noted.video,noted.audio,noted.g711,?_,fun _ => waiting,
            fun fixed => absurd noted.unfixed fixed⟩
          intro _ silent
          rcases notes.silent good fixed silent with none_ | ⟨_,ready⟩
          · exact none_
          · rw [waiting] at ready
            contradiction
        · rw [failed] at ok
          contradiction
      | registers ready free =>
        exact (finishMeasured notes noted ready).good (registerGood noted ready)
      | duplicate ready taken => contradiction
  · exact (fixedTurn readers good fixed e).good good

theorem Measured.tracks {e : Event} (measured : Measured readers s e turn) :
    turn.state.tracks = s.tracks := by
  cases measured with
  | sent raw sends => cases sends; rfl
  | _ => rfl

theorem Measured.unregistered {e : Event} (measured : Measured readers s e turn) :
    registrations turn = [] := by
  cases measured with
  | sent raw sends => cases sends; rfl
  | _ => rfl

theorem Measured.misfit {e : Event} (measured : Measured readers s e turn)
    (misfit : ¬Fits readers s.tracks e) : turn.ok = false ∧ published turn = [] := by
  cases measured with
  | confirmed => exact absurd trivial misfit
  | contradicted => exact ⟨rfl,rfl⟩
  | repeated config fits => exact absurd fits misfit
  | sent raw sends =>
    cases sends with
    | @sent track frame timestamp fixed same placed carried =>
      refine absurd ?_ misfit
      simp only [Fits,raw,Bool.false_eq_true,if_false]
      exact ⟨track,(fixedId fixed).1,same⟩
  | refused => exact ⟨rfl,rfl⟩

theorem Measured.codec {e : Event} (measured : Measured readers s e turn) {frame : MediaFrame}
    (sent : frame ∈ published turn) :
    ∃ codec data pts dts flags vacant, e = .demux codec data pts dts flags vacant ∧
      ∃ track ∈ s.tracks, frame.track = track.id ∧ codec.raw = some (track.id,track.codec) := by
  cases measured with
  | @sent codec data pts dts flags vacant turn raw sends =>
    cases sends with
    | @sent track own timestamp fixed same placed carried =>
      cases List.mem_singleton.mp sent
      exact ⟨codec,data,pts,dts,flags,vacant,rfl,track,(fixedId fixed).1,placed,same⟩
  | _ => contradiction

theorem publishDiscipline (readers : Readers) :
    Discipline Session.tracks Good (handle readers) where
  kept := fun s e good ok => handleGood readers good ok
  opening := by
    intro s e good unfixed
    have call := unfixedCall readers good unfixed e
    generalize handle readers s e = turn at call ⊢
    cases call with
    | quiet still => exact .quiet still
    | @registered t tracks turn good fixes measured =>
      have same := measured.tracks
      have opening : Opening Session.tracks
          ⟨turn.state,.setTracks turn.state.tracks :: .add true :: turn.effects,turn.ok⟩ :=
        .registered (by rw [same]; exact fixes) measured.unregistered
      rw [same] at opening
      exact opening
    | @duplicate t tracks fixes => exact @Opening.duplicate _ Session.tracks {t with tracks := tracks} fixes
  fixed := by
    intro s e good fixed
    have measured := fixedTurn readers good fixed e
    exact ⟨measured.tracks,measured.unregistered⟩

structure FixedTracks (readers : Readers) (run : List (Call Session Event StreamEffect)) : Prop
    extends RegisteredOnce Session.tracks run where
  codec : ∀ c ∈ run, ∀ frame ∈ published c.turn, ∃ codec data pts dts flags vacant,
    c.event = .demux codec data pts dts flags vacant ∧
      ∃ track ∈ c.turn.state.tracks, frame.track = track.id ∧ codec.raw = some (track.id,track.codec)
  refused : ∀ before c after tracks, run = before ++ c :: after →
    .setTracks tracks ∈ c.turn.effects → ∀ d ∈ c :: after, ¬Fits readers tracks d.event →
      d.turn.ok = false ∧ published d.turn = []

theorem sessionPlaced {events : List Event} {before after : List (Call Session Event StreamEffect)}
    {c : Call Session Event StreamEffect} (cut : session readers events = before ++ c :: after) :
    Placed Session.tracks Good (handle readers) before c after :=
  (publishDiscipline readers).placed startGood rfl cut

theorem sessionGood (readers : Readers) (events : List Event) :
    ∀ d ∈ session readers events, Good d.state ∧ d.turn = handle readers d.state d.event :=
  callsInvariant startGood fun _ _ good ok => handleGood readers good ok

theorem fixedTracks (readers : Readers) (events : List Event) :
    FixedTracks readers (session readers events) where
  toRegisteredOnce := (publishDiscipline readers).registeredOnce startGood rfl events
  codec := by
    intro c member frame sent
    obtain ⟨good,taken⟩ := sessionGood readers events c member
    by_cases unfixed : c.state.tracks = []
    · have call := unfixedCall readers good unfixed c.event
      rw [← taken] at call
      obtain ⟨s,e,turn⟩ := c
      cases call with
      | quiet => contradiction
      | registered good fixes measured =>
        rw [measured.tracks]
        exact measured.codec sent
      | duplicate => contradiction
    · have measured := fixedTurn readers good unfixed c.event
      rw [← taken] at measured
      rw [measured.tracks]
      exact measured.codec sent
  refused := by
    intro before c after tracks cut orders d member misfit
    have placed := sessionPlaced cut
    have registering := placed.registering (publishDiscipline readers) (registersOrders orders)
    have same := registering.same orders
    rcases List.mem_cons.mp member with own | later
    · subst own
      have call := unfixedCall readers placed.past.good registering.unfixed d.event
      rw [← placed.turn] at call
      obtain ⟨s,e,turn⟩ := d
      cases call with
      | quiet still => exact absurd still registering.fixes
      | registered good fixes measured =>
        cases measured.tracks.symm.trans same
        exact measured.misfit misfit
      | duplicate => exact ⟨rfl,rfl⟩
    · obtain ⟨good,tracksAre,taken⟩ := registering.onward d later
      have measured := fixedTurn readers good (by rw [tracksAre]; exact registering.fixes) d.event
      rw [← taken] at measured
      exact measured.misfit (by rw [tracksAre,same]; exact misfit)

end MediaServer.RtmpPublish
