import MediaServer.RtmpPublish

/-! What one call of a publish session does. As long as the stream has no tracks a call either
fails or notes something and then looks whether the stream can be registered; afterwards a call
only compares and publishes. -/
namespace MediaServer.RtmpPublish
open Bytes Handler StreamCalls

inductive Lineup : Option Bool → List MediaTrack → Prop where
  | silent {video} (first : video.id = videoTrackId) : Lineup (some false) [video]
  | full {video audio} (first : video.id = videoTrackId) (second : audio.id = audioTrackId) :
      Lineup (some true) [video,audio]

structure Good (s : Session) : Prop where
  video : ∀ track ∈ s.initialVideoTrack, track.id = videoTrackId
  audio : ∀ track ∈ s.initialAudioTrack, track.id = audioTrackId
  g711 : ∀ track ∈ s.initialAudioTrack, ∀ codec : FlvCodec, codec.g711 = true →
    track.codec = (g711Track codec).codec → track = g711Track codec
  silent : s.tracks = [] → s.expectedAudio = some false → s.initialAudioTrack = none
  waiting : s.tracks = [] → s.ready = none
  lineup : s.tracks ≠ [] → Lineup s.expectedAudio s.tracks

theorem startGood : Good .start where
  video := by simp [Session.start]
  audio := by simp [Session.start]
  g711 := by simp [Session.start]
  silent := fun _ _ => rfl
  waiting := fun _ => rfl
  lineup := fun fixed => absurd rfl fixed

structure Noted (s : Session) : Prop where
  unfixed : s.tracks = []
  video : ∀ track ∈ s.initialVideoTrack, track.id = videoTrackId
  audio : ∀ track ∈ s.initialAudioTrack, track.id = audioTrackId
  g711 : ∀ track ∈ s.initialAudioTrack, ∀ codec : FlvCodec, codec.g711 = true →
    track.codec = (g711Track codec).codec → track = g711Track codec

variable {s t : Session} {codec : FlvCodec} {readers : Readers} {data : Bytes}

theorem Good.noted (good : Good s) (unfixed : s.tracks = []) : Noted s :=
  ⟨unfixed,good.video,good.audio,good.g711⟩

theorem readyLineup {tracks : List MediaTrack} (noted : Noted s) (ready : s.ready = some tracks) :
    Lineup s.expectedAudio tracks := by
  unfold Session.ready at ready
  split at ready
  · rename_i expected initial
    cases Option.some.inj ready
    rw [expected]
    exact .silent (noted.video _ initial)
  · rename_i expected initialVideo initialAudio
    cases Option.some.inj ready
    rw [expected]
    exact .full (noted.video _ initialVideo) (noted.audio _ initialAudio)
  · contradiction

variable {expected : Option Bool} {track : MediaTrack} {e : Event}

theorem Lineup.settable {tracks : List MediaTrack} (lineup : Lineup expected tracks) :
    settable tracks = true := by
  cases lineup with
  | silent first => simp [MediaServer.settable,first,videoTrackId]
  | full first second => simp [MediaServer.settable,first,second,videoTrackId,audioTrackId]

theorem Lineup.fixes {tracks : List MediaTrack} (lineup : Lineup expected tracks) :
    tracks ≠ [] := by
  cases lineup <;> simp

def Session.register (s : Session) (tracks : List MediaTrack) : Session :=
  {s with tracks := tracks, initialVideoTrack := none, initialAudioTrack := none}

inductive Registration (vacant : Bool) (s : Session) : Turn Session StreamEffect → Prop where
  | waits (waiting : s.ready = none) : Registration vacant s (.done s)
  | registers {tracks} (ready : s.ready = some tracks) (free : vacant = true) :
      Registration vacant s ⟨s.register tracks,[.setTracks tracks,.add true],true⟩
  | duplicate {tracks} (ready : s.ready = some tracks) (taken : vacant = false) :
      Registration vacant s ⟨{s with tracks := tracks},[.setTracks tracks,.add false],false⟩

theorem registration (noted : Noted s) (vacant : Bool) :
    Registration vacant s (registerStreamIfReady vacant s) := by
  unfold registerStreamIfReady
  rw [if_neg (by simp [noted.unfixed])]
  split
  · rename_i waiting
    exact .waits waiting
  · rename_i tracks ready
    rw [if_neg (by simp [(readyLineup noted ready).settable])]
    cases vacant with
    | false => exact .duplicate ready rfl
    | true => exact .registers ready rfl

theorem registerWaits {vacant : Bool} (waiting : s.ready = none) :
    registerStreamIfReady vacant s = .done s := by
  unfold registerStreamIfReady
  rw [waiting]
  split <;> rfl

def noteRaw (s : Session) (codec : FlvCodec) (dts : UInt32) : Session :=
  let s := if codec.g711 then {s with initialAudioTrack := some (g711Track codec)} else s
  if s.expectedAudio.isNone then inferTracks s codec dts else s

theorem g711Audio (g711 : codec.g711 = true) : codec.audio = true := by
  cases codec <;> first | rfl | contradiction

theorem readyUnset (unset : s.expectedAudio = none) : s.ready = none := by
  unfold Session.ready
  rw [unset]

theorem inferRegisters (s : Session) (codec : FlvCodec) (dts : UInt32) (vacant : Bool) :
    inferTracksWithoutMetadata s codec dts vacant =
      registerStreamIfReady vacant (inferTracks s codec dts) := by
  unfold inferTracksWithoutMetadata
  cases expected : (inferTracks s codec dts).expectedAudio with
  | none =>
    simp only [expected]
    exact (registerWaits (readyUnset expected)).symm
  | some audio =>
    simp only [expected]
    rfl

theorem registerOnce (noted : Noted s) (codec : FlvCodec) (dts : UInt32) (vacant : Bool)
    (next : Session → Turn Session StreamEffect) :
    (registerStreamIfReady vacant s).andThen (fun s =>
      (if s.tracks.isEmpty && s.expectedAudio.isNone then
        inferTracksWithoutMetadata s codec dts vacant else .done s).andThen next) =
      (registerStreamIfReady vacant
        (if s.expectedAudio.isNone then inferTracks s codec dts else s)).andThen next := by
  cases expected : s.expectedAudio with
  | none =>
    rw [registerWaits (readyUnset expected)]
    simp [noted.unfixed,expected,inferRegisters]
  | some audio =>
    simp only [Option.isNone_some,Bool.false_eq_true,if_false]
    have registered := registration noted vacant
    generalize registerStreamIfReady vacant s = turn at registered ⊢
    cases registered with
    | waits waiting => simp [expected]
    | registers ready free => simp [Turn.andThen,Session.register,expected,Turn.done]
    | duplicate ready taken => rfl

theorem g711Noted (noted : Noted s) (g711 : codec.g711 = true) :
    Noted {s with initialAudioTrack := some (g711Track codec)} where
  unfixed := noted.unfixed
  video := noted.video
  audio := by
    intro track same
    cases Option.some.inj same
    rfl
  g711 := by
    intro track same second kind codecs
    cases Option.some.inj same
    cases codec <;> cases second <;> first | rfl | contradiction

def Session.takesG711 (s : Session) (codec : FlvCodec) : Prop :=
  s.expectedAudio ≠ some false ∧ ∀ track ∈ s.initialAudioTrack, track = g711Track codec

theorem initializeTakes (good : Good s) (unfixed : s.tracks = []) (takes : s.takesG711 codec)
    (vacant : Bool) :
    initializeG711Track s codec vacant =
      registerStreamIfReady vacant {s with initialAudioTrack := some (g711Track codec)} := by
  unfold initializeG711Track
  rw [if_neg takes.1]
  cases initial : s.initialAudioTrack with
  | none => rfl
  | some track =>
    have own := takes.2 track initial
    subst own
    have unchanged : {s with initialAudioTrack := some (g711Track codec)} = s := by rw [← initial]
    rw [unchanged,registerWaits (good.waiting unfixed)]
    simp

theorem initializeTurn (good : Good s) (unfixed : s.tracks = []) (g711 : codec.g711 = true)
    (vacant : Bool) :
    initializeG711Track s codec vacant = .fail s ∨
      s.takesG711 codec ∧ initializeG711Track s codec vacant =
        registerStreamIfReady vacant {s with initialAudioTrack := some (g711Track codec)} := by
  by_cases takes : s.takesG711 codec
  · exact .inr ⟨takes,initializeTakes good unfixed takes vacant⟩
  · refine .inl ?_
    unfold initializeG711Track
    split
    · rfl
    · rename_i expected
      cases initial : s.initialAudioTrack with
      | none => exact absurd ⟨expected,by simp [initial]⟩ takes
      | some track =>
        refine if_pos ?_
        intro same
        refine takes ⟨expected,?_⟩
        intro own found
        exact good.g711 own found codec g711 (by rw [initial] at found; cases found; exact same)

theorem rawTurn (good : Good s) (unfixed : s.tracks = []) (codec : FlvCodec) (data : Bytes)
    (pts dts : UInt32) (flags : Int) (vacant : Bool) :
    onRawFrame s codec data pts dts flags vacant = .fail s ∨
      (codec.g711 = true → s.takesG711 codec) ∧ onRawFrame s codec data pts dts flags vacant =
        (registerStreamIfReady vacant (noteRaw s codec dts)).andThen
          fun s => publishMedia s codec data pts dts flags := by
  unfold onRawFrame noteRaw
  have noted := good.noted unfixed
  cases g711 : codec.g711 with
  | false =>
    have once := registerOnce noted codec dts vacant fun s => publishMedia s codec data pts dts flags
    rw [registerWaits (good.waiting unfixed)] at once
    exact .inr ⟨nofun,once⟩
  | true =>
    rw [if_pos (by simp [unfixed])]
    rcases initializeTurn good unfixed g711 vacant with refused | ⟨takes,init⟩
    · exact .inl (by rw [refused,andThenFail])
    · rw [init]
      exact .inr ⟨fun _ => takes,registerOnce (g711Noted noted g711) codec dts vacant _⟩

inductive Notes (readers : Readers) (s : Session) : Event → Session → Prop where
  | nothing {data vacant} : Notes readers s (.script data vacant) s
  | metadata {data vacant} (audio : Bool) (agrees : s.expectedAudio ≠ some !audio)
      (kept : audio = false → s.initialAudioTrack = none) :
      Notes readers s (.script data vacant) {s with expectedAudio := some audio}
  | video {codec data pts dts flags vacant track} (kind : codec = .avcc ∨ codec = .hvcc)
      (config : videoConfig readers codec data = some track) :
      Notes readers s (.demux codec data pts dts flags vacant) {s with initialVideoTrack := some track}
  | audio {codec data pts dts flags vacant track} (kind : codec = .asc ∨ codec = .opusHead)
      (config : audioConfig readers codec data = some track)
      (expected : s.expectedAudio ≠ some false)
      (same : ∀ initial ∈ s.initialAudioTrack, initial.codec = track.codec) :
      Notes readers s (.demux codec data pts dts flags vacant) {s with initialAudioTrack := some track}
  | raw {codec data pts dts flags vacant} (kind : codec.raw.isSome ∨ codec = .other)
      (takes : codec.g711 = true → s.takesG711 codec) :
      Notes readers s (.demux codec data pts dts flags vacant) (noteRaw s codec dts)

def Event.vacant : Event → Bool
  | .script _ vacant => vacant
  | .demux _ _ _ _ _ vacant => vacant

def finish (s : Session) : Event → Turn Session StreamEffect
  | .script .. => .done s
  | .demux codec data pts dts flags _ =>
    match codec with
    | .avcc | .hvcc | .asc | .opusHead => .done s
    | _ => publishMedia s codec data pts dts flags

theorem scriptTurn (readers : Readers) (good : Good s) (unfixed : s.tracks = []) (data : Bytes)
    (vacant : Bool) :
    onScript readers s data vacant = .fail s ∨ ∃ t, Notes readers s (.script data vacant) t ∧
      onScript readers s data vacant = registerStreamIfReady vacant t := by
  have idle : ∃ t, Notes readers s (.script data vacant) t ∧
      .done s = registerStreamIfReady vacant t :=
    ⟨s,.nothing,(registerWaits (good.waiting unfixed)).symm⟩
  cases data with
  | nil => exact .inr idle
  | cons first rest =>
    simp only [onScript]
    split
    · exact .inr idle
    · split
      · exact .inl rfl
      · split
        · exact .inr idle
        · split
          · exact .inl rfl
          · rename_i audio read
            split
            · exact .inl rfl
            · rename_i passes
              simp only [Bool.or_eq_true,decide_eq_true_eq,Bool.and_eq_true,Option.isSome_iff_ne_none,
                Bool.not_eq_true',not_or,not_and,Bool.not_eq_false] at passes
              refine .inr ⟨_,.metadata audio passes.1 ?_,rfl⟩
              intro silent
              by_contra some_
              have audible := passes.2 some_
              rw [silent] at audible
              contradiction

theorem videoTurn (readers : Readers) (unfixed : s.tracks = [])
    (kind : codec = .avcc ∨ codec = .hvcc) (data : Bytes) (pts dts : UInt32) (flags : Int)
    (vacant : Bool) :
    handleVideoConfig readers s codec data vacant = .fail s ∨
      ∃ t, Notes readers s (.demux codec data pts dts flags vacant) t ∧
        handleVideoConfig readers s codec data vacant =
          (registerStreamIfReady vacant t).andThen .done := by
  unfold handleVideoConfig
  split
  · exact .inl rfl
  · rename_i track config
    rw [if_pos (by simp [unfixed])]
    split
    · exact .inl rfl
    · exact .inr ⟨_,.video kind config,(doneAfter _).symm⟩

theorem audioTurn (readers : Readers) (unfixed : s.tracks = [])
    (kind : codec = .asc ∨ codec = .opusHead) (data : Bytes) (pts dts : UInt32) (flags : Int)
    (vacant : Bool) :
    handleAudioConfig readers s codec data vacant = .fail s ∨
      ∃ t, Notes readers s (.demux codec data pts dts flags vacant) t ∧
        handleAudioConfig readers s codec data vacant =
          (registerStreamIfReady vacant t).andThen .done := by
  unfold handleAudioConfig
  split
  · exact .inl rfl
  · rename_i expected
    split
    · exact .inl rfl
    · rename_i track config
      rw [if_pos (by simp [unfixed])]
      split
      · exact .inl rfl
      · rename_i same
        refine .inr ⟨_,.audio kind config expected ?_,(doneAfter _).symm⟩
        intro initial found
        rw [found] at same
        simpa using same

theorem unfixedTurn (readers : Readers) (good : Good s) (unfixed : s.tracks = []) (e : Event) :
    handle readers s e = .fail s ∨ ∃ t, Notes readers s e t ∧
      handle readers s e = (registerStreamIfReady e.vacant t).andThen (finish · e) := by
  have raw : ∀ codec data pts dts flags vacant, codec.raw.isSome ∨ codec = .other →
      onRawFrame s codec data pts dts flags vacant = .fail s ∨
        ∃ t, Notes readers s (.demux codec data pts dts flags vacant) t ∧
          onRawFrame s codec data pts dts flags vacant =
            (registerStreamIfReady vacant t).andThen
              fun s => publishMedia s codec data pts dts flags := by
    intro codec data pts dts flags vacant kind
    rcases rawTurn good unfixed codec data pts dts flags vacant with refused | ⟨takes,same⟩
    · exact .inl refused
    · exact .inr ⟨_,.raw kind takes,same⟩
  cases e with
  | script data vacant =>
    rcases scriptTurn readers good unfixed data vacant with refused | ⟨t,notes,same⟩
    · exact .inl refused
    · exact .inr ⟨t,notes,same.trans (doneAfter _).symm⟩
  | demux codec data pts dts flags vacant =>
    cases codec with
    | avcc => exact videoTurn readers unfixed (.inl rfl) data pts dts flags vacant
    | hvcc => exact videoTurn readers unfixed (.inr rfl) data pts dts flags vacant
    | asc => exact audioTurn readers unfixed (.inl rfl) data pts dts flags vacant
    | opusHead => exact audioTurn readers unfixed (.inr rfl) data pts dts flags vacant
    | other => exact raw .other data pts dts flags vacant (.inr rfl)
    | h264 => exact raw .h264 data pts dts flags vacant (.inl rfl)
    | h265 => exact raw .h265 data pts dts flags vacant (.inl rfl)
    | aac => exact raw .aac data pts dts flags vacant (.inl rfl)
    | opus => exact raw .opus data pts dts flags vacant (.inl rfl)
    | g711a => exact raw .g711a data pts dts flags vacant (.inl rfl)
    | g711u => exact raw .g711u data pts dts flags vacant (.inl rfl)

theorem videoConfigId (config : videoConfig readers codec data = some track) :
    track.id = videoTrackId := by
  obtain ⟨_,same⟩ := Option.ite_none_left_eq_some.mp config
  cases Option.some.inj same
  rfl

theorem audioConfigKind (config : audioConfig readers codec data = some track) :
    track.id = audioTrackId ∧ (track.codec = .aac ∨ track.codec = .opus) := by
  unfold audioConfig at config
  split at config
  · obtain ⟨⟨rate,channels⟩,_,same⟩ := Option.map_eq_some_iff.mp config
    subst same
    exact ⟨rfl,.inl rfl⟩
  · split at config
    · contradiction
    · split at config
      · contradiction
      · cases Option.some.inj config
        exact ⟨rfl,.inr rfl⟩

theorem g711TrackCodec : (g711Track codec).codec ≠ .aac ∧ (g711Track codec).codec ≠ .opus := by
  unfold g711Track
  dsimp only
  split <;> simp

inductive Infers (s : Session) (codec : FlvCodec) : Session → Prop where
  | nothing : Infers s codec s
  | heard (audio : codec.audio = true) (pending : s.initialAudioTrack.isSome = true) :
      Infers s codec {s with expectedAudio := some true}
  | watched (video : codec.audio = false) (pending : s.initialVideoTrack.isSome = true) (first) :
      Infers s codec {s with firstVideoDts := some first}
  | timed (video : codec.audio = false) (pending : s.initialVideoTrack.isSome = true) (first) :
      Infers s codec {s with firstVideoDts := some first, expectedAudio := some false}

theorem inferCases (s : Session) (codec : FlvCodec) (dts : UInt32) :
    Infers s codec (inferTracks s codec dts) := by
  unfold inferTracks
  split
  · rename_i heard
    rw [Bool.and_eq_true] at heard
    exact .heard heard.1 heard.2
  · split
    · rename_i watched
      rw [Bool.and_eq_true,Bool.not_eq_true'] at watched
      dsimp only
      split
      · exact .timed watched.1 watched.2 _
      · exact .watched watched.1 watched.2 _
    · exact .nothing

theorem Infers.noted (infers : Infers s codec t) (noted : Noted s) : Noted t := by
  obtain ⟨unfixed,video,audio,g711⟩ := noted
  cases infers <;> exact ⟨unfixed,video,audio,g711⟩

theorem rawNoted (noted : Noted s) (codec : FlvCodec) (dts : UInt32) :
    Noted (noteRaw s codec dts) := by
  have inferred : ∀ s, Noted s →
      Noted (if s.expectedAudio.isNone then inferTracks s codec dts else s) := by
    intro s noted
    split
    · exact (inferCases s codec dts).noted noted
    · exact noted
  unfold noteRaw
  cases g711 : codec.g711 with
  | false => exact inferred s noted
  | true => exact inferred _ (g711Noted noted g711)

theorem Notes.noted (notes : Notes readers s e t) (noted : Noted s) : Noted t := by
  cases notes with
  | nothing => exact noted
  | metadata audio agrees kept => exact ⟨noted.unfixed,noted.video,noted.audio,noted.g711⟩
  | video kind config =>
    refine ⟨noted.unfixed,?_,noted.audio,noted.g711⟩
    intro track same
    cases Option.some.inj same
    exact videoConfigId config
  | audio kind config expected same =>
    have own := audioConfigKind config
    refine ⟨noted.unfixed,noted.video,?_,?_⟩
    · intro track same
      cases Option.some.inj same
      exact own.1
    · intro track same codec g711 codecs
      cases Option.some.inj same
      rw [codecs] at own
      rcases own.2 with aac | opus
      · exact absurd aac g711TrackCodec.1
      · exact absurd opus g711TrackCodec.2
  | raw kind takes => exact rawNoted noted _ _

/- The video timer runs out: a frame that is not audio is met while nothing says whether audio
is expected. -/
def Timed (s : Session) : Event → Prop
  | .script .. => False
  | .demux codec .. => s.expectedAudio = none ∧ (codec = .h264 ∨ codec = .h265 ∨ codec = .other)

instance (s : Session) : (e : Event) → Decidable (Timed s e)
  | .script .. => inferInstanceAs (Decidable False)
  | .demux .. => inferInstanceAs (Decidable (_ ∧ _))

theorem Infers.silent (infers : Infers s codec t) (unset : s.expectedAudio = none)
    (silent : t.expectedAudio = some false) : codec.audio = false ∧ t.ready.isSome = true := by
  cases infers with
  | nothing => rw [unset] at silent; contradiction
  | heard => exact absurd silent (by simp)
  | watched => rw [unset] at silent; contradiction
  | timed video pending first =>
    obtain ⟨track,found⟩ := Option.isSome_iff_exists.mp pending
    exact ⟨video,by simp [Session.ready,found]⟩

theorem rawSilent (good : Good s) (unfixed : s.tracks = []) {pts dts : UInt32} {flags : Int}
    {vacant : Bool} (kind : codec.raw.isSome ∨ codec = .other)
    (takes : codec.g711 = true → s.takesG711 codec)
    (silent : (noteRaw s codec dts).expectedAudio = some false) :
    (noteRaw s codec dts).initialAudioTrack = none ∨
      Timed s (.demux codec data pts dts flags vacant) ∧ (noteRaw s codec dts).ready.isSome = true := by
  unfold noteRaw at silent ⊢
  cases g711 : codec.g711 with
  | true =>
    have audio := g711Audio g711
    simp only [g711,if_true] at silent
    split at silent
    · rename_i unset
      have inferred := inferCases {s with initialAudioTrack := some (g711Track codec)} codec dts
      have watched := inferred.silent (Option.isNone_iff_eq_none.mp unset) silent
      rw [audio] at watched
      exact absurd watched.1 (by decide)
    · exact absurd silent (takes g711).1
  | false =>
    simp only [g711,Bool.false_eq_true,if_false] at silent ⊢
    split at silent
    · rename_i unset
      have none_ := Option.isNone_iff_eq_none.mp unset
      have watched := (inferCases s codec dts).silent none_ silent
      rw [if_pos unset]
      refine .inr ⟨⟨none_,?_⟩,watched.2⟩
      cases codec <;> simp_all [FlvCodec.audio,FlvCodec.raw]
    · rename_i settled
      rw [if_neg settled]
      exact .inl (good.silent unfixed silent)

theorem Notes.silent (notes : Notes readers s e t) (good : Good s) (unfixed : s.tracks = [])
    (silent : t.expectedAudio = some false) :
    t.initialAudioTrack = none ∨ Timed s e ∧ t.ready.isSome = true := by
  cases notes with
  | nothing => exact .inl (good.silent unfixed silent)
  | metadata audio agrees kept =>
    cases Option.some.inj silent
    exact .inl (kept rfl)
  | video kind config => exact .inl (good.silent unfixed silent)
  | audio kind config expected same => exact absurd silent expected
  | raw kind takes => exact rawSilent good unfixed kind takes silent

end MediaServer.RtmpPublish
