import MediaServer.PublishTracks

/-! The audio a publish session has accepted ahead of its registration. The pending track is
always the last one accepted, and the registration leaves it out exactly when the video timer
brought it about. -/
namespace MediaServer.RtmpPublish
open Bytes Handler StreamCalls

def accepted (readers : Readers) (c : Call Session Event StreamEffect) : Option MediaTrack :=
  match c.event with
  | .script .. => none
  | .demux codec data _ _ _ vacant =>
    if !c.state.tracks.isEmpty then none
    else if codec = .asc || codec = .opusHead then
      if (handleAudioConfig readers c.state codec data vacant).ok then audioConfig readers codec data
      else none
    else if codec.g711 then
      if (initializeG711Track c.state codec vacant).ok then some (g711Track codec) else none
    else none

def lastAccepted (readers : Readers) (calls : List (Call Session Event StreamEffect)) :
    Option MediaTrack :=
  (calls.filterMap (accepted readers)).getLast?

def Publishes (readers : Readers) (s : Session) (codec : FlvCodec) : Prop :=
  ∀ data pts dts flags vacant,
    (handle readers s (.demux codec data pts dts flags vacant)).ok = true ∧
      ∃ frame ∈ published (handle readers s (.demux codec data pts dts flags vacant)),
        frame.payload = data

variable {s t : Session} {readers : Readers} {e : Event} {events : List Event}
  {before after : List (Call Session Event StreamEffect)} {c : Call Session Event StreamEffect}
  {tracks : List MediaTrack}

variable {codec : FlvCodec} {past : List (Call Session Event StreamEffect)} {a : MediaTrack}

theorem Infers.audio (infers : Infers s codec t) : t.initialAudioTrack = s.initialAudioTrack := by
  cases infers <;> rfl

theorem noteRawAudio (s : Session) (codec : FlvCodec) (dts : UInt32) :
    (noteRaw s codec dts).initialAudioTrack =
      if codec.g711 then some (g711Track codec) else s.initialAudioTrack := by
  have inferred : ∀ s : Session,
      (if s.expectedAudio.isNone then inferTracks s codec dts else s).initialAudioTrack =
        s.initialAudioTrack := by
    intro s
    split
    · exact (inferCases s codec dts).audio
    · rfl
  unfold noteRaw
  dsimp only
  rw [inferred]
  split <;> rfl

theorem notesAccepted (good : Good s) (unfixed : s.tracks = []) (notes : Notes readers s e t)
    (ok : (registerStreamIfReady e.vacant t).ok = true) (turn : Turn Session StreamEffect) :
    t.initialAudioTrack = (accepted readers ⟨s,e,turn⟩).or s.initialAudioTrack ∧
      ∀ track ∈ accepted readers ⟨s,e,turn⟩, ∀ initial ∈ s.initialAudioTrack,
        initial.codec = track.codec := by
  cases notes with
  | nothing => simp [accepted]
  | metadata audio agrees kept => simp [accepted]
  | video kind config =>
    rcases kind with same | same
    · subst same
      simp [accepted,unfixed,FlvCodec.g711]
    · subst same
      simp [accepted,unfixed,FlvCodec.g711]
  | @audio codec data pts dts flags vacant track kind config expected same =>
    have other : s.initialAudioTrack.any (·.codec ≠ track.codec) = false := by
      cases initial : s.initialAudioTrack with
      | none => rfl
      | some own => simp [same own initial]
    have handled : handleAudioConfig readers s codec data vacant =
        registerStreamIfReady vacant {s with initialAudioTrack := some track} := by
      simp only [handleAudioConfig,if_neg expected,config,unfixed,List.isEmpty_nil,if_true,other,
        Bool.false_eq_true,if_false]
    have taken : accepted readers ⟨s,.demux codec data pts dts flags vacant,turn⟩ = some track := by
      have passed : (handleAudioConfig readers s codec data vacant).ok = true := by
        rw [handled]
        exact ok
      rcases kind with own | own
      · subst own
        simp [accepted,unfixed,passed,config]
      · subst own
        simp [accepted,unfixed,passed,config]
    rw [taken]
    refine ⟨rfl,?_⟩
    intro found own initial second
    cases Option.some.inj own
    exact same initial second
  | @raw codec data pts dts flags vacant kind takes =>
    rw [noteRawAudio]
    have config : codec ≠ .asc ∧ codec ≠ .opusHead := by
      cases codec <;> simp_all [FlvCodec.raw]
    cases g711 : codec.g711 with
    | false => simp [accepted,unfixed,g711,config]
    | true =>
      have noted := takes g711
      have passed : (initializeG711Track s codec vacant).ok = true := by
        rw [initializeTakes good unfixed noted]
        rcases Option.eq_none_or_eq_some s.expectedAudio with unset | ⟨audio,settled⟩
        · have waiting : {s with initialAudioTrack := some (g711Track codec)}.ready = none :=
            readyUnset unset
          rw [registerWaits waiting]
          rfl
        · have same : noteRaw s codec dts =
              {s with initialAudioTrack := some (g711Track codec)} := by
            simp [noteRaw,g711,settled]
          rw [same] at ok
          exact ok
      simp only [accepted,unfixed,g711,config,passed]
      refine ⟨rfl,?_⟩
      intro track own initial found
      cases Option.some.inj own
      rw [noted.2 initial found]

def Heard (readers : Readers) (past : List (Call Session Event StreamEffect)) (s : Session) : Prop :=
  lastAccepted readers past = s.initialAudioTrack ∧
    ∀ a ∈ past.filterMap (accepted readers), ∀ initial ∈ s.initialAudioTrack,
      a.codec = initial.codec

theorem lastAcceptedAppend (readers : Readers) (past : List (Call Session Event StreamEffect))
    (c : Call Session Event StreamEffect) :
    lastAccepted readers (past ++ [c]) = (accepted readers c).or (lastAccepted readers past) := by
  unfold lastAccepted
  cases own : accepted readers c <;> simp [own]

theorem heardNotes (heard : Heard readers past s) (good : Good s) (unfixed : s.tracks = [])
    (notes : Notes readers s e t) (ok : (registerStreamIfReady e.vacant t).ok = true)
    (turn : Turn Session StreamEffect) : Heard readers (past ++ [⟨s,e,turn⟩]) t := by
  obtain ⟨noted,codecs⟩ := notesAccepted good unfixed notes ok turn
  refine ⟨?_,?_⟩
  · rw [lastAcceptedAppend,heard.1,noted]
  · intro a member initial pending
    rw [List.filterMap_append,List.mem_append] at member
    rw [noted] at pending
    cases own : accepted readers ⟨s,e,turn⟩ with
    | none =>
      rw [own] at pending
      rcases member with earlier | last
      · exact heard.2 a earlier initial pending
      · simp [own] at last
    | some track =>
      rw [own] at pending
      cases Option.some.inj pending
      rcases member with earlier | last
      ·
        have some_ : (lastAccepted readers past).isSome = true := by
          exact List.getLast?_isSome.mpr (List.ne_nil_of_mem earlier)
        rw [heard.1] at some_
        obtain ⟨before,found⟩ := Option.isSome_iff_exists.mp some_
        exact (heard.2 a earlier before found).trans (codecs _ own before found)
      · simp only [List.filterMap_cons,own,List.filterMap_nil,List.mem_singleton] at last
        rw [last]

theorem heardStep (good : Good s) (heard : s.tracks = [] → Heard readers past s)
    (ok : (handle readers s e).ok = true) (still : (handle readers s e).state.tracks = []) :
    Heard readers (past ++ [⟨s,e,handle readers s e⟩]) (handle readers s e).state := by
  have unfixed : s.tracks = [] := by
    by_contra fixed
    exact fixed ((fixedTurn readers good fixed e).tracks.symm.trans still)
  rcases unfixedTurn readers good unfixed e with refused | ⟨t,notes,same⟩
  · rw [refused] at ok
    contradiction
  · have noted := notes.noted (good.noted unfixed)
    have step := heardNotes (heard unfixed) good unfixed notes
    have registered := registration noted e.vacant
    rw [same] at ok still ⊢
    generalize registerStreamIfReady e.vacant t = turn at registered ok still step ⊢
    cases registered with
    | waits waiting =>
      rw [andThenDone] at ok ⊢
      rcases finishUnfixed noted.unfixed e with done | failed
      · rw [done]
        exact step rfl _
      · rw [failed] at ok
        contradiction
    | registers ready free =>
      have kept := (finishMeasured notes noted ready).tracks
      exact absurd (kept.symm.trans still) (readyLineup noted ready).fixes
    | duplicate ready taken => contradiction

theorem sessionHeard (cut : session readers events = before ++ c :: after)
    (unfixed : c.state.tracks = []) : Heard readers before c.state := by
  have found := callsCut (P := fun past s => Good s ∧ (s.tracks = [] → Heard readers past s)) []
    ⟨startGood,fun _ => ⟨rfl,by simp⟩⟩
    (fun past s e before ok => ⟨handleGood readers before.1 ok,heardStep before.1 before.2 ok⟩) cut
  exact found.1.2 unfixed

theorem registeringNotes (cut : session readers events = before ++ c :: after)
    (registers : registrations c.turn = [.setTracks tracks,.add true]) :
    c.state.tracks = [] ∧ ∃ t, Notes readers c.state c.event t ∧ t.ready = some tracks ∧
      Heard readers (before ++ [c]) t := by
  have placed := sessionPlaced cut
  have orders : registrations c.turn ≠ [] := by simp [registers]
  have unfixed := placed.unfixed (publishDiscipline readers) orders
  refine ⟨unfixed,?_⟩
  have good := placed.past.good
  rcases unfixedTurn readers good unfixed c.event with refused | ⟨t,notes,same⟩
  · rw [placed.turn,refused] at orders
    exact absurd rfl orders
  · have noted := notes.noted (good.noted unfixed)
    have step := heardNotes (sessionHeard cut unfixed) good unfixed notes
    have registered := registration noted c.event.vacant
    rw [placed.turn,same] at registers
    generalize registerStreamIfReady c.event.vacant t = turn at registered registers step
    cases registered with
    | waits waiting =>
      rw [andThenDone] at registers
      rcases finishUnfixed noted.unfixed c.event with done | failed
      · rw [done] at registers
        contradiction
      · rw [failed] at registers
        contradiction
    | @registers own ready free =>
      have plain := (finishMeasured notes noted ready).unregistered
      have effects : StreamEffect.setTracks own :: .add true ::
          registrations (finish (t.register own) c.event) = [.setTracks tracks,.add true] := registers
      rw [plain] at effects
      cases effects
      exact ⟨t,notes,ready,step rfl c.turn⟩
    | @duplicate own ready taken =>
      have effects : [StreamEffect.setTracks own,.add false] = [.setTracks tracks,.add true] := registers
      simp at effects

theorem timedReady (notes : Notes readers s e t) (timed : Timed s e) (ready : t.ready = some tracks) :
    t.expectedAudio = some false := by
  cases notes with
  | nothing => cases timed
  | metadata => cases timed
  | video kind config =>
    obtain ⟨_,codec⟩ := timed
    rcases kind with same | same
    · subst same
      simp at codec
    · subst same
      simp at codec
  | audio kind config expected same =>
    obtain ⟨_,codec⟩ := timed
    rcases kind with same | same
    · subst same
      simp at codec
    · subst same
      simp at codec
  | @raw codec data pts dts flags vacant kind takes =>
    obtain ⟨unset,video⟩ := timed
    have plain : codec.g711 = false ∧ codec.audio = false := by
      rcases video with same | same | same
      · subst same; exact ⟨rfl,rfl⟩
      · subst same; exact ⟨rfl,rfl⟩
      · subst same; exact ⟨rfl,rfl⟩
    have same : noteRaw s codec dts = inferTracks s codec dts := by
      simp [noteRaw,plain.1,unset]
    rw [same] at ready ⊢
    have infers := inferCases s codec dts
    generalize inferTracks s codec dts = t at infers ready ⊢
    cases infers with
    | nothing => rw [readyUnset unset] at ready; contradiction
    | heard audio => rw [plain.2] at audio; contradiction
    | watched video pending first =>
      have waiting := readyUnset (s := {s with firstVideoDts := some first}) unset
      rw [waiting] at ready
      contradiction
    | timed => rfl

theorem readySilent (silent : s.expectedAudio = some false) (ready : s.ready = some tracks) :
    ∃ video, s.initialVideoTrack = some video ∧ tracks = [video] := by
  unfold Session.ready at ready
  rw [silent] at ready
  cases initial : s.initialVideoTrack with
  | none => simp [initial] at ready
  | some video =>
    rw [initial] at ready
    exact ⟨video,rfl,(Option.some.inj ready).symm⟩

theorem readyHeard (heard : s.expectedAudio ≠ some false) (ready : s.ready = some tracks) :
    ∃ video audio, s.initialVideoTrack = some video ∧
      s.initialAudioTrack = some audio ∧ tracks = [video,audio] := by
  unfold Session.ready at ready
  split at ready
  · contradiction
  · rename_i video audio
    exact ⟨_,_,video,audio,(Option.some.inj ready).symm⟩
  · contradiction

theorem publishesIff (good : Good s) (fixed : s.tracks ≠ []) {id : Nat} {own : CodecId}
    (raw : codec.raw = some (id,own)) :
    Publishes readers s codec ↔ ∃ track ∈ s.tracks, track.id = id ∧ track.codec = own := by
  have config : codec.config = false := by cases codec <;> first | rfl | contradiction
  constructor
  · intro publishes
    have sent := publishes [] 0 0 0 false
    have measured := fixedTurn readers good fixed (.demux codec [] 0 0 0 false)
    obtain ⟨frame,member,_⟩ := sent.2
    obtain ⟨_,_,_,_,_,_,same,track,found,_,codecs⟩ := measured.codec member
    cases same
    cases Option.some.inj (raw.symm.trans codecs)
    exact ⟨track,found,rfl,rfl⟩
  · rintro ⟨track,member,id,codecs⟩ data pts dts flags vacant
    have fits : Fits readers s.tracks (.demux codec data pts dts flags vacant) := by
      simp only [Fits,config,Bool.false_eq_true,if_false]
      exact ⟨track,member,by rw [raw,id,codecs]⟩
    have measured := fixedTurn readers good fixed (.demux codec data pts dts flags vacant)
    generalize handle readers s (.demux codec data pts dts flags vacant) = turn at measured ⊢
    cases measured with
    | repeated again => rw [config] at again; contradiction
    | sent _ sends =>
      cases sends with
      | sent fixed same placed carried => exact ⟨rfl,_,List.mem_cons_self,carried⟩
    | refused misfit => exact absurd fits misfit

theorem acceptedId (heard : accepted readers c = some a) : a.id = audioTrackId := by
  obtain ⟨s,e,turn⟩ := c
  cases e with
  | script => contradiction
  | demux codec data pts dts flags vacant =>
    simp only [accepted] at heard
    split at heard
    · contradiction
    · split at heard
      · exact (audioConfigKind (Option.ite_none_right_eq_some.mp heard).2).1
      · split at heard
        · cases Option.some.inj (Option.ite_none_right_eq_some.mp heard).2
          rfl
        · contradiction

theorem registeredTracks (cut : session readers events = before ++ c :: after)
    (registers : registrations c.turn = [.setTracks tracks,.add true])
    (heard : a ∈ (before ++ [c]).filterMap (accepted readers)) :
    ∃ video pending, lastAccepted readers (before ++ [c]) = some pending ∧
      a.codec = pending.codec ∧ video.id = videoTrackId ∧ pending.id = audioTrackId ∧
      tracks = if Timed c.state c.event then [video] else [video,pending] := by
  have placed := sessionPlaced cut
  obtain ⟨unfixed,t,notes,ready,last,codecs⟩ := registeringNotes cut registers
  have noted := notes.noted (placed.past.good.noted unfixed)
  have some_ : (lastAccepted readers (before ++ [c])).isSome = true :=
    List.getLast?_isSome.mpr (List.ne_nil_of_mem heard)
  rw [last] at some_
  obtain ⟨pending,found⟩ := Option.isSome_iff_exists.mp some_
  have id := noted.audio pending found
  have codec := codecs a heard pending found
  by_cases timed : Timed c.state c.event
  · obtain ⟨video,initial,same⟩ := readySilent (timedReady notes timed ready) ready
    refine ⟨video,pending,last.trans found,codec,noted.video video initial,id,?_⟩
    rw [if_pos timed]
    exact same
  · have expected : t.expectedAudio ≠ some false := by
      intro silent
      rcases notes.silent placed.past.good unfixed silent with none_ | ⟨again,_⟩
      · rw [found] at none_
        contradiction
      · exact timed again
    obtain ⟨video,audio,initial,second,same⟩ := readyHeard expected ready
    cases Option.some.inj (found.symm.trans second)
    refine ⟨video,pending,last.trans found,codec,noted.video video initial,id,?_⟩
    rw [if_neg timed]
    exact same

theorem registeredState (cut : session readers events = before ++ c :: after)
    (registers : registrations c.turn = [.setTracks tracks,.add true]) :
    ∀ d ∈ c :: after, d.turn.ok = true → Good d.turn.state ∧ d.turn.state.tracks = tracks := by
  have placed := sessionPlaced cut
  have orders : .setTracks tracks ∈ c.turn.effects := by
    have member : .setTracks tracks ∈ registrations c.turn := by simp [registers]
    exact (List.mem_filter.mp member).1
  have registering := placed.registering (publishDiscipline readers) (registersOrders orders)
  cases registering.same orders
  intro d member ok
  have good := sessionGood readers events d (by rw [cut]; exact List.mem_append_right _ member)
  refine ⟨?_,?_⟩
  · rw [good.2] at ok ⊢
    exact handleGood readers good.1 ok
  · rcases List.mem_cons.mp member with own | later
    · rw [own]
    · obtain ⟨before,same,taken⟩ := registering.onward d later
      have fixed : d.state.tracks ≠ [] := by rw [same]; exact registering.fixes
      rw [taken]
      exact (fixedTurn readers before fixed d.event).tracks.trans same

theorem acceptedAudio (readers : Readers) (events : List Event)
    {before after : List (Call Session Event StreamEffect)} {c : Call Session Event StreamEffect}
    {tracks : List MediaTrack} {a : MediaTrack}
    (cut : session readers events = before ++ c :: after)
    (registers : registrations c.turn = [.setTracks tracks,.add true])
    (heard : a ∈ (before ++ [c]).filterMap (accepted readers)) :
    (a ∈ tracks ↔ ¬Timed c.state c.event ∧ lastAccepted readers (before ++ [c]) = some a) ∧
      ∀ d ∈ c :: after, d.turn.ok = true → ∀ codec : FlvCodec,
        codec.raw = some (audioTrackId,a.codec) →
          (Publishes readers d.turn.state codec ↔ ¬Timed c.state c.event) := by
  obtain ⟨video,pending,last,codec,first,second,same⟩ := registeredTracks cut registers heard
  obtain ⟨call,_,own⟩ := List.mem_filterMap.mp heard
  have id := acceptedId own
  have distinct : audioTrackId ≠ videoTrackId := by decide
  constructor
  · rw [last,same]
    by_cases timed : Timed c.state c.event
    · rw [if_pos timed,List.mem_singleton]
      refine ⟨?_,fun held => absurd timed held.1⟩
      intro isVideo
      rw [isVideo,first] at id
      exact absurd id.symm distinct
    · rw [if_neg timed,List.mem_pair]
      constructor
      · rintro (isVideo | isPending)
        · rw [isVideo,first] at id
          exact absurd id.symm distinct
        · exact ⟨timed,by rw [isPending]⟩
      · rintro ⟨_,isPending⟩
        exact .inr (Option.some.inj isPending).symm
  · intro d member ok raw incoming
    obtain ⟨good,tracksAre⟩ := registeredState cut registers d member ok
    have fixed : d.turn.state.tracks ≠ [] := by
      rw [tracksAre,same]
      split <;> simp
    rw [publishesIff good fixed incoming,tracksAre,same]
    by_cases timed : Timed c.state c.event
    · rw [if_pos timed]
      simp [first,distinct.symm,timed]
    · rw [if_neg timed]
      simp [second,codec,timed]

def onMetaData : Bytes := [0,10,111,110,77,101,116,97,68,97,116,97]
def audioNamed : Bytes :=
  [3,0,12,97,117,100,105,111,99,111,100,101,99,105,100,0,64,36,0,0,0,0,0,0,0,0,9]
def audioAbsent : Bytes := [3,0,0,9]

/- The answers of libflv to the data below. -/
def plainReaders : Readers :=
  ⟨fun data => if onMetaData.isPrefixOf data then some ("onMetaData",data.drop 12) else none,
    fun data => if data = audioNamed then some true
      else if data = audioAbsent then some false else none,
    fun data => if data = avcRecord then avcAnnexB else [],fun _ => [],
    fun data => if data = [18,16] then some (44100,2) else none,fun _ => none⟩

def aacTrack : MediaTrack := ⟨2,.audio,.aac,44100,2,[18,16]⟩

def openingEvents : List Event :=
  [.script (2 :: onMetaData ++ audioNamed) true,.demux .asc [18,16] 0 0 0 true,
    .demux .avcc avcRecord 0 0 0 true,.demux .aac [9] 10 10 0 true]

theorem announcedAudioKept :
    ∃ before c after, session plainReaders openingEvents = before ++ c :: after ∧
      registrations c.turn = [.setTracks [avcTrack,aacTrack],.add true] ∧
      aacTrack ∈ [avcTrack,aacTrack] ∧ Publishes plainReaders c.turn.state .aac := by
  obtain ⟨first,second,c,last,cut,registers,heard,timed,latest,ok⟩ :
      ∃ first second c last, session plainReaders openingEvents = [first,second] ++ c :: [last] ∧
        registrations c.turn = [.setTracks [avcTrack,aacTrack],.add true] ∧
        aacTrack ∈ ([first,second] ++ [c]).filterMap (accepted plainReaders) ∧
        ¬Timed c.state c.event ∧
        lastAccepted plainReaders ([first,second] ++ [c]) = some aacTrack ∧ c.turn.ok = true :=
    ⟨_,_,_,_,rfl,rfl,by decide,by decide,by decide,rfl⟩
  have kept := acceptedAudio plainReaders openingEvents cut registers heard
  exact ⟨[first,second],c,[last],cut,registers,kept.1.mpr ⟨timed,latest⟩,
    (kept.2 c List.mem_cons_self ok .aac rfl).mpr timed⟩

def lateAudioEvents : List Event :=
  [.demux .asc [18,16] 0 0 0 true,.demux .avcc avcRecord 0 0 0 true,
    .demux .h264 [7] 0 0 1 true,.demux .h264 [8] 500 500 0 true,.demux .aac [9] 510 510 0 true]

theorem lateAudioLost :
    ∃ before c frame, session plainReaders lateAudioEvents = before ++ [c,frame] ∧
      registrations c.turn = [.setTracks [avcTrack],.add true] ∧
      aacTrack ∈ before.filterMap (accepted plainReaders) ∧ aacTrack ∉ [avcTrack] ∧
      frame.event = .demux .aac [9] 510 510 0 true ∧ frame.turn.ok = false ∧
      published frame.turn = [] := by
  refine ⟨[_,_,_],_,_,rfl,rfl,?_,?_,rfl,rfl,rfl⟩
  · decide
  · decide

end MediaServer.RtmpPublish
