import Mathlib.Data.List.Sort
import MediaServer.Handler
import MediaServer.Interleaving
import MediaServer.Text

/-! rtsp_publish_session behind an accepted ANNOUNCE, with the media it fills and its UDP session.
What the demuxer library, the registry, the port pool and the sockets answer comes with the
request. -/
namespace MediaServer.RtspPublish
open Handler Interleaving

structure Description where
  uri : Text
  track : Nat
  deriving DecidableEq, Repr

inductive Carrier where
  | rtpTcp | rtpUdp | other
  deriving DecidableEq, Repr

inductive Mode where
  | unset | record | other
  deriving DecidableEq, Repr

structure Transport where
  carrier : Carrier
  multicast : Bool
  mode : Mode
  interleaved1 : Int
  interleaved2 : Int
  clientPort1 : Nat
  clientPort2 : Nat
  deriving DecidableEq, Repr

structure Answers where
  demuxers : Bool
  address : Bool
  port : Option Nat
  network : Bool
  registered : Bool
  sent : Bool
  deriving DecidableEq, Repr

inductive Request where
  | setup (uri session : Text) (transports : List Transport)
  | play
  | record (session : Text)
  deriving DecidableEq, Repr

inductive Effect where
  | setup (code : Nat) (session transport : Text)
  | record (code : Nat)
  deriving DecidableEq, Repr

structure Media where
  stream : Option (List Nat) := none
  deriving DecidableEq, Repr

structure UdpSession where
  media : Media
  ports : List (Option Nat)
  deriving DecidableEq, Repr

structure Session where
  sessionId : Text
  descriptions : List Description
  tcpMedia : Option Media := none
  tcpTrackStates : List Channels := []
  udpSession : Option UdpSession := none
  fault : Bool := false
  deriving DecidableEq, Repr

def Media.startup (descriptions : List Description) (demuxers : Bool) : Media × Bool :=
  if descriptions.isEmpty then ({},false) else (⟨some []⟩,demuxers)

def setTracks (old tracks : List Nat) : Option (List Nat) :=
  if !old.isEmpty || tracks.isEmpty || tracks.any (· = 0) || !decide tracks.Nodup then none
  else some tracks

def Media.startRecording (media : Media) (descriptions : List Description) (registered : Bool) :
    Media × Bool :=
  match media.stream with
  | none => (media,false)
  | some old =>
    if !old.isEmpty then (media,false)
    else match setTracks old ((descriptions.map (·.track)).insertionSort (· ≤ ·)) with
      | none => (media,false)
      | some tracks => (⟨some tracks⟩,registered)

namespace Session

def reply (sent : Bool) (session : Session) (effect : Effect) : Turn Session Effect :=
  ⟨session,[effect],sent⟩

def validInterleaved (t : Transport) : Bool :=
  0 ≤ t.interleaved1 && 0 ≤ t.interleaved2 && t.interleaved1 ≤ 255 && t.interleaved2 ≤ 255 &&
    t.interleaved1 ≠ t.interleaved2

def selectable (session : Session) (t : Transport) : Bool :=
  let tcp : Bool := t.carrier = .rtpTcp
  let udp : Bool := t.carrier = .rtpUdp
  let familyMatches := (tcp && session.udpSession.isNone) || (udp && session.tcpMedia.isNone)
  familyMatches && !t.multicast && (t.mode = .unset || t.mode = .record) &&
    (!tcp || validInterleaved t)

def tcpText (c : Channels) : Text :=
  "RTP/AVP/TCP;unicast;interleaved=".toList ++ Text.showInt c.rtp ++ "-".toList ++
    Text.showInt c.rtcp ++ ";mode=record".toList

def onTcpSetup (sent : Bool) (session : Session) (index : Nat) (t : Transport) :
    Turn Session Effect :=
  match session.tcpTrackStates[index]? with
  | none => .fail {session with fault := true}
  | some state =>
    if state.up then .fail session
    else if session.tcpTrackStates.any fun state => state.up &&
        (state.rtp = t.interleaved1 || state.rtp = t.interleaved2 ||
          state.rtcp = t.interleaved1 || state.rtcp = t.interleaved2) then
      reply sent session (.setup 461 [] [])
    else
      let channels : Channels := ⟨t.interleaved1,t.interleaved2⟩
      reply sent {session with tcpTrackStates := session.tcpTrackStates.set index channels}
        (.setup 200 session.sessionId (tcpText channels))

def udpText (t : Transport) (port : Nat) : Text :=
  "RTP/AVP;unicast;client_port=".toList ++ Text.decimal t.clientPort1 ++ "-".toList ++
    Text.decimal t.clientPort2 ++ ";server_port=".toList ++ Text.decimal port ++ "-".toList ++
    Text.decimal (port + 1) ++ ";mode=record".toList

def onUdpSetup (answers : Answers) (session : Session) (udp : UdpSession) (index : Nat)
    (t : Transport) : Turn Session Effect :=
  match udp.ports[index]? with
  | none => .fail {session with fault := true}
  | some (some _) => .fail session
  | some none =>
    if !answers.address then .fail session
    else match answers.port with
      | none => .fail session
      | some port =>
        let session :=
          {session with udpSession := some {udp with ports := udp.ports.set index (some port)}}
        if !answers.network then .fail session
        else reply answers.sent session (.setup 200 session.sessionId (udpText t port))

def onFirstSetup (answers : Answers) (session : Session) (index : Nat) (t : Transport) :
    Turn Session Effect :=
  let (media,started) := Media.startup session.descriptions answers.demuxers
  if t.carrier = .rtpTcp then
    let session := {session with tcpMedia := some media}
    if !started then .fail session
    else
      {session with
        tcpTrackStates := List.replicate session.descriptions.length {}}.onTcpSetup answers.sent
          index t
  else
    let udp : UdpSession := ⟨media,List.replicate session.descriptions.length none⟩
    let session := {session with udpSession := some udp}
    if !started then .fail session else session.onUdpSetup answers udp index t

def onSetup (answers : Answers) (session : Session) (uri text : Text)
    (transports : List Transport) : Turn Session Effect :=
  if !text.isEmpty && text ≠ session.sessionId then .fail session
  else match session.descriptions.findIdx? (·.uri = uri) with
    | none => reply answers.sent session (.setup 404 [] [])
    | some index =>
      match transports.find? session.selectable with
      | none =>
        reply answers.sent session (.setup 461 []
          (if session.udpSession.isSome then [] else
            "RTP/AVP/TCP;unicast;interleaved=0-1".toList))
      | some t =>
        if t.carrier = .rtpUdp && (t.clientPort1 = 0 || t.clientPort2 = 0) then
          reply answers.sent session (.setup 461 [] [])
        else if session.tcpMedia.isSome then session.onTcpSetup answers.sent index t
        else match session.udpSession with
          | some udp => session.onUdpSetup answers udp index t
          | none => session.onFirstSetup answers index t

def onTcpRecord (answers : Answers) (session : Session) (media : Media) : Turn Session Effect :=
  if session.tcpTrackStates.any (!·.up) then .fail session
  else
    let (media,started) := media.startRecording session.descriptions answers.registered
    let session := {session with tcpMedia := some media}
    if !started then .fail session else reply answers.sent session (.record 200)

def onUdpRecord (answers : Answers) (session : Session) (udp : UdpSession) :
    Turn Session Effect :=
  if udp.ports.any (·.isNone) then .fail session
  else
    let (media,started) := udp.media.startRecording session.descriptions answers.registered
    let session := {session with udpSession := some {udp with media}}
    if !started then .fail session else reply answers.sent session (.record 200)

def onRecord (answers : Answers) (session : Session) (text : Text) : Turn Session Effect :=
  if text ≠ session.sessionId then .fail session
  else match session.tcpMedia with
    | some media => session.onTcpRecord answers media
    | none =>
      match session.udpSession with
      | some udp => session.onUdpRecord answers udp
      | none => .fail session

def handle (session : Session) : Answers × Request → Turn Session Effect
  | (answers,.setup uri text transports) => session.onSetup answers uri text transports
  | (_,.play) => .fail session
  | (answers,.record text) => session.onRecord answers text

end Session

namespace Session

def channels (session : Session) : List (Nat × Channels) := placed session.tcpTrackStates

def tracks (session : Session) : List Nat :=
  ((session.tcpMedia.bind (·.stream)).getD []) ++
    ((session.udpSession.bind (·.media.stream)).getD [])

def Complete (session : Session) : Prop :=
  (session.tcpMedia.isSome = true ∧
    session.tcpTrackStates.length = session.descriptions.length ∧
    ∀ state ∈ session.tcpTrackStates, state.up = true) ∨
  ∃ udp, session.udpSession = some udp ∧ udp.ports.length = session.descriptions.length ∧
    ∀ port ∈ udp.ports, port.isSome = true

end Session

structure Safe (s : Session) : Prop where
  assigned : Assigned s.channels
  sound : s.fault = false
  alone : s.tcpMedia = none ∨ s.udpSession = none
  bare : s.tcpMedia = none → s.tcpTrackStates = []

structure Ready (s : Session) : Prop extends Safe s where
  tcp : s.tcpMedia.isSome = true → s.tcpTrackStates.length = s.descriptions.length
  udp : ∀ udp, s.udpSession = some udp → udp.ports.length = s.descriptions.length

structure Left (s : Session) (t : Turn Session Effect) : Prop where
  safe : Safe t.state
  ready : t.ok = true → Ready t.state
  kept : ∀ item ∈ s.channels, item.2.up = true → item ∈ t.state.channels
  same : (∀ id text, .setup 200 id text ∉ t.effects) → t.state.channels = s.channels
  going : s.tracks ≠ [] → t.state.tracks ≠ []
  recorded : .record 200 ∈ t.effects →
    s.tracks = [] ∧ t.state.tracks ≠ [] ∧ s.Complete

variable {s : Session} {index : Nat} {descriptions : List Description}

theorem leftSame (ready : Ready s) {effects : List Effect} (ok : Bool)
    (quiet : .record 200 ∉ effects) : Left s ⟨s,effects,ok⟩ where
  safe := ready.toSafe
  ready _ := ready
  kept _ member _ := member
  same _ := rfl
  going some_ := some_
  recorded here := absurd here quiet

theorem leftReply (ready : Ready s) (sent : Bool) (code : Nat) (id text : Text) :
    Left s (s.reply sent (.setup code id text)) :=
  leftSame ready _ fun here => nomatch List.mem_singleton.mp here

theorem tcpLeft (ready : Ready s) (media : s.tcpMedia.isSome = true)
    (inside : index < s.descriptions.length) {t : Transport}
    (valid : Session.validInterleaved t = true) (sent : Bool) :
    Left s (s.onTcpSetup sent index t) := by
  unfold Session.onTcpSetup
  rw [← ready.tcp media] at inside
  rw [List.getElem?_eq_getElem inside]
  dsimp only
  split
  · exact leftSame ready _ nofun
  · rename_i low
    split
    · exact leftReply ready _ _ _ _
    · rename_i free
      have here : (index,s.tcpTrackStates[index]) ∈ s.channels :=
        placedMem.mpr (List.getElem?_eq_getElem inside)
      have fits : Channels.Valid ⟨t.interleaved1,t.interleaved2⟩ := by
        simp only [Session.validInterleaved,Bool.and_eq_true,decide_eq_true_eq] at valid
        exact ⟨⟨valid.1.1.1.1,valid.1.1.2⟩,⟨valid.1.1.1.2,valid.1.2⟩,valid.2⟩
      have next : Assigned (placed (s.tcpTrackStates.set index ⟨t.interleaved1,t.interleaved2⟩)) := by
        rw [placedSet]
        refine assigned ready.assigned fits ?_
        rintro ⟨i,c⟩ member _ high
        have member := List.mem_of_getElem? (placedMem.mp member)
        simp only [List.any_eq_true,not_exists,not_and,Bool.and_eq_true,Bool.or_eq_true,
          decide_eq_true_eq,not_or] at free
        obtain ⟨⟨⟨one,two⟩,three⟩,four⟩ := free c member high
        exact ⟨one,two,three,four⟩
      have bare : s.tcpMedia = none →
          s.tcpTrackStates.set index ⟨t.interleaved1,t.interleaved2⟩ = [] := by
        intro none_
        rw [none_] at media
        cases media
      have size : (s.tcpTrackStates.set index ⟨t.interleaved1,t.interleaved2⟩).length =
          s.descriptions.length := by
        rw [List.length_set]
        exact ready.tcp media
      refine ⟨⟨next,ready.sound,ready.alone,bare⟩,fun _ => ⟨⟨next,ready.sound,ready.alone,bare⟩,
        fun _ => size,ready.udp⟩,?_,?_,fun some_ => some_,
        fun here => nomatch List.mem_singleton.mp here⟩
      · rintro ⟨i,c⟩ member high
        change (i,c) ∈ placed (s.tcpTrackStates.set index _)
        rw [placedSet]
        refine assignKeeps member ?_
        intro same
        cases (show i = index from same)
        have state := Option.some.inj ((placedMem.mp here).symm.trans (placedMem.mp member))
        rw [state] at low
        exact low high
      · intro never
        exact absurd (List.mem_singleton.mpr rfl) (never _ _)

theorem freshAnswered {n : Nat} (states : s.tcpTrackStates = List.replicate n {})
    (inside : index < n) (t : Transport) (sent : Bool) :
    ∃ next text, s.onTcpSetup sent index t = ⟨next,[.setup 200 s.sessionId text],sent⟩ := by
  unfold Session.onTcpSetup
  have here : s.tcpTrackStates[index]? = some {} := by
    rw [states]
    simp [inside]
  have free : (s.tcpTrackStates.any fun state => state.up &&
      (state.rtp = t.interleaved1 || state.rtp = t.interleaved2 ||
        state.rtcp = t.interleaved1 || state.rtcp = t.interleaved2)) = false := by
    rw [states]
    simp [Channels.up]
  rw [here]
  dsimp only
  rw [if_neg (by decide),if_neg (by rw [free]; decide)]
  exact ⟨_,_,rfl⟩

theorem freshAssigned (n : Nat) : Assigned (placed (List.replicate n {})) := by
  have low : ∀ item ∈ placed (List.replicate n {}), item.2 = {} := by
    rintro ⟨i,c⟩ member
    exact (List.mem_replicate.mp (List.mem_of_getElem? (placedMem.mp member))).2
  have never : ∀ item ∈ placed (List.replicate n {}), item.2.up ≠ true := by
    intro item member
    rw [low item member]
    decide
  refine ⟨?_,fun item member _ => low item member,fun item member high =>
    absurd high (never item member),fun a left _ _ _ high _ => absurd high (never a left)⟩
  rw [placedKeys]
  exact List.nodup_range

theorem startedNone (demuxers : Bool) :
    ((Media.startup descriptions demuxers).1.stream).getD [] = [] := by
  unfold Media.startup
  split <;> rfl

theorem udpLeft (ready : Ready s) {udp : UdpSession} (session : s.udpSession = some udp)
    (media : s.tcpMedia = none) (inside : index < s.descriptions.length) (t : Transport)
    (answers : Answers) : Left s (s.onUdpSetup answers udp index t) := by
  unfold Session.onUdpSetup
  rw [← ready.udp udp session] at inside
  rw [List.getElem?_eq_getElem inside]
  split
  · rename_i absent
    cases absent
  · exact leftSame ready _ nofun
  · split
    · exact leftSame ready _ nofun
    · split
      · exact leftSame ready _ nofun
      · rename_i port _
        have safe : Safe {s with udpSession := some {udp with
            ports := udp.ports.set index (some port)}} :=
          ⟨ready.assigned,ready.sound,.inl media,ready.bare⟩
        have next : Ready {s with udpSession := some {udp with
            ports := udp.ports.set index (some port)}} := by
          refine ⟨safe,ready.tcp,?_⟩
          intro other same
          cases same
          rw [List.length_set]
          exact ready.udp udp session
        have tracks : s.tracks ≠ [] → {s with udpSession := some {udp with
            ports := udp.ports.set index (some port)}}.tracks ≠ [] := by
          intro some_
          simpa [Session.tracks,session] using some_
        split
        · exact ⟨safe,nofun,fun _ member _ => member,fun _ => rfl,tracks,nofun⟩
        · exact ⟨safe,fun _ => next,fun _ member _ => member,fun _ => rfl,tracks,
            fun here => nomatch List.mem_singleton.mp here⟩

theorem udpQuiet (answers : Answers) (s : Session) (udp : UdpSession) (index : Nat)
    (t : Transport) : .record 200 ∉ (s.onUdpSetup answers udp index t).effects := by
  unfold Session.onUdpSetup
  repeat' split
  all_goals simp [Session.reply,Turn.fail]

theorem leftFrom {mid : Session} {t : Turn Session Effect} (left : Left mid t)
    (channels : mid.channels = s.channels) (tracks : mid.tracks = s.tracks)
    (quiet : .record 200 ∉ t.effects) : Left s t where
  safe := left.safe
  ready := left.ready
  kept item member high := left.kept item (by rwa [channels]) high
  same never := (left.same never).trans channels
  going some_ := left.going (by rwa [tracks])
  recorded here := absurd here quiet

theorem firstLeft (ready : Ready s) (media : s.tcpMedia = none) (udp : s.udpSession = none)
    (inside : index < s.descriptions.length) {t : Transport}
    (valid : t.carrier = .rtpTcp → Session.validInterleaved t = true) (answers : Answers) :
    Left s (s.onFirstSetup answers index t) := by
  have blank : s.tcpTrackStates = [] := ready.bare media
  have tracks : s.tracks = [] := by simp [Session.tracks,media,udp]
  have empty : s.channels = [] := by simp [Session.channels,blank,placed]
  unfold Session.onFirstSetup
  dsimp only
  split
  · rename_i tcp
    split
    · have safe : Safe {s with
          tcpMedia := some (Media.startup s.descriptions answers.demuxers).1} :=
        ⟨ready.assigned,ready.sound,.inr udp,nofun⟩
      exact ⟨safe,nofun,fun _ member _ => member,fun _ => rfl,fun some_ => absurd tracks some_,
        nofun⟩
    · generalize within : Session.mk _ _ _ _ _ _ = mid
      have states : mid.tcpTrackStates = List.replicate s.descriptions.length {} := by
        rw [← within]
      have mine : mid.tcpMedia.isSome = true ∧ mid.descriptions = s.descriptions ∧
          mid.udpSession = none ∧ mid.fault = false := by
        rw [← within]
        exact ⟨rfl,rfl,udp,ready.sound⟩
      have next : Ready mid := by
        refine ⟨⟨?_,mine.2.2.2,.inr mine.2.2.1,?_⟩,?_,?_⟩
        · rw [Session.channels,states]
          exact freshAssigned _
        · intro none_
          rw [none_] at mine
          cases mine.1
        · intro _
          rw [states,mine.2.1,List.length_replicate]
        · intro other same
          rw [mine.2.2.1] at same
          cases same
      have left := tcpLeft next mine.1 (by rw [mine.2.1]; exact inside) (valid tcp) answers.sent
      obtain ⟨done,text,answered⟩ := freshAnswered states inside t answers.sent
      rw [answered] at left ⊢
      exact ⟨left.safe,left.ready,by simp [empty],
        fun never => absurd (List.mem_singleton.mpr rfl) (never _ _),
        fun some_ => absurd tracks some_,fun here => nomatch List.mem_singleton.mp here⟩
  · obtain ⟨fresh,begun⟩ : ∃ fresh : UdpSession, fresh =
        ⟨(Media.startup s.descriptions answers.demuxers).1,
          List.replicate s.descriptions.length none⟩ := ⟨_,rfl⟩
    rw [← begun]
    have safe : Safe {s with udpSession := some fresh} :=
      ⟨ready.assigned,ready.sound,.inl media,ready.bare⟩
    split
    · exact ⟨safe,nofun,fun _ member _ => member,fun _ => rfl,fun some_ => absurd tracks some_,
        nofun⟩
    · have next : Ready {s with udpSession := some fresh} := by
        refine ⟨safe,ready.tcp,?_⟩
        intro other same
        cases same
        rw [begun]
        exact List.length_replicate
      have left := udpLeft next rfl media inside t answers
      refine leftFrom left rfl ?_ (udpQuiet _ _ _ _ _)
      simp [Session.tracks,media,udp,begun,startedNone]

theorem setupLeft (ready : Ready s) (answers : Answers) (uri text : Text)
    (transports : List Transport) : Left s (s.onSetup answers uri text transports) := by
  unfold Session.onSetup
  split
  · exact leftSame ready _ nofun
  split
  · exact leftReply ready _ _ _ _
  rename_i index found
  have inside : index < s.descriptions.length := (List.findIdx?_eq_some_iff_getElem.mp found).1
  split
  · exact leftReply ready _ _ _ _
  rename_i t picked
  have chosen := List.find?_some picked
  simp only [Session.selectable,Bool.and_eq_true,Bool.or_eq_true,decide_eq_true_eq,
    Bool.not_eq_true',decide_eq_false_iff_not] at chosen
  have valid : t.carrier = .rtpTcp → Session.validInterleaved t = true := fun tcp =>
    chosen.2.resolve_left fun other => other tcp
  split
  · exact leftReply ready _ _ _ _
  split
  · rename_i media
    have tcp : t.carrier = .rtpTcp := by
      rcases chosen.1.1.1 with both | both
      · exact both.1
      · rw [Option.isNone_iff_eq_none.mp both.2] at media
        cases media
    exact tcpLeft ready media inside (valid tcp) answers.sent
  · rename_i absent
    have media : s.tcpMedia = none := by simpa using absent
    split
    · rename_i udp session
      exact udpLeft ready session media inside t answers
    · rename_i session
      exact firstLeft ready media session inside valid answers

theorem recordingStarts {media next : Media} {registered started : Bool}
    (call : media.startRecording descriptions registered = (next,started)) :
    (next.stream.getD [] = media.stream.getD [] ∧ started = false) ∨
      (media.stream.getD [] = [] ∧ next.stream.getD [] ≠ []) := by
  unfold Media.startRecording at call
  split at call
  · cases call
    exact .inl ⟨rfl,rfl⟩
  · rename_i old stream
    split at call
    · cases call
      exact .inl ⟨rfl,rfl⟩
    · rename_i fresh
      split at call
      · cases call
        exact .inl ⟨rfl,rfl⟩
      · rename_i tracks set
        cases call
        right
        refine ⟨by simpa [stream] using fresh,?_⟩
        unfold setTracks at set
        split at set
        · cases set
        · rename_i good
          cases set
          simp only [Bool.or_eq_true,not_or,List.isEmpty_iff] at good
          simpa using good.1.1.2

theorem recordedLeft {next : Session} {old new : List Nat} {started : Bool} (complete : s.Complete)
    (safe : Safe next) (ready : Ready next) (channels : next.channels = s.channels)
    (before : s.tracks = old) (after : next.tracks = new)
    (starts : (new = old ∧ started = false) ∨ (old = [] ∧ new ≠ [])) (sent : Bool) :
    Left s (if !started then .fail next else next.reply sent (.record 200)) := by
  have going : s.tracks ≠ [] → next.tracks ≠ [] := by
    rw [before,after]
    rcases starts with ⟨same,-⟩ | ⟨-,some_⟩
    · rw [same]
      exact id
    · exact fun _ => some_
  have kept : ∀ item ∈ s.channels, item.2.up = true → item ∈ next.channels := by
    rw [channels]
    exact fun _ member _ => member
  cases started with
  | false => exact ⟨safe,fun _ => ready,kept,fun _ => channels,going,nofun⟩
  | true =>
    obtain ⟨empty,some_⟩ := starts.resolve_left (by simp)
    refine ⟨safe,fun _ => ready,kept,fun _ => channels,going,fun _ => ⟨?_,?_,complete⟩⟩
    · rw [before,empty]
    · change next.tracks ≠ []
      rwa [after]

theorem udpRecordLeft (ready : Ready s) (media : s.tcpMedia = none) {udp : UdpSession}
    (here : s.udpSession = some udp) (answers : Answers) : Left s (s.onUdpRecord answers udp) := by
  unfold Session.onUdpRecord
  split
  · exact leftSame ready _ nofun
  rename_i all
  rcases call : udp.media.startRecording s.descriptions answers.registered with ⟨next,started⟩
  dsimp only
  have safe : Safe {s with udpSession := some {udp with media := next}} :=
    ⟨ready.assigned,ready.sound,.inl media,ready.bare⟩
  have size := ready.udp udp here
  have following : Ready {s with udpSession := some {udp with media := next}} := by
    refine ⟨safe,ready.tcp,?_⟩
    intro other same
    cases same
    exact size
  have complete : s.Complete := by
    refine .inr ⟨udp,here,size,?_⟩
    intro port member
    cases port with
    | none => exact absurd (List.any_eq_true.mpr ⟨none,member,rfl⟩) all
    | some port => rfl
  have tracks : s.tracks = udp.media.stream.getD [] := by simp [Session.tracks,here,media]
  have later : {s with udpSession := some {udp with media := next}}.tracks =
      next.stream.getD [] := by
    simp [Session.tracks,media]
  exact recordedLeft complete safe following rfl tracks later (recordingStarts call) answers.sent

theorem recordLeft (ready : Ready s) (answers : Answers) (text : Text) :
    Left s (s.onRecord answers text) := by
  unfold Session.onRecord
  split
  · exact leftSame ready _ nofun
  split
  · rename_i media here
    have udp : s.udpSession = none := ready.alone.resolve_left (by simp [here])
    unfold Session.onTcpRecord
    split
    · exact leftSame ready _ nofun
    rename_i all
    rcases call : media.startRecording s.descriptions answers.registered with ⟨next,started⟩
    dsimp only
    have safe : Safe {s with tcpMedia := some next} :=
      ⟨ready.assigned,ready.sound,.inr udp,nofun⟩
    have size := ready.tcp (by simp [here])
    have following : Ready {s with tcpMedia := some next} := ⟨safe,fun _ => size,ready.udp⟩
    have complete : s.Complete := by
      refine .inl ⟨by simp [here],size,?_⟩
      simpa using all
    have tracks : s.tracks = media.stream.getD [] := by simp [Session.tracks,here,udp]
    have later : {s with tcpMedia := some next}.tracks = next.stream.getD [] := by
      simp [Session.tracks,udp]
    exact recordedLeft complete safe following rfl tracks later (recordingStarts call) answers.sent
  · rename_i media
    split
    · rename_i udp session
      exact udpRecordLeft ready media session answers
    · exact leftSame ready _ nofun

theorem handleLeft (ready : Ready s) (call : Answers × Request) : Left s (s.handle call) := by
  obtain ⟨answers,request⟩ := call
  cases request with
  | setup uri text transports => exact setupLeft ready answers uri text transports
  | play => exact leftSame ready _ nofun
  | record text => exact recordLeft ready answers text

def Recorded (c : Call Session (Answers × Request) Effect) : Prop := .record 200 ∈ c.turn.effects

theorem initialReady (sessionId : Text) (descriptions : List Description) :
    Ready {sessionId, descriptions} :=
  ⟨⟨freshAssigned 0,rfl,.inl rfl,fun _ => rfl⟩,nofun,nofun⟩

theorem callReady {sessionId : Text} {requests : List (Answers × Request)}
    {before after : List (Call Session (Answers × Request) Effect)}
    {c : Call Session (Answers × Request) Effect}
    (cut : calls Session.handle {sessionId, descriptions} requests = before ++ c :: after) :
    Ready c.state ∧ Left c.state c.turn ∧ (Recorded c → ∀ d ∈ before, ¬Recorded d) := by
  have found := callsCut
    (P := fun past s => Ready s ∧ ((∃ d ∈ past, Recorded d) → s.tracks ≠ [])) []
    ⟨initialReady sessionId descriptions,by simp⟩ (fun past s e ⟨ready,held⟩ ok => by
      have left := handleLeft ready e
      refine ⟨left.ready ok,?_⟩
      rintro ⟨d,member,recorded⟩
      rcases List.mem_append.mp member with earlier | last
      · exact left.going (held ⟨d,earlier,recorded⟩)
      · cases List.mem_singleton.mp last
        exact (left.recorded recorded).2.1) cut
  obtain ⟨⟨ready,held⟩,same,-⟩ := found
  have left := handleLeft ready c.event
  rw [← same] at left
  refine ⟨ready,left,fun recorded d member earlier => ?_⟩
  exact held ⟨d,member,earlier⟩ (left.recorded recorded).1

end MediaServer.RtspPublish
