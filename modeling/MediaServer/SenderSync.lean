import MediaServer.Bytes
import MediaServer.SenderReports

/-! The two inputs that take sender reports: the media of an RTSP publisher, with a track for every
description, and the receiver of a WHIP or WHEP input, with a video and an audio track. -/
namespace MediaServer.SenderReports
open Controller

/- What the demuxer answers to one packet: the result of its input and the report it has then. -/
structure Answer where
  input : Int
  report : Option Report
  deriving DecidableEq, Repr

def rtcpSr : Int := 200

namespace RtspPublishMedia

structure State where
  mediaStream : Option Bool
  demuxers : List Bool
  syncedTracks : List Bool
  rtcpSync : Option RtcpSync
  room : demuxers.length ≤ syncedTracks.length
  deriving DecidableEq, Repr

def startup (descriptions : Nat) : State :=
  ⟨some false,List.replicate descriptions true,List.replicate descriptions false,none,by simp⟩

inductive Event where
  | startRecording (set : Bool)
  | inputPacket (trackIndex size : Nat) (answer : Answer)
  | shutdown
  deriving DecidableEq, Repr

def Event.report : Event → Option Report
  | .inputPacket _ _ answer => answer.report
  | _ => none

def State.synced (m : State) (trackIndex : Nat) : Bool := m.syncedTracks.getD trackIndex false

def State.reaches (m : State) (trackIndex size : Nat) : Bool :=
  m.mediaStream = some true && decide (4 ≤ size) && m.demuxers.getD trackIndex false

def State.inputPacket (m : State) (trackIndex size : Nat) (answer : Answer) :
    Bool × State × List (Mapping Nat) :=
  if m.mediaStream.isNone then (false,m,[])
  else if !m.reaches trackIndex size then (true,m,[])
  else if answer.input ≠ rtcpSr || m.synced trackIndex then (decide (0 ≤ answer.input),m,[])
  else
    match answer.report with
    | none => (true,m,[])
    | some report =>
      let taken := takeReport m.rtcpSync report
      (true,
        {m with
          rtcpSync := some taken.1
          syncedTracks := m.syncedTracks.set trackIndex true
          room := by rw [List.length_set]; exact m.room},
        [⟨trackIndex,report.rtpTimestamp,taken.2⟩])

def step (m : State) : Event → State × List (Mapping Nat)
  | .startRecording set =>
    ({m with mediaStream := m.mediaStream.map fun tracks => tracks || set},[])
  | .inputPacket trackIndex size answer => (m.inputPacket trackIndex size answer).2
  | .shutdown => ({m with mediaStream := none, demuxers := [], rtcpSync := none, room := Nat.zero_le _},[])

def reported (m : State) : Event → Option (Nat × Report)
  | .inputPacket trackIndex size answer =>
    if m.reaches trackIndex size ∧ answer.input = rtcpSr then answer.report.map (trackIndex,·)
    else none
  | _ => none

variable {m : State} {trackIndex size track : Nat} {report : Report} {answer : Answer}

theorem reachesIn (reaches : m.reaches trackIndex size = true) :
    m.mediaStream = some true ∧ trackIndex < m.syncedTracks.length := by
  simp only [State.reaches,Bool.and_eq_true,decide_eq_true_eq,List.getD_eq_getElem?_getD] at reaches
  obtain ⟨⟨stream,_⟩,there⟩ := reaches
  refine ⟨stream,Nat.lt_of_lt_of_le ?_ m.room⟩
  by_contra outside
  rw [List.getElem?_eq_none (by omega)] at there
  contradiction

theorem reportedIn {e : Event} (found : reported m e = some (track,report)) :
    ∃ size answer, e = .inputPacket track size answer ∧ m.reaches track size = true ∧
      answer.input = rtcpSr ∧ answer.report = some report := by
  cases e with
  | inputPacket trackIndex size answer =>
    simp only [reported,Option.ite_none_right_eq_some,Option.map_eq_some_iff,Prod.mk.injEq] at found
    obtain ⟨⟨reaches,sr⟩,_,read,rfl,rfl⟩ := found
    exact ⟨size,answer,rfl,reaches,sr,read⟩
  | startRecording set => contradiction
  | shutdown => contradiction

theorem inputUnreported (none_ : reported m (.inputPacket trackIndex size answer) = none) :
    (m.inputPacket trackIndex size answer).2 = (m,[]) := by
  unfold State.inputPacket
  split
  · rfl
  · split
    · rfl
    · rename_i reaches
      split
      · rfl
      · rename_i fresh
        simp only [Bool.or_eq_true,decide_eq_true_eq,not_or,not_not,Bool.not_eq_true',
          Bool.not_eq_false] at reaches fresh
        rw [reported,if_pos ⟨reaches,fresh.1⟩,Option.map_eq_none_iff] at none_
        rw [none_]

theorem inputReported (reaches : m.reaches track size = true) (sr : answer.input = rtcpSr)
    (read : answer.report = some report) :
    (m.inputPacket track size answer).2 =
      if m.synced track then (m,[])
      else
        ({m with
          rtcpSync := some (takeReport m.rtcpSync report).1
          syncedTracks := m.syncedTracks.set track true
          room := by rw [List.length_set]; exact m.room},
          [⟨track,report.rtpTimestamp,(takeReport m.rtcpSync report).2⟩]) := by
  simp only [State.inputPacket,(reachesIn reaches).1,reaches,sr,read]
  cases m.synced track <;> rfl

theorem takes : Takes step (fun m => m.mediaStream.isSome = true) State.synced State.rtcpSync
    reported where
  taken m e found := by
    obtain ⟨⟨track,report⟩,found⟩ := Option.ne_none_iff_exists'.mp found
    obtain ⟨_,_,_,reaches,_⟩ := reportedIn found
    rw [(reachesIn reaches).1]
    rfl
  alive m e live := by
    cases e with
    | startRecording set => simpa [step] using live
    | inputPacket trackIndex size answer =>
      by_contra dead
      simp only [step,State.inputPacket,Bool.not_eq_true,Option.isSome_eq_false_iff] at live dead
      rw [if_pos dead,Option.isNone_iff_eq_none.mp dead] at live
      contradiction
    | shutdown => simp [step] at live
  other m e none_ := by
    cases e with
    | startRecording set => exact ⟨rfl,fun _ => ⟨rfl,rfl⟩⟩
    | inputPacket trackIndex size answer =>
      have same : step m (.inputPacket trackIndex size answer) = (m,[]) := inputUnreported none_
      rw [same]
      exact ⟨rfl,fun _ => ⟨rfl,rfl⟩⟩
    | shutdown => exact ⟨rfl,nofun⟩
  again m e track report found known := by
    obtain ⟨size,answer,rfl,reaches,sr,read⟩ := reportedIn found
    simp only [step,inputReported reaches sr read,known]
    exact ⟨rfl,rfl,rfl⟩
  first m e track report found unknown := by
    obtain ⟨size,answer,rfl,reaches,sr,read⟩ := reportedIn found
    simp only [step,inputReported reaches sr read,unknown]
    refine ⟨rfl,?_,rfl⟩
    funext other
    simp only [State.synced,List.getD_eq_getElem?_getD,Bool.false_eq_true,if_false]
    by_cases same : other = track
    · subst same
      simp [List.getElem?_set_self (reachesIn reaches).2]
    · rw [if_neg same,List.getElem?_set_ne (Ne.symm same)]

end RtspPublishMedia

namespace WhipMediaReceiver

inductive Track where
  | video
  | audio
  deriving DecidableEq, Repr

structure State where
  videoPayloadType : Int
  audioPayloadType : Int
  videoSsrc : Option UInt32
  audioSsrc : Option UInt32
  videoSynced : Bool
  audioSynced : Bool
  rtcpSync : Option RtcpSync
  deriving DecidableEq, Repr

def startup (videoPayloadType audioPayloadType : Int) : State :=
  ⟨videoPayloadType,audioPayloadType,none,none,false,false,none⟩

def State.ssrc (w : State) : Track → Option UInt32
  | .video => w.videoSsrc
  | .audio => w.audioSsrc

def State.synced (w : State) : Track → Bool
  | .video => w.videoSynced
  | .audio => w.audioSynced

def State.setSsrc (w : State) (ssrc : UInt32) : Track → State
  | .video => {w with videoSsrc := some ssrc}
  | .audio => {w with audioSsrc := some ssrc}

def State.setSynced (w : State) : Track → State
  | .video => {w with videoSynced := true}
  | .audio => {w with audioSynced := true}

def State.payloadTrack (w : State) (payloadType : Int) : Option Track :=
  if payloadType = w.videoPayloadType then some .video
  else if 0 ≤ w.audioPayloadType ∧ payloadType = w.audioPayloadType then some .audio
  else none

def State.inputRtp (w : State) (packet : Bytes) (input : Int) : Bool × State :=
  if packet.length < 12 ∨ (packet.getD 0 0).toNat / 64 ≠ 2 then (false,w)
  else
    let ssrc := Bytes.readU32 (packet.drop 8)
    match w.payloadTrack ((packet.getD 1 0).toNat % 128) with
    | none => (false,w)
    | some track =>
      if (w.ssrc track).any (· ≠ ssrc) then (false,w)
      else (decide (0 ≤ input),w.setSsrc ssrc track)

def State.senderTrack (w : State) (ssrc : UInt32) : Option Track :=
  if w.videoSsrc = some ssrc then some .video
  else if w.audioSsrc = some ssrc then some .audio
  else none

def State.applySenderReport (w : State) (track : Track) (report : Option Report) :
    Bool × State × List (Mapping Track) :=
  match report with
  | none => (false,w,[])
  | some report =>
    let taken := takeReport w.rtcpSync report
    (true,{w with rtcpSync := some taken.1},[⟨track,report.rtpTimestamp,taken.2⟩])

def rtcpType (packet : Bytes) : Option Nat :=
  let packetType := (packet.getD 1 0).toNat
  let packetBytes := ((Bytes.readU16 (packet.drop 2)).toNat + 1) * 4
  if packet.length < 8 ∨ (packet.getD 0 0).toNat / 64 ≠ 2 then none
  else if packetType < 192 ∨ 223 < packetType then none
  else if packet.length < packetBytes then none
  else some packetType

def State.inputRtcp (w : State) (packet : Bytes) (answer : Answer) :
    Bool × State × List (Mapping Track) :=
  match rtcpType packet with
  | none => (false,w,[])
  | some packetType =>
    if packetType ≠ 200 then (true,w,[])
    else
      match w.senderTrack (Bytes.readU32 (packet.drop 4)) with
      | none => (true,w,[])
      | some track =>
        if answer.input < 0 then (false,w,[])
        else if answer.input ≠ rtcpSr || w.synced track then (true,w,[])
        else (w.setSynced track).applySenderReport track answer.report

/- The session in front of the receiver. A packet that the receiver refuses is the last one it gets:
handle_srtp shuts the session down. -/
structure Session where
  receiver : State
  going : Bool
  deriving DecidableEq, Repr

inductive Event where
  | rtp (packet : Bytes) (input : Int)
  | rtcp (packet : Bytes) (answer : Answer)
  deriving DecidableEq, Repr

def Event.report : Event → Option Report
  | .rtp .. => none
  | .rtcp _ answer => answer.report

def step (s : Session) (e : Event) : Session × List (Mapping Track) :=
  if !s.going then (s,[])
  else
    match e with
    | .rtp packet input =>
      let (accepted,receiver) := s.receiver.inputRtp packet input
      (⟨receiver,accepted⟩,[])
    | .rtcp packet answer =>
      let (accepted,receiver,mappings) := s.receiver.inputRtcp packet answer
      (⟨receiver,accepted⟩,mappings)

def reported (s : Session) : Event → Option (Track × Report)
  | .rtp .. => none
  | .rtcp packet answer =>
    if s.going ∧ rtcpType packet = some 200 ∧ answer.input = rtcpSr then do
      let track ← s.receiver.senderTrack (Bytes.readU32 (packet.drop 4))
      let report ← answer.report
      some (track,report)
    else none

variable {s : Session} {track : Track} {report : Report} {packet : Bytes} {answer : Answer}

theorem reportedIn {e : Event} (found : reported s e = some (track,report)) :
    ∃ packet answer, e = .rtcp packet answer ∧ s.going = true ∧ rtcpType packet = some 200 ∧
      s.receiver.senderTrack (Bytes.readU32 (packet.drop 4)) = some track ∧
      answer.input = rtcpSr ∧ answer.report = some report := by
  cases e with
  | rtp packet input => contradiction
  | rtcp packet answer =>
    simp only [reported,Option.ite_none_right_eq_some,bind,Option.bind_eq_some_iff,
      Option.some.injEq,Prod.mk.injEq] at found
    obtain ⟨⟨going,type,sr⟩,_,sender,_,read,rfl,rfl⟩ := found
    exact ⟨packet,answer,rfl,going,type,sender,sr,read⟩

theorem inputRtpSame (w : State) (packet : Bytes) (input : Int) :
    (w.inputRtp packet input).2.synced = w.synced ∧
      (w.inputRtp packet input).2.rtcpSync = w.rtcpSync := by
  have set (ssrc : UInt32) (track : Track) :
      (w.setSsrc ssrc track).synced = w.synced ∧ (w.setSsrc ssrc track).rtcpSync = w.rtcpSync := by
    cases track <;> exact ⟨rfl,rfl⟩
  unfold State.inputRtp
  split
  · exact ⟨rfl,rfl⟩
  · dsimp only
    split
    · exact ⟨rfl,rfl⟩
    · split
      · exact ⟨rfl,rfl⟩
      · exact set _ _

theorem inputUnreported (going : s.going = true) (none_ : reported s (.rtcp packet answer) = none) :
    (s.receiver.inputRtcp packet answer).2 = (s.receiver,[]) ∨
      (s.receiver.inputRtcp packet answer).1 = false ∧
        (s.receiver.inputRtcp packet answer).2.2 = [] := by
  unfold State.inputRtcp
  split
  · exact .inl rfl
  · rename_i packetType type
    split
    · exact .inl rfl
    · rename_i isSr
      split
      · exact .inl rfl
      · rename_i track sender
        split
        · exact .inl rfl
        · split
          · exact .inl rfl
          · rename_i fresh
            simp only [Bool.or_eq_true,decide_eq_true_eq,not_or,not_not] at isSr fresh
            rw [isSr] at type
            simp only [reported,going,type,fresh.1,sender,and_self,if_true] at none_
            cases read : answer.report with
            | none => exact .inr ⟨rfl,rfl⟩
            | some report => simp [read] at none_

theorem inputReported {w : State} (type : rtcpType packet = some 200)
    (sender : w.senderTrack (Bytes.readU32 (packet.drop 4)) = some track)
    (sr : answer.input = rtcpSr) (read : answer.report = some report) :
    w.inputRtcp packet answer =
      if w.synced track then (true,w,[])
      else (w.setSynced track).applySenderReport track (some report) := by
  simp only [State.inputRtcp,type,sender,sr,read]
  cases w.synced track <;> rfl

theorem overStep (spent : s.going = false) (e : Event) : step s e = (s,[]) := by
  unfold step
  rw [spent]
  rfl

theorem takes : Takes step (fun s => s.going = true) (fun s => s.receiver.synced)
    (fun s => s.receiver.rtcpSync) reported where
  taken s e found := by
    obtain ⟨⟨track,report⟩,found⟩ := Option.ne_none_iff_exists'.mp found
    obtain ⟨_,_,_,going,_⟩ := reportedIn found
    exact going
  alive s e live := by
    by_contra spent
    rw [overStep (by simpa using spent)] at live
    exact spent live
  other s e none_ := by
    cases spent : s.going with
    | false =>
      rw [overStep spent]
      exact ⟨rfl,fun _ => ⟨rfl,rfl⟩⟩
    | true =>
      cases e with
      | rtp packet input =>
        simp only [step,spent]
        exact ⟨rfl,fun _ => inputRtpSame s.receiver packet input⟩
      | rtcp packet answer =>
        simp only [step,spent]
        rcases inputUnreported spent none_ with same | ⟨refused,quiet⟩
        · simp [same]
        · simp [refused,quiet]
  again s e track report found known := by
    obtain ⟨packet,answer,rfl,going,type,sender,sr,read⟩ := reportedIn found
    simp [step,going,inputReported type sender sr read,known]
  first s e track report found unknown := by
    obtain ⟨packet,answer,rfl,going,type,sender,sr,read⟩ := reportedIn found
    simp only [step,going,inputReported type sender sr read,unknown]
    refine ⟨?_,?_,?_⟩
    · cases track <;> rfl
    · funext other
      cases track <;> cases other <;> rfl
    · cases track <;> rfl

end WhipMediaReceiver

theorem smallReports {σ ε τ : Type} {step : σ → ε → σ × List (Mapping τ)}
    {reported : σ → ε → Option (τ × Report)} {given : ε → Option Report}
    (same : ∀ s e track report, reported s e = some (track,report) → given e = some report) {s : σ}
    {events : List ε} (small : ∀ e ∈ events, ∀ report, given e = some report → Small report) :
    ∀ item ∈ reportsIn reported (rounds step s events), Small item.2 := by
  intro item member
  obtain ⟨r,inside,found⟩ := List.mem_filterMap.mp member
  exact small r.event (roundsEvent r inside) item.2 (same _ _ item.1 item.2 found)

theorem senderReportSync (descriptions : Nat) (calls : List RtspPublishMedia.Event)
    (videoPayloadType audioPayloadType : Int) (packets : List WhipMediaReceiver.Event)
    (smallCalls : ∀ e ∈ calls, ∀ report, e.report = some report → Small report)
    (smallPackets : ∀ e ∈ packets, ∀ report, e.report = some report → Small report) :
    Synchronised RtspPublishMedia.reported
      (rounds RtspPublishMedia.step (RtspPublishMedia.startup descriptions) calls) ∧
    Synchronised WhipMediaReceiver.reported
      (rounds WhipMediaReceiver.step
        ⟨WhipMediaReceiver.startup videoPayloadType audioPayloadType,true⟩ packets) ∧
    ∀ (m : RtspPublishMedia.State) (w : WhipMediaReceiver.State) index size answer report track,
      m.rtcpSync = w.rtcpSync → RtspPublishMedia.reported m (.inputPacket index size answer) =
        some (index,report) → m.synced index = false →
      ∃ pts,
        (m.inputPacket index size answer).2.2 = [⟨index,report.rtpTimestamp,pts⟩] ∧
        (w.applySenderReport track (some report)).2.2 = [⟨track,report.rtpTimestamp,pts⟩] ∧
        (m.inputPacket index size answer).2.1.rtcpSync =
          (w.applySenderReport track (some report)).2.1.rtcpSync := by
  refine ⟨?_,?_,?_⟩
  · refine RtspPublishMedia.takes.synchronised ?_ rfl calls (smallReports ?_ smallCalls)
    · intro track
      simp only [RtspPublishMedia.State.synced,RtspPublishMedia.startup,
        List.getD_eq_getElem?_getD,List.getElem?_replicate]
      split <;> rfl
    · intro m e track report found
      obtain ⟨_,_,rfl,_,_,read⟩ := RtspPublishMedia.reportedIn found
      exact read
  · refine WhipMediaReceiver.takes.synchronised ?_ rfl packets (smallReports ?_ smallPackets)
    · intro track
      cases track <;> rfl
    · intro s e track report found
      obtain ⟨_,_,rfl,_,_,_,_,read⟩ := WhipMediaReceiver.reportedIn found
      exact read
  · intro m w index size answer report track reference found unknown
    obtain ⟨effects,_,sync⟩ := RtspPublishMedia.takes.first _ _ _ _ found unknown
    refine ⟨(takeReport m.rtcpSync report).2,effects,?_,?_⟩
    · rw [reference]
      rfl
    · refine sync.trans ?_
      rw [reference]
      rfl

def syncCalls : List RtspPublishMedia.Event :=
  [.startRecording true,.inputPacket 0 28 ⟨rtcpSr,some ⟨5,0,10,100⟩⟩,
    .inputPacket 1 28 ⟨rtcpSr,some ⟨3,2147483648,20,7⟩⟩,
    .inputPacket 1 28 ⟨rtcpSr,some ⟨4,0,30,8⟩⟩]

def syncPackets : List WhipMediaReceiver.Event :=
  [.rtp [128,96,0,1,0,0,0,0,0,0,0,7] 0,
    .rtcp [128,200,0,1,0,0,0,7] ⟨rtcpSr,some ⟨5,0,10,100⟩⟩]

theorem senderReportSyncRun :
    ((rounds RtspPublishMedia.step (RtspPublishMedia.startup 2) syncCalls).flatMap (·.effects)) =
      [⟨0,10,some 100⟩,⟨1,20,some (-1400)⟩] ∧
    ((rounds WhipMediaReceiver.step ⟨WhipMediaReceiver.startup 96 111,true⟩ syncPackets).flatMap
      (·.effects)) = [⟨.video,10,some 100⟩] ∧
    Synchronised RtspPublishMedia.reported
      (rounds RtspPublishMedia.step (RtspPublishMedia.startup 2) syncCalls) ∧
    Synchronised WhipMediaReceiver.reported
      (rounds WhipMediaReceiver.step ⟨WhipMediaReceiver.startup 96 111,true⟩ syncPackets) := by
  obtain ⟨calls,packets,_⟩ := senderReportSync 2 syncCalls 96 111 syncPackets
    (by simp [syncCalls,RtspPublishMedia.Event.report,Small])
    (by simp [syncPackets,WhipMediaReceiver.Event.report,Small])
  exact ⟨by decide +kernel,by decide +kernel,calls,packets⟩

end MediaServer.SenderReports
