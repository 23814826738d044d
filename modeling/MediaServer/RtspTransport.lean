import MediaServer.RtspPlay
import MediaServer.RtspPublish

/-! Interleaved channels of a connection that plays and of one that publishes: what SETUP, PLAY and
RECORD leave of them, in any order and with any Transport header. -/
namespace MediaServer.RtspPlay
open Handler Controller Interleaving

def Session.channels (session : Session) : List (Nat × Channels) :=
  session.tracks.map fun (id,track) => (id,⟨track.rtpChannel,track.rtcpChannel⟩)

def Session.handle (env : Environment) (registry : Registry) (sent : Bool) (session : Session) :
    Request → Turn Session Effect
  | .describe uri => session.onDescribe env registry sent uri
  | .setup uri text transports random => session.onSetup env registry sent uri text transports random
  | .play uri text => session.onPlay env registry sent uri text
  | .teardown text => session.onTeardown text
  | .announce _ => .fail session
  | .record => .fail session
  | .getParameter _ => session.reply sent (.getParameter 200)
  | .interleaved channel empty accepted => ⟨session,[],session.onInterleaved channel empty accepted⟩

def Session.turn (env : Environment) (session : Session) (call : Registry × Bool × Request) :
    Session × List Effect :=
  let turn := session.handle env call.1 call.2.1 call.2.2
  (turn.state,turn.effects)

structure Left (s : Session) (t : Turn Session Effect) : Prop where
  assigned : Assigned t.state.channels
  kept : ∀ item ∈ s.channels, item.2.up = true → item ∈ t.state.channels
  same : (∀ id text, .setup 200 id text ∉ t.effects) → t.state.channels = s.channels

theorem leftSame {s : Session} (now : Assigned s.channels) {t : Turn Session Effect}
    (same : t.state.channels = s.channels) : Left s t := by
  refine ⟨by rwa [same],fun item member _ => ?_,fun _ => same⟩
  rwa [same]

theorem currentLeft {s : Session} (now : Assigned s.channels) (registry : Registry)
    {gone current : Turn Session Effect} (lost : Left s gone) (found : Left s current) :
    Left s (s.whenCurrent registry gone current) := by
  unfold Session.whenCurrent
  split
  · exact leftSame now rfl
  · rename_i stream _
    have either : Left s (if (registry.get stream.streamId).isSome then current else gone) := by
      split
      · exact found
      · exact lost
    refine ⟨either.assigned,either.kept,fun never => either.same fun id text here => ?_⟩
    exact never id text (List.mem_cons_of_mem _ here)

theorem setChannelsAssign (s : Session) (id : Nat) (t : Transport) :
    {s with tracks := s.setChannels id t}.channels =
      assign s.channels id ⟨t.interleaved1,t.interleaved2⟩ := by
  simp only [Session.channels,Session.setChannels,assign,List.map_map]
  apply List.map_congr_left
  rintro ⟨other,track⟩ _
  by_cases same : other = id <;> simp [same]

theorem setUpLeft {s : Session} (now : Assigned s.channels) {id : Nat} {track : Track}
    (member : (id,track) ∈ s.tracks) {t : Transport} (fits : s.usable id t = true)
    (sent : Bool) (text : Text) (random : Nat) : Left s (s.setUp sent id track text random t) := by
  unfold Session.setUp
  split
  · split
    · exact leftSame now rfl
    · exact leftSame now rfl
  · rename_i low
    split
    · exact leftSame now rfl
    · simp only [Session.usable,Session.channelsAvailable,Bool.and_eq_true,decide_eq_true_eq,
        List.all_eq_true,Bool.or_eq_true,Bool.not_eq_true'] at fits
      obtain ⟨⟨⟨⟨low1,high1⟩,low2⟩,high2⟩,distinct,free⟩ := fits
      have here : (id,(⟨track.rtpChannel,track.rtcpChannel⟩ : Channels)) ∈ s.channels :=
        List.mem_map.mpr ⟨(id,track),member,rfl⟩
      have next : Assigned (assign s.channels id ⟨t.interleaved1,t.interleaved2⟩) := by
        refine assigned now ⟨⟨low1,high1⟩,⟨low2,high2⟩,distinct⟩ ?_
        intro item inside other up
        obtain ⟨⟨key,held⟩,old,rfl⟩ := List.mem_map.mp inside
        rcases free (key,held) old with (same | down) | apart
        · exact absurd same other
        · rw [show held.up = true from up] at down
          cases down
        · exact ⟨apart.1.1.1,apart.1.1.2,apart.1.2,apart.2⟩
      dsimp only [Session.reply]
      refine ⟨?_,?_,fun never => absurd (List.mem_singleton.mpr rfl) (never _ _)⟩
      · change Assigned {s with tracks := s.setChannels id t}.channels
        rwa [setChannelsAssign]
      · intro item inside up
        change item ∈ {s with tracks := s.setChannels id t}.channels
        rw [setChannelsAssign]
        refine assignKeeps inside fun same => ?_
        have unique := List.inj_on_of_nodup_map now.keys here inside same.symm
        subst unique
        exact low up

theorem setupLeft {s : Session} (now : Assigned s.channels) (env : Environment)
    (registry : Registry) (sent : Bool) (uri text : Text) (transports : List Transport)
    (random : Nat) : Left s (s.onSetup env registry sent uri text transports random) := by
  unfold Session.onSetup
  split
  · exact leftSame now rfl
  split
  · exact leftSame now rfl
  dsimp only
  split
  · exact leftSame now rfl
  · rename_i id track found
    refine currentLeft now registry (leftSame now rfl) ?_
    split
    · exact leftSame now rfl
    · split
      · exact leftSame now rfl
      · rename_i t chosen
        exact setUpLeft now (List.mem_of_find?_eq_some found)
          (Option.filter_eq_some_iff.mp chosen).2 sent text random

theorem playLeft {s : Session} (now : Assigned s.channels) (env : Environment)
    (registry : Registry) (sent : Bool) (uri text : Text) :
    Left s (s.onPlay env registry sent uri text) := by
  unfold Session.onPlay
  dsimp only
  split
  · exact leftSame now rfl
  split
  · exact leftSame now rfl
  split
  · exact leftSame now rfl
  · refine currentLeft now registry (leftSame now rfl) ?_
    split
    · exact leftSame now rfl
    · exact leftSame now rfl

theorem handleLeft {s : Session} (now : Assigned s.channels) (env : Environment)
    (registry : Registry) (sent : Bool) (request : Request) :
    Left s (s.handle env registry sent request) := by
  cases request with
  | describe uri =>
    dsimp only [Session.handle]
    unfold Session.onDescribe
    split
    · exact leftSame now rfl
    split
    · exact leftSame now rfl
    · refine currentLeft now registry (leftSame now rfl) ?_
      split
      · exact leftSame now rfl
      · exact leftSame now rfl
  | setup uri text transports random => exact setupLeft now env registry sent uri text transports random
  | play uri text => exact playLeft now env registry sent uri text
  | teardown text =>
    dsimp only [Session.handle]
    unfold Session.onTeardown
    split
    · exact leftSame now rfl
    · exact leftSame now rfl
  | announce accepted => exact leftSame now rfl
  | record => exact leftSame now rfl
  | getParameter bare => exact leftSame now rfl
  | interleaved channel empty accepted => exact leftSame now rfl

structure Session.Fresh (s : Session) : Prop where
  keys : (s.tracks.map Prod.fst).Nodup
  down : ∀ item ∈ s.channels, item.2 = {}

theorem freshAssigned {s : Session} (fresh : s.Fresh) : Assigned s.channels := by
  have never : ∀ item ∈ s.channels, item.2.up ≠ true := by
    intro item member
    rw [fresh.down item member]
    decide
  refine ⟨?_,fun item member _ => fresh.down item member,fun item member high =>
    absurd high (never item member),fun a left _ _ _ high _ => absurd high (never a left)⟩
  have keys := fresh.keys
  rwa [Session.channels,List.map_map]

end MediaServer.RtspPlay

namespace MediaServer.RtspTransport
open Handler Controller Interleaving

/- What a request makes of the channels: they stay distinct and every channel has one track at most,
a track keeps those it has, and without a SETUP answered by 200 nothing changes. -/
structure Routed (old new : List (Nat × Channels)) (answered : Prop) : Prop where
  assigned : Assigned new
  once : ∀ channel : UInt8, (new.filter (Carries channel.toNat)).length ≤ 1
  kept : ∀ item ∈ old, item.2.up = true → item ∈ new
  same : ¬answered → new = old

theorem rtspSetup (env : RtspPlay.Environment) (player : RtspPlay.Session) (fresh : player.Fresh)
    (requests : List (RtspPlay.Registry × Bool × RtspPlay.Request))
    (sessionId : Text) (descriptions : List RtspPublish.Description)
    (publishing : List (RtspPublish.Answers × RtspPublish.Request)) :
    (∀ r ∈ rounds (RtspPlay.Session.turn env) player requests,
      Assigned r.state.channels ∧ Routed r.state.channels r.next.channels
        (∃ id text, .setup 200 id text ∈ r.effects)) ∧
    ∀ before c after, calls RtspPublish.Session.handle {sessionId, descriptions} publishing =
        before ++ c :: after →
      Assigned c.state.channels ∧ Routed c.state.channels c.turn.state.channels
          (∃ id text, .setup 200 id text ∈ c.turn.effects) ∧
        c.turn.state.fault = false ∧
        (c.turn.state.tcpMedia = none ∧ c.turn.state.tcpTrackStates = [] ∨
          c.turn.state.udpSession = none) ∧
        (RtspPublish.Recorded c → c.state.Complete ∧ ∀ d ∈ before, ¬RtspPublish.Recorded d) := by
  constructor
  · intro r member
    obtain ⟨now,same⟩ := roundsInvariant (P := fun s : RtspPlay.Session => Assigned s.channels)
      (RtspPlay.freshAssigned fresh)
      (fun s call now => (RtspPlay.handleLeft now env call.1 call.2.1 call.2.2).assigned) r member
    have left := RtspPlay.handleLeft now env r.event.1 r.event.2.1 r.event.2.2
    have state : (r.state.handle env r.event.1 r.event.2.1 r.event.2.2).state = r.next :=
      congrArg Prod.fst same
    have effects : (r.state.handle env r.event.1 r.event.2.1 r.event.2.2).effects = r.effects :=
      congrArg Prod.snd same
    obtain ⟨next,kept,unchanged⟩ := left
    rw [state] at next kept unchanged
    rw [effects] at unchanged
    refine ⟨now,next,fun channel => carriedOnce next (Int.natCast_nonneg _),kept,fun never => ?_⟩
    exact unchanged fun id text here => never ⟨id,text,here⟩
  · intro before c after cut
    obtain ⟨ready,left,once⟩ := RtspPublish.callReady cut
    refine ⟨ready.assigned,⟨left.safe.assigned,fun channel =>
      carriedOnce left.safe.assigned (Int.natCast_nonneg _),left.kept,fun never => ?_⟩,
      left.safe.sound,left.safe.alone.imp_left fun none_ => ⟨none_,left.safe.bare none_⟩,
      fun recorded => ⟨(left.recorded recorded).2.2,once recorded⟩⟩
    exact left.same fun id text here => never ⟨id,text,here⟩

def sampleStream : RtspPlay.Stream := ⟨1,['s'],[avcTrack,⟨2,.audio,.g711a,8000,1,[]⟩]⟩

def sampleEnvironment : RtspPlay.Environment where
  parse uri := some ⟨"rtsp:".toList,false,false,uri.drop 8⟩
  presentation _ := none
  publish _ := false
  v4 := true
  localAddress := []

def samplePlayer : RtspPlay.Session where
  path := ['s']
  stream := some sampleStream
  tracks := [(1,⟨.video,some RtspPlay.avcInfo,-1,-1⟩),
    (2,⟨.audio,some "m=audio 0 RTP/AVP 8\n".toList,-1,-1⟩)]
  waiting := none
  muxer := true
  handlers := true
  sessionId := []
  playing := false

def sampleRequests : List (RtspPlay.Registry × Bool × RtspPlay.Request) :=
  let registry : RtspPlay.Registry := RtspPlay.Registry.add ∅ sampleStream
  [(registry,true,.setup "rtsp://h/s/trackID=1".toList [] [⟨.rtpTcp,false,.play,4,5⟩] 7),
    (registry,true,.setup "rtsp://h/s/trackID=2".toList ['7'] [⟨.rtpTcp,false,.play,5,6⟩] 8),
    (registry,true,.setup "rtsp://h/s/trackID=2".toList ['7'] [⟨.rtpTcp,false,.play,6,7⟩] 9),
    (registry,true,.setup "rtsp://h/s/trackID=1".toList ['7'] [⟨.rtpTcp,false,.play,8,9⟩] 10)]

def samplePublisher : RtspPublish.Session where
  sessionId := ['5']
  descriptions := [⟨"rtsp://h/p/1".toList,1⟩,⟨"rtsp://h/p/2".toList,2⟩]

def samplePublishing : List (RtspPublish.Answers × RtspPublish.Request) :=
  [.setup "rtsp://h/p/1".toList [] [⟨.rtpTcp,false,.record,0,1,0,0⟩],
    .setup "rtsp://h/p/2".toList ['5'] [⟨.rtpTcp,false,.record,1,2,0,0⟩],
    .setup "rtsp://h/p/2".toList ['5'] [⟨.rtpTcp,false,.record,2,3,0,0⟩],
    .record ['5']].map fun request => (⟨true,true,none,true,true,true⟩,request)

theorem sampleRouted : samplePlayer.Fresh ∧
    (rounds (RtspPlay.Session.turn sampleEnvironment) samplePlayer sampleRequests).map
      (·.next.channels) = [[(1,⟨4,5⟩),(2,⟨-1,-1⟩)],[(1,⟨4,5⟩),(2,⟨-1,-1⟩)],
        [(1,⟨4,5⟩),(2,⟨6,7⟩)],[(1,⟨4,5⟩),(2,⟨6,7⟩)]] ∧
    (∀ r ∈ rounds (RtspPlay.Session.turn sampleEnvironment) samplePlayer sampleRequests,
      Assigned r.state.channels ∧ Routed r.state.channels r.next.channels
        (∃ id text, .setup 200 id text ∈ r.effects)) ∧
    ∃ before c, calls RtspPublish.Session.handle samplePublisher samplePublishing = before ++ [c] ∧
      before.map (·.turn.state.channels) =
        [[(0,⟨0,1⟩),(1,⟨-1,-1⟩)],[(0,⟨0,1⟩),(1,⟨-1,-1⟩)],[(0,⟨0,1⟩),(1,⟨2,3⟩)]] ∧
      RtspPublish.Recorded c ∧ c.state.Complete ∧ ∀ d ∈ before, ¬RtspPublish.Recorded d := by
  have fresh : samplePlayer.Fresh := ⟨by decide,by decide⟩
  obtain ⟨routed,published⟩ := rtspSetup sampleEnvironment samplePlayer fresh sampleRequests
    samplePublisher.sessionId samplePublisher.descriptions samplePublishing
  obtain ⟨before,c,cut,channels,recorded⟩ : ∃ before c,
      calls RtspPublish.Session.handle samplePublisher samplePublishing = before ++ [c] ∧
      before.map (·.turn.state.channels) =
        [[(0,⟨0,1⟩),(1,⟨-1,-1⟩)],[(0,⟨0,1⟩),(1,⟨-1,-1⟩)],[(0,⟨0,1⟩),(1,⟨2,3⟩)]] ∧
      RtspPublish.Recorded c :=
    ⟨[_,_,_],_,rfl,rfl,List.mem_singleton.mpr rfl⟩
  obtain ⟨_,_,_,_,complete⟩ := published before c [] cut
  exact ⟨fresh,by decide +kernel,routed,before,c,cut,channels,recorded,complete recorded⟩

end MediaServer.RtspTransport
