import Mathlib.Tactic.Ring
import MediaServer.Bytes
import MediaServer.Controller
import MediaServer.MediaTypes
import MediaServer.Rounding
import MediaServer.RtspReports
import MediaServer.SenderReports

/-! Sender reports of webrtc_packetizer: emit_rtcp replaces the NTP time of every report the muxer
makes by the media time of its RTP timestamp. The clock, what the muxer sends for a frame and what
it reports come with the frame. -/
namespace MediaServer.WhepReports
open Bytes Controller Rounding SenderReports
open RtspReports (nsToMilliseconds Milliseconds millisecondsRange)

structure Config where
  codec : CodecId
  payloadIndex : Nat
  midSize : Nat
  midShort : midSize ≤ 16
  midExtensionId : Nat
  clockRate : UInt32
  deriving DecidableEq

structure Track extends Config where
  lastRtpTimestamp : UInt32
  lastPtsMs : Int
  sent : Bool
  deriving DecidableEq

def Config.fresh (config : Config) : Track := ⟨config,0,0,false⟩

structure Packetizer where
  tracks : List (Nat × Track)
  framePtsMs : Int
  epochUs : Option Int
  deriving DecidableEq

def start (configs : List (Nat × Config)) : Packetizer :=
  ⟨configs.map fun entry => (entry.1,entry.2.fresh),0,none⟩

/- A packet of the muxer; one without a timestamp is not an RTP packet. -/
structure Packet where
  payloadIndex : Nat
  timestamp : Option UInt32
  deriving DecidableEq

structure Frame where
  track : Nat
  payloadSize : Nat
  ptsNs : Int64
  dtsNs : Int64
  nowNs : Int64
  packets : List Packet
  muxed : Bool
  rtcp : Option Bytes
  accepted : Bool
  deriving DecidableEq

inductive Effect where
  | undefined
  | rtcp (packet : Bytes)
  | failed
  deriving DecidableEq, Repr

def Track.mark (track : Track) (timestamp : UInt32) (ptsMs : Int) : Track :=
  {track with lastRtpTimestamp := timestamp, lastPtsMs := ptsMs, sent := true}

def markSent (payloadIndex : Nat) (timestamp : UInt32) (ptsMs : Int) :
    List (Nat × Track) → List (Nat × Track)
  | [] => []
  | (id,track) :: rest =>
    if track.payloadIndex = payloadIndex then (id,track.mark timestamp ptsMs) :: rest
    else (id,track) :: markSent payloadIndex timestamp ptsMs rest

def onPacket (s : Packetizer) (packet : Packet) : Packetizer :=
  match packet.timestamp with
  | none => s
  | some timestamp =>
    {s with tracks := markSent packet.payloadIndex timestamp s.framePtsMs s.tracks}

def nowUs (nowNs : Int64) : Int := nowNs.toInt.tdiv 1000

def beginFrame (s : Packetizer) (ptsMs : Int) (nowNs : Int64) : Option Packetizer :=
  match s.epochUs with
  | some _ => some {s with framePtsMs := ptsMs}
  | none => do
    let pts ← int64 (ptsMs * 1000)
    let epoch ← int64 (nowUs nowNs - pts)
    some {s with framePtsMs := ptsMs, epochUs := some epoch}

def elapsedTicks (track : Track) (rtpTimestamp : UInt32) : Int :=
  (rtpTimestamp - track.lastRtpTimestamp).toInt32.toInt

def mediaUs (epoch : Int) (track : Track) (rtpTimestamp : UInt32) : Option Int := do
  let pts ← int64 (track.lastPtsMs * 1000)
  let base ← int64 (epoch + pts)
  let scaled ← int64 (elapsedTicks track rtpTimestamp * 1000000)
  let elapsed ← int64 (scaled.tdiv track.clockRate.toNat)
  int64 (base + elapsed)

structure Ntp where
  seconds : UInt32
  fraction : UInt32
  deriving DecidableEq, Repr

def ntpUnixOffsetSeconds : Int := 2208988800

def ntpTime (mediaUs : Int) : Option Ntp := do
  let seconds ← int64 (mediaUs.tdiv 1000000 + ntpUnixOffsetSeconds)
  let shifted ← int64 (mediaUs.tmod 1000000 * 2 ^ 32)
  some ⟨.ofInt seconds,.ofInt (shifted.tdiv 1000000)⟩

def senderReport (buffer : Bytes) : Bool := 20 ≤ buffer.length && buffer.getD 1 0 = 200

def rewrites (track : Track) (buffer : Bytes) : Bool :=
  senderReport buffer && track.sent && track.clockRate ≠ 0

def writeNtp (buffer : Bytes) (time : Ntp) : Bytes :=
  buffer.take 8 ++ (u32 time.seconds ++ (u32 time.fraction ++ buffer.drop 16))

def rewrite (epoch : Option Int) (track : Track) (buffer : Bytes) : Option Bytes :=
  if rewrites track buffer then do
    let epoch ← epoch
    let media ← mediaUs epoch track (readU32 (buffer.drop 16))
    let time ← ntpTime media
    some (writeNtp buffer time)
  else some buffer

def rtcpBufferSize : Nat := 4096

def emitRtcp (s : Packetizer) (frame : Frame) : List Effect :=
  match s.tracks.lookup frame.track, frame.rtcp with
  | none, _ => [.undefined]
  | some _, none => [.failed]
  | some track, some buffer =>
    if buffer.length = 0 then []
    else if rtcpBufferSize < buffer.length then [.failed]
    else
      match rewrite s.epochUs track buffer with
      | none => [.undefined]
      | some packet => if frame.accepted then [.rtcp packet] else [.rtcp packet,.failed]

def maxPacketSize : Nat := 1200
def rtpFixedHeader : Nat := 12

def Config.payloadCapacity (config : Config) : Nat :=
  maxPacketSize - rtpFixedHeader -
    (4 + ((if config.midExtensionId > 14 then 2 else 1) + config.midSize + 3) / 4 * 4)

def refuses (config : Config) (frame : Frame) : Bool :=
  match config.codec with
  | .h264 | .h265 => false
  | _ => frame.ptsNs.toInt.tmod 1000000 ≠ 0 || frame.dtsNs.toInt.tmod 1000000 ≠ 0 ||
      config.payloadCapacity < frame.payloadSize

def input (s : Packetizer) (frame : Frame) : Packetizer × List Effect :=
  match beginFrame s (nsToMilliseconds frame.ptsNs) frame.nowNs with
  | none => (s,[.undefined])
  | some s =>
    let s := frame.packets.foldl onPacket s
    if !frame.muxed then (s,[.failed])
    else (s,emitRtcp s frame)

def onFrame (s : Packetizer) (frame : Frame) : Packetizer × List Effect :=
  match s.tracks.lookup frame.track with
  | none => (s,[])
  | some track => if refuses track.toConfig frame then (s,[.failed]) else input s frame

def begins (configs : List (Nat × Config)) (frame : Frame) : Bool :=
  (configs.lookup frame.track).any fun config => !refuses config frame

def epochOf (frame : Frame) : Int := nowUs frame.nowNs - nsToMilliseconds frame.ptsNs * 1000

def firstEpoch (configs : List (Nat × Config)) (frames : List Frame) : Option Int :=
  (frames.find? (begins configs)).map epochOf

def owner (configs : List (Nat × Config)) (packet : Packet) : Option Nat :=
  (configs.find? fun entry => entry.2.payloadIndex = packet.payloadIndex).map (·.1)

def sentBy (configs : List (Nat × Config)) (id : Nat) (ptsMs : Int) (packet : Packet) :
    Option (UInt32 × Int) :=
  if owner configs packet = some id then packet.timestamp.map fun timestamp => (timestamp,ptsMs)
  else none

def sentIn (configs : List (Nat × Config)) (id : Nat) (frame : Frame) : List (UInt32 × Int) :=
  if begins configs frame then
    frame.packets.filterMap (sentBy configs id (nsToMilliseconds frame.ptsNs))
  else []

def lastSent (configs : List (Nat × Config)) (frames : List Frame) (id : Nat) :
    Option (UInt32 × Int) :=
  (frames.flatMap (sentIn configs id)).getLast?

def Config.recorded (config : Config) : Option (UInt32 × Int) → Track
  | none => config.fresh
  | some (timestamp,ptsMs) => ⟨config,timestamp,ptsMs,true⟩

theorem nowRange (nowNs : Int64) :
    -9223372036854776 ≤ nowUs nowNs ∧ nowUs nowNs ≤ 9223372036854776 := by
  have low := Int64.le_toInt nowNs
  have high := Int64.toInt_lt nowNs
  obtain ⟨whole,least,most⟩ := tdivFacts (show (0 : Int) < 1000 by decide) nowNs.toInt
  unfold nowUs
  omega

def Microseconds (value : Int) : Prop := -18446744073709776 ≤ value ∧ value ≤ 18446744073709776

theorem epochRange (frame : Frame) : Microseconds (epochOf frame) := by
  have now := nowRange frame.nowNs
  have pts := millisecondsRange frame.ptsNs
  unfold Microseconds epochOf
  unfold Milliseconds at pts
  omega

def begun (s : Packetizer) (frame : Frame) : Packetizer :=
  {s with
    framePtsMs := nsToMilliseconds frame.ptsNs
    epochUs := some (s.epochUs.getD (epochOf frame))}

theorem beginExact (s : Packetizer) (frame : Frame) :
    beginFrame s (nsToMilliseconds frame.ptsNs) frame.nowNs = some (begun s frame) := by
  unfold beginFrame begun
  split
  · rename_i epoch here
    rw [here]
    rfl
  · rename_i here
    have now := nowRange frame.nowNs
    have pts := millisecondsRange frame.ptsNs
    unfold Milliseconds at pts
    have scaled := int64Fits (nsToMilliseconds frame.ptsNs * 1000) (by omega) (by omega)
    have epoch := int64Fits (nowUs frame.nowNs - nsToMilliseconds frame.ptsNs * 1000) (by omega)
      (by omega)
    simp only [scaled,epoch,bind,Option.bind]
    rw [here]
    rfl

def fixed (tracks : List (Nat × Track)) : List (Nat × Config) :=
  tracks.map fun entry => (entry.1,entry.2.toConfig)

theorem fixedLookup (tracks : List (Nat × Track)) (id : Nat) :
    (fixed tracks).lookup id = (tracks.lookup id).map (·.toConfig) := by
  induction tracks with
  | nil => rfl
  | cons entry rest ih =>
    obtain ⟨first,track⟩ := entry
    simp only [fixed,List.map_cons,List.lookup_cons]
    cases id == first with
    | true => rfl
    | false => exact ih

theorem markSentFixed (payloadIndex : Nat) (timestamp : UInt32) (ptsMs : Int)
    (tracks : List (Nat × Track)) :
    fixed (markSent payloadIndex timestamp ptsMs tracks) = fixed tracks := by
  induction tracks with
  | nil => rfl
  | cons entry rest ih =>
    unfold markSent
    split
    · rfl
    · simp only [fixed,List.map_cons,List.cons.injEq,true_and]
      exact ih

theorem fixedKeys (tracks : List (Nat × Track)) :
    (fixed tracks).map (·.1) = tracks.map (·.1) := by
  simp [fixed]

theorem ownerFixed (tracks : List (Nat × Track)) (packet : Packet) :
    owner (fixed tracks) packet =
      (tracks.find? fun entry => entry.2.payloadIndex = packet.payloadIndex).map (·.1) := by
  unfold owner fixed
  rw [List.find?_map,Option.map_map]
  rfl

theorem markSentLookup (payloadIndex : Nat) (timestamp : UInt32) (ptsMs : Int)
    {tracks : List (Nat × Track)} (keys : (tracks.map (·.1)).Nodup) (id : Nat) :
    (markSent payloadIndex timestamp ptsMs tracks).lookup id = (tracks.lookup id).map fun track =>
      if (tracks.find? fun entry => entry.2.payloadIndex = payloadIndex).map (·.1) = some id then
        track.mark timestamp ptsMs
      else track := by
  induction tracks with
  | nil => rfl
  | cons entry rest ih =>
    obtain ⟨key,track⟩ := entry
    obtain ⟨fresh,keys⟩ := List.nodup_cons.mp keys
    unfold markSent
    by_cases mine : track.payloadIndex = payloadIndex
    · rw [if_pos mine]
      by_cases here : id = key
      · subst here
        simp [mine]
      · have other : (id == key) = false := by simpa using here
        simp [List.lookup_cons,mine,other,Ne.symm here]
    · rw [if_neg mine]
      by_cases here : id = key
      · subst here
        have absent : (rest.find? fun entry => entry.2.payloadIndex = payloadIndex).map (·.1) ≠
            some id := by
          intro found
          obtain ⟨other,there,same⟩ := Option.map_eq_some_iff.mp found
          exact fresh (List.mem_map.mpr ⟨other,List.mem_of_find?_eq_some there,same⟩)
        simp [mine,absent]
      · have other : (id == key) = false := by simpa using here
        rw [List.lookup_cons,other,List.lookup_cons,other,List.find?_cons_of_neg (by simpa using mine)]
        exact ih keys

theorem packetsFixed (packets : List Packet) (s : Packetizer) :
    (packets.foldl onPacket s).epochUs = s.epochUs ∧
      fixed (packets.foldl onPacket s).tracks = fixed s.tracks := by
  induction packets generalizing s with
  | nil => exact ⟨rfl,rfl⟩
  | cons packet packets ih =>
    obtain ⟨epoch,same⟩ := ih (onPacket s packet)
    rw [List.foldl_cons,epoch,same]
    unfold onPacket
    split
    · exact ⟨rfl,rfl⟩
    · exact ⟨rfl,markSentFixed ..⟩

/- The tracks are what the packets so far, one after another, have left in them. -/
def Records (configs : List (Nat × Config)) (earlier : Nat → List (UInt32 × Int))
    (tracks : List (Nat × Track)) : Prop :=
  ∀ id, tracks.lookup id = (configs.lookup id).map fun config => config.recorded (earlier id).getLast?

theorem recordedMark (config : Config) (earlier : List (UInt32 × Int)) (timestamp : UInt32)
    (ptsMs : Int) : (config.recorded earlier.getLast?).mark timestamp ptsMs =
      config.recorded (earlier ++ [(timestamp,ptsMs)]).getLast? := by
  rw [List.getLast?_concat]
  cases earlier.getLast? <;> rfl

variable {configs : List (Nat × Config)} {past : List Frame} {frame : Frame} {rtpTimestamp : UInt32}
  {epoch media : Int}

theorem packetRecords (keys : (configs.map (·.1)).Nodup) {s : Packetizer}
    {earlier : Nat → List (UInt32 × Int)} (same : fixed s.tracks = configs)
    (records : Records configs earlier s.tracks) (packet : Packet) :
    Records configs
      (fun id => earlier id ++ (sentBy configs id s.framePtsMs packet).toList)
      (onPacket s packet).tracks := by
  intro id
  have look := records id
  unfold onPacket sentBy
  cases read : packet.timestamp with
  | none => simpa using look
  | some timestamp =>
    have distinct : (s.tracks.map (·.1)).Nodup := by rwa [← fixedKeys,same]
    dsimp only
    rw [markSentLookup _ _ _ distinct,look,← ownerFixed,same,Option.map_map]
    congr 1
    funext config
    dsimp only [Function.comp]
    split
    · exact recordedMark ..
    · simp

theorem packetsRecord (keys : (configs.map (·.1)).Nodup) (packets : List Packet) {s : Packetizer}
    {earlier : Nat → List (UInt32 × Int)} (same : fixed s.tracks = configs)
    (records : Records configs earlier s.tracks) :
    Records configs (fun id => earlier id ++ packets.filterMap (sentBy configs id s.framePtsMs))
      (packets.foldl onPacket s).tracks := by
  induction packets generalizing s earlier with
  | nil => simpa using records
  | cons packet packets ih =>
    have first := packetRecords keys same records packet
    have kept : fixed (onPacket s packet).tracks = configs :=
      (packetsFixed [packet] s).2.trans same
    have time : (onPacket s packet).framePtsMs = s.framePtsMs := by
      unfold onPacket
      split <;> rfl
    have rest := ih kept first
    rw [time] at rest
    intro id
    rw [List.foldl_cons,rest id]
    cases sent : sentBy configs id s.framePtsMs packet <;> simp [sent]

def taken (s : Packetizer) (frame : Frame) : Packetizer :=
  frame.packets.foldl onPacket (begun s frame)

inductive Move (configs : List (Nat × Config)) (s : Packetizer) (frame : Frame) :
    Packetizer → List Effect → Prop where
  | refused (out : begins configs frame = false) (effects : List Effect)
      (silent : effects = [] ∨ effects = [.failed]) : Move configs s frame s effects
  | taken (inside : begins configs frame = true) (effects : List Effect)
      (made : (frame.muxed = false ∧ effects = [.failed]) ∨
        (frame.muxed = true ∧ effects = emitRtcp (taken s frame) frame)) :
      Move configs s frame (taken s frame) effects

theorem frameMove (s : Packetizer) (frame : Frame) :
    Move (fixed s.tracks) s frame (onFrame s frame).1 (onFrame s frame).2 := by
  have look := fixedLookup s.tracks frame.track
  unfold onFrame
  split
  · rename_i absent
    rw [absent] at look
    exact .refused (by rw [begins,look]; rfl) _ (.inl rfl)
  · rename_i track found
    rw [found] at look
    have same : begins (fixed s.tracks) frame = !refuses track.toConfig frame := by
      rw [begins,look]
      rfl
    split
    · rename_i refused
      exact .refused (by rw [same,refused]; rfl) _ (.inr rfl)
    · rename_i accepted
      have inside : begins (fixed s.tracks) frame = true := by
        rw [same,Bool.not_eq_true _ |>.mp accepted]
        rfl
      unfold input
      rw [beginExact]
      dsimp only
      split
      · rename_i unmuxed
        exact .taken inside _ (.inl ⟨by simpa using unmuxed,rfl⟩)
      · rename_i muxed
        exact .taken inside _ (.inr ⟨by simpa using muxed,rfl⟩)

structure Good (configs : List (Nat × Config)) (past : List Frame) (s : Packetizer) : Prop where
  same : fixed s.tracks = configs
  epoch : s.epochUs = firstEpoch configs past
  records : ∀ id, s.tracks.lookup id =
    (configs.lookup id).map fun config => config.recorded (lastSent configs past id)

theorem firstEpochSnoc (configs : List (Nat × Config)) (past : List Frame) (frame : Frame) :
    firstEpoch configs (past ++ [frame]) =
      (firstEpoch configs past).or (if begins configs frame then some (epochOf frame) else none) := by
  unfold firstEpoch
  rw [List.find?_append,Option.map_or]
  congr 1
  rw [List.find?_singleton]
  split <;> rfl

variable {next : Packetizer} {effects : List Effect} {frames : List Frame} {track : Track}
  {buffer : Bytes}

theorem goodMove (keys : (configs.map (·.1)).Nodup) {s : Packetizer} (good : Good configs past s)
    (move : Move configs s frame next effects) : Good configs (past ++ [frame]) next := by
  cases move with
  | refused out effects silent =>
    refine ⟨good.same,?_,?_⟩
    · rw [firstEpochSnoc,out,good.epoch]
      simp
    · intro id
      rw [good.records id]
      simp [lastSent,sentIn,out]
  | taken inside effects made =>
    obtain ⟨epoch,same⟩ := packetsFixed frame.packets (begun s frame)
    refine ⟨same.trans good.same,?_,?_⟩
    · rw [firstEpochSnoc,inside,← good.epoch]
      refine epoch.trans ?_
      cases here : s.epochUs with
      | none => simp [begun,here]
      | some old => simp [begun,here]
    · intro id
      have now := @packetsRecord configs keys frame.packets (begun s frame)
        (fun id => past.flatMap (sentIn configs id)) good.same good.records id
      refine now.trans ?_
      simp [lastSent,sentIn,inside,begun]

theorem startGood (configs : List (Nat × Config)) : Good configs [] (start configs) where
  same := by
    simp only [fixed,start,List.map_map]
    exact List.map_id _
  epoch := rfl
  records := by
    intro id
    show (configs.map fun entry => (entry.1,entry.2.fresh)).lookup id =
      (configs.lookup id).map Config.fresh
    induction configs with
    | nil => rfl
    | cons entry rest ih =>
      obtain ⟨key,config⟩ := entry
      rw [List.map_cons,List.lookup_cons,List.lookup_cons]
      cases id == key with
      | true => rfl
      | false => exact ih

theorem lastSentRange {id : Nat} {timestamp : UInt32} {ptsMs : Int}
    (last : lastSent configs frames id = some (timestamp,ptsMs)) : Milliseconds ptsMs := by
  have member := List.mem_of_getLast? last
  obtain ⟨frame,-,inside⟩ := List.mem_flatMap.mp member
  unfold sentIn at inside
  split at inside
  · obtain ⟨packet,-,sent⟩ := List.mem_filterMap.mp inside
    unfold sentBy at sent
    split at sent
    · obtain ⟨_,-,same⟩ := Option.map_eq_some_iff.mp sent
      cases same
      exact millisecondsRange frame.ptsNs
    · cases sent
  · cases inside

theorem ticksRange (track : Track) (rtpTimestamp : UInt32) :
    -2 ^ 31 ≤ elapsedTicks track rtpTimestamp ∧ elapsedTicks track rtpTimestamp < 2 ^ 31 :=
  ⟨Int32.le_toInt _,Int32.toInt_lt _⟩

theorem ticksExact {ticks : Int} (low : -2 ^ 31 ≤ ticks) (high : ticks < 2 ^ 31)
    (step : rtpTimestamp = track.lastRtpTimestamp + UInt32.ofInt ticks) :
    elapsedTicks track rtpTimestamp = ticks := by
  have word := wordAdd track.lastRtpTimestamp ticks
  rw [← step] at word
  unfold elapsedTicks
  have size := UInt32.toNat_sub rtpTimestamp track.lastRtpTimestamp
  have first := rtpTimestamp.toNat_lt
  have second := track.lastRtpTimestamp.toNat_lt
  rw [← Int32.toInt_toBitVec,UInt32.toBitVec_toInt32,BitVec.toInt_eq_toNat_cond,UInt32.toNat_toBitVec]
  split <;> omega

theorem mediaExact (start : Microseconds epoch) (pts : Milliseconds track.lastPtsMs)
    (rtpTimestamp : UInt32) :
    mediaUs epoch track rtpTimestamp = some (epoch + track.lastPtsMs * 1000 +
      (elapsedTicks track rtpTimestamp * 1000000).tdiv track.clockRate.toNat) := by
  obtain ⟨ticksLow,ticksHigh⟩ := ticksRange track rtpTimestamp
  unfold Microseconds at start
  unfold Milliseconds at pts
  have scaled := int64Fits (elapsedTicks track rtpTimestamp * 1000000) (by omega) (by omega)
  have quotient := tdivSmall (elapsedTicks track rtpTimestamp * 1000000) (2 ^ 31 * 1000000)
    track.clockRate.toNat (by omega) (by omega)
  have times := int64Fits (track.lastPtsMs * 1000) (by omega) (by omega)
  have base := int64Fits (epoch + track.lastPtsMs * 1000) (by omega) (by omega)
  have elapsed := int64Fits ((elapsedTicks track rtpTimestamp * 1000000).tdiv
    track.clockRate.toNat) (by omega) (by omega)
  have sum := int64Fits (epoch + track.lastPtsMs * 1000 +
    (elapsedTicks track rtpTimestamp * 1000000).tdiv track.clockRate.toNat) (by omega) (by omega)
  simp only [mediaUs,scaled,times,base,elapsed,sum,bind,Option.bind]

def Media (value : Int) : Prop := -2 ^ 62 < value ∧ value < 2 ^ 62

theorem mediaRange (start : Microseconds epoch) (pts : Milliseconds track.lastPtsMs)
    (made : mediaUs epoch track rtpTimestamp = some media) : Media media := by
  rw [mediaExact start pts] at made
  cases made
  obtain ⟨ticksLow,ticksHigh⟩ := ticksRange track rtpTimestamp
  have quotient := tdivSmall (elapsedTicks track rtpTimestamp * 1000000) (2 ^ 31 * 1000000)
    track.clockRate.toNat (by omega) (by omega)
  unfold Microseconds at start
  unfold Milliseconds at pts
  unfold Media
  omega

theorem ntpExact (range : Media media) : ntpTime media =
    some ⟨.ofInt (media.tdiv 1000000 + ntpUnixOffsetSeconds),
      .ofInt ((media.tmod 1000000 * 2 ^ 32).tdiv 1000000)⟩ := by
  obtain ⟨whole,low,high⟩ := tdivFacts (show (0 : Int) < 1000000 by decide) media
  unfold Media at range
  have seconds := int64Fits (media.tdiv 1000000 + ntpUnixOffsetSeconds)
    (by unfold ntpUnixOffsetSeconds; omega) (by unfold ntpUnixOffsetSeconds; omega)
  have shifted := int64Fits (media.tmod 1000000 * 2 ^ 32) (by omega) (by omega)
  simp only [ntpTime,seconds,shifted,bind,Option.bind]

def Ntp.unix (time : Ntp) : ℚ :=
  time.seconds.toNat + (time.fraction.toNat : ℚ) / 2 ^ 32 - ntpUnixOffsetSeconds

def eraEnd : Int := (2 ^ 32 - ntpUnixOffsetSeconds) * 1000000

theorem ntpNear (low : 0 ≤ media) (high : media < eraEnd) {time : Ntp}
    (made : ntpTime media = some time) :
    time.unix ≤ (media : ℚ) / 1000000 ∧ (media : ℚ) / 1000000 < time.unix + 1 / 2 ^ 32 := by
  have offset : ntpUnixOffsetSeconds = 2208988800 := rfl
  have bound : eraEnd = 2085978496000000 := by decide
  rw [ntpExact ⟨by omega,by omega⟩] at made
  cases made
  rw [Int.tdiv_eq_ediv_of_nonneg low,Int.tmod_eq_emod_of_nonneg low,
    Int.tdiv_eq_ediv_of_nonneg (by omega)]
  have whole := Int.emod_add_mul_ediv media 1000000
  have restLow := Int.emod_nonneg media (show (1000000 : Int) ≠ 0 by decide)
  have restHigh := Int.emod_lt_of_pos media (show (0 : Int) < 1000000 by decide)
  generalize media / 1000000 = q at whole ⊢
  generalize media % 1000000 = rest at whole restLow restHigh ⊢
  have seconds := wordValue (q + ntpUnixOffsetSeconds)
  have fraction := wordValue (rest * 2 ^ 32 / 1000000)
  rw [Int.emod_eq_of_lt (by omega) (by omega)] at seconds fraction
  obtain ⟨below,above⟩ := edivNear (show (0 : Int) < 1000000 by decide) (rest * 2 ^ 32)
  unfold Ntp.unix
  have cast : (media : ℚ) = rest + 1000000 * q := by exact_mod_cast whole.symm
  have secondsCast : ((UInt32.ofInt (q + ntpUnixOffsetSeconds)).toNat : ℚ) =
      q + ntpUnixOffsetSeconds := by exact_mod_cast seconds
  have fractionCast : ((UInt32.ofInt (rest * 2 ^ 32 / 1000000)).toNat : ℚ) =
      (rest * 2 ^ 32 / 1000000 : Int) := by exact_mod_cast fraction
  rw [cast,secondsCast,fractionCast]
  generalize (rest * 2 ^ 32 / 1000000 : Int) = f at below above ⊢
  push_cast at below above
  constructor <;> linarith

def sourceTime (epoch : Int) (track : Track) (ticks : Int) : ℚ :=
  (epoch : ℚ) / 1000000 + (track.lastPtsMs : ℚ) / 1000 + (ticks : ℚ) / track.clockRate.toNat

theorem mediaNear (rate : track.clockRate ≠ 0) (start : Microseconds epoch)
    (pts : Milliseconds track.lastPtsMs) (made : mediaUs epoch track rtpTimestamp = some media) :
    |sourceTime epoch track (elapsedTicks track rtpTimestamp) - (media : ℚ) / 1000000| <
      1 / 1000000 := by
  rw [mediaExact start pts] at made
  cases made
  have positive : 0 < (track.clockRate.toNat : Int) := by
    have nonzero : track.clockRate.toNat ≠ 0 := fun zero => rate (UInt32.toNat_inj.mp zero)
    omega
  have near := tdivNear positive (elapsedTicks track rtpTimestamp * 1000000)
  generalize (elapsedTicks track rtpTimestamp * 1000000).tdiv track.clockRate.toNat = part at near ⊢
  generalize elapsedTicks track rtpTimestamp = ticks at near ⊢
  unfold sourceTime
  rw [abs_lt] at near ⊢
  push_cast at near ⊢
  have scale : (ticks : ℚ) * 1000000 / (track.clockRate.toNat : ℚ) =
      1000000 * (ticks / track.clockRate.toNat) := by ring
  rw [scale] at near
  constructor <;> linarith

def ntpAt (packet : Bytes) : Ntp := ⟨readU32 (packet.drop 8),readU32 (packet.drop 12)⟩

theorem ntpWritten (time : Ntp) (long : 8 ≤ buffer.length) :
    ntpAt (writeNtp buffer time) = time := by
  have eight : (buffer.take 8).length = 8 := by simp [long]
  have first : (writeNtp buffer time).drop 8 =
      u32 time.seconds ++ (u32 time.fraction ++ buffer.drop 16) := List.drop_left' eight
  have second : (writeNtp buffer time).drop 12 = u32 time.fraction ++ buffer.drop 16 := by
    rw [show 12 = 8 + 4 from rfl,← List.drop_drop,first]
    exact List.drop_left' (u32Length _)
  rw [ntpAt,first,second,readU32Written,readU32Written]

/- A report whose RTP timestamp is some ticks from the last one sent: with a media time in the first
NTP era, its NTP time is the media time up to a microsecond and a unit of the fraction. -/
def Accurate (epoch : Int) (track : Track) (buffer packet : Bytes) : Prop :=
  ∃ media, mediaUs epoch track (readU32 (buffer.drop 16)) = some media ∧
    ∀ ticks : Int, -2 ^ 31 ≤ ticks → ticks < 2 ^ 31 →
      readU32 (buffer.drop 16) = track.lastRtpTimestamp + UInt32.ofInt ticks →
      0 ≤ media → media < eraEnd →
        |(ntpAt packet).unix - sourceTime epoch track ticks| < 1 / 1000000 + 1 / 2 ^ 32

/- The report that leaves for the muxer's report: the NTP time is written once the track has sent a
packet, and nothing else is touched. -/
def Rewritten (epoch : Int) (config : Config) (last : Option (UInt32 × Int)) (buffer packet : Bytes) :
    Prop :=
  packet.take 8 = buffer.take 8 ∧ packet.drop 16 = buffer.drop 16 ∧
    match last with
    | none => packet = buffer
    | some (timestamp,ptsMs) =>
      if senderReport buffer ∧ config.clockRate ≠ 0 then
        Accurate epoch ⟨config,timestamp,ptsMs,true⟩ buffer packet
      else packet = buffer

theorem writeNtpKept (time : Ntp) (long : 20 ≤ buffer.length) :
    (writeNtp buffer time).take 8 = buffer.take 8 ∧
      (writeNtp buffer time).drop 16 = buffer.drop 16 := by
  have eight : (buffer.take 8).length = 8 := by rw [List.length_take]; omega
  constructor
  · exact List.take_left' eight
  · rw [writeNtp,show 16 = 8 + (4 + 4) from rfl,← List.drop_drop,List.drop_left' eight,
      ← List.drop_drop,List.drop_left' (u32Length _),List.drop_left' (u32Length _)]

theorem timesWritten (buffer : Bytes) (rate : track.clockRate ≠ 0) (long : 20 ≤ buffer.length)
    (start : Microseconds epoch) (pts : Milliseconds track.lastPtsMs) :
    ∃ media time, mediaUs epoch track (readU32 (buffer.drop 16)) = some media ∧
      ntpTime media = some time ∧ Accurate epoch track buffer (writeNtp buffer time) := by
  obtain ⟨media,made⟩ : ∃ media, mediaUs epoch track (readU32 (buffer.drop 16)) = some media :=
    ⟨_,mediaExact start pts _⟩
  obtain ⟨time,written⟩ : ∃ time, ntpTime media = some time :=
    ⟨_,ntpExact (mediaRange start pts made)⟩
  refine ⟨media,time,made,written,media,made,?_⟩
  intro ticks least most step low high
  have near := mediaNear rate start pts made
  rw [ticksExact least most step] at near
  obtain ⟨below,above⟩ := ntpNear low high written
  rw [ntpWritten time (by omega)]
  rw [abs_lt] at near ⊢
  constructor <;> linarith

theorem rewriteExact (config : Config) {last : Option (UInt32 × Int)} (buffer : Bytes)
    (start : Microseconds epoch)
    (pts : ∀ timestamp ptsMs, last = some (timestamp,ptsMs) → Milliseconds ptsMs) :
    ∃ packet, rewrite (some epoch) (config.recorded last) buffer = some packet ∧
      Rewritten epoch config last buffer packet := by
  cases last with
  | none => exact ⟨buffer,by simp [rewrite,rewrites,Config.recorded,Config.fresh],rfl,rfl,rfl⟩
  | some sent =>
    obtain ⟨timestamp,ptsMs⟩ := sent
    by_cases report : senderReport buffer ∧ config.clockRate ≠ 0
    · have long : 20 ≤ buffer.length := by
        have first := report.1
        rw [senderReport,Bool.and_eq_true,decide_eq_true_eq] at first
        exact first.1
      obtain ⟨media,time,made,written,accurate⟩ := @timesWritten epoch
        ⟨config,timestamp,ptsMs,true⟩ buffer report.2 long start (pts _ _ rfl)
      obtain ⟨front,back⟩ := writeNtpKept time long
      refine ⟨writeNtp buffer time,?_,front,back,?_⟩
      · simp [rewrite,rewrites,Config.recorded,report.1,report.2,made,written]
      · dsimp only
        rw [if_pos report]
        exact accurate
    · refine ⟨buffer,?_,rfl,rfl,by simp [if_neg report]⟩
      have plain : rewrites ⟨config,timestamp,ptsMs,true⟩ buffer = false := by
        simpa [rewrites] using report
      simp [rewrite,Config.recorded,plain]

theorem firstEpochRange (first : firstEpoch configs frames = some epoch) : Microseconds epoch := by
  obtain ⟨frame,_,rfl⟩ := Option.map_eq_some_iff.mp first
  exact epochRange frame

/- What emit_rtcp sends in a good state, where the epoch is set. -/
theorem emitExact {s : Packetizer} {config : Config} (good : Good configs past s)
    (here : s.epochUs = some epoch) (known : configs.lookup frame.track = some config) :
    .undefined ∉ emitRtcp s frame ∧
      (∀ packet, .rtcp packet ∈ emitRtcp s frame → ∃ buffer, frame.rtcp = some buffer ∧
        Rewritten epoch config (lastSent configs past frame.track) buffer packet) ∧
      ∀ buffer, frame.rtcp = some buffer → buffer ≠ [] → buffer.length ≤ rtcpBufferSize →
        ∃ packet, .rtcp packet ∈ emitRtcp s frame := by
  have range : Microseconds epoch := firstEpochRange (good.epoch.symm.trans here)
  have found := good.records frame.track
  rw [known,Option.map_some] at found
  unfold emitRtcp
  rw [found,here]
  cases answer : frame.rtcp with
  | none => simp
  | some buffer =>
    dsimp only
    split
    · rename_i blank
      simp [List.length_eq_zero_iff.mp blank]
    split
    · rename_i long
      refine ⟨by simp,by simp,?_⟩
      rintro _ ⟨⟩ _ short
      omega
    obtain ⟨packet,made,exact_⟩ := @rewriteExact epoch config
      (lastSent configs past frame.track) buffer range fun _ _ last => lastSentRange last
    rw [made]
    dsimp only
    refine ⟨by split <;> simp,?_,fun _ _ _ _ => ⟨packet,by split <;> simp⟩⟩
    intro other member
    have same : other = packet := by
      split at member <;> simpa using member
    subst same
    exact ⟨buffer,rfl,exact_⟩

structure Emits (configs : List (Nat × Config)) (epoch : Option Int) (past : List Frame)
    (frame : Frame) (effects : List Effect) : Prop where
  defined : .undefined ∉ effects
  exact : ∀ packet, .rtcp packet ∈ effects → ∃ start config buffer, epoch = some start ∧
    configs.lookup frame.track = some config ∧ frame.rtcp = some buffer ∧
    Rewritten start config (lastSent configs past frame.track) buffer packet
  answers : begins configs frame = true → frame.muxed = true → ∀ buffer,
    frame.rtcp = some buffer → buffer ≠ [] → buffer.length ≤ rtcpBufferSize →
    ∃ packet, .rtcp packet ∈ effects

theorem effectsMove (keys : (configs.map (·.1)).Nodup) {s : Packetizer} (good : Good configs past s)
    (move : Move configs s frame next effects) :
    Emits configs next.epochUs (past ++ [frame]) frame effects := by
  have after := goodMove keys good move
  cases move with
  | refused out effects silent =>
    refine ⟨?_,?_,fun inside => absurd inside (by rw [out]; decide)⟩
    · rcases silent with rfl | rfl <;> simp
    · rcases silent with rfl | rfl <;> simp
  | taken inside effects made =>
    have here : (taken s frame).epochUs = some (s.epochUs.getD (epochOf frame)) :=
      (packetsFixed frame.packets (begun s frame)).1
    obtain ⟨config,known,_⟩ := (Option.any_eq_true ..).mp inside
    obtain ⟨defined,each,answers⟩ := emitExact after here known
    rcases made with ⟨unmuxed,rfl⟩ | ⟨-,rfl⟩
    · refine ⟨by simp,by simp,fun _ muxed => ?_⟩
      rw [unmuxed] at muxed
      cases muxed
    · refine ⟨defined,fun packet member => ?_,fun _ _ => answers⟩
      obtain ⟨buffer,answer,exact_⟩ := each packet member
      exact ⟨_,config,buffer,here,known,answer,exact_⟩

def Along (configs : List (Nat × Config)) (past : List (Round Packetizer Frame Effect))
    (s : Packetizer) : Prop := Good configs (past.map (·.event)) s

theorem alongStep (keys : (configs.map (·.1)).Nodup) (past : List (Round Packetizer Frame Effect))
    (s : Packetizer) (frame : Frame) (along : Along configs past s) :
    Along configs (past ++ [.of onFrame s frame]) (onFrame s frame).1 := by
  have move := frameMove s frame
  rw [along.same] at move
  unfold Along
  rw [List.map_append]
  exact goodMove keys along move

theorem firstEpochAppend (first : firstEpoch configs past = some epoch) (later : List Frame) :
    firstEpoch configs (past ++ later) = some epoch := by
  unfold firstEpoch at first ⊢
  rw [List.find?_append,Option.map_or,first]
  rfl

theorem whepReports (configs : List (Nat × Config)) (keys : (configs.map (·.1)).Nodup)
    (frames : List Frame) {before after : List (Round Packetizer Frame Effect)}
    {r : Round Packetizer Frame Effect}
    (cut : rounds onFrame (start configs) frames = before ++ r :: after) :
    (∀ id, r.next.tracks.lookup id = (configs.lookup id).map fun config =>
      config.recorded (lastSent configs ((before ++ [r]).map (·.event)) id)) ∧
    .undefined ∉ r.effects ∧
    (∀ packet, .rtcp packet ∈ r.effects → ∃ epoch config buffer,
      firstEpoch configs frames = some epoch ∧ configs.lookup r.event.track = some config ∧
        r.event.rtcp = some buffer ∧
        Rewritten epoch config (lastSent configs ((before ++ [r]).map (·.event)) r.event.track)
          buffer packet) ∧
    (begins configs r.event = true → r.event.muxed = true → ∀ buffer, r.event.rtcp = some buffer →
      buffer ≠ [] → buffer.length ≤ rtcpBufferSize → ∃ packet, .rtcp packet ∈ r.effects) := by
  have fresh : Along configs [] (start configs) := startGood configs
  obtain ⟨good,same⟩ := roundsHistory fresh (alongStep keys) cut
  have next := alongStep keys before r.state r.event good
  have move := frameMove r.state r.event
  rw [good.same] at move
  have emits := effectsMove keys good move
  have events : frames = (before ++ [r]).map (·.event) ++ after.map (·.event) := by
    rw [← roundsEvents onFrame (start configs) frames,cut]
    simp
  have now : (before ++ [r]).map (·.event) = before.map (·.event) ++ [r.event] := by simp
  rw [events,now]
  rw [same]
  unfold Along at next
  rw [List.map_append] at next
  refine ⟨next.records,emits.defined,fun packet member => ?_,emits.answers⟩
  obtain ⟨epoch,config,buffer,here,known,answer,exact_⟩ := emits.exact packet member
  exact ⟨epoch,config,buffer,firstEpochAppend (next.epoch.symm.trans here) _,known,answer,exact_⟩

def sampleOpus : Config := ⟨.opus,1,1,by decide,2,48000⟩
def sampleConfigs : List (Nat × Config) := [(1,⟨.h264,0,1,by decide,2,90000⟩),(2,sampleOpus)]

def sampleVideo : Frame :=
  ⟨1,900,1000000000,1000000000,1700000000000000000,[⟨0,some 90000⟩],true,some [],true⟩

def sampleReport : Bytes := [128,200,0,6] ++ List.replicate 12 0 ++ u32 24005 ++ List.replicate 8 0
def sampleAudio : Frame :=
  ⟨2,160,2000000000,2000000000,1700000007000000000,[⟨1,some 3⟩,⟨1,some 5⟩],true,some sampleReport,true⟩

theorem sampleAccurate :
    (rounds onFrame (start sampleConfigs) [sampleVideo,sampleAudio]).map (·.effects) =
      [[],[.rtcp (writeNtp sampleReport ⟨3908988801,2147483648⟩)]] ∧
    Accurate 1699999999000000 ⟨sampleOpus,5,2000,true⟩ sampleReport
      (writeNtp sampleReport ⟨3908988801,2147483648⟩) := by
  have cut : rounds onFrame (start sampleConfigs) [sampleVideo,sampleAudio] =
      [.of onFrame (start sampleConfigs) sampleVideo] ++
        .of onFrame (onFrame (start sampleConfigs) sampleVideo).1 sampleAudio :: [] := rfl
  refine ⟨by decide +kernel,?_⟩
  obtain ⟨epoch,config,buffer,first,known,answer,_,_,accurate⟩ :=
    (whepReports sampleConfigs (by decide) [sampleVideo,sampleAudio] cut).2.2.1
      (writeNtp sampleReport ⟨3908988801,2147483648⟩) (by decide +kernel)
  have start : firstEpoch sampleConfigs [sampleVideo,sampleAudio] = some 1699999999000000 := by
    decide +kernel
  have last : lastSent sampleConfigs [sampleVideo,sampleAudio] 2 = some (5,2000) := by
    decide +kernel
  cases start.symm.trans first
  cases known
  cases answer
  generalize sent : lastSent _ _ _ = found at accurate
  cases last.symm.trans sent
  exact accurate

end MediaServer.WhepReports
