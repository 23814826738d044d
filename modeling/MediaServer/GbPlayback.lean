import MediaServer.Framing

/-! The read loop of run in media/gb28181/gb28181_playback_session.cpp, from the accepted device
connection on. rtp_packet_deserialize is a parameter, the device is the bytes it sends and the
way its stream ends, and the consumer is the chunks written to it. -/
namespace MediaServer.GbPlayback
open Bytes Framing

structure RtpPacket where
  payloadType : UInt8
  ssrc : UInt32
  sequence : UInt16
  payloadLength : Int
  payload : Bytes
  deriving DecidableEq, Repr

structure Session where
  deserialize : Bytes → Option RtpPacket
  payloadType : UInt8
  ssrc : UInt32

inductive StreamEnd where
  | eof | failure
  deriving DecidableEq, Repr

structure Written where
  bodies : List Bytes
  last : Bool
  deriving DecidableEq, Repr

def readExactly (size : Nat) (data : Bytes) : Option (Bytes × Bytes) :=
  if data.length < size then none else some (data.take size,data.drop size)

def RtpPacket.body (packet : RtpPacket) : Bytes := packet.payload.take packet.payloadLength.toNat

def Session.check (session : Session) (next : Option UInt16) (datagram : Bytes) :
    Option RtpPacket :=
  match session.deserialize datagram with
  | none => none
  | some packet =>
    if packet.payloadLength ≤ 0 || packet.payloadType ≠ session.payloadType ||
        packet.ssrc ≠ session.ssrc || next.any (packet.sequence ≠ ·) then none
    else some packet

theorem readShorter {size : Nat} {data head rest : Bytes}
    (read : readExactly size data = some (head,rest)) : rest.length + size = data.length := by
  obtain ⟨enough,read⟩ := Option.ite_none_left_eq_some.mp read
  cases Option.some.inj read
  rw [List.length_drop]
  omega

def run (session : Session) (ends : StreamEnd) (next : Option UInt16) (data : Bytes) : Written :=
  match length : readExactly 2 data with
  | none => ⟨[],ends = .eof && data.length = 0 && next.isSome⟩
  | some (head,rest) =>
    have _ := readShorter length
    let size := (readU16 head).toNat
    if size = 0 then run session ends next rest
    else match body : readExactly size rest with
    | none => ⟨[],false⟩
    | some (datagram,rest) =>
      have _ := readShorter body
      match session.check next datagram with
      | none => ⟨[],false⟩
      | some packet =>
        let written := run session ends (some (packet.sequence + 1)) rest
        ⟨packet.body :: written.bodies,written.last⟩
termination_by data.length

end MediaServer.GbPlayback
