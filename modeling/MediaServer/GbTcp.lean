import MediaServer.Framing
import MediaServer.Transition

/-! RTP over TCP: send_packet of media/gb28181/gb28181_tcp_sender_session.cpp with the task it
posts, and run_read of media/gb28181/gb28181_tcp_receiver_session.cpp. The bytes the sender has
written are those its socket sends; whether receive_rtp answers fatal may depend on all the
packets it has got. -/
namespace MediaServer.GbTcp
open Bytes Framing Transition

structure Sender where
  output : Bytes
  posted : Nat
  written : Bytes
  deriving DecidableEq, Repr

def Sender.start : Sender := ⟨[],0,[]⟩

inductive SenderAction where
  | sendPacket (packet : Bytes)
  | flush
  deriving DecidableEq, Repr

def senderStep (s : Sender) : SenderAction → Option Sender
  | .sendPacket packet =>
    let posted := if s.output.isEmpty then s.posted + 1 else s.posted
    let length := UInt16.ofNat packet.length
    some {s with posted := posted, output := s.output ++ u16 length ++ packet}
  | .flush =>
    if s.posted = 0 then none
    else some ⟨[],s.posted - 1,s.written ++ s.output⟩

structure Receiver where
  inputBuffer : Bytes
  received : List Bytes
  shutdown : Bool
  deriving DecidableEq, Repr

def Receiver.start : Receiver := ⟨[],[],false⟩

/- The inner loop of run_read: the offset it ends with, the packets received and whether the last
one was fatal. -/
def drain (fatal : List Bytes → Bool) (input : Bytes) (offset : Nat) (received : List Bytes) :
    Nat × List Bytes × Bool :=
  if 2 ≤ input.length - offset then
    let packetBytes := (readU16 (input.drop offset)).toNat
    if input.length - offset < packetBytes + 2 then (offset,received,false)
    else if packetBytes ≠ 0 then
      let packet := (input.drop (offset + 2)).take packetBytes
      if fatal (received ++ [packet]) then (offset + 2,received ++ [packet],true)
      else drain fatal input (offset + 2 + packetBytes) (received ++ [packet])
    else drain fatal input (offset + 2 + packetBytes) received
  else (offset,received,false)
termination_by input.length - offset

def onRead (fatal : List Bytes → Bool) (s : Receiver) (data : Bytes) : Receiver :=
  if s.shutdown then s
  else
    let input := s.inputBuffer ++ data
    match drain fatal input 0 s.received with
    | (_,received,true) => ⟨input,received,true⟩
    | (offset,received,false) =>
      ⟨if offset = input.length then [] else if offset ≠ 0 then input.drop offset else input,
        received,false⟩

def runRead (fatal : List Bytes → Bool) (reads : List Bytes) : Receiver :=
  reads.foldl (onRead fatal) .start

end MediaServer.GbTcp
