import MediaServer.GbPlayback

/-! What a consumer of a playback gets: the payloads of the longest valid run of frames, and a
last chunk only for a recording that is whole. -/
namespace MediaServer.GbPlayback
open Bytes Framing

structure Valid (session : Session) (datagram : Bytes) (packet : RtpPacket) : Prop where
  parsed : session.deserialize datagram = some packet
  filled : 0 < packet.payloadLength
  payloadType : packet.payloadType = session.payloadType
  ssrc : packet.ssrc = session.ssrc

/- The packets of the longest prefix of frames that are valid and follow one another. -/
structure LongestPrefix (session : Session) (frames : List Bytes) (packets : List RtpPacket) :
    Prop where
  valid : List.Forall₂ (Valid session) (frames.take packets.length) packets
  ordered : packets.IsChain fun a b => b.sequence = a.sequence + 1
  longest : ∀ datagram, frames[packets.length]? = some datagram → ∀ packet,
    Valid session datagram packet → ∃ last ∈ packets.getLast?, packet.sequence ≠ last.sequence + 1

variable {session : Session} {data head rest body : Bytes}

theorem checkIff {next : Option UInt16} {datagram : Bytes} {packet : RtpPacket} :
    session.check next datagram = some packet ↔
      Valid session datagram packet ∧ ∀ expected ∈ next, packet.sequence = expected := by
  unfold Session.check
  constructor
  · intro checked
    split at checked
    · contradiction
    · rename_i found parsed
      obtain ⟨passes,same⟩ := Option.ite_none_left_eq_some.mp checked
      cases Option.some.inj same
      simp only [Bool.or_eq_true,decide_eq_true_eq,not_or,Int.not_le,not_not] at passes
      obtain ⟨⟨⟨filled,payloadType⟩,ssrc⟩,sequence⟩ := passes
      refine ⟨⟨parsed,filled,payloadType,ssrc⟩,?_⟩
      intro expected isNext
      rw [isNext] at sequence
      simpa using sequence
  · rintro ⟨⟨parsed,filled,payloadType,ssrc⟩,sequence⟩
    rw [parsed]
    refine if_neg ?_
    simp only [Bool.or_eq_true,decide_eq_true_eq,not_or,Int.not_le,not_not]
    refine ⟨⟨⟨filled,payloadType⟩,ssrc⟩,?_⟩
    cases next with
    | none => simp
    | some expected => simp [sequence expected rfl]

inductive Accepts (session : Session) : Option UInt16 → List Bytes → List RtpPacket → Prop where
  | done {next} : Accepts session next [] []
  | stop {next datagram rest} (refused : session.check next datagram = none) :
      Accepts session next (datagram :: rest) []
  | more {next datagram rest packet packets} (checked : session.check next datagram = some packet)
      (later : Accepts session (some (packet.sequence + 1)) rest packets) :
      Accepts session next (datagram :: rest) (packet :: packets)

theorem readTwoNone (short : readExactly 2 data = none) : first data = none := by
  unfold readExactly at short
  unfold first
  split at short
  · rename_i less
    rw [if_pos less]
  · contradiction

theorem readLength (read : readExactly 2 data = some (head,rest)) :
    2 ≤ data.length ∧ readU16 head = readU16 data ∧ rest = data.drop 2 := by
  obtain ⟨enough,read⟩ := Option.ite_none_left_eq_some.mp read
  cases Option.some.inj read
  refine ⟨by omega,?_,rfl⟩
  apply readU16Congr <;> simp

theorem readFirst {more : Bytes} (read : readExactly 2 data = some (head,rest))
    (datagram : readExactly (readU16 head).toNat rest = some (body,more)) :
    first data = some (body,more) := by
  obtain ⟨two,size,tail⟩ := readLength read
  obtain ⟨enough,same⟩ := Option.ite_none_left_eq_some.mp datagram
  cases Option.some.inj same
  rw [tail,size] at enough ⊢
  rw [List.length_drop] at enough
  unfold first
  rw [if_neg (by omega),if_neg (by omega),List.drop_drop,Nat.add_comm]

theorem readFirstNone (read : readExactly 2 data = some (head,rest))
    (cut : readExactly (readU16 head).toNat rest = none) : first data = none ∧ data ≠ [] := by
  obtain ⟨two,size,tail⟩ := readLength read
  unfold readExactly at cut
  split at cut
  · rename_i less
    rw [tail,size,List.length_drop] at less
    unfold first
    refine ⟨?_,by intro empty; rw [empty] at two; contradiction⟩
    rw [if_neg (by omega),if_pos (by omega)]
  · contradiction

theorem readZero (data : Bytes) : readExactly 0 data = some ([],data) := by
  simp [readExactly]

theorem readFilled {size : Nat} (filled : size ≠ 0)
    (read : readExactly size data = some (body,rest)) : body ≠ [] := by
  obtain ⟨enough,read⟩ := Option.ite_none_left_eq_some.mp read
  cases Option.some.inj read
  intro empty
  have length := congrArg List.length empty
  rw [List.length_take,List.length_nil] at length
  omega

structure Plays (session : Session) (ends : StreamEnd) (next : Option UInt16) (data : Bytes)
    (written : Written) (packets : List RtpPacket) : Prop where
  accepts : Accepts session next (packetsOf data) packets
  bodies : written.bodies = packets.map RtpPacket.body
  last : written.last = true ↔ ends = .eof ∧ (split data).2 = [] ∧
    packets.length = (packetsOf data).length ∧ (next.isSome = true ∨ packets ≠ [])

theorem runPlays (session : Session) (ends : StreamEnd) (next : Option UInt16) (data : Bytes) :
    ∃ packets, Plays session ends next data (run session ends next data) packets := by
  fun_induction run session ends next data with
  | case1 next data short =>
    have none_ := readTwoNone short
    refine ⟨[],?_,rfl,?_⟩
    · rw [packetsNone none_]
      exact .done
    · rw [packetsNone none_,splitNone none_]
      simp [and_assoc]
  | case2 next data head rest length shorter size zero ih =>
    obtain ⟨packets,plays⟩ := ih
    have none_ : (readU16 head).toNat = 0 := zero
    have found : first data = some ([],rest) :=
      readFirst length (by rw [none_]; exact readZero rest)
    refine ⟨packets,?_,plays.bodies,?_⟩
    · rw [packetsEmpty found]
      exact plays.accepts
    · rw [packetsEmpty found,splitSome found]
      exact plays.last
  | case3 next data head rest length shorter size filled cut =>
    obtain ⟨none_,some_⟩ := readFirstNone length cut
    refine ⟨[],?_,rfl,?_⟩
    · rw [packetsNone none_]
      exact .done
    · rw [packetsNone none_,splitNone none_]
      simp [some_]
  | case4 next data head rest length shorter size filled datagram more body less refused =>
    have frames := packetsCons (readFirst length body) (readFilled filled body)
    refine ⟨[],?_,rfl,?_⟩
    · rw [frames]
      exact .stop refused
    · rw [frames]
      simp
  | case5 next data head rest length shorter size filled datagram more body less packet checked
      written ih =>
    obtain ⟨packets,plays⟩ := ih
    have found := readFirst length body
    have frames := packetsCons found (readFilled filled body)
    refine ⟨packet :: packets,?_,?_,?_⟩
    · rw [frames]
      exact .more checked plays.accepts
    · rw [List.map_cons,← plays.bodies]
    · rw [frames,splitSome found]
      simpa using plays.last

theorem Accepts.longest {next : Option UInt16} {frames : List Bytes} {packets : List RtpPacket}
    (accepts : Accepts session next frames packets) :
    List.Forall₂ (Valid session) (frames.take packets.length) packets ∧
      packets.IsChain (fun a b => b.sequence = a.sequence + 1) ∧
      (∀ expected ∈ next, ∀ packet ∈ packets.head?, packet.sequence = expected) ∧
      ∀ datagram, frames[packets.length]? = some datagram → ∀ packet,
        Valid session datagram packet →
          ∃ expected ∈ (packets.getLast?.map (·.sequence + 1)).or next,
            packet.sequence ≠ expected := by
  induction accepts with
  | done => exact ⟨.nil,.nil,by simp,by simp⟩
  | @stop next datagram rest refused =>
    refine ⟨.nil,.nil,by simp,?_⟩
    intro own same packet valid
    cases Option.some.inj same
    by_contra fits
    have checked : session.check next datagram = some packet := by
      refine checkIff.mpr ⟨valid,?_⟩
      intro expected isNext
      by_contra differs
      exact fits ⟨expected,isNext,differs⟩
    rw [refused] at checked
    contradiction
  | @more next datagram rest packet packets checked later ih =>
    obtain ⟨valid,ordered,first,longest⟩ := ih
    obtain ⟨own,sequence⟩ := checkIff.mp checked
    refine ⟨.cons own valid,?_,?_,?_⟩
    · cases packets with
      | nil => exact .singleton _
      | cons second packets => exact .cons_cons (first _ rfl second rfl) ordered
    · intro expected isNext head same
      cases Option.some.inj same
      exact sequence expected isNext
    · intro datagram found other valid
      obtain ⟨expected,member,differs⟩ := longest datagram (by simpa using found) other valid
      refine ⟨expected,?_,differs⟩
      cases packets with
      | nil => exact member
      | cons second packets =>
        rw [List.getLast?_cons_cons]
        obtain ⟨last,isLast⟩ := Option.isSome_iff_exists.mp
          (List.getLast?_isSome.mpr (List.cons_ne_nil second packets))
        rw [isLast] at member ⊢
        exact member

theorem playbackStream (session : Session) (ends : StreamEnd) (data : Bytes) :
    ∃ packets, LongestPrefix session ((split data).1.filter fun body => !body.isEmpty) packets ∧
      (run session ends none data).bodies = packets.map RtpPacket.body ∧
      ((run session ends none data).last = true ↔ ends = .eof ∧ (split data).2 = [] ∧
        packets.length = ((split data).1.filter fun body => !body.isEmpty).length ∧
        packets ≠ []) := by
  obtain ⟨packets,plays⟩ := runPlays session ends none data
  obtain ⟨valid,ordered,_,longest⟩ := plays.accepts.longest
  refine ⟨packets,⟨valid,ordered,?_⟩,plays.bodies,by simpa [packetsOf] using plays.last⟩
  intro datagram found packet own
  obtain ⟨expected,member,differs⟩ := longest datagram found packet own
  rw [Option.or_none] at member
  obtain ⟨last,isLast,same⟩ := Option.map_eq_some_iff.mp member
  exact ⟨last,isLast,by rw [same]; exact differs⟩

def rtpOf (datagram : Bytes) : Option RtpPacket :=
  match datagram with
  | sequence :: payload => some ⟨96,7,sequence.toUInt16,payload.length,payload⟩
  | [] => none

example :
    run ⟨rtpOf,96,7⟩ .eof none [0,2,1,10,0,0,0,3,2,20,21] = ⟨[[10],[20,21]],true⟩ ∧
      run ⟨rtpOf,96,7⟩ .eof none [0,2,1,10,0,3,2,20] = ⟨[[10]],false⟩ ∧
      run ⟨rtpOf,96,7⟩ .eof none [0,2,1,10,0,2,3,20] = ⟨[[10]],false⟩ := by decide +kernel

end MediaServer.GbPlayback
