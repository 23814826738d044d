import MediaServer.AudioTranscoder

/-! What the encoder gets, and when. All samples that are written form one stream; a packet is a whole
frame of it, and its pts comes from the first input and the number of packets before it alone. -/
namespace MediaServer.AudioTranscoder
open Controller

def written : Nat → List Nat → List Sample
  | _, [] => []
  | packet, count :: rest =>
    ((List.range count).map fun position => ⟨packet,position⟩) ++ written (packet + 1) rest

theorem writtenAppend (packet : Nat) (first second : List Nat) :
    written packet (first ++ second) =
      written packet first ++ written (packet + first.length) second := by
  induction first generalizing packet with
  | nil => rfl
  | cons count rest ih =>
    simp only [List.cons_append,written,ih,List.append_assoc,List.length_cons]
    rw [Nat.add_right_comm,Nat.add_assoc]

theorem writtenAt {packet n : Nat} {counts : List Nat} {sample : Sample}
    (found : (written packet counts)[n]? = some sample) :
    ∃ q, sample.packet = packet + q ∧ q < counts.length ∧
      n = (counts.take q).sum + sample.position ∧ n < (counts.take (q + 1)).sum := by
  induction counts generalizing packet n with
  | nil => simp [written] at found
  | cons count rest ih =>
    simp only [written] at found
    by_cases here : n < count
    · rw [List.getElem?_append_left (by simpa using here)] at found
      simp only [List.getElem?_map,List.getElem?_range here,Option.map_some,Option.some.injEq] at found
      subst found
      exact ⟨0,rfl,Nat.zero_lt_succ _,by simp,by simpa using here⟩
    · rw [List.getElem?_append_right (by simpa using here)] at found
      obtain ⟨q,number,inside,place,before⟩ := ih found
      simp only [List.length_map,List.length_range] at place before
      refine ⟨q + 1,by omega,by simpa using inside,?_,?_⟩
      · rw [List.take_succ_cons,List.sum_cons]
        omega
      · rw [List.take_succ_cons,List.sum_cons]
        omega

section
variable (c : Codecs) {ρ : Type}

def clock (start : Int) (packets : Nat) : Int := start - initialPaddingNs c + packets * frameNs c

structure Made (start : Int) (stream : List Sample) (packet : Packet) : Prop where
  clocked : ∃ i, packet.encoderPts = c.frameSize * i ∧ packet.ptsNs = clock c start i
  inside : packet.encoderPts + c.frameSize ≤ stream.length
  samples : packet.samples = (stream.drop packet.encoderPts).take c.frameSize

structure Timed (start : Int) (stream : List Sample) (s : State ρ) : Prop where
  fifo : s.fifo = stream.drop s.nextEncoderPts
  inside : s.nextEncoderPts ≤ stream.length
  clocked : ∃ i, s.nextEncoderPts = c.frameSize * i ∧ s.nextOutputPtsNs = clock c start i

structure Alike (s s' : State ρ) : Prop where
  resampler : s'.resampler = s.resampler
  expected : s'.expectedInputSamplePts = s.expectedInputSamplePts
  started : s'.timelineStarted = s.timelineStarted
  received : s'.received = s.received

variable {c}

variable {start pts : Int} {stream : List Sample} {s : State ρ} {q : Nat}

theorem Made.later {packet : Packet} (made : Made c start stream packet) (more : List Sample) :
    Made c start (stream ++ more) packet := by
  have inside := made.inside
  refine ⟨made.clocked,by rw [List.length_append]; omega,?_⟩
  rw [List.drop_append_of_le_length (by omega),
    List.take_append_of_le_length (by rw [List.length_drop]; omega)]
  exact made.samples

theorem frameMade (timed : Timed c start stream s) (enough : c.frameSize ≤ s.fifo.length) :
    Timed c start stream (s.encodeFifoFrame c).1 ∧ Alike s (s.encodeFifoFrame c).1 ∧
      ∀ packet ∈ (s.encodeFifoFrame c).2, Made c start stream packet := by
  obtain ⟨i,place,now⟩ := timed.clocked
  rw [timed.fifo,List.length_drop] at enough
  have inside := timed.inside
  have after : Timed c start stream
      {s with
        fifo := s.fifo.drop c.frameSize
        nextEncoderPts := s.nextEncoderPts + c.frameSize
        nextOutputPtsNs := s.nextOutputPtsNs + frameNs c} := by
    refine ⟨?_,?_,i + 1,?_,?_⟩
    · rw [timed.fifo,List.drop_drop]
    · show s.nextEncoderPts + c.frameSize ≤ stream.length
      omega
    · show s.nextEncoderPts + c.frameSize = c.frameSize * (i + 1)
      rw [place,Nat.mul_succ]
    · show s.nextOutputPtsNs + frameNs c = clock c start (i + 1)
      rw [now,clock,clock,Int.natCast_add,Int.add_mul]
      omega
  simp only [State.encodeFifoFrame,State.receiveEncoded]
  split
  · exact ⟨after,⟨rfl,rfl,rfl,rfl⟩,by simp⟩
  · refine ⟨after,⟨rfl,rfl,rfl,rfl⟩,?_⟩
    intro packet member
    cases List.mem_singleton.mp member
    refine ⟨⟨i,place,now⟩,?_,?_⟩
    · show s.nextEncoderPts + c.frameSize ≤ stream.length
      omega
    · rw [← timed.fifo]

theorem availableMade (fuel : Nat) (timed : Timed c start stream s) :
    Timed c start stream (s.encodeAvailable c fuel).1 ∧ Alike s (s.encodeAvailable c fuel).1 ∧
      ∀ packet ∈ (s.encodeAvailable c fuel).2, Made c start stream packet := by
  induction fuel generalizing s with
  | zero => exact ⟨timed,⟨rfl,rfl,rfl,rfl⟩,by simp [State.encodeAvailable]⟩
  | succ fuel ih =>
    unfold State.encodeAvailable
    split
    · exact ⟨timed,⟨rfl,rfl,rfl,rfl⟩,by simp⟩
    · rename_i enough
      obtain ⟨next,alike,first⟩ := frameMade timed (Nat.le_of_not_lt enough)
      obtain ⟨last,later,rest⟩ := ih next
      refine ⟨last,⟨later.resampler.trans alike.resampler,later.expected.trans alike.expected,
        later.started.trans alike.started,later.received.trans alike.received⟩,?_⟩
      intro packet member
      rcases List.mem_append.mp member with early | late
      · exact first packet early
      · exact rest packet late

variable (c) in
/- The resampler from its start on, fed with frames that follow each other: its state and how many
samples came out. -/
def feed (r : Resampler ρ) (pts : Int) : Nat → ρ × Nat
  | 0 => (r.init,0)
  | q + 1 =>
    let (resampler,total) := feed r pts q
    let (next,count) :=
      r.convert resampler ((pts + q * c.frameSamples) * c.encoderRate) c.frameSamples
    (next,total + count)

variable (c) in
def Proportional (r : Resampler ρ) : Prop :=
  ∀ pts q, (feed c r pts q).2 = q * c.frameSamples * c.encoderRate / c.frameRate

variable (c) in
def Contiguous (pts : Int) (q : Nat) (inputs : List Input) : Prop :=
  ∀ (j : Nat) input, inputs[j]? = some input →
    frameSamplePts c input.ptsNs = pts + (q + j : Nat) * c.frameSamples

theorem contiguousCons {input : Input} {rest : List Input} :
    Contiguous c pts q (input :: rest) ↔
      frameSamplePts c input.ptsNs = pts + q * c.frameSamples ∧ Contiguous c pts (q + 1) rest := by
  constructor
  · intro follows
    refine ⟨follows 0 input rfl,?_⟩
    intro j other found
    rw [follows (j + 1) other found,Nat.add_right_comm,Nat.add_assoc]
  · intro ⟨now,later⟩ j other found
    cases j with
    | zero =>
      cases Option.some.inj found
      exact now
    | succ j =>
      rw [later j other found,Nat.add_right_comm,Nat.add_assoc]

variable (c) in
structure Along (start : Int) (counts : List Nat) (s : State ρ) : Prop where
  timed : Timed c start (written 0 counts) s
  started : s.timelineStarted = true
  received : s.received = counts.length

variable {r : Resampler ρ}

variable (c r) in
structure Fed (pts : Int) (q : Nat) (s : State ρ) : Prop where
  resampler : s.resampler = some (feed c r pts q).1
  expected : s.expectedInputSamplePts = some (pts + q * c.frameSamples)

theorem Fed.ready (fed : Fed c r pts q s) :
    s.ready c r (pts + q * c.frameSamples) = (feed c r pts q).1 := by
  simp [State.ready,fed.resampler,fed.expected]

theorem transcodeMade {counts : List Nat} (along : Along c start counts s) (input : Input)
    (now : frameSamplePts c input.ptsNs = pts + q * c.frameSamples)
    (ready : s.ready c r (pts + q * c.frameSamples) = (feed c r pts q).1) :
    ∃ count, (feed c r pts (q + 1)).2 = (feed c r pts q).2 + count ∧
      Along c start (counts ++ [count]) (transcode c r s input).1 ∧
      Fed c r pts (q + 1) (transcode c r s input).1 ∧
      ∀ packet ∈ (transcode c r s input).2, Made c start (written 0 (counts ++ [count])) packet := by
  obtain ⟨⟨fifo,inside,clocked⟩,started,received⟩ := along
  obtain ⟨count,isCount⟩ : ∃ count, count =
      (r.convert (feed c r pts q).1 ((pts + q * c.frameSamples) * c.encoderRate)
        c.frameSamples).2 := ⟨_,rfl⟩
  have running : s.startTimeline c input = s := by rw [State.startTimeline,if_pos started]
  have stream : written 0 (counts ++ [count]) =
      written 0 counts ++ (List.range count).map fun position => ⟨s.received,position⟩ := by
    rw [writtenAppend,received]
    simp [written]
  have before : Timed c start (written 0 (counts ++ [count]))
      (s.resampleDecoded c r (frameSamplePts c input.ptsNs)) := by
    refine ⟨?_,?_,clocked⟩
    · show s.fifo ++ _ = List.drop s.nextEncoderPts _
      rw [stream,List.drop_append_of_le_length inside,fifo,now,ready,isCount]
    · show s.nextEncoderPts ≤ _
      rw [stream,List.length_append]
      omega
  simp only [transcode,running]
  obtain ⟨after,alike,made⟩ := availableMade
    (s.resampleDecoded c r (frameSamplePts c input.ptsNs)).fifo.length before
  refine ⟨count,by rw [isCount]; rfl,⟨after,alike.started.trans started,?_⟩,⟨?_,?_⟩,made⟩
  · rw [alike.received,List.length_append,← received]
    rfl
  · rw [alike.resampler,now]
    show some _ = _
    rw [ready]
    rfl
  · rw [alike.expected,now]
    show some _ = _
    rw [Int.natCast_add,Int.add_mul,← Int.add_assoc]
    simp

theorem rowMade {inputs : List Input} {counts : List Nat} (along : Along c start counts s)
    (follows : Contiguous c pts q inputs)
    (ready : s.ready c r (pts + q * c.frameSamples) = (feed c r pts q).1) :
    ∃ more : List Nat, more.length = inputs.length ∧
      (∀ j ≤ inputs.length, (feed c r pts (q + j)).2 = (feed c r pts q).2 + (more.take j).sum) ∧
      Along c start (counts ++ more) (final (transcode c r) s inputs) ∧
      (inputs ≠ [] → Fed c r pts (q + inputs.length) (final (transcode c r) s inputs)) ∧
      ∀ packet ∈ (rounds (transcode c r) s inputs).flatMap (·.effects),
        Made c start (written 0 (counts ++ more)) packet := by
  induction inputs generalizing q counts s with
  | nil =>
    refine ⟨[],rfl,?_,by simpa [final] using along,fun some_ => absurd rfl some_,by simp [rounds]⟩
    intro j none_
    have : j = 0 := by simpa using none_
    subst this
    rfl
  | cons input rest ih =>
    obtain ⟨now,later⟩ := contiguousCons.mp follows
    obtain ⟨count,grows,next,fed,made⟩ := transcodeMade along input now ready
    obtain ⟨more,size,sums,last,end_,packets⟩ := ih next later fed.ready
    rw [List.append_assoc,List.singleton_append] at last packets
    refine ⟨count :: more,by rw [List.length_cons,size,List.length_cons],?_,last,?_,?_⟩
    · intro j inside
      cases j with
      | zero => rfl
      | succ j =>
        have later := sums j (Nat.le_of_succ_le_succ inside)
        have place : q + 1 + j = q + (j + 1) := by omega
        rw [place,grows] at later
        rw [later,List.take_succ_cons,List.sum_cons,Nat.add_assoc]
    · intro _
      rw [List.length_cons,← Nat.add_assoc,Nat.add_right_comm]
      cases rest with
      | nil => exact fed
      | cons first others => exact end_ (List.cons_ne_nil _ _)
    · intro packet member
      rw [rounds,List.flatMap_cons] at member
      rcases List.mem_append.mp member with early | late
      · have whole := (made packet early).later (written (counts ++ [count]).length more)
        rw [← Nat.zero_add (counts ++ [count]).length,← writtenAppend,List.append_assoc] at whole
        exact whole
      · exact packets packet late

end

end MediaServer.AudioTranscoder
