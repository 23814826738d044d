import Mathlib.Algebra.Order.Ring.Abs
import Mathlib.Tactic.LinearCombination
import Mathlib.Tactic.Linarith
import Mathlib.Tactic.Ring
import MediaServer.TranscoderTimeline

/-! A gap in the input. The resampler is started anew and the clock of the output goes on as if there
was no gap, so that what follows lies behind its source by the length of the gap. -/
namespace MediaServer.AudioTranscoder
open Controller

theorem rescaleNear (a : Int) (b : Nat) {c : Nat} (positive : 0 < c) :
    2 * |rescale a b c * c - a * b| ≤ c := by
  have near (x : Int) : 2 * |(x + (c / 2 : Nat)) / c * c - x| ≤ c := by
    have whole := Int.emod_add_mul_ediv (x + (c / 2 : Nat)) c
    have low := Int.emod_nonneg (x + (c / 2 : Nat)) (Int.natCast_ne_zero.mpr positive.ne')
    have high := Int.emod_lt_of_pos (x + (c / 2 : Nat)) (Int.natCast_pos.mpr positive)
    rw [Int.mul_comm] at whole
    generalize (x + (c / 2 : Nat)) / c * c = y at *
    generalize (x + (c / 2 : Nat)) % c = m at *
    have bound : -(c : Int) ≤ 2 * (y - x) ∧ 2 * (y - x) ≤ c := by omega
    rw [show (2 : Int) = |2| by rfl,← abs_mul,abs_le]
    exact bound
  unfold rescale
  split
  · exact_mod_cast near (a * b)
  · have mirror := near (-a * b)
    rw [← abs_neg] at mirror
    have same : -((-a * b + (c / 2 : Nat)) / c * c - -a * b) =
        -((-a * b + (c / 2 : Nat)) / c) * c - a * b := by ring
    rw [same] at mirror
    exact_mod_cast mirror

section
variable (c : Codecs)

theorem samplePtsNear (ptsNs : Int) :
    2 * |frameSamplePts c ptsNs * (c.decoderRate * nanoseconds) -
        ptsNs * (c.decoderRate * c.frameRate)| ≤
      (c.decoderRate + c.frameRate) * nanoseconds := by
  obtain ⟨decoder,_,_⟩ := c.rates
  have first := rescaleNear ptsNs c.decoderRate (show 0 < nanoseconds by decide)
  have second := rescaleNear (rescale ptsNs c.decoderRate nanoseconds) c.frameRate decoder
  unfold frameSamplePts
  generalize rescale ptsNs c.decoderRate nanoseconds = y at *
  generalize rescale y c.frameRate c.decoderRate = z at *
  have billion : (0 : Int) ≤ nanoseconds := Int.natCast_nonneg _
  have rate : (0 : Int) ≤ c.frameRate := Int.natCast_nonneg _
  have split : z * (c.decoderRate * nanoseconds) - ptsNs * (c.decoderRate * c.frameRate) =
      (z * c.decoderRate - y * c.frameRate) * nanoseconds +
        (y * nanoseconds - ptsNs * c.decoderRate) * c.frameRate := by ring
  have sum := abs_add_le ((z * c.decoderRate - y * c.frameRate) * nanoseconds)
    ((y * nanoseconds - ptsNs * c.decoderRate) * c.frameRate)
  rw [abs_mul,abs_mul,abs_of_nonneg billion,abs_of_nonneg rate] at sum
  have outer := mul_le_mul_of_nonneg_right second billion
  have inner := mul_le_mul_of_nonneg_right first rate
  rw [split]
  linarith

theorem distanceNear (start source : Int) :
    |(frameSamplePts c source - frameSamplePts c start) * (c.decoderRate * nanoseconds) -
        (source - start) * (c.decoderRate * c.frameRate)| ≤
      (c.decoderRate + c.frameRate) * nanoseconds := by
  have first := samplePtsNear c start
  have second := samplePtsNear c source
  have sum := abs_sub (frameSamplePts c source * (c.decoderRate * nanoseconds) -
      source * (c.decoderRate * c.frameRate))
    (frameSamplePts c start * (c.decoderRate * nanoseconds) -
      start * (c.decoderRate * c.frameRate))
  have split : (frameSamplePts c source - frameSamplePts c start) *
        (c.decoderRate * nanoseconds) - (source - start) * (c.decoderRate * c.frameRate) =
      frameSamplePts c source * (c.decoderRate * nanoseconds) -
        source * (c.decoderRate * c.frameRate) -
      (frameSamplePts c start * (c.decoderRate * nanoseconds) -
        start * (c.decoderRate * c.frameRate)) := by ring
  rw [split]
  linarith

structure Gap (before after : List Input) (jump : Nat) : Prop where
  some_ : before ≠ []
  rows : ∃ pts, Contiguous c pts 0 before ∧
    Contiguous c (pts + before.length * c.frameSamples + jump) 0 after
  far : c.frameRate < 10 * jump

/- The pts of a packet against the source pts of its first sample, less the padding; in parts of a
nanosecond, as many as the encoder's rate. -/
def deviation (inputs : List Input) (packet : Packet) : Option Int := do
  let first ← packet.samples.head?
  let source ← inputs[first.packet]?
  some (c.encoderRate * (packet.ptsNs - source.ptsNs) +
    (c.initialPadding - first.position) * nanoseconds)

def OnTime (inputs : List Input) (packet : Packet) : Prop :=
  ∃ late, deviation c inputs packet = some late ∧ |late| ≤ c.frameSize * nanoseconds

instance (inputs : List Input) (packet : Packet) : Decidable (OnTime c inputs packet) :=
  match found : deviation c inputs packet with
  | none => .isFalse (by simp [OnTime,found])
  | some late =>
    if small : |late| ≤ c.frameSize * nanoseconds then .isTrue ⟨late,found,small⟩
    else .isFalse (by simpa [OnTime,found] using small)

/- How many samples stand in front of input j behind a gap that follows b inputs. -/
def streamed (b j : Nat) : Nat :=
  b * c.frameSamples * c.encoderRate / c.frameRate + j * c.frameSamples * c.encoderRate / c.frameRate

/- The input behind the gap that the first sample of encoder frame i comes from. -/
def sourceOf (b i : Nat) : Nat :=
  ((c.frameSize * i - streamed c b 0 + 1) * c.frameRate - 1) / (c.frameSamples * c.encoderRate)

def drift (i : Nat) : Int :=
  i * (c.encoderRate * frameNs c - c.frameSize * nanoseconds) +
    (c.initialPadding * nanoseconds - c.encoderRate * initialPaddingNs c)

def lag (before after : List Input) (i : Nat) : Option Int := do
  let start ← before.head?
  let source ← after[sourceOf c before.length i]?
  some (c.encoderRate * (source.ptsNs - start.ptsNs) -
    streamed c before.length (sourceOf c before.length i) * nanoseconds - drift c i)

def Punctual (before after : List Input) (i : Nat) : Prop :=
  ∃ behind, lag c before after i = some behind ∧ |behind| ≤ c.frameSize * nanoseconds

/- Two samples of either rate and a nanosecond for every frame, in the unit of the jump. -/
def slack (i : Nat) : Int :=
  (c.encoderRate * (c.decoderRate + c.frameRate) + 2 * (c.decoderRate * c.frameRate)) * nanoseconds +
    (i + 1) * c.encoderRate * (c.decoderRate * c.frameRate)

variable {c} {ρ : Type} {r : Resampler ρ}

def started (ρ : Type) (c : Codecs) (first : Input) : State ρ :=
  {startup ρ with
    nextOutputPtsNs := first.ptsNs - initialPaddingNs c
    outputTrack := first.track
    timelineStarted := true}

theorem alongStarted (first : Input) : Along c first.ptsNs [] (started ρ c first) := by
  refine ⟨⟨rfl,Nat.zero_le _,0,rfl,?_⟩,rfl,rfl⟩
  simp [started,clock]

theorem roundsStarted (first : Input) (rest : List Input) :
    (rounds (transcode c r) (startup ρ) (first :: rest)).flatMap (·.effects) =
      (rounds (transcode c r) (started ρ c first) (first :: rest)).flatMap (·.effects) := by
  have same : transcode c r (startup ρ) first = transcode c r (started ρ c first) first := rfl
  simp only [rounds,same,List.flatMap_cons]

variable {before after : List Input} {jump i : Nat}

theorem gapMade (gap : Gap c before after jump) (proportional : Proportional c r) :
    ∃ start counts, (before ++ after).head? = some start ∧
      counts.length = (before ++ after).length ∧
      (∀ j ≤ after.length, (counts.take (before.length + j)).sum =
        before.length * c.frameSamples * c.encoderRate / c.frameRate +
          j * c.frameSamples * c.encoderRate / c.frameRate) ∧
      ∀ packet ∈ outputs c r (before ++ after), Made c start.ptsNs (written 0 counts) packet := by
  obtain ⟨pts,first,second⟩ := gap.rows
  obtain ⟨start,rest,rfl⟩ := List.exists_cons_of_ne_nil gap.some_
  obtain ⟨counts,size,sums,along,fed,packets⟩ := rowMade (r := r) (alongStarted start) first rfl
  have fed := fed (List.cons_ne_nil _ _)
  rw [Nat.zero_add] at fed
  have ready : (final (transcode c r) (started ρ c start) (start :: rest)).ready c r
      (pts + (start :: rest).length * c.frameSamples + jump + (0 : Nat) * c.frameSamples) =
        r.init := by
    have far := gap.far
    rw [State.ready,fed.resampler,fed.expected]
    refine if_pos ?_
    omega
  obtain ⟨more,size',sums',along',_,packets'⟩ := rowMade along second ready
  rw [List.nil_append] at along' packets packets'
  refine ⟨start,counts ++ more,rfl,by rw [List.length_append,List.length_append,size,size'],?_,?_⟩
  · intro j inside
    have whole := sums _ (Nat.le_refl _)
    have part := sums' j inside
    rw [← size,List.take_length,proportional,Nat.zero_add,size] at whole
    rw [proportional,Nat.zero_add] at part
    rw [← size,List.take_length_add_append,List.sum_append,size]
    simp only [feed,Nat.zero_add] at whole part
    omega
  · intro packet member
    rw [outputs,List.cons_append,roundsStarted,← List.cons_append,roundsAppend,
      List.flatMap_append] at member
    rcases List.mem_append.mp member with early | late
    · rw [writtenAppend]
      exact (packets packet early).later _
    · exact packets' packet late

theorem sourceExact {b j : Nat} (low : streamed c b j ≤ c.frameSize * i)
    (high : c.frameSize * i < streamed c b (j + 1)) : j = sourceOf c b i := by
  have rate := c.rates.2.1
  unfold streamed at low high
  unfold sourceOf streamed
  simp only [Nat.zero_mul,Nat.zero_div,Nat.add_zero]
  generalize b * c.frameSamples * c.encoderRate / c.frameRate = base at *
  rw [Nat.mul_assoc] at low high
  generalize c.frameSamples * c.encoderRate = share at *
  have behind : base ≤ c.frameSize * i := Nat.le_of_add_right_le low
  have below : j * share < (c.frameSize * i - base + 1) * c.frameRate :=
    (Nat.div_lt_iff_lt_mul rate).mp (Nat.lt_succ_of_le (Nat.le_sub_of_add_le' low))
  have above : (c.frameSize * i - base + 1) * c.frameRate ≤ (j + 1) * share :=
    (Nat.le_div_iff_mul_le rate).mp (Nat.sub_lt_left_of_lt_add behind high)
  exact (Nat.div_eq_of_lt_le (by omega) (by omega)).symm

theorem gapFirst (gap : Gap c before after jump) (proportional : Proportional c r) {packet : Packet}
    (out : packet ∈ outputs c r (before ++ after))
    (late : ∀ sample ∈ packet.samples, before.length ≤ sample.packet) :
    ∃ start first source i,
      before.head? = some start ∧ packet.samples.head? = some first ∧
      (before ++ after)[first.packet]? = some source ∧
      after[sourceOf c before.length i]? = some source ∧
      packet.encoderPts = c.frameSize * i ∧ packet.ptsNs = clock c start.ptsNs i ∧
      c.frameSize * i = streamed c before.length (sourceOf c before.length i) + first.position ∧
      frameSamplePts c source.ptsNs - frameSamplePts c start.ptsNs =
        (before.length + sourceOf c before.length i : Nat) * c.frameSamples + jump := by
  obtain ⟨start,counts,isStart,size,sums,made⟩ := gapMade gap proportional
  rw [List.head?_append_of_ne_nil _ gap.some_] at isStart
  obtain ⟨⟨i,place,clocked⟩,inside,samples⟩ := made packet out
  have full := c.full
  obtain ⟨first,isFirst⟩ : ∃ first, (written 0 counts)[packet.encoderPts]? = some first :=
    ⟨_,List.getElem?_eq_getElem (by omega)⟩
  have head : packet.samples.head? = some first := by
    rw [samples,List.head?_take,if_neg (by omega),List.head?_drop,isFirst]
  obtain ⟨q,number,below,position,bound⟩ := writtenAt isFirst
  rw [Nat.zero_add] at number
  have behind := late first (List.mem_of_head? head)
  obtain ⟨j,split⟩ := Nat.exists_eq_add_of_le (number ▸ behind)
  rw [size,List.length_append] at below
  obtain ⟨source,isSource⟩ : ∃ source, after[j]? = some source :=
    ⟨_,List.getElem?_eq_getElem (by omega)⟩
  have found : (before ++ after)[first.packet]? = some source := by
    rw [number,split,List.getElem?_append_right (Nat.le_add_right _ _),Nat.add_sub_cancel_left]
    exact isSource
  rw [split,sums j (by omega),place] at position
  rw [split,Nat.add_assoc,sums (j + 1) (by omega),place] at bound
  have exact_ : j = sourceOf c before.length i :=
    sourceExact (by unfold streamed; omega) bound
  obtain ⟨pts,rows,rows'⟩ := gap.rows
  have atStart : frameSamplePts c start.ptsNs = pts := by
    have here := rows 0 start (by rw [← List.head?_eq_getElem?]; exact isStart)
    simpa using here
  have atSource := rows' j source isSource
  subst exact_
  refine ⟨start,first,source,i,isStart,head,found,isSource,place,clocked,position,?_⟩
  rw [atStart,atSource,Nat.zero_add,Int.natCast_add,Int.add_mul]
  omega

theorem sharesNear (a b scale : Nat) {unit : Nat} (positive : 0 < unit) :
    (a * scale / unit + b * scale / unit) * unit ≤ (a + b) * scale ∧
      (a + b) * scale < (a * scale / unit + b * scale / unit) * unit + 2 * unit := by
  have first := Nat.div_add_mod' (a * scale) unit
  have second := Nat.div_add_mod' (b * scale) unit
  have small := Nat.mod_lt (a * scale) positive
  have small' := Nat.mod_lt (b * scale) positive
  rw [Nat.add_mul,Nat.add_mul]
  omega

theorem lagNear {E D f ns delta L S jump : Int} (rate : 0 ≤ E) (scale : 0 ≤ D * ns)
    (near : |(L + jump) * (D * ns) - delta * (D * f)| ≤ (D + f) * ns) (low : S * f ≤ L * E)
    (high : L * E < S * f + 2 * f) :
    |(E * delta + -S * ns) * (D * f) - jump * (E * D * ns)| ≤
      (E * (D + f) + 2 * (D * f)) * ns := by
  have split : (E * delta + -S * ns) * (D * f) - jump * (E * D * ns) =
      -(E * ((L + jump) * (D * ns) - delta * (D * f))) + (L * E - S * f) * (D * ns) := by ring
  have sum := abs_add_le (-(E * ((L + jump) * (D * ns) - delta * (D * f))))
    ((L * E - S * f) * (D * ns))
  rw [abs_neg,abs_mul,abs_mul,abs_of_nonneg rate,abs_of_nonneg scale,
    abs_of_nonneg (Int.sub_nonneg_of_le low)] at sum
  have first := mul_le_mul_of_nonneg_left near rate
  have second : (L * E - S * f) * (D * ns) ≤ 2 * f * (D * ns) :=
    mul_le_mul_of_nonneg_right (by omega) scale
  rw [split]
  linarith

theorem driftNear (i : Nat) : 2 * |drift c i| ≤ (i + 1) * c.encoderRate := by
  have frame := rescaleNear c.frameSize nanoseconds c.rates.2.2
  have padding := rescaleNear c.initialPadding nanoseconds c.rates.2.2
  have sum := abs_add_le (i * (c.encoderRate * frameNs c - c.frameSize * nanoseconds))
    (c.initialPadding * nanoseconds - c.encoderRate * initialPaddingNs c)
  rw [abs_mul,abs_of_nonneg (Int.natCast_nonneg i)] at sum
  rw [abs_sub_comm (c.initialPadding * nanoseconds : Int)] at sum
  have first := mul_le_mul_of_nonneg_left frame (Int.natCast_nonneg i)
  unfold drift frameNs initialPaddingNs at *
  rw [mul_comm (rescale c.frameSize nanoseconds c.encoderRate)] at first
  rw [mul_comm (rescale c.initialPadding nanoseconds c.encoderRate)] at padding
  linarith

theorem lagJump {behind J few frame off drift scale : Int} (positive : 0 < scale) (ahead : 0 ≤ J)
    (near : |(behind + drift) * scale - J| ≤ few) (small : 2 * |drift| ≤ off) :
    (frame * scale + (few + off * scale) < J → ¬|behind| ≤ frame) ∧
      (J + (few + off * scale) ≤ frame * scale → |behind| ≤ frame) := by
  have wide : |drift| * scale ≤ off * scale :=
    mul_le_mul_of_nonneg_right (by linarith [abs_nonneg drift]) positive.le
  have apart : |behind * scale - J| ≤ few + off * scale := by
    have split : behind * scale - J = ((behind + drift) * scale - J) + -(drift * scale) := by ring
    have sum := abs_add_le ((behind + drift) * scale - J) (-(drift * scale))
    rw [abs_neg,abs_mul,abs_of_pos positive] at sum
    rw [split]
    linarith
  obtain ⟨low,high⟩ := abs_le.mp apart
  constructor
  · intro far inside
    have most := mul_le_mul_of_nonneg_right (abs_le.mp inside).2 positive.le
    linarith
  · intro fits
    refine abs_le.mpr ⟨?_,?_⟩
    · exact le_of_mul_le_mul_right (by linarith) positive
    · exact le_of_mul_le_mul_right (by linarith) positive

theorem lagBehind {start source : Input} (isStart : before.head? = some start)
    (isSource : after[sourceOf c before.length i]? = some source)
    (distance : frameSamplePts c source.ptsNs - frameSamplePts c start.ptsNs =
      (before.length + sourceOf c before.length i : Nat) * c.frameSamples + jump) :
    ∃ behind, lag c before after i = some behind ∧
      |(behind + drift c i) * (c.decoderRate * c.frameRate) -
          jump * (c.encoderRate * c.decoderRate * nanoseconds)| ≤
        (c.encoderRate * (c.decoderRate + c.frameRate) + 2 * (c.decoderRate * c.frameRate)) *
          nanoseconds := by
  refine ⟨c.encoderRate * (source.ptsNs - start.ptsNs) -
    streamed c before.length (sourceOf c before.length i) * nanoseconds - drift c i,?_,?_⟩
  · rw [lag,isStart]
    simp only [bind,Option.bind,isSource]
  have near := distanceNear c start.ptsNs source.ptsNs
  rw [distance] at near
  generalize sourceOf c before.length i = j at near ⊢
  have shares := sharesNear (before.length * c.frameSamples) (j * c.frameSamples) c.encoderRate
    c.rates.2.1
  rw [← Nat.add_mul] at shares
  have low : (streamed c before.length j * c.frameRate : Int) ≤
      (before.length + j : Nat) * c.frameSamples * c.encoderRate := by
    exact_mod_cast shares.1
  have high : ((before.length + j : Nat) * c.frameSamples * c.encoderRate : Int) <
      streamed c before.length j * c.frameRate + 2 * c.frameRate := by
    exact_mod_cast shares.2
  have scale : (0 : Int) ≤ c.decoderRate * nanoseconds :=
    Int.mul_nonneg (Int.natCast_nonneg _) (Int.natCast_nonneg _)
  have shape : c.encoderRate * (source.ptsNs - start.ptsNs) -
      streamed c before.length j * nanoseconds - drift c i + drift c i =
        c.encoderRate * (source.ptsNs - start.ptsNs) +
          -(streamed c before.length j) * nanoseconds := by ring
  rw [shape]
  exact lagNear (Int.natCast_nonneg _) scale near low high

theorem transcoderGap (c : Codecs) (r : Resampler ρ) (proportional : Proportional c r)
    {before after : List Input} {jump : Nat} (gap : Gap c before after jump) {packet : Packet}
    (out : packet ∈ outputs c r (before ++ after))
    (late : ∀ sample ∈ packet.samples, before.length ≤ sample.packet) :
    ∃ i, packet.encoderPts = c.frameSize * i ∧
      (OnTime c (before ++ after) packet ↔ Punctual c before after i) ∧
      (c.frameSize * nanoseconds * (c.decoderRate * c.frameRate) + slack c i <
          jump * (c.encoderRate * c.decoderRate * nanoseconds) →
        ¬OnTime c (before ++ after) packet) ∧
      (jump * (c.encoderRate * c.decoderRate * nanoseconds) + slack c i ≤
          c.frameSize * nanoseconds * (c.decoderRate * c.frameRate) →
        OnTime c (before ++ after) packet) := by
  obtain ⟨start,first,source,i,isStart,isFirst,found,isSource,place,clocked,position,distance⟩ :=
    gapFirst gap proportional out late
  obtain ⟨behind,isLag,near⟩ := lagBehind isStart isSource distance
  have off : deviation c (before ++ after) packet = some (-behind) := by
    rw [lag,isStart] at isLag
    simp only [bind,Option.bind,isSource,Option.some.injEq] at isLag
    rw [deviation,isFirst]
    simp only [bind,Option.bind,found,Option.some.injEq]
    rw [← isLag,clocked,clock,drift]
    have whole : (c.frameSize * i : Int) =
        streamed c before.length (sourceOf c before.length i) + first.position := by
      exact_mod_cast position
    linear_combination (nanoseconds : Int) * whole
  have same : OnTime c (before ++ after) packet ↔ |behind| ≤ c.frameSize * nanoseconds := by
    simp only [OnTime,off,Option.some.injEq,exists_eq_left',abs_neg]
  have exact_ : Punctual c before after i ↔ |behind| ≤ c.frameSize * nanoseconds := by
    simp only [Punctual,isLag,Option.some.injEq,exists_eq_left']
  have positive : (0 : Int) < c.decoderRate * c.frameRate := by
    exact_mod_cast Nat.mul_pos c.rates.1 c.rates.2.1
  refine ⟨i,place,same.trans exact_.symm,?_⟩
  have ahead : (0 : Int) ≤ jump * (c.encoderRate * c.decoderRate * nanoseconds) := by
    exact_mod_cast Nat.zero_le _
  rw [same]
  exact lagJump positive ahead near (driftNear i)

end

def gapCodecs : Codecs := ⟨48000,48000,960,48000,1024,2048,by decide,by decide⟩

def plainResampler : Resampler Unit := ⟨(),fun _ _ samples => ((),samples)⟩

def gapBefore : List Input := [⟨2,1000000000⟩,⟨2,1020000000⟩]

def gapAfter : List Input := [⟨2,2020000000⟩,⟨2,2040000000⟩,⟨2,2060000000⟩]

theorem plainProportional {c : Codecs} (same : c.encoderRate = c.frameRate) :
    Proportional c plainResampler := by
  intro pts q
  have all : (feed c plainResampler pts q).2 = q * c.frameSamples := by
    induction q with
    | zero => simp [feed]
    | succ q ih =>
      rw [Nat.succ_mul,← ih]
      rfl
  rw [all,same]
  exact (Nat.mul_div_cancel _ c.rates.2.1).symm

theorem gapInput : Gap gapCodecs gapBefore gapAfter 47040 := by
  refine ⟨by decide,⟨48000,?_,?_⟩,by decide⟩
  · simp only [gapBefore,contiguousCons]
    exact ⟨by decide,by decide,nofun⟩
  · simp only [gapAfter,contiguousCons]
    exact ⟨by decide,by decide,by decide,nofun⟩

theorem gapLate : Proportional gapCodecs plainResampler ∧
    Gap gapCodecs gapBefore gapAfter 47040 ∧
    ∃ packet ∈ outputs gapCodecs plainResampler (gapBefore ++ gapAfter),
      (∀ sample ∈ packet.samples, gapBefore.length ≤ sample.packet) ∧
      ¬OnTime gapCodecs (gapBefore ++ gapAfter) packet :=
  ⟨plainProportional rfl,gapInput,by decide +kernel⟩

def slowCodecs : Codecs := ⟨10,10,1,10,8,0,by decide,by decide⟩

def slowBefore : List Input := [⟨2,100000000⟩]

def slowAfter : List Input :=
  (List.range 16).map fun i : Nat => ⟨2,400000000 + (i : Int) * 100000000⟩

theorem slowInput : Gap slowCodecs slowBefore slowAfter 2 := by
  refine ⟨by decide,⟨1,?_,?_⟩,by decide⟩
  · simp only [slowBefore,contiguousCons]
    exact ⟨by decide,nofun⟩
  · intro j input found
    rw [slowAfter,List.getElem?_map] at found
    obtain ⟨i,here,rfl⟩ := Option.map_eq_some_iff.mp found
    obtain ⟨_,rfl⟩ := List.getElem?_eq_some_iff.mp here
    simp only [frameSamplePts,rescale,slowCodecs,nanoseconds,slowBefore,List.getElem_range,
      List.length_singleton]
    omega

theorem transcoderGapRun :
    (∃ packet ∈ outputs gapCodecs plainResampler (gapBefore ++ gapAfter),
      packet.encoderPts = 2048 ∧ ¬OnTime gapCodecs (gapBefore ++ gapAfter) packet) ∧
    ∃ packet ∈ outputs slowCodecs plainResampler (slowBefore ++ slowAfter),
      packet.encoderPts = 8 ∧ OnTime slowCodecs (slowBefore ++ slowAfter) packet := by
  constructor
  · obtain ⟨packet,out,late,pts⟩ : ∃ packet ∈ outputs gapCodecs plainResampler
        (gapBefore ++ gapAfter), (∀ sample ∈ packet.samples, gapBefore.length ≤ sample.packet) ∧
        packet.encoderPts = 2048 := by decide +kernel
    obtain ⟨i,place,_,never,_⟩ :=
      transcoderGap gapCodecs plainResampler (plainProportional rfl) gapInput out late
    cases show i = 2 by simp only [gapCodecs] at place; omega
    exact ⟨packet,out,pts,never (by decide)⟩
  · obtain ⟨packet,out,late,pts⟩ : ∃ packet ∈ outputs slowCodecs plainResampler
        (slowBefore ++ slowAfter), (∀ sample ∈ packet.samples, slowBefore.length ≤ sample.packet) ∧
        packet.encoderPts = 8 := by decide +kernel
    obtain ⟨i,place,_,_,always⟩ :=
      transcoderGap slowCodecs plainResampler (plainProportional rfl) slowInput out late
    cases show i = 1 by simp only [slowCodecs] at place; omega
    exact ⟨packet,out,pts,always (by decide)⟩

end MediaServer.AudioTranscoder
