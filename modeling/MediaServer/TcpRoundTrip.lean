import Mathlib.Data.List.Induction
import MediaServer.GbTcp

/-! What is sent over TCP is what is received: the receiver hands on the non-empty frames of the
stream up to the first fatal one, whatever reads the stream comes in. -/
namespace MediaServer.GbTcp
open Bytes Framing Transition

def receiveAll (fatal : List Bytes → Bool) : List Bytes → List Bytes → List Bytes × Bool
  | received, [] => (received,false)
  | received, packet :: rest =>
    if fatal (received ++ [packet]) then (received ++ [packet],true)
    else receiveAll fatal (received ++ [packet]) rest

variable {fatal : List Bytes → Bool}

theorem receiveAllAppend (received a b : List Bytes) :
    receiveAll fatal received (a ++ b) =
      if (receiveAll fatal received a).2 then receiveAll fatal received a
      else receiveAll fatal (receiveAll fatal received a).1 b := by
  induction a generalizing received with
  | nil => rfl
  | cons packet rest ih =>
    simp only [List.cons_append,receiveAll]
    split
    · rfl
    · exact ih _

variable {input : Bytes} {offset : Nat} {actions : List SenderAction} {s : Sender}

theorem firstShort (short : ¬2 ≤ input.length - offset) :
    first (input.drop offset) = none :=
  if_pos (by rw [List.length_drop]; omega)

theorem firstPartial (cut : input.length - offset < (readU16 (input.drop offset)).toNat + 2) :
    first (input.drop offset) = none := by
  unfold first
  rw [List.length_drop,if_pos cut]
  split <;> rfl

theorem firstAt (two : 2 ≤ input.length - offset)
    (full : ¬input.length - offset < (readU16 (input.drop offset)).toNat + 2) :
    first (input.drop offset) =
      some ((input.drop (offset + 2)).take (readU16 (input.drop offset)).toNat,
        input.drop (offset + 2 + (readU16 (input.drop offset)).toNat)) := by
  unfold first
  rw [List.length_drop,if_neg (by omega),if_neg full,List.drop_drop,List.drop_drop,Nat.add_assoc,
    Nat.add_comm 2]

theorem bodyFilled {size : Nat} (full : ¬input.length - offset < size + 2) (filled : size ≠ 0) :
    (input.drop (offset + 2)).take size ≠ [] := by
  intro empty
  have length := congrArg List.length empty
  rw [List.length_take,List.length_drop,List.length_nil] at length
  omega

theorem drainFrames (input : Bytes) (offset : Nat) (received : List Bytes) :
    (drain fatal input offset received).2 =
        receiveAll fatal received (packetsOf (input.drop offset)) ∧
      ((drain fatal input offset received).2.2 = false →
        input.drop (drain fatal input offset received).1 = (split (input.drop offset)).2) := by
  fun_induction drain fatal input offset received with
  | case1 offset received two packetBytes cut =>
    have none_ := firstPartial cut
    rw [packetsNone none_,splitNone none_]
    exact ⟨rfl,fun _ => rfl⟩
  | case2 offset received two packetBytes full filled packet isFatal =>
    have found := firstAt two full
    have body : packet ≠ [] := bodyFilled full filled
    rw [packetsCons found body,receiveAll,if_pos isFatal]
    exact ⟨rfl,nofun⟩
  | case3 offset received two packetBytes full filled packet accepted ih =>
    have found := firstAt two full
    have body : packet ≠ [] := bodyFilled full filled
    rw [packetsCons found body,receiveAll,if_neg accepted,splitSome found]
    exact ih
  | case4 offset received two packetBytes full empty ih =>
    have zero : (readU16 (input.drop offset)).toNat = 0 := not_not.mp empty
    have found : first (input.drop offset) = some ([],input.drop (offset + 2 + packetBytes)) := by
      rw [firstAt two full]
      simp only [packetBytes,zero,List.take_zero]
    rw [packetsEmpty found,splitSome found]
    exact ih
  | case5 offset received short =>
    have none_ := firstShort short
    rw [packetsNone none_,splitNone none_]
    exact ⟨rfl,fun _ => rfl⟩

structure Holds (fatal : List Bytes → Bool) (data : Bytes) (s : Receiver) : Prop where
  received : (s.received,s.shutdown) = receiveAll fatal [] (packetsOf data)
  rest : s.shutdown = false → s.inputBuffer = (split data).2

theorem onReadHolds {data : Bytes} {s : Receiver} (holds : Holds fatal data s) (more : Bytes) :
    Holds fatal (data ++ more) (onRead fatal s more) := by
  have so_far := holds.received
  unfold onRead
  cases stopped : s.shutdown with
  | true =>
    rw [if_pos rfl]
    rw [stopped] at so_far
    refine ⟨?_,fun running => absurd (stopped.symm.trans running) (by decide)⟩
    rw [packetsAppend,receiveAllAppend,← so_far,stopped]
    rfl
  | false =>
    rw [if_neg Bool.false_ne_true]
    rw [stopped] at so_far
    have input := holds.rest stopped
    have whole : receiveAll fatal [] (packetsOf (data ++ more)) =
        receiveAll fatal s.received (packetsOf (s.inputBuffer ++ more)) := by
      rw [packetsAppend,receiveAllAppend,← so_far,input]
      rfl
    have loop := @drainFrames fatal (s.inputBuffer ++ more) 0 s.received
    rw [List.drop_zero] at loop
    dsimp only
    generalize drain fatal (s.inputBuffer ++ more) 0 s.received = result at loop ⊢
    obtain ⟨offset,received,ended⟩ := result
    obtain ⟨same,rest⟩ := loop
    cases ended with
    | true => exact ⟨same.trans whole.symm,nofun⟩
    | false =>
      refine ⟨same.trans whole.symm,fun _ => ?_⟩
      have tail := rest rfl
      rw [splitAppend data more,← input]
      dsimp only at tail ⊢
      rw [← tail]
      split
      · rename_i all
        rw [all,List.drop_length]
      · split
        · rfl
        · rename_i none_
          rw [not_not.mp none_,List.drop_zero]

theorem runReadHolds (reads : List Bytes) : Holds fatal reads.flatten (runRead fatal reads) := by
  have step : ∀ (reads : List Bytes) (data : Bytes) (s : Receiver), Holds fatal data s →
      Holds fatal (data ++ reads.flatten) (reads.foldl (onRead fatal) s) := by
    intro reads
    induction reads with
    | nil =>
      intro data s holds
      rw [List.flatten_nil,List.append_nil]
      exact holds
    | cons read rest ih =>
      intro data s holds
      have later := ih (data ++ read) (onRead fatal s read) (onReadHolds holds read)
      rw [List.append_assoc] at later
      exact later
  refine step reads [] .start ⟨?_,fun _ => ?_⟩
  · rw [packetsNone rfl]
    rfl
  · rw [splitNone rfl]
    rfl

def packets : List SenderAction → List Bytes
  | [] => []
  | .sendPacket packet :: rest => packet :: packets rest
  | .flush :: rest => packets rest

def flushed (actions : List SenderAction) : List Bytes :=
  packets (actions.reverse.dropWhile (· != .flush)).reverse

theorem packetsSnoc (actions : List SenderAction) (action : SenderAction) :
    packets (actions ++ [action]) = packets actions ++ packets [action] := by
  induction actions with
  | nil => rfl
  | cons first rest ih =>
    cases first with
    | sendPacket packet => simp only [List.cons_append,packets,ih]
    | flush => simp only [List.cons_append,packets,ih]

theorem flushedFlush (actions : List SenderAction) :
    flushed (actions ++ [.flush]) = packets actions := by
  simp [flushed,packetsSnoc,packets]

theorem flushedSend (actions : List SenderAction) (packet : Bytes) :
    flushed (actions ++ [.sendPacket packet]) = flushed actions := by
  simp [flushed]

structure Queued (actions : List SenderAction) (waiting : List Bytes) (s : Sender) : Prop where
  all : packets actions = flushed actions ++ waiting
  written : s.written = (flushed actions).flatMap frame
  output : s.output = waiting.flatMap frame
  posted : s.posted = if waiting.isEmpty then 0 else 1

theorem framesEmpty (waiting : List Bytes) :
    (waiting.flatMap frame).isEmpty = waiting.isEmpty := by
  cases waiting with
  | nil => rfl
  | cons packet rest => rfl

theorem senderQueued (ok : run senderStep .start actions = some s) :
    ∃ waiting, Queued actions waiting s := by
  induction actions using List.reverseRecOn generalizing s with
  | nil =>
    cases Option.some.inj ok
    exact ⟨[],rfl,rfl,rfl,rfl⟩
  | append_singleton before action ih =>
    obtain ⟨u,front,taken⟩ := runSnoc ok
    obtain ⟨waiting,queued⟩ := ih front
    cases action with
    | sendPacket packet =>
      cases Option.some.inj taken
      refine ⟨waiting ++ [packet],?_,?_,?_,?_⟩
      · rw [packetsSnoc,queued.all,flushedSend,List.append_assoc]
        rfl
      · rw [flushedSend]
        exact queued.written
      · simp [queued.output,frame]
      · rw [queued.output,framesEmpty,queued.posted]
        cases waiting with
        | nil => rfl
        | cons => rfl
    | flush =>
      obtain ⟨_,taken⟩ := Option.ite_none_left_eq_some.mp taken
      cases Option.some.inj taken
      have one : u.posted - 1 = 0 := by
        rw [queued.posted]
        split <;> rfl
      refine ⟨[],?_,?_,rfl,one⟩
      · rw [packetsSnoc,flushedFlush]
        rfl
      · rw [flushedFlush,queued.all,queued.written,queued.output,List.flatMap_append]

theorem flushEnabled {waiting : List Bytes} (queued : Queued actions waiting s) :
    (∃ t, senderStep s .flush = some t) ↔ flushed actions ≠ packets actions := by
  rw [queued.all,senderStep,queued.posted]
  cases waiting with
  | nil => simp
  | cons packet rest => simp

theorem receiveAllQuiet (received more : List Bytes)
    (quiet : ∀ past, past <+: more → fatal (received ++ past) = true → past = []) :
    receiveAll fatal received more = (received ++ more,false) := by
  induction more generalizing received with
  | nil => simp [receiveAll]
  | cons packet rest ih =>
    have own : fatal (received ++ [packet]) ≠ true := by
      intro isFatal
      have empty := quiet [packet] ⟨rest,rfl⟩ isFatal
      contradiction
    rw [receiveAll,if_neg own,ih]
    · simp
    · intro past start isFatal
      have longer := quiet (packet :: past) (List.cons_prefix_cons.mpr ⟨rfl,start⟩)
        (by simpa using isFatal)
      contradiction

theorem packetsFrames (sent : List Bytes) (sized : ∀ p ∈ sent, 1 ≤ p.length ∧ p.length ≤ 65535) :
    packetsOf (sent.flatMap frame) = sent := by
  rw [packetsOf,splitFrames sent fun p member => by have := sized p member; omega]
  refine List.filter_eq_self.mpr ?_
  intro p member
  have filled := (sized p member).1
  cases p with
  | nil => contradiction
  | cons => rfl

theorem receivedFrames {fatal : List Bytes → Bool} {reads sent : List Bytes}
    (sized : ∀ p ∈ sent, 1 ≤ p.length ∧ p.length ≤ 65535)
    (bytes : reads.flatten = sent.flatMap frame) :
    ((runRead fatal reads).received,(runRead fatal reads).shutdown) = receiveAll fatal [] sent ∧
      ((∀ past, past <+: sent → past ≠ [] → fatal past = false) →
        (runRead fatal reads).received = sent) := by
  have own : packetsOf reads.flatten = sent := by
    rw [bytes]
    exact packetsFrames sent sized
  have received := (@runReadHolds fatal reads).received
  rw [own] at received
  refine ⟨received,fun quiet => ?_⟩
  have everything := @receiveAllQuiet fatal [] sent (fun past start isFatal => by
    by_contra filled
    rw [List.nil_append,quiet past start filled] at isFatal
    contradiction)
  exact congrArg Prod.fst (received.trans everything)

theorem tcpFraming (fatal : List Bytes → Bool) {actions : List SenderAction} {s : Sender}
    (sending : run senderStep .start actions = some s)
    (sized : ∀ p ∈ packets actions, 1 ≤ p.length ∧ p.length ≤ 65535) :
    (∀ packet, ∃ t, senderStep s (.sendPacket packet) = some t) ∧
      ((∃ t, senderStep s .flush = some t) ↔ flushed actions ≠ packets actions) ∧
      (∀ before, actions = before ++ [.flush] → s.written = (packets actions).flatMap frame) ∧
      s.written = (flushed actions).flatMap frame ∧
      (∀ reads : List Bytes, reads.flatten = s.written →
        ((runRead fatal reads).received,(runRead fatal reads).shutdown) =
            receiveAll fatal [] (flushed actions) ∧
          ((∀ past, past <+: flushed actions → past ≠ [] → fatal past = false) →
            (runRead fatal reads).received = flushed actions)) ∧
      ∀ reads : List Bytes,
        ((runRead fatal reads).received,(runRead fatal reads).shutdown) =
            receiveAll fatal [] ((split reads.flatten).1.filter fun body => !body.isEmpty) ∧
          ∀ others : List Bytes, others.flatten = reads.flatten →
            (runRead fatal others).received = (runRead fatal reads).received := by
  obtain ⟨waiting,queued⟩ := senderQueued sending
  refine ⟨fun packet => ⟨_,rfl⟩,flushEnabled queued,?_,queued.written,?_,?_⟩
  · intro before last
    rw [queued.written,last,flushedFlush,packetsSnoc,packets,packets,List.append_nil]
  · intro reads bytes
    refine receivedFrames (fun p member => sized p ?_) (bytes.trans queued.written)
    rw [queued.all]
    exact List.mem_append_left _ member
  · intro reads
    refine ⟨(@runReadHolds fatal reads).received,?_⟩
    intro others same
    have first := (@runReadHolds fatal others).received
    rw [same,← (@runReadHolds fatal reads).received] at first
    exact congrArg Prod.fst first

def twoPackets : List SenderAction := [.sendPacket [1,2],.flush,.sendPacket [3],.flush]

theorem twoPacketsReceived : ∃ s, run senderStep .start twoPackets = some s ∧
    s.written = [0,2,1,2,0,1,3] ∧
    (runRead (fun _ => false) [[0],[2,1],[2,0],[1,3]]).received = [[1,2],[3]] := by
  have sending : run senderStep .start twoPackets = some ⟨[],0,[0,2,1,2,0,1,3]⟩ := by decide
  have framing := tcpFraming (fun _ => false) sending (by decide)
  exact ⟨_,sending,rfl,(framing.2.2.2.2.1 _ rfl).2 fun _ _ _ => rfl⟩

end MediaServer.GbTcp
