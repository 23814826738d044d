import MediaServer.Bytes

/-! gb28181_audio_sender::read_rtcp: the compound packets that end a talk. Every read of a byte is
checked: no answer means a byte outside the datagram, and the answer none inside is the break of
the loop. -/
namespace MediaServer.RtcpBye
open Bytes

def rtcpBye : UInt8 := 203

def unlessBroken {α β : Type} (read : Option (Option α)) (next : α → Option (Option β)) :
    Option (Option β) :=
  read.bind fun
    | none => some none
    | some value => next value

def stripPadding (packetSize : Nat) (member : Bytes) : Option (Option Bytes) := do
  let first ← member[0]?
  if first &&& 0x20 ≠ 0 then
    let padding ← member.getLast?
    if member.length ≠ packetSize ∨ padding = 0 ∨ padding.toNat > member.length - 4 then some none
    else some (some (member.take (member.length - padding.toNat)))
  else some (some member)

def checkBye (member : Bytes) : Option (Option Bool) := do
  let kind ← member[1]?
  if kind = rtcpBye then
    let first ← member[0]?
    let sources := (first &&& 0x1f).toNat
    let reasonOffset := 4 + 4 * sources
    if reasonOffset > member.length then some none
    else if reasonOffset < member.length then
      let length ← member[reasonOffset]?
      let reasonEnd := reasonOffset + 1 + length.toNat
      if reasonEnd > member.length ∨ member.length - reasonEnd > 3 then some none
      else some (some (sources != 0))
    else some (some (sources != 0))
  else some (some false)

def takeMember (packet : Bytes) : Option (Option (Nat × Bool)) :=
  if packet.length < 4 then some none
  else do
    let first : UInt8 ← packet[0]?
    if first >>> 6 ≠ 2 then some none
    else
      let high : UInt8 ← packet[2]?
      let low : UInt8 ← packet[3]?
      let words := high.toNat <<< 8 ||| low.toNat
      let size := (words + 1) * 4
      if size > packet.length then some none
      else
        unlessBroken (stripPadding packet.length (packet.take size)) fun member =>
          unlessBroken (checkBye member) fun bye => some (some (size,bye))

def walk : Nat → Bytes → Bool → Option (Bytes × Bool)
  | 0, _, _ => none
  | fuel + 1, packet, receivedBye =>
    if packet = [] then some (packet,receivedBye)
    else do
      match ← takeMember packet with
      | none => some (packet,receivedBye)
      | some (size,bye) => walk fuel (packet.drop size) (receivedBye || bye)

inductive Read (Peer : Type) where
  | datagram (peer : Peer) (bytes : Bytes)
  | failed
  | stopped
  deriving DecidableEq, Repr

inductive Outcome where
  | waiting
  | reset
  | failed
  | stopped
  deriving DecidableEq, Repr

def readRtcp {Peer : Type} [DecidableEq Peer] (remote : Peer) : List (Read Peer) → Outcome
  | [] => .waiting
  | .stopped :: _ => .stopped
  | .failed :: _ => .failed
  | .datagram peer bytes :: rest =>
    if peer ≠ remote then readRtcp remote rest
    else if walk (bytes.length + 1) bytes false = some ([],true) then .reset
    else readRtcp remote rest

def first (m : Bytes) : UInt8 := m.getD 0 0
def words (m : Bytes) : Nat := (m.getD 2 0).toNat * 256 + (m.getD 3 0).toNat
def Padded (m : Bytes) : Prop := first m &&& 0x20 ≠ 0
def padding (m : Bytes) : Nat := (m.getLast?.getD 0).toNat
def Bye (m : Bytes) : Prop := m.getD 1 0 = rtcpBye
def sources (m : Bytes) : Nat := (first m &&& 0x1f).toNat

instance (m : Bytes) : Decidable (Padded m) := inferInstanceAs (Decidable (_ ≠ _))
instance (m : Bytes) : Decidable (Bye m) := inferInstanceAs (Decidable (_ = _))

def content (m : Bytes) : Bytes := if Padded m then m.take (m.length - padding m) else m

/- The sources, then nothing or a reason with its length and at most three bytes behind it. -/
def Sources (count : Nat) (body : Bytes) : Prop :=
  ∃ ids reason : Bytes, body = ids ++ reason ∧ ids.length = 4 * count ∧
    (reason = [] ∨ ∃ (n : UInt8) (text fill : Bytes),
      reason = n :: (text ++ fill) ∧ text.length = n.toNat ∧ fill.length ≤ 3)

structure Member (m : Bytes) : Prop where
  header : 4 ≤ m.length
  version : first m >>> 6 = 2
  declared : m.length = (words m + 1) * 4
  padded : Padded m → 1 ≤ padding m ∧ padding m ≤ m.length - 4
  bye : Bye m → Sources (sources m) ((content m).drop 4)

structure Members (packet : Bytes) (members : List Bytes) : Prop where
  whole : packet = members.flatten
  member : ∀ m ∈ members, Member m
  plain : ∀ m ∈ members.dropLast, ¬Padded m

def Leaving (members : List Bytes) : Prop := ∃ m ∈ members, Bye m ∧ sources m ≠ 0

def Decides {α : Type} (read : Option (Option α)) (accepts : α → Prop) : Prop :=
  ∃ answer, read = some answer ∧ ∀ value, answer = some value ↔ accepts value

variable {α : Type} {accepts : α → Prop} {m packet : Bytes} {n : Nat} {members : List Bytes}

theorem decidesYes {value : α} (yes : accepts value) (only : ∀ other, accepts other → other = value) :
    Decides (some (some value)) accepts := by
  refine ⟨_,rfl,fun other => ⟨?_,?_⟩⟩
  · intro same
    cases Option.some.inj same
    exact yes
  · intro accepted
    rw [only other accepted]

theorem decidesNo (no : ∀ value, ¬accepts value) :
    Decides (some none) accepts :=
  ⟨none,rfl,fun value => ⟨nofun,fun accepted => absurd accepted (no value)⟩⟩

theorem readAt {i : Nat} (inside : i < m.length) : m[i]? = some (m.getD i 0) := by
  simp [List.getElem?_eq_getElem inside]

theorem readLast (inside : m ≠ []) : m.getLast? = some (m.getLast?.getD 0) := by
  rw [List.getLast?_eq_some_getLast inside]
  rfl

theorem stripExact (size : Nat) (long : 4 ≤ m.length) :
    Decides (stripPadding size m) fun body =>
      (Padded m → m.length = size ∧ 1 ≤ padding m ∧ padding m ≤ m.length - 4) ∧
        body = content m := by
  have some_ : m ≠ [] := by
    intro same
    simp [same] at long
  have positive : m.getLast?.getD 0 = 0 ↔ padding m = 0 := by
    rw [padding,← UInt8.toNat_inj]
    rfl
  unfold stripPadding
  rw [readAt (by omega),readLast some_]
  simp only [Option.bind_eq_bind,Option.bind_some,positive]
  split
  · rename_i padded
    split
    · rename_i bad
      refine decidesNo fun body accepted => ?_
      obtain ⟨whole,least,most⟩ := accepted.1 padded
      rcases bad with other | zero | much
      · exact other whole
      · omega
      · exact Nat.not_lt.mpr most much
    · rename_i good
      have here : content m = m.take (m.length - padding m) := if_pos padded
      refine decidesYes ⟨fun _ => ?_,here.symm⟩ fun other accepted => accepted.2.trans here
      unfold padding at good ⊢
      omega
  · rename_i plain
    have here : content m = m := if_neg plain
    exact decidesYes ⟨fun padded => absurd padded plain,here.symm⟩ fun other accepted =>
      accepted.2.trans here

theorem sourcesExact (count : Nat) (body : Bytes) :
    Sources count body ↔ 4 * count ≤ body.length ∧ (4 * count < body.length →
      4 * count + 1 + (body.getD (4 * count) 0).toNat ≤ body.length ∧
        body.length - (4 * count + 1 + (body.getD (4 * count) 0).toNat) ≤ 3) := by
  constructor
  · rintro ⟨ids,reason,rfl,size,none_ | ⟨n,text,fill,rfl,long,short⟩⟩
    · subst none_
      simp [size]
    · have here : (ids ++ n :: (text ++ fill)).getD (4 * count) 0 = n := by
        simp [← size]
      rw [here]
      simp only [List.length_append,List.length_cons]
      omega
  · rintro ⟨room,fits⟩
    refine ⟨body.take (4 * count),body.drop (4 * count),(List.take_append_drop _ _).symm,
      List.length_take_of_le room,?_⟩
    by_cases more : 4 * count < body.length
    · right
      obtain ⟨inside,left⟩ := fits more
      generalize value : body.getD (4 * count) 0 = n at inside left
      have cut : body.drop (4 * count) = n :: body.drop (4 * count + 1) := by
        rw [List.drop_eq_getElem_cons more]
        congr 1
        rw [← value]
        simp [List.getElem?_eq_getElem more]
      refine ⟨n,(body.drop (4 * count + 1)).take n.toNat,(body.drop (4 * count + 1)).drop n.toNat,
        ?_,?_,?_⟩
      · rw [List.take_append_drop,cut]
      · rw [List.length_take_of_le]
        rw [List.length_drop]
        omega
      · simp only [List.length_drop]
        omega
    · left
      exact List.drop_eq_nil_of_le (by omega)

theorem checkExact {body : Bytes} (long : 4 ≤ body.length) :
    Decides (checkBye body) fun bye =>
      (Bye body → Sources (sources body) (body.drop 4)) ∧
        bye = (decide (Bye body) && sources body != 0) := by
  have room := sourcesExact (sources body) (body.drop 4)
  have place : (body.drop 4).getD (4 * sources body) 0 = body.getD (4 + 4 * sources body) 0 := by
    simp [List.getElem?_drop]
  rw [place,List.length_drop] at room
  have count : (body.getD 0 0 &&& 0x1f).toNat = sources body := rfl
  unfold checkBye
  rw [readAt (show 1 < body.length by omega),readAt (show 0 < body.length by omega)]
  simp only [Option.bind_eq_bind,Option.bind_some,count]
  split
  · rename_i bye
    have flag : (decide (Bye body) && sources body != 0) = (sources body != 0) := by
      rw [decide_eq_true (show Bye body from bye),Bool.true_and]
    rw [flag]
    split
    · rename_i short
      refine decidesNo fun value accepted => ?_
      have fits := room.mp (accepted.1 bye)
      omega
    · split
      · rename_i enough more
        rw [readAt more,Option.bind_some]
        split
        · rename_i bad
          refine decidesNo fun value accepted => ?_
          have fits := (room.mp (accepted.1 bye)).2 (by omega)
          omega
        · rename_i good
          refine decidesYes ⟨fun _ => room.mpr ⟨by omega,fun _ => ?_⟩,rfl⟩
            fun other accepted => accepted.2
          omega
      · rename_i enough whole
        exact decidesYes ⟨fun _ => room.mpr ⟨by omega,fun more => by omega⟩,rfl⟩
          fun other accepted => accepted.2
  · rename_i other
    have flag : (decide (Bye body) && sources body != 0) = false := by
      rw [decide_eq_false (show ¬Bye body from other),Bool.false_and]
    rw [flag]
    exact decidesYes ⟨fun bye => absurd bye other,rfl⟩ fun value accepted => accepted.2

theorem getDTake {i : Nat} (inside : i < n) : (m.take n).getD i 0 = m.getD i 0 := by
  rw [List.getD_eq_getElem?_getD,List.getD_eq_getElem?_getD,List.getElem?_take_of_lt inside]

theorem contentStart (long : 4 ≤ m.length) (fits : Padded m → padding m ≤ m.length - 4) :
    4 ≤ (content m).length ∧ ∀ i < 4, (content m).getD i 0 = m.getD i 0 := by
  unfold content
  split
  · rename_i padded
    have most := fits padded
    refine ⟨?_,fun i small => getDTake (by omega)⟩
    rw [List.length_take]
    omega
  · exact ⟨long,fun _ _ => rfl⟩

theorem wordsRead (high low : UInt8) :
    high.toNat <<< 8 ||| low.toNat = high.toNat * 256 + low.toNat := by
  rw [← Nat.shiftLeft_add_eq_or_of_lt low.toNat_lt,Nat.shiftLeft_eq]

theorem firstTake (long : 4 ≤ n) :
    first (packet.take n) = first packet := getDTake (by omega)

theorem wordsTake (long : 4 ≤ n) : words (packet.take n) = words packet := by
  rw [words,getDTake (by omega),getDTake (by omega)]
  rfl

theorem memberTaken {rest : Bytes} (whole : packet = m ++ rest) (member : Member m) :
    m = packet.take ((words packet + 1) * 4) ∧ rest = packet.drop ((words packet + 1) * 4) := by
  have here : m = packet.take m.length := by simp [whole]
  have count : words m = words packet := by
    rw [here]
    exact wordsTake member.header
  have size := member.declared
  rw [count] at size
  rw [← size]
  exact ⟨here,by simp [whole]⟩

theorem decidesThen {β : Type} {read : Option (Option α)} {next : α → Option (Option β)}
    {whole : β → Prop} (head : Decides read accepts)
    (tail : ∀ value, accepts value → Decides (next value) whole)
    (refused : (∀ value, ¬accepts value) → ∀ value, ¬whole value) :
    Decides (unlessBroken read next) whole := by
  obtain ⟨answer,same,exact_⟩ := head
  rw [unlessBroken,same,Option.bind_some]
  cases answer with
  | none => exact decidesNo (refused fun value accepted => nomatch (exact_ value).mpr accepted)
  | some value => exact tail value ((exact_ value).mp rfl)

def Front (packet : Bytes) : Nat × Bool → Prop
  | (size,bye) => ∃ m rest, packet = m ++ rest ∧ m.length = size ∧ Member m ∧
      (Padded m → rest = []) ∧ bye = (decide (Bye m) && sources m != 0)

theorem bodyExact (version : first packet >>> 6 = 2)
    (inside : (words packet + 1) * 4 ≤ packet.length) :
    Decides (unlessBroken
      (stripPadding packet.length (packet.take ((words packet + 1) * 4))) fun member =>
        unlessBroken (checkBye member) fun bye => some (some ((words packet + 1) * 4,bye)))
      (Front packet) := by
  generalize taken : packet.take ((words packet + 1) * 4) = m
  have declared : m.length = (words packet + 1) * 4 := by
    rw [← taken]
    exact List.length_take_of_le (by omega)
  have only : ∀ m' rest, packet = m' ++ rest → Member m' →
      m' = m ∧ rest = packet.drop ((words packet + 1) * 4) := by
    intro m' rest whole member
    rw [← taken]
    exact memberTaken whole member
  refine decidesThen (stripExact packet.length (show 4 ≤ m.length by omega)) ?_ ?_
  · rintro body ⟨fits,same⟩
    subst same
    obtain ⟨header,starts⟩ := contentStart (show 4 ≤ m.length by omega) fun padded =>
      (fits padded).2.2
    have bye : Bye (content m) ↔ Bye m := by
      rw [Bye,starts 1 (by decide)]
      rfl
    have count : sources (content m) = sources m := by
      rw [sources,first,starts 0 (by decide)]
      rfl
    refine decidesThen (checkExact header) ?_ ?_
    · rintro flag ⟨reason,same⟩
      rw [bye,count] at reason
      simp only [bye,count] at same
      have member : Member m := by
        refine ⟨by omega,?_,?_,fun padded => (fits padded).2,reason⟩
        · rw [← taken,firstTake (by omega)]
          exact version
        · rw [declared,← taken,wordsTake (by omega)]
      have whole : packet = m ++ packet.drop ((words packet + 1) * 4) := by
        rw [← taken,List.take_append_drop]
      refine decidesYes ⟨m,_,whole,declared,member,fun padded => ?_,same⟩ ?_
      · exact List.drop_eq_nil_of_le (Nat.le_of_eq (by rw [← declared,(fits padded).1]))
      · rintro ⟨size,other⟩ ⟨m',rest,whole',size',member',last',flag'⟩
        obtain ⟨rfl,-⟩ := only m' rest whole' member'
        exact Prod.ext (size'.symm.trans declared) (flag'.trans same.symm)
    · rintro refused value ⟨m',rest,whole,-,member,last,flag⟩
      obtain ⟨rfl,-⟩ := only m' rest whole member
      refine refused _ ⟨fun yes => ?_,rfl⟩
      rw [count]
      exact member.bye (bye.mp yes)
  · rintro refused value ⟨m',rest,whole,-,member,last,-⟩
    obtain ⟨same,behind⟩ := only m' rest whole member
    subst same
    refine refused (content m') ⟨fun padded => ⟨?_,member.padded padded⟩,rfl⟩
    rw [whole,last padded,List.append_nil]

theorem takeExact (packet : Bytes) : Decides (takeMember packet) (Front packet) := by
  unfold takeMember
  split
  · rename_i short
    refine decidesNo fun value accepted => ?_
    obtain ⟨m,rest,whole,-,member,-⟩ := accepted
    have size := congrArg List.length whole
    rw [List.length_append] at size
    have header := member.header
    omega
  rename_i long
  have start : packet.getD 0 0 = first packet := rfl
  have count : (packet.getD 2 0).toNat * 256 + (packet.getD 3 0).toNat = words packet := rfl
  rw [readAt (show 0 < packet.length by omega),readAt (show 2 < packet.length by omega),
    readAt (show 3 < packet.length by omega)]
  simp only [Option.bind_eq_bind,Option.bind_some,wordsRead,start,count]
  split
  · rename_i other
    refine decidesNo fun value accepted => ?_
    obtain ⟨m,rest,whole,-,member,-⟩ := accepted
    have version := member.version
    rw [(memberTaken whole member).1,firstTake (by omega)] at version
    exact other version
  split
  · rename_i version much
    refine decidesNo fun value accepted => ?_
    obtain ⟨m,rest,whole,-,member,-⟩ := accepted
    have size := congrArg List.length whole
    rw [List.length_append] at size
    have declared := member.declared
    rw [(memberTaken whole member).1,wordsTake (by omega)] at declared
    rw [List.length_take] at declared
    omega
  rename_i version inside
  exact bodyExact (by simpa using version) (by omega)

theorem flattenEmpty (each : ∀ m ∈ members, Member m) (empty : members.flatten = []) :
    members = [] := by
  cases members with
  | nil => rfl
  | cons m rest =>
    have header := (each m List.mem_cons_self).header
    rw [List.flatten_cons,List.append_eq_nil_iff] at empty
    rw [empty.1] at header
    contradiction

theorem membersCons {rest : Bytes} (member : Member m) (last : Padded m → rest = [])
    (behind : Members rest members) : Members (m ++ rest) (m :: members) := by
  refine ⟨by rw [behind.whole,List.flatten_cons],?_,?_⟩
  · intro other inside
    rcases List.mem_cons.mp inside with same | later
    · rw [same]
      exact member
    · exact behind.member other later
  · intro other inside
    cases members with
    | nil => cases inside
    | cons next members =>
      rw [List.dropLast_cons_cons] at inside
      rcases List.mem_cons.mp inside with same | later
      · subst same
        intro padded
        have empty := last padded
        rw [behind.whole] at empty
        cases flattenEmpty behind.member empty
      · exact behind.plain other later

theorem membersTail (all : Members packet (m :: members)) :
    packet = m ++ members.flatten ∧ Member m ∧ (Padded m → members.flatten = []) ∧
      Members members.flatten members := by
  refine ⟨by rw [all.whole,List.flatten_cons],all.member m List.mem_cons_self,?_,rfl,
    fun other inside => all.member other (List.mem_cons_of_mem _ inside),?_⟩
  · intro padded
    cases members with
    | nil => rfl
    | cons next members =>
      exact absurd padded (all.plain m (by rw [List.dropLast_cons_cons]; exact List.mem_cons_self))
  · intro other inside
    cases members with
    | nil => cases inside
    | cons next members =>
      exact all.plain other (by
        rw [List.dropLast_cons_cons]
        exact List.mem_cons_of_mem _ inside)

theorem leavingCons :
    Leaving (m :: members) ↔ (decide (Bye m) && sources m != 0) = true ∨ Leaving members := by
  unfold Leaving
  constructor
  · rintro ⟨other,inside,bye,some_⟩
    rcases List.mem_cons.mp inside with rfl | later
    · left
      simp [bye,some_]
    · exact .inr ⟨other,later,bye,some_⟩
  · rintro (here | ⟨other,inside,both⟩)
    · simp only [Bool.and_eq_true,decide_eq_true_eq,bne_iff_ne] at here
      exact ⟨m,List.mem_cons_self,here⟩
    · exact ⟨other,List.mem_cons_of_mem _ inside,both⟩

theorem walkExact (fuel : Nat) : ∀ (packet : Bytes) (received : Bool), packet.length < fuel →
    ∃ rest flag, walk fuel packet received = some (rest,flag) ∧
      ((rest = [] ∧ flag = true) ↔
        ∃ members, Members packet members ∧ (received = true ∨ Leaving members)) := by
  induction fuel with
  | zero =>
    intro packet received short
    omega
  | succ fuel ih =>
    intro packet received short
    unfold walk
    split
    · rename_i empty
      subst empty
      refine ⟨[],received,rfl,?_⟩
      constructor
      · rintro ⟨-,flag⟩
        exact ⟨[],⟨rfl,nofun,nofun⟩,.inl flag⟩
      · rintro ⟨members,all,flag | ⟨m,inside,-⟩⟩
        · exact ⟨rfl,flag⟩
        · cases flattenEmpty all.member all.whole.symm
          cases inside
    · rename_i some_
      obtain ⟨answer,read,exact_⟩ := takeExact packet
      rw [read]
      have front : ∀ {m : Bytes} {members : List Bytes}, Members packet (m :: members) →
          answer = some (m.length,decide (Bye m) && sources m != 0) := by
        intro m members all
        obtain ⟨whole,member,last,-⟩ := membersTail all
        exact (exact_ _).mpr ⟨m,_,whole,rfl,member,last,rfl⟩
      cases answer with
      | none =>
        refine ⟨packet,received,rfl,?_⟩
        constructor
        · rintro ⟨empty,-⟩
          exact absurd empty some_
        · rintro ⟨members,all,-⟩
          cases members with
          | nil => exact absurd all.whole some_
          | cons m members => cases front all
      | some accepted =>
        obtain ⟨size,bye⟩ := accepted
        obtain ⟨m,rest,rfl,rfl,member,last,rfl⟩ := (exact_ _).mp rfl
        have header := member.header
        rw [List.length_append] at short
        obtain ⟨left,flag,done,same⟩ := ih rest
          (received || (decide (Bye m) && sources m != 0)) (by omega)
        refine ⟨left,flag,?_,?_⟩
        · simpa using done
        · rw [same]
          constructor
          · rintro ⟨members,behind,flag⟩
            refine ⟨m :: members,membersCons member last behind,?_⟩
            rw [leavingCons]
            rw [Bool.or_eq_true,or_assoc] at flag
            exact flag
          · rintro ⟨members,all,flag⟩
            cases members with
            | nil => exact absurd all.whole some_
            | cons m' members =>
              have here := front all
              obtain ⟨whole,-,-,behind⟩ := membersTail all
              have size : m.length = m'.length := congrArg Prod.fst (Option.some.inj here)
              obtain ⟨rfl,rfl⟩ := List.append_inj whole size
              refine ⟨members,behind,?_⟩
              rw [leavingCons] at flag
              rw [Bool.or_eq_true,or_assoc]
              exact flag

def Compound (bytes : Bytes) : Prop :=
  ∃ members, members ≠ [] ∧ Members bytes members ∧ Leaving members

theorem walkCompound (bytes : Bytes) : ∃ rest received,
    walk (bytes.length + 1) bytes false = some (rest,received) ∧
      ((rest = [] ∧ received = true) ↔ Compound bytes) := by
  obtain ⟨rest,received,done,same⟩ := walkExact (bytes.length + 1) bytes false (by omega)
  refine ⟨rest,received,done,same.trans ⟨?_,?_⟩⟩
  · rintro ⟨members,all,never | leaving⟩
    · cases never
    · have some_ : members ≠ [] := by
        obtain ⟨m,inside,-⟩ := leaving
        exact List.ne_nil_of_mem inside
      exact ⟨members,some_,all,leaving⟩
  · rintro ⟨members,-,all,leaving⟩
    exact ⟨members,all,.inr leaving⟩

theorem walkReset (bytes : Bytes) :
    walk (bytes.length + 1) bytes false = some ([],true) ↔ Compound bytes := by
  obtain ⟨rest,received,done,same⟩ := walkCompound bytes
  rw [done,← same,Option.some.injEq,Prod.mk.injEq]

section Readings
variable {Peer : Type} [DecidableEq Peer] (remote : Peer)

theorem readFrom (bytes : Bytes) (rest : List (Read Peer)) :
    readRtcp remote (.datagram remote bytes :: rest) = .reset ↔
      Compound bytes ∨ readRtcp remote rest = .reset := by
  rw [readRtcp,if_neg (by simp)]
  split
  · rename_i here
    exact ⟨fun _ => .inl ((walkReset bytes).mp here),fun _ => rfl⟩
  · rename_i other
    rw [walkReset] at other
    exact ⟨.inr,fun either => either.resolve_left other⟩

theorem readReset (reads : List (Read Peer)) : readRtcp remote reads = .reset ↔
    ∃ before bytes after, reads = before ++ .datagram remote bytes :: after ∧
      (∀ read ∈ before, read ≠ .failed ∧ read ≠ .stopped) ∧ Compound bytes := by
  induction reads with
  | nil => simp [readRtcp]
  | cons read reads ih =>
    constructor
    · intro ended
      cases read with
      | failed => cases ended
      | stopped => cases ended
      | datagram peer bytes =>
        have later : readRtcp remote reads = .reset → ∃ before bytes' after,
            .datagram peer bytes :: reads = before ++ .datagram remote bytes' :: after ∧
              (∀ read ∈ before, read ≠ .failed ∧ read ≠ .stopped) ∧ Compound bytes' := by
          intro ended
          obtain ⟨before,bytes',after,rfl,plain,compound⟩ := ih.mp ended
          refine ⟨.datagram peer bytes :: before,bytes',after,rfl,?_,compound⟩
          intro other inside
          rcases List.mem_cons.mp inside with rfl | behind
          · exact ⟨nofun,nofun⟩
          · exact plain other behind
        by_cases same : peer = remote
        · subst same
          rcases (readFrom peer bytes reads).mp ended with compound | ended
          · exact ⟨[],bytes,reads,rfl,nofun,compound⟩
          · exact later ended
        · rw [readRtcp,if_pos same] at ended
          exact later ended
    · rintro ⟨before,bytes,after,same,plain,compound⟩
      cases before with
      | nil =>
        obtain ⟨rfl,rfl⟩ := List.cons.inj same
        exact (readFrom remote bytes _).mpr (.inl compound)
      | cons head before =>
        obtain ⟨rfl,rfl⟩ := List.cons.inj same
        have ended := ih.mpr ⟨before,bytes,after,rfl,
          fun other inside => plain other (List.mem_cons_of_mem _ inside),compound⟩
        cases read with
        | failed => exact absurd rfl (plain _ List.mem_cons_self).1
        | stopped => exact absurd rfl (plain _ List.mem_cons_self).2
        | datagram peer bytes' =>
          by_cases same : peer = remote
          · subst same
            exact (readFrom peer bytes' _).mpr (.inr ended)
          · rw [readRtcp,if_pos same]
            exact ended

theorem readForeign {peer : Peer} (other : peer ≠ remote) (bytes : Bytes)
    (before after : List (Read Peer)) :
    readRtcp remote (before ++ .datagram peer bytes :: after) =
      readRtcp remote (before ++ after) := by
  induction before with
  | nil => rw [List.nil_append,readRtcp,if_pos other,List.nil_append]
  | cons read before ih =>
    cases read with
    | failed => rfl
    | stopped => rfl
    | datagram from_ bytes' =>
      simp only [List.cons_append,readRtcp]
      rw [ih]

theorem byeRecognition :
    (∀ bytes : Bytes, ∃ rest received,
      walk (bytes.length + 1) bytes false = some (rest,received) ∧
        ((rest = [] ∧ received = true) ↔ Compound bytes)) ∧
    (∀ reads : List (Read Peer), readRtcp remote reads = .reset ↔
      ∃ before bytes after, reads = before ++ .datagram remote bytes :: after ∧
        (∀ read ∈ before, read ≠ .failed ∧ read ≠ .stopped) ∧ Compound bytes) ∧
    ∀ peer, peer ≠ remote → ∀ bytes (before after : List (Read Peer)),
      readRtcp remote (before ++ .datagram peer bytes :: after) =
        readRtcp remote (before ++ after) :=
  ⟨walkCompound,readReset remote,fun _ other bytes before after =>
    readForeign remote other bytes before after⟩

end Readings

example : readRtcp 1 [.datagram 2 [0x81,203,0,1,0,0,0,7],.datagram 1 [0x80,201,0,1,0,0,0,7],
    .datagram 1 [0x80,201,0,1,0,0,0,7,0x81,203,0,2,0,0,0,7,3,0x62,0x79,0x65]] = .reset := by
  decide

end MediaServer.RtcpBye
