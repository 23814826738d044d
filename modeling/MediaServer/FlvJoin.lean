import MediaServer.Flv

/-! A player that joins late. Each tag carries the headers of its moment, and the player
reads those of the first tag it takes; from there on it has every tag, so at any media tag it
has the headers a player from the start would have. -/
namespace MediaServer.Flv
open Bytes

section
variable {sequenceHeader : TagType → Bytes → Bool}

def Out.header (sequenceHeader : TagType → Bytes → Bool) (out : Out) : Bool :=
  sequenceHeader out.type out.data

def lastHeader (sequenceHeader : TagType → Bytes → Bool) (kind : TagType) (outs : List Out) :
    Option Bytes :=
  ((outs.filter fun out => out.header sequenceHeader && decide (out.type = kind)).getLast?).map
    (·.data)

def headersAfter (sequenceHeader : TagType → Bytes → Bool) (packets : List Packet) : Headers :=
  packets.foldl (Headers.note sequenceHeader) .none

theorem lastHeaderAppend (kind : TagType) (a b : List Out) :
    lastHeader sequenceHeader kind (a ++ b) =
      (lastHeader sequenceHeader kind b).or (lastHeader sequenceHeader kind a) := by
  simp only [lastHeader,List.filter_append,List.getLast?_append]
  cases (b.filter fun out => out.header sequenceHeader && decide (out.type = kind)).getLast? with
  | none => rfl
  | some out => rfl

variable {kind : TagType} {accept : Out → Bool} {packets skipped : List Packet} {key : Packet}
  {timestamp : Nat}

theorem lastHeaderHeader {outs : List Out} {data : Bytes}
    (last : lastHeader sequenceHeader kind outs = some data) : sequenceHeader kind data = true := by
  obtain ⟨out,found,same⟩ := Option.map_eq_some_iff.mp last
  have member := List.mem_of_getLast? found
  rw [List.mem_filter,Bool.and_eq_true,decide_eq_true_eq] at member
  rw [← same,← member.2.2]
  exact member.2.1

theorem putGet (headers : Headers) (data : Bytes) (kind type : TagType) :
    (headers.put data type).get kind = if type = kind then some data else headers.get kind := by
  cases type <;> cases kind <;> rfl

theorem noteGet (headers : Headers) (p : Packet) (kind : TagType) :
    (headers.note sequenceHeader p).get kind =
      (lastHeader sequenceHeader kind [p.out]).or (headers.get kind) := by
  have same : p.out.header sequenceHeader = p.header sequenceHeader := rfl
  cases header : p.header sequenceHeader with
  | false => simp [Headers.note,lastHeader,same,header]
  | true =>
    simp only [Headers.note,header,if_true,putGet]
    split
    · rename_i own
      subst own
      simp [lastHeader,same,header]
      simp [Packet.out]
    · rename_i other
      have away : p.out.type ≠ kind := other
      simp [lastHeader,same,header,away]

theorem foldGet (headers : Headers) (packets : List Packet) (kind : TagType) :
    (packets.foldl (Headers.note sequenceHeader) headers).get kind =
      (lastHeader sequenceHeader kind (packets.map Packet.out)).or (headers.get kind) := by
  induction packets generalizing headers with
  | nil => rfl
  | cons p rest ih =>
    have split := @lastHeaderAppend sequenceHeader kind [p.out]
      (rest.map Packet.out)
    simp only [List.foldl_cons,ih,noteGet,List.map_cons]
    rw [List.singleton_append] at split
    rw [split,Option.or_assoc]

theorem headersAfterGet (packets : List Packet) (kind : TagType) :
    (headersAfter sequenceHeader packets).get kind =
      lastHeader sequenceHeader kind (packets.map Packet.out) := by
  rw [headersAfter,foldGet]
  cases kind <;> simp [Headers.none,Headers.get]

theorem publishAppend (headers : Headers) (a b : List Packet) :
    publish sequenceHeader headers (a ++ b) = publish sequenceHeader headers a ++
      publish sequenceHeader (a.foldl (Headers.note sequenceHeader) headers) b := by
  induction a generalizing headers with
  | nil => rfl
  | cons p rest ih =>
    simp only [List.cons_append,publish,ih,List.foldl_cons]
    rfl

theorem publishOuts (headers : Headers) (packets : List Packet) :
    (publish sequenceHeader headers packets).map Tag.out = packets.map Packet.out := by
  induction packets generalizing headers with
  | nil => rfl
  | cons p rest ih =>
    simp only [publish,List.map_cons,ih]
    rfl

theorem publishLength (headers : Headers) (packets : List Packet) :
    (publish sequenceHeader headers packets).length = packets.length := by
  simpa using congrArg List.length (@publishOuts sequenceHeader headers packets)

def delivered (sequenceHeader : TagType → Bytes → Bool) (before seen after : List Packet) :
    List Tag :=
  ((publish sequenceHeader .none (before ++ seen ++ after)).drop before.length).take seen.length

theorem deliveredPublish (before seen after : List Packet) :
    delivered sequenceHeader before seen after =
      publish sequenceHeader (headersAfter sequenceHeader before) seen := by
  rw [delivered,List.append_assoc,publishAppend,publishAppend]
  have first := @publishLength sequenceHeader .none before
  have second := @publishLength sequenceHeader
    (before.foldl (Headers.note sequenceHeader) .none) seen
  rw [← first,List.drop_left,← second,List.take_left]
  rfl

theorem offerAll (writes : ∀ out, accept out = true) (outs : List Out) :
    offer accept outs = (outs,true) := by
  induction outs with
  | nil => rfl
  | cons out rest ih => simp [offer,writes,ih]

def Tag.writes (tag : Tag) (started : Bool) : List Out :=
  if started then [tag.out]
  else if tag.keyFrame then tag.headers.outs tag.timestamp ++ [tag.out]
  else []

def written (started : Bool) : List Tag → List Out
  | [] => []
  | tag :: rest => tag.writes started ++ written (started || tag.keyFrame) rest

section
variable {σ : Type} {onTag : σ → Tag → σ} {present started : σ → Bool} (output : σ → List Out)

theorem foldWrites
    (one : ∀ s tag, present s = true → present (onTag s tag) = true ∧
      started (onTag s tag) = (started s || tag.keyFrame) ∧
      output (onTag s tag) = output s ++ tag.writes (started s))
    (tags : List Tag) {s : σ} (there : present s = true) :
    output (tags.foldl onTag s) = output s ++ written (started s) tags := by
  induction tags generalizing s with
  | nil => simp [written]
  | cons tag rest ih =>
    obtain ⟨still,begun,more⟩ := one s tag there
    rw [List.foldl_cons,ih still,begun,more,written,List.append_assoc]

end

theorem rtmpTag (writes : ∀ out, accept out = true) (s : RtmpPlaySession) (tag : Tag)
    (there : s.stream = true) :
    (s.onFlvTag accept tag).stream = true ∧
      (s.onFlvTag accept tag).started = (s.started || tag.keyFrame) ∧
      (s.onFlvTag accept tag).taken = s.taken ++ tag.writes s.started := by
  cases started : s.started with
  | true =>
    simp [RtmpPlaySession.onFlvTag,RtmpPlaySession.send,offerAll writes,Tag.writes,there,started]
  | false =>
    cases key : tag.keyFrame with
    | true =>
      simp [RtmpPlaySession.onFlvTag,RtmpPlaySession.send,offerAll writes,Tag.writes,there,started,
        key]
    | false => simp [RtmpPlaySession.onFlvTag,Tag.writes,there,started,key]

theorem httpTag {room : List (List Out) → List Out → Bool} (writes : ∀ out, accept out = true)
    (fits : ∀ queue data, room queue data = true) (s : HttpFlvSession) (tag : Tag)
    (there : s.output = true) :
    (s.onFlvTag accept room tag).output = true ∧
      (s.onFlvTag accept room tag).started = (s.started || tag.keyFrame) ∧
      (s.onFlvTag accept room tag).outputQueue.flatten =
        s.outputQueue.flatten ++ tag.writes s.started := by
  cases started : s.started with
  | true =>
    simp [HttpFlvSession.onFlvTag,HttpFlvSession.write,HttpFlvSession.input,HttpFlvSession.enqueue,
      offerAll writes,Tag.writes,there,started,fits]
  | false =>
    cases key : tag.keyFrame with
    | true =>
      simp [HttpFlvSession.onFlvTag,HttpFlvSession.write,HttpFlvSession.input,
        HttpFlvSession.enqueue,offerAll writes,Tag.writes,there,started,key,fits]
    | false => simp [HttpFlvSession.onFlvTag,Tag.writes,there,started,key]

theorem writtenStarted (tags : List Tag) : written true tags = tags.map Tag.out := by
  induction tags with
  | nil => rfl
  | cons tag rest ih => simp [written,Tag.writes,ih]

theorem writtenNone (headers : Headers) (none_ : ∀ p ∈ packets, p.starts sequenceHeader = false) :
    written false (publish sequenceHeader headers packets) = [] := by
  induction packets generalizing headers with
  | nil => rfl
  | cons p rest ih =>
    have quiet : (onPacket sequenceHeader headers p).2.keyFrame = false := none_ p List.mem_cons_self
    simp only [publish,written,Tag.writes,quiet]
    exact ih _ fun q member => none_ q (List.mem_cons_of_mem _ member)

theorem writtenSkip (headers : Headers) (none_ : ∀ p ∈ skipped, p.starts sequenceHeader = false)
    (rest : List Packet) :
    written false (publish sequenceHeader headers (skipped ++ rest)) =
      written false (publish sequenceHeader (skipped.foldl (Headers.note sequenceHeader) headers) rest) := by
  induction skipped generalizing headers with
  | nil => rfl
  | cons p later ih =>
    have quiet : (onPacket sequenceHeader headers p).2.keyFrame = false := none_ p List.mem_cons_self
    simp only [List.cons_append,publish,written,Tag.writes,quiet,List.foldl_cons]
    exact ih _ fun q member => none_ q (List.mem_cons_of_mem _ member)

theorem writtenFrom {headers : Headers} (starts : key.starts sequenceHeader = true)
    (rest : List Packet) :
    written false (publish sequenceHeader headers (key :: rest)) =
      headers.outs key.timestamp ++ (key :: rest).map Packet.out := by
  have plain : key.header sequenceHeader = false := by
    unfold Packet.starts at starts
    simpa using (Bool.and_eq_true_iff.mp starts).1
  have same : headers.note sequenceHeader key = headers := by simp [Headers.note,plain]
  have first : (onPacket sequenceHeader headers key).2.keyFrame = true := starts
  simp only [publish,written,Tag.writes,first,Bool.false_or,writtenStarted,publishOuts]
  simp [onPacket,same,Tag.out,Packet.out]

theorem headerOuts (packets : List Packet) (timestamp : Nat) :
    (headersAfter sequenceHeader packets).outs timestamp =
      ((lastHeader sequenceHeader .video (packets.map Packet.out)).map
        fun data => (⟨.video,data,timestamp⟩ : Out)).toList ++
      ((lastHeader sequenceHeader .audio (packets.map Packet.out)).map
        fun data => (⟨.audio,data,timestamp⟩ : Out)).toList := by
  rw [← headersAfterGet,← headersAfterGet]
  rfl

theorem lastOfOption {type : TagType} {found : Option Bytes}
    (header : ∀ data, found = some data → sequenceHeader type data = true) :
    lastHeader sequenceHeader kind ((found.map fun data => (⟨type,data,timestamp⟩ : Out)).toList) =
      if type = kind then found else none := by
  cases found with
  | none => simp [lastHeader]
  | some data =>
    have known := header data rfl
    by_cases same : type = kind
    · subst same
      simp [lastHeader,Out.header,known]
    · simp [lastHeader,Out.header,known,same]

theorem lastOfHeaders (packets : List Packet) (timestamp : Nat) (kind : TagType) :
    lastHeader sequenceHeader kind ((headersAfter sequenceHeader packets).outs timestamp) =
      lastHeader sequenceHeader kind (packets.map Packet.out) := by
  rw [headerOuts,lastHeaderAppend,lastOfOption fun _ last => lastHeaderHeader last,
    lastOfOption fun _ last => lastHeaderHeader last]
  cases kind <;> simp

structure JoinsLate (sequenceHeader : TagType → Bytes → Bool) (before seen : List Packet)
    (output : List Out) : Prop where
  silent : (∀ p ∈ seen, p.starts sequenceHeader = false) → output = []
  begins : ∀ skipped key rest, seen = skipped ++ key :: rest →
    (∀ p ∈ skipped, p.starts sequenceHeader = false) → key.starts sequenceHeader = true →
    output =
      ((lastHeader sequenceHeader .video ((before ++ skipped).map Packet.out)).map
        fun data => (⟨.video,data,key.timestamp⟩ : Out)).toList ++
      ((lastHeader sequenceHeader .audio ((before ++ skipped).map Packet.out)).map
        fun data => (⟨.audio,data,key.timestamp⟩ : Out)).toList ++
      (key :: rest).map Packet.out
  current : ∀ earlier media later kind, output = earlier ++ media :: later →
    media.header sequenceHeader = false →
    ∃ past rest, seen = past ++ rest ∧ rest.map Packet.out = media :: later ∧
      lastHeader sequenceHeader kind earlier =
        lastHeader sequenceHeader kind ((before ++ past).map Packet.out)

theorem headerOutsHeader {out : Out}
    (member : out ∈ (headersAfter sequenceHeader packets).outs timestamp) :
    out.header sequenceHeader = true := by
  rw [headerOuts,List.mem_append] at member
  rcases member with video | audio
  · obtain ⟨data,last,same⟩ := Option.map_eq_some_iff.mp (Option.mem_toList.mp video)
    subst same
    exact lastHeaderHeader last
  · obtain ⟨data,last,same⟩ := Option.map_eq_some_iff.mp (Option.mem_toList.mp audio)
    subst same
    exact lastHeaderHeader last

theorem firstStart (sequenceHeader : TagType → Bytes → Bool) (seen : List Packet) :
    (∀ p ∈ seen, p.starts sequenceHeader = false) ∨
      ∃ skipped key rest, seen = skipped ++ key :: rest ∧
        (∀ p ∈ skipped, p.starts sequenceHeader = false) ∧ key.starts sequenceHeader = true := by
  cases found : seen.find? (Packet.starts sequenceHeader) with
  | none => exact .inl fun p member => by simpa using List.find?_eq_none.mp found p member
  | some key =>
    obtain ⟨starts,skipped,rest,split,quiet⟩ := List.find?_eq_some_iff_append.mp found
    exact .inr ⟨skipped,key,rest,split,fun p member => by simpa using quiet p member,starts⟩

theorem writtenSplit (before skipped : List Packet) (rest : List Packet)
    (quiet : ∀ p ∈ skipped, p.starts sequenceHeader = false)
    (starts : key.starts sequenceHeader = true) :
    written false (publish sequenceHeader (headersAfter sequenceHeader before)
        (skipped ++ key :: rest)) =
      (headersAfter sequenceHeader (before ++ skipped)).outs key.timestamp ++
        (key :: rest).map Packet.out := by
  rw [writtenSkip _ quiet,writtenFrom starts,headersAfter,headersAfter,List.foldl_append]

theorem lastCurrent (before skipped past : List Packet) (timestamp : Nat) (kind : TagType) :
    lastHeader sequenceHeader kind
        ((headersAfter sequenceHeader (before ++ skipped)).outs timestamp ++ past.map Packet.out) =
      lastHeader sequenceHeader kind ((before ++ (skipped ++ past)).map Packet.out) := by
  have parts : (before ++ (skipped ++ past)).map Packet.out =
      (before ++ skipped).map Packet.out ++ past.map Packet.out := by simp
  rw [parts,lastHeaderAppend,lastHeaderAppend,lastOfHeaders]

theorem writtenCurrent {before rest : List Packet} {earlier later : List Out} {media : Out}
    (kind : TagType)
    (split : (headersAfter sequenceHeader (before ++ skipped)).outs timestamp ++
      rest.map Packet.out = earlier ++ media :: later)
    (plain : media.header sequenceHeader = false) :
    ∃ past next, rest = past ++ next ∧ next.map Packet.out = media :: later ∧
      lastHeader sequenceHeader kind earlier =
        lastHeader sequenceHeader kind ((before ++ (skipped ++ past)).map Packet.out) := by
  rcases List.append_eq_append_iff.mp split with ⟨middle,front,back⟩ | ⟨middle,front,back⟩
  · obtain ⟨past,next,parts,first,second⟩ := List.map_eq_append_iff.mp back
    refine ⟨past,next,parts,second,?_⟩
    rw [front,← first]
    exact lastCurrent before skipped past timestamp kind
  · cases middle with
    | nil =>
      refine ⟨[],rest,rfl,back.symm,?_⟩
      have same := @lastCurrent sequenceHeader before skipped [] timestamp kind
      rw [front] at same
      simpa using same
    | cons head tail =>
      have member : media ∈ (headersAfter sequenceHeader (before ++ skipped)).outs timestamp := by
        rw [front]
        cases back
        simp
      have header := headerOutsHeader member
      rw [plain] at header
      contradiction

theorem joinsLate (before seen : List Packet) :
    JoinsLate sequenceHeader before seen
      (written false (publish sequenceHeader (headersAfter sequenceHeader before) seen)) := by
  refine ⟨fun quiet => writtenNone _ quiet,?_,?_⟩
  · intro skipped key rest split quiet starts
    subst split
    rw [writtenSplit before skipped rest quiet starts,headerOuts]
  · intro earlier media later kind output plain
    rcases firstStart sequenceHeader seen with quiet | ⟨skipped,key,rest,split,quiet,starts⟩
    · rw [writtenNone _ quiet] at output
      simp at output
    · subst split
      rw [writtenSplit before skipped rest quiet starts] at output
      obtain ⟨past,next,parts,tail,same⟩ := writtenCurrent kind output plain
      exact ⟨skipped ++ past,next,by rw [parts,List.append_assoc],tail,same⟩

theorem lateJoiner {accept : Out → Bool} {room : List (List Out) → List Out → Bool}
    (writes : ∀ out, accept out = true) (fits : ∀ queue data, room queue data = true)
    (before seen after : List Packet) :
    JoinsLate sequenceHeader before seen
        ((delivered sequenceHeader before seen after).foldl (RtmpPlaySession.onFlvTag accept)
          .joined).taken ∧
      JoinsLate sequenceHeader before seen
        ((delivered sequenceHeader before seen after).foldl (HttpFlvSession.onFlvTag accept room)
          .joined).outputQueue.flatten := by
  rw [deliveredPublish]
  have joins := @joinsLate sequenceHeader before seen
  constructor
  · rw [foldWrites RtmpPlaySession.taken (rtmpTag writes) _ rfl]
    exact joins
  · rw [foldWrites (fun s : HttpFlvSession => s.outputQueue.flatten) (httpTag writes fits) _ rfl]
    exact joins

end

def zeroHeader (_ : TagType) (data : Bytes) : Bool := data.head? == some 0

def sampleBefore : List Packet :=
  [⟨.video,[0,1],0,false,true⟩,⟨.audio,[0,2],0,false,true⟩,⟨.video,[7],0,true,true⟩,
    ⟨.video,[0,3],10,true,true⟩]

def sampleSeen : List Packet :=
  [⟨.audio,[8],20,false,true⟩,⟨.video,[9],30,true,true⟩,⟨.audio,[0,4],40,false,true⟩,
    ⟨.audio,[5],50,false,true⟩]

theorem sampleJoins :
    ((delivered zeroHeader sampleBefore sampleSeen []).foldl
        (RtmpPlaySession.onFlvTag fun _ => true) .joined).taken =
      [⟨.video,[0,3],30⟩,⟨.audio,[0,2],30⟩,⟨.video,[9],30⟩,⟨.audio,[0,4],40⟩,⟨.audio,[5],50⟩] :=
  (@lateJoiner zeroHeader (fun _ => true) (fun _ _ => true) (fun _ => rfl) (fun _ _ => rfl)
    sampleBefore sampleSeen []).1.begins [⟨.audio,[8],20,false,true⟩] _ _ rfl (by decide) (by decide)

end MediaServer.Flv
