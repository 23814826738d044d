import MediaServer.Bytes
import MediaServer.Controller

/-! media/gb28181/gb28181_audio_session.cpp as its worker sees it: each event is one task or one
resumption of a coroutine on that worker, with the outcome of what it waited for. The registry
may change between any two of them. -/
namespace MediaServer.TalkUpload
open Controller

/- The token of a configure request; handle_gb28181_audio_request refuses an empty one. -/
structure UploadToken where
  text : Bytes
  filled : text ≠ []
  deriving DecidableEq, Repr

inductive Entry where
  | this | other | absent
  deriving DecidableEq, Repr

inductive Phase where
  | handshake | reading | ended
  deriving DecidableEq, Repr

structure Session where
  started : Bool
  sender : Bool
  uploadToken : Bytes
  upload : Option Nat
  phase : Phase
  entry : Entry
  posted : Nat
  deriving DecidableEq, Repr

def Session.made (entry : Entry) : Session := ⟨false,false,[],none,.ended,entry,0⟩

structure Message where
  error : Bool
  cancelled : Bool
  text : Bool
  data : Bytes
  deriving DecidableEq, Repr

inductive Event where
  | startup (subscribed : Bool)
  | configure (token : UploadToken) (stopping peerSet : Bool)
  | run (connection : Nat) (token : Bytes)
  | accepted (connection : Nat) (error cancelled : Bool)
  | read (connection : Nat) (message : Message)
  | shutdown
  | safeShutdown
  | registry (entry : Entry)
  deriving DecidableEq, Repr

inductive Effect where
  | configured (token : Bytes)
  | admitted (connection : Nat) (token : Bytes)
  | forbidden (connection : Nat)
  | inputAudio (connection : Nat) (samples : Bytes)
  deriving DecidableEq, Repr

def Entry.remove : Entry → Entry
  | .this => .absent
  | entry => entry

def Session.shutdown (s : Session) : Session := {s with posted := s.posted + 1}

def configure (s : Session) (token : Bytes) (stopping peerSet : Bool) : Session × List Effect :=
  if !s.sender || !s.uploadToken.isEmpty || s.upload.isSome || stopping || s.entry ≠ .this then
    (s,[])
  else if !peerSet then ({s with entry := s.entry.remove}.shutdown,[])
  else ({s with uploadToken := token},[.configured token])

def run (s : Session) (connection : Nat) (token : Bytes) : Session × List Effect :=
  if !s.sender || s.uploadToken.isEmpty || token ≠ s.uploadToken || s.upload.isSome ||
      s.entry ≠ .this then
    (s,[.forbidden connection])
  else
    ({s with uploadToken := [], upload := some connection, phase := .handshake},
      [.admitted connection token])

def afterAccept (s : Session) (error cancelled : Bool) : Session :=
  if error || !s.sender || cancelled then {s with phase := .ended}.shutdown
  else {s with phase := .reading}

def afterRead (s : Session) (connection : Nat) (message : Message) : Session × List Effect :=
  if message.error || !s.sender || message.cancelled || message.text ||
      message.data.length ≠ 160 then
    ({s with phase := .ended}.shutdown,[])
  else (s,[.inputAudio connection message.data])

def safeShutdown (s : Session) : Session :=
  {s with entry := s.entry.remove, uploadToken := [], sender := false}

def step (s : Session) : Event → Session × List Effect
  | .startup subscribed =>
    if s.started then (s,[]) else ({s with started := true, sender := subscribed},[])
  | .configure token stopping peerSet => configure s token.text stopping peerSet
  | .run connection token => run s connection token
  | .accepted connection error cancelled =>
    if s.upload = some connection && s.phase = .handshake then (afterAccept s error cancelled,[])
    else (s,[])
  | .read connection message =>
    if s.upload = some connection && s.phase = .reading then afterRead s connection message
    else (s,[])
  | .shutdown => (s.shutdown,[])
  | .safeShutdown =>
    if s.posted = 0 then (s,[]) else (safeShutdown {s with posted := s.posted - 1},[])
  | .registry entry => ({s with entry := entry},[])

def Effect.token : Effect → Option Bytes
  | .configured token => some token
  | _ => none

def Effect.admission : Effect → Option (Nat × Bytes)
  | .admitted connection token => some (connection,token)
  | _ => none

abbrev Run := List (Round Session Event Effect)

def configurations (past : Run) : List Bytes :=
  past.flatMap fun r => r.effects.filterMap Effect.token

def admissions (past : Run) : List (Nat × Bytes) :=
  past.flatMap fun r => r.effects.filterMap Effect.admission

structure Ledger (past : Run) (s : Session) : Prop where
  once : (configurations past).length ≤ 1
  fresh : s.started = false → s.sender = false ∧ configurations past = []
  idle : s.uploadToken = [] → s.upload = none → s.sender = true → configurations past = []
  waiting : s.uploadToken ≠ [] → s.upload = none ∧ configurations past = [s.uploadToken]
  unused : s.upload = none → admissions past = []
  used : ∀ connection, s.upload = some connection → s.uploadToken = [] ∧
    ∃ token, admissions past = [(connection,token)] ∧ configurations past = [token]

theorem configurationsAppend (past : Run) (r : Round Session Event Effect) :
    configurations (past ++ [r]) = configurations past ++ r.effects.filterMap Effect.token := by
  simp [configurations]

theorem admissionsAppend (past : Run) (r : Round Session Event Effect) :
    admissions (past ++ [r]) = admissions past ++ r.effects.filterMap Effect.admission := by
  simp [admissions]

inductive Move (s : Session) : Event → Session → List Effect → Prop where
  | plain {e t effects} (token : t.uploadToken = s.uploadToken) (upload : t.upload = s.upload)
      (sender : t.sender = s.sender) (started : t.started = s.started)
      (tokens : effects.filterMap Effect.token = [])
      (admissions : effects.filterMap Effect.admission = []) : Move s e t effects
  | startup {e t} (unstarted : s.started = false) (token : t.uploadToken = s.uploadToken)
      (upload : t.upload = s.upload) (started : t.started = true) : Move s e t []
  | closed {e t} (token : t.uploadToken = []) (upload : t.upload = s.upload)
      (sender : t.sender = false) (started : t.started = s.started) : Move s e t []
  | configured {token : UploadToken} {stopping peerSet} (alive : s.sender = true)
      (none_ : s.uploadToken = []) (unused : s.upload = none) :
      Move s (.configure token stopping peerSet) {s with uploadToken := token.text}
        [.configured token.text]
  | admitted {connection token} (alive : s.sender = true) (same : token = s.uploadToken)
      (filled : s.uploadToken ≠ []) (unused : s.upload = none) (own : s.entry = .this) :
      Move s (.run connection token)
        {s with uploadToken := [], upload := some connection, phase := .handshake}
        [.admitted connection token]

theorem move (s : Session) (e : Event) : Move s e (step s e).1 (step s e).2 := by
  cases e with
  | startup subscribed =>
    simp only [step]
    split
    · exact .plain rfl rfl rfl rfl rfl rfl
    · rename_i unstarted
      exact .startup (by simpa using unstarted) rfl rfl rfl
  | configure token stopping peerSet =>
    simp only [step,configure]
    split
    · exact .plain rfl rfl rfl rfl rfl rfl
    · rename_i passes
      simp only [Bool.or_eq_true,Bool.not_eq_true',not_or,Bool.not_eq_false,List.isEmpty_iff,
        Bool.not_eq_true,Option.isSome_eq_false_iff,Option.isNone_iff_eq_none,
        decide_eq_true_eq,not_not] at passes
      obtain ⟨⟨⟨⟨alive,none_⟩,unused⟩,_⟩,_⟩ := passes
      split
      · exact .plain rfl rfl rfl rfl rfl rfl
      · exact .configured alive none_ unused
  | run connection token =>
    simp only [step,run]
    split
    · exact .plain rfl rfl rfl rfl rfl rfl
    · rename_i passes
      simp only [Bool.or_eq_true,Bool.not_eq_true',not_or,Bool.not_eq_false,List.isEmpty_iff,
        Bool.not_eq_true,Option.isSome_eq_false_iff,Option.isNone_iff_eq_none,
        decide_eq_true_eq,not_not] at passes
      obtain ⟨⟨⟨⟨alive,filled⟩,same⟩,unused⟩,own⟩ := passes
      exact .admitted alive same filled unused own
  | accepted connection error cancelled =>
    simp only [step,afterAccept]
    split
    · split
      · exact .plain rfl rfl rfl rfl rfl rfl
      · exact .plain rfl rfl rfl rfl rfl rfl
    · exact .plain rfl rfl rfl rfl rfl rfl
  | read connection message =>
    simp only [step,afterRead]
    split
    · split
      · exact .plain rfl rfl rfl rfl rfl rfl
      · exact .plain rfl rfl rfl rfl rfl rfl
    · exact .plain rfl rfl rfl rfl rfl rfl
  | shutdown => exact .plain rfl rfl rfl rfl rfl rfl
  | safeShutdown =>
    simp only [step]
    split
    · exact .plain rfl rfl rfl rfl rfl rfl
    · exact .closed rfl rfl rfl rfl
  | registry entry => exact .plain rfl rfl rfl rfl rfl rfl

variable {past : Run} {s : Session} {token : Bytes} {connection : Nat} {e : Event}

theorem ledgerStep (ledger : Ledger past s) (e : Event) :
    Ledger (past ++ [.of step s e]) (step s e).1 := by
  have taken := move s e
  have tokens := configurationsAppend past (.of step s e)
  have admitted := admissionsAppend past (.of step s e)
  have effects : (Round.of step s e).effects = (step s e).2 := rfl
  rw [effects] at tokens admitted
  generalize (step s e).1 = t at taken ⊢
  generalize (step s e).2 = orders at taken tokens admitted
  generalize past ++ [Round.of step s e] = later at tokens admitted ⊢
  obtain ⟨once,fresh,idle,waiting,unused,used⟩ := ledger
  cases taken with
  | plain token upload sender started none_ quiet =>
    rw [none_,List.append_nil] at tokens
    rw [quiet,List.append_nil] at admitted
    constructor
    · rw [tokens]; exact once
    · rw [tokens,sender,started]; exact fresh
    · rw [tokens,token,upload,sender]; exact idle
    · rw [tokens,token,upload]; exact waiting
    · rw [admitted,upload]; exact unused
    · rw [admitted,tokens,token,upload]; exact used
  | startup unstarted token upload started =>
    simp only [List.filterMap_nil,List.append_nil] at tokens admitted
    constructor
    · rw [tokens]; exact once
    · rw [started]; nofun
    · rw [tokens]; exact fun _ _ _ => (fresh unstarted).2
    · rw [tokens,token,upload]; exact waiting
    · rw [admitted,upload]; exact unused
    · rw [admitted,tokens,token,upload]; exact used
  | closed token upload sender started =>
    simp only [List.filterMap_nil,List.append_nil] at tokens admitted
    constructor
    · rw [tokens]; exact once
    · rw [tokens,sender,started]; exact fun unstarted => ⟨rfl,(fresh unstarted).2⟩
    · rw [sender]; nofun
    · exact fun filled => absurd token filled
    · rw [admitted,upload]; exact unused
    · rw [admitted,tokens,token,upload]; exact fun connection same => ⟨rfl,(used connection same).2⟩
  | @configured token _ _ alive empty free =>
    have none_ := idle empty free alive
    have now : configurations later = [token.text] := by rw [tokens,none_]; rfl
    have still : admissions later = [] := by rw [admitted,unused free]; rfl
    constructor
    · rw [now]; exact Nat.le_refl 1
    · intro unstarted
      exact absurd (fresh unstarted).1 (by simp [alive])
    · exact fun cleared => absurd cleared token.filled
    · exact fun _ => ⟨free,now⟩
    · exact fun _ => still
    · intro connection same
      exact absurd (same.symm.trans free) (by simp)
  | @admitted connection token alive same filled free own =>
    have before := (waiting filled).2
    have now : configurations later = [token] := by rw [tokens,before,same]; rfl
    have first : admissions later = [(connection,token)] := by rw [admitted,unused free]; rfl
    constructor
    · rw [now]; exact Nat.le_refl 1
    · intro unstarted
      exact absurd (fresh unstarted).1 (by simp [alive])
    · nofun
    · exact fun filled => absurd rfl filled
    · nofun
    · intro other found
      cases Option.some.inj found
      exact ⟨rfl,token,first,now⟩

theorem memberConfigurations (member : token ∈ configurations past) :
    ∃ d ∈ past, .configured token ∈ d.effects := by
  obtain ⟨d,inside,found⟩ := List.mem_flatMap.mp member
  obtain ⟨effect,orders,same⟩ := List.mem_filterMap.mp found
  cases effect with
  | configured own =>
    cases Option.some.inj same
    exact ⟨d,inside,orders⟩
  | _ => contradiction

theorem memberAdmissions (member : (connection,token) ∈ admissions past) :
    ∃ d ∈ past, .admitted connection token ∈ d.effects := by
  obtain ⟨d,inside,found⟩ := List.mem_flatMap.mp member
  obtain ⟨effect,orders,same⟩ := List.mem_filterMap.mp found
  cases effect with
  | admitted own mine =>
    cases Option.some.inj same
    exact ⟨d,inside,orders⟩
  | _ => contradiction

theorem admittedMove {t : Session} {effects : List Effect} (taken : Move s e t effects)
    (orders : .admitted connection token ∈ effects) :
    e = .run connection token ∧ s.sender = true ∧ s.entry = .this ∧ s.uploadToken = token ∧
      token ≠ [] := by
  cases taken with
  | plain _ _ _ _ _ quiet =>
    have found : (connection,token) ∈ effects.filterMap Effect.admission :=
      List.mem_filterMap.mpr ⟨_,orders,rfl⟩
    rw [quiet] at found
    contradiction
  | startup => contradiction
  | closed => contradiction
  | configured => simp at orders
  | admitted alive same filled unused own =>
    cases List.mem_singleton.mp orders
    exact ⟨rfl,alive,own,same.symm,by rw [same]; exact filled⟩

theorem audioStep {samples : Bytes} (orders : .inputAudio connection samples ∈ (step s e).2) :
    s.upload = some connection ∧ samples.length = 160 ∧
      ∃ message, e = .read connection message ∧ message.data = samples ∧ message.text = false ∧
        message.error = false := by
  cases e with
  | startup subscribed =>
    simp only [step] at orders
    split at orders <;> contradiction
  | configure token stopping peerSet =>
    simp only [step,configure] at orders
    split at orders
    · contradiction
    · split at orders
      · contradiction
      · simp at orders
  | run other token =>
    simp only [step,run] at orders
    split at orders <;> simp at orders
  | accepted other error cancelled =>
    simp only [step] at orders
    split at orders <;> contradiction
  | read other message =>
    simp only [step,afterRead] at orders
    split at orders
    · rename_i reading
      split at orders
      · contradiction
      · rename_i passes
        cases List.mem_singleton.mp orders
        simp only [Bool.and_eq_true,decide_eq_true_eq] at reading
        simp only [Bool.or_eq_true,Bool.not_eq_true',decide_eq_true_eq,not_or,Bool.not_eq_true,
          not_not] at passes
        obtain ⟨⟨⟨⟨error,_⟩,_⟩,text⟩,size⟩ := passes
        exact ⟨reading.1,size,message,rfl,rfl,text,error⟩
    · contradiction
  | shutdown => contradiction
  | safeShutdown =>
    simp only [step] at orders
    split at orders <;> contradiction
  | registry entry => contradiction

structure Admission (past : Run) : Prop where
  configuredOnce : (configurations past).length ≤ 1
  admittedOnce : (admissions past).length ≤ 1
  admitted : ∀ before r after connection token, past = before ++ r :: after →
    .admitted connection token ∈ r.effects → r.event = .run connection token ∧
      r.state.sender = true ∧ r.state.entry = .this ∧ ∃ d ∈ before, .configured token ∈ d.effects
  audio : ∀ before r after connection samples, past = before ++ r :: after →
    .inputAudio connection samples ∈ r.effects → samples.length = 160 ∧
      (∃ message, r.event = .read connection message ∧ message.data = samples ∧
        message.text = false ∧ message.error = false) ∧
      ∃ d ∈ before, ∃ token, .admitted connection token ∈ d.effects

theorem madeLedger (entry : Entry) : Ledger [] (.made entry) where
  once := Nat.zero_le 1
  fresh := fun _ => ⟨rfl,rfl⟩
  idle := fun _ _ _ => rfl
  waiting := fun filled => absurd rfl filled
  unused := fun _ => rfl
  used := nofun

theorem talkUpload (entry : Entry) (events : List Event) :
    Admission (rounds step (.made entry) events) := by
  have final : Ledger (rounds step (.made entry) events)
      (Controller.final step (.made entry) events) :=
    finalHistory (P := Ledger) (madeLedger entry) fun past s e before => ledgerStep before e
  have history : ∀ before r after, rounds step (.made entry) events = before ++ r :: after →
      Ledger before r.state ∧ r = .of step r.state r.event := by
    intro before r after cut
    exact roundsHistory (P := Ledger) (madeLedger entry)
      (fun past s e before => ledgerStep before e) cut
  refine ⟨final.once,?_,?_,?_⟩
  · cases uploading : (Controller.final step (.made entry) events).upload with
    | none => rw [final.unused uploading]; exact Nat.zero_le 1
    | some connection =>
      obtain ⟨_,token,first,_⟩ := final.used connection uploading
      rw [first]
      exact Nat.le_refl 1
  · intro before r after connection token cut orders
    obtain ⟨ledger,own⟩ := history before r after cut
    rw [own] at orders
    obtain ⟨event,alive,mapped,same,filled⟩ := admittedMove (move r.state r.event) orders
    rw [← same] at filled
    have configured := (ledger.waiting filled).2
    rw [same] at configured
    have member : token ∈ configurations before := by rw [configured]; exact List.mem_singleton_self _
    exact ⟨event,alive,mapped,memberConfigurations member⟩
  · intro before r after connection samples cut orders
    obtain ⟨ledger,own⟩ := history before r after cut
    rw [own] at orders
    obtain ⟨uploading,size,message⟩ := audioStep orders
    obtain ⟨_,token,first,_⟩ := ledger.used connection uploading
    have listed : (connection,token) ∈ admissions before := by
      rw [first]
      exact List.mem_singleton_self _
    obtain ⟨d,member,admitted⟩ := memberAdmissions listed
    exact ⟨size,message,d,member,token,admitted⟩

end MediaServer.TalkUpload
