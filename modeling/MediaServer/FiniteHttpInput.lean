import MediaServer.Text

/-! desktop/finite_http_input: the transport of a history recording, with what the recording sees on
the way. The outcomes of the socket, of the HTTP parser and of FFmpeg are lists of answers. -/
namespace MediaServer.Recording

inductive AvError where
  | eof | again | exit | timedOut | io | other
  deriving DecidableEq, Repr

def Fails : Except AvError Nat → Prop
  | .ok _ => False
  | .error e => e ≠ .eof

/- AVIOContext's error behind a read and behind writes: a failure stays until it is closed. -/
structure Avio where
  afterRead : Option AvError → Except AvError Nat → Option AvError
  afterWrites : Bool → Bool → Bool
  keepsRead : ∀ kept result,
    kept.any (· ≠ .eof) = true ∨ Fails result → (afterRead kept result).any (· ≠ .eof) = true
  keepsWrites : ∀ kept fine, kept = true ∨ fine = false → afterWrites kept fine = true

/- When an interruption or a finish is requested and when the deadline of the platform passes, in
looks at a flag or at the clock: the first look that notices. What is requested stays requested. -/
structure Setting where
  interruption : Option Nat
  finish : Option Nat
  deadline : Option Nat
  avio : Avio

def due (request : Option Nat) (clock : Nat) : Bool := request.any fun first => first ≤ clock

inductive Seen where
  | interruption
  | finish
  | deadline
  | input (error : AvError)
  | corrupt
  | write
  | video
  | eof (parsed : Bool)
  | trailer (ok : Bool)
  | flush (ok : Bool)
  | close (ok : Bool)
  | rename (ok : Bool)
  deriving DecidableEq, Repr

def Seen.bad : Seen → Bool
  | .interruption | .finish | .deadline | .input _ | .corrupt | .write => true
  | _ => false

structure Http where
  wire : Nat
  gotSome : Bool
  done : Bool
  deriving DecidableEq, Repr

structure World where
  clock : Nat
  http : Http
  inputError : Option AvError
  outputError : Bool
  log : List Seen
  deriving DecidableEq, Repr

def World.start : World := ⟨0,⟨0,false,false⟩,none,false,[]⟩

def World.note (w : World) (seen : Seen) : World := {w with log := w.log ++ [seen]}

def World.failed (w : World) : Bool := w.inputError.any (· ≠ .eof)

structure Response where
  status : Nat
  chunked : Bool
  contentType : Text
  deriving DecidableEq, Repr

def trimmed (text : Text) : Text :=
  ((text.dropWhile Text.isSpace).reverse.dropWhile Text.isSpace).reverse

def Response.accepted (response : Response) : Bool :=
  response.status = 200 && response.chunked &&
    Text.lower (trimmed (response.contentType.takeWhile (· ≠ ';'))) = "video/mpeg".toList

inductive PutError where
  | none | needMore | needBuffer | other
  deriving DecidableEq, Repr

structure Put where
  consumed : Nat
  error : PutError
  header : Option Response
  produced : Nat
  done : Bool
  deriving DecidableEq, Repr

structure Poll where
  socketFailed : Bool
  put : Put
  available : Nat
  unconnected : Bool
  eofDone : Bool
  deriving DecidableEq, Repr

inductive Activity where
  | read (size : Nat) (polls : List Poll)
  | interrupt
  deriving DecidableEq, Repr

def capacity : Nat := 65536

def noted : Except AvError Nat → List Seen
  | .ok _ | .error .eof => []
  | .error e => [.input e]

section
variable (setting : Setting)

namespace World

def look (w : World) (request : Option Nat) (seen : Seen) : World × Bool :=
  if due request w.clock then ({w.note seen with clock := w.clock + 1},true)
  else ({w with clock := w.clock + 1},false)

def interruptionRequested (w : World) : World × Bool := w.look setting.interruption .interruption

def finishRequested (w : World) : World × Bool := w.look setting.finish .finish

def stopRequested (w : World) : World × Bool :=
  match w.interruptionRequested setting with
  | (w,true) => (w,true)
  | (w,false) => w.finishRequested setting

def deadlineExpired (w : World) : World × Bool :=
  if w.http.done then (w,false) else w.look setting.deadline .deadline

def contextError (w : World) : World × Option AvError :=
  match w.interruptionRequested setting with
  | (w,true) => (w,some .exit)
  | (w,false) =>
    match w.deadlineExpired setting with
    | (w,true) => (w,some .timedOut)
    | (w,false) =>
      match w.stopRequested setting with
      | (w,true) => (w,some .timedOut)
      | (w,false) => (w,none)

def wait (w : World) : World × Option AvError :=
  match w.contextError setting with
  | (w,some e) => (w,some e)
  | (w,none) => w.contextError setting

def parse (w : World) (size : Nat) (put : Put) : World × Option (Except AvError Nat) :=
  if w.http.wire = 0 then (w,none)
  else
    let w := {w with http := ⟨w.http.wire - put.consumed,
      w.http.gotSome || decide (0 < put.consumed),put.done⟩}
    if put.error = .other then (w,some (.error .io))
    else if put.header.any (!·.accepted) then (w,some (.error .io))
    else if 0 < min put.produced size then (w,some (.ok (min put.produced size)))
    else (w,none)

def read (size : Nat) : List Poll → World → World × Except AvError Nat
  | [], w => (w,.error .io)
  | poll :: rest, w =>
    match w.contextError setting with
    | (w,some e) => (w,.error e)
    | (w,none) =>
      if poll.socketFailed then (w,.error .io)
      else if w.http.done then (w,.error .eof)
      else match w.parse size poll.put with
        | (w,some result) => (w,result)
        | (w,none) =>
          if w.http.done then (w,.error .eof)
          else if w.http.wire = capacity then (w,.error .io)
          else if 0 < poll.available then
            read size rest
              {w with http.wire := w.http.wire + min poll.available (capacity - w.http.wire)}
          else if poll.unconnected then
            if !w.http.gotSome then (w,.error .io)
            else if poll.eofDone then ({w with http.done := true},.error .eof)
            else (w,.error .io)
          else match w.wait setting with
            | (w,some e) => (w,.error e)
            | (w,none) => read size rest w

def fill (w : World) (size : Nat) (polls : List Poll) : World :=
  match w.read setting size polls with
  | (w,result) => {w with
      inputError := setting.avio.afterRead w.inputError result
      log := w.log ++ noted result}

def act (w : World) : Activity → World
  | .read size polls => w.fill setting size polls
  | .interrupt => (w.stopRequested setting).1

def perform (w : World) (activity : List Activity) : World := activity.foldl (act setting) w

def output (w : World) (writes : List Bool) : World :=
  {w with
    outputError := setting.avio.afterWrites w.outputError (writes.all id)
    log := w.log ++ if writes.all id then [] else [.write]}

end World

def Remembered (w : World) : Seen → Prop
  | .interruption => due setting.interruption w.clock = true
  | .finish => due setting.finish w.clock = true
  | .deadline | .input _ => w.failed = true
  | .write => w.outputError = true
  | .corrupt => False
  | _ => True

def Kept (failing : Prop) (w : World) : Prop :=
  ∀ seen ∈ w.log, Remembered setting w seen ∨ (seen = .deadline ∧ failing)

variable {setting}

structure Later (w next : World) : Prop where
  clock : w.clock ≤ next.clock
  input : w.failed = true → next.failed = true
  output : w.outputError = true → next.outputError = true
  log : w.log ⊆ next.log

theorem Later.refl (w : World) : Later w w := ⟨Nat.le_refl _,id,id,List.Subset.refl _⟩

variable {a b c w next : World} {request : Option Nat} {seen : Seen} {P Q : Prop}

theorem Later.trans (first : Later a b) (second : Later b c) : Later a c :=
  ⟨Nat.le_trans first.clock second.clock,second.input ∘ first.input,second.output ∘ first.output,
    List.Subset.trans first.log second.log⟩

theorem dueLater {clock next : Nat} (now : due request clock = true) (later : clock ≤ next) :
    due request next = true := by
  cases request with
  | none => exact now
  | some first =>
    simp only [due,Option.any_some,decide_eq_true_eq] at now ⊢
    exact Nat.le_trans now later

theorem Later.remembered (later : Later w next) (now : Remembered setting w seen) :
    Remembered setting next seen := by
  cases seen with
  | interruption => exact dueLater now later.clock
  | finish => exact dueLater now later.clock
  | deadline => exact later.input now
  | input error => exact later.input now
  | write => exact later.output now
  | corrupt => exact now
  | _ => trivial

theorem Later.kept {failing : Prop} (later : Later w next) (same : next.log = w.log)
    (kept : Kept setting failing w) : Kept setting failing next := by
  intro seen member
  rw [same] at member
  exact (kept seen member).imp_left later.remembered

theorem Later.noted {failing : Prop} (later : Later w next) (more : next.log = w.log ++ [seen])
    (kept : Kept setting failing w)
    (now : Remembered setting next seen ∨ (seen = .deadline ∧ failing)) :
    Kept setting failing next := by
  intro x member
  rw [more] at member
  rcases List.mem_append.mp member with earlier | last
  · exact (kept x earlier).imp_left later.remembered
  · cases List.mem_singleton.mp last
    exact now

theorem Kept.mono (imp : P → Q) (kept : Kept setting P w) :
    Kept setting Q w :=
  fun seen member => (kept seen member).imp_right fun both => ⟨both.1,imp both.2⟩

variable (setting) in
structure Looks (w next : World) (saw : Prop) : Prop where
  later : Later w next
  input : next.inputError = w.inputError
  output : next.outputError = w.outputError
  http : next.http = w.http
  quiet : ¬saw → next.log = w.log
  kept : Kept setting False w → Kept setting saw next

theorem Looks.trans (first : Looks setting a b P) (none_ : ¬P) (second : Looks setting b c Q) :
    Looks setting a c Q where
  later := first.later.trans second.later
  input := second.input.trans first.input
  output := second.output.trans first.output
  http := second.http.trans first.http
  quiet := fun missed => (second.quiet missed).trans (first.quiet none_)
  kept := fun kept => second.kept ((first.kept kept).mono none_)

theorem Looks.mono (looks : Looks setting w next P) (imp : P → Q) :
    Looks setting w next Q :=
  ⟨looks.later,looks.input,looks.output,looks.http,fun missed => looks.quiet (missed ∘ imp),
    fun kept => (looks.kept kept).mono imp⟩

variable (setting) in
structure Reads (w next : World) (fails : Prop) : Prop where
  later : Later w next
  input : next.inputError = w.inputError
  output : next.outputError = w.outputError
  quiet : ¬fails → next.log = w.log
  kept : Kept setting False w → Kept setting fails next

theorem Looks.reads (looks : Looks setting w next P) (imp : P → Q) : Reads setting w next Q :=
  let more := looks.mono imp
  ⟨more.later,more.input,more.output,more.quiet,more.kept⟩

theorem Reads.trans (first : Looks setting a b P) (none_ : ¬P) (second : Reads setting b c Q) :
    Reads setting a c Q where
  later := first.later.trans second.later
  input := second.input.trans first.input
  output := second.output.trans first.output
  quiet := fun missed => (second.quiet missed).trans (first.quiet none_)
  kept := fun kept => second.kept ((first.kept kept).mono none_)

theorem Reads.refl (w : World) (P : Prop) : Reads setting w w P :=
  ⟨.refl w,rfl,rfl,fun _ => rfl,fun kept => kept.mono False.elim⟩

variable (setting) in
structure Performs (w next : World) : Prop where
  later : Later w next
  output : next.outputError = w.outputError
  kept : Kept setting False w → Kept setting False next

theorem Performs.trans (first : Performs setting a b) (second : Performs setting b c) :
    Performs setting a c :=
  ⟨first.later.trans second.later,second.output.trans first.output,second.kept ∘ first.kept⟩

end
end MediaServer.Recording
