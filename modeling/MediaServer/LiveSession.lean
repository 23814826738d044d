import Mathlib.Algebra.Order.Ring.Int
import Mathlib.Data.List.Basic

/-! live_session.go, gb_playback.go, live_dialog.go: one session and what a thread does to
it in one locked section or in one call to the outside. The answer of the outside is the
reply; the tables of the service are changed by the act a section asks for. -/
namespace MediaServer.Signaling

abbrev Sid := Nat

inductive LiveState where
  | preparing | inviting | streaming | stopping
  deriving DecidableEq, Repr

structure LiveKey where
  deviceID : String
  channelID : String
  historyID : String
  deriving DecidableEq, Repr

inductive Method where
  | info | bye
  deriving DecidableEq, Repr

structure Request where
  method : Method
  cseq : Nat
  deriving DecidableEq, Repr

structure Session where
  key : LiveKey
  streamID : String
  ssrc : Nat
  playbackDuration : Nat := 0
  rtpPort : Nat := 0
  state : LiveState := .preparing
  invite : Option Nat := none
  answer : Bool := false
  ctxErr : Bool := false
  claimed : Nat := 0
  established : Nat := 0
  done : Nat := 0
  dialog : Bool := false
  cseq : Nat := 0
  created : Bool := false
  deletes : Nat := 0
  tickets : Nat := 0
  streamed : Bool := false
  released : Nat := 0
  sent : List Request := []
  deriving DecidableEq, Repr

def Session.history (o : Session) : Bool := o.key.historyID != ""

def Session.nextDialogRequest (o : Session) (method : Method) : Option Session :=
  o.invite.map fun first =>
    let cseq := ((if o.cseq = 0 then first else o.cseq) + 1) % 2 ^ 32
    {o with cseq := cseq, sent := o.sent ++ [⟨method,cseq⟩]}

inductive Reply where
  | ok | fail | rejected
  | port (rtpPort : Nat)
  | token (value : String)
  | cseq (first : Nat)
  | provisional | accepted | refused
  | claimed | timer | cancelled
  | business | invited | acked | answered
  deriving DecidableEq, Repr

inductive StartStage where
  | online
  | create
  | prepared (rtpPort : Nat)
  | ticket
  | target
  | sdp
  | transaction
  | storeInvite
  | init
  | answer (provisional cancelled requested : Bool)
  | storeAnswer
  | ack
  | verify
  | confirm
  deriving DecidableEq, Repr

inductive Role where
  | starter | stopper
  deriving DecidableEq, Repr

inductive CleanStage where
  | begin (sendBye : Bool) | delete | remove
  deriving DecidableEq, Repr

inductive ByeStage where
  | lock | send | wait
  deriving DecidableEq, Repr

inductive After where
  | clean (role : Role) | drain
  deriving DecidableEq, Repr

inductive ControlStage where
  | tryLock | check | send | wait | unlock
  deriving DecidableEq, Repr

inductive SessionFrame where
  | start (stage : StartStage)
  | clean (role : Role) (stage : CleanStage)
  | bye (after : After) (stage : ByeStage)
  | drain
  | established
  | stop (patient : Bool)
  | waitDone (patient : Bool)
  | finish (sendBye : Bool)
  | remoteBye
  | control (stage : ControlStage)
  | join
  | caller
  deriving DecidableEq, Repr

inductive Act where
  | none
  | revoke
  | issue (value : String)
  | create (made : Bool)
  | delete (gone : Bool)
  | remove
  deriving DecidableEq, Repr

structure Effect where
  session : Session
  act : Act := .none
  next : List SessionFrame := []
  spawned : List SessionFrame := []
  deriving DecidableEq, Repr

def goOn (o : Session) (stage : StartStage) : Option Effect :=
  some {session := o, next := [.start stage]}

def finishFailedStart (o : Session) (sendBye : Bool) : Option Effect :=
  some {session := o, next := [.clean .starter (.begin sendBye)]}

def startStep (o : Session) (r : Reply) : StartStage → Option Effect
  | .online =>
      match r with
      | .ok => goOn o .create
      | .fail => some {session := o, next := [.clean .starter .remove]}
      | _ => none
  | .create =>
      match r with
      | .port rtpPort =>
          some {session := {o with created := true}, act := .create true
                next := [.start (.prepared rtpPort)]}
      | .fail => some {session := o, act := .create false, next := [.clean .starter .remove]}
      | _ => none
  | .prepared rtpPort =>
      if o.history then
        if o.state ≠ .preparing ∨ o.ctxErr then finishFailedStart {o with rtpPort := rtpPort} false
        else match r with
          | .token value =>
              some {session := {o with rtpPort := rtpPort, tickets := o.tickets + 1}
                    act := .issue value, next := [.start .ticket]}
          | .fail => finishFailedStart {o with rtpPort := rtpPort} false
          | _ => none
      else if o.state ≠ .preparing then finishFailedStart {o with rtpPort := rtpPort} false
      else goOn {o with rtpPort := rtpPort, state := .inviting} .sdp
  | .ticket =>
      match r with
      | .claimed => if 0 < o.claimed then goOn o .target else none
      | .timer => finishFailedStart o false
      | .cancelled => if o.ctxErr then finishFailedStart o false else none
      | _ => none
  | .target =>
      if o.state ≠ .preparing ∨ o.ctxErr ∨ r ≠ .ok then finishFailedStart o false
      else goOn {o with state := .inviting} .sdp
  | .sdp => if r = .ok then goOn o .transaction else finishFailedStart o false
  | .transaction => if r = .ok then goOn o .storeInvite else finishFailedStart o false
  | .storeInvite =>
      match r with
      | .cseq first => goOn {o with invite := some first} .init
      | _ => none
  | .init => if r = .ok then goOn o (.answer false false false) else finishFailedStart o false
  | .answer provisional cancelled requested =>
      match r with
      | .provisional => goOn o (.answer true cancelled (requested || cancelled))
      | .cancelled =>
          if cancelled then none else goOn o (.answer provisional true (requested || provisional))
      | .accepted => goOn o .storeAnswer
      | .refused => finishFailedStart o false
      | .timer => if cancelled then finishFailedStart o false else none
      | _ => none
  | .storeAnswer => goOn {o with answer := true} .ack
  | .ack => if r = .ok then goOn o .verify else finishFailedStart o true
  | .verify => if o.ctxErr ∨ r ≠ .ok then finishFailedStart o true else goOn o .confirm
  | .confirm =>
      if o.state ≠ .inviting ∨ o.ctxErr then finishFailedStart o true
      else some {session := {o with state := .streaming, streamed := true}, next := [.established]}

def Role.rest : Role → List SessionFrame
  | .starter => [.established]
  | .stopper => []

def cleanStep (o : Session) (current : Bool) (r : Reply) (role : Role) : CleanStage → Option Effect
  | .begin sendBye =>
      some {session := o
            next := [if sendBye && o.answer then .bye (.clean role) .lock else .clean role .delete]}
  | .delete =>
      some {session := {o with deletes := o.deletes + 1}, act := .delete (r == .ok)
            next := [.clean role .remove]}
  | .remove =>
      if current then
        some {session := {o with ctxErr := true, done := o.done + 1, released := o.released + 1}
              act := .remove, next := role.rest}
      else some {session := o, next := role.rest}

def byeStep (o : Session) (after : After) : ByeStage → Option Effect
  | .lock =>
      if o.dialog then none
      else some {session := {o with dialog := true}, next := [.bye after .send]}
  | .send => (o.nextDialogRequest .bye).map fun o => {session := o, next := [.bye after .wait]}
  | .wait =>
      some {session := {o with dialog := false}
            next := [match after with | .clean role => .clean role .delete | .drain => .drain]}

def controlStep (o : Session) (current : Bool) : ControlStage → Option Effect
  | .tryLock =>
      if o.dialog then some {session := o}
      else some {session := {o with dialog := true}, next := [.control .check]}
  | .check =>
      if current ∧ o.state = .streaming ∧ o.ctxErr = false then
        some {session := o, next := [.control .send]}
      else some {session := o, next := [.control .unlock]}
  | .send => (o.nextDialogRequest .info).map fun o => {session := o, next := [.control .wait]}
  | .wait => some {session := o, next := [.control .unlock]}
  | .unlock => some {session := {o with dialog := false}}

/- One section of one thread. The session is current while the table holds this very
object under its key. -/
def SessionFrame.step (o : Session) (current : Bool) (r : Reply) : SessionFrame → Option Effect
  | .start stage => startStep o r stage
  | .clean role stage => cleanStep o current r role stage
  | .bye after stage => byeStep o after stage
  | .drain =>
      if r = .timer ∨ o.ctxErr then some {session := o, next := [.clean .stopper (.begin false)]}
      else none
  | .established => some {session := {o with established := o.established + 1}}
  | .stop patient =>
      if current then
        some {session := {o with state := .stopping, ctxErr := true}, act := .revoke
              next := [if o.state = .streaming then .clean .stopper (.begin true)
                       else .waitDone patient]}
      else some {session := o}
  | .waitDone patient =>
      if 0 < o.done ∨ (patient = false ∧ r = .cancelled) then some {session := o} else none
  | .finish sendBye =>
      if o.established = 0 then none
      else if current ∧ o.state = .streaming then
        some {session := {o with state := .stopping}, act := .revoke
              spawned := [if sendBye then .bye .drain .lock else .drain]}
      else some {session := o}
  | .remoteBye =>
      if current ∧ o.state = .streaming then
        some {session := {o with state := .stopping}, act := .revoke
              spawned := [.clean .stopper (.begin false)]}
      else some {session := o}
  | .control stage => controlStep o current stage
  | .join => if 0 < o.established ∨ r = .cancelled then some {session := o} else none
  | .caller =>
      if r = .cancelled then some {session := o, next := [.stop false]} else some {session := o}

end MediaServer.Signaling
