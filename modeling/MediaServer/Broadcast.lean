import MediaServer.LiveSession

/-! gb_broadcast.go: one talk, its dialog and the places its threads can stand at. -/
namespace MediaServer.Signaling

abbrev Bid := Nat
abbrev Did := Nat

inductive TalkCause where
  | canceled | offline | rejected | remoteBye | failed
  deriving DecidableEq, Repr

structure Peer where
  endpoint : String
  ssrc : Nat
  deriving DecidableEq, Repr

structure Dialog where
  talk : Bid
  target : String
  peer : Peer
  acked : Bool := false
  answerErr : Bool := false
  answerDone : Nat := 0
  ackDone : Nat := 0
  acks : Nat := 0
  deriving DecidableEq, Repr

structure Talk where
  deviceID : String
  sourceID : String
  mediaID : String
  sn : Nat
  bound : Bool := false
  cause : Option TalkCause := none
  business : List Bool := []
  invited : List Did := []
  dialog : Option Did := none
  done : Nat := 0
  agreed : Nat := 0
  accepted : List Did := []
  deriving DecidableEq, Repr

def Talk.cancel (t : Talk) (cause : TalkCause) : Talk :=
  {t with cause := t.cause.or (some cause)}

structure Waiting where
  business : Bool := true
  invited : Bool := true
  acked : Bool := false
  answered : Bool := false
  dialog : Option Did := none
  deriving DecidableEq, Repr

def Waiting.complete (w : Waiting) : Bool := !(w.business || w.invited || w.acked || w.answered)

inductive TalkFrame where
  | create
  | bind
  | notify
  | prepare (w : Waiting)
  | token (peer : Peer)
  | configure (peer : Peer)
  | result (failed rejected : Bool)
  | settle (rejected : Bool)
  | release
  | hangup
  | answerWait (d : Did)
  | bye (d : Did)
  | ackWait (d : Did)
  | last
  | caller
  | waitDone (patient : Bool)
  | answer (d : Did)
  | acks (d : Did)
  deriving DecidableEq, Repr

end MediaServer.Signaling
