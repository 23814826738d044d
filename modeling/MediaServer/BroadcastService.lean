import MediaServer.Server

/-! gb_broadcast.go: the threads of a talk and the SIP handlers that feed them. -/
namespace MediaServer.Signaling

inductive TalkCall where
  | startBroadcast (deviceID : String) (look : Lookup) (b : Bid) (sourceID mediaID : String) (sn : Nat)
  | stopBroadcast (deviceID mediaID : String)
  | response (deviceID : String) (sn : Nat) (ok : Bool) (sender : String) (known : Bool)
  | invite (sender target : String) (subject known : Bool) (peer : Option Peer) (read : Bool) (d : Did)
  | ack (d : Did) (recipient : String) (known read : Bool)
  | bye (d : Did) (valid : Bool)
  | shutdown

def Server.cancelTalk (s : Server) (b : Bid) (cause : TalkCause) : Server :=
  {s with talks := Function.update s.talks b ((s.talks b).map fun t => t.cancel cause)}

def Server.startBroadcast (s : Server) (deviceID : String) (look : Lookup) (b : Bid)
    (sourceID mediaID : String) (sn : Nat) : Option Outcome :=
  if look.stored = false ∨ s.stoppingDevices deviceID ∨ look.online = false ∨
      (s.broadcasts.get deviceID).isSome then some {shared := s}
  else if (s.talks b).isSome ∨ mediaID ∈ s.drawn then none
  else
    some {shared :=
            {s.putTalk b {deviceID := deviceID, sourceID := sourceID, mediaID := mediaID, sn := sn} with
              broadcasts := s.broadcasts.set deviceID b, drawn := mediaID :: s.drawn
              log := s.log ++ [.admitted .broadcast deviceID]}
          spawned := [[.talk b .create],[.talk b .caller]]}

def Server.talkOf (s : Server) (deviceID : String) : Option (Bid × Talk) :=
  (s.broadcasts.get deviceID).bind fun b => (s.talks b).map fun t => (b,t)

def Server.stopBroadcast (s : Server) (deviceID mediaID : String) : Outcome :=
  match s.talkOf deviceID with
  | none => {shared := s}
  | some (b,t) =>
      if t.mediaID = mediaID then
        {shared := s.putTalk b (t.cancel .canceled), spawned := [[.talk b (.waitDone false)]]}
      else {shared := s}

def Server.broadcastResponse (s : Server) (deviceID : String) (sn : Nat) (ok : Bool)
    (sender : String) (known : Bool) : Server :=
  match s.talkOf deviceID with
  | none => s
  | some (b,t) =>
      if t.cause.isSome ∨ sn ≠ t.sn ∨ sender ≠ t.deviceID ∨ known = false then s
      else
        let t := if ok then {t with agreed := t.agreed + 1} else t.cancel .rejected
        s.putTalk b {t with business := if t.business = [] then [ok] else t.business}

def Server.inviteTarget (s : Server) (sender target : String) (subject known : Bool)
    (peer : Option Peer) (read : Bool) : Option (Bid × Talk × Peer) :=
  match s.talkOf sender with
  | none => none
  | some (b,t) =>
      if t.cause.isSome ∨ t.sourceID ≠ target ∨ subject = false ∨ known = false then none
      else if t.dialog.isSome ∨ read = false then none
      else peer.map fun peer => (b,t,peer)

/- The rest of that section. The send on invited waits for room with the lock held: without
room the section never ends. -/
def Server.broadcastInvite (s : Server) (sender target : String) (subject known : Bool)
    (peer : Option Peer) (read : Bool) (d : Did) : Option Outcome :=
  match s.inviteTarget sender target subject known peer read with
  | none => some {shared := s}
  | some (b,t,peer) =>
      if (s.dialogs d).isSome ∨ t.invited ≠ [] then none
      else
        some {shared :=
                (s.putDialog d {talk := b, target := target, peer := peer}).putTalk b
                  {t with dialog := some d, invited := [d], accepted := t.accepted ++ [d]}
              spawned := [[.talk b (.acks d)],[.talk b (.answer d)]]}

def Server.dialogTalk (s : Server) (d : Did) (fits : Talk → Bool) : Option Bid :=
  (s.broadcasts.entries.find? fun e =>
    (s.talks e.2).any fun t => t.dialog == some d && fits t).map Prod.snd

def Server.broadcastAck (s : Server) (d : Did) (recipient : String) (known read : Bool) : Server :=
  match s.dialogTalk d fun t => t.sourceID == recipient && known, s.dialogs d with
  | some _,some dialog =>
      if read then s.putDialog d {dialog with acked := true, acks := dialog.acks + 1} else s
  | _,_ => s

def Server.broadcastBye (s : Server) (d : Did) (valid : Bool) : Server :=
  match s.dialogTalk d fun _ => true with
  | some b => if valid then s.cancelTalk b .remoteBye else s
  | none => s

def talkCall (s : Server) : TalkCall → Option Outcome
  | .startBroadcast deviceID look b sourceID mediaID sn =>
      s.startBroadcast deviceID look b sourceID mediaID sn
  | .stopBroadcast deviceID mediaID => some (s.stopBroadcast deviceID mediaID)
  | .response deviceID sn ok sender known =>
      some {shared := s.broadcastResponse deviceID sn ok sender known}
  | .invite sender target subject known peer read d =>
      s.broadcastInvite sender target subject known peer read d
  | .ack d recipient known read => some {shared := s.broadcastAck d recipient known read}
  | .bye d valid => some {shared := s.broadcastBye d valid}
  | .shutdown =>
      some {shared := (s.broadcasts.entries.map Prod.snd).foldl (fun s b => s.cancelTalk b .canceled) s}

structure TalkOutcome where
  server : Server
  next : List TalkFrame := []

def prepareStep (s : Server) (b : Bid) (t : Talk) (w : Waiting) (r : Reply) : Option TalkOutcome :=
  match r with
  | .business =>
      match w.business,t.business with
      | true,ok :: rest =>
          some ⟨s.putTalk b {t with business := rest},
            if ok then [.prepare {w with business := false}] else [.result true false]⟩
      | _,_ => none
  | .invited =>
      match w.invited,t.invited with
      | true,d :: rest =>
          some ⟨s.putTalk b {t with invited := rest},
            [.prepare {w with invited := false, acked := true, answered := true, dialog := some d}]⟩
      | _,_ => none
  | .acked =>
      (w.dialog.bind fun d => (s.dialogs d).map fun dialog => (d,dialog)).bind fun (d,dialog) =>
        if w.acked && dialog.acked then
          some ⟨s.putDialog d {dialog with acked := false},[.prepare {w with acked := false}]⟩
        else none
  | .answered =>
      (w.dialog.bind s.dialogs).bind fun dialog =>
        if w.answered && decide (0 < dialog.answerDone) then
          some ⟨s,if dialog.answerErr then [.result true false] else [.prepare {w with answered := false}]⟩
        else none
  | .timer => some ⟨s,[.result true false]⟩
  | .cancelled => if t.cause.isSome then some ⟨s,[.result true false]⟩ else none
  | _ => none

def talkExec (s : Server) (b : Bid) (t : Talk) (r : Reply) : TalkFrame → Option TalkOutcome
  | .create =>
      match r with
      | .port rtpPort => some ⟨s,[if rtpPort % 2 ≠ 0 ∨ rtpPort = 0 then .result true false else .bind]⟩
      | .rejected => some ⟨s,[.result true true]⟩
      | .fail => some ⟨s,[.result true false]⟩
      | _ => none
  | .bind => some ⟨s.putTalk b {t with bound := true},[.notify]⟩
  | .notify => some ⟨s,[if r = .ok then .prepare {} else .result true false]⟩
  | .prepare w =>
      if w.complete then
        (w.dialog.bind s.dialogs).map fun dialog =>
          ⟨s.record (.peered b dialog.peer),[.token dialog.peer]⟩
      else prepareStep s b t w r
  | .token peer => some ⟨s,[if r = .ok then .configure peer else .result true false]⟩
  | .configure _ => some ⟨s,[.result (r != .ok) false]⟩
  | .result failed rejected =>
      some ⟨if failed then s.putTalk b (t.cancel .failed) else s,[.settle rejected]⟩
  | .settle rejected =>
      if t.cause.isSome then some ⟨s,[if rejected then .hangup else .release]⟩ else none
  | .release => some ⟨s,[.hangup]⟩
  | .hangup => some ⟨s,[match t.dialog with | some d => .answerWait d | none => .last]⟩
  | .answerWait d =>
      if (s.dialogs d).any (0 < ·.answerDone) then some ⟨s,[.bye d]⟩ else none
  | .bye d => some ⟨s,[.ackWait d]⟩
  | .ackWait d => if (s.dialogs d).any (0 < ·.ackDone) then some ⟨s,[.last]⟩ else none
  | .last =>
      let u := s.putTalk b {t with done := t.done + 1}
      some ⟨if s.broadcasts.get t.deviceID = some b then
              {u with broadcasts := s.broadcasts.delete t.deviceID} else u,[]⟩
  | .caller =>
      if r = .cancelled then some ⟨s.putTalk b (t.cancel .canceled),[.waitDone true]⟩
      else some ⟨s,[]⟩
  | .waitDone patient =>
      if 0 < t.done ∨ (patient = false ∧ r = .cancelled) then some ⟨s,[]⟩ else none
  | .answer d =>
      (s.dialogs d).map fun dialog =>
        ⟨s.putDialog d {dialog with answerErr := r != .ok, answerDone := dialog.answerDone + 1},[]⟩
  | .acks d =>
      (s.dialogs d).map fun dialog =>
        ⟨s.putDialog d {dialog with ackDone := dialog.ackDone + 1},[]⟩

def Server.talkTurn (s : Server) (b : Bid) (f : TalkFrame) (r : Reply) : Option Outcome := do
  let t ← s.talks b
  let out ← talkExec s b t r f
  some {shared := out.server, next := out.next.map (.talk b)}

end MediaServer.Signaling
