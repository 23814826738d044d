import MediaServer.Reconcile

/-! The signaling server as one transition system: calls come in, threads run their next
section, and the world moves the clock, ends contexts and changes the media server. -/
namespace MediaServer.Signaling

inductive Call where
  | live (c : LiveCall)
  | token (c : TokenCall)
  | device (c : DeviceCall)
  | talk (c : TalkCall)
  | reconcile (pass : Nat)

inductive World where
  | clock (now : Nat)
  | endContext (x : Sid)
  | appear (streamID : String)
  | vanish (streamID : String)

inductive Action where
  | call (c : Call)
  | run (i : Nat) (r : Reply)
  | world (w : World)

def call (s : Server) : Call → Option Outcome
  | .live c => liveCall s c
  | .token c => tokenCall s c
  | .device c => deviceCall s c
  | .talk c => talkCall s c
  | .reconcile pass => s.beginPass pass

/- The clock may jump, but not to before the epoch; the media server gains a stream only after
it was asked to open it. -/
def world (s : Server) : World → Option Server
  | .clock now => if 0 < unixMilli now then some {s with now := now} else none
  | .endContext x => (s.heap x).map fun o => s.put x {o with ctxErr := true}
  | .appear streamID =>
      if streamID ∈ s.opened then some {s with receivers := streamID :: s.receivers} else none
  | .vanish streamID => some (s.closeReceiver streamID true)

def exec (s : Server) (f : Frame) (r : Reply) : Option Outcome :=
  match f with
  | .session x f => (s.sessionTurn x f r).map (SessionOutcome.outcome x)
  | .talk b f => s.talkTurn b f r
  | .source sourceID stage => sourceExec s sourceID r stage
  | .deleteReceiver streamID => some {shared := (s.closeReceiver streamID (r == .ok)).leaveSource}
  | .clearStop deviceID => some {shared := s.clearStop deviceID}
  | .ptzDone key => some {shared := {s with ptzOwners := s.ptzOwners.delete key}}
  | .waitDone group =>
      some {shared := {s with waits := Function.update s.waits group ((s.waits group).map (· - 1))}}
  | .pass p stage => passExec s p r stage

def step (s : State) : Action → Option State
  | .call c => (call s.shared c).map fun out => ⟨out.shared,s.tasks ++ out.spawned⟩
  | .run i r => Pool.run exec s i r
  | .world w => (world s.shared w).map fun t => ⟨t,s.tasks⟩

def running (s : State) : Action → Option Frame
  | .run i _ => Pool.next s i
  | _ => none

/- A server that has just started: its tables are empty, the store and the media server keep
what an earlier run left. -/
structure Boot (s : State) : Prop where
  tasks : s.tasks = []
  sessions : s.shared.sessions = ∅
  heap : s.shared.heap = fun _ => none
  ssrcs : s.shared.ssrcs.active = []
  stopping : s.shared.stoppingDevices = fun _ => false
  ptzOwners : s.shared.ptzOwners = ∅
  broadcasts : s.shared.broadcasts = ∅
  talks : s.shared.talks = fun _ => none
  dialogs : s.shared.dialogs = fun _ => none
  tokens : s.shared.tokens = ∅
  prepared : s.shared.prepared = ∅
  pushRuns : s.shared.pushRuns = ∅
  pulls : s.shared.pulls = ∅
  sourceBusy : s.shared.sourceBusy = false
  waits : s.shared.waits = fun _ => none
  log : s.shared.log = []
  clock : 0 < unixMilli s.shared.now
  empty : "" ∈ s.shared.drawn
  devicesDrawn : ∀ d device, s.shared.pushDevices.get d = some device →
    d ∈ s.shared.drawn ∧ device.credential ∈ s.shared.drawn
  credentials : ∀ d e device device', s.shared.pushDevices.get d = some device →
    s.shared.pushDevices.get e = some device' → device.credential = device'.credential → d = e
  openedDrawn : ∀ id ∈ s.shared.opened, id ∈ s.shared.drawn
  openedUsed : ∀ d device, s.shared.pushDevices.get d = some device →
    device.credential ∈ s.shared.opened → device.usedAt ≠ 0
  receivers : ∀ id ∈ s.shared.receivers, id ∈ s.shared.opened

def firstStart : State where
  shared := {
    sessions := ∅
    heap := fun _ => none
    ssrcs := ⟨20000,1,[],Ssrc.firstLow,Ssrc.firstHigh⟩
    stoppingDevices := fun _ => false
    ptzOwners := ∅
    broadcasts := ∅
    talks := fun _ => none
    dialogs := fun _ => none
    tokens := ∅
    prepared := ∅
    pushRuns := ∅
    pushDevices := ∅
    pulls := ∅
    sourceBusy := false
    waits := fun _ => none
    now := 1000000000
    tokenTTL := 60000000000
    receivers := []
    opened := []
    drawn := [""]
    log := [] }
  tasks := []

theorem firstStartBoot : Boot firstStart := by
  have empty : ∀ d device, firstStart.shared.pushDevices.get d ≠ some device := by
    intro d device found
    cases found
  constructor <;> first | rfl | decide | skip
  · intro d device found
    exact absurd found (empty d device)
  · intro d e device device' found
    exact absurd found (empty d device)
  · intro d device found
    exact absurd found (empty d device)

abbrev Reached := Transition.Reachable step Boot

theorem reachedBy {actions : List Action} {test : State → Bool}
    (ends : (Transition.run step firstStart actions).any test = true) :
    ∃ s, Reached s ∧ test s = true := by
  obtain ⟨s,ok,ends⟩ := (Option.any_eq_true ..).mp ends
  exact ⟨s,Transition.runReachable (.start firstStartBoot) ok,ends⟩

end MediaServer.Signaling
