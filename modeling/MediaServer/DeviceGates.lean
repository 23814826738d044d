import MediaServer.DeviceLifecycle
import MediaServer.DeviceRegistry

/-! The handlers of devices, with the registries they use and as the gates of the live service. What
the registries answer is what the gates get; both then agree on the devices that are being stopped and
on what is admitted. -/
namespace MediaServer.DeviceRegistry

def Gates (r : Server) (s : Signaling.Server) : Prop :=
  ∀ deviceID, s.stoppingDevices deviceID = r.stopping deviceID

def callOf (timeout : Int) (r : Server) : Event → Option Signaling.DeviceCall
  | .register registration _ _ stored authorization =>
    let known := decide (stored = .found) && decide (authorization = .verified)
    if registration.expires = 0 then
      some (.unregister registration.deviceID known (r.devices.get registration.deviceID).isSome)
    else some (.register registration.deviceID known)
  | .keepalive deviceID sender source now =>
    some (.keepalive deviceID
      (decide (sender = deviceID) && (r.devices.keepalive deviceID source now).2))
  | .catalogQuery deviceID stored now _ =>
    some (.catalogQuery deviceID ⟨validDigits deviceID 20 && decide (stored = .found),
      (r.devices.getOnline deviceID now).isSome,none⟩)
  | .runCatalogQueries now _ =>
    r.catalogQueue.head?.map fun deviceID =>
      .catalogQuery deviceID ⟨true,(r.devices.getOnline deviceID now).isSome,none⟩
  | .expireDevices now => some (.expireDevices (r.devices.expire now timeout).2)
  | .deleteDevice deviceID stored => some (.deleteDevice deviceID (decide (stored = .found)))
  | .catalog _ _ _ _ _ | .finishOffline _ _ | .finishDeletion _ _ _ | .finishQuery _ _ _ _
  | .message => none

def cleared (r : Server) : Event → Option String
  | .finishOffline deviceID answers =>
    if .offline deviceID answers ∈ r.tasks then some deviceID else none
  | .finishDeletion deviceID _ _ => if .deletion deviceID ∈ r.tasks then some deviceID else none
  | _ => none

def follow (timeout : Int) (r : Server) (s : Signaling.Server) (e : Event) : Signaling.Server :=
  match callOf timeout r e with
  | some c => ((Signaling.deviceCall s c).map Pool.Outcome.shared).getD s
  | none => ((cleared r e).map s.clearStop).getD s

def admissions (timeout : Int) (r : Server) (e : Event) : List Signaling.Event :=
  match e with
  | .register registration _ _ _ _ =>
    if registration.expires ≠ 0 ∧ .answer 200 "OK" ∈ (step timeout r e).2 then
      [.admitted .registration registration.deviceID]
    else []
  | .keepalive deviceID _ _ _ =>
    if .answer 200 "OK" ∈ (step timeout r e).2 then [.admitted .keepalive deviceID] else []
  | .catalogQuery deviceID _ _ _ =>
    if (step timeout r e).2 = [] then [.admitted .catalog deviceID] else []
  | .runCatalogQueries _ _ =>
    if (step timeout r e).1.tasks = r.tasks then []
    else r.catalogQueue.head?.toList.map (.admitted .catalog)
  | _ => []

section
variable {r q : Server} {s t : Signaling.Server} {deviceID : String}

theorem Gates.flags (gates : Gates r s) (same : q.stoppingDevices = r.stoppingDevices)
    (alike : t.stoppingDevices = s.stoppingDevices) : Gates q t := by
  intro d
  rw [alike,gates d,Server.stopping,Server.stopping,same]

theorem Gates.begins (gates : Gates r s) (task : Task) :
    Gates (r.beginDeviceStop deviceID task) (s.beginDeviceStop deviceID) := by
  intro d
  simp only [Signaling.Server.beginDeviceStop,Server.beginDeviceStop,Server.stopping,Table.getSet,
    Function.update_apply,gates d]
  split <;> rfl

theorem Gates.clears (gates : Gates r s) : Gates (r.clearStop deviceID) (s.clearStop deviceID) := by
  intro d
  simp only [Signaling.Server.clearStop,Server.clearStop,Server.stopping,Table.getDelete,
    Function.update_apply,gates d]
  split <;> rfl

theorem beginLog (s : Signaling.Server) (deviceID : String) :
    (s.beginDeviceStop deviceID).log = s.log := by
  unfold Signaling.Server.beginDeviceStop
  cases s.broadcasts.get deviceID <;> rfl

theorem Gates.expires (gates : Gates r s) (offline : List String) (spawned : List Signaling.Frame) :
    Gates (offline.foldl goOffline r) (offline.foldl Signaling.expireStep (s,spawned)).1 ∧
      (offline.foldl Signaling.expireStep (s,spawned)).1.log = s.log := by
  induction offline generalizing r s spawned with
  | nil => exact ⟨gates,rfl⟩
  | cons d rest ih =>
    have same : Gates {r with channels := r.channels.removeDevice d} s := gates.flags rfl rfl
    simp only [List.foldl_cons,goOffline,Signaling.expireStep,gates d]
    cases stops : r.stopping d with
    | true =>
      have still : Server.stopping {r with channels := r.channels.removeDevice d} d = true := stops
      simp only [still,if_true]
      exact ih same spawned
    | false =>
      have still : Server.stopping {r with channels := r.channels.removeDevice d} d = false := stops
      simp only [still,Bool.false_eq_true,if_false]
      obtain ⟨later,log⟩ := ih (same.begins (.offline d false)) (spawned ++ s.deviceStop d)
      exact ⟨later,log.trans (beginLog s d)⟩

def Followed (timeout : Int) (r : Server) (s : Signaling.Server) (e : Event) : Prop :=
  Gates (step timeout r e).1 (follow timeout r s e) ∧
    (follow timeout r s e).log = s.log ++ admissions timeout r e

variable {timeout : Int}

theorem registerFollowed (gates : Gates r s) (registration : Registration) (source : String)
    (now : Int) (stored : Lookup) (authorization : Authorization) :
    Followed timeout r s (.register registration source now stored authorization) := by
  have flag := gates registration.deviceID
  by_cases zero : registration.expires = 0
  · cases known : r.devices.get registration.deviceID <;> cases stored <;> cases authorization <;>
      cases stops : r.stopping registration.deviceID <;>
      simp [Followed,follow,callOf,Signaling.deviceCall,admissions,step,handleRegister,
        Devices.unregister,flag,stops,zero,known,gates,beginLog]
    · exact gates.flags rfl rfl
    · exact (gates.begins (.offline registration.deviceID true)).flags rfl rfl
  · cases stored <;> cases authorization <;> cases stops : r.stopping registration.deviceID <;>
      simp [Followed,follow,callOf,Signaling.deviceCall,admissions,step,handleRegister,flag,stops,
        zero,gates,Signaling.Server.admission,Signaling.Server.record]
    refine gates.flags ?_ rfl
    unfold Server.enqueueCatalog
    split
    · split <;> rfl
    · rfl

theorem keepaliveFollowed (gates : Gates r s) (sender source : String) (now : Int) :
    Followed timeout r s (.keepalive deviceID sender source now) := by
  have flags : (step timeout r (.keepalive deviceID sender source now)).1.stoppingDevices =
      r.stoppingDevices := by
    simp only [step,handleKeepalive]
    split
    · rfl
    · split <;> rfl
  simp only [Followed,follow,callOf,Signaling.deviceCall,gates deviceID]
  by_cases own : sender = deviceID
  · cases stops : r.stopping deviceID <;>
      cases took : (r.devices.keepalive deviceID source now).2 <;>
      refine ⟨gates.flags flags ?_,?_⟩ <;>
      simp [own,stops,took,admissions,step,handleKeepalive,Signaling.Server.admission,
        Signaling.Server.record]
  · refine ⟨gates.flags flags ?_,?_⟩ <;> simp [own,admissions,step,handleKeepalive]

theorem queryFlags (r : Server) (deviceID : String) (clock : Int) (answers : Bool) :
    (r.beginQuery deviceID clock answers).stoppingDevices = r.stoppingDevices ∧
      (r.beginQuery deviceID clock answers).tasks ≠ r.tasks := by
  simp [Server.beginQuery]

theorem catalogQueryFollowed (gates : Gates r s) (stored : Lookup) (now clock : Int) :
    Followed timeout r s (.catalogQuery deviceID stored now clock) := by
  have flags : (step timeout r (.catalogQuery deviceID stored now clock)).1.stoppingDevices =
      r.stoppingDevices := by
    simp only [step,handleCatalogQuery]
    split
    · rfl
    · split
      · rfl
      · rfl
      · split
        · rfl
        · split
          · rfl
          · exact (queryFlags r deviceID clock true).1
  simp only [Followed,follow,callOf,Signaling.deviceCall,gates deviceID]
  cases valid : validDigits deviceID 20 with
  | false =>
    refine ⟨gates.flags flags ?_,?_⟩ <;> simp [admissions,step,handleCatalogQuery,valid]
  | true =>
    cases stored <;> cases stops : r.stopping deviceID <;>
      cases online : (r.devices.getOnline deviceID now) <;>
      refine ⟨gates.flags flags ?_,?_⟩ <;>
      simp [admissions,step,handleCatalogQuery,valid,stops,online,
        Signaling.Server.admission,Signaling.Server.record]

theorem queuedFollowed (gates : Gates r s) (now clock : Int) :
    Followed timeout r s (.runCatalogQueries now clock) := by
  cases queue : r.catalogQueue with
  | nil =>
    simp only [Followed,follow,callOf,admissions,step,runCatalogQueries,queue,List.head?_nil]
    exact ⟨gates,by simp [cleared]⟩
  | cons d rest =>
    simp only [Followed,follow,callOf,admissions,step,runCatalogQueries,queue,List.head?_cons,
      Option.map_some,Signaling.deviceCall,gates d]
    have dequeued : Gates {r with catalogQueue := rest} s := gates.flags rfl rfl
    cases online : r.devices.getOnline d now with
    | none => simpa [online] using dequeued
    | some device =>
      cases stops : r.stopping d with
      | true =>
        have still : Server.stopping {r with catalogQueue := rest} d = true := stops
        simpa [still] using dequeued
      | false =>
        have still : Server.stopping {r with catalogQueue := rest} d = false := stops
        obtain ⟨flags,more⟩ := queryFlags {r with catalogQueue := rest} d clock false
        simp only [still,Option.isNone_some,Bool.or_self,Bool.false_eq_true,if_false,if_neg more]
        exact ⟨gates.flags flags rfl,by simp [Signaling.Server.admission,Signaling.Server.record]⟩

theorem expireFollowed (gates : Gates r s) (now : Int) :
    Followed timeout r s (.expireDevices now) := by
  have start : Gates {r with
      devices := (r.devices.expire now timeout).1
      channels := r.channels.expire now} s := gates.flags rfl rfl
  obtain ⟨later,log⟩ := start.expires (r.devices.expire now timeout).2 []
  exact ⟨later,log.trans (List.append_nil _).symm⟩

theorem deleteFollowed (gates : Gates r s) (stored : Lookup) :
    Followed timeout r s (.deleteDevice deviceID stored) := by
  simp only [Followed,follow,callOf,Signaling.deviceCall,admissions,gates deviceID,step,deleteDevice]
  cases stored with
  | missing => exact ⟨gates,by simp⟩
  | failed => exact ⟨gates,by simp⟩
  | found =>
    cases stops : r.stopping deviceID with
    | true => exact ⟨gates,by simp⟩
    | false => exact ⟨gates.begins _,by simp [beginLog]⟩

theorem finishFollowed (gates : Gates r s) (task : Task) {last : Server → Server × List Effect}
    (cleans : ∀ q : Server, (last q).1.stoppingDevices = (q.clearStop deviceID).stoppingDevices) :
    Gates (r.finish task last).1
      (((if task ∈ r.tasks then some deviceID else none).map s.clearStop).getD s) := by
  unfold Server.finish
  split
  · have taken : Gates {r with tasks := r.tasks.erase task} s := gates.flags rfl rfl
    exact taken.clears.flags (cleans _) rfl
  · exact gates

theorem followsGates (timeout : Int) (gates : Gates r s) (e : Event) : Followed timeout r s e := by
  cases e with
  | register registration source now stored authorization =>
    exact registerFollowed gates registration source now stored authorization
  | keepalive deviceID sender source now => exact keepaliveFollowed gates sender source now
  | catalog response sender source now clock =>
    refine ⟨gates.flags ?_ rfl,(List.append_nil _).symm⟩
    simp only [step,handleCatalog]
    split
    · rfl
    · split <;> rfl
  | runCatalogQueries now clock => exact queuedFollowed gates now clock
  | catalogQuery deviceID stored now clock => exact catalogQueryFollowed gates stored now clock
  | expireDevices now => exact expireFollowed gates now
  | deleteDevice deviceID stored => exact deleteFollowed gates stored
  | finishOffline deviceID answers =>
    refine ⟨finishFollowed gates _ fun _ => rfl,?_⟩
    simp only [follow,callOf,cleared,admissions,List.append_nil]
    split <;> rfl
  | finishDeletion deviceID stopFailed stored =>
    refine ⟨finishFollowed gates _ fun q => ?_,?_⟩
    · unfold finishDeletion
      cases stopFailed with
      | true => rfl
      | false => cases stored <;> rfl
    · simp only [follow,callOf,cleared,admissions,List.append_nil]
      split <;> rfl
  | finishQuery deviceID sn answers sending =>
    refine ⟨gates.flags ?_ rfl,(List.append_nil _).symm⟩
    simp only [step,Server.finish]
    split
    · cases sending <;> rfl
    · rfl
  | message => exact ⟨gates.flags rfl rfl,(List.append_nil _).symm⟩

end

/- Whatever else the server does in between leaves the flags alone. -/
inductive Together (timeout : Int) : Server → Signaling.Server → Prop where
  | start {s} (idle : ∀ deviceID, s.stoppingDevices deviceID = false) : Together timeout .start s
  | device {r s} (before : Together timeout r s) (e : Event) :
      Together timeout (step timeout r e).1 (follow timeout r s e)
  | other {r s t} (before : Together timeout r s) (same : t.stoppingDevices = s.stoppingDevices) :
      Together timeout r t

theorem togetherGates {timeout : Int} {r : Server} {s : Signaling.Server}
    (together : Together timeout r s) : Gates r s := by
  induction together with
  | start idle => exact idle
  | device before e gates => exact (followsGates timeout gates e).1
  | other before same gates => exact gates.flags rfl same

end MediaServer.DeviceRegistry
