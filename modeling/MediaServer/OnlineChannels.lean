import MediaServer.DeviceRegistry

/-! Which devices have channels. Each operation of the two registries is described by what it does to
the devices that are online and to the devices that have a channel list or a pending catalog; the
sections are put together from these. -/
namespace MediaServer.DeviceRegistry
open Controller

def Online (devices : Devices) (deviceID : String) : Prop :=
  ∃ device, devices.get deviceID = some device ∧ device.online = true

def Channels.Lists (r : Channels) (deviceID : String) : Prop :=
  (r.channels.get deviceID).isSome = true ∨ ∃ sn, (r.pending.get ⟨deviceID,sn⟩).isSome = true

theorem unregisterOnline (devices : Devices) (gone deviceID : String) :
    Online (devices.unregister gone).1 deviceID ↔ deviceID ≠ gone ∧ Online devices deviceID := by
  by_cases same : deviceID = gone <;> simp [Devices.unregister,Online,same]

theorem registerOnline (devices : Devices) (device : RegisteredDevice) (up : device.online = true)
    (deviceID : String) :
    Online (devices.register device).1 deviceID ↔ deviceID = device.id ∨ Online devices deviceID := by
  by_cases same : deviceID = device.id <;> simp [Devices.register,Online,same,up]

theorem keepaliveOnline (devices : Devices) (alive source : String) (now : Int)
    (deviceID : String) :
    Online (devices.keepalive alive source now).1 deviceID ↔ Online devices deviceID := by
  unfold Devices.keepalive
  split
  · rename_i device found
    split
    · by_cases same : deviceID = alive
      · subst same
        simp [Online,found]
      · simp [Online,same]
    · rfl
  · rfl

variable {deviceID : String} {r : Channels} {s t : Server} {joined : String → Prop}

theorem getOnlineOnline {devices : Devices} {now : Int}
    (some_ : ¬(devices.getOnline deviceID now).isNone = true) : Online devices deviceID := by
  obtain ⟨device,found⟩ := Option.ne_none_iff_exists'.mp (by simpa using some_)
  obtain ⟨here,up⟩ := Option.filter_eq_some_iff.mp found
  simp only [Bool.and_eq_true] at up
  exact ⟨device,here,up.1⟩

theorem expireOneOffline (now timeout : Int) (out : Devices × List String)
    (entry : String × RegisteredDevice) :
    out.2 ⊆ (Devices.expireOne now timeout out entry).2 := by
  unfold Devices.expireOne
  split
  · split <;> simp
  · split <;> simp

theorem expireLoopOffline (now timeout : Int) (entries : List (String × RegisteredDevice))
    (out : Devices × List String) :
    out.2 ⊆ (entries.foldl (Devices.expireOne now timeout) out).2 := by
  induction entries generalizing out with
  | nil => exact fun _ member => member
  | cons entry rest ih => exact List.Subset.trans (expireOneOffline now timeout out entry) (ih _)

theorem expireOneGet (now timeout : Int) (out : Devices × List String)
    (entry : String × RegisteredDevice) (here : out.1.get entry.1 = some entry.2) :
    (∀ other, other ≠ entry.1 →
        (Devices.expireOne now timeout out entry).1.get other = out.1.get other) ∧
      (Online (Devices.expireOne now timeout out entry).1 entry.1 → Online out.1 entry.1) ∧
      (Online out.1 entry.1 → Online (Devices.expireOne now timeout out entry).1 entry.1 ∨
        entry.1 ∈ (Devices.expireOne now timeout out entry).2) := by
  unfold Devices.expireOne
  split
  · refine ⟨by simp +contextual,by simp [Online],?_⟩
    rintro ⟨device,found,up⟩
    rw [here] at found
    cases found
    simp [up]
  · split
    · exact ⟨by simp +contextual,by simp [Online],by simp⟩
    · exact ⟨fun _ _ => rfl,id,.inl⟩

theorem expireLoopOnline (now timeout : Int) {entries : List (String × RegisteredDevice)}
    {out : Devices × List String} (distinct : (entries.map Prod.fst).Nodup)
    (here : ∀ entry ∈ entries, out.1.get entry.1 = some entry.2) (deviceID : String) :
    (Online (entries.foldl (Devices.expireOne now timeout) out).1 deviceID →
        Online out.1 deviceID) ∧
      (Online out.1 deviceID →
        Online (entries.foldl (Devices.expireOne now timeout) out).1 deviceID ∨
          deviceID ∈ (entries.foldl (Devices.expireOne now timeout) out).2) := by
  induction entries generalizing out with
  | nil => exact ⟨id,.inl⟩
  | cons entry rest ih =>
    obtain ⟨others,down,up⟩ := expireOneGet now timeout out entry (here entry (by simp))
    obtain ⟨absent,distinct⟩ := List.nodup_cons.mp distinct
    have later : ∀ e ∈ rest, (Devices.expireOne now timeout out entry).1.get e.1 = some e.2 := by
      intro e member
      rw [others e.1 fun same => absent (same ▸ List.mem_map_of_mem member)]
      exact here e (by simp [member])
    obtain ⟨back,forth⟩ := ih distinct later
    by_cases same : deviceID = entry.1
    · subst same
      refine ⟨fun online => down (back online),fun online => ?_⟩
      rcases up online with still | noted
      · exact forth still
      · exact .inr (expireLoopOffline now timeout rest _ noted)
    · have equal : Online (Devices.expireOne now timeout out entry).1 deviceID ↔
          Online out.1 deviceID := by
        simp only [Online,others deviceID same]
      exact ⟨fun online => equal.mp (back online),fun online => forth (equal.mpr online)⟩

theorem expireOnline (devices : Devices) (now timeout : Int) (deviceID : String) :
    (Online (devices.expire now timeout).1 deviceID → Online devices deviceID) ∧
      (Online devices deviceID → Online (devices.expire now timeout).1 deviceID ∨
        deviceID ∈ (devices.expire now timeout).2) :=
  expireLoopOnline now timeout devices.keysNodup
    (fun _ member => Table.memEntries.mp member) deviceID

theorem removeLists (r : Channels) (gone deviceID : String) :
    (r.removeDevice gone).Lists deviceID ↔ deviceID ≠ gone ∧ r.Lists deviceID := by
  by_cases same : deviceID = gone
  · simp [Channels.removeDevice,Channels.Lists,same]
  · have other : (deviceID == gone) = false := beq_false_of_ne same
    simp [Channels.removeDevice,Channels.Lists,same,other]

theorem expireLists {now : Int} (lists : (r.expire now).Lists deviceID) : r.Lists deviceID := by
  refine lists.imp_right ?_
  rintro ⟨sn,found⟩
  rw [Channels.expire,Table.getDeleteFunc] at found
  exact ⟨sn,Option.isSome_of_isSome_filter _ _ found⟩

theorem deletedLists {key : CatalogKey}
    (lists : Channels.Lists {r with pending := r.pending.delete key} deviceID) :
    r.Lists deviceID := by
  refine lists.imp_right ?_
  rintro ⟨sn,found⟩
  rw [Table.getDelete] at found
  split at found
  · contradiction
  · exact ⟨sn,found⟩

theorem pendingLists {key : CatalogKey} {pending : PendingCatalog}
    (lists : Channels.Lists {r with pending := r.pending.set key pending} deviceID) :
    deviceID = key.deviceID ∨ r.Lists deviceID := by
  rcases lists with channels | ⟨sn,found⟩
  · exact .inr (.inl channels)
  · rw [Table.getSet] at found
    split at found
    · rename_i same
      exact .inl (congrArg CatalogKey.deviceID same)
    · exact .inr (.inr ⟨sn,found⟩)

theorem applyLists {clock : Int} {response : CatalogResponse}
    (lists : (r.apply clock response).1.Lists deviceID) : r.Lists deviceID := by
  simp only [Channels.apply] at lists
  split at lists
  · exact lists
  · rename_i pending found
    have own : r.Lists response.deviceID := .inr ⟨response.sn,by rw [found]; rfl⟩
    generalize (if pending.expected = 0 then response.sumNum else pending.expected) = expected
      at lists
    split at lists
    · exact lists
    · split at lists
      · exact deletedLists lists
      · split at lists
        · exact lists
        · split at lists
          · exact lists
          · split at lists
            · exact lists
            · split at lists
              · by_cases same : deviceID = response.deviceID
                · rw [same]
                  exact own
                · have kept : Channels.Lists
                      {r with pending := r.pending.delete ⟨response.deviceID,response.sn⟩}
                      deviceID := by
                    simpa [Channels.Lists,same] using lists
                  exact deletedLists kept
              · rcases pendingLists lists with same | kept
                · rw [same]
                  exact own
                · exact kept

structure Turn (s t : Server) (joined : String → Prop) : Prop where
  online : ∀ d, Online t.devices d → Online s.devices d ∨ joined d
  listed : ∀ d, t.channels.Lists d →
    Online t.devices d ∨ s.channels.Lists d ∧ (Online s.devices d → Online t.devices d)

theorem Turn.of (online : ∀ d, Online t.devices d ↔ Online s.devices d)
    (listed : ∀ d, t.channels.Lists d → Online s.devices d ∨ s.channels.Lists d) :
    Turn s t joined := by
  constructor
  · exact fun d up => .inl ((online d).mp up)
  · intro d lists
    rcases listed d lists with up | before
    · exact .inl ((online d).mpr up)
    · exact .inr ⟨before,(online d).mpr⟩

theorem Turn.same (devices : t.devices = s.devices) (channels : t.channels = s.channels) :
    Turn s t joined :=
  .of (fun d => by rw [devices]) fun d lists => .inr (channels ▸ lists)

theorem goOfflineLoop (offline : List String) (s : Server) :
    (offline.foldl goOffline s).devices = s.devices ∧
      ∀ d, (offline.foldl goOffline s).channels.Lists d → d ∉ offline ∧ s.channels.Lists d := by
  induction offline generalizing s with
  | nil => simp
  | cons first rest ih =>
    have one : (goOffline s first).devices = s.devices ∧
        (goOffline s first).channels = s.channels.removeDevice first := by
      simp only [goOffline]
      split <;> exact ⟨rfl,rfl⟩
    obtain ⟨devices,lists⟩ := ih (goOffline s first)
    refine ⟨devices.trans one.1,?_⟩
    intro d member
    obtain ⟨absent,before⟩ := lists d member
    rw [one.2,removeLists] at before
    exact ⟨by simp [before.1,absent],before.2⟩

theorem expireTurn (timeout : Int) (s : Server) (now : Int) (joined : String → Prop) :
    Turn s (expireDevices timeout s now) joined := by
  obtain ⟨devices,lists⟩ := goOfflineLoop (s.devices.expire now timeout).2
    {s with devices := (s.devices.expire now timeout).1, channels := s.channels.expire now}
  constructor
  · intro d up
    simp only [expireDevices,devices] at up
    exact .inl ((expireOnline s.devices now timeout d).1 up)
  · intro d member
    obtain ⟨kept,before⟩ := lists d member
    refine .inr ⟨expireLists before,fun up => ?_⟩
    simp only [expireDevices,devices]
    exact ((expireOnline s.devices now timeout d).2 up).resolve_right kept

theorem removedTurn {gone : String} (devices : t.devices = (s.devices.unregister gone).1)
    (channels : t.channels = s.channels.removeDevice gone) : Turn s t joined := by
  constructor
  · intro d up
    rw [devices,unregisterOnline] at up
    exact .inl up.2
  · intro d lists
    rw [channels,removeLists] at lists
    refine .inr ⟨lists.2,fun up => ?_⟩
    rw [devices,unregisterOnline]
    exact ⟨lists.1,up⟩

theorem beginQueryTurn {clock : Int} {answers : Bool} (up : Online s.devices deviceID) :
    Turn s (s.beginQuery deviceID clock answers) joined := by
  refine .of (fun _ => Iff.rfl) ?_
  intro d lists
  rcases pendingLists lists with same | before
  · rw [same]
    exact .inl up
  · exact .inr before

def Registers (e : Event) (effects : List Effect) (deviceID : String) : Prop :=
  ∃ registration source now stored authorization,
    e = .register registration source now stored authorization ∧
    registration.deviceID = deviceID ∧ registration.expires ≠ 0 ∧ effects = [.answer 200 "OK"]

theorem enqueueKept (s : Server) (deviceID : String) :
    (s.enqueueCatalog deviceID).devices = s.devices ∧
      (s.enqueueCatalog deviceID).channels = s.channels := by
  unfold Server.enqueueCatalog
  split <;> exact ⟨rfl,rfl⟩

theorem registerTurn (s : Server) (registration : Registration) (source : String) (now : Int)
    (stored : Lookup) (authorization : Authorization) :
    Turn s (handleRegister s registration source now stored authorization).1
      (Registers (.register registration source now stored authorization)
        (handleRegister s registration source now stored authorization).2) := by
  generalize given : handleRegister s registration source now stored authorization = out
  simp only [handleRegister] at given
  split at given
  · subst given; exact .same rfl rfl
  · split at given
    · subst given; exact .same rfl rfl
    · cases authorization with
      | challenged => subst given; exact .same rfl rfl
      | failed => subst given; exact .same rfl rfl
      | verified =>
        dsimp only at given
        split at given
        · split at given
          · subst given; exact removedTurn rfl rfl
          · rename_i absent
            subst given
            refine .of (fun d => ?_) fun d lists => .inr lists
            rw [unregisterOnline]
            refine and_iff_right_of_imp ?_
            rintro ⟨device,found,_⟩ same
            subst same
            exact absent (by simp [Devices.unregister,found])
        · rename_i lifetime
          have devices : out.1.devices = (s.devices.register ⟨registration.deviceID,
              registration.contact,source,now + registration.expires * 1000000000,now,true⟩).1 ∧
              out.1.channels = s.channels ∧ out.2 = [.answer 200 "OK"] := by
            subst given
            dsimp only
            split
            · exact ⟨(enqueueKept _ _).1,(enqueueKept _ _).2,rfl⟩
            · exact ⟨rfl,rfl,rfl⟩
          obtain ⟨devices,channels,answered⟩ := devices
          constructor
          · intro d up
            rw [devices,registerOnline _ _ rfl] at up
            rcases up with same | before
            · exact .inr ⟨registration,source,now,stored,.verified,rfl,same.symm,lifetime,answered⟩
            · exact .inl before
          · intro d lists
            rw [channels] at lists
            refine .inr ⟨lists,fun up => ?_⟩
            rw [devices,registerOnline _ _ rfl]
            exact .inr up

theorem Server.finishTurn {task : Task} {last : Server → Server × List Effect}
    (turn : ∀ tasks, Turn {s with tasks := tasks} (last {s with tasks := tasks}).1 joined) :
    Turn s (s.finish task last).1 joined := by
  unfold Server.finish
  split
  · obtain ⟨online,listed⟩ := turn (s.tasks.erase task)
    exact ⟨online,listed⟩
  · exact .same rfl rfl

theorem turn (timeout : Int) (s : Server) (e : Event) :
    Turn s (step timeout s e).1 (Registers e (step timeout s e).2) := by
  cases e with
  | register registration source now stored authorization =>
    exact registerTurn s registration source now stored authorization
  | keepalive deviceID sender source now =>
    simp only [step,handleKeepalive]
    split
    · exact .same rfl rfl
    · split
      · exact .same rfl rfl
      · exact .of (keepaliveOnline s.devices deviceID source now) fun d lists => .inr lists
  | catalog response sender source now clock =>
    simp only [step,handleCatalog]
    split
    · exact .same rfl rfl
    · split
      · exact .same rfl rfl
      · exact .of (fun _ => Iff.rfl) fun d lists => .inr (applyLists lists)
  | runCatalogQueries now clock =>
    simp only [step,runCatalogQueries]
    split
    · exact .same rfl rfl
    · split
      · exact .same rfl rfl
      · rename_i deviceID rest _ open_
        simp only [Bool.or_eq_true,not_or] at open_
        have begun : Turn {s with catalogQueue := rest}
            (Server.beginQuery {s with catalogQueue := rest} deviceID clock false)
            (Registers (.runCatalogQueries now clock) []) :=
          beginQueryTurn (getOnlineOnline open_.1)
        exact ⟨begun.online,begun.listed⟩
  | catalogQuery deviceID stored now clock =>
    simp only [step,handleCatalogQuery]
    split
    · exact .same rfl rfl
    · cases stored with
      | missing => exact .same rfl rfl
      | failed => exact .same rfl rfl
      | found =>
        dsimp only
        split
        · exact .same rfl rfl
        · split
          · exact .same rfl rfl
          · rename_i up
            exact beginQueryTurn (getOnlineOnline up)
  | expireDevices now => exact expireTurn timeout s now _
  | deleteDevice deviceID stored =>
    cases stored with
    | missing => exact .same rfl rfl
    | failed => exact .same rfl rfl
    | found =>
      simp only [step,deleteDevice]
      split
      · exact .same rfl rfl
      · exact .same rfl rfl
  | finishOffline deviceID answers => exact Server.finishTurn fun _ => .same rfl rfl
  | finishDeletion deviceID stopFailed stored =>
    refine Server.finishTurn fun _ => ?_
    simp only [finishDeletion]
    split
    · exact .same rfl rfl
    · cases stored with
      | missing => exact .same rfl rfl
      | failed => exact .same rfl rfl
      | found => exact removedTurn rfl rfl
  | finishQuery deviceID sn answers sending =>
    refine Server.finishTurn fun _ => ?_
    cases sending with
    | accepted => exact .same rfl rfl
    | failed => exact .of (fun _ => Iff.rfl) fun d lists => .inr (deletedLists lists)
    | timedOut => exact .of (fun _ => Iff.rfl) fun d lists => .inr (deletedLists lists)
  | message => exact .same rfl rfl

def Consistent (s : Server) : Prop := ∀ d, s.channels.Lists d → Online s.devices d

theorem consistentStep (timeout : Int) (s : Server) (e : Event) (good : Consistent s) :
    Consistent (step timeout s e).1 := by
  intro d lists
  rcases (turn timeout s e).listed d lists with up | ⟨before,kept⟩
  · exact up
  · exact kept (good d before)

theorem consistentRun (timeout : Int) (events : List Event) (good : Consistent s) :
    Consistent (final (step timeout) s events) := by
  induction events generalizing s with
  | nil => exact good
  | cons e rest ih => exact ih (consistentStep timeout s e good)

theorem offlineRun (timeout : Int) (events : List Event) {d : String} (down : ¬Online s.devices d)
    (quiet : ∀ r ∈ rounds (step timeout) s events, ¬Registers r.event r.effects d) :
    ¬Online (final (step timeout) s events).devices d := by
  induction events generalizing s with
  | nil => exact down
  | cons e rest ih =>
    obtain ⟨now,later⟩ := List.forall_mem_cons.mp quiet
    refine ih ?_ later
    intro up
    rcases (turn timeout s e).online d up with before | joined
    · exact down before
    · exact now joined

theorem deletionRemoves {timeout : Int} {d : String} {stopFailed : Bool} {stored : Lookup}
    (done : step timeout s (.finishDeletion d stopFailed stored) = (t,[.answer 204 ""])) :
    ¬Online t.devices d ∧ ¬t.channels.Lists d := by
  simp only [step,Server.finish,finishDeletion] at done
  split at done
  · split at done
    · simp at done
    · cases stored with
      | missing => simp at done
      | failed => simp at done
      | found =>
        obtain ⟨same,_⟩ := Prod.mk.inj done
        subst same
        exact ⟨fun up => ((unregisterOnline _ d d).mp up).1 rfl,
          fun lists => ((removeLists _ d d).mp lists).1 rfl⟩
  · simp at done

theorem channelsOnline (timeout : Int) (events : List Event) :
    Consistent (final (step timeout) .start events) ∧
      (∀ later d, ¬Online (final (step timeout) .start events).devices d →
        (∀ r ∈ rounds (step timeout) (final (step timeout) .start events) later,
          ¬Registers r.event r.effects d) →
        ¬Online (final (step timeout) (final (step timeout) .start events) later).devices d ∧
          ¬(final (step timeout) (final (step timeout) .start events) later).channels.Lists d) ∧
      (∀ r ∈ rounds (step timeout) .start events, ∀ d stopFailed stored,
        r.event = .finishDeletion d stopFailed stored → r.effects = [.answer 204 ""] →
          ¬Online r.next.devices d ∧ ¬r.next.channels.Lists d) := by
  have start : Consistent .start := by
    intro d lists
    simp [Server.start,Channels.Lists] at lists
  have good := consistentRun timeout events start
  refine ⟨good,?_,?_⟩
  · intro later d down quiet
    have still := offlineRun timeout later down quiet
    exact ⟨still,fun lists => still (consistentRun timeout later good d lists)⟩
  · intro r member d stopFailed stored event answered
    obtain ⟨_,same⟩ := roundsInvariant (P := fun _ => True) trivial (fun _ _ _ => trivial) r member
    rw [event,answered] at same
    exact deletionRemoves same

end MediaServer.DeviceRegistry
