import Mathlib.Algebra.Order.Ring.Int
import MediaServer.Table
import MediaServer.Controller

/-! device_registry.go and channel_registry.go, with the sections of register.go, heartbeat.go,
catalog.go, gb_http.go and device_lifecycle.go that use them under the lock of the live service.
What a handler still has to do behind its first section is a task. Times are in nanoseconds; the
answers of the device store, of the digest check and of the device are inputs. -/
namespace MediaServer.DeviceRegistry
open Controller

def validDigits (value : String) (length : Nat) : Bool :=
  value.utf8ByteSize == length && value.toList.all fun digit => '0' ≤ digit && digit ≤ '9'

structure RegisteredDevice where
  id : String
  contact : String
  remoteEndpoint : String
  expiresAt : Int
  lastHeartbeat : Int
  online : Bool
  deriving DecidableEq, Repr

abbrev Devices := Table String RegisteredDevice

def Devices.register (devices : Devices) (device : RegisteredDevice) : Devices × Bool :=
  (devices.set device.id device,
    match devices.get device.id with
    | some existing => !existing.online
    | none => true)

def Devices.registeredSource (devices : Devices) (deviceID remoteEndpoint : String) (now : Int) :
    Bool :=
  match devices.get deviceID with
  | some device =>
    device.online && decide (now < device.expiresAt) && device.remoteEndpoint == remoteEndpoint
  | none => false

def Devices.unregister (devices : Devices) (deviceID : String) : Devices × Bool :=
  (devices.delete deviceID,(devices.get deviceID).isSome)

def Devices.getOnline (devices : Devices) (deviceID : String) (now : Int) :
    Option RegisteredDevice :=
  (devices.get deviceID).filter fun device => device.online && decide (now < device.expiresAt)

def Devices.keepalive (devices : Devices) (deviceID remoteEndpoint : String) (now : Int) :
    Devices × Bool :=
  match devices.get deviceID with
  | some device =>
    if device.online && device.remoteEndpoint == remoteEndpoint && decide (now < device.expiresAt)
    then (devices.set deviceID {device with lastHeartbeat := now},true)
    else (devices,false)
  | none => (devices,false)

def Devices.expireOne (now heartbeatTimeout : Int) (out : Devices × List String)
    (entry : String × RegisteredDevice) : Devices × List String :=
  if entry.2.expiresAt ≤ now then
    (out.1.delete entry.1,if entry.2.online then out.2 ++ [entry.1] else out.2)
  else if entry.2.online && decide (entry.2.lastHeartbeat + heartbeatTimeout ≤ now) then
    (out.1.set entry.1 {entry.2 with online := false},out.2 ++ [entry.1])
  else out

def Devices.expire (devices : Devices) (now heartbeatTimeout : Int) : Devices × List String :=
  devices.entries.foldl (expireOne now heartbeatTimeout) (devices,[])

structure Channel where
  deviceID : String
  id : String
  name : String
  parentID : String
  status : String
  deriving DecidableEq, Repr

structure CatalogKey where
  deviceID : String
  sn : Int
  deriving DecidableEq, Repr

structure PendingCatalog where
  expected : Int
  channels : Table String Channel
  expiresAt : Int

structure Channels where
  channels : Table String (Table String Channel)
  pending : Table CatalogKey PendingCatalog

structure CatalogChannel where
  deviceID : String
  name : String
  parentID : String
  status : String
  deriving DecidableEq, Repr

structure CatalogResponse where
  cmdType : String
  sn : Int
  deviceID : String
  sumNum : Int
  num : Int
  items : List CatalogChannel
  deriving DecidableEq, Repr

def Channels.beginQuery (r : Channels) (deviceID : String) (sn clock : Int) : Channels :=
  {r with pending := r.pending.set ⟨deviceID,sn⟩ ⟨0,∅,clock + 10000000000⟩}

def Channels.cancelQuery (r : Channels) (deviceID : String) (sn : Int) : Channels :=
  {r with pending := r.pending.delete ⟨deviceID,sn⟩}

def merge (deviceID : String) : List CatalogChannel → Table String Channel →
    Option (Table String Channel)
  | [], merged => some merged
  | item :: rest, merged =>
    if validDigits item.deviceID 20 then
      merge deviceID rest (merged.set item.deviceID
        ⟨deviceID,item.deviceID,item.name,item.parentID,
          if item.status ≠ "ON" then "OFF" else item.status⟩)
    else none

def Channels.apply (r : Channels) (clock : Int) (response : CatalogResponse) :
    Channels × Option String :=
  let key : CatalogKey := ⟨response.deviceID,response.sn⟩
  match r.pending.get key with
  | none => (r,some "invalid Catalog response")
  | some pending =>
    if response.sumNum < 0 || response.num ≠ response.items.length ||
        response.sumNum < response.items.length then
      (r,some "invalid Catalog response")
    else if pending.expiresAt ≤ clock then
      ({r with pending := r.pending.delete key},some "expired Catalog response")
    else
      let expected := if pending.expected = 0 then response.sumNum else pending.expected
      if expected ≠ response.sumNum then (r,some "inconsistent Catalog SumNum")
      else
        match merge response.deviceID response.items pending.channels with
        | none => (r,some "invalid Catalog channel")
        | some merged =>
          if expected < merged.entries.length then (r,some "Catalog exceeds SumNum")
          else if merged.entries.length = expected then
            (⟨r.channels.set response.deviceID merged,r.pending.delete key⟩,none)
          else
            let pending := {pending with expected := expected, channels := merged}
            ({r with pending := r.pending.set key pending},none)

def Channels.removeDevice (r : Channels) (deviceID : String) : Channels :=
  ⟨r.channels.delete deviceID,r.pending.deleteFunc fun key _ => key.deviceID == deviceID⟩

def Channels.expire (r : Channels) (now : Int) : Channels :=
  {r with pending := r.pending.deleteFunc fun _ pending => decide (pending.expiresAt ≤ now)}

inductive Lookup where
  | found | missing | failed
  deriving DecidableEq, Repr

inductive Authorization where
  | verified | challenged | failed
  deriving DecidableEq, Repr

inductive Sending where
  | accepted | failed | timedOut
  deriving DecidableEq, Repr

inductive Task where
  | offline (deviceID : String) (answers : Bool)
  | deletion (deviceID : String)
  | query (deviceID : String) (sn : Int) (answers : Bool)
  deriving DecidableEq, Repr

structure Server where
  devices : Devices
  channels : Channels
  stoppingDevices : Table String Unit
  catalogQueue : List String
  messageSN : Nat
  tasks : List Task

def Server.start : Server := ⟨∅,⟨∅,∅⟩,∅,[],0,[]⟩

inductive Effect where
  | answer (code : Nat) (text : String)
  deriving DecidableEq, Repr

structure Registration where
  deviceID : String
  contact : String
  expires : Nat
  deriving DecidableEq, Repr

inductive Event where
  | register (registration : Registration) (source : String) (now : Int) (stored : Lookup)
      (authorization : Authorization)
  | keepalive (deviceID sender source : String) (now : Int)
  | catalog (response : CatalogResponse) (sender source : String) (now clock : Int)
  | runCatalogQueries (now clock : Int)
  | catalogQuery (deviceID : String) (stored : Lookup) (now clock : Int)
  | expireDevices (now : Int)
  | deleteDevice (deviceID : String) (stored : Lookup)
  | finishOffline (deviceID : String) (answers : Bool)
  | finishDeletion (deviceID : String) (stopFailed : Bool) (stored : Lookup)
  | finishQuery (deviceID : String) (sn : Int) (answers : Bool) (sending : Sending)
  | message
  deriving DecidableEq, Repr

def Server.stopping (s : Server) (deviceID : String) : Bool :=
  (s.stoppingDevices.get deviceID).isSome

def Server.beginDeviceStop (s : Server) (deviceID : String) (task : Task) : Server :=
  {s with stoppingDevices := s.stoppingDevices.set deviceID (), tasks := s.tasks ++ [task]}

def Server.enqueueCatalog (s : Server) (deviceID : String) : Server :=
  if s.catalogQueue.length < 256 then {s with catalogQueue := s.catalogQueue ++ [deviceID]} else s

def handleRegister (s : Server) (registration : Registration) (source : String) (now : Int)
    (stored : Lookup) (authorization : Authorization) : Server × List Effect :=
  let deviceID := registration.deviceID
  if stored = .failed then (s,[.answer 500 "Internal Server Error"])
  else if stored = .missing || s.stopping deviceID then (s,[.answer 403 "Forbidden"])
  else
    match authorization with
    | .challenged => (s,[.answer 401 "Unauthorized"])
    | .failed => (s,[.answer 500 "Internal Server Error"])
    | .verified =>
      if registration.expires = 0 then
        let (devices,existed) := s.devices.unregister deviceID
        let s := {s with devices := devices}
        if existed then
          ({s.beginDeviceStop deviceID (.offline deviceID true) with
            channels := s.channels.removeDevice deviceID},[])
        else (s,[.answer 200 "OK"])
      else
        let (devices,shouldQuery) := s.devices.register
          ⟨deviceID,registration.contact,source,now + registration.expires * 1000000000,now,true⟩
        let s := {s with devices := devices}
        (if shouldQuery then s.enqueueCatalog deviceID else s,[.answer 200 "OK"])

def handleKeepalive (s : Server) (deviceID sender source : String) (now : Int) :
    Server × List Effect :=
  if sender ≠ deviceID then (s,[.answer 400 "Bad Request"])
  else if s.stopping deviceID then (s,[.answer 403 "Forbidden"])
  else
    let (devices,accepted) := s.devices.keepalive deviceID source now
    ({s with devices := devices},
      [if accepted then .answer 200 "OK" else .answer 403 "Forbidden"])

def handleCatalog (s : Server) (response : CatalogResponse) (sender source : String)
    (now clock : Int) : Server × List Effect :=
  if response.cmdType ≠ "Catalog" || response.sn ≤ 0 || !validDigits response.deviceID 20 ||
      sender ≠ response.deviceID then
    (s,[.answer 400 "Bad Request"])
  else if s.stopping response.deviceID ||
      !s.devices.registeredSource response.deviceID source now then
    (s,[.answer 403 "Forbidden"])
  else
    let (channels,error) := s.channels.apply clock response
    ({s with channels := channels},
      [if error.isSome then .answer 400 "Bad Request" else .answer 200 "OK"])

def Server.beginQuery (s : Server) (deviceID : String) (clock : Int) (answers : Bool) : Server :=
  let sn : Nat := (s.messageSN + 1) % 2 ^ 32
  {s with
    messageSN := sn
    channels := s.channels.beginQuery deviceID sn clock
    tasks := s.tasks ++ [.query deviceID sn answers]}

def runCatalogQueries (s : Server) (now clock : Int) : Server :=
  match s.catalogQueue with
  | [] => s
  | deviceID :: rest =>
    let s := {s with catalogQueue := rest}
    if (s.devices.getOnline deviceID now).isNone || s.stopping deviceID then s
    else s.beginQuery deviceID clock false

def handleCatalogQuery (s : Server) (deviceID : String) (stored : Lookup) (now clock : Int) :
    Server × List Effect :=
  if !validDigits deviceID 20 then (s,[.answer 400 "invalid_request"])
  else
    match stored with
    | .missing => (s,[.answer 404 "device_not_found"])
    | .failed => (s,[.answer 500 "device_store_failed"])
    | .found =>
      if s.stopping deviceID then (s,[.answer 409 "device_stopping"])
      else if (s.devices.getOnline deviceID now).isNone then (s,[.answer 409 "device_offline"])
      else (s.beginQuery deviceID clock true,[])

def goOffline (s : Server) (deviceID : String) : Server :=
  let s := {s with channels := s.channels.removeDevice deviceID}
  if s.stopping deviceID then s else s.beginDeviceStop deviceID (.offline deviceID false)

def expireDevices (heartbeatTimeout : Int) (s : Server) (now : Int) : Server :=
  let (devices,offline) := s.devices.expire now heartbeatTimeout
  offline.foldl goOffline {s with devices := devices, channels := s.channels.expire now}

def deleteDevice (s : Server) (deviceID : String) (stored : Lookup) : Server × List Effect :=
  match stored with
  | .missing => (s,[.answer 404 "device_not_found"])
  | .failed => (s,[.answer 502 "device_delete_failed"])
  | .found =>
    if s.stopping deviceID then (s,[.answer 409 "device_stopping"])
    else (s.beginDeviceStop deviceID (.deletion deviceID),[])

def Server.clearStop (s : Server) (deviceID : String) : Server :=
  {s with stoppingDevices := s.stoppingDevices.delete deviceID}

def finishDeletion (s : Server) (deviceID : String) (stopFailed : Bool) (stored : Lookup) :
    Server × List Effect :=
  let s := s.clearStop deviceID
  if stopFailed then (s,[.answer 502 "device_delete_failed"])
  else
    match stored with
    | .missing => (s,[.answer 404 "device_not_found"])
    | .failed => (s,[.answer 502 "device_delete_failed"])
    | .found =>
      ({s with
        devices := (s.devices.unregister deviceID).1
        channels := s.channels.removeDevice deviceID},[.answer 204 ""])

def finishQuery (s : Server) (deviceID : String) (sn : Int) (answers : Bool) :
    Sending → Server × List Effect
  | .accepted => (s,if answers then [.answer 202 "accepted"] else [])
  | .failed =>
    ({s with channels := s.channels.cancelQuery deviceID sn},
      if answers then [.answer 502 "catalog_query_failed"] else [])
  | .timedOut =>
    ({s with channels := s.channels.cancelQuery deviceID sn},
      if answers then [.answer 504 "catalog_query_timeout"] else [])

def Server.finish (s : Server) (task : Task) (last : Server → Server × List Effect) :
    Server × List Effect :=
  if task ∈ s.tasks then last {s with tasks := s.tasks.erase task} else (s,[])

def step (heartbeatTimeout : Int) (s : Server) : Event → Server × List Effect
  | .register registration source now stored authorization =>
    handleRegister s registration source now stored authorization
  | .keepalive deviceID sender source now => handleKeepalive s deviceID sender source now
  | .catalog response sender source now clock => handleCatalog s response sender source now clock
  | .runCatalogQueries now clock => (runCatalogQueries s now clock,[])
  | .catalogQuery deviceID stored now clock => handleCatalogQuery s deviceID stored now clock
  | .expireDevices now => (expireDevices heartbeatTimeout s now,[])
  | .deleteDevice deviceID stored => deleteDevice s deviceID stored
  | .finishOffline deviceID answers =>
    s.finish (.offline deviceID answers) fun s =>
      (s.clearStop deviceID,if answers then [.answer 200 "OK"] else [])
  | .finishDeletion deviceID stopFailed stored =>
    s.finish (.deletion deviceID) fun s => finishDeletion s deviceID stopFailed stored
  | .finishQuery deviceID sn answers sending =>
    s.finish (.query deviceID sn answers) fun s => finishQuery s deviceID sn answers sending
  | .message => ({s with messageSN := (s.messageSN + 1) % 2 ^ 32},[])

end MediaServer.DeviceRegistry
