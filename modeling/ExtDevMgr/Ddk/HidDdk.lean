import ExtDevMgr.Base.Machine
import ExtDevMgr.Base.Table
import ExtDevMgr.Ddk.Reads

/-!
# Virtual devices of the HID client

The client caches what it has created, creates it again when it connects to a restarted service, and
takes the handle of a caller to the id that the service has given last.
-/

namespace ExtDevMgr.Ddk.Hid

abbrev hidDdkNoPerm : Int := 201
abbrev hidDdkFailure : Int := 27300001
abbrev hidDdkInvalidOperation : Int := 27300003

abbrev maxEmitItemNum : UInt16 := 20
abbrev maxHidDevicePropLen : UInt16 := 7
abbrev maxHidEventTypesLen : UInt16 := 5
abbrev maxHidKeysLen : UInt16 := 100
abbrev maxHidAbsLen : UInt16 := 26
abbrev maxHidRelBitsLen : UInt16 := 13
abbrev maxHidMiscEventLen : UInt16 := 6
abbrev maxNameLength : Nat := 80

/-! ## Parameters -/

/-- `Hid_Device`. The name is its characters up to the null, a null pointer is `none`. -/
structure HidDevice where
  deviceName : Option (List UInt8)
  vendorId : UInt16
  productId : UInt16
  version : UInt16
  bustype : UInt16
  properties : Option (List UInt32)
  propLength : UInt16

/-- `Hid_EventTypeArray` and the four other arrays of codes. -/
structure CodeArray where
  codes : Option (List UInt32)
  length : UInt16

structure HidEventProperties where
  hidEventTypes : CodeArray
  hidKeys : CodeArray
  hidAbs : CodeArray
  hidRelBits : CodeArray
  hidMiscellaneous : CodeArray
  hidAbsMax : Vector Int32 64
  hidAbsMin : Vector Int32 64
  hidAbsFuzz : Vector Int32 64
  hidAbsFlat : Vector Int32 64

structure HidEmitItem where
  type : UInt16
  code : UInt16
  value : UInt32

/-- What the service is sent of a `Hid_Device`. -/
structure V1_0.HidDevice where
  deviceName : List UInt8
  vendorId : UInt16
  productId : UInt16
  version : UInt16
  bustype : UInt16
  properties : List UInt32

/-- What the service is sent of the `Hid_EventProperties`. -/
structure V1_0.HidEventProperties where
  hidEventTypes : List UInt32
  hidKeys : List UInt32
  hidAbs : List UInt32
  hidRelBits : List UInt32
  hidMiscellaneous : List UInt32
  hidAbsMax : List Int32
  hidAbsMin : List Int32
  hidAbsFuzz : List Int32
  hidAbsFlat : List Int32

/-- The first `length` elements at a pointer, none if it is null. -/
def elements (codes : Option (List UInt32)) (length : UInt16) : List UInt32 :=
  (codes.getD []).take length.toNat

def checkHidDevice (hidDevice : HidDevice) : Bool :=
  if hidDevice.propLength > maxHidDevicePropLen then
    false
  else
    match hidDevice.deviceName with
    | none => false
    | some deviceName => !(deviceName.length = 0 || deviceName.length > maxNameLength - 1)

def parseHidDevice (hidDevice : HidDevice) : V1_0.HidDevice where
  deviceName := hidDevice.deviceName.getD []
  vendorId := hidDevice.vendorId
  productId := hidDevice.productId
  version := hidDevice.version
  bustype := hidDevice.bustype
  properties := elements hidDevice.properties hidDevice.propLength

def parseHidEventProperties (p : HidEventProperties) : V1_0.HidEventProperties where
  hidEventTypes := elements p.hidEventTypes.codes p.hidEventTypes.length
  hidKeys := elements p.hidKeys.codes p.hidKeys.length
  hidAbs := elements p.hidAbs.codes p.hidAbs.length
  hidRelBits := elements p.hidRelBits.codes p.hidRelBits.length
  hidMiscellaneous := elements p.hidMiscellaneous.codes p.hidMiscellaneous.length
  hidAbsMax := p.hidAbsMax.toList
  hidAbsMin := p.hidAbsMin.toList
  hidAbsFuzz := p.hidAbsFuzz.toList
  hidAbsFlat := p.hidAbsFlat.toList

/-- The parameters of `OH_Hid_CreateDevice` as the service is sent them, if they pass its checks. -/
def parameters (hidDevice : Option HidDevice) (hidEventProperties : Option HidEventProperties) :
    Option (V1_0.HidDevice × V1_0.HidEventProperties) :=
  match hidDevice, hidEventProperties with
  | some hidDevice, some hidEventProperties =>
    if !checkHidDevice hidDevice then none
    else if hidEventProperties.hidEventTypes.length > maxHidEventTypesLen then none
    else if hidEventProperties.hidKeys.length > maxHidKeysLen then none
    else if hidEventProperties.hidAbs.length > maxHidAbsLen then none
    else if hidEventProperties.hidRelBits.length > maxHidRelBitsLen then none
    else if hidEventProperties.hidMiscellaneous.length > maxHidMiscEventLen then none
    else some (parseHidDevice hidDevice, parseHidEventProperties hidEventProperties)
  | _, _ => none

/-! ## The client and the service -/

/-- A successful `OH_Hid_CreateDevice`: how many there were before, and the handle it returned. -/
structure Creation where
  number : Nat
  handle : Int32
deriving DecidableEq

/-- `creation` tells which creation has cached the device. No function reads it. -/
structure TempDevice where
  tempDevice : V1_0.HidDevice
  tempProperties : V1_0.HidEventProperties
  realId : UInt32
  creation : Creation

/-- The client with its `g_deviceMap`, and the service. An instance of the service has the number
`epoch`, and `devices` tells for each id that it has given what creation the device stands for.
`g_ddk` is a proxy of an instance, `linked` the instance whose death will be told. The creations whose
devices are not destroyed are `created`. -/
structure System where
  deviceMap : Table Int32 TempDevice
  ddk : Option Nat
  linked : Option Nat
  epoch : Nat
  devices : Table UInt32 Creation
  created : List Creation
  creations : Nat

/-- What a call is answered: whether there is a service to connect to, the id given to each cached
device in the order of the map or `none` if it is refused, whether the death recipient is added, and
the code and the id that the request of the call itself returns. -/
structure Replies where
  get : Bool
  recreated : List (Int32 × Option UInt32)
  addDeathRecipient : Bool
  ret : Int
  deviceId : UInt32
deriving Inhabited

inductive Request
  | createDevice (tempDevice : V1_0.HidDevice) (tempProperties : V1_0.HidEventProperties)
  | emitEvent (deviceId : UInt32) (items : List HidEmitItem)
  | destroyDevice (deviceId : UInt32)

/-- What a call returns, the request it has sent, and the state after it. -/
structure Outcome where
  ret : Int
  request : Option Request
  state : System

/-- The id of the device that a call has asked the service to reach. -/
def Outcome.target (o : Outcome) : Option UInt32 :=
  match o.request with
  | some (.emitEvent deviceId _) | some (.destroyDevice deviceId) => some deviceId
  | some (.createDevice ..) | none => none

namespace System
variable (s : System) (r : Replies)

def getRealDeviceId (deviceId : Int32) : UInt32 :=
  match s.deviceMap.lookup deviceId with
  | some device => device.realId
  | none => deviceId.toUInt32

/-- A turn of the loop of `Connect`. A refused device keeps the id that it had. -/
def recreateDevice (s : System) (reply : Int32 × Option UInt32) : System :=
  match s.deviceMap.lookup reply.1, reply.2 with
  | some value, some realId =>
    { s with
      deviceMap := s.deviceMap.insert reply.1 { value with realId }
      devices := s.devices.insert realId value.creation }
  | _, _ => s

def connect : Int × System :=
  match s.ddk with
  | some _ => (hidDdkSuccess, s)
  | none =>
    if !r.get then
      (hidDdkFailure, s)
    else
      let s := r.recreated.foldl recreateDevice { s with ddk := some s.epoch }
      if !r.addDeathRecipient then
        (hidDdkFailure, s)
      else
        (hidDdkSuccess, { s with linked := some s.epoch })

/-- The service has created a device under `deviceId`. -/
def createDevice (deviceId : UInt32) : System :=
  let creation := ⟨s.creations, deviceId.toInt32⟩
  { s with
    devices := s.devices.insert deviceId creation
    created := creation :: s.created
    creations := s.creations + 1 }

def cacheDeviceInfor (creation : Creation) (tempDevice : V1_0.HidDevice)
    (tempProperties : V1_0.HidEventProperties) (deviceId : UInt32) : Int32 × System :=
  let id := deviceId.toInt32
  (id, { s with
    deviceMap := s.deviceMap.insert id ⟨tempDevice, tempProperties, deviceId, creation⟩ })

/-- The service has destroyed the device of `realId` for the handle `deviceId`. -/
def destroyDevice (realId : UInt32) (deviceId : Int32) : System :=
  { s with
    devices := s.devices.erase realId
    created := s.created.filter (·.handle ≠ deviceId) }

/-! ## Calls -/

/-- The code that the service returns when the permission is missing, outside the repository. -/
abbrev HdfErrNoperm := { ret : Int // ret ≠ hidDdkSuccess }

variable (hdfErrNoperm : HdfErrNoperm)

def hidCode (ret : Int) : Int := if ret = hdfErrNoperm then hidDdkNoPerm else ret

def ohHidCreateDevice (hidDevice : Option HidDevice)
    (hidEventProperties : Option HidEventProperties) : Outcome :=
  let (connected, s) := s.connect r
  if connected ≠ hidDdkSuccess then
    ⟨hidDdkInvalidOperation, none, s⟩
  else
    match parameters hidDevice hidEventProperties with
    | none => ⟨hidDdkInvalidParameter, none, s⟩
    | some (tempDevice, tempEventProperties) =>
      let request := Request.createDevice tempDevice tempEventProperties
      let ret := hidCode hdfErrNoperm r.ret
      if ret ≠ hidDdkSuccess then
        ⟨ret, some request, s⟩
      else
        let creation := ⟨s.creations, r.deviceId.toInt32⟩
        let (id, s) := (s.createDevice r.deviceId).cacheDeviceInfor creation tempDevice
          tempEventProperties r.deviceId
        ⟨id.toInt, some request, s⟩

def ohHidEmitEvent (deviceId : Int32) (items : Option (List HidEmitItem)) (length : UInt16) :
    Outcome :=
  let (connected, s) := s.connect r
  if connected ≠ hidDdkSuccess then
    ⟨hidDdkInvalidOperation, none, s⟩
  else if deviceId < 0 then
    ⟨hidDdkInvalidParameter, none, s⟩
  else if length > maxEmitItemNum then
    ⟨hidDdkInvalidParameter, none, s⟩
  else
    match items with
    | none => ⟨hidDdkInvalidParameter, none, s⟩
    | some items =>
      ⟨hidCode hdfErrNoperm r.ret,
        some (.emitEvent (s.getRealDeviceId deviceId) (items.take length.toNat)), s⟩

def ohHidDestroyDevice (deviceId : Int32) : Outcome :=
  let (connected, s) := s.connect r
  if connected ≠ hidDdkSuccess then
    ⟨hidDdkInvalidOperation, none, s⟩
  else
    let realId := s.getRealDeviceId deviceId
    let ret := hidCode hdfErrNoperm r.ret
    if ret ≠ hidDdkSuccess then
      ⟨ret, some (.destroyDevice realId), s⟩
    else
      let s := s.destroyDevice realId deviceId
      ⟨hidDdkSuccess, some (.destroyDevice realId),
        { s with deviceMap := s.deviceMap.erase deviceId }⟩

def onRemoteDied : System :=
  if s.ddk ≠ none then { s with ddk := none, linked := none } else s

/-- The service dies with its devices. The next instance starts without any. -/
def die : System :=
  { s with epoch := s.epoch + 1, devices := ∅ }

end System

/-! ## Runs -/

inductive Action
  | createDevice (r : Replies) (hidDevice : Option HidDevice)
      (hidEventProperties : Option HidEventProperties)
  | emitEvent (r : Replies) (deviceId : Int32) (items : Option (List HidEmitItem)) (length : UInt16)
  | destroyDevice (r : Replies) (deviceId : Int32)
  | die
  | onRemoteDied

namespace System
variable (s : System)

/-- The handles of the cached devices that `Connect` creates again. -/
def asked (r : Replies) : List Int32 :=
  if s.ddk = none ∧ r.get then s.deviceMap.keys else []

end System

/-- The ids that the cached devices are given. -/
def Replies.given (r : Replies) : List UInt32 := r.recreated.filterMap Prod.snd

namespace System
variable (s : System)

/-- The cached devices are given ids that no device has, and a dead instance answers no request. -/
structure Answers (r : Replies) : Prop where
  asked : (r.recreated.map Prod.fst).Perm (s.asked r)
  fresh : (s.devices.keys ++ r.given).Nodup
  served : r.ret = hidDdkSuccess → s.ddk = none ∨ s.ddk = some s.epoch

instance (r : Replies) : Decidable (s.Answers r) :=
  decidable_of_iff ((r.recreated.map Prod.fst).Perm (s.asked r) ∧
      (s.devices.keys ++ r.given).Nodup ∧
      (r.ret = hidDdkSuccess → s.ddk = none ∨ s.ddk = some s.epoch))
    ⟨fun h => ⟨h.1, h.2.1, h.2.2⟩, fun h => ⟨h.asked, h.fresh, h.served⟩⟩

def enabled (s : System) : Action → Prop
  | .createDevice r _ _ => s.Answers r ∧ r.deviceId ∉ s.devices.keys ++ r.given
  | .emitEvent r .. | .destroyDevice r _ => s.Answers r
  | .die => True
  | .onRemoteDied => s.linked ≠ none ∧ s.linked ≠ some s.epoch

instance : DecidablePred s.enabled
  | .createDevice .. => inferInstanceAs (Decidable (_ ∧ _))
  | .emitEvent r .. | .destroyDevice r _ => inferInstanceAs (Decidable (s.Answers r))
  | .die => .isTrue trivial
  | .onRemoteDied => inferInstanceAs (Decidable (_ ∧ _))

def step (hdfErrNoperm : HdfErrNoperm) (s : System) : Action → System
  | .createDevice r hidDevice hidEventProperties =>
    (s.ohHidCreateDevice r hdfErrNoperm hidDevice hidEventProperties).state
  | .emitEvent r deviceId items length =>
    (s.ohHidEmitEvent r hdfErrNoperm deviceId items length).state
  | .destroyDevice r deviceId => (s.ohHidDestroyDevice r hdfErrNoperm deviceId).state
  | .die => s.die
  | .onRemoteDied => s.onRemoteDied

/-- The state in which the request of a call is answered, with the client connected. -/
def answering (s : System) : Action → System
  | .createDevice r .. | .emitEvent r .. | .destroyDevice r _ => (s.connect r).2
  | .die | .onRemoteDied => s

end System

def machine (hdfErrNoperm : System.HdfErrNoperm) : Machine System Action where
  init := ⟨∅, none, none, 0, ∅, [], 0⟩
  enabled := System.enabled
  step := System.step hdfErrNoperm

instance (hdfErrNoperm : System.HdfErrNoperm) (s : System) :
    DecidablePred ((machine hdfErrNoperm).enabled s) :=
  inferInstanceAs (DecidablePred s.enabled)

end ExtDevMgr.Ddk.Hid
