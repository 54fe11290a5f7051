import Mathlib.Data.Finset.Card
import Mathlib.Logic.Function.Basic
import ExtDevMgr.Manager.Device

/-!
# The device manager

`etx_device_mgr.cpp`. Devices are shared between the device map and the connections that complete
later, so they live in a heap and the map holds their addresses. The source keeps one map of devices
for each bus type; a device id contains its bus type, so one map over all ids is the same.
-/

namespace ExtDevMgr.Manager

/-- The answers given outside the service to the calls of one operation. -/
structure Replies where
  device : DeviceId → DeviceReplies
  queryMatchDriver : DeviceId → Option DriverInfo
  timerSetup : UInt32
  timerRegister : UInt32

/-- What the bundle manager and the token service answer: `none` where the call fails. -/
structure AccessReplies where
  bundleManager : Bool
  getAppProvisionInfo : Name → Int → Option Name
  getHapTokenInfo : UInt32 → Option (Name × Int)

structure ExtDeviceManager where
  objects : Nat → Device := fun _ => { info := 0 }
  nextObject : Nat := 0
  deviceMap : Table DeviceId Nat := ∅
  bundleMatchMap : Table Name (Finset DeviceId) := ∅
  driverChangeCallback : Bool := false
  unloadSelftimerId : UInt32 := 0xffffffff
  out : Outside := {}

def unloadSaTimerInterval : UInt32 := 30 * 1000

namespace ExtDeviceManager

def setDevice (m : ExtDeviceManager) (obj : Nat) (d : Device) : ExtDeviceManager :=
  { m with objects := Function.update m.objects obj d }

def emit (m : ExtDeviceManager) (e : Event) : ExtDeviceManager := { m with out := m.out.emit e }

/-- Runs an operation of the device at `obj`. -/
def runDevice (m : ExtDeviceManager) (obj : Nat)
    (f : Device → Outside → UsbErrCode × Device × Outside) : UsbErrCode × ExtDeviceManager :=
  let (ret, d, out) := f (m.objects obj) m.out
  (ret, { m.setDevice obj d with out })

def updateDriverInfo (m : ExtDeviceManager) (obj : Nat) : ExtDeviceManager :=
  match (m.objects obj).driverInfo with
  | none => m
  | some driverInfo =>
    if m.driverChangeCallback then m.emit (.onDriverMatched driverInfo) else m

def removeDriverInfo (m : ExtDeviceManager) (obj : Nat) : ExtDeviceManager :=
  match (m.objects obj).driverInfo with
  | none => m
  | some driverInfo =>
    if m.driverChangeCallback then
      (m.emit (.onDriverRemoved driverInfo)).setDevice obj (m.objects obj).removeDriverInfo
    else
      m

/-- The entry of `bundleInfo` with `deviceId` in it. -/
def matchEntry (m : ExtDeviceManager) (bundleInfo : Name) (deviceId : DeviceId) : Finset DeviceId :=
  match m.bundleMatchMap.lookup bundleInfo with
  | none => {deviceId}
  | some ids => insert deviceId ids

/-- Puts `deviceId` into the entry of `bundleInfo`. -/
def emplaceDevId (bundleInfo : Name) (deviceId : DeviceId) (m : ExtDeviceManager) :
    ExtDeviceManager :=
  { m with bundleMatchMap := m.bundleMatchMap.insert bundleInfo (m.matchEntry bundleInfo deviceId) }

/-- `AddDevIdOfBundleInfoMap` once the match map has been updated. -/
def launchDriver (r : Replies) (obj : Nat) (m : ExtDeviceManager) : UsbErrCode × ExtDeviceManager :=
  match (m.objects obj).driverInfo with
  | none => (.edmNok, m)
  | some driverInfo =>
    let m := m.updateDriverInfo obj
    if driverInfo.launchOnBind then
      (.edmOk, m)
    else
      let (ret, m) := m.runDevice obj (Device.connect (r.device (m.objects obj).info))
      if ret ≠ .edmOk then (.edmNok, m) else (.edmOk, m)

def addDevIdOfBundleInfoMap (r : Replies) (obj : Nat) (bundleInfo : Name) (m : ExtDeviceManager) :
    UsbErrCode × ExtDeviceManager :=
  if bundleInfo = [] then
    (.edmErrInvalidParam, m)
  else
    (m.emplaceDevId bundleInfo (m.objects obj).info).launchDriver r obj

/-- Takes `deviceId` out of the entry of `bundleInfo`, which other devices share. -/
def eraseDevId (bundleInfo : Name) (ids : Finset DeviceId) (deviceId : DeviceId)
    (m : ExtDeviceManager) : ExtDeviceManager :=
  { m with bundleMatchMap := m.bundleMatchMap.insert bundleInfo (ids.erase deviceId) }

def eraseBundle (bundleInfo : Name) (m : ExtDeviceManager) : ExtDeviceManager :=
  { m with bundleMatchMap := m.bundleMatchMap.erase bundleInfo }

/-- `RemoveDevIdOfBundleInfoMap` once the entry has been erased. -/
def disconnectDriver (r : Replies) (obj : Nat) (m : ExtDeviceManager) :
    UsbErrCode × ExtDeviceManager :=
  let (ret, out) := (m.objects obj).disconnect (r.device (m.objects obj).info) m.out
  let m := { m with out }
  if ret ≠ .edmOk then (ret, m) else (.edmOk, m.removeDriverInfo obj)

def removeDevIdOfBundleInfoMap (r : Replies) (obj : Nat) (bundleInfo : Name)
    (m : ExtDeviceManager) : UsbErrCode × ExtDeviceManager :=
  if bundleInfo = [] then
    (.edmErrInvalidParam, m)
  else
    match m.bundleMatchMap.lookup bundleInfo with
    | none => (.edmOk, m)
    | some ids =>
      if ids.card > 1 then
        (.edmOk, m.eraseDevId bundleInfo ids (m.objects obj).info)
      else
        (m.eraseBundle bundleInfo).disconnectDriver r obj

def removeDeviceOfDeviceMap (obj : Nat) (m : ExtDeviceManager) : ExtDeviceManager :=
  { m with deviceMap := m.deviceMap.erase (m.objects obj).info }

/-! ## Bundles -/

/-- The keys of the bundle in the match map start with this. -/
def startStr (bundleName : Name) : Name := bundleName ++ stiching

def deleteBundlesOfBundleInfoMap (bundleName : Name) (m : ExtDeviceManager) :
    Finset DeviceId × ExtDeviceManager :=
  if bundleName = [] then
    (∅, { m with bundleMatchMap := ∅ })
  else
    let removed := m.bundleMatchMap.entries.filter fun e => startStr bundleName <+: e.1
    (removed.foldl (fun deviceIds e => deviceIds ∪ e.2) ∅,
      { m with bundleMatchMap :=
          Table.filter (fun key => !decide (startStr bundleName <+: key)) m.bundleMatchMap })

/-- `RemoveBundleInfo` and `ClearDrvExtRemote` of the device, and `RemoveDriverInfo`. -/
def forgetDriver (obj : Nat) (m : ExtDeviceManager) : ExtDeviceManager :=
  (m.setDevice obj (m.objects obj).removeBundleInfo.clearDrvExtRemote).removeDriverInfo obj

/-- The second half of the loop of `MatchDriverInfos`. -/
def rematchDevice (r : Replies) (obj : Nat) (m : ExtDeviceManager) : ExtDeviceManager :=
  if (m.objects obj).isUnRegisted ∨ (m.objects obj).drvExtRemote.isSome then
    m
  else
    match r.queryMatchDriver (m.objects obj).info with
    | none => m
    | some driverInfo =>
      let m := m.setDevice obj ((m.objects obj).addBundleInfo driverInfo.bundleInfo driverInfo)
      (m.addDevIdOfBundleInfoMap r obj driverInfo.bundleInfo).2

/-- The body of the loop of `MatchDriverInfos`. -/
def matchDriverInfo (r : Replies) (deviceIds : Finset DeviceId) (m : ExtDeviceManager)
    (id : DeviceId) : ExtDeviceManager :=
  match m.deviceMap.lookup id with
  | none => m
  | some obj => (if id ∈ deviceIds then m.forgetDriver obj else m).rematchDevice r obj

/-- The loop visits the devices of the map in the order `order` of their ids. -/
def matchDriverInfos (r : Replies) (deviceIds : Finset DeviceId) (order : List DeviceId)
    (m : ExtDeviceManager) : ExtDeviceManager :=
  order.foldl (matchDriverInfo r deviceIds) m

/-- `BundleUpdateCallback::OnBundlesUpdated`. -/
def onBundlesUpdated (r : Replies) (bundleName : Name) (order : List DeviceId)
    (m : ExtDeviceManager) : ExtDeviceManager :=
  let (deviceIds, m) := m.deleteBundlesOfBundleInfoMap bundleName
  m.matchDriverInfos r deviceIds order

/-- The devices that `ClearMatchedDrivers` does not pass over. -/
def clearedBy (userId : Int) (d : Device) : Bool :=
  !d.isUnRegisted && d.hasDriver && d.driverInfo.any (·.userId = userId)

/-- The body of the loop of `ClearMatchedDrivers`. -/
def clearMatchedDriver (r : Replies) (userId : Int) (m : ExtDeviceManager) (id : DeviceId) :
    ExtDeviceManager :=
  match m.deviceMap.lookup id with
  | none => m
  | some obj =>
    let d := m.objects obj
    if clearedBy userId d then
      match m.bundleMatchMap.lookup d.bundleInfo, d.driverInfo with
      | some _, some driverInfo =>
        let out := (stopDriverExtension (r.device d.info).stop driverInfo.bundleName
          driverInfo.driverName userId m.out).2
        ({ m with out }.eraseBundle d.bundleInfo).forgetDriver obj
      | _, _ => m
    else
      m

def clearMatchedDrivers (r : Replies) (userId : Int) (order : List DeviceId)
    (m : ExtDeviceManager) : ExtDeviceManager :=
  { order.foldl (clearMatchedDriver r userId) m with bundleMatchMap := ∅ }

/-! ## The unload timer -/

def getTotalDeviceNum (m : ExtDeviceManager) : Nat :=
  m.deviceMap.entries.countP fun e => !(m.objects e.2).isUnRegisted

def unLoadSelf (r : Replies) (m : ExtDeviceManager) : ExtDeviceManager :=
  let m := (m.emit (.timerUnregister m.unloadSelftimerId)).emit .timerShutdown
  if m.getTotalDeviceNum ≠ 0 then
    m
  else
    let m := m.emit (.timerSetup r.timerSetup)
    if r.timerSetup ≠ 0 then
      m
    else
      { m.emit (.timerRegister unloadSaTimerInterval true) with
          unloadSelftimerId := r.timerRegister }

/-! ## Attach and detach -/

/-- A new device for `devInfo`, in the map. -/
def makeDevice (devInfo : DeviceId) (m : ExtDeviceManager) : ExtDeviceManager :=
  { m with
    objects := Function.update m.objects m.nextObject { info := devInfo }
    nextObject := m.nextObject + 1
    deviceMap := m.deviceMap.insert devInfo m.nextObject }

/-- `RegisterDevice` once the device is in the map: matches a driver where there is none. -/
def matchDevice (r : Replies) (devInfo : DeviceId) (obj : Nat) (m : ExtDeviceManager) :
    ExtDeviceManager :=
  if (m.objects obj).bundleInfo = [] then
    match r.queryMatchDriver devInfo with
    | none => m
    | some driverInfo =>
      m.setDevice obj ((m.objects obj).addBundleInfo driverInfo.bundleInfo driverInfo)
  else
    m

/-- A device has come, so the service stays loaded. -/
def stopUnloadTimer (m : ExtDeviceManager) : ExtDeviceManager :=
  m.emit (.timerUnregister m.unloadSelftimerId)

/-- The rest of `RegisterDevice`. -/
def startDevice (r : Replies) (devInfo : DeviceId) (obj : Nat) (m : ExtDeviceManager) :
    UsbErrCode × ExtDeviceManager :=
  let m := (m.matchDevice r devInfo obj).stopUnloadTimer
  if (m.objects obj).bundleInfo = [] then
    (.edmOk, m)
  else
    let (ret, m) := m.addDevIdOfBundleInfoMap r obj (m.objects obj).bundleInfo
    if ret ≠ .edmOk then (.edmNok, m) else (ret, m)

def registerDevice (r : Replies) (devInfo : DeviceId) (m : ExtDeviceManager) :
    UsbErrCode × ExtDeviceManager :=
  match m.deviceMap.lookup devInfo with
  | some obj =>
    if (m.objects obj).drvExtRemote.isSome then (.edmOk, m) else m.startDevice r devInfo obj
  | none => (m.makeDevice devInfo).startDevice r devInfo m.nextObject

/-- A connected device is flagged, any other one leaves the map. -/
def detachDevice (devInfo : DeviceId) (obj : Nat) (m : ExtDeviceManager) : ExtDeviceManager :=
  if (m.objects obj).drvExtRemote.isSome then
    m.setDevice obj (m.objects obj).unRegist
  else
    { m with deviceMap := m.deviceMap.erase devInfo }

def unRegisterDevice (r : Replies) (devInfo : DeviceId) (m : ExtDeviceManager) :
    UsbErrCode × ExtDeviceManager :=
  match m.deviceMap.lookup devInfo with
  | none => (.edmOk, m)
  | some obj =>
    let bundleInfo := (m.objects obj).bundleInfo
    let m := (m.detachDevice devInfo obj).unLoadSelf r
    if bundleInfo = [] then
      (.edmOk, m)
    else
      m.removeDevIdOfBundleInfoMap r obj bundleInfo

/-! ## Queries -/

def queryDevice (busType : UInt32) (m : ExtDeviceManager) : List DeviceId :=
  (m.deviceMap.entries.filter fun e =>
    e.1.busType = busType ∧ !(m.objects e.2).isUnRegisted).map fun e => (m.objects e.2).info

def queryAllDevices (m : ExtDeviceManager) : List Nat :=
  (m.deviceMap.entries.filter fun e => !(m.objects e.2).isUnRegisted).map fun e => e.2

def queryDevicesById (deviceId : DeviceId) (m : ExtDeviceManager) : List Nat :=
  (m.deviceMap.entries.filter fun e =>
    e.1 = deviceId ∧ !(m.objects e.2).isUnRegisted).map fun e => e.2

def queryDeviceByDeviceID (deviceId : DeviceId) (m : ExtDeviceManager) : Option Nat :=
  m.deviceMap.lookup deviceId

/-! ## Binds and unbinds -/

def connectDevice (r : Replies) (deviceId : DeviceId) (callingTokenId : UInt32)
    (connectCallback : Option DriverExtMgrCallback) (m : ExtDeviceManager) :
    UsbErrCode × ExtDeviceManager :=
  match m.queryDeviceByDeviceID deviceId with
  | none => (.edmNok, m)
  | some obj =>
    m.runDevice obj (Device.connectWith (r.device deviceId) connectCallback callingTokenId)

def isCallerMatchDriverApp (r : AccessReplies) (driverAppIdentifier : Name)
    (callingTokenId : UInt32) : Bool :=
  match r.getHapTokenInfo callingTokenId with
  | none => false
  | some (bundleName, userId) =>
    match r.getAppProvisionInfo bundleName userId with
    | none => false
    | some appIdentifier => driverAppIdentifier = appIdentifier

def checkAccessPermission (r : AccessReplies) (driverInfo : Option DriverInfo)
    (accessibleAppIds : Finset Name) (callingTokenId : UInt32) : UsbErrCode :=
  match driverInfo with
  | none => .edmNok
  | some driverInfo =>
    if !driverInfo.accessAllowed then
      .edmErrServiceNotAllowAccess
    else if !r.bundleManager then
      .edmNok
    else
      match r.getAppProvisionInfo driverInfo.bundleName driverInfo.userId with
      | none => .edmErrNoPerm
      | some appIdentifier =>
        if isCallerMatchDriverApp r appIdentifier callingTokenId then .edmOk
        else if appIdentifier ∈ accessibleAppIds then .edmOk
        else .edmErrNoPerm

def connectDriverWithDeviceId (r : Replies) (access : AccessReplies) (deviceId : DeviceId)
    (callingTokenId : UInt32) (accessibleAppIds : Finset Name)
    (connectCallback : Option DriverExtMgrCallback) (m : ExtDeviceManager) :
    UsbErrCode × ExtDeviceManager :=
  match m.queryDeviceByDeviceID deviceId with
  | none => (.edmNok, m)
  | some obj =>
    let ret := checkAccessPermission access (m.objects obj).driverInfo accessibleAppIds
      callingTokenId
    if ret ≠ .edmOk then
      (ret, m)
    else
      m.runDevice obj (Device.connectWith (r.device deviceId) connectCallback callingTokenId)

/-- The common end of `DisConnectDevice` and `DisConnectDriverWithDeviceId`. -/
def unbind (r : Replies) (obj : Nat) (callingTokenId : UInt32) (m : ExtDeviceManager) :
    UsbErrCode × ExtDeviceManager :=
  match (m.objects obj).driverInfo with
  | none => (.edmNok, m)
  | some driverInfo =>
    if !driverInfo.launchOnBind || !(m.objects obj).isLastCaller callingTokenId then
      (.edmOk, m.setDevice obj ((m.objects obj).removeCaller callingTokenId))
    else
      let (ret, out) := (m.objects obj).disconnect (r.device (m.objects obj).info) m.out
      (ret, { m with out })

def disConnectDevice (r : Replies) (deviceId : DeviceId) (callingTokenId : UInt32)
    (m : ExtDeviceManager) : UsbErrCode × ExtDeviceManager :=
  match m.queryDeviceByDeviceID deviceId with
  | none => (.edmNok, m)
  | some obj => m.unbind r obj callingTokenId

def disConnectDriverWithDeviceId (r : Replies) (deviceId : DeviceId) (callingTokenId : UInt32)
    (m : ExtDeviceManager) : UsbErrCode × ExtDeviceManager :=
  match m.queryDeviceByDeviceID deviceId with
  | none => (.edmNok, m)
  | some obj =>
    if !(m.objects obj).isBindCaller callingTokenId then
      (.edmErrServiceNotBound, m)
    else
      m.unbind r obj callingTokenId

/-! ## Completions -/

def onConnect (obj : Nat) (remote : Option Nat) (resultCode : Int) (m : ExtDeviceManager) :
    ExtDeviceManager :=
  let (d, out) := (m.objects obj).onConnect remote resultCode m.out
  { m.setDevice obj d with out }

/-- `Device::OnDisconnect` up to its test of `IsUnRegisted`. -/
def onDisconnect (obj : Nat) (resultCode : Int) (m : ExtDeviceManager) : ExtDeviceManager :=
  let (d, out) := (m.objects obj).onDisconnect resultCode m.out
  { m.setDevice obj d with out }

/-- `DriverExtMgrCallbackDeathRecipient::OnRemoteDied`. -/
def remoteDied (obj object : Nat) (m : ExtDeviceManager) : ExtDeviceManager :=
  m.setDevice obj ((m.objects obj).unregisterDrvExtMgrCallback object)

/-- The end of `Device::OnDisconnect`. -/
def stopExtension (r : Replies) (obj : Nat) (m : ExtDeviceManager) : ExtDeviceManager :=
  { m with out := (m.objects obj).stopExtension (r.device (m.objects obj).info) m.out }

end ExtDeviceManager
end ExtDevMgr.Manager
