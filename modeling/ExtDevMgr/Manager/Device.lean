import Mathlib.Data.Finset.Basic
import ExtDevMgr.Base.Table
import ExtDevMgr.Manager.Controller

/-!
# Devices

`device.h` and `device.cpp`: a device with its driver, its connection to the driver extension and
the clients waiting for it.
-/

namespace ExtDevMgr.Manager

/-- `Device::stiching_`. -/
def stiching : Name := ['-']

/-- `Device::GetBundleName`: what stands before the first `stiching_`. -/
def getBundleName (bundleInfo : Name) : Name :=
  if '-' ∈ bundleInfo then bundleInfo.takeWhile (· ≠ '-') else []

/-- `Device::GetAbilityName`: what stands after the first `stiching_`. -/
def getAbilityName (bundleInfo : Name) : Name :=
  if '-' ∈ bundleInfo then (bundleInfo.dropWhile (· ≠ '-')).tail else []

/-- The key of a driver in the match map. -/
def DriverInfo.bundleInfo (driverInfo : DriverInfo) : Name :=
  driverInfo.bundleName ++ stiching ++ driverInfo.driverName

theorem DriverInfo.bundleInfo_ne_nil (driverInfo : DriverInfo) : driverInfo.bundleInfo ≠ [] := by
  simp [bundleInfo, stiching]

/-! ## Ordered sets -/

/-- `std::set::insert`: an element equivalent to one of the set is not inserted. -/
def setInsert {α : Type*} (comp : α → α → Bool) (x : α) (s : List α) : Bool × List α :=
  if s.any fun y => !comp x y && !comp y x then
    (false, s)
  else
    (true, s.takeWhile (comp · x) ++ x :: s.dropWhile (comp · x))

/-- `Device::DrvExtMgrCallbackCompare`. -/
def drvExtMgrCallbackCompare (lhs rhs : DriverExtMgrCallback) : Bool :=
  if lhs.asObject ≠ rhs.asObject then false else decide (lhs.asObject < rhs.asObject)

theorem drvExtMgrCallbackCompare_eq_false (lhs rhs : DriverExtMgrCallback) :
    drvExtMgrCallbackCompare lhs rhs = false := by
  unfold drvExtMgrCallbackCompare
  split
  case isTrue => rfl
  case isFalse h => simp [Decidable.not_not.1 h]

/-- All callbacks are equivalent, so only an empty set takes one. -/
theorem setInsert_callback (x : DriverExtMgrCallback) (s : List DriverExtMgrCallback) :
    setInsert drvExtMgrCallbackCompare x s = if s = [] then (true, [x]) else (false, s) := by
  cases s with
  | nil => rfl
  | cons y s => simp [setInsert, drvExtMgrCallbackCompare_eq_false]

/-! ## The device -/

structure CallerInfo where
  isBound : Bool := false
  deriving DecidableEq

structure Device where
  bundleInfo : Name := []
  driverUid : Name := []
  driverInfo : Option DriverInfo := none
  info : DeviceId
  drvExtRemote : Option Nat := none
  callbacks : List DriverExtMgrCallback := []
  connectNofitier : Option DrvExtConnNotify := none
  isUnRegisted : Bool := false
  boundCallerInfos : Table UInt32 CallerInfo := ∅

/-- The answers given outside the service to the calls of one operation on a device; `connect` is
indexed by the attempt. -/
structure DeviceReplies where
  connect : Nat → Option Int
  disconnect : Option Int
  stop : Option Int
  addDeathRecipient : Bool

namespace Device

def hasDriver (d : Device) : Bool := d.bundleInfo ≠ []

def addBundleInfo (d : Device) (bundleInfo : Name) (driverInfo : DriverInfo) : Device :=
  { d with bundleInfo, driverInfo := some driverInfo, driverUid := driverInfo.driverUid }

def removeBundleInfo (d : Device) : Device := { d with bundleInfo := [], driverUid := [] }

def removeDriverInfo (d : Device) : Device := { d with driverInfo := none }

def clearDrvExtRemote (d : Device) : Device := { d with drvExtRemote := none }

def unRegist (d : Device) : Device := { d with isUnRegisted := true }

def removeCaller (d : Device) (callingTokenId : UInt32) : Device :=
  { d with boundCallerInfos := d.boundCallerInfos.erase callingTokenId }

def isLastCaller (d : Device) (caller : UInt32) : Bool :=
  if d.boundCallerInfos.entries.length > 1 then false else decide (caller ∈ d.boundCallerInfos)

def isBindCaller (d : Device) (caller : UInt32) : Bool := decide (caller ∈ d.boundCallerInfos)

/-- Creates the notifier where there is none. -/
def addDrvExtConnNotify (d : Device) (o : Outside) : Device × Outside :=
  if d.connectNofitier.isNone then
    ({ d with connectNofitier := some { id := o.nextId } }, o.alloc)
  else
    (d, o)

/-- Replaces the notifier by a new one. -/
def updateDrvExtConnNotify (d : Device) (o : Outside) : Device × Outside :=
  ({ d with connectNofitier := some { id := o.nextId } }, o.alloc)

/-- `connectNofitier_->ClearDrvExtConnectionInfo()`, where there is a notifier. -/
def clearConnection (d : Device) : Device :=
  { d with connectNofitier := d.connectNofitier.map (·.clearDrvExtConnectionInfo) }

/-- `DriverExtensionController::ConnectDriverExtension` with the names and the notifier of the
device. -/
def connectExtension (d : Device) (reply : Option Int) (o : Outside) :
    UsbErrCode × Device × Outside :=
  let (ret, connectNofitier, o) := connectDriverExtension reply (getBundleName d.bundleInfo)
    (getAbilityName d.bundleInfo) d.connectNofitier d.info.busDevId o
  (ret, { d with connectNofitier }, o)

def retryTimes : Nat := 30

/-- The loop of `Device::Connect()`, with `n` retries left and `ret` the result so far. -/
def reconnect (r : DeviceReplies) : Nat → UsbErrCode → Device → Outside →
    UsbErrCode × Device × Outside
  | 0, ret, d, o => (ret, d, o)
  | n + 1, ret, d, o =>
    if ret = .edmOk then
      (ret, d, o)
    else
      let d := d.clearDrvExtRemote.clearConnection
      let (ret, d, o) := d.connectExtension (r.connect (retryTimes - n)) o
      reconnect r n ret d o

/-- `Device::Connect()`. -/
def connect (r : DeviceReplies) (d : Device) (o : Outside) : UsbErrCode × Device × Outside :=
  let (d, o) := d.addDrvExtConnNotify o
  let (ret, d, o) := d.connectExtension (r.connect 0) o
  reconnect r retryTimes ret d o

def registerDrvExtMgrCallback (r : DeviceReplies) (callback : Option DriverExtMgrCallback)
    (d : Device) (o : Outside) : UsbErrCode × Device × Outside :=
  match callback with
  | none => (.edmErrInvalidObject, d, o)
  | some callback =>
    let d := { d with callbacks := (setInsert drvExtMgrCallbackCompare callback d.callbacks).2 }
    let o := o.emit (.addDeathRecipient callback.asObject r.addDeathRecipient)
    if r.addDeathRecipient then (.edmOk, d, o) else (.edmNok, d, o)

/-- Both overloads of `Device::UnregisterDrvExtMgrCallback` look for the remote object. -/
def unregisterDrvExtMgrCallback (object : Nat) (d : Device) : Device :=
  { d with callbacks := d.callbacks.eraseP fun element => element.asObject = object }

/-- `Device::Connect(connectCallback, callingTokenId)`. -/
def connectWith (r : DeviceReplies) (connectCallback : Option DriverExtMgrCallback)
    (callingTokenId : UInt32) (d : Device) (o : Outside) : UsbErrCode × Device × Outside :=
  if d.drvExtRemote.isSome then
    let o := o.emit (.onConnect connectCallback d.info d.drvExtRemote 0)
    let (ret, d, o) := d.registerDrvExtMgrCallback r connectCallback o
    if ret ≠ .edmOk then
      (ret, d, o)
    else
      (ret, { d with boundCallerInfos := d.boundCallerInfos.insert callingTokenId ⟨true⟩ }, o)
  else
    let (ret, d, o) := d.registerDrvExtMgrCallback r connectCallback o
    if ret ≠ .edmOk then
      (ret, d, o)
    else
      let (d, o) := d.updateDrvExtConnNotify o
      let (d, o) := d.addDrvExtConnNotify o
      let d := { d with boundCallerInfos := d.boundCallerInfos.insert callingTokenId ⟨false⟩ }
      let (ret, d, o) := d.connectExtension (r.connect 0) o
      if ret ≠ .edmOk then
        let d := match connectCallback with
          | none => d
          | some callback => d.unregisterDrvExtMgrCallback callback.asObject
        (ret, d.removeCaller callingTokenId, o)
      else
        (ret, d, o)

/-- `Device::Disconnect`; its argument only decides what is reported. -/
def disconnect (r : DeviceReplies) (d : Device) (o : Outside) : UsbErrCode × Outside :=
  if d.connectNofitier.any (·.isInvalidDrvExtConnectionInfo) then
    (.edmOk, o)
  else
    disconnectDriverExtension r.disconnect (getBundleName d.bundleInfo)
      (getAbilityName d.bundleInfo) d.connectNofitier d.info.busDevId o

def onConnect (remote : Option Nat) (resultCode : Int) (d : Device) (o : Outside) :
    Device × Outside :=
  ({ d with
      drvExtRemote := remote
      boundCallerInfos := Table.mapValues (fun _ => ⟨true⟩) d.boundCallerInfos },
    o.emitAll (d.callbacks.map fun callback =>
      .onConnect (some callback) d.info remote resultCode))

/-- `Device::OnDisconnect` up to its test of `IsUnRegisted`. -/
def onDisconnect (resultCode : Int) (d : Device) (o : Outside) : Device × Outside :=
  ({ d.clearConnection with
      drvExtRemote := none
      boundCallerInfos := ∅
      callbacks := [] },
    o.emitAll (d.callbacks.flatMap fun callback =>
      [.onUnBind callback d.info resultCode, .onDisconnect callback d.info resultCode]))

/-- The end of `Device::OnDisconnect`. -/
def stopExtension (r : DeviceReplies) (d : Device) (o : Outside) : Outside :=
  (stopDriverExtension r.stop (getBundleName d.bundleInfo) (getAbilityName d.bundleInfo) (-1) o).2

end Device
end ExtDevMgr.Manager
