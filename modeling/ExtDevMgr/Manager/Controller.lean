import Mathlib.Data.List.Basic

/-!
# The driver extension controller

The part of `driver_extension_controller.cpp` that connects, disconnects and stops a driver extension
through the ability manager. The ability manager's answers are parameters; the calls made outside the
service, to the ability manager, the clients, the driver change listener and the timer, are kept in a
log, the newest first.
-/

namespace ExtDevMgr.Manager

abbrev Name := List Char

/-- `UsbErrCode`; `reply` is a code of the ability manager passed on. -/
inductive UsbErrCode
  | edmOk
  | edmNok
  | edmErrInvalidParam
  | edmErrInvalidObject
  | edmErrNoPerm
  | edmErrServiceNotAllowAccess
  | edmErrServiceNotBound
  | reply (code : Int)
  deriving DecidableEq

/-- The 64 bits of `DeviceInfo::devInfo_`: the bus type below, the bus device id above it. -/
abbrev DeviceId := UInt64

def DeviceId.busType (id : DeviceId) : UInt32 := id.toUInt32

def DeviceId.busDevId (id : DeviceId) : UInt32 := (id >>> 32).toUInt32

structure DriverInfo where
  bundleName : Name
  driverName : Name
  driverUid : Name
  userId : Int := -1
  launchOnBind : Bool := false
  accessAllowed : Bool := false
  deriving DecidableEq

/-- A client's callback, by the remote object that `AsObject` gives: two proxies of one client share
it. -/
structure DriverExtMgrCallback where
  asObject : Nat
  deriving DecidableEq

inductive Event
  | connectAbility (connectInner callback : Nat) (bundleName abilityName : Name)
      (deviceId : UInt32) (ret : Int)
  | disconnectAbility (connectInner : Nat) (ret : Int)
  | stopExtensionAbility (bundleName abilityName : Name) (userId ret : Int)
  | addDeathRecipient (remote : Nat) (ok : Bool)
  /-- `callback` is `none` where the source calls through a null pointer. -/
  | onConnect (callback : Option DriverExtMgrCallback) (deviceId : DeviceId) (remote : Option Nat)
      (errCode : Int)
  | onUnBind (callback : DriverExtMgrCallback) (deviceId : DeviceId) (errCode : Int)
  | onDisconnect (callback : DriverExtMgrCallback) (deviceId : DeviceId) (errCode : Int)
  | onDriverMatched (driverInfo : DriverInfo)
  | onDriverRemoved (driverInfo : DriverInfo)
  | timerUnregister (timerId : UInt32)
  | timerShutdown
  | timerSetup (ret : UInt32)
  | timerRegister (interval : UInt32) (once : Bool)
  deriving DecidableEq

/-- The calls made outside the service, and the first object id not yet used for a notifier or a
connection. -/
structure Outside where
  log : List Event := []
  nextId : Nat := 0

namespace Outside

def emit (o : Outside) (e : Event) : Outside := { o with log := e :: o.log }

def emitAll (o : Outside) (es : List Event) : Outside := { o with log := es.reverse ++ o.log }

def alloc (o : Outside) : Outside := { o with nextId := o.nextId + 1 }

@[simp] theorem emit_log (o : Outside) (e : Event) : (o.emit e).log = e :: o.log := rfl
@[simp] theorem emit_nextId (o : Outside) (e : Event) : (o.emit e).nextId = o.nextId := rfl
@[simp] theorem emitAll_log (o : Outside) (es : List Event) :
    (o.emitAll es).log = es.reverse ++ o.log := rfl
@[simp] theorem emitAll_nextId (o : Outside) (es : List Event) :
    (o.emitAll es).nextId = o.nextId := rfl
@[simp] theorem alloc_log (o : Outside) : o.alloc.log = o.log := rfl
@[simp] theorem alloc_nextId (o : Outside) : o.alloc.nextId = o.nextId + 1 := rfl

end Outside

structure DrvExtConnectionInfo where
  bundleName : Name
  abilityName : Name
  deviceId : UInt32
  connectInner : Nat
  deriving DecidableEq

/-- An `IDriverExtensionConnectCallback`; connections know it by its `id`. -/
structure DrvExtConnNotify where
  id : Nat
  info : Option DrvExtConnectionInfo := none
  deriving DecidableEq

namespace DrvExtConnNotify

def isInvalidDrvExtConnectionInfo (notify : DrvExtConnNotify) : Bool := notify.info.isNone

def clearDrvExtConnectionInfo (notify : DrvExtConnNotify) : DrvExtConnNotify :=
  { notify with info := none }

@[simp] theorem clearDrvExtConnectionInfo_id (notify : DrvExtConnNotify) :
    notify.clearDrvExtConnectionInfo.id = notify.id := rfl
@[simp] theorem clearDrvExtConnectionInfo_info (notify : DrvExtConnNotify) :
    notify.clearDrvExtConnectionInfo.info = none := rfl

end DrvExtConnNotify

/-- `reply` is the answer of the ability manager to the call, `none` where there is no client. -/
def stopDriverExtension (reply : Option Int) (bundleName abilityName : Name) (userId : Int)
    (o : Outside) : UsbErrCode × Outside :=
  match reply with
  | none => (.edmErrInvalidObject, o)
  | some ret =>
    let o := o.emit (.stopExtensionAbility bundleName abilityName userId ret)
    if ret ≠ 0 then (.reply ret, o) else (.edmOk, o)

def connectDriverExtension (reply : Option Int) (bundleName abilityName : Name)
    (callback : Option DrvExtConnNotify) (deviceId : UInt32) (o : Outside) :
    UsbErrCode × Option DrvExtConnNotify × Outside :=
  match callback with
  | none => (.edmErrInvalidParam, none, o)
  | some notify =>
    if notify.info.isSome then
      (.edmErrInvalidObject, callback, o)
    else
      let connectInner := o.nextId
      let callback :=
        some { notify with info := some { bundleName, abilityName, deviceId, connectInner } }
      match reply with
      | none => (.edmErrInvalidObject, callback, o.alloc)
      | some ret =>
        let o := o.alloc.emit
          (.connectAbility connectInner notify.id bundleName abilityName deviceId ret)
        if ret ≠ 0 then (.reply ret, callback, o) else (.edmOk, callback, o)

def disconnectDriverExtension (reply : Option Int) (bundleName abilityName : Name)
    (callback : Option DrvExtConnNotify) (deviceId : UInt32) (o : Outside) :
    UsbErrCode × Outside :=
  match callback with
  | none => (.edmErrInvalidParam, o)
  | some notify =>
    match notify.info with
    | none => (.edmErrInvalidParam, o)
    | some info =>
      if info.bundleName ≠ bundleName ∨ info.abilityName ≠ abilityName ∨
          info.deviceId ≠ deviceId then
        (.edmErrInvalidObject, o)
      else
        match reply with
        | none => (.edmErrInvalidObject, o)
        | some ret =>
          let o := o.emit (.disconnectAbility info.connectInner ret)
          if ret ≠ 0 then (.reply ret, o) else (.edmOk, o)

end ExtDevMgr.Manager
