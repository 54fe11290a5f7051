import ExtDevMgr.Base.Locks
import ExtDevMgr.Manager.System

/-!
# The mutexes of the device manager

The operations with the mutexes that they take: that of the device map, that of the match map and one
for each device, which a thread may take again. An operation that runs alone does what its counterpart
without mutexes does.
-/

namespace ExtDevMgr.Manager.Locking
open ExtDeviceManager
open Prog (withLock call forEach)

inductive Mutex
  | deviceMap
  | bundleMatchMap
  | device (obj : Nat)
  deriving DecidableEq

/-- `deviceMutex_` is a recursive mutex, the other two are not. -/
def Mutex.recursive : Mutex → Bool
  | .device _ => true
  | _ => false

abbrev Code (α : Type) := Prog Mutex ExtDeviceManager α

/-! ## Devices -/

/-- Stores the device at `obj` and what it has left outside. -/
def put (obj : Nat) (d : Device) (out : Outside) (m : ExtDeviceManager) : ExtDeviceManager :=
  { m.setDevice obj d with out }

/-- One step on the device at `obj`. -/
def onDevice {α : Type} (obj : Nat) (f : Device → Outside → α × Device × Outside) : Code α :=
  call fun m =>
    let (a, d, out) := f (m.objects obj) m.out
    (a, put obj d out m)

/-- `Device::Connect()`. -/
def connect (r : Replies) (obj : Nat) : Code UsbErrCode :=
  withLock (.device obj) (onDevice obj fun d => Device.connect (r.device d.info) d)

def disconnect (r : Replies) (obj : Nat) : Code UsbErrCode :=
  withLock (.device obj) (call fun m =>
    let (ret, out) := (m.objects obj).disconnect (r.device (m.objects obj).info) m.out
    (ret, { m with out }))

/-- A callback that is a null pointer is refused before the mutex is taken. -/
def registerDrvExtMgrCallback (r : DeviceReplies) (callback : Option DriverExtMgrCallback)
    (obj : Nat) : Code UsbErrCode :=
  match callback with
  | none => pure .edmErrInvalidObject
  | some _ => withLock (.device obj) (onDevice obj (Device.registerDrvExtMgrCallback r callback))

def unregisterDrvExtMgrCallback (callback : Option DriverExtMgrCallback) (obj : Nat) : Code Unit :=
  match callback with
  | none => pure ()
  | some callback =>
    withLock (.device obj) (onDevice obj fun d o =>
      ((), d.unregisterDrvExtMgrCallback callback.asObject, o))

/-- A new notifier, and the caller. -/
def prepare (callingTokenId : UInt32) (d : Device) (o : Outside) : Device × Outside :=
  let (d, o) := d.updateDrvExtConnNotify o
  let (d, o) := d.addDrvExtConnNotify o
  ({ d with boundCallerInfos := d.boundCallerInfos.insert callingTokenId ⟨false⟩ }, o)

/-- The connection, which takes the callback and the caller back when it fails. -/
def conclude (r : DeviceReplies) (connectCallback : Option DriverExtMgrCallback)
    (callingTokenId : UInt32) (d : Device) (o : Outside) : UsbErrCode × Device × Outside :=
  let (ret, d, o) := d.connectExtension (r.connect 0) o
  if ret ≠ .edmOk then
    (ret, (match connectCallback with
      | none => d
      | some callback => d.unregisterDrvExtMgrCallback callback.asObject).removeCaller
        callingTokenId, o)
  else
    (ret, d, o)

/-- `Device::Connect(connectCallback, callingTokenId)`. -/
def connectWith (r : DeviceReplies) (connectCallback : Option DriverExtMgrCallback)
    (callingTokenId : UInt32) (obj : Nat) : Code UsbErrCode :=
  withLock (.device obj) do
    let m ← Prog.get
    if (m.objects obj).drvExtRemote.isSome then
      onDevice obj fun d o =>
        ((), d, o.emit (.onConnect connectCallback d.info d.drvExtRemote 0))
      let ret ← registerDrvExtMgrCallback r connectCallback obj
      if ret ≠ .edmOk then
        pure ret
      else
        onDevice obj fun d o =>
          ((), { d with boundCallerInfos := d.boundCallerInfos.insert callingTokenId ⟨true⟩ }, o)
        pure ret
    else
      let ret ← registerDrvExtMgrCallback r connectCallback obj
      if ret ≠ .edmOk then
        pure ret
      else
        onDevice obj fun d o => ((), prepare callingTokenId d o)
        let ret ← onDevice obj fun d o => d.connectExtension (r.connect 0) o
        if ret ≠ .edmOk then
          unregisterDrvExtMgrCallback connectCallback obj
          onDevice obj fun d o => ((), d.removeCaller callingTokenId, o)
          pure ret
        else
          pure ret

def onConnect (obj : Nat) (remote : Option Nat) (resultCode : Int) : Code Unit :=
  withLock (.device obj) (Prog.modify (·.onConnect obj remote resultCode))

def removeDeviceOfDeviceMap (obj : Nat) : Code Unit :=
  withLock .deviceMap (Prog.modify (·.removeDeviceOfDeviceMap obj))

/-- An unregistered device leaves the map with its own mutex taken. -/
def onDisconnect (r : Replies) (obj : Nat) (resultCode : Int) : Code Unit :=
  withLock (.device obj) do
    Prog.modify (·.onDisconnect obj resultCode)
    let m ← Prog.get
    if (m.objects obj).isUnRegisted then
      removeDeviceOfDeviceMap obj
    Prog.modify (·.stopExtension r obj)

/-! ## The match map -/

def addDevIdOfBundleInfoMap (r : Replies) (obj : Nat) (bundleInfo : Name) : Code UsbErrCode :=
  if bundleInfo = [] then
    pure .edmErrInvalidParam
  else
    withLock .bundleMatchMap do
      Prog.modify fun m => m.emplaceDevId bundleInfo (m.objects obj).info
      let m ← Prog.get
      match (m.objects obj).driverInfo with
      | none => pure .edmNok
      | some driverInfo =>
        Prog.modify (·.updateDriverInfo obj)
        if driverInfo.launchOnBind then
          pure .edmOk
        else
          let ret ← connect r obj
          pure (if ret ≠ .edmOk then .edmNok else .edmOk)

def removeDevIdOfBundleInfoMap (r : Replies) (obj : Nat) (bundleInfo : Name) : Code UsbErrCode :=
  if bundleInfo = [] then
    pure .edmErrInvalidParam
  else
    withLock .bundleMatchMap do
      let m ← Prog.get
      match m.bundleMatchMap.lookup bundleInfo with
      | none => pure .edmOk
      | some ids =>
        if ids.card > 1 then
          Prog.modify (·.eraseDevId bundleInfo ids (m.objects obj).info)
          pure .edmOk
        else
          Prog.modify (·.eraseBundle bundleInfo)
          let ret ← disconnect r obj
          if ret ≠ .edmOk then
            pure ret
          else
            Prog.modify (·.removeDriverInfo obj)
            pure .edmOk

/-! ## Operations -/

/-- The rest of `RegisterDevice` once the device is in the map. -/
def startDevice (r : Replies) (devInfo : DeviceId) (obj : Nat) : Code UsbErrCode := do
  Prog.modify (·.matchDevice r devInfo obj)
  Prog.modify stopUnloadTimer
  let m ← Prog.get
  if (m.objects obj).bundleInfo = [] then
    pure .edmOk
  else
    let ret ← addDevIdOfBundleInfoMap r obj (m.objects obj).bundleInfo
    pure (if ret ≠ .edmOk then .edmNok else ret)

def registerDevice (r : Replies) (devInfo : DeviceId) : Code UsbErrCode :=
  withLock .deviceMap do
    let m ← Prog.get
    match m.deviceMap.lookup devInfo with
    | some obj =>
      if (m.objects obj).drvExtRemote.isSome then pure .edmOk else startDevice r devInfo obj
    | none =>
      Prog.modify (·.makeDevice devInfo)
      startDevice r devInfo m.nextObject

def unRegisterDevice (r : Replies) (devInfo : DeviceId) : Code UsbErrCode :=
  withLock .deviceMap do
    let m ← Prog.get
    match m.deviceMap.lookup devInfo with
    | none => pure .edmOk
    | some obj =>
      Prog.modify (·.detachDevice devInfo obj)
      Prog.modify (·.unLoadSelf r)
      if (m.objects obj).bundleInfo = [] then
        pure .edmOk
      else
        removeDevIdOfBundleInfoMap r obj (m.objects obj).bundleInfo

def connectDevice (r : Replies) (deviceId : DeviceId) (callingTokenId : UInt32)
    (connectCallback : Option DriverExtMgrCallback) : Code UsbErrCode :=
  withLock .deviceMap do
    let m ← Prog.get
    match m.queryDeviceByDeviceID deviceId with
    | none => pure .edmNok
    | some obj => connectWith (r.device deviceId) connectCallback callingTokenId obj

def disConnectDevice (r : Replies) (deviceId : DeviceId) (callingTokenId : UInt32) :
    Code UsbErrCode :=
  withLock .deviceMap do
    let m ← Prog.get
    match m.queryDeviceByDeviceID deviceId with
    | none => pure .edmNok
    | some obj =>
      match (m.objects obj).driverInfo with
      | none => pure .edmNok
      | some driverInfo =>
        if !driverInfo.launchOnBind || !(m.objects obj).isLastCaller callingTokenId then
          Prog.modify fun m => m.setDevice obj ((m.objects obj).removeCaller callingTokenId)
          pure .edmOk
        else
          disconnect r obj

def rematchDevice (r : Replies) (obj : Nat) : Code Unit := do
  let m ← Prog.get
  if (m.objects obj).isUnRegisted ∨ (m.objects obj).drvExtRemote.isSome then
    pure ()
  else
    match r.queryMatchDriver (m.objects obj).info with
    | none => pure ()
    | some driverInfo =>
      Prog.modify fun m =>
        m.setDevice obj ((m.objects obj).addBundleInfo driverInfo.bundleInfo driverInfo)
      let _ ← addDevIdOfBundleInfoMap r obj driverInfo.bundleInfo
      pure ()

def matchDriverInfo (r : Replies) (deviceIds : Finset DeviceId) (id : DeviceId) : Code Unit := do
  let m ← Prog.get
  match m.deviceMap.lookup id with
  | none => pure ()
  | some obj =>
    Prog.modify fun m => if id ∈ deviceIds then m.forgetDriver obj else m
    rematchDevice r obj

/-- `order` puts the devices of the map in the order in which the loop visits them. -/
def matchDriverInfos (r : Replies) (deviceIds : Finset DeviceId)
    (order : List DeviceId → List DeviceId) : Code Unit :=
  withLock .deviceMap do
    let m ← Prog.get
    forEach (matchDriverInfo r deviceIds) (order m.deviceMap.keys)

def clearMatchedDriver (r : Replies) (userId : Int) (id : DeviceId) : Code Unit := do
  let m ← Prog.get
  match m.deviceMap.lookup id with
  | none => pure ()
  | some obj =>
    let d := m.objects obj
    if clearedBy userId d then
      withLock .bundleMatchMap do
        let m ← Prog.get
        match m.bundleMatchMap.lookup d.bundleInfo, d.driverInfo with
        | some _, some driverInfo =>
          Prog.modify fun m => { m with
            out := (stopDriverExtension (r.device d.info).stop driverInfo.bundleName
              driverInfo.driverName userId m.out).2 }
          Prog.modify (·.eraseBundle d.bundleInfo)
          Prog.modify (·.forgetDriver obj)
        | _, _ => pure ()
    else
      pure ()

def clearMatchedDrivers (r : Replies) (userId : Int) (order : List DeviceId → List DeviceId) :
    Code Unit :=
  withLock .deviceMap do
    let m ← Prog.get
    forEach (clearMatchedDriver r userId) (order m.deviceMap.keys)
    withLock .bundleMatchMap (Prog.modify fun m => { m with bundleMatchMap := ∅ })

/-! ## One thread alone -/

variable {m : ExtDeviceManager} {r : Replies} {obj : Nat}

theorem put_self : put obj (m.objects obj) m.out m = m := by
  unfold put setDevice
  rw [Function.update_eq_self]

@[simp] theorem put_objects (d : Device) (o : Outside) : (put obj d o m).objects obj = d :=
  setDevice_self d

theorem put_put (d d' : Device) (o o' : Outside) : put obj d' o' (put obj d o m) = put obj d' o' m := by
  unfold put setDevice
  simp only [Function.update_idem]

/-- A step on the device and what it leaves outside reads and writes nothing else. -/
theorem exec_onDevice {α : Type} {f : Device → Outside → α × Device × Outside} {d d' : Device}
    {o o' : Outside} {a : α} (h : f d o = (a, d', o')) :
    (onDevice obj f).exec (put obj d o m) = (a, put obj d' o' m) := by
  have hout : (put obj d o m).out = o := rfl
  rw [onDevice, Prog.exec_call, put_objects, hout, h]
  exact Prod.ext rfl (put_put ..)

theorem exec_connect : (connect r obj).exec m =
    m.runDevice obj (Device.connect (r.device (m.objects obj).info)) := Prog.exec_withLock

theorem exec_disconnect : (disconnect r obj).exec m =
    let (ret, out) := (m.objects obj).disconnect (r.device (m.objects obj).info) m.out
    (ret, { m with out }) := Prog.exec_withLock

theorem exec_registerDrvExtMgrCallback {rd : DeviceReplies} {callback : Option DriverExtMgrCallback}
    {d d' : Device} {o o' : Outside} {ret : UsbErrCode}
    (h : d.registerDrvExtMgrCallback rd callback o = (ret, d', o')) :
    (registerDrvExtMgrCallback rd callback obj).exec (put obj d o m) = (ret, put obj d' o' m) := by
  cases callback with
  | none =>
    cases h
    rfl
  | some callback => exact Prog.exec_withLock.trans (exec_onDevice h)

theorem exec_addDevIdOfBundleInfoMap (bundleInfo : Name) :
    (addDevIdOfBundleInfoMap r obj bundleInfo).exec m =
      m.addDevIdOfBundleInfoMap r obj bundleInfo := by
  unfold addDevIdOfBundleInfoMap ExtDeviceManager.addDevIdOfBundleInfoMap
  split
  case isTrue => rfl
  case isFalse =>
    simp only [Prog.exec_withLock, Prog.exec_get_bind, Prog.exec_modify_bind, launchDriver]
    cases ((m.emplaceDevId bundleInfo (m.objects obj).info).objects obj).driverInfo with
    | none => rfl
    | some driverInfo =>
      simp only [Prog.exec_modify_bind]
      cases driverInfo.launchOnBind with
      | true => rfl
      | false =>
        simp only [Bool.false_eq_true, if_false, Prog.exec_bind, exec_connect, Prog.exec_pure]
        split
        case isTrue => rfl
        case isFalse => rfl

theorem exec_removeDevIdOfBundleInfoMap (bundleInfo : Name) :
    (removeDevIdOfBundleInfoMap r obj bundleInfo).exec m =
      m.removeDevIdOfBundleInfoMap r obj bundleInfo := by
  unfold removeDevIdOfBundleInfoMap ExtDeviceManager.removeDevIdOfBundleInfoMap
  split
  case isTrue => rfl
  case isFalse =>
    simp only [Prog.exec_withLock, Prog.exec_get_bind]
    cases m.bundleMatchMap.lookup bundleInfo with
    | none => rfl
    | some ids =>
      dsimp only
      split
      case isTrue => rfl
      case isFalse =>
        rw [Prog.exec_modify_bind, Prog.exec_bind_of exec_disconnect]
        dsimp only [disconnectDriver]
        split
        case isTrue => rfl
        case isFalse => rfl

theorem exec_startDevice (devInfo : DeviceId) :
    (startDevice r devInfo obj).exec m = m.startDevice r devInfo obj := by
  unfold startDevice ExtDeviceManager.startDevice
  simp only [Prog.exec_get_bind, Prog.exec_modify_bind]
  split
  case isTrue => rfl
  case isFalse =>
    simp only [Prog.exec_bind, exec_addDevIdOfBundleInfoMap, Prog.exec_pure]
    split
    case isTrue => rfl
    case isFalse => rfl

theorem exec_registerDevice (devInfo : DeviceId) :
    (registerDevice r devInfo).exec m = m.registerDevice r devInfo := by
  unfold registerDevice ExtDeviceManager.registerDevice
  simp only [Prog.exec_withLock, Prog.exec_get_bind]
  cases m.deviceMap.lookup devInfo with
  | none =>
    simp only [Prog.exec_modify_bind]
    exact exec_startDevice devInfo
  | some obj =>
    dsimp only
    split
    case isTrue => rfl
    case isFalse => exact exec_startDevice devInfo

theorem exec_unRegisterDevice (devInfo : DeviceId) :
    (unRegisterDevice r devInfo).exec m = m.unRegisterDevice r devInfo := by
  unfold unRegisterDevice ExtDeviceManager.unRegisterDevice
  simp only [Prog.exec_withLock, Prog.exec_get_bind]
  cases m.deviceMap.lookup devInfo with
  | none => rfl
  | some obj =>
    simp only [Prog.exec_modify_bind]
    split
    case isTrue => rfl
    case isFalse => exact exec_removeDevIdOfBundleInfoMap _

theorem exec_disConnectDevice (deviceId : DeviceId) (token : UInt32) :
    (disConnectDevice r deviceId token).exec m = m.disConnectDevice r deviceId token := by
  unfold disConnectDevice ExtDeviceManager.disConnectDevice
  simp only [Prog.exec_withLock, Prog.exec_get_bind]
  cases m.queryDeviceByDeviceID deviceId with
  | none => rfl
  | some obj =>
    dsimp only [unbind]
    cases (m.objects obj).driverInfo with
    | none => rfl
    | some driverInfo =>
      dsimp only
      split
      case isTrue => rfl
      case isFalse => exact exec_disconnect

theorem exec_rematchDevice : (rematchDevice r obj).exec m = ((), m.rematchDevice r obj) := by
  unfold rematchDevice ExtDeviceManager.rematchDevice
  simp only [Prog.exec_get_bind]
  split
  case isTrue => rfl
  case isFalse =>
    cases r.queryMatchDriver (m.objects obj).info with
    | none => rfl
    | some driverInfo =>
      dsimp only
      rw [Prog.exec_modify_bind, Prog.exec_bind_of (exec_addDevIdOfBundleInfoMap _)]
      rfl

theorem exec_matchDriverInfo (deviceIds : Finset DeviceId) (id : DeviceId) :
    (matchDriverInfo r deviceIds id).exec m = ((), m.matchDriverInfo r deviceIds id) := by
  unfold matchDriverInfo ExtDeviceManager.matchDriverInfo
  simp only [Prog.exec_get_bind]
  cases m.deviceMap.lookup id with
  | none => rfl
  | some obj =>
    simp only [Prog.exec_modify_bind]
    exact exec_rematchDevice

theorem exec_matchDriverInfos (deviceIds : Finset DeviceId) (order : List DeviceId → List DeviceId) :
    (matchDriverInfos r deviceIds order).exec m =
      ((), m.matchDriverInfos r deviceIds (order m.deviceMap.keys)) := by
  unfold matchDriverInfos ExtDeviceManager.matchDriverInfos
  simp only [Prog.exec_withLock, Prog.exec_get_bind]
  apply Prog.exec_forEach
  intro id m
  exact exec_matchDriverInfo deviceIds id

theorem exec_clearMatchedDriver (userId : Int) (id : DeviceId) :
    (clearMatchedDriver r userId id).exec m = ((), m.clearMatchedDriver r userId id) := by
  unfold clearMatchedDriver ExtDeviceManager.clearMatchedDriver
  simp only [Prog.exec_get_bind]
  cases m.deviceMap.lookup id with
  | none => rfl
  | some obj =>
    dsimp only
    split
    case isTrue =>
      simp only [Prog.exec_withLock, Prog.exec_get_bind]
      cases m.bundleMatchMap.lookup (m.objects obj).bundleInfo with
      | none => rfl
      | some ids =>
        cases (m.objects obj).driverInfo with
        | none => rfl
        | some driverInfo => rfl
    case isFalse => rfl

theorem exec_clearMatchedDrivers (userId : Int) (order : List DeviceId → List DeviceId) :
    (clearMatchedDrivers r userId order).exec m =
      ((), m.clearMatchedDrivers r userId (order m.deviceMap.keys)) := by
  unfold clearMatchedDrivers ExtDeviceManager.clearMatchedDrivers
  have hloop := Prog.exec_forEach (s := m) (clearMatchedDriver r userId) _
    (fun id m => exec_clearMatchedDriver userId id) (order m.deviceMap.keys)
  rw [Prog.exec_withLock, Prog.exec_get_bind, Prog.exec_bind_of hloop]
  rfl

theorem exec_onConnect (remote : Option Nat) (resultCode : Int) :
    (onConnect obj remote resultCode).exec m = ((), m.onConnect obj remote resultCode) :=
  Prog.exec_withLock

theorem exec_onDisconnect (resultCode : Int) : (onDisconnect r obj resultCode).exec m =
    ((), (let m := m.onDisconnect obj resultCode
      if (m.objects obj).isUnRegisted then m.removeDeviceOfDeviceMap obj else m).stopExtension r obj) := by
  unfold onDisconnect
  rw [Prog.exec_withLock, Prog.exec_modify_bind, Prog.exec_get_bind]
  dsimp only
  split
  case isTrue => rfl
  case isFalse => rfl

theorem exec_connectWith (rd : DeviceReplies) (callback : Option DriverExtMgrCallback)
    (token : UInt32) : (connectWith rd callback token obj).exec m =
      m.runDevice obj (Device.connectWith rd callback token) := by
  have hself : put obj (m.objects obj) m.out m = m := put_self
  rcases hresult : Device.connectWith rd callback token (m.objects obj) m.out with ⟨ret, d', o'⟩
  have hrun : m.runDevice obj (Device.connectWith rd callback token) = (ret, put obj d' o' m) := by
    rw [runDevice, hresult]
    rfl
  rw [hrun]
  unfold connectWith
  rw [Prog.exec_withLock, Prog.exec_get_bind]
  unfold Device.connectWith at hresult
  split
  case isTrue hremote =>
    rw [if_pos hremote] at hresult
    dsimp only at hresult
    rcases hreg : (m.objects obj).registerDrvExtMgrCallback rd callback
      (m.out.emit (.onConnect callback (m.objects obj).info (m.objects obj).drvExtRemote 0))
      with ⟨ret₁, d₁, o₁⟩
    rw [hreg] at hresult
    have hemit : (onDevice obj fun d o =>
        ((), d, o.emit (.onConnect callback d.info d.drvExtRemote 0))).exec
          (put obj (m.objects obj) m.out m) = _ := exec_onDevice rfl
    rw [hself] at hemit
    rw [Prog.exec_bind_of hemit, Prog.exec_bind_of (exec_registerDrvExtMgrCallback hreg)]
    by_cases hret : ret₁ = .edmOk
    · dsimp only at hresult ⊢
      rw [if_neg (not_not.mpr hret)] at hresult ⊢
      cases hresult
      rw [Prog.exec_bind_of (exec_onDevice rfl)]
      rfl
    · dsimp only at hresult ⊢
      rw [if_pos hret] at hresult ⊢
      cases hresult
      rfl
  case isFalse hremote =>
    rw [if_neg hremote] at hresult
    rcases hreg : (m.objects obj).registerDrvExtMgrCallback rd callback m.out with ⟨ret₁, d₁, o₁⟩
    rw [hreg] at hresult
    have hstart : (registerDrvExtMgrCallback rd callback obj).exec
        (put obj (m.objects obj) m.out m) = _ := exec_registerDrvExtMgrCallback hreg
    rw [hself] at hstart
    rw [Prog.exec_bind_of hstart]
    by_cases hret : ret₁ = .edmOk
    · subst hret
      dsimp only
      rw [if_neg nofun]
      have hresult : conclude rd callback token (prepare token d₁ o₁).1 (prepare token d₁ o₁).2 =
          (ret, d', o') := hresult
      rcases hprep : prepare token d₁ o₁ with ⟨d₂, o₂⟩
      rw [hprep, conclude] at hresult
      dsimp only at hresult
      rcases hconn : d₂.connectExtension (rd.connect 0) o₂ with ⟨ret₃, d₃, o₃⟩
      rw [hconn] at hresult
      have hprep' : (onDevice obj fun d o => ((), prepare token d o)).exec (put obj d₁ o₁ m) =
          ((), put obj d₂ o₂ m) := exec_onDevice (congrArg (Prod.mk ()) hprep)
      rw [Prog.exec_bind_of hprep', Prog.exec_bind_of (exec_onDevice hconn)]
      by_cases hret : ret₃ = .edmOk
      · dsimp only at hresult ⊢
        rw [if_neg (not_not.mpr hret)] at hresult ⊢
        cases hresult
        rfl
      · dsimp only at hresult ⊢
        rw [if_pos hret] at hresult ⊢
        cases hresult
        have hremove (d : Device) :
            (onDevice obj fun d o => ((), d.removeCaller token, o)).exec (put obj d o' m) =
              ((), put obj (d.removeCaller token) o' m) :=
          exec_onDevice (f := fun d o => ((), d.removeCaller token, o)) rfl
        cases callback with
        | none => exact Prog.exec_bind_of (hremove d₃) _
        | some callback =>
          have hunregister : (unregisterDrvExtMgrCallback (some callback) obj).exec (put obj d₃ o' m) =
              ((), put obj (d₃.unregisterDrvExtMgrCallback callback.asObject) o' m) := by
            refine Prog.exec_withLock.trans ?_
            exact exec_onDevice (f := fun d o =>
              ((), d.unregisterDrvExtMgrCallback callback.asObject, o)) rfl
          exact (Prog.exec_bind_of hunregister _).trans (Prog.exec_bind_of (hremove _) _)
    · dsimp only at hresult ⊢
      rw [if_pos hret] at hresult ⊢
      cases hresult
      rfl

theorem exec_connectDevice (deviceId : DeviceId) (token : UInt32)
    (callback : Option DriverExtMgrCallback) : (connectDevice r deviceId token callback).exec m =
      m.connectDevice r deviceId token callback := by
  unfold connectDevice ExtDeviceManager.connectDevice
  simp only [Prog.exec_withLock, Prog.exec_get_bind]
  cases m.queryDeviceByDeviceID deviceId with
  | none => rfl
  | some obj => exact exec_connectWith (r.device deviceId) callback token

end ExtDevMgr.Manager.Locking
