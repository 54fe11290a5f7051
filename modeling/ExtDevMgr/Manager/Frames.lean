import ExtDevMgr.Manager.ExtDeviceMgr

/-!
# What the operations leave alone

The operations on a connection keep the driver of the device, and an operation on one device keeps
the other devices and the device map.
-/

namespace ExtDevMgr.Manager

/-! ## The operations of a device -/

namespace Device

/-- `d'` is the same device as `d`, registered or not alike, with the same driver. -/
structure SameDriver (d d' : Device) : Prop where
  info : d'.info = d.info
  isUnRegisted : d'.isUnRegisted = d.isUnRegisted
  bundleInfo : d'.bundleInfo = d.bundleInfo
  driverInfo : d'.driverInfo = d.driverInfo

variable {d d' d'' : Device} {r : DeviceReplies} {o : Outside}

theorem SameDriver.refl (d : Device) : SameDriver d d := ⟨rfl, rfl, rfl, rfl⟩

theorem SameDriver.trans (h : SameDriver d d') (h' : SameDriver d' d'') : SameDriver d d'' :=
  ⟨h'.info.trans h.info, h'.isUnRegisted.trans h.isUnRegisted, h'.bundleInfo.trans h.bundleInfo,
    h'.driverInfo.trans h.driverInfo⟩

theorem addDrvExtConnNotify_sameDriver : SameDriver d (d.addDrvExtConnNotify o).1 := by
  unfold addDrvExtConnNotify
  split
  case isTrue => exact ⟨rfl, rfl, rfl, rfl⟩
  case isFalse => exact .refl d

theorem connectExtension_sameDriver (reply : Option Int) :
    SameDriver d (d.connectExtension reply o).2.1 := ⟨rfl, rfl, rfl, rfl⟩

theorem reconnect_sameDriver (n : Nat) (ret : UsbErrCode) :
    SameDriver d (reconnect r n ret d o).2.1 := by
  induction n generalizing ret d o with
  | zero => exact .refl d
  | succ n ih =>
    rw [reconnect]
    split
    case isTrue => exact .refl d
    case isFalse =>
      have hclear : SameDriver d
          (d.clearDrvExtRemote.clearConnection.connectExtension (r.connect (retryTimes - n)) o).2.1 :=
        ⟨rfl, rfl, rfl, rfl⟩
      exact hclear.trans (ih _)

theorem connect_sameDriver : SameDriver d (connect r d o).2.1 :=
  (addDrvExtConnNotify_sameDriver.trans (connectExtension_sameDriver _)).trans
    (reconnect_sameDriver _ _)

/-- `Device::Connect()` sets no remote; where it retries it clears it. -/
theorem reconnect_drvExtRemote (n : Nat) (ret : UsbErrCode) (h : d.drvExtRemote = none) :
    (reconnect r n ret d o).2.1.drvExtRemote = none := by
  induction n generalizing ret d o with
  | zero => exact h
  | succ n ih =>
    rw [reconnect]
    split
    case isTrue => exact h
    case isFalse => exact ih _ rfl

theorem connect_drvExtRemote (h : d.drvExtRemote = none) :
    (connect r d o).2.1.drvExtRemote = none := by
  refine reconnect_drvExtRemote _ _ ?_
  change (d.addDrvExtConnNotify o).1.drvExtRemote = none
  unfold addDrvExtConnNotify
  split
  case isTrue => exact h
  case isFalse => exact h

theorem registerDrvExtMgrCallback_sameDriver (callback : Option DriverExtMgrCallback) :
    SameDriver d (d.registerDrvExtMgrCallback r callback o).2.1 := by
  unfold registerDrvExtMgrCallback
  cases callback with
  | none => exact .refl d
  | some callback =>
    dsimp only
    split
    case isTrue => exact ⟨rfl, rfl, rfl, rfl⟩
    case isFalse => exact ⟨rfl, rfl, rfl, rfl⟩

theorem connectWith_sameDriver (callback : Option DriverExtMgrCallback) (token : UInt32) :
    SameDriver d (d.connectWith r callback token o).2.1 := by
  have hreg (o : Outside) := registerDrvExtMgrCallback_sameDriver (d := d) (r := r) (o := o) callback
  unfold connectWith
  split
  case isTrue =>
    dsimp only
    split
    case isTrue => exact hreg _
    case isFalse =>
      have h := hreg (o.emit (.onConnect callback d.info d.drvExtRemote 0))
      exact ⟨h.info, h.isUnRegisted, h.bundleInfo, h.driverInfo⟩
  case isFalse =>
    have h := hreg o
    generalize d.registerDrvExtMgrCallback r callback o = registered at h ⊢
    obtain ⟨ret, d', o'⟩ := registered
    dsimp only at h ⊢
    split
    case isTrue => exact h
    case isFalse =>
      split
      case isTrue =>
        cases callback with
        | none => exact h.trans ⟨rfl, rfl, rfl, rfl⟩
        | some callback => exact h.trans ⟨rfl, rfl, rfl, rfl⟩
      case isFalse => exact h.trans ⟨rfl, rfl, rfl, rfl⟩

theorem onConnect_sameDriver (remote : Option Nat) (resultCode : Int) :
    SameDriver d (d.onConnect remote resultCode o).1 := ⟨rfl, rfl, rfl, rfl⟩

theorem onDisconnect_sameDriver (resultCode : Int) :
    SameDriver d (d.onDisconnect resultCode o).1 := ⟨rfl, rfl, rfl, rfl⟩

theorem removeCaller_sameDriver (token : UInt32) : SameDriver d (d.removeCaller token) :=
  ⟨rfl, rfl, rfl, rfl⟩

end Device

/-! ## The operations of the manager -/

namespace ExtDeviceManager
variable {m m' m'' : ExtDeviceManager} {obj o : Nat} {r : Replies}

@[simp] theorem setDevice_deviceMap (d : Device) : (m.setDevice obj d).deviceMap = m.deviceMap := rfl
@[simp] theorem setDevice_nextObject (d : Device) :
    (m.setDevice obj d).nextObject = m.nextObject := rfl
@[simp] theorem setDevice_bundleMatchMap (d : Device) :
    (m.setDevice obj d).bundleMatchMap = m.bundleMatchMap := rfl
@[simp] theorem setDevice_out (d : Device) : (m.setDevice obj d).out = m.out := rfl

@[simp] theorem setDevice_self (d : Device) : (m.setDevice obj d).objects obj = d :=
  Function.update_self ..

theorem setDevice_ne (d : Device) (h : o ≠ obj) : (m.setDevice obj d).objects o = m.objects o :=
  Function.update_of_ne h ..

/-- A field that the new value of a device keeps is kept at all devices. -/
theorem setDevice_field {α : Type*} (f : Device → α) {d : Device} (h : f d = f (m.objects obj))
    (o : Nat) : f ((m.setDevice obj d).objects o) = f (m.objects o) := by
  by_cases ho : o = obj
  · rw [ho, setDevice_self, h]
  · rw [setDevice_ne d ho]

@[simp] theorem emit_deviceMap (e : Event) : (m.emit e).deviceMap = m.deviceMap := rfl
@[simp] theorem emit_nextObject (e : Event) : (m.emit e).nextObject = m.nextObject := rfl
@[simp] theorem emit_objects (e : Event) : (m.emit e).objects = m.objects := rfl
@[simp] theorem emit_bundleMatchMap (e : Event) : (m.emit e).bundleMatchMap = m.bundleMatchMap := rfl

/-- `m'` keeps the device map, the devices other than `obj`, and of `obj` its id and its flag. -/
structure Touches (obj : Nat) (m m' : ExtDeviceManager) : Prop where
  deviceMap : m'.deviceMap = m.deviceMap
  nextObject : m'.nextObject = m.nextObject
  driverChangeCallback : m'.driverChangeCallback = m.driverChangeCallback
  objects : ∀ o, o ≠ obj → m'.objects o = m.objects o
  info : (m'.objects obj).info = (m.objects obj).info
  isUnRegisted : (m'.objects obj).isUnRegisted = (m.objects obj).isUnRegisted

theorem Touches.of_objects (hmap : m'.deviceMap = m.deviceMap) (hnext : m'.nextObject = m.nextObject)
    (hcall : m'.driverChangeCallback = m.driverChangeCallback) (hobj : m'.objects = m.objects) :
    Touches obj m m' :=
  ⟨hmap, hnext, hcall, fun _ _ => by rw [hobj], by rw [hobj], by rw [hobj]⟩

theorem Touches.refl (m : ExtDeviceManager) : Touches obj m m := .of_objects rfl rfl rfl rfl

theorem Touches.trans (h : Touches obj m m') (h' : Touches obj m' m'') : Touches obj m m'' where
  deviceMap := h'.deviceMap.trans h.deviceMap
  nextObject := h'.nextObject.trans h.nextObject
  driverChangeCallback := h'.driverChangeCallback.trans h.driverChangeCallback
  objects o ho := (h'.objects o ho).trans (h.objects o ho)
  info := h'.info.trans h.info
  isUnRegisted := h'.isUnRegisted.trans h.isUnRegisted

theorem Touches.field {α : Type*} (f : Device → α) (h : Touches obj m m')
    (hf : f (m'.objects obj) = f (m.objects obj)) (o : Nat) : f (m'.objects o) = f (m.objects o) := by
  by_cases ho : o = obj
  · rw [ho, hf]
  · rw [h.objects o ho]

theorem setDevice_touches {d : Device} (hinfo : d.info = (m.objects obj).info)
    (hflag : d.isUnRegisted = (m.objects obj).isUnRegisted) : Touches obj m (m.setDevice obj d) where
  deviceMap := rfl
  nextObject := rfl
  driverChangeCallback := rfl
  objects _ ho := setDevice_ne d ho
  info := by rw [setDevice_self, hinfo]
  isUnRegisted := by rw [setDevice_self, hflag]

theorem emit_touches (e : Event) : Touches obj m (m.emit e) := .of_objects rfl rfl rfl rfl

/-- The operation touches `obj` only, and neither its driver nor the match map. -/
structure KeepsDriver (obj : Nat) (m m' : ExtDeviceManager) : Prop extends Touches obj m m' where
  bundleMatchMap : m'.bundleMatchMap = m.bundleMatchMap
  sameDriver : Device.SameDriver (m.objects obj) (m'.objects obj)

theorem KeepsDriver.of_objects (hmap : m'.deviceMap = m.deviceMap)
    (hnext : m'.nextObject = m.nextObject)
    (hcall : m'.driverChangeCallback = m.driverChangeCallback) (hobj : m'.objects = m.objects)
    (hmatch : m'.bundleMatchMap = m.bundleMatchMap) : KeepsDriver obj m m' :=
  ⟨.of_objects hmap hnext hcall hobj, hmatch, by rw [hobj]; exact .refl _⟩

theorem KeepsDriver.refl (m : ExtDeviceManager) : KeepsDriver obj m m :=
  .of_objects rfl rfl rfl rfl rfl

theorem KeepsDriver.trans (h : KeepsDriver obj m m') (h' : KeepsDriver obj m' m'') :
    KeepsDriver obj m m'' :=
  ⟨h.toTouches.trans h'.toTouches, h'.bundleMatchMap.trans h.bundleMatchMap,
    h.sameDriver.trans h'.sameDriver⟩

theorem setDevice_keepsDriver {d : Device} (h : Device.SameDriver (m.objects obj) d) :
    KeepsDriver obj m (m.setDevice obj d) :=
  ⟨setDevice_touches h.info h.isUnRegisted, rfl, by rwa [setDevice_self]⟩

theorem KeepsDriver.withOut (h : KeepsDriver obj m m') (out : Outside) :
    KeepsDriver obj m { m' with out } :=
  h.trans (.of_objects rfl rfl rfl rfl rfl)

theorem keepsDriver_bundleInfo (h : KeepsDriver obj m m') :
    ∀ o, (m'.objects o).bundleInfo = (m.objects o).bundleInfo :=
  h.toTouches.field Device.bundleInfo h.sameDriver.bundleInfo

theorem runDevice_keepsDriver {f : Device → Outside → UsbErrCode × Device × Outside}
    (h : Device.SameDriver (m.objects obj) (f (m.objects obj) m.out).2.1) :
    KeepsDriver obj m (m.runDevice obj f).2 :=
  (setDevice_keepsDriver h).withOut _

theorem updateDriverInfo_keepsDriver : KeepsDriver o m (m.updateDriverInfo obj) := by
  unfold updateDriverInfo
  split
  · exact .refl m
  · split
    case isTrue => exact .of_objects rfl rfl rfl rfl rfl
    case isFalse => exact .refl m

theorem unLoadSelf_objects : (m.unLoadSelf r).objects = m.objects := by
  unfold unLoadSelf
  dsimp only
  split
  case isTrue => rfl
  case isFalse =>
    split
    case isTrue => rfl
    case isFalse => rfl

theorem unLoadSelf_keepsDriver : KeepsDriver obj m (m.unLoadSelf r) := by
  unfold unLoadSelf
  dsimp only
  split
  case isTrue => exact .of_objects rfl rfl rfl rfl rfl
  case isFalse =>
    split
    case isTrue => exact .of_objects rfl rfl rfl rfl rfl
    case isFalse => exact .of_objects rfl rfl rfl rfl rfl

theorem launchDriver_keepsDriver : KeepsDriver obj m (m.launchDriver r obj).2 := by
  unfold launchDriver
  split
  · exact .refl m
  · dsimp only
    split
    case isTrue => exact updateDriverInfo_keepsDriver
    case isFalse =>
      have hrun : KeepsDriver obj m ((m.updateDriverInfo obj).runDevice obj
          (Device.connect (r.device ((m.updateDriverInfo obj).objects obj).info))).2 :=
        updateDriverInfo_keepsDriver.trans (runDevice_keepsDriver Device.connect_sameDriver)
      split
      case isTrue => exact hrun
      case isFalse => exact hrun

theorem updateDriverInfo_objects : (m.updateDriverInfo obj).objects = m.objects := by
  unfold updateDriverInfo
  split
  · rfl
  · split <;> rfl

theorem launchDriver_drvExtRemote (h : (m.objects obj).drvExtRemote = none) :
    ((m.launchDriver r obj).2.objects obj).drvExtRemote = none := by
  have hupd : ((m.updateDriverInfo obj).objects obj).drvExtRemote = none := by
    rw [updateDriverInfo_objects, h]
  unfold launchDriver
  split
  · exact h
  · dsimp only
    split
    case isTrue => exact hupd
    case isFalse =>
      have hrun (r : DeviceReplies) : (((m.updateDriverInfo obj).runDevice obj
          (Device.connect r)).2.objects obj).drvExtRemote = none :=
        (congrArg Device.drvExtRemote (setDevice_self _)).trans (Device.connect_drvExtRemote hupd)
      split
      case isTrue => exact hrun _
      case isFalse => exact hrun _

/-! ## What forgets a driver -/

theorem removeDriverInfo_touches : Touches obj m (m.removeDriverInfo obj) := by
  unfold removeDriverInfo
  split
  · exact .refl m
  · split
    case isTrue => exact (emit_touches _).trans (setDevice_touches rfl rfl)
    case isFalse => exact .refl m

@[simp] theorem removeDriverInfo_bundleMatchMap :
    (m.removeDriverInfo obj).bundleMatchMap = m.bundleMatchMap := by
  unfold removeDriverInfo
  split
  · rfl
  · split <;> rfl

/-- What `RemoveDriverInfo` leaves of a device: without a listener it keeps the driver info. -/
theorem removeDriverInfo_self : (m.removeDriverInfo obj).objects obj =
    if m.driverChangeCallback then (m.objects obj).removeDriverInfo else m.objects obj := by
  unfold removeDriverInfo
  cases hinfo : (m.objects obj).driverInfo with
  | none =>
    have hsame : (m.objects obj).removeDriverInfo = m.objects obj := by
      rw [Device.removeDriverInfo, ← hinfo]
    rw [hsame, ite_self]
  | some driverInfo =>
    dsimp only
    split
    case isTrue => rw [setDevice_self]
    case isFalse => rfl

@[simp] theorem removeDriverInfo_bundleInfo :
    ((m.removeDriverInfo obj).objects obj).bundleInfo = (m.objects obj).bundleInfo := by
  rw [removeDriverInfo_self]
  split <;> rfl

/-- What is left of a device whose driver is forgotten. -/
def forgotten (m : ExtDeviceManager) (d : Device) : Device :=
  if m.driverChangeCallback then d.removeBundleInfo.clearDrvExtRemote.removeDriverInfo
  else d.removeBundleInfo.clearDrvExtRemote

@[simp] theorem forgotten_bundleInfo (d : Device) : (m.forgotten d).bundleInfo = [] := by
  unfold forgotten
  split <;> rfl

@[simp] theorem forgotten_drvExtRemote (d : Device) : (m.forgotten d).drvExtRemote = none := by
  unfold forgotten
  split <;> rfl

@[simp] theorem forgotten_isUnRegisted (d : Device) :
    (m.forgotten d).isUnRegisted = d.isUnRegisted := by
  unfold forgotten
  split <;> rfl

@[simp] theorem forgotten_info (d : Device) : (m.forgotten d).info = d.info := by
  unfold forgotten
  split <;> rfl

theorem forgetDriver_touches : Touches obj m (m.forgetDriver obj) := by
  have hset : Touches obj m (m.setDevice obj (m.objects obj).removeBundleInfo.clearDrvExtRemote) :=
    setDevice_touches rfl rfl
  exact hset.trans removeDriverInfo_touches

@[simp] theorem forgetDriver_bundleMatchMap :
    (m.forgetDriver obj).bundleMatchMap = m.bundleMatchMap :=
  removeDriverInfo_bundleMatchMap

@[simp] theorem forgetDriver_self :
    (m.forgetDriver obj).objects obj = m.forgotten (m.objects obj) := by
  rw [forgetDriver, removeDriverInfo_self, setDevice_self]
  rfl

/-! ## The match map and the device -/

/-- The entry is made whatever becomes of the connection, and the driver of the device stays. -/
theorem addDevIdOfBundleInfoMap_keepsDriver (obj : Nat) {bundleInfo : Name} (hb : bundleInfo ≠ []) :
    KeepsDriver obj (m.emplaceDevId bundleInfo (m.objects obj).info)
      (m.addDevIdOfBundleInfoMap r obj bundleInfo).2 := by
  rw [addDevIdOfBundleInfoMap, if_neg hb]
  exact launchDriver_keepsDriver

theorem addDevIdOfBundleInfoMap_touches (bundleInfo : Name) :
    Touches obj m (m.addDevIdOfBundleInfoMap r obj bundleInfo).2 := by
  by_cases hb : bundleInfo = []
  · rw [addDevIdOfBundleInfoMap, if_pos hb]
    exact .refl m
  · have hemplace : Touches obj m (m.emplaceDevId bundleInfo (m.objects obj).info) :=
      .of_objects rfl rfl rfl rfl
    exact hemplace.trans (addDevIdOfBundleInfoMap_keepsDriver obj hb).toTouches

/-- The match map once the device has left the entry of `bundleInfo`. -/
def matchMapWithout (m : ExtDeviceManager) (bundleInfo : Name) (deviceId : DeviceId) :
    Table Name (Finset DeviceId) :=
  match m.bundleMatchMap.lookup bundleInfo with
  | none => m.bundleMatchMap
  | some ids =>
    if ids.card > 1 then m.bundleMatchMap.insert bundleInfo (ids.erase deviceId)
    else m.bundleMatchMap.erase bundleInfo

theorem disconnectDriver_touches : Touches obj m (m.disconnectDriver r obj).2 := by
  have hout (out : Outside) : Touches obj m { m with out } := .of_objects rfl rfl rfl rfl
  unfold disconnectDriver
  dsimp only
  split
  case isTrue => exact hout _
  case isFalse => exact (hout _).trans removeDriverInfo_touches

@[simp] theorem disconnectDriver_bundleMatchMap :
    (m.disconnectDriver r obj).2.bundleMatchMap = m.bundleMatchMap := by
  unfold disconnectDriver
  dsimp only
  split
  case isTrue => rfl
  case isFalse => rw [removeDriverInfo_bundleMatchMap]

@[simp] theorem disconnectDriver_bundleInfo :
    ((m.disconnectDriver r obj).2.objects obj).bundleInfo = (m.objects obj).bundleInfo := by
  unfold disconnectDriver
  dsimp only
  split
  case isTrue => rfl
  case isFalse => rw [removeDriverInfo_bundleInfo]

/-- The entry is taken out whatever becomes of the connection. -/
theorem removeDevIdOfBundleInfoMap_spec (obj : Nat) {bundleInfo : Name} (hb : bundleInfo ≠ []) :
    Touches obj m (m.removeDevIdOfBundleInfoMap r obj bundleInfo).2 ∧
      (m.removeDevIdOfBundleInfoMap r obj bundleInfo).2.bundleMatchMap =
        m.matchMapWithout bundleInfo (m.objects obj).info ∧
      ((m.removeDevIdOfBundleInfoMap r obj bundleInfo).2.objects obj).bundleInfo =
        (m.objects obj).bundleInfo := by
  rw [removeDevIdOfBundleInfoMap, if_neg hb, matchMapWithout]
  cases m.bundleMatchMap.lookup bundleInfo with
  | none => exact ⟨.refl m, rfl, rfl⟩
  | some ids =>
    dsimp only
    split
    case isTrue => exact ⟨.of_objects rfl rfl rfl rfl, rfl, rfl⟩
    case isFalse =>
      have herase : Touches obj m (m.eraseBundle bundleInfo) := .of_objects rfl rfl rfl rfl
      exact ⟨herase.trans disconnectDriver_touches, disconnectDriver_bundleMatchMap,
        disconnectDriver_bundleInfo⟩

theorem removeDevIdOfBundleInfoMap_touches (bundleInfo : Name) :
    Touches obj m (m.removeDevIdOfBundleInfoMap r obj bundleInfo).2 := by
  by_cases hb : bundleInfo = []
  · rw [removeDevIdOfBundleInfoMap, if_pos hb]
    exact .refl m
  · exact (removeDevIdOfBundleInfoMap_spec obj hb).1

theorem matchDevice_touches {devInfo : DeviceId} :
    Touches obj m (m.matchDevice r devInfo obj) := by
  unfold matchDevice
  split
  case isTrue =>
    split
    · exact .refl m
    · exact setDevice_touches rfl rfl
  case isFalse => exact .refl m

theorem startDevice_snd (r : Replies) (devInfo : DeviceId) (obj : Nat) (m : ExtDeviceManager) :
    (m.startDevice r devInfo obj).2 =
      if ((m.matchDevice r devInfo obj).objects obj).bundleInfo = [] then
        (m.matchDevice r devInfo obj).stopUnloadTimer
      else
        ((m.matchDevice r devInfo obj).stopUnloadTimer.addDevIdOfBundleInfoMap r obj
          ((m.matchDevice r devInfo obj).objects obj).bundleInfo).2 := by
  unfold startDevice
  dsimp only
  split
  case isTrue h => exact (if_pos h).symm
  case isFalse h =>
    refine Eq.trans ?_ (if_neg h).symm
    split
    case isTrue => rfl
    case isFalse => rfl

theorem startDevice_touches {devInfo : DeviceId} :
    Touches obj m (m.startDevice r devInfo obj).2 := by
  have hmatch : Touches obj m (m.matchDevice r devInfo obj).stopUnloadTimer :=
    matchDevice_touches.trans (emit_touches _)
  rw [startDevice_snd]
  split
  case isTrue => exact hmatch
  case isFalse => exact hmatch.trans (addDevIdOfBundleInfoMap_touches _)

theorem rematchDevice_touches : Touches obj m (m.rematchDevice r obj) := by
  have hset (bundleInfo : Name) (driverInfo : DriverInfo) :
      Touches obj m (m.setDevice obj ((m.objects obj).addBundleInfo bundleInfo driverInfo)) :=
    setDevice_touches rfl rfl
  unfold rematchDevice
  split
  case isTrue => exact .refl m
  case isFalse =>
    split
    · exact .refl m
    · exact (hset _ _).trans (addDevIdOfBundleInfoMap_touches _)

/-! ## New devices -/

@[simp] theorem makeDevice_self {devInfo : DeviceId} :
    (m.makeDevice devInfo).objects m.nextObject = { info := devInfo } :=
  Function.update_self ..

theorem makeDevice_of_lt {devInfo : DeviceId} (h : o < m.nextObject) :
    (m.makeDevice devInfo).objects o = m.objects o :=
  Function.update_of_ne (Nat.ne_of_lt h) ..

theorem lookup_makeDevice {devInfo id : DeviceId} (h : id ≠ devInfo) :
    (m.makeDevice devInfo).deviceMap.lookup id = m.deviceMap.lookup id :=
  AList.lookup_insert_ne h

@[simp] theorem lookup_makeDevice_self {devInfo : DeviceId} :
    (m.makeDevice devInfo).deviceMap.lookup devInfo = some m.nextObject :=
  AList.lookup_insert _

/-! ## All devices -/

/-- The same devices are in the map, with the same ids and flags. -/
structure SameDevices (m m' : ExtDeviceManager) : Prop where
  deviceMap : m'.deviceMap = m.deviceMap
  nextObject : m'.nextObject = m.nextObject
  driverChangeCallback : m'.driverChangeCallback = m.driverChangeCallback
  info : ∀ o, (m'.objects o).info = (m.objects o).info
  isUnRegisted : ∀ o, (m'.objects o).isUnRegisted = (m.objects o).isUnRegisted

theorem SameDevices.refl (m : ExtDeviceManager) : SameDevices m m :=
  ⟨rfl, rfl, rfl, fun _ => rfl, fun _ => rfl⟩

theorem SameDevices.trans (h : SameDevices m m') (h' : SameDevices m' m'') : SameDevices m m'' :=
  ⟨h'.deviceMap.trans h.deviceMap, h'.nextObject.trans h.nextObject,
    h'.driverChangeCallback.trans h.driverChangeCallback,
    fun o => (h'.info o).trans (h.info o), fun o => (h'.isUnRegisted o).trans (h.isUnRegisted o)⟩

theorem Touches.sameDevices (h : Touches obj m m') : SameDevices m m' where
  deviceMap := h.deviceMap
  nextObject := h.nextObject
  driverChangeCallback := h.driverChangeCallback
  info := h.field Device.info h.info
  isUnRegisted := h.field Device.isUnRegisted h.isUnRegisted

theorem SameDevices.foldl {f : ExtDeviceManager → DeviceId → ExtDeviceManager}
    (h : ∀ m id, SameDevices m (f m id)) (order : List DeviceId) (m : ExtDeviceManager) :
    SameDevices m (order.foldl f m) := by
  induction order generalizing m with
  | nil => exact .refl m
  | cons id order ih => exact (h m id).trans (ih (f m id))

theorem matchDriverInfo_sameDevices (deviceIds : Finset DeviceId) (id : DeviceId) :
    SameDevices m (matchDriverInfo r deviceIds m id) := by
  unfold matchDriverInfo
  split
  · exact .refl m
  · split
    case isTrue => exact (forgetDriver_touches.trans rematchDevice_touches).sameDevices
    case isFalse => exact rematchDevice_touches.sameDevices

theorem clearMatchedDriver_sameDevices (userId : Int) (id : DeviceId) :
    SameDevices m (clearMatchedDriver r userId m id) := by
  unfold clearMatchedDriver
  split
  · exact .refl m
  · dsimp only
    split
    case isTrue =>
      split
      · have herase (b : Name) (out : Outside) (obj : Nat) :
            Touches obj m ({ m with out }.eraseBundle b) := .of_objects rfl rfl rfl rfl
        exact ((herase _ _ _).trans forgetDriver_touches).sameDevices
      · exact .refl m
    case isFalse => exact .refl m

theorem onBundlesUpdated_sameDevices (bundleName : Name) (order : List DeviceId) :
    SameDevices m (m.onBundlesUpdated r bundleName order) := by
  have hdelete : SameDevices m (m.deleteBundlesOfBundleInfoMap bundleName).2 := by
    unfold deleteBundlesOfBundleInfoMap
    split
    case isTrue => exact ⟨rfl, rfl, rfl, fun _ => rfl, fun _ => rfl⟩
    case isFalse => exact ⟨rfl, rfl, rfl, fun _ => rfl, fun _ => rfl⟩
  exact hdelete.trans (SameDevices.foldl (fun _ id => matchDriverInfo_sameDevices _ id) _ _)

theorem clearMatchedDrivers_sameDevices (userId : Int) (order : List DeviceId) :
    SameDevices m (m.clearMatchedDrivers r userId order) := by
  have hloop := SameDevices.foldl (f := clearMatchedDriver r userId)
    (fun _ id => clearMatchedDriver_sameDevices userId id) order m
  exact ⟨hloop.deviceMap, hloop.nextObject, hloop.driverChangeCallback, hloop.info, hloop.isUnRegisted⟩

/-! ## Binds, unbinds and completions -/

theorem unbind_keepsDriver (token : UInt32) : KeepsDriver obj m (m.unbind r obj token).2 := by
  unfold unbind
  split
  · exact .refl m
  · split
    case isTrue => exact setDevice_keepsDriver (Device.removeCaller_sameDriver token)
    case isFalse => exact .of_objects rfl rfl rfl rfl rfl

/-- A bind or an unbind is nothing or keeps the driver of the device it is about. -/
def AtMostConnects (m m' : ExtDeviceManager) : Prop := ∃ obj, KeepsDriver obj m m'

theorem AtMostConnects.sameDevices (h : AtMostConnects m m') : SameDevices m m' :=
  h.elim fun _ hkeep => hkeep.toTouches.sameDevices

theorem connectDevice_atMostConnects (deviceId : DeviceId) (token : UInt32)
    (callback : Option DriverExtMgrCallback) :
    AtMostConnects m (m.connectDevice r deviceId token callback).2 := by
  unfold connectDevice
  split
  · exact ⟨0, .refl m⟩
  · exact ⟨_, runDevice_keepsDriver (Device.connectWith_sameDriver callback token)⟩

theorem connectDriverWithDeviceId_atMostConnects (access : AccessReplies) (deviceId : DeviceId)
    (token : UInt32) (appIds : Finset Name) (callback : Option DriverExtMgrCallback) :
    AtMostConnects m (m.connectDriverWithDeviceId r access deviceId token appIds callback).2 := by
  unfold connectDriverWithDeviceId
  split
  · exact ⟨0, .refl m⟩
  · dsimp only
    split
    case isTrue => exact ⟨0, .refl m⟩
    case isFalse =>
      exact ⟨_, runDevice_keepsDriver (Device.connectWith_sameDriver callback token)⟩

theorem disConnectDevice_atMostConnects (deviceId : DeviceId) (token : UInt32) :
    AtMostConnects m (m.disConnectDevice r deviceId token).2 := by
  unfold disConnectDevice
  split
  · exact ⟨0, .refl m⟩
  · exact ⟨_, unbind_keepsDriver token⟩

theorem disConnectDriverWithDeviceId_atMostConnects (deviceId : DeviceId) (token : UInt32) :
    AtMostConnects m (m.disConnectDriverWithDeviceId r deviceId token).2 := by
  unfold disConnectDriverWithDeviceId
  split
  · exact ⟨0, .refl m⟩
  · split
    case isTrue => exact ⟨0, .refl m⟩
    case isFalse => exact ⟨_, unbind_keepsDriver token⟩

theorem onConnect_keepsDriver (remote : Option Nat) (resultCode : Int) :
    KeepsDriver obj m (m.onConnect obj remote resultCode) :=
  (setDevice_keepsDriver (Device.onConnect_sameDriver (o := m.out) remote resultCode)).withOut _

theorem onDisconnect_keepsDriver (resultCode : Int) :
    KeepsDriver obj m (m.onDisconnect obj resultCode) :=
  (setDevice_keepsDriver (Device.onDisconnect_sameDriver (o := m.out) resultCode)).withOut _

theorem remoteDied_keepsDriver (object : Nat) : KeepsDriver obj m (m.remoteDied obj object) :=
  setDevice_keepsDriver ⟨rfl, rfl, rfl, rfl⟩

theorem stopExtension_keepsDriver : KeepsDriver o m (m.stopExtension r obj) :=
  .of_objects rfl rfl rfl rfl rfl

end ExtDeviceManager
end ExtDevMgr.Manager
