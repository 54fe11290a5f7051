import ExtDevMgr.Manager.Cleanup
import ExtDevMgr.Manager.Connect

/-!
# The driver of each device

What the operations make of the driver and of the remote of every device ever made, in the map or not.
-/

namespace ExtDevMgr.Manager

theorem Device.connectWith_drvExtRemote (r : DeviceReplies) (callback : Option DriverExtMgrCallback)
    (token : UInt32) (d : Device) (o : Outside) :
    (d.connectWith r callback token o).2.1.drvExtRemote = d.drvExtRemote := by
  have hout := connectWith_outcome r callback token d o
  generalize d.connectWith r callback token o = after at hout
  cases hout <;> rfl

namespace ExtDeviceManager
open Cleanup

variable {m m' : ExtDeviceManager} {s : System} {r : Replies} {id : DeviceId} {obj : Nat}

/-! ## The registered devices -/

theorem queryAllDevices_of_sameDevices (h : SameDevices m m') :
    m'.queryAllDevices = m.queryAllDevices := by
  unfold queryAllDevices
  simp only [h.deviceMap, h.isUnRegisted]

theorem erase_queryAllDevices (h : obj ∈ queryAllDevices { m with deviceMap := m.deviceMap.erase id }) :
    obj ∈ m.queryAllDevices := by
  obtain ⟨i, hi, hflag⟩ := mem_queryAllDevices.mp h
  exact mem_queryAllDevices.mpr ⟨i, (System.lookup_of_erase hi).2, hflag⟩

theorem mem_queryAllDevices_erase (hm : m.Keyed) (hid : m.deviceMap.lookup id = some obj) {o : Nat} :
    o ∈ queryAllDevices { m with deviceMap := m.deviceMap.erase id } ↔
      o ≠ obj ∧ o ∈ m.queryAllDevices := by
  constructor
  · intro ho
    refine ⟨?_, erase_queryAllDevices ho⟩
    obtain ⟨i, hi, -⟩ := mem_queryAllDevices.mp ho
    obtain ⟨hne, hi⟩ := System.lookup_of_erase hi
    exact hm.ne hi hid hne
  · rintro ⟨hne, ho⟩
    obtain ⟨i, hi, hflag⟩ := mem_queryAllDevices.mp ho
    refine mem_queryAllDevices.mpr ⟨i, (AList.lookup_erase_ne ?_).trans hi, hflag⟩
    rintro rfl
    exact hne (Option.some.inj (hi.symm.trans hid))

theorem mem_queryAllDevices_detachDevice (hm : m.Keyed) (hid : m.deviceMap.lookup id = some obj)
    {o : Nat} : o ∈ (m.detachDevice id obj).queryAllDevices ↔ o ≠ obj ∧ o ∈ m.queryAllDevices := by
  unfold detachDevice
  split
  case isFalse => exact mem_queryAllDevices_erase hm hid
  case isTrue =>
    rw [mem_queryAllDevices, mem_queryAllDevices]
    constructor
    · rintro ⟨i, hi, hflag⟩
      have hne : o ≠ obj := by
        rintro rfl
        rw [setDevice_self] at hflag
        cases hflag
      rw [setDevice_ne _ hne] at hflag
      exact ⟨hne, i, hi, hflag⟩
    · rintro ⟨hne, i, hi, hflag⟩
      refine ⟨i, hi, ?_⟩
      rwa [setDevice_ne _ hne]

theorem mem_queryAllDevices_makeDevice (hwf : s.WellFormed)
    (hid : s.manager.deviceMap.lookup id = none) {o : Nat} :
    o ∈ (s.manager.makeDevice id).queryAllDevices ↔
      o = s.manager.nextObject ∨ o ∈ s.manager.queryAllDevices := by
  rw [mem_queryAllDevices, mem_queryAllDevices]
  constructor
  · rintro ⟨i, hi, hflag⟩
    by_cases heq : i = id
    · rw [heq, lookup_makeDevice_self] at hi
      exact .inl (Option.some.inj hi).symm
    · rw [lookup_makeDevice heq] at hi
      rw [makeDevice_of_lt (hwf.allocated hi)] at hflag
      exact .inr ⟨i, hi, hflag⟩
  · rintro (rfl | ⟨i, hi, hflag⟩)
    · exact ⟨id, lookup_makeDevice_self, congrArg Device.isUnRegisted makeDevice_self⟩
    · have heq : i ≠ id := by
        rintro rfl
        rw [hid] at hi
        cases hi
      refine ⟨i, (lookup_makeDevice heq).trans hi, ?_⟩
      rwa [makeDevice_of_lt (hwf.allocated hi)]

theorem queryAllDevices_lt (hwf : s.WellFormed) {o : Nat} (ho : o ∈ s.manager.queryAllDevices) :
    o < s.manager.nextObject := by
  obtain ⟨i, hi, -⟩ := mem_queryAllDevices.mp ho
  exact hwf.allocated hi

/-! ## Attach -/

/-- The device once `RegisterDevice` has looked for a driver where it has none. -/
def matched (r : Replies) (id : DeviceId) (d : Device) : Device :=
  if d.bundleInfo = [] then
    match r.queryMatchDriver id with
    | none => d
    | some driverInfo => d.addBundleInfo driverInfo.bundleInfo driverInfo
  else
    d

theorem matchDevice_self : (m.matchDevice r id obj).objects obj = matched r id (m.objects obj) := by
  unfold matchDevice matched
  split
  case isTrue =>
    cases r.queryMatchDriver id with
    | none => rfl
    | some driverInfo => exact setDevice_self _
  case isFalse => rfl

theorem matched_drvExtRemote (d : Device) : (matched r id d).drvExtRemote = d.drvExtRemote := by
  unfold matched
  split
  case isTrue =>
    cases r.queryMatchDriver id with
    | none => rfl
    | some driverInfo => rfl
  case isFalse => rfl

/-- `RegisterDevice` changes no driver but that of a device without one. -/
theorem startDevice_sameDriver :
    Device.SameDriver (matched r id (m.objects obj)) ((m.startDevice r id obj).2.objects obj) := by
  have hself : (m.matchDevice r id obj).stopUnloadTimer.objects obj = matched r id (m.objects obj) :=
    matchDevice_self
  rw [startDevice_snd]
  split
  case isTrue =>
    rw [hself]
    exact .refl _
  case isFalse hb =>
    rw [← hself]
    exact (addDevIdOfBundleInfoMap_keepsDriver
      (m := (m.matchDevice r id obj).stopUnloadTimer) obj hb).sameDriver

theorem startDevice_drvExtRemote (h : (m.objects obj).drvExtRemote = none) :
    ((m.startDevice r id obj).2.objects obj).drvExtRemote = none := by
  have hself : ((m.matchDevice r id obj).stopUnloadTimer.objects obj).drvExtRemote = none := by
    change ((m.matchDevice r id obj).objects obj).drvExtRemote = none
    rw [matchDevice_self, matched_drvExtRemote, h]
  rw [startDevice_snd]
  split
  case isTrue => exact hself
  case isFalse hb =>
    rw [addDevIdOfBundleInfoMap, if_neg hb]
    exact launchDriver_drvExtRemote hself

/-! ## Detach -/

theorem detachDevice_bundleInfo (o : Nat) :
    ((m.detachDevice id obj).objects o).bundleInfo = (m.objects o).bundleInfo := by
  unfold detachDevice
  split
  case isTrue =>
    apply setDevice_field Device.bundleInfo
    rfl
  case isFalse => rfl

theorem removeDriverInfo_drvExtRemote (o : Nat) :
    ((m.removeDriverInfo obj).objects o).drvExtRemote = (m.objects o).drvExtRemote := by
  apply removeDriverInfo_touches.field Device.drvExtRemote
  rw [removeDriverInfo_self]
  split
  case isTrue => rfl
  case isFalse => rfl

theorem removeDevIdOfBundleInfoMap_drvExtRemote (bundleInfo : Name) (o : Nat) :
    ((m.removeDevIdOfBundleInfoMap r obj bundleInfo).2.objects o).drvExtRemote =
      (m.objects o).drvExtRemote := by
  unfold removeDevIdOfBundleInfoMap
  split
  case isTrue => rfl
  case isFalse =>
    split
    · rfl
    · split
      case isTrue => rfl
      case isFalse =>
        unfold disconnectDriver
        dsimp only
        split
        case isTrue => rfl
        case isFalse => exact removeDriverInfo_drvExtRemote o

theorem detachDevice_drvExtRemote (o : Nat) :
    ((m.detachDevice id obj).objects o).drvExtRemote = (m.objects o).drvExtRemote := by
  unfold detachDevice
  split
  case isTrue =>
    apply setDevice_field Device.drvExtRemote
    rfl
  case isFalse => rfl

theorem unRegisterDevice_drvExtRemote (o : Nat) :
    ((m.unRegisterDevice r id).2.objects o).drvExtRemote = (m.objects o).drvExtRemote := by
  unfold unRegisterDevice
  split
  · rfl
  · next obj _ =>
    have hunload : (((m.detachDevice id obj).unLoadSelf r).objects o).drvExtRemote =
        (m.objects o).drvExtRemote := by
      rw [unLoadSelf_objects, detachDevice_drvExtRemote]
    dsimp only
    split
    case isTrue => exact hunload
    case isFalse => exact (removeDevIdOfBundleInfoMap_drvExtRemote _ o).trans hunload

/-! ## The loops over the devices -/

variable {f : ExtDeviceManager → DeviceId → ExtDeviceManager}

/-- A loop leaves the devices outside the map as they are. -/
theorem IsTurn.foldl_unmapped (hf : IsTurn f) (l : List DeviceId)
    (hobj : ∀ id, m.deviceMap.lookup id ≠ some obj) : (l.foldl f m).objects obj = m.objects obj := by
  induction l generalizing m with
  | nil => rfl
  | cons id l ih =>
    have hturn : (f m id).objects obj = m.objects obj := by
      cases hid : m.deviceMap.lookup id with
      | none => rw [hf.absent hid]
      | some o =>
        refine (hf.touches hid).objects obj ?_
        rintro rfl
        exact hobj id hid
    rw [List.foldl_cons, ih, hturn]
    rwa [(hf.sameDevices m id).deviceMap]

theorem onBundlesUpdated_unmapped (bundleName : Name) (order : List DeviceId)
    (hobj : ∀ id, m.deviceMap.lookup id ≠ some obj) :
    (m.onBundlesUpdated r bundleName order).objects obj = m.objects obj := by
  have hsame : SameDevices m (m.deleteBundlesOfBundleInfoMap bundleName).2 :=
    deleteBundles_sameDevices bundleName
  have hloop := (matchDriverInfo_isTurn (r := r) (m.deleteBundlesOfBundleInfoMap bundleName).1
    ).foldl_unmapped order (hsame.deviceMap ▸ hobj)
  rw [deleteBundles_objects] at hloop
  exact hloop

/-- A switch forgets the driver of a device or leaves the device as it is. -/
theorem clearMatchedDrivers_objects (userId : Int) {order : List DeviceId} (hm : m.Keyed)
    (horder : order.Perm m.deviceMap.keys) (obj : Nat) :
    (m.clearMatchedDrivers r userId order).objects obj = m.objects obj ∨
      (m.clearMatchedDrivers r userId order).objects obj = m.forgotten (m.objects obj) := by
  by_cases hmap : ∃ id, m.deviceMap.lookup id = some obj
  · obtain ⟨id, hid⟩ := hmap
    obtain ⟨l₁, l₂, rfl⟩ := List.append_of_mem (mem_order horder hid)
    obtain ⟨hyes, hno⟩ := clearMatchedDrivers_at (r := r) userId hm (nodup_order horder) hid
    by_cases hcleared : m.ClearedAfter userId l₁ (m.objects obj)
    · exact .inr (hyes hcleared)
    · exact .inl (hno hcleared)
  · exact .inl ((clearMatchedDriver_isTurn userId).foldl_unmapped order (not_exists.mp hmap))

/-! ## Binds and unbinds -/

theorem runDevice_drvExtRemote {f : Device → Outside → UsbErrCode × Device × Outside}
    (h : (f (m.objects obj) m.out).2.1.drvExtRemote = (m.objects obj).drvExtRemote) (o : Nat) :
    ((m.runDevice obj f).2.objects o).drvExtRemote = (m.objects o).drvExtRemote :=
  setDevice_field Device.drvExtRemote h o

theorem unbind_drvExtRemote (token : UInt32) (o : Nat) :
    ((m.unbind r obj token).2.objects o).drvExtRemote = (m.objects o).drvExtRemote := by
  unfold unbind
  split
  · rfl
  · split
    case isTrue =>
      apply setDevice_field Device.drvExtRemote
      rfl
    case isFalse => rfl

theorem disConnectDevice_drvExtRemote (deviceId : DeviceId) (token : UInt32) (o : Nat) :
    ((m.disConnectDevice r deviceId token).2.objects o).drvExtRemote =
      (m.objects o).drvExtRemote := by
  unfold disConnectDevice
  split
  · rfl
  · exact unbind_drvExtRemote token o

theorem disConnectDriverWithDeviceId_drvExtRemote (deviceId : DeviceId) (token : UInt32) (o : Nat) :
    ((m.disConnectDriverWithDeviceId r deviceId token).2.objects o).drvExtRemote =
      (m.objects o).drvExtRemote := by
  unfold disConnectDriverWithDeviceId
  split
  · rfl
  · split
    case isTrue => rfl
    case isFalse => exact unbind_drvExtRemote token o

end ExtDeviceManager
end ExtDevMgr.Manager
