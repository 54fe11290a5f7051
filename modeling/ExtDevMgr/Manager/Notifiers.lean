import ExtDevMgr.Manager.Connect
import ExtDevMgr.Manager.Frames

/-!
# Notifiers

The completions of a connection reach a device through the notifier that it was made with, as long as
the device has it. Only a bind replaces the notifier of a device, and by a new one.
-/

namespace ExtDevMgr.Manager

/-! ## The notifier of a device -/

namespace Device

def notifyId (d : Device) : Option Nat := d.connectNofitier.map (·.id)

/-- A completion can reach the device. -/
def hasNotifier (d : Device) : Bool := d.connectNofitier.isSome

theorem hasNotifier_eq (d : Device) : d.hasNotifier = d.notifyId.isSome := Option.isSome_map.symm

/-- The notifier of `d'` is the one of `d` or a new one. -/
structure FreshNotifier (d d' : Device) (o o' : Outside) : Prop where
  nextId : o.nextId ≤ o'.nextId
  fresh : ∀ n, d'.notifyId = some n → d.notifyId = some n ∨ n < o'.nextId

/-- If `d` has a notifier, then `d'` has the same. -/
structure KeepsNotifier (d d' : Device) (o o' : Outside) : Prop extends FreshNotifier d d' o o' where
  keep : ∀ n, d.notifyId = some n → d'.notifyId = some n

variable {d d' d'' : Device} {r : DeviceReplies} {o o' o'' : Outside}

theorem KeepsNotifier.of_notifyId (h : d'.notifyId = d.notifyId) (hnext : o.nextId ≤ o'.nextId) :
    KeepsNotifier d d' o o' where
  nextId := hnext
  fresh _ hn := .inl (h ▸ hn)
  keep _ hn := h.trans hn

theorem KeepsNotifier.trans (h : KeepsNotifier d d' o o') (h' : KeepsNotifier d' d'' o' o'') :
    KeepsNotifier d d'' o o'' where
  nextId := h.nextId.trans h'.nextId
  fresh n hn := by
    rcases h'.fresh n hn with hn | hlt
    · exact (h.fresh n hn).imp_right fun hlt => lt_of_lt_of_le hlt h'.nextId
    · exact .inr hlt
  keep n hn := h'.keep n (h.keep n hn)

@[simp] theorem clearConnection_notifyId : d.clearConnection.notifyId = d.notifyId := by
  rw [notifyId, clearConnection]
  cases hd : d.connectNofitier with
  | none => simp [notifyId, hd]
  | some notify => simp [notifyId, hd]

theorem addDrvExtConnNotify_keeps :
    KeepsNotifier d (d.addDrvExtConnNotify o).1 o (d.addDrvExtConnNotify o).2 := by
  unfold addDrvExtConnNotify
  split
  case isTrue hnone =>
    have hnone : d.notifyId = none := by simpa [notifyId] using hnone
    refine ⟨⟨Nat.le_succ _, ?_⟩, ?_⟩
    · intro n hn
      cases hn
      exact .inr (Nat.lt_succ_self _)
    · intro n hn
      cases hnone.symm.trans hn
  case isFalse => exact .of_notifyId rfl le_rfl

theorem connectDriverExtension_id (reply : Option Int) (bundleName abilityName : Name)
    (callback : Option DrvExtConnNotify) (deviceId : UInt32) (o : Outside) :
    (connectDriverExtension reply bundleName abilityName callback deviceId o).2.1.map (·.id) =
      callback.map (·.id) ∧
    o.nextId ≤ (connectDriverExtension reply bundleName abilityName callback deviceId o).2.2.nextId := by
  cases callback with
  | none => exact ⟨rfl, le_rfl⟩
  | some notify =>
    simp only [connectDriverExtension]
    split
    case isTrue => exact ⟨rfl, le_rfl⟩
    case isFalse =>
      cases reply with
      | none => exact ⟨rfl, Nat.le_succ _⟩
      | some ret =>
        dsimp only
        split
        case isTrue => exact ⟨rfl, Nat.le_succ _⟩
        case isFalse => exact ⟨rfl, Nat.le_succ _⟩

theorem connectExtension_keeps (reply : Option Int) :
    KeepsNotifier d (d.connectExtension reply o).2.1 o (d.connectExtension reply o).2.2 := by
  obtain ⟨hid, hnext⟩ := connectDriverExtension_id reply (getBundleName d.bundleInfo)
    (getAbilityName d.bundleInfo) d.connectNofitier d.info.busDevId o
  exact .of_notifyId hid hnext

theorem reconnect_keeps (n : Nat) (ret : UsbErrCode) :
    KeepsNotifier d (reconnect r n ret d o).2.1 o (reconnect r n ret d o).2.2 := by
  induction n generalizing ret d o with
  | zero => exact .of_notifyId rfl le_rfl
  | succ n ih =>
    rw [reconnect]
    split
    case isTrue => exact .of_notifyId rfl le_rfl
    case isFalse =>
      have hclear : d.clearDrvExtRemote.clearConnection.notifyId = d.notifyId :=
        clearConnection_notifyId
      exact ((KeepsNotifier.of_notifyId hclear le_rfl).trans (connectExtension_keeps _)).trans (ih _)

/-- An automatic connect keeps the notifier of the device through all its attempts. -/
theorem connect_keeps : KeepsNotifier d (connect r d o).2.1 o (connect r d o).2.2 :=
  (addDrvExtConnNotify_keeps.trans (connectExtension_keeps _)).trans (reconnect_keeps _ _)

/-- A bind gives a device a new notifier or leaves it the one it has. -/
theorem connectWith_fresh (callback : Option DriverExtMgrCallback) (token : UInt32) :
    FreshNotifier d (d.connectWith r callback token o).2.1 o (d.connectWith r callback token o).2.2 := by
  have hbind := connectWith_outcome r callback token d o
  have hnew (d' : Device) (o' : Outside) (hid : d'.notifyId = some o.nextId)
      (hnext : o'.nextId = o.nextId + 2) : FreshNotifier d d' o o' := by
    refine ⟨by omega, ?_⟩
    intro n hn
    cases hid.symm.trans hn
    exact .inr (by omega)
  generalize d.connectWith r callback token o = result at hbind ⊢
  cases hbind with
  | refused _ _ hnext => exact ⟨hnext.ge, fun _ hn => .inl hn⟩
  | joined _ _ _ _ hnext => exact ⟨hnext.ge, fun _ hn => .inl hn⟩
  | connected _ _ _ _ _ hnext => exact hnew _ _ rfl hnext
  | failed _ _ _ _ _ _ hnext => exact hnew _ _ rfl hnext

end Device

/-! ## The notifiers of all devices -/

namespace ExtDeviceManager

/-- Every notifier of `m'` is one of `m` or a new one. -/
structure FreshNotifiers (m m' : ExtDeviceManager) : Prop where
  nextObject : m.nextObject ≤ m'.nextObject
  nextId : m.out.nextId ≤ m'.out.nextId
  fresh : ∀ o n, (m'.objects o).notifyId = some n →
    (m.objects o).notifyId = some n ∨ n < m'.out.nextId

/-- Every device of `m` that has a notifier keeps it. -/
structure KeepsNotifiers (m m' : ExtDeviceManager) : Prop extends FreshNotifiers m m' where
  keep : ∀ o n, o < m.nextObject → (m.objects o).notifyId = some n →
    (m'.objects o).notifyId = some n

/-- Every device has the notifier it had, or still none. -/
structure SameNotifiers (m m' : ExtDeviceManager) : Prop where
  nextObject : m'.nextObject = m.nextObject
  nextId : m'.out.nextId = m.out.nextId
  notifyId : ∀ o, (m'.objects o).notifyId = (m.objects o).notifyId

variable {m m' m'' : ExtDeviceManager} {obj : Nat} {r : Replies}

theorem SameNotifiers.of_objects (hnext : m'.nextObject = m.nextObject)
    (hid : m'.out.nextId = m.out.nextId) (hobj : m'.objects = m.objects) : SameNotifiers m m' :=
  ⟨hnext, hid, fun _ => by rw [hobj]⟩

theorem SameNotifiers.refl (m : ExtDeviceManager) : SameNotifiers m m := .of_objects rfl rfl rfl

theorem SameNotifiers.trans (h : SameNotifiers m m') (h' : SameNotifiers m' m'') :
    SameNotifiers m m'' :=
  ⟨h'.nextObject.trans h.nextObject, h'.nextId.trans h.nextId,
    fun o => (h'.notifyId o).trans (h.notifyId o)⟩

theorem SameNotifiers.keeps (h : SameNotifiers m m') : KeepsNotifiers m m' where
  nextObject := h.nextObject.ge
  nextId := h.nextId.ge
  fresh o _ hn := .inl ((h.notifyId o).symm.trans hn)
  keep o _ _ hn := (h.notifyId o).trans hn

theorem SameNotifiers.hasNotifier (h : SameNotifiers m m') (o : Nat) :
    (m'.objects o).hasNotifier = (m.objects o).hasNotifier := by
  rw [Device.hasNotifier_eq, h.notifyId, ← Device.hasNotifier_eq]

theorem KeepsNotifiers.refl (m : ExtDeviceManager) : KeepsNotifiers m m := (SameNotifiers.refl m).keeps

theorem KeepsNotifiers.trans (h : KeepsNotifiers m m') (h' : KeepsNotifiers m' m'') :
    KeepsNotifiers m m'' where
  nextObject := h.nextObject.trans h'.nextObject
  nextId := h.nextId.trans h'.nextId
  fresh o n hn := by
    rcases h'.fresh o n hn with hn | hlt
    · exact (h.fresh o n hn).imp_right fun hlt => lt_of_lt_of_le hlt h'.nextId
    · exact .inr hlt
  keep o n ho hn := h'.keep o n (lt_of_lt_of_le ho h.nextObject) (h.keep o n ho hn)

theorem setDevice_sameNotifiers {d : Device} (h : d.notifyId = (m.objects obj).notifyId) :
    SameNotifiers m (m.setDevice obj d) where
  nextObject := rfl
  nextId := rfl
  notifyId := setDevice_field Device.notifyId h

theorem runDevice_freshNotifiers {f : Device → Outside → UsbErrCode × Device × Outside}
    (h : Device.FreshNotifier (m.objects obj) (f (m.objects obj) m.out).2.1 m.out
      (f (m.objects obj) m.out).2.2) : FreshNotifiers m (m.runDevice obj f).2 where
  nextObject := le_rfl
  nextId := h.nextId
  fresh o n hn := by
    by_cases ho : o = obj
    · subst ho
      exact h.fresh n ((congrArg Device.notifyId (setDevice_self _)).symm.trans hn)
    · exact .inl ((congrArg Device.notifyId (setDevice_ne _ ho)).symm.trans hn)

theorem runDevice_keepsNotifiers {f : Device → Outside → UsbErrCode × Device × Outside}
    (h : Device.KeepsNotifier (m.objects obj) (f (m.objects obj) m.out).2.1 m.out
      (f (m.objects obj) m.out).2.2) : KeepsNotifiers m (m.runDevice obj f).2 where
  toFreshNotifiers := runDevice_freshNotifiers h.toFreshNotifier
  keep o n _ hn := by
    by_cases ho : o = obj
    · subst ho
      exact (congrArg Device.notifyId (setDevice_self _)).trans (h.keep n hn)
    · exact (congrArg Device.notifyId (setDevice_ne _ ho)).trans hn

/-! ## Attach and detach -/

theorem updateDriverInfo_sameNotifiers : SameNotifiers m (m.updateDriverInfo obj) := by
  unfold updateDriverInfo
  split
  · exact .refl m
  · split
    case isTrue => exact .of_objects rfl rfl rfl
    case isFalse => exact .refl m

theorem removeDriverInfo_sameNotifiers : SameNotifiers m (m.removeDriverInfo obj) := by
  unfold removeDriverInfo
  split
  · exact .refl m
  · split
    case isTrue =>
      have hemit (e : Event) : SameNotifiers m (m.emit e) := .of_objects rfl rfl rfl
      exact (hemit _).trans (setDevice_sameNotifiers rfl)
    case isFalse => exact .refl m

theorem unLoadSelf_sameNotifiers : SameNotifiers m (m.unLoadSelf r) := by
  unfold unLoadSelf
  dsimp only
  split
  case isTrue => exact .of_objects rfl rfl rfl
  case isFalse =>
    split
    case isTrue => exact .of_objects rfl rfl rfl
    case isFalse => exact .of_objects rfl rfl rfl

theorem launchDriver_keepsNotifiers : KeepsNotifiers m (m.launchDriver r obj).2 := by
  have hupd : KeepsNotifiers m (m.updateDriverInfo obj) := updateDriverInfo_sameNotifiers.keeps
  unfold launchDriver
  split
  · exact .refl m
  · dsimp only
    split
    case isTrue => exact hupd
    case isFalse =>
      have hrun : KeepsNotifiers m ((m.updateDriverInfo obj).runDevice obj
          (Device.connect (r.device ((m.updateDriverInfo obj).objects obj).info))).2 :=
        hupd.trans (runDevice_keepsNotifiers Device.connect_keeps)
      split
      case isTrue => exact hrun
      case isFalse => exact hrun

theorem addDevIdOfBundleInfoMap_keepsNotifiers (bundleInfo : Name) :
    KeepsNotifiers m (m.addDevIdOfBundleInfoMap r obj bundleInfo).2 := by
  unfold addDevIdOfBundleInfoMap
  split
  case isTrue => exact .refl m
  case isFalse =>
    have hemplace : SameNotifiers m (m.emplaceDevId bundleInfo (m.objects obj).info) :=
      .of_objects rfl rfl rfl
    exact hemplace.keeps.trans launchDriver_keepsNotifiers

theorem matchDevice_sameNotifiers {devInfo : DeviceId} :
    SameNotifiers m (m.matchDevice r devInfo obj) := by
  unfold matchDevice
  split
  case isTrue =>
    split
    · exact .refl m
    · exact setDevice_sameNotifiers rfl
  case isFalse => exact .refl m

theorem startDevice_keepsNotifiers {devInfo : DeviceId} :
    KeepsNotifiers m (m.startDevice r devInfo obj).2 := by
  have hmatch : SameNotifiers m (m.matchDevice r devInfo obj).stopUnloadTimer :=
    matchDevice_sameNotifiers.trans (.of_objects rfl rfl rfl)
  rw [startDevice_snd]
  split
  case isTrue => exact hmatch.keeps
  case isFalse => exact hmatch.keeps.trans (addDevIdOfBundleInfoMap_keepsNotifiers _)

theorem makeDevice_keepsNotifiers {devInfo : DeviceId} : KeepsNotifiers m (m.makeDevice devInfo) where
  nextObject := Nat.le_succ _
  nextId := le_rfl
  fresh o n hn := by
    by_cases ho : o = m.nextObject
    · subst ho
      rw [makeDevice_self] at hn
      cases hn
    · exact .inl ((congrArg Device.notifyId (Function.update_of_ne ho ..)).symm.trans hn)
  keep o n ho hn := (congrArg Device.notifyId (makeDevice_of_lt ho)).trans hn

theorem registerDevice_keepsNotifiers (devInfo : DeviceId) :
    KeepsNotifiers m (m.registerDevice r devInfo).2 := by
  unfold registerDevice
  split
  · split
    case isTrue => exact .refl m
    case isFalse => exact startDevice_keepsNotifiers
  · exact makeDevice_keepsNotifiers.trans startDevice_keepsNotifiers

theorem disconnectDriver_sameNotifiers : SameNotifiers m (m.disconnectDriver r obj).2 := by
  have hout : SameNotifiers m
      { m with out := ((m.objects obj).disconnect (r.device (m.objects obj).info) m.out).2 } :=
    .of_objects rfl Device.disconnect_nextId rfl
  unfold disconnectDriver
  dsimp only
  split
  case isTrue => exact hout
  case isFalse => exact hout.trans removeDriverInfo_sameNotifiers

theorem removeDevIdOfBundleInfoMap_sameNotifiers (bundleInfo : Name) :
    SameNotifiers m (m.removeDevIdOfBundleInfoMap r obj bundleInfo).2 := by
  unfold removeDevIdOfBundleInfoMap
  split
  case isTrue => exact .refl m
  case isFalse =>
    split
    · exact .refl m
    · split
      case isTrue => exact .of_objects rfl rfl rfl
      case isFalse =>
        have herase : SameNotifiers m (m.eraseBundle bundleInfo) := .of_objects rfl rfl rfl
        exact herase.trans disconnectDriver_sameNotifiers

theorem detachDevice_sameNotifiers (devInfo : DeviceId) :
    SameNotifiers m (m.detachDevice devInfo obj) := by
  unfold detachDevice
  split
  case isTrue => exact setDevice_sameNotifiers rfl
  case isFalse => exact .of_objects rfl rfl rfl

theorem unRegisterDevice_sameNotifiers (devInfo : DeviceId) :
    SameNotifiers m (m.unRegisterDevice r devInfo).2 := by
  unfold unRegisterDevice
  split
  · exact .refl m
  · rename_i obj _
    have hdetach : SameNotifiers m ((m.detachDevice devInfo obj).unLoadSelf r) :=
      (detachDevice_sameNotifiers devInfo).trans unLoadSelf_sameNotifiers
    dsimp only
    split
    case isTrue => exact hdetach
    case isFalse => exact hdetach.trans (removeDevIdOfBundleInfoMap_sameNotifiers _)

/-! ## Bundles -/

theorem forgetDriver_sameNotifiers : SameNotifiers m (m.forgetDriver obj) := by
  have hset : SameNotifiers m
      (m.setDevice obj (m.objects obj).removeBundleInfo.clearDrvExtRemote) :=
    setDevice_sameNotifiers rfl
  exact hset.trans removeDriverInfo_sameNotifiers

theorem rematchDevice_keepsNotifiers : KeepsNotifiers m (m.rematchDevice r obj) := by
  unfold rematchDevice
  split
  case isTrue => exact .refl m
  case isFalse =>
    split
    · exact .refl m
    · rename_i driverInfo _
      have hset : SameNotifiers m
          (m.setDevice obj ((m.objects obj).addBundleInfo driverInfo.bundleInfo driverInfo)) :=
        setDevice_sameNotifiers rfl
      exact hset.keeps.trans (addDevIdOfBundleInfoMap_keepsNotifiers _)

theorem matchDriverInfo_keepsNotifiers (deviceIds : Finset DeviceId) (id : DeviceId) :
    KeepsNotifiers m (m.matchDriverInfo r deviceIds id) := by
  unfold matchDriverInfo
  split
  · exact .refl m
  · split
    case isTrue => exact forgetDriver_sameNotifiers.keeps.trans rematchDevice_keepsNotifiers
    case isFalse => exact rematchDevice_keepsNotifiers

theorem KeepsNotifiers.foldl {f : ExtDeviceManager → DeviceId → ExtDeviceManager}
    (hf : ∀ m id, KeepsNotifiers m (f m id)) (l : List DeviceId) (m : ExtDeviceManager) :
    KeepsNotifiers m (l.foldl f m) := by
  induction l generalizing m with
  | nil => exact .refl m
  | cons id l ih => exact (hf m id).trans (ih _)

theorem onBundlesUpdated_keepsNotifiers (bundleName : Name) (order : List DeviceId) :
    KeepsNotifiers m (m.onBundlesUpdated r bundleName order) := by
  have hdelete : SameNotifiers m (m.deleteBundlesOfBundleInfoMap bundleName).2 := by
    unfold deleteBundlesOfBundleInfoMap
    split
    case isTrue => exact .of_objects rfl rfl rfl
    case isFalse => exact .of_objects rfl rfl rfl
  exact hdelete.keeps.trans (.foldl (fun _ id => matchDriverInfo_keepsNotifiers _ id) order _)

theorem stopDriverExtension_nextId (reply : Option Int) (bundleName abilityName : Name) (userId : Int)
    (o : Outside) :
    (stopDriverExtension reply bundleName abilityName userId o).2.nextId = o.nextId := by
  cases reply with
  | none => rfl
  | some ret =>
    simp only [stopDriverExtension]
    split
    case isTrue => rfl
    case isFalse => rfl

theorem clearMatchedDriver_sameNotifiers (userId : Int) (id : DeviceId) :
    SameNotifiers m (m.clearMatchedDriver r userId id) := by
  unfold clearMatchedDriver
  split
  · exact .refl m
  · dsimp only
    split
    case isTrue =>
      split
      · rename_i driverInfo _ _
        refine SameNotifiers.trans ?_ forgetDriver_sameNotifiers
        exact .of_objects rfl (stopDriverExtension_nextId ..) rfl
      · exact .refl m
    case isFalse => exact .refl m

theorem clearMatchedDrivers_sameNotifiers (userId : Int) (order : List DeviceId) :
    SameNotifiers m (m.clearMatchedDrivers r userId order) := by
  have hloop (m : ExtDeviceManager) : SameNotifiers m (order.foldl (clearMatchedDriver r userId) m) := by
    induction order generalizing m with
    | nil => exact .refl m
    | cons id order ih => exact (clearMatchedDriver_sameNotifiers userId id).trans (ih _)
  have hmap : SameNotifiers (order.foldl (clearMatchedDriver r userId) m)
      (m.clearMatchedDrivers r userId order) := .of_objects rfl rfl rfl
  exact (hloop m).trans hmap

/-! ## Clients and completions -/

theorem connectDevice_freshNotifiers (deviceId : DeviceId) (token : UInt32)
    (callback : Option DriverExtMgrCallback) :
    FreshNotifiers m (m.connectDevice r deviceId token callback).2 := by
  unfold connectDevice
  split
  · exact (KeepsNotifiers.refl m).toFreshNotifiers
  · exact runDevice_freshNotifiers (Device.connectWith_fresh callback token)

theorem connectDriverWithDeviceId_freshNotifiers (access : AccessReplies) (deviceId : DeviceId)
    (token : UInt32) (appIds : Finset Name) (callback : Option DriverExtMgrCallback) :
    FreshNotifiers m (m.connectDriverWithDeviceId r access deviceId token appIds callback).2 := by
  unfold connectDriverWithDeviceId
  split
  · exact (KeepsNotifiers.refl m).toFreshNotifiers
  · dsimp only
    split
    case isTrue => exact (KeepsNotifiers.refl m).toFreshNotifiers
    case isFalse => exact runDevice_freshNotifiers (Device.connectWith_fresh callback token)

theorem unbind_sameNotifiers (token : UInt32) : SameNotifiers m (m.unbind r obj token).2 := by
  unfold unbind
  split
  · exact .refl m
  · split
    case isTrue => exact setDevice_sameNotifiers rfl
    case isFalse => exact .of_objects rfl Device.disconnect_nextId rfl

theorem disConnectDevice_sameNotifiers (deviceId : DeviceId) (token : UInt32) :
    SameNotifiers m (m.disConnectDevice r deviceId token).2 := by
  unfold disConnectDevice
  split
  · exact .refl m
  · exact unbind_sameNotifiers token

theorem disConnectDriverWithDeviceId_sameNotifiers (deviceId : DeviceId) (token : UInt32) :
    SameNotifiers m (m.disConnectDriverWithDeviceId r deviceId token).2 := by
  unfold disConnectDriverWithDeviceId
  split
  · exact .refl m
  · split
    case isTrue => exact .refl m
    case isFalse => exact unbind_sameNotifiers token

theorem onConnect_sameNotifiers (remote : Option Nat) (resultCode : Int) :
    SameNotifiers m (m.onConnect obj remote resultCode) := by
  have hset : SameNotifiers m
      (m.setDevice obj ((m.objects obj).onConnect remote resultCode m.out).1) :=
    setDevice_sameNotifiers rfl
  exact hset.trans (.of_objects rfl rfl rfl)

theorem onDisconnect_sameNotifiers (resultCode : Int) :
    SameNotifiers m (m.onDisconnect obj resultCode) := by
  have hset : SameNotifiers m
      (m.setDevice obj ((m.objects obj).onDisconnect resultCode m.out).1) :=
    setDevice_sameNotifiers Device.clearConnection_notifyId
  exact hset.trans (.of_objects rfl rfl rfl)

theorem remoteDied_sameNotifiers (object : Nat) : SameNotifiers m (m.remoteDied obj object) :=
  setDevice_sameNotifiers rfl

theorem stopExtension_sameNotifiers : SameNotifiers m (m.stopExtension r obj) :=
  .of_objects rfl (stopDriverExtension_nextId ..) rfl

end ExtDeviceManager
end ExtDevMgr.Manager
