import ExtDevMgr.Manager.Drivers
import ExtDevMgr.Manager.Emits

/-!
# The drivers that the USB DDK service permits

`UsbDriverChangeCallback` passes on the uid of a driver when a device is matched to it, and again when
it is removed. The service should know exactly the drivers of the registered devices.
-/

namespace ExtDevMgr.Manager
open Outside

/-- The calls of the listener for driver changes. -/
def Event.ofDriverChange : Event → Bool
  | .onDriverMatched _ | .onDriverRemoved _ => true
  | _ => false

/-- What a call of the listener makes of the driver uid: `true` for registered. -/
def Event.change (uid : Name) : Event → Option Bool
  | .onDriverMatched driverInfo => if driverInfo.driverUid = uid then some true else none
  | .onDriverRemoved driverInfo => if driverInfo.driverUid = uid then some false else none
  | _ => none

theorem Event.not_ofDriverChange_of_ofDevice {e : Event} (h : e.ofDevice = true) :
    (!e.ofDriverChange) = true := by
  cases e <;> first | rfl | cases h

theorem Event.change_eq_none {uid : Name} {e : Event} (h : (!e.ofDriverChange) = true) :
    e.change uid = none := by
  cases e <;> first | rfl | cases h

namespace DriverUids
open ExtDeviceManager Cleanup

/-- The uid has been registered and not been removed since; the newest call comes first. -/
def listed (uid : Name) (log : List Event) : Bool :=
  (log.findSome? (Event.change uid)).getD false

/-- The device is matched to a driver with the uid. -/
def HasUid (uid : Name) (d : Device) : Prop :=
  d.bundleInfo ≠ [] ∧ d.driverInfo.any (·.driverUid = uid) = true

instance (uid : Name) (d : Device) : Decidable (HasUid uid d) :=
  inferInstanceAs (Decidable (_ ∧ _))

/-- A registered device is matched to a driver with the uid. -/
def Used (uid : Name) (m : ExtDeviceManager) : Prop :=
  ∃ obj ∈ m.queryAllDevices, HasUid uid (m.objects obj)

instance (uid : Name) (m : ExtDeviceManager) : Decidable (Used uid m) :=
  inferInstanceAs (Decidable (∃ obj ∈ m.queryAllDevices, _))

/-- The uids that are registered and not removed are those of the registered devices. -/
def Mirrors (m : ExtDeviceManager) : Prop :=
  ∀ uid, listed uid m.out.log = true ↔ Used uid m

variable {m m' m'' : ExtDeviceManager} {r : Replies} {id : DeviceId} {obj : Nat} {uid : Name}
  {log : List Event} {driverInfo : DriverInfo} {d d' : Device}

theorem listed_matched : listed uid (.onDriverMatched driverInfo :: log) = true ↔
    driverInfo.driverUid = uid ∨ listed uid log = true := by
  by_cases huid : driverInfo.driverUid = uid
  · simp [listed, Event.change, huid]
  · simp [listed, Event.change, huid]

theorem listed_removed : listed uid (.onDriverRemoved driverInfo :: log) = true ↔
    driverInfo.driverUid ≠ uid ∧ listed uid log = true := by
  by_cases huid : driverInfo.driverUid = uid
  · simp [listed, Event.change, huid]
  · simp [listed, Event.change, huid]

theorem listed_append {es : List Event} (h : ∀ e ∈ es, (!e.ofDriverChange) = true) :
    listed uid (es ++ log) = listed uid log := by
  have hnone : es.findSome? (Event.change uid) = none :=
    List.findSome?_eq_none_iff.mpr fun e he => Event.change_eq_none (h e he)
  rw [listed, List.findSome?_append, hnone, Option.none_or, listed]

/-! ## Operations that do not call the listener -/

/-- The operation calls the listener for driver changes nowhere. -/
def KeepsList (m m' : ExtDeviceManager) : Prop := Emits (!·.ofDriverChange) m.out m'.out

theorem KeepsList.listed_eq (h : KeepsList m m') (uid : Name) :
    listed uid m'.out.log = listed uid m.out.log := by
  obtain ⟨es, hlog, hes⟩ := h
  rw [hlog, listed_append hes]

theorem KeepsList.of_out (h : m'.out = m.out) : KeepsList m m' := .of_log (congrArg Outside.log h)

theorem KeepsList.refl (m : ExtDeviceManager) : KeepsList m m := .of_out rfl

theorem KeepsList.trans (h : KeepsList m m') (h' : KeepsList m' m'') : KeepsList m m'' :=
  Emits.trans h h'

theorem KeepsList.of_emits (h : Emits Event.ofDevice m.out m'.out) : KeepsList m m' :=
  h.mono fun _ => Event.not_ofDriverChange_of_ofDevice

theorem stopExtension_keepsList : KeepsList m (m.stopExtension r obj) :=
  .of_emits Device.stopExtension_emits

theorem unLoadSelf_keepsList : KeepsList m (m.unLoadSelf r) := by
  have htimer (e e' : Event) (he : (!e.ofDriverChange) = true) (he' : (!e'.ofDriverChange) = true)
      (o : Outside) : Emits (!·.ofDriverChange) o ((o.emit e).emit e') :=
    (emits_emit he).trans (emits_emit he')
  unfold unLoadSelf
  dsimp only
  split
  case isTrue => exact htimer _ _ rfl rfl _
  case isFalse =>
    split
    case isTrue => exact (htimer _ _ rfl rfl _).trans (emits_emit rfl)
    case isFalse => exact (htimer _ _ rfl rfl _).trans (htimer _ _ rfl rfl _)

/-! ## Operations that do -/

theorem updateDriverInfo_listed (hlistener : m.driverChangeCallback = true) :
    listed uid (m.updateDriverInfo obj).out.log = true ↔
      (m.objects obj).driverInfo.any (·.driverUid = uid) = true ∨ listed uid m.out.log = true := by
  unfold updateDriverInfo
  cases hinfo : (m.objects obj).driverInfo with
  | none => simp
  | some driverInfo =>
    dsimp only
    rw [if_pos hlistener, Option.any_some, decide_eq_true_eq]
    exact listed_matched

theorem removeDriverInfo_listed (hlistener : m.driverChangeCallback = true) :
    listed uid (m.removeDriverInfo obj).out.log = true ↔
      ¬(m.objects obj).driverInfo.any (·.driverUid = uid) = true ∧ listed uid m.out.log = true := by
  unfold removeDriverInfo
  cases hinfo : (m.objects obj).driverInfo with
  | none => simp
  | some driverInfo =>
    dsimp only
    rw [if_pos hlistener, Option.any_some, decide_eq_true_eq]
    exact listed_removed

theorem launchDriver_listed (hlistener : m.driverChangeCallback = true) :
    listed uid (m.launchDriver r obj).2.out.log = true ↔
      (m.objects obj).driverInfo.any (·.driverUid = uid) = true ∨ listed uid m.out.log = true := by
  rw [← updateDriverInfo_listed hlistener]
  unfold launchDriver
  cases hinfo : (m.objects obj).driverInfo with
  | none => rw [updateDriverInfo, hinfo]
  | some driverInfo =>
    have hconnect : KeepsList (m.updateDriverInfo obj) ((m.updateDriverInfo obj).runDevice obj
        (Device.connect (r.device ((m.updateDriverInfo obj).objects obj).info))).2 :=
      .of_emits Device.connect_emits
    dsimp only
    split
    case isTrue => rfl
    case isFalse =>
      split
      case isTrue => rw [hconnect.listed_eq]
      case isFalse => rw [hconnect.listed_eq]

theorem addDevIdOfBundleInfoMap_listed (hlistener : m.driverChangeCallback = true) {bundleInfo : Name}
    (hb : bundleInfo ≠ []) :
    listed uid (m.addDevIdOfBundleInfoMap r obj bundleInfo).2.out.log = true ↔
      (m.objects obj).driverInfo.any (·.driverUid = uid) = true ∨ listed uid m.out.log = true := by
  rw [addDevIdOfBundleInfoMap, if_neg hb]
  exact launchDriver_listed (m := m.emplaceDevId bundleInfo (m.objects obj).info) hlistener

/-! ## Attach -/

theorem hasUid_of_sameDriver (h : Device.SameDriver d d') : HasUid uid d' ↔ HasUid uid d := by
  rw [HasUid, HasUid, h.bundleInfo, h.driverInfo]

theorem startDevice_listed (hlistener : m.driverChangeCallback = true) :
    listed uid (m.startDevice r id obj).2.out.log = true ↔
      HasUid uid (matched r id (m.objects obj)) ∨ listed uid m.out.log = true := by
  have hout : (m.matchDevice r id obj).out = m.out := by
    unfold matchDevice
    split
    case isTrue => cases r.queryMatchDriver id <;> rfl
    case isFalse => rfl
  have hstop : KeepsList m (m.matchDevice r id obj).stopUnloadTimer :=
    (KeepsList.of_out hout).trans (emits_emit rfl)
  have htouches : Touches obj m (m.matchDevice r id obj) := matchDevice_touches
  have hcall : (m.matchDevice r id obj).stopUnloadTimer.driverChangeCallback = true :=
    htouches.driverChangeCallback.trans hlistener
  rw [startDevice_snd, HasUid, ← matchDevice_self, ← hstop.listed_eq]
  split
  case isTrue hb =>
    rw [hb]
    simp
  case isFalse hb =>
    rw [addDevIdOfBundleInfoMap_listed hcall hb, and_iff_right hb]
    rfl

/-- A registered device other than `obj` is matched to a driver with the uid. -/
def UsedBeside (uid : Name) (m : ExtDeviceManager) (obj : Nat) : Prop :=
  ∃ o ∈ m.queryAllDevices, o ≠ obj ∧ HasUid uid (m.objects o)

theorem used_iff (hid : m.deviceMap.lookup id = some obj) : Used uid m ↔
    ((m.objects obj).isUnRegisted = false ∧ HasUid uid (m.objects obj)) ∨ UsedBeside uid m obj := by
  constructor
  · rintro ⟨o, ho, huid⟩
    by_cases heq : o = obj
    · subst heq
      obtain ⟨i, -, hflag⟩ := mem_queryAllDevices.mp ho
      exact .inl ⟨hflag, huid⟩
    · exact .inr ⟨o, ho, heq, huid⟩
  · rintro (⟨hflag, huid⟩ | ⟨o, ho, -, huid⟩)
    · exact ⟨obj, mem_queryAllDevices.mpr ⟨id, hid, hflag⟩, huid⟩
    · exact ⟨o, ho, huid⟩

theorem hasUid_matched (h : HasUid uid d) : HasUid uid (matched r id d) := by
  rwa [matched, if_neg h.1]

theorem startDevice_used (hid : m.deviceMap.lookup id = some obj) :
    Used uid (m.startDevice r id obj).2 ↔
      ((m.objects obj).isUnRegisted = false ∧ HasUid uid (matched r id (m.objects obj))) ∨
        UsedBeside uid m obj := by
  have htouches : Touches obj m (m.startDevice r id obj).2 := startDevice_touches
  have hbeside : UsedBeside uid (m.startDevice r id obj).2 obj ↔ UsedBeside uid m obj := by
    unfold UsedBeside
    rw [queryAllDevices_of_sameDevices htouches.sameDevices]
    refine exists_congr fun o => and_congr_right fun _ => and_congr_right fun hne => ?_
    rw [htouches.objects o hne]
  rw [used_iff (htouches.deviceMap ▸ hid), htouches.isUnRegisted, hbeside,
    hasUid_of_sameDriver startDevice_sameDriver]

/-- A flagged device that is attached must not bring in a driver: it is not registered. -/
theorem startDevice_mirrors_iff (h : Mirrors m) (hlistener : m.driverChangeCallback = true)
    (hid : m.deviceMap.lookup id = some obj) :
    Mirrors (m.startDevice r id obj).2 ↔ ((m.objects obj).isUnRegisted = true →
      ∀ uid, HasUid uid (matched r id (m.objects obj)) → Used uid m) := by
  unfold Mirrors
  simp only [startDevice_listed hlistener, startDevice_used hid, h _]
  cases hflag : (m.objects obj).isUnRegisted with
  | true =>
    have hused (uid : Name) : Used uid m ↔ UsedBeside uid m obj := by
      rw [used_iff hid, hflag]
      exact or_iff_right fun hfalse => nomatch hfalse.1
    constructor
    · intro hall _ uid huid
      exact (hused uid).mpr (((hall uid).mp (.inl huid)).resolve_left fun hfalse => nomatch hfalse.1)
    · intro hkept uid
      constructor
      · rintro (huid | huid)
        · exact .inr ((hused uid).mp (hkept rfl uid huid))
        · exact .inr ((hused uid).mp huid)
      · rintro (⟨hfalse, -⟩ | hbeside)
        · cases hfalse
        · exact .inr ((hused uid).mpr hbeside)
  | false =>
    apply iff_of_true
    · intro uid
      rw [used_iff hid, hflag]
      constructor
      · rintro (huid | ⟨-, huid⟩ | hbeside)
        · exact .inl ⟨rfl, huid⟩
        · exact .inl ⟨rfl, hasUid_matched huid⟩
        · exact .inr hbeside
      · rintro (⟨-, huid⟩ | hbeside)
        · exact .inl huid
        · exact .inr (.inr hbeside)
    · intro hfalse
      cases hfalse

variable {s : System}

theorem makeDevice_mirrors (h : Mirrors s.manager) (hwf : s.WellFormed)
    (hid : s.manager.deviceMap.lookup id = none) : Mirrors (s.manager.makeDevice id) := by
  intro uid
  refine (h uid).trans ?_
  constructor
  · rintro ⟨o, ho, huid⟩
    refine ⟨o, (mem_queryAllDevices_makeDevice hwf hid).mpr (.inr ho), ?_⟩
    rwa [makeDevice_of_lt (queryAllDevices_lt hwf ho)]
  · rintro ⟨o, ho, huid⟩
    rcases (mem_queryAllDevices_makeDevice hwf hid).mp ho with rfl | ho
    · rw [makeDevice_self] at huid
      exact absurd rfl huid.1
    · rw [makeDevice_of_lt (queryAllDevices_lt hwf ho)] at huid
      exact ⟨o, ho, huid⟩

theorem registerDevice_mirrors_iff (h : Mirrors s.manager) (hwf : s.WellFormed)
    (hlistener : s.manager.driverChangeCallback = true) (r : Replies) (id : DeviceId) :
    Mirrors (s.manager.registerDevice r id).2 ↔
      ∀ obj, s.manager.deviceMap.lookup id = some obj →
        (s.manager.objects obj).drvExtRemote = none →
        (s.manager.objects obj).isUnRegisted = true →
        ∀ uid, HasUid uid (matched r id (s.manager.objects obj)) → Used uid s.manager := by
  cases hid : s.manager.deviceMap.lookup id with
  | some obj =>
    simp only [registerDevice, hid, Option.some.injEq, forall_eq']
    cases hremote : (s.manager.objects obj).drvExtRemote with
    | some remote =>
      refine iff_of_true h fun hnone => ?_
      cases hnone
    | none =>
      refine (startDevice_mirrors_iff h hlistener hid).trans ?_
      exact ⟨fun hkept _ => hkept, fun hkept => hkept rfl⟩
  | none =>
    simp only [registerDevice, hid]
    refine iff_of_true ?_ fun obj hobj => ?_
    case refine_2 => cases hobj
    refine (startDevice_mirrors_iff (makeDevice_mirrors h hwf hid) hlistener
      lookup_makeDevice_self).mpr ?_
    rw [makeDevice_self]
    intro hflag
    cases hflag

/-! ## Detach -/

/-- The device is the last one in the entry of its driver, and its driver disconnects. -/
def Removes (r : Replies) (m : ExtDeviceManager) (d : Device) : Prop :=
  (m.bundleMatchMap.lookup d.bundleInfo).any (·.card ≤ 1) = true ∧
    (d.disconnect (r.device d.info) m.out).1 = .edmOk

instance (r : Replies) (m : ExtDeviceManager) (d : Device) : Decidable (Removes r m d) :=
  inferInstanceAs (Decidable (_ ∧ _))

/-- What a disconnect returns does not depend on the calls so far. -/
theorem disconnect_fst (r : DeviceReplies) (d : Device) (o o' : Outside) :
    (d.disconnect r o).1 = (d.disconnect r o').1 := by
  unfold Device.disconnect disconnectDriverExtension
  split
  case isTrue => rfl
  case isFalse =>
    cases d.connectNofitier with
    | none => rfl
    | some notify =>
      dsimp only
      cases notify.info with
      | none => rfl
      | some info =>
        dsimp only
        split
        case isTrue => rfl
        case isFalse =>
          cases r.disconnect with
          | none => rfl
          | some ret =>
            dsimp only
            split
            case isTrue => rfl
            case isFalse => rfl

theorem disconnectDriver_listed (hlistener : m.driverChangeCallback = true) :
    listed uid (m.disconnectDriver r obj).2.out.log = true ↔ listed uid m.out.log = true ∧
      ¬(((m.objects obj).disconnect (r.device (m.objects obj).info) m.out).1 = .edmOk ∧
        (m.objects obj).driverInfo.any (·.driverUid = uid) = true) := by
  have hemits : Emits Event.ofDevice m.out
      ((m.objects obj).disconnect (r.device (m.objects obj).info) m.out).2 := Device.disconnect_emits
  unfold disconnectDriver
  generalize (m.objects obj).disconnect (r.device (m.objects obj).info) m.out = result at hemits
  obtain ⟨ret, out⟩ := result
  have hdisc : KeepsList m { m with out } := .of_emits hemits
  dsimp only
  split
  case isTrue hret =>
    rw [hdisc.listed_eq, and_iff_left fun hall => hret hall.1]
  case isFalse hret =>
    have hok := Decidable.not_not.mp hret
    refine (removeDriverInfo_listed (m := { m with out }) hlistener).trans ?_
    rw [hdisc.listed_eq, and_comm, and_iff_right hok]

theorem removeDevIdOfBundleInfoMap_listed (hlistener : m.driverChangeCallback = true)
    (hb : (m.objects obj).bundleInfo ≠ []) :
    listed uid (m.removeDevIdOfBundleInfoMap r obj (m.objects obj).bundleInfo).2.out.log = true ↔
      listed uid m.out.log = true ∧ ¬(Removes r m (m.objects obj) ∧ HasUid uid (m.objects obj)) := by
  unfold removeDevIdOfBundleInfoMap Removes
  rw [if_neg hb]
  cases hids : m.bundleMatchMap.lookup (m.objects obj).bundleInfo with
  | none =>
    rw [Option.any_none, and_iff_left]
    rintro ⟨⟨hfalse, -⟩, -⟩
    cases hfalse
  | some ids =>
    rw [Option.any_some]
    dsimp only
    split
    case isTrue hcard =>
      rw [and_iff_left]
      · rfl
      · rintro ⟨⟨hle, -⟩, -⟩
        rw [decide_eq_true_eq] at hle
        exact Nat.not_lt.mpr hle hcard
    case isFalse hcard =>
      have hle : decide (ids.card ≤ 1) = true := decide_eq_true (Nat.not_lt.mp hcard)
      rw [hle, and_iff_right rfl, HasUid, and_iff_right hb]
      exact disconnectDriver_listed (m := m.eraseBundle (m.objects obj).bundleInfo) hlistener

/-- A detach changes nothing of the device but its flag. -/
theorem detached_device (m : ExtDeviceManager) (r : Replies) (id : DeviceId) (obj : Nat) :
    ((m.detachDevice id obj).unLoadSelf r).objects obj = m.objects obj ∨
      ((m.detachDevice id obj).unLoadSelf r).objects obj = (m.objects obj).unRegist := by
  rw [unLoadSelf_objects]
  unfold detachDevice
  split
  case isTrue => exact .inr (setDevice_self _)
  case isFalse => exact .inl rfl

theorem removes_detached : Removes r ((m.detachDevice id obj).unLoadSelf r)
    (((m.detachDevice id obj).unLoadSelf r).objects obj) ↔ Removes r m (m.objects obj) := by
  have hunload : KeepsDriver obj (m.detachDevice id obj) ((m.detachDevice id obj).unLoadSelf r) :=
    unLoadSelf_keepsDriver
  unfold Removes
  rw [hunload.bundleMatchMap, (MatchMap.detachDevice_spec m id obj).1,
    disconnect_fst _ _ _ m.out]
  rcases detached_device m r id obj with heq | heq
  · rw [heq]
  · rw [heq]
    exact .rfl

theorem detachDevice_out : (m.detachDevice id obj).out = m.out := by
  unfold detachDevice
  split
  case isTrue => rfl
  case isFalse => rfl

theorem unRegisterDevice_listed (hlistener : m.driverChangeCallback = true)
    (hid : m.deviceMap.lookup id = some obj) :
    listed uid (m.unRegisterDevice r id).2.out.log = true ↔
      listed uid m.out.log = true ∧ ¬(Removes r m (m.objects obj) ∧ HasUid uid (m.objects obj)) := by
  have hkeeps : KeepsList m ((m.detachDevice id obj).unLoadSelf r) :=
    (KeepsList.of_out detachDevice_out).trans unLoadSelf_keepsList
  have hcall : ((m.detachDevice id obj).unLoadSelf r).driverChangeCallback = true := by
    have hunload : KeepsDriver obj (m.detachDevice id obj) ((m.detachDevice id obj).unLoadSelf r) :=
      unLoadSelf_keepsDriver
    rw [hunload.driverChangeCallback, detachDevice]
    split
    case isTrue => exact hlistener
    case isFalse => exact hlistener
  have hbundle : (((m.detachDevice id obj).unLoadSelf r).objects obj).bundleInfo =
      (m.objects obj).bundleInfo := by
    rw [unLoadSelf_objects, detachDevice_bundleInfo]
  have huid : HasUid uid (((m.detachDevice id obj).unLoadSelf r).objects obj) ↔
      HasUid uid (m.objects obj) := by
    rcases detached_device m r id obj with heq | heq
    · rw [heq]
    · rw [heq]
      exact .rfl
  simp only [unRegisterDevice, hid]
  split
  case isTrue hb =>
    rw [hkeeps.listed_eq, and_iff_left]
    rintro ⟨-, huid⟩
    exact huid.1 hb
  case isFalse hb =>
    rw [← hbundle] at hb ⊢
    rw [removeDevIdOfBundleInfoMap_listed hcall hb, hkeeps.listed_eq, removes_detached, huid]

theorem unRegisterDevice_objects (hid : m.deviceMap.lookup id = some obj) {o : Nat} (ho : o ≠ obj) :
    (m.unRegisterDevice r id).2.objects o = m.objects o := by
  have hunload : ((m.detachDevice id obj).unLoadSelf r).objects o = m.objects o := by
    rw [unLoadSelf_objects, detachDevice]
    split
    case isTrue => exact setDevice_ne _ ho
    case isFalse => rfl
  simp only [unRegisterDevice, hid]
  split
  case isTrue => exact hunload
  case isFalse => exact ((removeDevIdOfBundleInfoMap_touches _).objects o ho).trans hunload

theorem unRegisterDevice_used (hm : m.Keyed) (hid : m.deviceMap.lookup id = some obj) :
    Used uid (m.unRegisterDevice r id).2 ↔ UsedBeside uid m obj := by
  unfold Used UsedBeside
  rw [queryAllDevices_of_sameDevices (System.unRegisterDevice_found r hid)]
  simp only [mem_queryAllDevices_detachDevice hm hid]
  constructor
  · rintro ⟨o, ⟨hne, ho⟩, huid⟩
    rw [unRegisterDevice_objects hid hne] at huid
    exact ⟨o, ho, hne, huid⟩
  · rintro ⟨o, ho, hne, huid⟩
    refine ⟨o, ⟨hne, ho⟩, ?_⟩
    rwa [unRegisterDevice_objects hid hne]

/-- The driver of the device is removed exactly where no other registered device has it. -/
theorem unRegisterDevice_mirrors_iff (h : Mirrors m) (hlistener : m.driverChangeCallback = true)
    (hm : m.Keyed) (hid : m.deviceMap.lookup id = some obj) :
    Mirrors (m.unRegisterDevice r id).2 ↔ ∀ uid, HasUid uid (m.objects obj) →
      (Removes r m (m.objects obj) → ¬UsedBeside uid m obj) ∧
        ((m.objects obj).isUnRegisted = false → ¬UsedBeside uid m obj →
          Removes r m (m.objects obj)) := by
  unfold Mirrors
  refine forall_congr' fun uid => ?_
  rw [unRegisterDevice_listed hlistener hid, unRegisterDevice_used hm hid, h uid, used_iff hid]
  by_cases huid : HasUid uid (m.objects obj)
  · rw [and_iff_left huid, and_iff_left huid, forall_prop_of_true huid]
    by_cases hbeside : UsedBeside uid m obj
    · simp [hbeside]
    · simp [hbeside]
  · simp [huid]

theorem removeDeviceOfDeviceMap_mirrors_iff (h : Mirrors m) (hm : m.Keyed) (r : Replies) (obj : Nat) :
    Mirrors ((m.removeDeviceOfDeviceMap obj).stopExtension r obj) ↔
      ∀ o, m.deviceMap.lookup (m.objects obj).info = some o → (m.objects o).isUnRegisted = false →
        ∀ uid, HasUid uid (m.objects o) → UsedBeside uid m o := by
  have hlisted (uid : Name) : listed uid
      ((m.removeDeviceOfDeviceMap obj).stopExtension r obj).out.log = listed uid m.out.log :=
    (stopExtension_keepsList (m := m.removeDeviceOfDeviceMap obj)).listed_eq uid
  have hused (uid : Name) : Used uid ((m.removeDeviceOfDeviceMap obj).stopExtension r obj) ↔
      Used uid (m.removeDeviceOfDeviceMap obj) := .rfl
  unfold Mirrors
  simp only [hlisted, hused, h _]
  cases hid : m.deviceMap.lookup (m.objects obj).info with
  | none =>
    refine iff_of_true (fun uid => ?_) nofun
    unfold Used removeDeviceOfDeviceMap
    refine exists_congr fun o => and_congr_left fun _ => ⟨fun ho => ?_, erase_queryAllDevices⟩
    obtain ⟨i, hi, hflag⟩ := mem_queryAllDevices.mp ho
    refine mem_queryAllDevices.mpr ⟨i, (AList.lookup_erase_ne ?_).trans hi, hflag⟩
    rintro rfl
    rw [hid] at hi
    cases hi
  | some o =>
    have hbeside (uid : Name) : Used uid (m.removeDeviceOfDeviceMap obj) ↔ UsedBeside uid m o := by
      unfold Used UsedBeside removeDeviceOfDeviceMap
      simp only [mem_queryAllDevices_erase hm hid, and_assoc, and_left_comm]
    simp only [hbeside, used_iff hid, Option.some.injEq, forall_eq', or_iff_right_iff_imp, and_imp]
    exact forall_comm

end DriverUids
end ExtDevMgr.Manager
