import ExtDevMgr.Manager.System

/-!
# The devices that the queries report

Over every run of the device manager the queries should report the devices attached last. They do
not when a device comes back before the completion of its disconnect: it is still flagged, and stays
hidden, or the completion takes its new registration out of the map.
-/

namespace ExtDevMgr.Manager.Visible
open ExtDeviceManager ExtDevMgr.Manager.System

structure State where
  sys : System
  /-- The ids whose last attach or detach was an attach. -/
  attached : Finset DeviceId

def attachedAfter (attached : Finset DeviceId) : Action → Finset DeviceId
  | .registerDevice _ devInfo => insert devInfo attached
  | .unRegisterDevice _ devInfo => attached.erase devInfo
  | _ => attached

def machine (driverChangeCallback : Bool) : Machine State Action where
  init := { sys := (System.machine driverChangeCallback).init, attached := ∅ }
  enabled s a := s.sys.Enabled a
  step s a := { sys := s.sys.step a, attached := attachedAfter s.attached a }

instance (driverChangeCallback : Bool) (s : State) :
    DecidablePred ((machine driverChangeCallback).enabled s) :=
  inferInstanceAs (DecidablePred s.sys.Enabled)

/-- Each query reports exactly the attached devices. -/
structure Reported (s : State) : Prop where
  queryAllDevices : ∀ id, (∃ obj ∈ s.sys.manager.queryAllDevices,
    (s.sys.manager.objects obj).info = id) ↔ id ∈ s.attached
  queryDevice : ∀ busType id,
    id ∈ s.sys.manager.queryDevice busType ↔ id ∈ s.attached ∧ DeviceId.busType id = busType
  queryDevicesById : ∀ id, s.sys.manager.queryDevicesById id ≠ [] ↔ id ∈ s.attached

/-! ## What the queries see -/

/-- `id` is in the map and not flagged. -/
def IsVisible (m : ExtDeviceManager) (id : DeviceId) : Prop :=
  ∃ obj, m.deviceMap.lookup id = some obj ∧ (m.objects obj).isUnRegisted = false

variable {s : State} {sys : System} {id : DeviceId}

theorem mem_queryAllDevices (h : sys.WellFormed) :
    (∃ obj ∈ sys.manager.queryAllDevices, (sys.manager.objects obj).info = id) ↔
      IsVisible sys.manager id := by
  constructor
  · rintro ⟨obj, hobj, rfl⟩
    obtain ⟨e, he, rfl⟩ := List.mem_map.1 hobj
    obtain ⟨hmem, hflag⟩ := List.mem_filter.1 he
    have hid : sys.manager.deviceMap.lookup e.1 = some e.2 := Table.lookup_eq_some_iff.2 hmem
    exact ⟨e.2, (h.info hid).symm ▸ hid, by simpa using hflag⟩
  · rintro ⟨obj, hid, hflag⟩
    refine ⟨obj, List.mem_map.2 ⟨⟨id, obj⟩, List.mem_filter.2 ⟨?_, ?_⟩, rfl⟩, h.info hid⟩
    · exact Table.lookup_eq_some_iff.1 hid
    · simpa using hflag

theorem mem_queryDevice (h : sys.WellFormed) {busType : UInt32} :
    id ∈ sys.manager.queryDevice busType ↔
      IsVisible sys.manager id ∧ DeviceId.busType id = busType := by
  constructor
  · intro hmem
    obtain ⟨e, he, rfl⟩ := List.mem_map.1 hmem
    obtain ⟨hmem, hcond⟩ := List.mem_filter.1 he
    have hid : sys.manager.deviceMap.lookup e.1 = some e.2 := Table.lookup_eq_some_iff.2 hmem
    obtain ⟨hbus, hflag⟩ := of_decide_eq_true hcond
    rw [h.info hid]
    exact ⟨⟨e.2, hid, by simpa using hflag⟩, hbus⟩
  · rintro ⟨⟨obj, hid, hflag⟩, hbus⟩
    refine List.mem_map.2 ⟨⟨id, obj⟩, List.mem_filter.2 ⟨?_, ?_⟩, h.info hid⟩
    · exact Table.lookup_eq_some_iff.1 hid
    · exact decide_eq_true ⟨hbus, by simpa using hflag⟩

theorem queryDevicesById_ne_nil : sys.manager.queryDevicesById id ≠ [] ↔
    IsVisible sys.manager id := by
  constructor
  · intro hne
    obtain ⟨obj, hobj⟩ := List.exists_mem_of_ne_nil _ hne
    obtain ⟨e, he, rfl⟩ := List.mem_map.1 hobj
    obtain ⟨hmem, hcond⟩ := List.mem_filter.1 he
    obtain ⟨rfl, hflag⟩ := of_decide_eq_true hcond
    exact ⟨e.2, Table.lookup_eq_some_iff.2 hmem, by simpa using hflag⟩
  · rintro ⟨obj, hid, hflag⟩
    refine List.ne_nil_of_mem (a := obj)
      (List.mem_map.2 ⟨⟨id, obj⟩, List.mem_filter.2 ⟨?_, ?_⟩, rfl⟩)
    · exact Table.lookup_eq_some_iff.1 hid
    · exact decide_eq_true ⟨rfl, by simpa using hflag⟩

theorem reported_iff (h : s.sys.WellFormed) :
    Reported s ↔ ∀ id, IsVisible s.sys.manager id ↔ id ∈ s.attached := by
  constructor
  · intro hr id
    rw [← mem_queryAllDevices h, hr.queryAllDevices]
  · intro hr
    refine ⟨fun id => ?_, fun busType id => ?_, fun id => ?_⟩
    · rw [mem_queryAllDevices h, hr]
    · rw [mem_queryDevice h, hr]
    · rw [queryDevicesById_ne_nil, hr]

/-! ## How the operations change it -/

theorem isVisible_of_sameDevices {m m' : ExtDeviceManager} (h : SameDevices m m') :
    IsVisible m' id ↔ IsVisible m id := by
  unfold IsVisible
  simp only [h.deviceMap, h.isUnRegisted]

theorem isVisible_found {m : ExtDeviceManager} {obj : Nat}
    (h : m.deviceMap.lookup id = some obj) :
    IsVisible m id ↔ (m.objects obj).isUnRegisted = false := by
  unfold IsVisible
  rw [h]
  constructor
  · rintro ⟨o, ho, hflag⟩
    cases ho
    exact hflag
  · exact fun hflag => ⟨obj, rfl, hflag⟩

theorem not_isVisible_absent {m : ExtDeviceManager} (h : m.deviceMap.lookup id = none) :
    ¬IsVisible m id := by
  rintro ⟨o, ho, -⟩
  rw [h] at ho
  cases ho

theorem isVisible_makeDevice (h : sys.WellFormed) {devInfo : DeviceId} :
    IsVisible (sys.manager.makeDevice devInfo) id ↔ id = devInfo ∨ IsVisible sys.manager id := by
  by_cases hid : id = devInfo
  · subst hid
    refine iff_of_true ?_ (.inl rfl)
    rw [isVisible_found lookup_makeDevice_self, makeDevice_self]
  · rw [or_iff_right hid]
    unfold IsVisible
    rw [lookup_makeDevice hid]
    refine exists_congr fun obj => and_congr_right fun hobj => ?_
    rw [makeDevice_of_lt (h.allocated hobj)]

theorem isVisible_erase {m : ExtDeviceManager} {i : DeviceId} :
    IsVisible { m with deviceMap := m.deviceMap.erase i } id ↔ id ≠ i ∧ IsVisible m id := by
  constructor
  · rintro ⟨obj, hobj, hflag⟩
    obtain ⟨hne, hobj⟩ := lookup_of_erase hobj
    exact ⟨hne, obj, hobj, hflag⟩
  · rintro ⟨hne, obj, hobj, hflag⟩
    exact ⟨obj, (AList.lookup_erase_ne hne).trans hobj, hflag⟩

theorem isVisible_unRegist (h : sys.WellFormed) {i : DeviceId} {obj : Nat}
    (hi : sys.manager.deviceMap.lookup i = some obj) :
    IsVisible (sys.manager.setDevice obj (sys.manager.objects obj).unRegist) id ↔
      id ≠ i ∧ IsVisible sys.manager id := by
  constructor
  · rintro ⟨o, ho, hflag⟩
    rw [setDevice_deviceMap] at ho
    have hne : o ≠ obj := by
      rintro rfl
      rw [setDevice_self] at hflag
      cases hflag
    rw [setDevice_ne _ hne] at hflag
    refine ⟨?_, o, ho, hflag⟩
    rintro rfl
    exact hne (Option.some.inj (ho.symm.trans hi))
  · rintro ⟨hne, o, ho, hflag⟩
    refine ⟨o, ho, ?_⟩
    rw [setDevice_ne]
    · exact hflag
    · rintro rfl
      exact hne (h.id_eq ho hi)

theorem isVisible_detachDevice (h : sys.WellFormed) {i : DeviceId} {obj : Nat}
    (hi : sys.manager.deviceMap.lookup i = some obj) :
    IsVisible (sys.manager.detachDevice i obj) id ↔ id ≠ i ∧ IsVisible sys.manager id := by
  unfold detachDevice
  split
  case isTrue => exact isVisible_unRegist h hi
  case isFalse => exact isVisible_erase

/-! ## Runs -/

/-- No device comes back while it is flagged, and a completion takes no device out of the map that
is not. -/
def Timely (s : State) : Action → Prop
  | .registerDevice _ devInfo => ∀ obj, s.sys.manager.deviceMap.lookup devInfo = some obj →
      (s.sys.manager.objects obj).isUnRegisted = false
  | .removeDeviceOfDeviceMap _ obj =>
    ∀ o, s.sys.manager.deviceMap.lookup (s.sys.manager.objects obj).info = some o →
      (s.sys.manager.objects o).isUnRegisted = true
  | _ => True

instance (s : State) : DecidablePred (Timely s)
  | .registerDevice _ devInfo => inferInstanceAs (Decidable
      (∀ obj ∈ s.sys.manager.deviceMap.lookup devInfo,
        (s.sys.manager.objects obj).isUnRegisted = false))
  | .removeDeviceOfDeviceMap _ obj => inferInstanceAs (Decidable
      (∀ o ∈ s.sys.manager.deviceMap.lookup (s.sys.manager.objects obj).info,
        (s.sys.manager.objects o).isUnRegisted = true))
  | .unRegisterDevice .. | .onBundlesUpdated .. | .clearMatchedDrivers .. | .connectDevice ..
  | .connectDriverWithDeviceId .. | .disConnectDevice .. | .disConnectDriverWithDeviceId ..
  | .onConnect .. | .onDisconnect .. | .remoteDied .. => .isTrue trivial

theorem step_reported_iff (h : s.sys.WellFormed) (hr : Reported s) {a : Action}
    (ha : s.sys.Enabled a) (driverChangeCallback : Bool) :
    Reported ((machine driverChangeCallback).step s a) ↔ Timely s a := by
  rw [reported_iff (step_wellFormed h ha)]
  replace hr := (reported_iff h).1 hr
  have hkeep {a : Action} (ha : a.KeepsMap) (id : DeviceId) :
      IsVisible (s.sys.step a).manager id ↔ id ∈ s.attached :=
    (isVisible_of_sameDevices (step_sameDevices ha)).trans (hr id)
  cases a with
  | registerDevice r devInfo =>
    simp only [machine, attachedAfter, Finset.mem_insert, System.step, Timely]
    cases hid : s.sys.manager.deviceMap.lookup devInfo with
    | none =>
      refine iff_of_true (fun id => ?_) (by simp)
      rw [isVisible_of_sameDevices (registerDevice_new r hid), isVisible_makeDevice h, hr]
    | some obj =>
      simp only [isVisible_of_sameDevices (registerDevice_found r hid), hr, Option.some.injEq,
        forall_eq']
      rw [← isVisible_found hid, hr]
      constructor
      · exact fun hall => (hall devInfo).2 (.inl rfl)
      · refine fun hmem id => ⟨.inr, ?_⟩
        rintro (rfl | hid)
        · exact hmem
        · exact hid
  | unRegisterDevice r devInfo =>
    refine iff_of_true (fun id => ?_) trivial
    simp only [machine, attachedAfter, Finset.mem_erase, System.step]
    cases hid : s.sys.manager.deviceMap.lookup devInfo with
    | none =>
      rw [unRegisterDevice_absent r hid, ← hr, iff_and_self]
      rintro hvis rfl
      exact not_isVisible_absent hid hvis
    | some obj =>
      rw [isVisible_of_sameDevices (unRegisterDevice_found r hid), isVisible_detachDevice h hid, hr]
  | removeDeviceOfDeviceMap r obj =>
    have hstep (id : DeviceId) :
        IsVisible (s.sys.step (.removeDeviceOfDeviceMap r obj)).manager id ↔
          id ≠ (s.sys.manager.objects obj).info ∧ id ∈ s.attached := by
      rw [← hr]
      exact isVisible_erase
    have htimely : Timely s (.removeDeviceOfDeviceMap r obj) ↔
        ¬IsVisible s.sys.manager (s.sys.manager.objects obj).info := by
      simp [Timely, IsVisible]
    rw [htimely, hr]
    simp only [machine, attachedAfter, hstep]
    constructor
    · exact fun hall hmem => ((hall _).2 hmem).1 rfl
    · refine fun hmem id => ⟨And.right, fun hid => ⟨?_, hid⟩⟩
      rintro rfl
      exact hmem hid
  | onBundlesUpdated => exact iff_of_true (hkeep (a := .onBundlesUpdated ..) trivial) trivial
  | clearMatchedDrivers => exact iff_of_true (hkeep (a := .clearMatchedDrivers ..) trivial) trivial
  | connectDevice => exact iff_of_true (hkeep (a := .connectDevice ..) trivial) trivial
  | connectDriverWithDeviceId =>
    exact iff_of_true (hkeep (a := .connectDriverWithDeviceId ..) trivial) trivial
  | disConnectDevice => exact iff_of_true (hkeep (a := .disConnectDevice ..) trivial) trivial
  | disConnectDriverWithDeviceId =>
    exact iff_of_true (hkeep (a := .disConnectDriverWithDeviceId ..) trivial) trivial
  | onConnect => exact iff_of_true (hkeep (a := .onConnect ..) trivial) trivial
  | onDisconnect => exact iff_of_true (hkeep (a := .onDisconnect ..) trivial) trivial
  | remoteDied => exact iff_of_true (hkeep (a := .remoteDied ..) trivial) trivial

/-- The queries report the attached devices in every state of a run exactly when no step of the run
comes untimely. -/
theorem reported_iff_timely (driverChangeCallback : Bool) (as : List Action)
    (hrun : (machine driverChangeCallback).Runs as) :
    (machine driverChangeCallback).Throughout Reported (machine driverChangeCallback).init as ↔
      (machine driverChangeCallback).Along Timely (machine driverChangeCallback).init as :=
  Machine.throughout_iff_along (I := fun s => s.sys.WellFormed)
    (fun _ _ h ha => step_wellFormed h ha)
    (fun _ _ h hr ha => step_reported_iff h hr ha driverChangeCallback)
    (init_wellFormed driverChangeCallback)
    ((reported_iff (init_wellFormed driverChangeCallback)).2 fun id => by
      simp [machine, System.machine, IsVisible])
    hrun

/-- A device is attached, connected, detached, its disconnect completes and it is attached again. -/
theorem reported_of_timely_run :
    (machine true).Throughout Reported (machine true).init
      [.registerDevice replies 1, .onConnect 0 (some 7) 0, .unRegisterDevice replies 1,
        .onDisconnect replies 0 0, .removeDeviceOfDeviceMap replies 0,
        .registerDevice replies 1] :=
  (reported_iff_timely true _ (by decide)).2 (by decide)

/-- A device that is attached again before its disconnect completes is reported by no query. -/
theorem not_forall_reported :
    ¬∀ driverChangeCallback as, (machine driverChangeCallback).Runs as →
      (machine driverChangeCallback).Throughout Reported (machine driverChangeCallback).init as := by
  intro h
  have hlast := (h true [.registerDevice replies 1, .onConnect 0 (some 7) 0,
    .unRegisterDevice replies 1, .registerDevice replies 1] (by decide)).last
  exact (hlast.queryDevicesById 1).2 (by decide) (by decide)

end ExtDevMgr.Manager.Visible
