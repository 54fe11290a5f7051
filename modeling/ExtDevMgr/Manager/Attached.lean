import ExtDevMgr.Manager.Visible

/-!
# Binds while a device is attached

A bind should succeed only for a device that the queries report. It looks the device up in the map
without its flag, so between a detach and the end of its disconnect a client is still answered.
-/

namespace ExtDevMgr.Manager.Attached
open ExtDeviceManager ExtDevMgr.Manager.System

/-- The calls of a client's `OnConnect` so far. -/
def onConnects (m : ExtDeviceManager) : Nat :=
  m.out.log.countP fun
    | .onConnect .. => true
    | _ => false

/-- The bind has succeeded or called its client. -/
def Answered (m : ExtDeviceManager) (bind : UsbErrCode × ExtDeviceManager) : Prop :=
  bind.1 = .edmOk ∨ onConnects m < onConnects bind.2

/-- A bind is answered only where the queries report the device. -/
structure BindsAttached (m : ExtDeviceManager) : Prop where
  connectDevice : ∀ r id token callback,
    Answered m (m.connectDevice r id token callback) → m.queryDevicesById id ≠ []
  connectDriverWithDeviceId : ∀ r access id token appIds callback,
    Answered m (m.connectDriverWithDeviceId r access id token appIds callback) →
      m.queryDevicesById id ≠ []

/-- No device in the map is flagged. -/
def Unflagged (m : ExtDeviceManager) : Prop :=
  ∀ id obj, m.deviceMap.lookup id = some obj → (m.objects obj).isUnRegisted = false

variable {m m' : ExtDeviceManager} {id : DeviceId} {obj : Nat}

/-! ## Binds -/

theorem not_answered_nok : ¬Answered m (.edmNok, m) := by
  rintro (hret | hlt)
  · cases hret
  · exact Nat.lt_irrefl _ hlt

/-- A device in the map can be bound, flagged or not. -/
theorem connectDevice_found (hid : m.deviceMap.lookup id = some obj) :
    (m.connectDevice System.replies id 0 (some ⟨0⟩)).1 = .edmOk := by
  simp only [connectDevice, queryDeviceByDeviceID, hid, runDevice]
  cases hremote : (m.objects obj).drvExtRemote with
  | none =>
    simp [Device.connectWith, hremote, Device.registerDrvExtMgrCallback, System.replies,
      Device.updateDrvExtConnNotify, Device.addDrvExtConnNotify, Device.connectExtension,
      connectDriverExtension]
  | some remote =>
    simp [Device.connectWith, hremote, Device.registerDrvExtMgrCallback, System.replies]

theorem bindsAttached_iff : BindsAttached m ↔ Unflagged m := by
  have hvisible (id : DeviceId) : m.queryDevicesById id ≠ [] ↔ Visible.IsVisible m id :=
    @Visible.queryDevicesById_ne_nil ⟨m, []⟩ id
  constructor
  · intro h id obj hid
    have hquery := h.connectDevice _ id _ _ (.inl (connectDevice_found hid))
    exact (Visible.isVisible_found hid).mp ((hvisible id).mp hquery)
  · intro h
    have hquery {id : DeviceId} {obj : Nat} (hid : m.deviceMap.lookup id = some obj) :
        m.queryDevicesById id ≠ [] :=
      (hvisible id).mpr ⟨obj, hid, h id obj hid⟩
    constructor
    · intro r id token callback hanswered
      cases hid : m.deviceMap.lookup id with
      | some obj => exact hquery hid
      | none =>
        rw [connectDevice, queryDeviceByDeviceID, hid] at hanswered
        exact absurd hanswered not_answered_nok
    · intro r access id token appIds callback hanswered
      cases hid : m.deviceMap.lookup id with
      | some obj => exact hquery hid
      | none =>
        rw [connectDriverWithDeviceId, queryDeviceByDeviceID, hid] at hanswered
        exact absurd hanswered not_answered_nok

/-! ## Runs -/

/-- The device that is detached is not connected, so it leaves the map at once. -/
def Kept (s : System) : Action → Prop
  | .unRegisterDevice _ devInfo => ∀ obj, s.manager.deviceMap.lookup devInfo = some obj →
      (s.manager.objects obj).drvExtRemote = none
  | _ => True

instance (s : System) : DecidablePred (Kept s)
  | .unRegisterDevice _ devInfo => inferInstanceAs (Decidable
      (∀ obj ∈ s.manager.deviceMap.lookup devInfo, (s.manager.objects obj).drvExtRemote = none))
  | .registerDevice .. | .onBundlesUpdated .. | .clearMatchedDrivers .. | .connectDevice ..
  | .connectDriverWithDeviceId .. | .disConnectDevice .. | .disConnectDriverWithDeviceId ..
  | .onConnect .. | .onDisconnect .. | .remoteDied .. | .removeDeviceOfDeviceMap .. => .isTrue trivial

theorem unflagged_of_sameDevices (h : SameDevices m m') : Unflagged m' ↔ Unflagged m := by
  unfold Unflagged
  simp only [h.deviceMap, h.isUnRegisted]

theorem Unflagged.erase (h : Unflagged m) (id : DeviceId) :
    Unflagged { m with deviceMap := m.deviceMap.erase id } :=
  fun id' obj hid' => h id' obj (lookup_of_erase hid').2

theorem Unflagged.registerDevice {s : System} (hwf : s.WellFormed) (h : Unflagged s.manager)
    (r : Replies) (devInfo : DeviceId) : Unflagged (s.manager.registerDevice r devInfo).2 := by
  cases hid : s.manager.deviceMap.lookup devInfo with
  | some obj => exact (unflagged_of_sameDevices (registerDevice_found r hid)).mpr h
  | none =>
    apply (unflagged_of_sameDevices (registerDevice_new r hid)).mpr
    intro id obj hobj
    by_cases hne : id = devInfo
    · rw [hne, lookup_makeDevice_self] at hobj
      cases hobj
      exact congrArg Device.isUnRegisted makeDevice_self
    · rw [lookup_makeDevice hne] at hobj
      rw [makeDevice_of_lt (hwf.allocated hobj)]
      exact h id obj hobj

/-- A connected device that is detached stays in the map with its flag. -/
theorem unRegisterDevice_unflagged_iff (h : Unflagged m) (r : Replies) (devInfo : DeviceId) :
    Unflagged (m.unRegisterDevice r devInfo).2 ↔
      ∀ obj, m.deviceMap.lookup devInfo = some obj → (m.objects obj).drvExtRemote = none := by
  cases hid : m.deviceMap.lookup devInfo with
  | none =>
    rw [unRegisterDevice_absent r hid]
    exact iff_of_true h nofun
  | some obj =>
    rw [unflagged_of_sameDevices (unRegisterDevice_found r hid), detachDevice]
    cases hremote : (m.objects obj).drvExtRemote with
    | none =>
      apply iff_of_true (h.erase devInfo)
      intro obj' hobj'
      cases hobj'
      exact hremote
    | some remote =>
      apply iff_of_false
      · intro hunflagged
        rw [if_pos Option.isSome_some] at hunflagged
        have hflag := hunflagged devInfo obj hid
        rw [setDevice_self] at hflag
        cases hflag
      · intro hnone
        rw [hnone obj rfl] at hremote
        cases hremote

theorem step_bindsAttached_iff {s : System} (hwf : s.WellFormed) (h : BindsAttached s.manager)
    (a : Action) : BindsAttached (s.step a).manager ↔ Kept s a := by
  rw [bindsAttached_iff] at h ⊢
  have hkeep {a : Action} (ha : a.KeepsMap) : Unflagged (s.step a).manager :=
    (unflagged_of_sameDevices (step_sameDevices ha)).mpr h
  cases a with
  | registerDevice r devInfo => exact iff_of_true (h.registerDevice hwf r devInfo) trivial
  | unRegisterDevice r devInfo => exact unRegisterDevice_unflagged_iff h r devInfo
  | removeDeviceOfDeviceMap r obj => exact iff_of_true (h.erase _) trivial
  | onBundlesUpdated => exact iff_of_true (hkeep (a := .onBundlesUpdated ..) trivial) trivial
  | clearMatchedDrivers => exact iff_of_true (hkeep (a := .clearMatchedDrivers ..) trivial) trivial
  | connectDevice => exact iff_of_true (hkeep (a := .connectDevice ..) trivial) trivial
  | connectDriverWithDeviceId =>
    exact iff_of_true (hkeep (a := .connectDriverWithDeviceId ..) trivial) trivial
  | disConnectDevice => exact iff_of_true (hkeep (a := .disConnectDevice ..) trivial) trivial
  | disConnectDriverWithDeviceId =>
    exact iff_of_true (hkeep (a := .disConnectDriverWithDeviceId ..) trivial) trivial
  | onConnect => exact iff_of_true (hkeep (a := .onConnect ..) trivial) trivial
  | onDisconnect => exact iff_of_true (hkeep (a := .onDisconnect ..) trivial) trivial
  | remoteDied => exact iff_of_true (hkeep (a := .remoteDied ..) trivial) trivial

theorem init_bindsAttached (driverChangeCallback : Bool) :
    BindsAttached (machine driverChangeCallback).init.manager := by
  rw [bindsAttached_iff]
  intro id obj hid
  simp [machine] at hid

/-- In every state of a run a bind is answered only for a device that the queries report exactly when
the run detaches no connected device. -/
theorem bindsAttached_iff_kept (driverChangeCallback : Bool) (as : List Action)
    (hrun : (machine driverChangeCallback).Runs as) :
    (machine driverChangeCallback).Throughout (BindsAttached ·.manager)
        (machine driverChangeCallback).init as ↔
      (machine driverChangeCallback).Along Kept (machine driverChangeCallback).init as :=
  Machine.throughout_iff_along (I := WellFormed) (fun _ _ h ha => step_wellFormed h ha)
    (fun _ a hwf h _ => step_bindsAttached_iff hwf h a) (init_wellFormed driverChangeCallback)
    (init_bindsAttached driverChangeCallback) hrun

/-- A device is attached, connected by its driver and disconnected before it is detached. -/
theorem bindsAttached_of_unbound :
    (machine true).Throughout (BindsAttached ·.manager) (machine true).init
      [.registerDevice replies 1, .onConnect 0 (some 7) 0, .onDisconnect replies 0 0,
        .unRegisterDevice replies 1] :=
  (bindsAttached_iff_kept true _ (by decide)).mpr (by decide)

/-- The device is detached while it is connected: no query reports it, and a bind of it succeeds. -/
theorem not_forall_bindsAttached :
    ¬∀ driverChangeCallback as, (machine driverChangeCallback).Runs as →
      (machine driverChangeCallback).Throughout (BindsAttached ·.manager)
        (machine driverChangeCallback).init as := by
  intro h
  have hlast := (h true [.registerDevice replies 1, .onConnect 0 (some 7) 0,
    .unRegisterDevice replies 1] (by decide)).last
  exact hlast.connectDevice replies 1 101 (some ⟨1⟩) (.inl (by decide)) (by decide)

end ExtDevMgr.Manager.Attached
