import ExtDevMgr.Manager.Emits
import ExtDevMgr.Manager.Visible

/-!
# The timer that unloads the service

`UnLoadSelf` arms the timer when it counts no device. The count leaves out the flagged devices, and a
device that comes back while it is flagged and connected is taken for one that has not gone, so the
timer may be armed under an attached device.
-/

namespace ExtDevMgr.Manager
open Outside

def Event.ofTimer : Event → Bool
  | .timerUnregister _ | .timerShutdown | .timerSetup _ | .timerRegister .. => true
  | _ => false

theorem Event.not_ofTimer_of_ofDevice {e : Event} (h : e.ofDevice = true) : (!e.ofTimer) = true := by
  cases e <;> first | rfl | cases h

namespace Unload
open ExtDeviceManager Visible
open ExtDevMgr.Manager.System hiding machine

/-- Whether the timer is armed after the calls of the log, the newest first. Only the timer registered
last is ever unregistered, and it is the only one. -/
def armed : List Event → Bool
  | [] => false
  | .timerRegister .. :: _ => true
  | .timerUnregister _ :: _ => false
  | .timerShutdown :: _ => false
  | _ :: log => armed log

theorem armed_append {es log : List Event} (h : ∀ e ∈ es, (!e.ofTimer) = true) :
    armed (es ++ log) = armed log := by
  induction es with
  | nil => rfl
  | cons e es ih =>
    obtain ⟨he, hes⟩ := List.forall_mem_cons.mp h
    rw [List.cons_append, ← ih hes]
    cases e <;> first | rfl | cases he

/-- The operation calls the timer nowhere. -/
def KeepsTimer (m m' : ExtDeviceManager) : Prop := Emits (!·.ofTimer) m.out m'.out

variable {m m' m'' : ExtDeviceManager} {r : Replies} {obj : Nat}

theorem KeepsTimer.armed_eq (h : KeepsTimer m m') : armed m'.out.log = armed m.out.log := by
  obtain ⟨es, hlog, hes⟩ := h
  rw [hlog, armed_append hes]

theorem KeepsTimer.of_out (h : m'.out = m.out) : KeepsTimer m m' := .of_log (congrArg Outside.log h)

theorem KeepsTimer.refl (m : ExtDeviceManager) : KeepsTimer m m := .of_out rfl

theorem KeepsTimer.trans (h : KeepsTimer m m') (h' : KeepsTimer m' m'') : KeepsTimer m m'' :=
  Emits.trans h h'

theorem KeepsTimer.of_emits (h : Emits Event.ofDevice m.out m'.out) : KeepsTimer m m' :=
  h.mono fun _ => Event.not_ofTimer_of_ofDevice

theorem KeepsTimer.foldl {f : ExtDeviceManager → DeviceId → ExtDeviceManager}
    (h : ∀ m id, KeepsTimer m (f m id)) (order : List DeviceId) (m : ExtDeviceManager) :
    KeepsTimer m (order.foldl f m) := by
  induction order generalizing m with
  | nil => exact .refl m
  | cons id order ih => exact (h m id).trans (ih (f m id))

/-! ## Operations that do not call the timer -/

theorem updateDriverInfo_keepsTimer : KeepsTimer m (m.updateDriverInfo obj) := by
  unfold updateDriverInfo
  split
  · exact .refl m
  · split
    case isTrue => exact emits_emit rfl
    case isFalse => exact .refl m

theorem removeDriverInfo_keepsTimer : KeepsTimer m (m.removeDriverInfo obj) := by
  unfold removeDriverInfo
  split
  · exact .refl m
  · split
    case isTrue => exact emits_emit rfl
    case isFalse => exact .refl m

theorem launchDriver_keepsTimer : KeepsTimer m (m.launchDriver r obj).2 := by
  unfold launchDriver
  split
  · exact .refl m
  · dsimp only
    split
    case isTrue => exact updateDriverInfo_keepsTimer
    case isFalse =>
      have hconnect : KeepsTimer (m.updateDriverInfo obj) ((m.updateDriverInfo obj).runDevice obj
          (Device.connect (r.device ((m.updateDriverInfo obj).objects obj).info))).2 :=
        .of_emits Device.connect_emits
      split
      case isTrue => exact updateDriverInfo_keepsTimer.trans hconnect
      case isFalse => exact updateDriverInfo_keepsTimer.trans hconnect

theorem addDevIdOfBundleInfoMap_keepsTimer (bundleInfo : Name) :
    KeepsTimer m (m.addDevIdOfBundleInfoMap r obj bundleInfo).2 := by
  unfold addDevIdOfBundleInfoMap
  split
  case isTrue => exact .refl m
  case isFalse =>
    have hemplace : KeepsTimer m (m.emplaceDevId bundleInfo (m.objects obj).info) := .of_out rfl
    exact hemplace.trans launchDriver_keepsTimer

theorem disconnectDriver_keepsTimer : KeepsTimer m (m.disconnectDriver r obj).2 := by
  have hdisc : KeepsTimer m
      { m with out := ((m.objects obj).disconnect (r.device (m.objects obj).info) m.out).2 } :=
    .of_emits Device.disconnect_emits
  unfold disconnectDriver
  dsimp only
  split
  case isTrue => exact hdisc
  case isFalse => exact hdisc.trans removeDriverInfo_keepsTimer

theorem removeDevIdOfBundleInfoMap_keepsTimer (bundleInfo : Name) :
    KeepsTimer m (m.removeDevIdOfBundleInfoMap r obj bundleInfo).2 := by
  unfold removeDevIdOfBundleInfoMap
  split
  case isTrue => exact .refl m
  case isFalse =>
    split
    · exact .refl m
    · split
      case isTrue => exact .of_out rfl
      case isFalse =>
        have herase : KeepsTimer m (m.eraseBundle bundleInfo) := .of_out rfl
        exact herase.trans disconnectDriver_keepsTimer

theorem forgetDriver_keepsTimer : KeepsTimer m (m.forgetDriver obj) := by
  have hset (d : Device) : KeepsTimer m (m.setDevice obj d) := .of_out rfl
  exact (hset _).trans removeDriverInfo_keepsTimer

theorem rematchDevice_keepsTimer : KeepsTimer m (m.rematchDevice r obj) := by
  have hset (d : Device) : KeepsTimer m (m.setDevice obj d) := .of_out rfl
  unfold rematchDevice
  split
  case isTrue => exact .refl m
  case isFalse =>
    split
    · exact .refl m
    · exact (hset _).trans (addDevIdOfBundleInfoMap_keepsTimer _)

theorem matchDriverInfo_keepsTimer (deviceIds : Finset DeviceId) (id : DeviceId) :
    KeepsTimer m (matchDriverInfo r deviceIds m id) := by
  unfold matchDriverInfo
  split
  · exact .refl m
  · split
    case isTrue => exact forgetDriver_keepsTimer.trans rematchDevice_keepsTimer
    case isFalse => exact rematchDevice_keepsTimer

theorem onBundlesUpdated_keepsTimer (bundleName : Name) (order : List DeviceId) :
    KeepsTimer m (m.onBundlesUpdated r bundleName order) := by
  have hdelete : KeepsTimer m (m.deleteBundlesOfBundleInfoMap bundleName).2 := by
    unfold deleteBundlesOfBundleInfoMap
    split
    case isTrue => exact .of_out rfl
    case isFalse => exact .of_out rfl
  exact hdelete.trans (.foldl (fun _ id => matchDriverInfo_keepsTimer _ id) _ _)

theorem clearMatchedDriver_keepsTimer (userId : Int) (id : DeviceId) :
    KeepsTimer m (clearMatchedDriver r userId m id) := by
  unfold clearMatchedDriver
  split
  · exact .refl m
  · dsimp only
    split
    case isTrue =>
      split
      · refine KeepsTimer.trans ?_ forgetDriver_keepsTimer
        exact .of_emits (stopDriverExtension_emits ..)
      · exact .refl m
    case isFalse => exact .refl m

theorem clearMatchedDrivers_keepsTimer (userId : Int) (order : List DeviceId) :
    KeepsTimer m (m.clearMatchedDrivers r userId order) := by
  have hloop : KeepsTimer m (order.foldl (clearMatchedDriver r userId) m) :=
    .foldl (fun _ id => clearMatchedDriver_keepsTimer userId id) _ _
  exact hloop.trans (.of_out rfl)

theorem stopExtension_keepsTimer : KeepsTimer m (m.stopExtension r obj) :=
  .of_emits Device.stopExtension_emits

theorem step_keepsTimer {s : System} {a : Action} (ha : a.KeepsMap) :
    KeepsTimer s.manager (s.step a).manager := by
  cases a with
  | registerDevice => exact ha.elim
  | unRegisterDevice => exact ha.elim
  | removeDeviceOfDeviceMap => exact ha.elim
  | onBundlesUpdated r bundleName order => exact onBundlesUpdated_keepsTimer bundleName order
  | clearMatchedDrivers r userId order => exact clearMatchedDrivers_keepsTimer userId order
  | connectDevice r id token callback => exact .of_emits (connectDevice_emits id token callback)
  | connectDriverWithDeviceId r access id token appIds callback =>
    exact .of_emits (connectDriverWithDeviceId_emits access id token appIds callback)
  | disConnectDevice r id token => exact .of_emits (disConnectDevice_emits id token)
  | disConnectDriverWithDeviceId r id token => exact .of_emits (disConnectDriverWithDeviceId_emits id token)
  | onConnect obj remote code => exact .of_emits (Device.onConnect_emits remote code)
  | remoteDied obj object => exact .of_out rfl
  | onDisconnect r obj code =>
    have hdisc : KeepsTimer s.manager (s.manager.onDisconnect obj code) :=
      .of_emits (Device.onDisconnect_emits code)
    simp only [step, System.onDisconnect]
    split
    case isTrue => exact hdisc
    case isFalse => exact hdisc.trans stopExtension_keepsTimer

/-! ## Attach and detach -/

/-- `RegisterDevice` disarms the timer, except for a device that it finds connected. -/
theorem registerDevice_armed (devInfo : DeviceId)
    (h : ∀ obj, m.deviceMap.lookup devInfo = some obj → (m.objects obj).drvExtRemote = none) :
    armed (m.registerDevice r devInfo).2.out.log = false := by
  have hstart (m : ExtDeviceManager) (obj : Nat) :
      armed (m.startDevice r devInfo obj).2.out.log = false := by
    rw [startDevice_snd]
    split
    case isTrue => rfl
    case isFalse => exact (addDevIdOfBundleInfoMap_keepsTimer _).armed_eq
  unfold registerDevice
  cases hid : m.deviceMap.lookup devInfo with
  | none => exact hstart _ _
  | some obj =>
    dsimp only
    rw [h obj hid]
    exact hstart _ _

theorem registerDevice_connected {devInfo : DeviceId} (hid : m.deviceMap.lookup devInfo = some obj)
    (h : (m.objects obj).drvExtRemote.isSome = true) : (m.registerDevice r devInfo).2 = m := by
  simp only [registerDevice, hid, h, if_true]

theorem getTotalDeviceNum_eq_zero :
    m.getTotalDeviceNum = 0 ↔ ∀ id, ¬IsVisible m id := by
  rw [getTotalDeviceNum, List.countP_eq_zero]
  constructor
  · rintro h id ⟨obj, hid, hflag⟩
    apply h ⟨id, obj⟩ (Table.lookup_eq_some_iff.mp hid)
    simp only [hflag, Bool.not_false]
  · intro h e he hflag
    refine h e.1 ⟨e.2, Table.lookup_eq_some_iff.mpr he, ?_⟩
    simpa using hflag

/-- `UnLoadSelf` arms the timer where no device is left that is not flagged. -/
theorem unLoadSelf_armed :
    armed (m.unLoadSelf r).out.log = true ↔ (∀ id, ¬IsVisible m id) ∧ r.timerSetup = 0 := by
  rw [← getTotalDeviceNum_eq_zero]
  have hcount (e e' : Event) : ((m.emit e).emit e').getTotalDeviceNum = m.getTotalDeviceNum := rfl
  unfold unLoadSelf
  dsimp only
  rw [hcount]
  split
  case isTrue hnum => exact iff_of_false Bool.false_ne_true fun h => hnum h.1
  case isFalse hnum =>
    split
    case isTrue hsetup => exact iff_of_false Bool.false_ne_true fun h => hsetup h.2
    case isFalse hsetup =>
      exact iff_of_true rfl ⟨Decidable.not_not.mp hnum, Decidable.not_not.mp hsetup⟩

theorem unRegisterDevice_armed {devInfo : DeviceId} (hid : m.deviceMap.lookup devInfo = some obj) :
    armed (m.unRegisterDevice r devInfo).2.out.log = true ↔
      (∀ id, ¬IsVisible (m.detachDevice devInfo obj) id) ∧ r.timerSetup = 0 := by
  rw [← unLoadSelf_armed]
  simp only [unRegisterDevice, hid]
  split
  case isTrue => exact .rfl
  case isFalse => rw [(removeDevIdOfBundleInfoMap_keepsTimer _).armed_eq]

/-! ## Runs -/

/-- The timer is armed only while no device is attached. -/
def ArmedAlone (s : State) : Prop := armed s.sys.manager.out.log = true → ∀ id, id ∉ s.attached

/-- `RegisterDevice` finds no connected device while the timer is armed, and `UnRegisterDevice` does
not take the last device that the queries report from an attached one that they do not report. -/
def Kept (s : State) : Action → Prop
  | .registerDevice _ devInfo => ∀ obj, s.sys.manager.deviceMap.lookup devInfo = some obj →
      (s.sys.manager.objects obj).drvExtRemote.isSome = true →
      armed s.sys.manager.out.log = false
  | .unRegisterDevice r devInfo => devInfo ∈ s.sys.manager.deviceMap → r.timerSetup = 0 →
      (∀ obj ∈ s.sys.manager.queryAllDevices, (s.sys.manager.objects obj).info = devInfo) →
      ∀ id ∈ s.attached, s.sys.manager.queryDevicesById id = [] → id = devInfo
  | _ => True

instance (s : State) : DecidablePred (Kept s)
  | .registerDevice _ devInfo => inferInstanceAs (Decidable
      (∀ obj ∈ s.sys.manager.deviceMap.lookup devInfo,
        (s.sys.manager.objects obj).drvExtRemote.isSome = true →
        armed s.sys.manager.out.log = false))
  | .unRegisterDevice r devInfo =>
    have : Decidable (∀ id ∈ s.attached, s.sys.manager.queryDevicesById id = [] → id = devInfo) :=
      Finset.decidableDforallFinset
    inferInstanceAs (Decidable (devInfo ∈ s.sys.manager.deviceMap → r.timerSetup = 0 →
      (∀ obj ∈ s.sys.manager.queryAllDevices, (s.sys.manager.objects obj).info = devInfo) →
      ∀ id ∈ s.attached, s.sys.manager.queryDevicesById id = [] → id = devInfo))
  | .onBundlesUpdated .. | .clearMatchedDrivers .. | .connectDevice ..
  | .connectDriverWithDeviceId .. | .disConnectDevice .. | .disConnectDriverWithDeviceId ..
  | .onConnect .. | .onDisconnect .. | .remoteDied .. | .removeDeviceOfDeviceMap .. => .isTrue trivial

variable {st : State}

theorem registerDevice_armedAlone_iff (r : Replies) (devInfo : DeviceId) (c : Bool) :
    ArmedAlone ((machine c).step st (.registerDevice r devInfo)) ↔
      Kept st (.registerDevice r devInfo) := by
  have hattached : ArmedAlone ((machine c).step st (.registerDevice r devInfo)) ↔
      armed (st.sys.manager.registerDevice r devInfo).2.out.log = false := by
    constructor
    · intro h
      apply Bool.eq_false_iff.mpr
      intro harmed
      exact h harmed devInfo (Finset.mem_insert_self devInfo st.attached)
    · intro hfalse harmed
      change armed (st.sys.manager.registerDevice r devInfo).2.out.log = true at harmed
      rw [hfalse] at harmed
      cases harmed
  rw [hattached]
  by_cases hfound : ∀ obj, st.sys.manager.deviceMap.lookup devInfo = some obj →
      (st.sys.manager.objects obj).drvExtRemote = none
  · apply iff_of_true (registerDevice_armed devInfo hfound)
    intro obj hid hremote
    rw [hfound obj hid] at hremote
    cases hremote
  · push Not at hfound
    obtain ⟨obj, hid, hremote⟩ := hfound
    have hsome := Option.isSome_iff_ne_none.mpr hremote
    rw [registerDevice_connected hid hsome]
    constructor
    · exact fun hfalse _ _ _ => hfalse
    · exact fun hkept => hkept obj hid hsome

theorem unRegisterDevice_armedAlone_iff (hwf : st.sys.WellFormed) (h : ArmedAlone st) (r : Replies)
    (devInfo : DeviceId) (c : Bool) :
    ArmedAlone ((machine c).step st (.unRegisterDevice r devInfo)) ↔
      Kept st (.unRegisterDevice r devInfo) := by
  cases hid : st.sys.manager.deviceMap.lookup devInfo with
  | none =>
    apply iff_of_true
    · intro harmed id hmem
      change armed (st.sys.manager.unRegisterDevice r devInfo).2.out.log = true at harmed
      rw [unRegisterDevice_absent r hid] at harmed
      exact h harmed id (Finset.mem_of_mem_erase hmem)
    · intro hmem
      rw [← AList.lookup_isSome, hid] at hmem
      cases hmem
  | some obj =>
    have hmem : devInfo ∈ st.sys.manager.deviceMap := by
      rw [← AList.lookup_isSome, hid]
      rfl
    have hreported : (∀ obj ∈ st.sys.manager.queryAllDevices,
        (st.sys.manager.objects obj).info = devInfo) ↔
        ∀ id, ¬IsVisible (st.sys.manager.detachDevice devInfo obj) id := by
      simp only [isVisible_detachDevice hwf hid, ← mem_queryAllDevices hwf]
      constructor
      · rintro hall id ⟨hne, o, ho, hinfo⟩
        exact hne (hinfo.symm.trans (hall o ho))
      · intro hall o ho
        by_contra hne
        exact hall _ ⟨hne, o, ho, rfl⟩
    have harmed := unRegisterDevice_armed (r := r) hid
    rw [← hreported] at harmed
    constructor
    · intro halone _ hsetup hlast id hattached _
      by_contra hne
      exact halone (harmed.mpr ⟨hlast, hsetup⟩) id (Finset.mem_erase.mpr ⟨hne, hattached⟩)
    · intro hkept htrue id hattached
      obtain ⟨hlast, hsetup⟩ := harmed.mp htrue
      obtain ⟨hne, hattached⟩ := Finset.mem_erase.mp hattached
      apply hne
      by_cases hquery : st.sys.manager.queryDevicesById id = []
      · exact hkept hmem hsetup hlast id hattached hquery
      · obtain ⟨o, ho, hinfo⟩ := (mem_queryAllDevices hwf).mpr (queryDevicesById_ne_nil.mp hquery)
        exact hinfo.symm.trans (hlast o ho)

theorem step_armedAlone_iff (hwf : st.sys.WellFormed) (h : ArmedAlone st) (a : Action) (c : Bool) :
    ArmedAlone ((machine c).step st a) ↔ Kept st a := by
  have hkeep {a : Action} (ha : a.KeepsMap) (hattached : attachedAfter st.attached a = st.attached) :
      ArmedAlone ((machine c).step st a) := by
    intro harmed id hmem
    change armed (st.sys.step a).manager.out.log = true at harmed
    rw [(step_keepsTimer ha).armed_eq] at harmed
    exact h harmed id (hattached ▸ hmem)
  cases a with
  | registerDevice r devInfo => exact registerDevice_armedAlone_iff r devInfo c
  | unRegisterDevice r devInfo => exact unRegisterDevice_armedAlone_iff hwf h r devInfo c
  | removeDeviceOfDeviceMap r obj =>
    apply iff_of_true _ trivial
    intro harmed id hmem
    have hkeeps : KeepsTimer st.sys.manager
        (st.sys.step (.removeDeviceOfDeviceMap r obj)).manager :=
      stopExtension_keepsTimer (m := st.sys.manager.removeDeviceOfDeviceMap obj)
    change armed (st.sys.step (.removeDeviceOfDeviceMap r obj)).manager.out.log = true at harmed
    rw [hkeeps.armed_eq] at harmed
    exact h harmed id hmem
  | onBundlesUpdated => exact iff_of_true (hkeep (a := .onBundlesUpdated ..) trivial rfl) trivial
  | clearMatchedDrivers =>
    exact iff_of_true (hkeep (a := .clearMatchedDrivers ..) trivial rfl) trivial
  | connectDevice => exact iff_of_true (hkeep (a := .connectDevice ..) trivial rfl) trivial
  | connectDriverWithDeviceId =>
    exact iff_of_true (hkeep (a := .connectDriverWithDeviceId ..) trivial rfl) trivial
  | disConnectDevice => exact iff_of_true (hkeep (a := .disConnectDevice ..) trivial rfl) trivial
  | disConnectDriverWithDeviceId =>
    exact iff_of_true (hkeep (a := .disConnectDriverWithDeviceId ..) trivial rfl) trivial
  | onConnect => exact iff_of_true (hkeep (a := .onConnect ..) trivial rfl) trivial
  | onDisconnect => exact iff_of_true (hkeep (a := .onDisconnect ..) trivial rfl) trivial
  | remoteDied => exact iff_of_true (hkeep (a := .remoteDied ..) trivial rfl) trivial

/-- The timer is armed only while no device is attached, throughout a run, exactly when no step of the
run finds a connected device while the timer is armed or leaves only devices that are not reported. -/
theorem armedAlone_iff_kept (driverChangeCallback : Bool) (as : List Action)
    (hrun : (machine driverChangeCallback).Runs as) :
    (machine driverChangeCallback).Throughout ArmedAlone (machine driverChangeCallback).init as ↔
      (machine driverChangeCallback).Along Kept (machine driverChangeCallback).init as :=
  Machine.throughout_iff_along (I := fun s => s.sys.WellFormed)
    (fun _ _ h ha => step_wellFormed h ha)
    (fun _ a hwf h _ => step_armedAlone_iff hwf h a driverChangeCallback)
    (init_wellFormed driverChangeCallback) (fun harmed => nomatch harmed) hrun

/-- A device comes back once its disconnect is through. -/
theorem armedAlone_of_timely_run :
    (machine true).Throughout ArmedAlone (machine true).init
      [.registerDevice replies 1, .onConnect 0 (some 7) 0, .unRegisterDevice replies 1,
        .onDisconnect replies 0 0, .removeDeviceOfDeviceMap replies 0,
        .registerDevice replies 1] :=
  (armedAlone_iff_kept true _ (by decide +kernel)).mpr (by decide +kernel)

/-- A connected device is detached, which arms the timer, and comes back before its disconnect is
through: `RegisterDevice` returns before it would disarm the timer. -/
theorem not_forall_armedAlone :
    ¬∀ driverChangeCallback as, (machine driverChangeCallback).Runs as →
      (machine driverChangeCallback).Throughout ArmedAlone
        (machine driverChangeCallback).init as := by
  intro h
  have hlast := (h true [.registerDevice replies 1, .onConnect 0 (some 7) 0,
    .unRegisterDevice replies 1, .registerDevice replies 1] (by decide)).last
  exact hlast (by decide) 1 (by decide)

end Unload
end ExtDevMgr.Manager
