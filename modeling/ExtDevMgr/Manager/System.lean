import ExtDevMgr.Base.Machine
import ExtDevMgr.Base.Table
import ExtDevMgr.Manager.Frames

/-!
# Runs of the device manager

An operation is one step. `RegisterDevice`, `UnRegisterDevice`, the binds and unbinds and
`ClearMatchedDrivers` hold `deviceMapMutex_` from beginning to end, so none of them comes between the
parts of another. A connect completion, the disconnect completion of a registered device and a death
hold only the `deviceMutex_` of their device, and `OnBundlesUpdated` takes `bundleMatchMapMutex_` for
`DeleteBundlesOfBundleInfoMap` and then `deviceMapMutex_` for `MatchDriverInfos`: no lock makes one step
of these, it is how finely the runs are divided here. The disconnect completion of an unregistered
device, which waits for `deviceMapMutex_` to leave the map, has two steps, with other operations between
them.

A completion may be delivered to every device ever made, however late.
-/

namespace ExtDevMgr.Manager
open ExtDeviceManager

structure System where
  manager : ExtDeviceManager := {}
  /-- The devices whose `OnDisconnect` waits to take them out of the map. -/
  pending : List Nat := []

inductive Action
  | registerDevice (r : Replies) (devInfo : DeviceId)
  | unRegisterDevice (r : Replies) (devInfo : DeviceId)
  | onBundlesUpdated (r : Replies) (bundleName : Name) (order : List DeviceId)
  | clearMatchedDrivers (r : Replies) (userId : Int) (order : List DeviceId)
  | connectDevice (r : Replies) (deviceId : DeviceId) (callingTokenId : UInt32)
      (connectCallback : Option DriverExtMgrCallback)
  | connectDriverWithDeviceId (r : Replies) (access : AccessReplies) (deviceId : DeviceId)
      (callingTokenId : UInt32) (accessibleAppIds : Finset Name)
      (connectCallback : Option DriverExtMgrCallback)
  | disConnectDevice (r : Replies) (deviceId : DeviceId) (callingTokenId : UInt32)
  | disConnectDriverWithDeviceId (r : Replies) (deviceId : DeviceId) (callingTokenId : UInt32)
  | onConnect (obj : Nat) (remote : Option Nat) (resultCode : Int)
  | onDisconnect (r : Replies) (obj : Nat) (resultCode : Int)
  | remoteDied (obj object : Nat)
  | removeDeviceOfDeviceMap (r : Replies) (obj : Nat)

/-- The operations other than attach, detach and the removal from the map. -/
def Action.KeepsMap : Action → Prop
  | .registerDevice .. | .unRegisterDevice .. | .removeDeviceOfDeviceMap .. => False
  | _ => True

namespace System

/-- `OnDisconnect` up to the lock of the device map, which only an unregistered device takes. -/
def onDisconnect (s : System) (r : Replies) (obj : Nat) (resultCode : Int) : System :=
  let m := s.manager.onDisconnect obj resultCode
  if (m.objects obj).isUnRegisted then
    { manager := m, pending := obj :: s.pending }
  else
    { s with manager := m.stopExtension r obj }

def step (s : System) : Action → System
  | .registerDevice r devInfo => { s with manager := (s.manager.registerDevice r devInfo).2 }
  | .unRegisterDevice r devInfo => { s with manager := (s.manager.unRegisterDevice r devInfo).2 }
  | .onBundlesUpdated r bundleName order =>
    { s with manager := s.manager.onBundlesUpdated r bundleName order }
  | .clearMatchedDrivers r userId order =>
    { s with manager := s.manager.clearMatchedDrivers r userId order }
  | .connectDevice r deviceId token callback =>
    { s with manager := (s.manager.connectDevice r deviceId token callback).2 }
  | .connectDriverWithDeviceId r access deviceId token appIds callback =>
    { s with manager :=
        (s.manager.connectDriverWithDeviceId r access deviceId token appIds callback).2 }
  | .disConnectDevice r deviceId token =>
    { s with manager := (s.manager.disConnectDevice r deviceId token).2 }
  | .disConnectDriverWithDeviceId r deviceId token =>
    { s with manager := (s.manager.disConnectDriverWithDeviceId r deviceId token).2 }
  | .onConnect obj remote resultCode =>
    { s with manager := s.manager.onConnect obj remote resultCode }
  | .onDisconnect r obj resultCode => s.onDisconnect r obj resultCode
  | .remoteDied obj object => { s with manager := s.manager.remoteDied obj object }
  | .removeDeviceOfDeviceMap r obj =>
    { manager := (s.manager.removeDeviceOfDeviceMap obj).stopExtension r obj
      pending := s.pending.erase obj }

/-- The loops over the devices visit each of them once, in any order. -/
def Enabled (s : System) : Action → Prop
  | .onBundlesUpdated _ _ order => order.Perm s.manager.deviceMap.keys
  | .clearMatchedDrivers _ _ order => order.Perm s.manager.deviceMap.keys
  | .onConnect obj _ _ => obj < s.manager.nextObject
  | .onDisconnect _ obj _ => obj < s.manager.nextObject
  | .remoteDied obj _ => obj < s.manager.nextObject
  | .removeDeviceOfDeviceMap _ obj => obj ∈ s.pending
  | _ => True

instance (s : System) : DecidablePred s.Enabled := fun a => by
  cases a <;> unfold Enabled <;> infer_instance

/-- `driverChangeCallback` tells whether a listener for driver changes has been set. -/
def machine (driverChangeCallback : Bool) : Machine System Action where
  init := { manager := { driverChangeCallback } }
  enabled := Enabled
  step := step

instance (driverChangeCallback : Bool) (s : System) :
    DecidablePred ((machine driverChangeCallback).enabled s) :=
  inferInstanceAs (DecidablePred s.Enabled)

/-! ## The map and the heap -/

/-- The map holds devices that have been made, under their own ids, and a device that waits to
leave it is flagged. -/
structure WellFormed (s : System) : Prop where
  allocated : ∀ {id obj}, s.manager.deviceMap.lookup id = some obj → obj < s.manager.nextObject
  info : ∀ {id obj}, s.manager.deviceMap.lookup id = some obj → (s.manager.objects obj).info = id
  pending_lt : ∀ {obj}, obj ∈ s.pending → obj < s.manager.nextObject
  flagged : ∀ {obj}, obj ∈ s.pending → (s.manager.objects obj).isUnRegisted = true

variable {s : System}

/-- Different ids have different devices. -/
theorem WellFormed.id_eq (h : s.WellFormed) {id id' : DeviceId} {obj : Nat}
    (hid : s.manager.deviceMap.lookup id = some obj)
    (hid' : s.manager.deviceMap.lookup id' = some obj) : id = id' :=
  (h.info hid).symm.trans (h.info hid')

theorem WellFormed.of_sameDevices (h : s.WellFormed) {m : ExtDeviceManager}
    (hm : SameDevices s.manager m) : WellFormed { s with manager := m } where
  allocated hid := by
    rw [hm.deviceMap] at hid
    exact hm.nextObject ▸ h.allocated hid
  info hid := by
    rw [hm.deviceMap] at hid
    exact (hm.info _).trans (h.info hid)
  pending_lt hobj := hm.nextObject ▸ h.pending_lt hobj
  flagged hobj := (hm.isUnRegisted _).trans (h.flagged hobj)

theorem WellFormed.makeDevice (h : s.WellFormed) (devInfo : DeviceId) :
    WellFormed { s with manager := s.manager.makeDevice devInfo } := by
  have hlookup {id : DeviceId} {obj : Nat}
      (hid : (s.manager.makeDevice devInfo).deviceMap.lookup id = some obj) :
      (id = devInfo ∧ obj = s.manager.nextObject) ∨
        s.manager.deviceMap.lookup id = some obj := by
    by_cases hne : id = devInfo
    · subst hne
      rw [lookup_makeDevice_self] at hid
      exact .inl ⟨rfl, (Option.some.inj hid).symm⟩
    · exact .inr ((lookup_makeDevice hne).symm.trans hid)
  refine ⟨fun hid => ?_, fun hid => ?_, fun hobj => ?_, fun hobj => ?_⟩
  · rcases hlookup hid with ⟨-, rfl⟩ | hid
    · exact Nat.lt_succ_self _
    · exact Nat.lt_succ_of_lt (h.allocated hid)
  · rcases hlookup hid with ⟨rfl, rfl⟩ | hid
    · exact congrArg Device.info makeDevice_self
    · exact (congrArg Device.info (makeDevice_of_lt (h.allocated hid))).trans (h.info hid)
  · exact Nat.lt_succ_of_lt (h.pending_lt hobj)
  · exact (congrArg Device.isUnRegisted (makeDevice_of_lt (h.pending_lt hobj))).trans
      (h.flagged hobj)

theorem lookup_of_erase {m : ExtDeviceManager} {id id' : DeviceId} {obj : Nat}
    (h : (m.deviceMap.erase id').lookup id = some obj) :
    id ≠ id' ∧ m.deviceMap.lookup id = some obj := Table.lookup_erase_eq_some.mp h

theorem WellFormed.erase (h : s.WellFormed) (id : DeviceId) :
    WellFormed { s with
      manager := { s.manager with deviceMap := s.manager.deviceMap.erase id } } :=
  ⟨fun hid => h.allocated (lookup_of_erase hid).2, fun hid => h.info (lookup_of_erase hid).2,
    h.pending_lt, h.flagged⟩

theorem WellFormed.unRegist (h : s.WellFormed) (obj : Nat) :
    WellFormed { s with
      manager := s.manager.setDevice obj (s.manager.objects obj).unRegist } := by
  have hinfo (o : Nat) : ((s.manager.setDevice obj (s.manager.objects obj).unRegist).objects o).info =
      (s.manager.objects o).info := by
    apply setDevice_field Device.info
    rfl
  refine ⟨h.allocated, fun hid => (hinfo _).trans (h.info hid), h.pending_lt, fun {o} ho => ?_⟩
  by_cases heq : o = obj
  · rw [heq]
    exact congrArg Device.isUnRegisted (setDevice_self _)
  · exact (congrArg Device.isUnRegisted (setDevice_ne _ heq)).trans (h.flagged ho)

theorem WellFormed.detachDevice (h : s.WellFormed) (devInfo : DeviceId) (obj : Nat) :
    WellFormed { s with manager := s.manager.detachDevice devInfo obj } := by
  unfold ExtDeviceManager.detachDevice
  split
  case isTrue => exact h.unRegist obj
  case isFalse => exact h.erase devInfo

/-! ## What the operations do to the map -/

theorem registerDevice_found {m : ExtDeviceManager} (r : Replies) {devInfo : DeviceId} {obj : Nat}
    (h : m.deviceMap.lookup devInfo = some obj) :
    SameDevices m (m.registerDevice r devInfo).2 := by
  simp only [registerDevice, h]
  split
  case isTrue => exact .refl m
  case isFalse => exact startDevice_touches.sameDevices

theorem registerDevice_new {m : ExtDeviceManager} (r : Replies) {devInfo : DeviceId}
    (h : m.deviceMap.lookup devInfo = none) :
    SameDevices (m.makeDevice devInfo) (m.registerDevice r devInfo).2 := by
  simp only [registerDevice, h]
  exact startDevice_touches.sameDevices

theorem unRegisterDevice_found {m : ExtDeviceManager} (r : Replies) {devInfo : DeviceId}
    {obj : Nat} (h : m.deviceMap.lookup devInfo = some obj) :
    SameDevices (m.detachDevice devInfo obj) (m.unRegisterDevice r devInfo).2 := by
  have hunload : Touches obj (m.detachDevice devInfo obj)
      ((m.detachDevice devInfo obj).unLoadSelf r) := unLoadSelf_keepsDriver.toTouches
  simp only [unRegisterDevice, h]
  split
  case isTrue => exact hunload.sameDevices
  case isFalse => exact (hunload.trans (removeDevIdOfBundleInfoMap_touches _)).sameDevices

theorem unRegisterDevice_absent {m : ExtDeviceManager} (r : Replies) {devInfo : DeviceId}
    (h : m.deviceMap.lookup devInfo = none) : (m.unRegisterDevice r devInfo).2 = m := by
  simp only [unRegisterDevice, h]

theorem step_sameDevices {a : Action} (ha : a.KeepsMap) :
    SameDevices s.manager (s.step a).manager := by
  cases a with
  | registerDevice => exact ha.elim
  | unRegisterDevice => exact ha.elim
  | removeDeviceOfDeviceMap => exact ha.elim
  | onBundlesUpdated r bundleName order => exact onBundlesUpdated_sameDevices bundleName order
  | clearMatchedDrivers r userId order => exact clearMatchedDrivers_sameDevices userId order
  | connectDevice r id token cb => exact (connectDevice_atMostConnects id token cb).sameDevices
  | connectDriverWithDeviceId r access id token ids cb =>
    exact (connectDriverWithDeviceId_atMostConnects access id token ids cb).sameDevices
  | disConnectDevice r id token => exact (disConnectDevice_atMostConnects id token).sameDevices
  | disConnectDriverWithDeviceId r id token =>
    exact (disConnectDriverWithDeviceId_atMostConnects id token).sameDevices
  | onConnect obj remote code => exact (onConnect_keepsDriver remote code).sameDevices
  | remoteDied obj object => exact (remoteDied_keepsDriver object).sameDevices
  | onDisconnect r obj code =>
    have hdisc : SameDevices s.manager (s.manager.onDisconnect obj code) :=
      (onDisconnect_keepsDriver code).sameDevices
    simp only [step, onDisconnect]
    split
    case isTrue => exact hdisc
    case isFalse =>
      exact hdisc.trans ⟨rfl, rfl, rfl, fun _ => rfl, fun _ => rfl⟩

theorem step_wellFormed (h : s.WellFormed) {a : Action} (ha : s.Enabled a) :
    (s.step a).WellFormed := by
  cases a with
  | registerDevice r devInfo =>
    cases hid : s.manager.deviceMap.lookup devInfo with
    | none => exact (h.makeDevice devInfo).of_sameDevices (registerDevice_new r hid)
    | some obj => exact h.of_sameDevices (registerDevice_found r hid)
  | unRegisterDevice r devInfo =>
    cases hid : s.manager.deviceMap.lookup devInfo with
    | none =>
      simp only [step, unRegisterDevice_absent r hid]
      exact h
    | some obj => exact (h.detachDevice devInfo obj).of_sameDevices (unRegisterDevice_found r hid)
  | removeDeviceOfDeviceMap r obj =>
    have herase := h.erase (s.manager.objects obj).info
    exact ⟨herase.allocated, herase.info, fun ho => h.pending_lt (List.mem_of_mem_erase ho),
      fun ho => h.flagged (List.mem_of_mem_erase ho)⟩
  | onDisconnect r obj code =>
    have hsame : SameDevices s.manager (s.step (.onDisconnect r obj code)).manager :=
      step_sameDevices trivial
    have hkeep := h.of_sameDevices hsame
    have hpend {o : Nat} (ho : o ∈ (s.step (.onDisconnect r obj code)).pending) :
        o ∈ s.pending ∨
          (obj = o ∧ ((s.manager.onDisconnect obj code).objects obj).isUnRegisted = true) := by
      simp only [step, onDisconnect] at ho
      split at ho
      case isTrue hflag =>
        rcases List.mem_cons.1 ho with ho | ho
        · exact .inr ⟨ho.symm, hflag⟩
        · exact .inl ho
      case isFalse => exact .inl ho
    refine ⟨hkeep.allocated, hkeep.info, fun ho => ?_, fun ho => ?_⟩
    · rcases hpend ho with ho | ⟨rfl, -⟩
      · exact hkeep.pending_lt ho
      · exact hsame.nextObject ▸ ha
    · rcases hpend ho with ho | ⟨rfl, hflag⟩
      · exact hkeep.flagged ho
      · have hdisc : KeepsDriver obj s.manager (s.manager.onDisconnect obj code) :=
          onDisconnect_keepsDriver code
        exact (hsame.isUnRegisted obj).trans (hdisc.isUnRegisted.symm.trans hflag)
  | onBundlesUpdated => exact h.of_sameDevices (step_sameDevices (a := .onBundlesUpdated ..) trivial)
  | clearMatchedDrivers =>
    exact h.of_sameDevices (step_sameDevices (a := .clearMatchedDrivers ..) trivial)
  | connectDevice => exact h.of_sameDevices (step_sameDevices (a := .connectDevice ..) trivial)
  | connectDriverWithDeviceId =>
    exact h.of_sameDevices (step_sameDevices (a := .connectDriverWithDeviceId ..) trivial)
  | disConnectDevice =>
    exact h.of_sameDevices (step_sameDevices (a := .disConnectDevice ..) trivial)
  | disConnectDriverWithDeviceId =>
    exact h.of_sameDevices (step_sameDevices (a := .disConnectDriverWithDeviceId ..) trivial)
  | onConnect => exact h.of_sameDevices (step_sameDevices (a := .onConnect ..) trivial)
  | remoteDied => exact h.of_sameDevices (step_sameDevices (a := .remoteDied ..) trivial)

theorem init_wellFormed (driverChangeCallback : Bool) :
    (machine driverChangeCallback).init.WellFormed where
  allocated h := by simp [machine] at h
  info h := by simp [machine] at h
  pending_lt h := by simp [machine] at h
  flagged h := by simp [machine] at h

/-- A driver that is connected when its device comes, and an ability manager that accepts. -/
def replies : Replies where
  device _ := ⟨fun _ => some 0, some 0, some 0, true⟩
  queryMatchDriver _ := some { bundleName := ['b'], driverName := ['d'], driverUid := ['u'] }
  timerSetup := 0
  timerRegister := 1

end System
end ExtDevMgr.Manager
