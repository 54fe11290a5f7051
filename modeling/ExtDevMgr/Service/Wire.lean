import ExtDevMgr.Base.History
import ExtDevMgr.Service.DeviceQueries
import ExtDevMgr.Usb.Added

/-!
# From the bytes of a device to the clients

The USB host announces devices to `UsbDevSubscriber::DeviceEvent`, which reads their descriptors and
registers them; the queries tell of the registered ones. Every device that is told of is one whose
descriptors have been read since its address went down last, with what the bytes say (`told_read`).
-/

namespace ExtDevMgr.Service
open Manager Manager.ExtDeviceManager Manager.System Manager.Cleanup Manager.ExtPermissionManager
open Ipc (busTypeUsb)

/-- `GetDeviceId` of the record. -/
def getDeviceId (usbDevInfo : Usb.UsbDeviceInfo) : DeviceId :=
  (DeviceInfo.new usbDevInfo.busDeviceId busTypeUsb usbDevInfo.description).getDeviceId

/-- The device manager and the record `info_` of each of its device objects. -/
structure Host where
  system : System
  info : Nat → Usb.UsbDeviceInfo

inductive Status
  | actDevup
  | actDevdown
  | other

namespace Host

inductive Action
  /-- `DeviceEvent` for the device at `usbDev`, with the replies to the attach and the fuel of it. -/
  | deviceEvent (status : Status) (usbDev : UsbDev) (fuel : Nat) (r : Usb.AttachReplies)
      (replies : Replies)
  /-- Anything else that happens to the device manager. -/
  | manage (a : Manager.Action)

/-- `DevChangeCallback::OnDeviceAdd`: a device that is found in the map keeps its record. -/
def onDeviceAdd (replies : Replies) (usbDevInfo : Usb.UsbDeviceInfo) (h : Host) : Host where
  system := h.system.step (.registerDevice replies (getDeviceId usbDevInfo))
  info := match h.system.manager.deviceMap.lookup (getDeviceId usbDevInfo) with
    | some _ => h.info
    | none => Function.update h.info h.system.manager.nextObject usbDevInfo

/-- `DevChangeCallback::OnDeviceRemove`. -/
def onDeviceRemove (replies : Replies) (deviceId : DeviceId) (h : Host) : Host :=
  { h with system := h.system.step (.unRegisterDevice replies deviceId) }

section
variable (err : EdmErrors) (s : Usb.UsbDevSubscriber)

/-- `UsbDevSubscriber::DeviceEvent`. -/
def deviceEvent (status : Status) (usbDev : UsbDev) (fuel : Nat) (r : Usb.AttachReplies)
    (replies : Replies) (h : Host) : Host :=
  match status with
  | .actDevup =>
    match Usb.added (Usb.onDeviceConnect fuel err s usbDev r) with
    | some usbDevInfo => h.onDeviceAdd replies usbDevInfo
    | none => h
  | .actDevdown => if s.callback then h.onDeviceRemove replies (toExtDevId usbDev) else h
  | .other => h

def step (h : Host) : Action → Host
  | .deviceEvent status usbDev fuel r replies => h.deviceEvent err s status usbDev fuel r replies
  | .manage a => { h with system := h.system.step a }

/-- Devices come and go by the events of the USB host only. -/
def Enabled (h : Host) : Action → Prop
  | .deviceEvent .. => True
  | .manage (.registerDevice ..) | .manage (.unRegisterDevice ..) => False
  | .manage a => h.system.Enabled a

/-- No device has been made, so `blank` is the record of none. -/
def machine (blank : Usb.UsbDeviceInfo) (driverChangeCallback : Bool) : Machine Host Action where
  init := { system := (System.machine driverChangeCallback).init, info := fun _ => blank }
  enabled := Enabled
  step := step err s

/-- What an action is to the device manager. -/
def toManager : Action → Option Manager.Action
  | .deviceEvent .actDevup usbDev fuel r replies =>
    (Usb.added (Usb.onDeviceConnect fuel err s usbDev r)).map fun usbDevInfo =>
      .registerDevice replies (getDeviceId usbDevInfo)
  | .deviceEvent .actDevdown usbDev _ _ replies =>
    if s.callback then some (.unRegisterDevice replies (toExtDevId usbDev)) else none
  | .deviceEvent .other _ _ _ _ => none
  | .manage a => some a

end

/-- The records of the devices in the map. -/
def records (utf8 : Name → Ipc.Str) (h : Host) : DeviceRecords where
  info id := h.info ((h.system.manager.deviceMap.lookup id).getD h.system.manager.nextObject)
  utf8

/-! ## The bytes -/

/-- The first interface descriptor of each number, as clients get to know it. -/
def wireInterfaces (configBuffer : List UInt8) : List Ipc.USBInterfaceDesc :=
  (Usb.interfaceNumbers (Records.records configBuffer)).map fun x =>
    let r := ((Records.records configBuffer).find? (Usb.isInterface x)).getD []
    { bInterfaceNumber := Usb.byteAt r 2
      bClass := Usb.byteAt r 5
      bSubClass := Usb.byteAt r 6
      bProtocol := Usb.byteAt r 7 }

/-- `d` says what the bytes of the replies say: the ids of the device descriptor and the interfaces of
the configuration. -/
structure SaysOf (r : Usb.AttachReplies) (d : Ipc.USBDeviceInfoData) : Prop where
  vendorId : d.vendorId = UInt16.ofNat (Bytes.ofLe
    [r.getDeviceDescriptor.descData.getD 8 0, r.getDeviceDescriptor.descData.getD 9 0])
  productId : d.productId = UInt16.ofNat (Bytes.ofLe
    [r.getDeviceDescriptor.descData.getD 10 0, r.getDeviceDescriptor.descData.getD 11 0])
  interfaceDescList : d.interfaceDescList = (wireInterfaces r.getConfigDescriptor.descriptor).map some

/-- The action is the attach of a device that is announced, and `d` says what it says. -/
def Reads (s : Usb.UsbDevSubscriber) (d : Ipc.USBDeviceInfoData) (a : Action) : Prop :=
  ∃ usbDev fuel r replies, a = .deviceEvent .actDevup usbDev fuel r replies ∧
    toExtDevId usbDev = d.deviceId ∧ Usb.Announces s usbDev r ∧ SaysOf r d

/-- The action is an attach with id `id` that adds `usbDevInfo`. -/
def Adds (err : EdmErrors) (s : Usb.UsbDevSubscriber) (id : DeviceId)
    (usbDevInfo : Usb.UsbDeviceInfo) (a : Action) : Prop :=
  ∃ usbDev fuel r replies, a = .deviceEvent .actDevup usbDev fuel r replies ∧
    toExtDevId usbDev = id ∧
    Usb.added (Usb.onDeviceConnect fuel err s usbDev r) = some usbDevInfo

/-- The address with id `id` goes down. -/
def Downs (id : DeviceId) (a : Action) : Prop :=
  ∃ usbDev fuel r replies, a = .deviceEvent .actDevdown usbDev fuel r replies ∧ toExtDevId usbDev = id

/-- The step comes in time to the device manager. -/
def Timely (err : EdmErrors) (s : Usb.UsbDevSubscriber) (h : Host) (a : Action) : Prop :=
  ∀ b, toManager err s a = some b → Visible.Timely ⟨h.system, ∅⟩ b

/-- The attaches of the run have replies of a device's lengths. -/
def Regular (as : List Action) : Prop :=
  ∀ status usbDev fuel r replies, .deviceEvent status usbDev fuel r replies ∈ as → r.Regular

/-! ## Runs of the device manager -/

section
variable {err : EdmErrors} {s : Usb.UsbDevSubscriber} {blank : Usb.UsbDeviceInfo}
  {driverChangeCallback : Bool} {h : Host} {id : DeviceId} {obj : Nat} {as : List Action}

theorem getDeviceId_of_added {fuel : Nat} {usbDev : UsbDev} {r : Usb.AttachReplies}
    {usbDevInfo : Usb.UsbDeviceInfo}
    (hadded : Usb.added (Usb.onDeviceConnect fuel err s usbDev r) = some usbDevInfo) :
    getDeviceId usbDevInfo = toExtDevId usbDev := by
  rw [getDeviceId, (Usb.busDeviceId_of_added hadded).2]
  rfl

theorem simulates : (machine err s blank driverChangeCallback).Simulates
    (System.machine driverChangeCallback) Host.system (toManager err s) where
  init := rfl
  enabled h a b ha hb := by
    cases a with
    | deviceEvent status usbDev fuel r replies =>
      cases status with
      | actDevup =>
        obtain ⟨usbDevInfo, -, rfl⟩ := Option.map_eq_some_iff.1 hb
        trivial
      | actDevdown =>
        obtain ⟨-, heq⟩ := Option.ite_none_right_eq_some.1 hb
        cases heq
        trivial
      | other => cases hb
    | manage a =>
      obtain rfl : a = b := Option.some.inj hb
      cases a with
      | registerDevice => exact ha.elim
      | unRegisterDevice => exact ha.elim
      | _ => exact ha
  step h a b hb := by
    cases a with
    | deviceEvent status usbDev fuel r replies =>
      cases status with
      | actDevup =>
        obtain ⟨usbDevInfo, hadded, rfl⟩ := Option.map_eq_some_iff.1 hb
        simp only [machine, step, deviceEvent, hadded]
        rfl
      | actDevdown =>
        obtain ⟨hcallback, heq⟩ := Option.ite_none_right_eq_some.1 hb
        cases heq
        simp only [machine, step, deviceEvent, hcallback, if_true]
        rfl
      | other => cases hb
    | manage a =>
      cases hb
      rfl
  stutter h a hb := by
    cases a with
    | deviceEvent status usbDev fuel r replies =>
      cases status with
      | actDevup =>
        simp only [machine, step, deviceEvent, Option.map_eq_none_iff.1 hb]
      | actDevdown =>
        simp only [machine, step, deviceEvent]
        split
        case isTrue hcallback =>
          rw [toManager, if_pos hcallback] at hb
          cases hb
        case isFalse => rfl
      | other => rfl
    | manage a => cases hb

theorem run_wellFormed (hrun : (machine err s blank driverChangeCallback).Runs as) :
    ((machine err s blank driverChangeCallback).run
      (machine err s blank driverChangeCallback).init as).system.WellFormed := by
  refine (Machine.throughout_of_along (I := fun h : Host => h.system.WellFormed)
    (fun h a hwell ha => ?_) (init_wellFormed driverChangeCallback) hrun).last
  cases hb : toManager err s a with
  | none => exact (simulates.stutter h a hb).symm ▸ hwell
  | some b =>
    have hstep := step_wellFormed hwell (simulates.enabled h a b ha hb)
    exact (simulates.step h a b hb).symm ▸ hstep

/-! ## What a step registers -/

/-- Every device that can be seen has been added since its address went down last, with the record that
it has. -/
def Grounded (err : EdmErrors) (s : Usb.UsbDevSubscriber) (blank : Usb.UsbDeviceInfo)
    (driverChangeCallback : Bool) (as : List Action) : Prop :=
  ∀ id obj, Registered ((machine err s blank driverChangeCallback).run
      (machine err s blank driverChangeCallback).init as).system.manager id obj →
    (machine err s blank driverChangeCallback).Since (fun _ a => Adds err s id
      (((machine err s blank driverChangeCallback).run
        (machine err s blank driverChangeCallback).init as).info obj) a) (Downs id) as

theorem registered_of_sameDevices {m m' : ExtDeviceManager} (hsame : SameDevices m m')
    (hreg : Registered m' id obj) : Registered m id obj := by
  obtain ⟨hlookup, hflag⟩ := hreg
  rw [hsame.deviceMap] at hlookup
  rw [hsame.isUnRegisted] at hflag
  exact ⟨hlookup, hflag⟩

theorem registered_of_manage {a : Manager.Action} (ha : h.Enabled (.manage a))
    (hreg : Registered (h.system.step a).manager id obj) : Registered h.system.manager id obj := by
  by_cases hkeep : a.KeepsMap
  · exact registered_of_sameDevices (step_sameDevices hkeep) hreg
  · cases a with
    | registerDevice => exact ha.elim
    | unRegisterDevice => exact ha.elim
    | removeDeviceOfDeviceMap r o => exact ⟨(lookup_of_erase hreg.1).2, hreg.2⟩
    | _ => exact absurd trivial hkeep

/-- Of a device that is attached the entry is the one that it had, with its record, or a new one with
the record that is added. -/
theorem registered_onDeviceAdd (hwell : h.system.WellFormed) {replies : Replies}
    {usbDevInfo : Usb.UsbDeviceInfo}
    (hreg : Registered (h.onDeviceAdd replies usbDevInfo).system.manager id obj) :
    (Registered h.system.manager id obj ∧ (h.onDeviceAdd replies usbDevInfo).info obj = h.info obj) ∨
      (id = getDeviceId usbDevInfo ∧ (h.onDeviceAdd replies usbDevInfo).info obj = usbDevInfo) := by
  unfold onDeviceAdd at hreg ⊢
  cases hid : h.system.manager.deviceMap.lookup (getDeviceId usbDevInfo) with
  | some o => exact .inl ⟨registered_of_sameDevices (registerDevice_found replies hid) hreg, rfl⟩
  | none =>
    have hmade := registered_of_sameDevices (registerDevice_new replies hid) hreg
    by_cases hne : id = getDeviceId usbDevInfo
    · have hobj := hmade.1
      rw [hne, lookup_makeDevice_self] at hobj
      cases hobj
      exact .inr ⟨hne, Function.update_self ..⟩
    · have hlookup := (lookup_makeDevice hne).symm.trans hmade.1
      have hlt := hwell.allocated hlookup
      have hflag := hmade.2
      rw [makeDevice_of_lt hlt] at hflag
      exact .inl ⟨⟨hlookup, hflag⟩, Function.update_of_ne (Nat.ne_of_lt hlt) ..⟩

theorem registered_onDeviceRemove (hwell : h.system.WellFormed) {replies : Replies}
    {deviceId : DeviceId}
    (hreg : Registered (h.onDeviceRemove replies deviceId).system.manager id obj) :
    id ≠ deviceId ∧ Registered h.system.manager id obj := by
  cases hid : h.system.manager.deviceMap.lookup deviceId with
  | none =>
    have heq : (h.onDeviceRemove replies deviceId).system.manager = h.system.manager :=
      unRegisterDevice_absent replies hid
    rw [heq] at hreg
    refine ⟨?_, hreg⟩
    rintro rfl
    cases hid.symm.trans hreg.1
  | some o =>
    have hdetached := registered_of_sameDevices (unRegisterDevice_found replies hid) hreg
    obtain ⟨hne, o', hlookup, hflag⟩ := (Visible.isVisible_detachDevice hwell hid).1 ⟨obj, hdetached⟩
    have hobj : o' = obj := by
      have hlookup' := hdetached.1
      unfold detachDevice at hlookup'
      split at hlookup'
      · exact Option.some.inj (hlookup.symm.trans hlookup')
      · exact Option.some.inj (hlookup.symm.trans (lookup_of_erase hlookup').2)
    exact ⟨hne, hobj ▸ ⟨hlookup, hflag⟩⟩

theorem Adds.callback {usbDevInfo : Usb.UsbDeviceInfo} {a : Action} (ha : Adds err s id usbDevInfo a) :
    s.callback = true := by
  obtain ⟨_, _, _, _, -, -, hadded⟩ := ha
  exact (Usb.busDeviceId_of_added hadded).1

/-- A device that is seen behind a step has been seen before, with its record, and has not gone down,
or the step adds it. -/
theorem registered_step (hwell : h.system.WellFormed) {a : Action} (ha : h.Enabled a)
    (hreg : Registered (h.step err s a).system.manager id obj) :
    (Registered h.system.manager id obj ∧ (h.step err s a).info obj = h.info obj ∧
        (Downs id a → s.callback = false)) ∨
      Adds err s id ((h.step err s a).info obj) a := by
  cases a with
  | manage a =>
    refine .inl ⟨registered_of_manage ha hreg, rfl, ?_⟩
    rintro ⟨_, _, _, _, heq, -⟩
    cases heq
  | deviceEvent status usbDev fuel r replies =>
    cases status with
    | other =>
      refine .inl ⟨hreg, rfl, ?_⟩
      rintro ⟨_, _, _, _, heq, -⟩
      cases heq
    | actDevup =>
      simp only [step, deviceEvent] at hreg ⊢
      cases hadded : Usb.added (Usb.onDeviceConnect fuel err s usbDev r) with
      | none =>
        rw [hadded] at hreg
        refine .inl ⟨hreg, rfl, ?_⟩
        rintro ⟨_, _, _, _, heq, -⟩
        cases heq
      | some usbDevInfo =>
        rw [hadded] at hreg
        rcases registered_onDeviceAdd hwell hreg with ⟨hold, hinfo⟩ | ⟨rfl, hinfo⟩
        · refine .inl ⟨hold, hinfo, ?_⟩
          rintro ⟨_, _, _, _, heq, -⟩
          cases heq
        · refine .inr ⟨usbDev, fuel, r, replies, rfl, (getDeviceId_of_added hadded).symm, ?_⟩
          exact hinfo.symm ▸ hadded
    | actDevdown =>
      simp only [step, deviceEvent] at hreg ⊢
      cases hcallback : s.callback with
      | false =>
        rw [hcallback, if_neg Bool.false_ne_true] at hreg
        exact .inl ⟨hreg, rfl, fun _ => rfl⟩
      | true =>
        rw [hcallback, if_pos rfl] at hreg
        obtain ⟨hne, hold⟩ := registered_onDeviceRemove hwell hreg
        refine .inl ⟨hold, rfl, ?_⟩
        rintro ⟨_, _, _, _, heq, hid⟩
        cases heq
        exact absurd hid.symm hne

theorem grounded_of_runs (hrun : (machine err s blank driverChangeCallback).Runs as) :
    Grounded err s blank driverChangeCallback as := by
  refine Machine.run_induction ?_ (fun as a has ih ha id obj hreg => ?_) hrun
  · intro id obj hreg
    exact absurd hreg.1 (by simp [machine, System.machine, Machine.run])
  · rw [Machine.run_append] at hreg ⊢
    rw [Machine.since_concat]
    rcases registered_step (run_wellFormed has) ha hreg with ⟨hold, hinfo, hdown⟩ | hadds
    · have hsince := ih id obj hold
      refine .inr ⟨hinfo ▸ hsince, fun hdowns => ?_⟩
      obtain ⟨_, _, _, -, hadds, -⟩ := hsince
      exact Bool.false_ne_true ((hdown hdowns).symm.trans hadds.callback)
    · exact .inl hadds

/-! ## Runs in which every step comes in time -/

theorem not_adds_manage {usbDevInfo : Usb.UsbDeviceInfo} {a : Manager.Action} :
    ¬ Adds err s id usbDevInfo (.manage a) := by
  rintro ⟨_, _, _, _, heq, -⟩
  cases heq

theorem not_downs_manage {a : Manager.Action} : ¬ Downs id (.manage a) := by
  rintro ⟨_, _, _, _, heq, -⟩
  cases heq

theorem isVisible_manage {a : Manager.Action} (ha : h.Enabled (.manage a))
    (ht : Timely err s h (.manage a)) :
    Visible.IsVisible (h.system.step a).manager id ↔ Visible.IsVisible h.system.manager id := by
  by_cases hkeep : a.KeepsMap
  · exact Visible.isVisible_of_sameDevices (step_sameDevices hkeep)
  · cases a with
    | registerDevice => exact ha.elim
    | unRegisterDevice => exact ha.elim
    | removeDeviceOfDeviceMap r o =>
      refine Visible.isVisible_erase.trans (and_iff_right_of_imp ?_)
      rintro ⟨o', hlookup, hflag⟩ rfl
      exact Bool.false_ne_true (hflag.symm.trans (ht _ rfl o' hlookup))
    | _ => exact absurd trivial hkeep

theorem isVisible_onDeviceAdd (hwell : h.system.WellFormed) {replies : Replies}
    {usbDevInfo : Usb.UsbDeviceInfo}
    (ht : ∀ o, h.system.manager.deviceMap.lookup (getDeviceId usbDevInfo) = some o →
      (h.system.manager.objects o).isUnRegisted = false) :
    Visible.IsVisible (h.onDeviceAdd replies usbDevInfo).system.manager id ↔
      id = getDeviceId usbDevInfo ∨ Visible.IsVisible h.system.manager id := by
  cases hid : h.system.manager.deviceMap.lookup (getDeviceId usbDevInfo) with
  | some o =>
    refine (Visible.isVisible_of_sameDevices (registerDevice_found replies hid)).trans ?_
    refine (or_iff_right_of_imp ?_).symm
    rintro rfl
    exact ⟨o, hid, ht o hid⟩
  | none =>
    exact (Visible.isVisible_of_sameDevices (registerDevice_new replies hid)).trans
      (Visible.isVisible_makeDevice hwell)

theorem isVisible_onDeviceRemove (hwell : h.system.WellFormed) {replies : Replies}
    {deviceId : DeviceId} :
    Visible.IsVisible (h.onDeviceRemove replies deviceId).system.manager id ↔
      id ≠ deviceId ∧ Visible.IsVisible h.system.manager id := by
  cases hid : h.system.manager.deviceMap.lookup deviceId with
  | some o =>
    exact (Visible.isVisible_of_sameDevices (unRegisterDevice_found replies hid)).trans
      (Visible.isVisible_detachDevice hwell hid)
  | none =>
    have heq : (h.onDeviceRemove replies deviceId).system.manager = h.system.manager :=
      unRegisterDevice_absent replies hid
    rw [heq]
    refine (and_iff_right_of_imp ?_).symm
    rintro hvisible rfl
    exact Visible.not_isVisible_absent hid hvisible

/-- Behind a step that comes in time a device is seen when the step adds it, or it was seen before and
does not go down. -/
theorem isVisible_step (hwell : h.system.WellFormed) {a : Action} (ha : h.Enabled a)
    (ht : Timely err s h a) (hcallback : Visible.IsVisible h.system.manager id → s.callback = true) :
    Visible.IsVisible (h.step err s a).system.manager id ↔
      (∃ usbDevInfo, Adds err s id usbDevInfo a) ∨
        Visible.IsVisible h.system.manager id ∧ ¬ Downs id a := by
  cases a with
  | manage a =>
    simp only [not_adds_manage, not_downs_manage, exists_false, false_or, not_false_eq_true, and_true]
    exact isVisible_manage ha ht
  | deviceEvent status usbDev fuel r replies =>
    cases status with
    | other =>
      have hadds : ¬ ∃ usbDevInfo, Adds err s id usbDevInfo (.deviceEvent .other usbDev fuel r replies) := by
        rintro ⟨_, _, _, _, _, heq, -⟩
        cases heq
      have hdowns : ¬ Downs id (.deviceEvent .other usbDev fuel r replies) := by
        rintro ⟨_, _, _, _, heq, -⟩
        cases heq
      rw [or_iff_right hadds, and_iff_left hdowns]
      rfl
    | actDevup =>
      have hdowns : ¬ Downs id (.deviceEvent .actDevup usbDev fuel r replies) := by
        rintro ⟨_, _, _, _, heq, -⟩
        cases heq
      rw [and_iff_left hdowns]
      simp only [step, deviceEvent]
      cases hadded : Usb.added (Usb.onDeviceConnect fuel err s usbDev r) with
      | none =>
        refine (or_iff_right ?_).symm
        rintro ⟨_, _, _, _, _, heq, -, hsome⟩
        cases heq
        cases hadded.symm.trans hsome
      | some usbDevInfo =>
        have hid := getDeviceId_of_added hadded
        have htimely := ht (.registerDevice replies (getDeviceId usbDevInfo))
          (by rw [toManager, hadded]; rfl)
        refine (isVisible_onDeviceAdd hwell htimely).trans (or_congr_left ?_)
        constructor
        · rintro rfl
          exact ⟨usbDevInfo, usbDev, fuel, r, replies, rfl, hid.symm, hadded⟩
        · rintro ⟨_, _, _, _, _, heq, rfl, -⟩
          cases heq
          exact hid.symm
    | actDevdown =>
      have hadds : ¬ ∃ usbDevInfo,
          Adds err s id usbDevInfo (.deviceEvent .actDevdown usbDev fuel r replies) := by
        rintro ⟨_, _, _, _, _, heq, -⟩
        cases heq
      have hdowns : Downs id (.deviceEvent .actDevdown usbDev fuel r replies) ↔
          toExtDevId usbDev = id := by
        constructor
        · rintro ⟨_, _, _, _, heq, hid⟩
          cases heq
          exact hid
        · exact fun hid => ⟨_, _, _, _, rfl, hid⟩
      rw [or_iff_right hadds, hdowns]
      simp only [step, deviceEvent]
      cases hnull : s.callback with
      | false =>
        have hnot : ¬ Visible.IsVisible h.system.manager id := fun hvisible =>
          Bool.false_ne_true (hnull.symm.trans (hcallback hvisible))
        exact iff_of_false hnot fun hvisible => hnot hvisible.1
      | true =>
        rw [if_pos rfl, isVisible_onDeviceRemove hwell, and_comm]
        exact and_congr_right fun _ => not_congr eq_comm

/-- In a run whose steps come in time the devices that are seen are those that have been added since
their address went down last. -/
theorem isVisible_iff_since (hrun : (machine err s blank driverChangeCallback).Runs as)
    (ht : (machine err s blank driverChangeCallback).Along (Timely err s)
      (machine err s blank driverChangeCallback).init as) (id : DeviceId) :
    Visible.IsVisible ((machine err s blank driverChangeCallback).run
        (machine err s blank driverChangeCallback).init as).system.manager id ↔
      (machine err s blank driverChangeCallback).Since
        (fun _ a => ∃ usbDevInfo, Adds err s id usbDevInfo a) (Downs id) as := by
  induction as using List.reverseRecOn with
  | nil =>
    refine iff_of_false ?_ ?_
    · rintro ⟨obj, hlookup, -⟩
      exact absurd hlookup (by simp [machine, System.machine, Machine.run])
    · rintro ⟨before, a, after, heq, -⟩
      exact absurd heq (by simp)
  | append_singleton as a ih =>
    obtain ⟨has, ha⟩ := Machine.along_append.1 hrun
    obtain ⟨hts, hta⟩ := Machine.along_append.1 ht
    have ih := ih has hts
    rw [Machine.since_concat, ← ih, Machine.run_append]
    refine isVisible_step (run_wellFormed has) ha.1 hta.1 fun hvisible => ?_
    obtain ⟨_, _, _, -, ⟨usbDevInfo, hadds⟩, -⟩ := ih.1 hvisible
    exact hadds.callback

/-! ## What clients are told -/

theorem parseToInterfaceDesc_settings (x : UInt8) (rs : List (List UInt8)) :
    parseToInterfaceDesc ((Usb.settings x rs).headD {}) =
      let r := (rs.find? (Usb.isInterface x)).getD []
      { bInterfaceNumber := Usb.byteAt r 2
        bClass := Usb.byteAt r 5
        bSubClass := Usb.byteAt r 6
        bProtocol := Usb.byteAt r 7 } := by
  induction rs with
  | nil => rfl
  | cons r rs ih =>
    rw [Usb.settings, List.find?_cons]
    cases Usb.isInterface x r with
    | false => exact ih
    | true => rfl

theorem map_firstSettings (configBuffer : List UInt8) :
    (Usb.firstSettings (Records.records configBuffer)).map parseToInterfaceDesc =
      wireInterfaces configBuffer := by
  rw [Usb.firstSettings, List.map_map]
  exact List.map_congr_left fun x _ => parseToInterfaceDesc_settings x _

theorem saysOf_announced {usbDev : UsbDev} {r : Usb.AttachReplies} {snNum : List UInt8}
    {utf8 : Name → Ipc.Str} (hlen : 18 ≤ r.getDeviceDescriptor.descData.length)
    (hlookup : h.system.manager.deviceMap.lookup id = some obj)
    (hinfo : h.info obj = Usb.announced usbDev r snNum) :
    SaysOf r (deviceInfoData (h.records utf8) h.system.manager ⟨id, obj⟩) := by
  have hrecord : (h.records utf8).info id = Usb.announced usbDev r snNum := by
    simp only [records, hlookup, Option.getD_some, hinfo]
  have hbyte {i : Nat} (hi : i < 18) : r.getDeviceDescriptor.bytes i =
      r.getDeviceDescriptor.descData.getD i 0 := Usb.bytes_of_complete hlen hi
  refine ⟨?_, ?_, ?_⟩
  · simp only [deviceInfoData, hrecord, ← hbyte (show 8 < 18 by decide),
      ← hbyte (show 9 < 18 by decide)]
    rfl
  · simp only [deviceInfoData, hrecord, ← hbyte (show 10 < 18 by decide),
      ← hbyte (show 11 < 18 by decide)]
    rfl
  · simp only [deviceInfoData, hrecord]
    rw [← map_firstSettings, List.map_map]
    rfl

/-- **What clients are told is what the devices say.** In every order of the events of the USB host and
of what else happens to the device manager, each device that a caller with the permission is told of has
been announced since its address went down last, with the ids and interfaces that the caller is told.
Where moreover no device comes back while it is flagged and no late completion takes a device out of
the map, the devices told of are exactly those that have been added since their address went down. -/
theorem told_read (err : EdmErrors) (s : Usb.UsbDevSubscriber) (blank : Usb.UsbDeviceInfo)
    (driverChangeCallback : Bool) (as : List Action)
    (hrun : (machine err s blank driverChangeCallback).Runs as) (hregular : Regular as)
    (t : TokenReplies) (utf8 : Name → Ipc.Str) (c : Caller) (hmay : MayQuery t c) :
    let M := machine err s blank driverChangeCallback
    let h := M.run M.init as
    ∃ infos, queryDeviceInfo t (h.records utf8) c none h.system.manager = (edmOk, infos) ∧
      (∀ d ∈ infos, M.Since (fun _ a => Reads s d a) (Downs d.deviceId) as) ∧
      (M.Along (Timely err s) M.init as → ∀ id, id ∈ infos.map (·.deviceId) ↔
        M.Since (fun _ a => ∃ usbDevInfo, Adds err s id usbDevInfo a) (Downs id) as) := by
  intro M h
  have hwell : h.system.WellFormed := run_wellFormed hrun
  have hkeyed : h.system.manager.Keyed := fun _ _ hid => hwell.info hid
  have htold := devicesTold_usbEntries (h.records utf8) h.system.manager
  refine ⟨(usbEntries h.system.manager).map (deviceInfoData (h.records utf8) h.system.manager), ?_,
    fun d hd => ?_, fun ht id => ?_⟩
  · rw [queryDeviceInfo_eq hkeyed hmay]
    exact congrArg (fun l => (edmOk, l.map (deviceInfoData (h.records utf8) h.system.manager)))
      (List.filter_eq_self.2 fun _ _ => rfl)
  · obtain ⟨obj, hreg, hd⟩ := htold.matched d hd
    refine (grounded_of_runs hrun d.deviceId obj hreg).mono ?_
    rintro _ _ hmem ⟨usbDev, fuel, r, replies, rfl, hid, hadded⟩
    have hr := hregular _ _ _ _ _ hmem
    obtain ⟨hannounces, hinfo⟩ := Usb.announces_of_added hr hadded
    refine ⟨usbDev, fuel, r, replies, rfl, hid, hannounces, ?_⟩
    rw [hd]
    have hne : r.getDeviceDescriptor.descData ≠ [] := by
      intro hnil
      have hlength := hannounces.identified.bLength
      rw [hnil] at hlength
      cases hlength
    exact saysOf_announced (hr.descData.resolve_left hne) hreg.1 hinfo
  · refine (htold.visible id).trans ((and_iff_left_of_imp fun hvisible => ?_).trans
      (isVisible_iff_since hrun ht id))
    obtain ⟨_, _, _, -, ⟨_, _, _, _, _, -, rfl, -⟩, -⟩ := (isVisible_iff_since hrun ht id).1 hvisible
    exact (queriedBusType_eq_busType _).symm.trans (toExtDevId_agree _).1

/-- A mouse is plugged in, pulled out and plugged in again. -/
def replugged : List Action :=
  [.deviceEvent .actDevup ⟨1, 2⟩ 10 (Usb.mouseReplies Usb.mouseDescriptor) replies,
    .deviceEvent .actDevdown ⟨1, 2⟩ 0 (Usb.mouseReplies Usb.mouseDescriptor) replies,
    .deviceEvent .actDevup ⟨1, 2⟩ 10 (Usb.mouseReplies Usb.mouseDescriptor) replies]

theorem replugged_told :
    let M := machine ⟨1, Int.one_pos⟩ Usb.readySubscriber (mice.info 0) true
    let h := M.run M.init replugged
    ∃ infos, queryDeviceInfo allowing (h.records ascii) systemApp none h.system.manager =
        (edmOk, infos) ∧
      (∀ d ∈ infos, M.Since (fun _ a => Reads Usb.readySubscriber d a) (Downs d.deviceId) replugged) ∧
      (M.Along (Timely ⟨1, Int.one_pos⟩ Usb.readySubscriber) M.init replugged →
        ∀ id, id ∈ infos.map (·.deviceId) ↔ M.Since (fun _ a => ∃ usbDevInfo,
          Adds ⟨1, Int.one_pos⟩ Usb.readySubscriber id usbDevInfo a) (Downs id) replugged) := by
  have hregular : Regular replugged := by
    intro _ _ _ _ _ hmem
    simp only [replugged, List.mem_cons, Action.deviceEvent.injEq, List.not_mem_nil, or_false] at hmem
    rcases hmem with ⟨-, -, -, rfl, -⟩ | ⟨-, -, -, rfl, -⟩ | ⟨-, -, -, rfl, -⟩ <;>
      exact Usb.mouseReplies_regular
  exact told_read _ _ _ _ replugged ⟨trivial, trivial, trivial, trivial⟩ hregular allowing ascii
    systemApp ⟨rfl, rfl⟩

end

end Host

end ExtDevMgr.Service
