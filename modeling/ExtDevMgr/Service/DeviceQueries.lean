import ExtDevMgr.Manager.Cleanup
import ExtDevMgr.Manager.Visible
import ExtDevMgr.Service.DriverExtMgr

/-!
# What clients are told about devices

In every state that a run of the device manager leads to, the two queries about devices tell of the
same ones: every USB device that is attached and not flagged, and each of them once
(`devices_told`).
-/

namespace ExtDevMgr.Service
open Manager Manager.ExtDeviceManager Manager.System Manager.Cleanup Manager.ExtPermissionManager
open Ipc (busTypeUsb busTypeInvalid busTypeMax)

/-- The entries of the map that are told of. -/
def usbEntries (m : ExtDeviceManager) : List (Sigma fun _ : DeviceId => Nat) :=
  m.deviceMap.entries.filter fun e =>
    e.1.busType = busTypeUsb ∧ !(m.objects e.2).isUnRegisted

/-- What a client gets to know about a device and its driver. -/
def deviceInfoData (records : DeviceRecords) (m : ExtDeviceManager)
    (e : Sigma fun _ : DeviceId => Nat) : Ipc.USBDeviceInfoData where
  deviceId := e.1
  isDriverMatched := (m.objects e.2).hasDriver
  driverUid := if (m.objects e.2).hasDriver then records.utf8 (m.objects e.2).driverUid else []
  productId := (records.info e.1).idProduct
  vendorId := (records.info e.1).idVendor
  interfaceDescList :=
    (records.info e.1).interfaceDescList.map fun desc => some (parseToInterfaceDesc desc)

/-- What a client gets to know about a device alone. -/
def deviceData (records : DeviceRecords) (id : DeviceId) : Ipc.USBDevice where
  busType := busTypeUsb
  deviceId := id
  descripton := records.utf8 (records.info id).description
  productId := (records.info id).idProduct
  vendorId := (records.info id).idVendor

/-- What is told of the devices in `m` by `QueryDeviceInfo` is `infos`, by `QueryDevice` `devices`. -/
structure DevicesTold (records : DeviceRecords) (m : ExtDeviceManager)
    (infos : List Ipc.USBDeviceInfoData) (devices : List Ipc.USBDevice) : Prop where
  nodup : (infos.map (·.deviceId)).Nodup
  visible : ∀ id : DeviceId, id ∈ infos.map (·.deviceId) ↔
    Visible.IsVisible m id ∧ id.busType = busTypeUsb
  /-- The driver is the one that the device has. -/
  matched : ∀ d ∈ infos, ∃ obj, Registered m d.deviceId obj ∧
    d = deviceInfoData records m ⟨d.deviceId, obj⟩
  /-- Each query goes through the map in an order of its own. -/
  devices_perm : devices.Perm (infos.map fun d => deviceData records d.deviceId)
  roundTrips : ∀ d ∈ infos, d.interfaceDescList.length ≤ 512 →
    Ipc.RoundTrips (Ipc.USBDeviceInfoData.marshalling · d) Ipc.DeviceInfoData.unmarshalling d
  roundTrips_device : ∀ d ∈ devices,
    Ipc.RoundTrips (Ipc.USBDevice.marshalling · d) Ipc.DeviceData.unmarshalling d

section
variable {records : DeviceRecords} {m : ExtDeviceManager} {id : DeviceId} {obj : Nat}

/-! ## One device -/

theorem parseToDeviceInfoData_eq (hm : m.Keyed) (hid : m.deviceMap.lookup id = some obj) :
    parseToDeviceInfoData records (m.objects obj) =
      if id.busType = busTypeUsb then some (deviceInfoData records m ⟨id, obj⟩) else none := by
  have hinfo : (m.objects obj).info = id := hm id obj hid
  rw [parseToDeviceInfoData, hinfo, deviceInfoData]
  by_cases hbus : id.busType = busTypeUsb
  · rw [hbus, if_neg (by decide), if_pos rfl]
  · rw [if_neg hbus, ite_self]

/-- The 28 bits that a client looks at have the bus. -/
theorem getBusTypeByDeviceId_usb (h : id.busType = busTypeUsb) :
    Ipc.DeviceInfoData.getBusTypeByDeviceId id = busTypeUsb := by
  have hlow : id.toUInt32 = 1 := h
  rw [Ipc.DeviceInfoData.getBusTypeByDeviceId, UInt64.toUInt32_and, hlow]
  rfl

theorem deviceInfoData_roundTrips (h : id.busType = busTypeUsb)
    (hlen : (deviceInfoData records m ⟨id, obj⟩).interfaceDescList.length ≤ 512) :
    Ipc.RoundTrips (Ipc.USBDeviceInfoData.marshalling · (deviceInfoData records m ⟨id, obj⟩))
      Ipc.DeviceInfoData.unmarshalling (deviceInfoData records m ⟨id, obj⟩) := by
  have hdescs : (deviceInfoData records m ⟨id, obj⟩).interfaceDescList =
      ((records.info id).interfaceDescList.map parseToInterfaceDesc).map some := by
    rw [List.map_map]
    rfl
  rw [hdescs, List.length_map] at hlen
  exact .of_writeAll (fun accepts => Ipc.USBDeviceInfoData.marshalling_eq accepts _ hdescs)
    (Ipc.USBDeviceInfoData.reads _ (getBusTypeByDeviceId_usb h) hdescs hlen)

/-! ## The entries -/

theorem mem_usbEntries {e : Sigma fun _ : DeviceId => Nat} :
    e ∈ usbEntries m ↔ Registered m e.1 e.2 ∧ e.1.busType = busTypeUsb := by
  rw [usbEntries, List.mem_filter, decide_eq_true_iff, Bool.not_eq_true', Registered,
    Table.lookup_eq_some_iff]
  exact ⟨fun h => ⟨⟨h.1, h.2.2⟩, h.2.1⟩, fun h => ⟨h.1.1, h.2, h.1.2⟩⟩

theorem nodup_usbEntries (m : ExtDeviceManager) : ((usbEntries m).map Sigma.fst).Nodup :=
  (List.filter_sublist.map Sigma.fst).nodup m.deviceMap.nodupKeys

/-- A loop over the visible entries with `p` that makes a record of those of USB devices. -/
theorem filterMap_usb {α : Type} {f : Sigma (fun _ : DeviceId => Nat) → Option α}
    {g : Sigma (fun _ : DeviceId => Nat) → α} (p : Sigma (fun _ : DeviceId => Nat) → Bool)
    {q : Sigma (fun _ : DeviceId => Nat) → Bool}
    (hq : ∀ e, q e = (p e && !(m.objects e.2).isUnRegisted))
    (hf : ∀ e ∈ m.deviceMap.entries, f e = if e.1.busType = busTypeUsb then some (g e) else none) :
    (m.deviceMap.entries.filter q).filterMap f = ((usbEntries m).filter p).map g := by
  rw [usbEntries, ← List.filterMap_eq_map, List.filterMap_filter, List.filter_filter,
    List.filterMap_filter]
  refine List.filterMap_congr fun e he => ?_
  rw [hf e he, hq]
  by_cases hbus : e.1.busType = busTypeUsb
  · simp only [hbus, if_true, Function.comp_apply, true_and, Bool.decide_eq_true]
  · simp only [hbus, if_false, ite_self, false_and, decide_false, Bool.and_false, Bool.false_eq_true]

/-! ## The queries -/

theorem queryDeviceInfo_eq {t : TokenReplies} {c : Caller} (hm : m.Keyed) (hmay : MayQuery t c)
    (deviceId : Option DeviceId) :
    queryDeviceInfo t records c deviceId m = (edmOk, ((usbEntries m).filter fun e =>
      deviceId.all fun id => e.1 = id).map (deviceInfoData records m)) := by
  have hparse : ∀ e ∈ m.deviceMap.entries, parseToDeviceInfoData records (m.objects e.2) =
      if e.1.busType = busTypeUsb then some (deviceInfoData records m e) else none :=
    fun e he => parseToDeviceInfoData_eq hm (Table.lookup_eq_some_iff.2 he)
  unfold queryDeviceInfo
  rw [hmay.1, hmay.2, if_neg (by decide), if_neg (by decide)]
  cases deviceId with
  | none =>
    dsimp only
    rw [queryAllDevices, List.filterMap_map]
    exact congrArg (Prod.mk edmOk) (filterMap_usb (fun _ => true) (fun _ => rfl) hparse)
  | some id =>
    dsimp only
    rw [queryDevicesById, List.filterMap_map]
    refine congrArg (Prod.mk edmOk) (filterMap_usb (fun e => decide (e.1 = id)) (fun e => ?_) hparse)
    rw [Bool.decide_and, Bool.decide_eq_true]

theorem queryDevice_eq {t : TokenReplies} {c : Caller} (hm : m.Keyed)
    (hmay : verifyPermission t c.tokenId permissionName = true) {busType : UInt32}
    (hbus : busType ≠ busTypeInvalid) :
    queryDevice t records c busType m = (edmOk, ((usbEntries m).filter fun e =>
      e.1.busType = busType).map fun e => deviceData records e.1) := by
  have htoData : ∀ e ∈ m.deviceMap.entries, toDeviceData records (m.objects e.2).info =
      if e.1.busType = busTypeUsb then some (deviceData records e.1) else none := by
    intro e he
    have hinfo : (m.objects e.2).info = e.1 := hm _ _ (Table.lookup_eq_some_iff.2 he)
    rw [hinfo, toDeviceData, deviceData]
    by_cases husb : e.1.busType = busTypeUsb
    · rw [if_pos husb, if_pos husb, husb]
    · rw [if_neg husb, if_neg husb]
  unfold Service.queryDevice
  rw [hmay, if_neg (by decide), if_neg hbus]
  rw [ExtDeviceManager.queryDevice, List.filterMap_map]
  refine congrArg (Prod.mk edmOk) (filterMap_usb (fun e => decide (e.1.busType = busType))
    (fun e => ?_) htoData)
  rw [Bool.decide_and, Bool.decide_eq_true]

theorem devicesTold_usbEntries (records : DeviceRecords) (m : ExtDeviceManager) :
    DevicesTold records m ((usbEntries m).map (deviceInfoData records m))
      ((usbEntries m).map fun e => deviceData records e.1) := by
  have hids : ((usbEntries m).map (deviceInfoData records m)).map
      (fun d => d.deviceId) = (usbEntries m).map Sigma.fst := List.map_map
  refine ⟨?_, fun id => ?_, fun d hd => ?_, ?_, fun d hd hlen => ?_, fun d hd => ?_⟩
  · rw [hids]
    exact nodup_usbEntries m
  · rw [hids, List.mem_map]
    constructor
    · rintro ⟨e, he, rfl⟩
      obtain ⟨hreg, hbus⟩ := mem_usbEntries.1 he
      exact ⟨⟨e.2, hreg⟩, hbus⟩
    · rintro ⟨⟨obj, hreg⟩, hbus⟩
      exact ⟨⟨id, obj⟩, mem_usbEntries.2 ⟨hreg, hbus⟩, rfl⟩
  · obtain ⟨e, he, rfl⟩ := List.mem_map.1 hd
    exact ⟨e.2, (mem_usbEntries.1 he).1, rfl⟩
  · rw [List.map_map]
    exact List.Perm.refl _
  · obtain ⟨e, he, rfl⟩ := List.mem_map.1 hd
    exact deviceInfoData_roundTrips (mem_usbEntries.1 he).2 hlen
  · obtain ⟨e, -, rfl⟩ := List.mem_map.1 hd
    exact (Ipc.USBDevice.roundTrips_iff_usb _).2 rfl

/-- **What clients are told about devices.** In every state that a run leads to, a caller with the
permission is told of each USB device once that is in the map and not flagged, with the driver that
it has; of the same devices by both queries, and by a query for an id of those with the id. Every
other bus has no devices. A record with at most 512 interfaces comes out of a parcel as it was put
in. -/
theorem devices_told (driverChangeCallback : Bool) (as : List Action)
    (hrun : (machine driverChangeCallback).Runs as) (t : TokenReplies) (records : DeviceRecords)
    (c : Caller) (hmay : MayQuery t c) :
    let m := ((machine driverChangeCallback).run (machine driverChangeCallback).init as).manager
    ∃ infos devices, DevicesTold records m infos devices ∧
      queryDeviceInfo t records c none m = (edmOk, infos) ∧
      (∀ id, queryDeviceInfo t records c (some id) m =
        (edmOk, infos.filter fun d => d.deviceId = id)) ∧
      queryDevice t records c busTypeUsb m = (edmOk, devices) ∧
      ∀ busType, busType ≠ busTypeInvalid → busType ≠ busTypeUsb →
        queryDevice t records c busType m = (edmOk, []) := by
  intro m
  have hm : m.Keyed := run_keyed hrun
  refine ⟨_, _, devicesTold_usbEntries records m, ?_, fun id => ?_, ?_,
    fun busType hinvalid husb => ?_⟩
  · rw [queryDeviceInfo_eq hm hmay]
    exact congrArg (fun l => (edmOk, l.map (deviceInfoData records m)))
      (List.filter_eq_self.2 fun _ _ => rfl)
  · rw [queryDeviceInfo_eq hm hmay, List.filter_map]
    rfl
  · rw [queryDevice_eq hm hmay.2 (by decide)]
    exact congrArg (fun l => (edmOk, l.map fun e => deviceData records e.1))
      (List.filter_eq_self.2 fun e he => decide_eq_true (mem_usbEntries.1 he).2)
  · rw [queryDevice_eq hm hmay.2 hinvalid, List.filter_eq_nil_iff.2]
    · rfl
    · intro e he hbus
      exact husb ((of_decide_eq_true hbus).symm.trans (mem_usbEntries.1 he).2)

/-- Two mice are attached, and only the first one has found a driver. -/
theorem two_mice_told :
    let m := ((machine true).run (machine true).init
      [.registerDevice replies 0x100000001, .registerDevice repliesWithout 0x200000001]).manager
    ∃ infos devices, DevicesTold mice m infos devices ∧
      queryDeviceInfo allowing mice systemApp none m = (edmOk, infos) ∧
      (∀ id, queryDeviceInfo allowing mice systemApp (some id) m =
        (edmOk, infos.filter fun d => d.deviceId = id)) ∧
      queryDevice allowing mice systemApp busTypeUsb m = (edmOk, devices) ∧
      ∀ busType, busType ≠ busTypeInvalid → busType ≠ busTypeUsb →
        queryDevice allowing mice systemApp busType m = (edmOk, []) :=
  devices_told true _ (by decide) allowing mice systemApp ⟨rfl, rfl⟩

end

end ExtDevMgr.Service
