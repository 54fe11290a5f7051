import ExtDevMgr.Ipc.Parcel

/-!
# The records sent between service and clients

`driver_ext_mgr_types.cpp`: how each record is marshalled, and how the base classes unmarshal it. A
base class picks the subtype from what it reads first.
-/

namespace ExtDevMgr.Ipc
open Codec

/-- The underlying type of the enumeration; a cast makes a `BusType` of every value. -/
abbrev BusType := UInt32

abbrev busTypeInvalid : BusType := 0
abbrev busTypeUsb : BusType := 1
abbrev busTypeMax : BusType := 2

abbrev maxInterfaceDescSize : UInt64 := 512

structure ErrMsg where
  errCode : Int32
  msg : Str
  deriving DecidableEq

structure DeviceData where
  busType : BusType
  deviceId : UInt64
  descripton : Str
  deriving DecidableEq

structure USBDevice extends DeviceData where
  productId : UInt16
  vendorId : UInt16
  deriving DecidableEq

structure DeviceInfoData where
  deviceId : UInt64
  isDriverMatched : Bool
  driverUid : Str
  deriving DecidableEq

structure USBInterfaceDesc where
  bInterfaceNumber : UInt8
  bClass : UInt8
  bSubClass : UInt8
  bProtocol : UInt8
  deriving DecidableEq

/-- A null pointer in the list is `none`. -/
structure USBDeviceInfoData extends DeviceInfoData where
  productId : UInt16
  vendorId : UInt16
  interfaceDescList : List (Option USBInterfaceDesc)
  deriving DecidableEq

structure DriverInfoData where
  busType : BusType
  driverUid : Str
  driverName : Str
  bundleSize : Str
  version : Str
  description : Str
  deriving DecidableEq

structure USBDriverInfoData extends DriverInfoData where
  pids : List UInt16
  vids : List UInt16
  deriving DecidableEq

/-! ## Marshalling -/

section
variable (accepts : Accepts)

def ErrMsg.marshalling (m : ErrMsg) : Codec.Writer Value Unit := do
  write accepts (.int32 m.errCode)
  write accepts (.string m.msg)

def DeviceData.marshalling (d : DeviceData) : Codec.Writer Value Unit := do
  write accepts (.uint32 d.busType)
  write accepts (.uint64 d.deviceId)
  write accepts (.string d.descripton)

def USBDevice.marshalling (d : USBDevice) : Codec.Writer Value Unit := do
  d.toDeviceData.marshalling accepts
  write accepts (.uint16 d.productId)
  write accepts (.uint16 d.vendorId)

def DeviceInfoData.marshalling (d : DeviceInfoData) : Codec.Writer Value Unit := do
  write accepts (.uint64 d.deviceId)
  write accepts (.bool d.isDriverMatched)
  write accepts (.string d.driverUid)

def USBInterfaceDesc.marshalling (desc : USBInterfaceDesc) : Codec.Writer Value Unit := do
  write accepts (.uint8 desc.bInterfaceNumber)
  write accepts (.uint8 desc.bClass)
  write accepts (.uint8 desc.bSubClass)
  write accepts (.uint8 desc.bProtocol)

def USBDeviceInfoData.marshalling (d : USBDeviceInfoData) : Codec.Writer Value Unit := do
  d.toDeviceInfoData.marshalling accepts
  write accepts (.uint16 d.productId)
  write accepts (.uint16 d.vendorId)
  write accepts (.uint64 (UInt64.ofNat d.interfaceDescList.length))
  d.interfaceDescList.forM fun
    | none => throw ()
    | some desc => desc.marshalling accepts

def DriverInfoData.marshalling (d : DriverInfoData) : Codec.Writer Value Unit := do
  write accepts (.uint32 d.busType)
  write accepts (.string d.driverUid)
  write accepts (.string d.driverName)
  write accepts (.string d.bundleSize)
  write accepts (.string d.version)
  write accepts (.string d.description)

def USBDriverInfoData.marshalling (d : USBDriverInfoData) : Codec.Writer Value Unit := do
  d.toDriverInfoData.marshalling accepts
  write accepts (.uint16Vector d.pids)
  write accepts (.uint16Vector d.vids)

end

/-! ## Unmarshalling -/

def ErrMsg.unmarshalling : Reader Value (Option ErrMsg) := do
  let errCode ← read Value.asInt32 0
  let msg ← read Value.asString []
  return some { errCode, msg }

/-- The base class sets `busType`. -/
def USBDevice.unmarshalling (busType : BusType) : Reader Value (Option USBDevice) := do
  let deviceId ← read Value.asUint64 0
  let descripton ← read Value.asString []
  let productId ← read Value.asUint16 0
  let vendorId ← read Value.asUint16 0
  return some { busType, deviceId, descripton, productId, vendorId }

def DeviceData.unmarshalling : Reader Value (Option USBDevice) := do
  let busType ← read Value.asUint32 0
  if busType = busTypeInvalid then
    return none
  else if busType = busTypeUsb then
    USBDevice.unmarshalling busType
  else
    return none

def USBInterfaceDesc.unmarshalling : Reader Value (Option USBInterfaceDesc) := do
  let bInterfaceNumber ← read Value.asUint8 0
  let bClass ← read Value.asUint8 0
  let bSubClass ← read Value.asUint8 0
  let bProtocol ← read Value.asUint8 0
  return some { bInterfaceNumber, bClass, bSubClass, bProtocol }

/-- The base class sets the fields that it has read. -/
def USBDeviceInfoData.unmarshalling (base : DeviceInfoData) :
    Reader Value (Option USBDeviceInfoData) := do
  let productId ← read Value.asUint16 0
  let vendorId ← read Value.asUint16 0
  let interfaceDescSize ← read Value.asUint64 0
  if interfaceDescSize > maxInterfaceDescSize then
    return none
  else
    match ← readList USBInterfaceDesc.unmarshalling interfaceDescSize.toNat with
    | none => return none
    | some descs =>
      return some { base with productId, vendorId, interfaceDescList := descs.map some }

def DeviceInfoData.getBusTypeByDeviceId (deviceId : UInt64) : BusType :=
  (deviceId &&& 0x00000000FFFFFFF).toUInt32

def DeviceInfoData.unmarshalling : Reader Value (Option USBDeviceInfoData) := do
  match ← tryRead Value.asUint64 with
  | none => return none
  | some deviceId =>
    let busType := getBusTypeByDeviceId deviceId
    if busType ≤ busTypeInvalid ∨ busType ≥ busTypeMax then
      return none
    else
      match ← tryRead Value.asBool with
      | none => return none
      | some isDriverMatched =>
        match ← tryRead Value.asString with
        | none => return none
        | some driverUid =>
          if busType = busTypeUsb then
            USBDeviceInfoData.unmarshalling { deviceId, isDriverMatched, driverUid }
          else
            return none

def USBDriverInfoData.unmarshalling : Reader Value (Option USBDriverInfoData) := do
  let driverUid ← read Value.asString []
  let driverName ← read Value.asString []
  let bundleSize ← read Value.asString []
  let version ← read Value.asString []
  let description ← read Value.asString []
  let pids ← read Value.asUint16Vector []
  let vids ← read Value.asUint16Vector []
  return some {
    busType := busTypeUsb, driverUid, driverName, bundleSize, version, description, pids, vids }

def DriverInfoData.unmarshalling : Reader Value (Option USBDriverInfoData) := do
  let busType ← read Value.asUint32 0
  if busType = busTypeUsb then
    USBDriverInfoData.unmarshalling
  else
    return none

/-! ## What is written -/

def ErrMsg.encoded (m : ErrMsg) : List Value := [.int32 m.errCode, .string m.msg]

def USBDevice.encoded (d : USBDevice) : List Value :=
  [.uint32 d.busType, .uint64 d.deviceId, .string d.descripton, .uint16 d.productId,
    .uint16 d.vendorId]

def USBInterfaceDesc.encoded (desc : USBInterfaceDesc) : List Value :=
  [.uint8 desc.bInterfaceNumber, .uint8 desc.bClass, .uint8 desc.bSubClass, .uint8 desc.bProtocol]

/-- The values before the interface descriptors. -/
def USBDeviceInfoData.header (d : USBDeviceInfoData) : List Value :=
  [.uint64 d.deviceId, .bool d.isDriverMatched, .string d.driverUid, .uint16 d.productId,
    .uint16 d.vendorId, .uint64 (UInt64.ofNat d.interfaceDescList.length)]

def USBDriverInfoData.encoded (d : USBDriverInfoData) : List Value :=
  [.uint32 d.busType, .string d.driverUid, .string d.driverName, .string d.bundleSize,
    .string d.version, .string d.description, .uint16Vector d.pids, .uint16Vector d.vids]

section
variable (accepts : Accepts)

theorem ErrMsg.marshalling_eq (m : ErrMsg) :
    m.marshalling accepts = writeAll accepts m.encoded := by
  simp only [marshalling, encoded, writeAll, bind_pure_unit]

theorem USBDevice.marshalling_eq (d : USBDevice) :
    d.marshalling accepts = writeAll accepts d.encoded := by
  simp only [marshalling, DeviceData.marshalling, encoded, writeAll, bind_assoc, bind_pure_unit]

theorem USBInterfaceDesc.marshalling_eq (desc : USBInterfaceDesc) :
    desc.marshalling accepts = writeAll accepts desc.encoded := by
  simp only [marshalling, encoded, writeAll, bind_pure_unit]

theorem USBDriverInfoData.marshalling_eq (d : USBDriverInfoData) :
    d.marshalling accepts = writeAll accepts d.encoded := by
  simp only [marshalling, DriverInfoData.marshalling, encoded, writeAll, bind_assoc, bind_pure_unit]

theorem USBDeviceInfoData.marshalling_eq (d : USBDeviceInfoData) {descs : List USBInterfaceDesc}
    (h : d.interfaceDescList = descs.map some) :
    d.marshalling accepts =
      writeAll accepts (d.header ++ descs.flatMap USBInterfaceDesc.encoded) := by
  have hdescs : (d.interfaceDescList.forM fun
      | none => throw ()
      | some desc => desc.marshalling accepts : Codec.Writer Value Unit) =
      writeAll accepts (descs.flatMap USBInterfaceDesc.encoded) := by
    rw [h, ← forM_eq_writeAll accepts fun desc => desc.marshalling_eq accepts]
    exact List.forM_map
  rw [writeAll_append, ← hdescs]
  simp only [marshalling, DeviceInfoData.marshalling, header, writeAll, bind_assoc, bind_pure_unit]

end

/-! ## What is read -/

theorem ErrMsg.reads (m : ErrMsg) : Reads unmarshalling m.encoded (some m) := by
  unfold unmarshalling encoded
  apply Reads.read_bind (by rfl)
  apply Reads.read_bind (by rfl)
  exact Reads.pure _

theorem USBDevice.reads (d : USBDevice) (h : d.busType = busTypeUsb) :
    Reads DeviceData.unmarshalling d.encoded (some d) := by
  unfold DeviceData.unmarshalling encoded
  apply Reads.read_bind (by rfl)
  rw [h, if_neg (by decide), if_pos rfl, ← h, unmarshalling]
  apply Reads.read_bind (by rfl)
  apply Reads.read_bind (by rfl)
  apply Reads.read_bind (by rfl)
  apply Reads.read_bind (by rfl)
  exact Reads.pure _

theorem USBInterfaceDesc.reads (desc : USBInterfaceDesc) :
    Reads unmarshalling desc.encoded (some desc) := by
  unfold unmarshalling encoded
  apply Reads.read_bind (by rfl)
  apply Reads.read_bind (by rfl)
  apply Reads.read_bind (by rfl)
  apply Reads.read_bind (by rfl)
  exact Reads.pure _

theorem USBDriverInfoData.reads (d : USBDriverInfoData) (h : d.busType = busTypeUsb) :
    Reads DriverInfoData.unmarshalling d.encoded (some d) := by
  unfold DriverInfoData.unmarshalling encoded
  apply Reads.read_bind (by rfl)
  rw [if_pos h, unmarshalling, ← h]
  apply Reads.read_bind (by rfl)
  apply Reads.read_bind (by rfl)
  apply Reads.read_bind (by rfl)
  apply Reads.read_bind (by rfl)
  apply Reads.read_bind (by rfl)
  apply Reads.read_bind (by rfl)
  apply Reads.read_bind (by rfl)
  exact Reads.pure _

theorem USBDeviceInfoData.reads (d : USBDeviceInfoData)
    (hbus : DeviceInfoData.getBusTypeByDeviceId d.deviceId = busTypeUsb)
    {descs : List USBInterfaceDesc} (hdescs : d.interfaceDescList = descs.map some)
    (hlen : descs.length ≤ 512) :
    Reads DeviceInfoData.unmarshalling
      (d.header ++ descs.flatMap USBInterfaceDesc.encoded) (some d) := by
  have hsize : (UInt64.ofNat d.interfaceDescList.length).toNat = descs.length := by
    rw [hdescs, List.length_map, UInt64.toNat_ofNat']
    omega
  unfold DeviceInfoData.unmarshalling header
  apply Reads.tryRead_bind (by rfl)
  dsimp only
  rw [hbus, if_neg (by decide)]
  apply Reads.tryRead_bind (by rfl)
  apply Reads.tryRead_bind (by rfl)
  dsimp only
  rw [if_pos rfl, unmarshalling]
  apply Reads.read_bind (by rfl)
  apply Reads.read_bind (by rfl)
  apply Reads.read_bind (by rfl)
  have hle : ¬ UInt64.ofNat d.interfaceDescList.length > maxInterfaceDescSize := by
    rw [gt_iff_lt, UInt64.lt_iff_toNat_lt, hsize]
    exact Nat.not_lt.mpr hlen
  rw [if_neg hle, hsize]
  have hread := (Reads.readList USBInterfaceDesc.reads descs).bind (f := fun
    | none => return none
    | some descs => return some { d with interfaceDescList := descs.map some })
    (Reads.pure (some { d with interfaceDescList := descs.map some }))
  rw [List.append_nil, ← hdescs] at hread
  exact hread

/-! ## The round trips -/

/-- A record that names another bus is not made a USB device. -/
theorem DeviceData.unmarshalling_other {busType : BusType} (h : busType ≠ busTypeUsb)
    (rest : List Value) : unmarshalling.run (.uint32 busType :: rest) = (none, rest) := by
  have hrun : unmarshalling.run (.uint32 busType :: rest) =
      StateT.run (if busType = busTypeInvalid then return none
        else if busType = busTypeUsb then USBDevice.unmarshalling busType
        else return none : Reader Value (Option USBDevice)) rest := rfl
  rw [hrun, if_neg h, ite_self]
  rfl

theorem DriverInfoData.unmarshalling_other {busType : BusType} (h : busType ≠ busTypeUsb)
    (rest : List Value) : unmarshalling.run (.uint32 busType :: rest) = (none, rest) := by
  have hrun : unmarshalling.run (.uint32 busType :: rest) =
      StateT.run (if busType = busTypeUsb then USBDriverInfoData.unmarshalling
        else return none : Reader Value (Option USBDriverInfoData)) rest := rfl
  rw [hrun, if_neg h]
  rfl

theorem USBDevice.roundTrips_iff_usb (d : USBDevice) :
    RoundTrips (USBDevice.marshalling · d) DeviceData.unmarshalling d ↔
      d.busType = busTypeUsb := by
  apply RoundTrips.iff_of_writeAll fun accepts => d.marshalling_eq accepts
  · exact d.reads
  · intro hbus
    exact congrArg Prod.fst (DeviceData.unmarshalling_other hbus d.encoded.tail)

theorem USBDriverInfoData.roundTrips_iff_usb (d : USBDriverInfoData) :
    RoundTrips (USBDriverInfoData.marshalling · d) DriverInfoData.unmarshalling d ↔
      d.busType = busTypeUsb := by
  apply RoundTrips.iff_of_writeAll fun accepts => d.marshalling_eq accepts
  · exact d.reads
  · intro hbus
    exact congrArg Prod.fst (DriverInfoData.unmarshalling_other hbus d.encoded.tail)

/-- Unmarshalling undoes marshalling and leaves what follows: for every message, for the devices and
drivers that name the USB bus, and for the device infos with at most 512 interface descriptors and
the USB bus in their device id. -/
theorem unmarshalling_undoes_marshalling :
    (∀ m : ErrMsg, RoundTrips (ErrMsg.marshalling · m) ErrMsg.unmarshalling m) ∧
    (∀ d : USBDevice, RoundTrips (USBDevice.marshalling · d) DeviceData.unmarshalling d ↔
      d.busType = busTypeUsb) ∧
    (∀ (d : USBDeviceInfoData) (descs : List USBInterfaceDesc),
      d.interfaceDescList = descs.map some → descs.length ≤ 512 →
      DeviceInfoData.getBusTypeByDeviceId d.deviceId = busTypeUsb →
      RoundTrips (USBDeviceInfoData.marshalling · d) DeviceInfoData.unmarshalling d) ∧
    (∀ d : USBDriverInfoData, RoundTrips (USBDriverInfoData.marshalling · d)
      DriverInfoData.unmarshalling d ↔ d.busType = busTypeUsb) := by
  refine ⟨fun m => ?_, fun d => d.roundTrips_iff_usb, fun d descs hdescs hlen hbus => ?_,
    fun d => d.roundTrips_iff_usb⟩
  · exact .of_writeAll (fun accepts => m.marshalling_eq accepts) m.reads
  · exact .of_writeAll (fun accepts => d.marshalling_eq accepts hdescs) (d.reads hbus hdescs hlen)

/-- A device info with one descriptor. -/
def keyboard : USBDeviceInfoData where
  deviceId := 0x100000001
  isDriverMatched := true
  driverUid := [117]
  productId := 4660
  vendorId := 22136
  interfaceDescList := [some { bInterfaceNumber := 0, bClass := 3, bSubClass := 1, bProtocol := 1 }]

theorem keyboard_roundTrips :
    RoundTrips (USBDeviceInfoData.marshalling · keyboard) DeviceInfoData.unmarshalling keyboard :=
  unmarshalling_undoes_marshalling.2.2.1 keyboard
    [{ bInterfaceNumber := 0, bClass := 3, bSubClass := 1, bProtocol := 1 }] rfl (by decide)
    (by decide)

/-- A device without a bus type is written, but not read back. -/
theorem invalidBus_not_read :
    (USBDevice.marshalling (fun _ _ => true)
        { busType := 0, deviceId := 0, descripton := [], productId := 0, vendorId := 0 }).run.run
        [] = (.ok (), [.uint32 0, .uint64 0, .string [], .uint16 0, .uint16 0]) ∧
      (DeviceData.unmarshalling.run
        [.uint32 0, .uint64 0, .string [], .uint16 0, .uint16 0]).1 = none ∧
      ¬ ∀ d : USBDevice, RoundTrips (USBDevice.marshalling · d) DeviceData.unmarshalling d := by
  refine ⟨rfl, rfl, fun hall => ?_⟩
  have hbus := (USBDevice.roundTrips_iff_usb
    { busType := 0, deviceId := 0, descripton := [], productId := 0, vendorId := 0 }).mp (hall _)
  exact absurd hbus (by decide)

end ExtDevMgr.Ipc
