import ExtDevMgr.Base.Bytes
import ExtDevMgr.Ipc.Types
import ExtDevMgr.Manager.Controller

/-!
# Device ids

The 64 bits of a device id hold a bus type and a bus device id. `DeviceInfo` reads them through a
union, `QueryDeviceByDeviceID` through a pointer and `GetBusTypeByDeviceId` with a mask. The union is
modelled by its bytes, in the order of a little-endian host.
-/

namespace ExtDevMgr.Manager
open Bytes Ipc

/-- The union `DevInfo`: the object of eight bytes that `deviceId` and `devBusInfo` share. -/
structure DevInfo where
  bytes : List UInt8
  length_bytes : bytes.length = 8

namespace DevInfo

def deviceId (devInfo : DevInfo) : UInt64 := UInt64.ofNat (ofLe devInfo.bytes)

/-- `devBusInfo.busType`. -/
def busType (devInfo : DevInfo) : BusType := UInt32.ofNat (ofLe (devInfo.bytes.take 4))

/-- `devBusInfo.busDeviceId`. -/
def busDeviceId (devInfo : DevInfo) : UInt32 := UInt32.ofNat (ofLe (devInfo.bytes.drop 4))

/-- The union after the two stores into `devBusInfo`. -/
def ofDevBusInfo (busType : BusType) (busDeviceId : UInt32) : DevInfo where
  bytes := le 4 busType.toNat ++ le 4 busDeviceId.toNat
  length_bytes := by rw [List.length_append, length_le, length_le]

end DevInfo

structure DeviceInfo where
  devInfo : DevInfo
  description : Name

namespace DeviceInfo

/-- The constructor. -/
def new (busDeviceId : UInt32) (busType : BusType) (description : Name) : DeviceInfo where
  devInfo := .ofDevBusInfo busType busDeviceId
  description

def getBusType (info : DeviceInfo) : BusType := info.devInfo.busType

def getDeviceId (info : DeviceInfo) : UInt64 := info.devInfo.deviceId

def getBusDevId (info : DeviceInfo) : UInt32 := info.devInfo.busDeviceId

def getDeviceDescription (info : DeviceInfo) : Name := info.description

end DeviceInfo

/-- The bus type that `QueryDeviceByDeviceID` looks under, the first four bytes of its argument. -/
def queriedBusType (deviceId : UInt64) : BusType :=
  UInt32.ofNat (ofLe ((le 8 deviceId.toNat).take 4))

structure UsbDev where
  busNum : UInt8
  devAddr : UInt8

def toBusDeivceId (usbDev : UsbDev) : UInt32 :=
  UInt32.ofNat (usbDev.busNum.toNat <<< 16 + usbDev.devAddr.toNat)

def toExtDevId (usbDev : UsbDev) : UInt64 :=
  (DevInfo.ofDevBusInfo busTypeUsb (toBusDeivceId usbDev)).deviceId

/-! ## What the decoders see -/

namespace DevInfo
variable (devInfo : DevInfo)

theorem length_take : (devInfo.bytes.take 4).length = 4 := by
  rw [List.length_take, devInfo.length_bytes]
  rfl

theorem length_drop : (devInfo.bytes.drop 4).length = 4 := by
  rw [List.length_drop, devInfo.length_bytes]

theorem busType_toNat : devInfo.busType.toNat = ofLe (devInfo.bytes.take 4) :=
  toNat_ofLe32 devInfo.length_take

theorem busDeviceId_toNat : devInfo.busDeviceId.toNat = ofLe (devInfo.bytes.drop 4) :=
  toNat_ofLe32 devInfo.length_drop

/-- The bus type is the lower half of the id and the bus device id the upper one. -/
theorem deviceId_toNat :
    devInfo.deviceId.toNat = devInfo.busType.toNat + 2 ^ 32 * devInfo.busDeviceId.toNat := by
  have happend := @ofLe_append (devInfo.bytes.take 4) (devInfo.bytes.drop 4)
  rw [List.take_append_drop, length_take] at happend
  rw [deviceId, toNat_ofLe64 devInfo.length_bytes, busType_toNat, busDeviceId_toNat]
  exact happend

@[simp] theorem busType_ofDevBusInfo (busType : BusType) (busDeviceId : UInt32) :
    (ofDevBusInfo busType busDeviceId).busType = busType := by
  apply UInt32.toNat_inj.mp
  rw [busType_toNat]
  exact (congrArg ofLe (List.take_left' length_le)).trans (ofLe_le_of_lt busType.toNat_lt)

@[simp] theorem busDeviceId_ofDevBusInfo (busType : BusType) (busDeviceId : UInt32) :
    (ofDevBusInfo busType busDeviceId).busDeviceId = busDeviceId := by
  apply UInt32.toNat_inj.mp
  rw [busDeviceId_toNat]
  exact (congrArg ofLe (List.drop_left' length_le)).trans (ofLe_le_of_lt busDeviceId.toNat_lt)

variable {devInfo}

theorem deviceId_inj {devInfo' : DevInfo} : devInfo.deviceId = devInfo'.deviceId ↔
    devInfo.busType = devInfo'.busType ∧ devInfo.busDeviceId = devInfo'.busDeviceId := by
  rw [← UInt64.toNat_inj, deviceId_toNat, deviceId_toNat, ← UInt32.toNat_inj, ← UInt32.toNat_inj]
  have hlt := devInfo.busType.toNat_lt
  have hlt' := devInfo'.busType.toNat_lt
  omega

end DevInfo

/-- The bytes of an id are those of the union that holds it. -/
theorem DevInfo.bytes_deviceId (devInfo : DevInfo) : le 8 devInfo.deviceId.toNat = devInfo.bytes := by
  apply ofLe_injective
  · rw [length_le, devInfo.length_bytes]
  · rw [ofLe_le_of_lt devInfo.deviceId.toNat_lt, deviceId, toNat_ofLe64 devInfo.length_bytes]

/-- The pointer sees what the union does. -/
theorem queriedBusType_getDeviceId (info : DeviceInfo) :
    queriedBusType info.getDeviceId = info.getBusType := by
  rw [queriedBusType, DeviceInfo.getDeviceId, DevInfo.bytes_deviceId]
  rfl

theorem exists_deviceInfo (deviceId : UInt64) : ∃ info : DeviceInfo, info.getDeviceId = deviceId := by
  refine ⟨⟨⟨le 8 deviceId.toNat, length_le⟩, []⟩, ?_⟩
  apply UInt64.toNat_inj.mp
  exact (toNat_ofLe64 length_le).trans (ofLe_le_of_lt deviceId.toNat_lt)

theorem queriedBusType_toNat (deviceId : UInt64) :
    (queriedBusType deviceId).toNat = deviceId.toNat % 2 ^ 32 := by
  obtain ⟨info, rfl⟩ := exists_deviceInfo deviceId
  have hlt := info.devInfo.busType.toNat_lt
  rw [queriedBusType_getDeviceId, DeviceInfo.getBusType, DeviceInfo.getDeviceId,
    DevInfo.deviceId_toNat]
  omega

/-- The key that the manager files a device under is the one that it looks under. -/
theorem queriedBusType_eq_busType (deviceId : UInt64) :
    queriedBusType deviceId = DeviceId.busType deviceId := by
  apply UInt32.toNat_inj.mp
  rw [queriedBusType_toNat, DeviceId.busType, UInt64.toNat_toUInt32]

theorem getBusTypeByDeviceId_toNat (deviceId : UInt64) :
    (DeviceInfoData.getBusTypeByDeviceId deviceId).toNat = deviceId.toNat % 2 ^ 28 := by
  have hmask : (0x00000000FFFFFFF : UInt64).toNat = 2 ^ 28 - 1 := rfl
  rw [DeviceInfoData.getBusTypeByDeviceId, UInt64.toNat_toUInt32, UInt64.toNat_and, hmask,
    Nat.and_two_pow_sub_one_eq_mod]
  omega

/-- The mask misses the highest digit of the bus type. -/
theorem getBusTypeByDeviceId_eq_iff (deviceId : UInt64) :
    DeviceInfoData.getBusTypeByDeviceId deviceId = queriedBusType deviceId ↔
      queriedBusType deviceId < 0x10000000 := by
  have hbound : (0x10000000 : UInt32).toNat = 2 ^ 28 := rfl
  rw [← UInt32.toNat_inj, UInt32.lt_iff_toNat_lt, getBusTypeByDeviceId_toNat, queriedBusType_toNat,
    hbound]
  omega

/-! ## The decoders agree -/

/-- The decoders see one bus type in the received id and in the id of a device built from the words,
and the words of a device and its id determine each other. -/
structure DecodersAgree (deviceId : UInt64) (busDeviceId : UInt32) (busType : BusType)
    (description : Name) : Prop where
  received : ∀ info : DeviceInfo, info.getDeviceId = deviceId →
    info.getBusType = queriedBusType deviceId ∧
      info.getBusType = DeviceInfoData.getBusTypeByDeviceId deviceId
  built : (DeviceInfo.new busDeviceId busType description).getBusType =
      queriedBusType (DeviceInfo.new busDeviceId busType description).getDeviceId ∧
    (DeviceInfo.new busDeviceId busType description).getBusType =
      DeviceInfoData.getBusTypeByDeviceId (DeviceInfo.new busDeviceId busType description).getDeviceId
  recovered : (DeviceInfo.new busDeviceId busType description).getBusType = busType ∧
    (DeviceInfo.new busDeviceId busType description).getBusDevId = busDeviceId
  determined : ∀ info : DeviceInfo,
    info.getDeviceId = (DeviceInfo.new busDeviceId busType description).getDeviceId ↔
      info.getBusType = busType ∧ info.getBusDevId = busDeviceId

theorem getBusType_new (busDeviceId : UInt32) (busType : BusType) (description : Name) :
    (DeviceInfo.new busDeviceId busType description).getBusType = busType :=
  DevInfo.busType_ofDevBusInfo busType busDeviceId

theorem getBusDevId_new (busDeviceId : UInt32) (busType : BusType) (description : Name) :
    (DeviceInfo.new busDeviceId busType description).getBusDevId = busDeviceId :=
  DevInfo.busDeviceId_ofDevBusInfo busType busDeviceId

theorem decodersAgree_iff (deviceId : UInt64) (busDeviceId : UInt32) (busType : BusType)
    (description : Name) :
    DecodersAgree deviceId busDeviceId busType description ↔
      deviceId.toUInt32 < 0x10000000 ∧ busType < 0x10000000 := by
  have hseen : ∀ info : DeviceInfo,
      info.getBusType = DeviceInfoData.getBusTypeByDeviceId info.getDeviceId ↔
        info.getBusType < 0x10000000 := by
    intro info
    rw [← queriedBusType_getDeviceId, eq_comm]
    exact getBusTypeByDeviceId_eq_iff info.getDeviceId
  have hword : queriedBusType deviceId = deviceId.toUInt32 := queriedBusType_eq_busType deviceId
  constructor
  · intro h
    obtain ⟨info, hinfo⟩ := exists_deviceInfo deviceId
    have hreceived := (hseen info).mp (hinfo.symm ▸ (h.received info hinfo).2)
    have hbuilt := (hseen _).mp h.built.2
    rw [← queriedBusType_getDeviceId, hinfo, hword] at hreceived
    rw [getBusType_new] at hbuilt
    exact ⟨hreceived, hbuilt⟩
  · rintro ⟨hreceived, hbuilt⟩
    refine ⟨?_, ⟨?_, ?_⟩, ⟨?_, ?_⟩, ?_⟩
    · intro info hinfo
      subst hinfo
      refine ⟨(queriedBusType_getDeviceId info).symm, (hseen info).mpr ?_⟩
      rwa [← queriedBusType_getDeviceId, hword]
    · exact (queriedBusType_getDeviceId _).symm
    · apply (hseen _).mpr
      rwa [getBusType_new]
    · exact getBusType_new busDeviceId busType description
    · exact getBusDevId_new busDeviceId busType description
    · intro info
      rw [DeviceInfo.getDeviceId, DeviceInfo.getDeviceId, DevInfo.deviceId_inj]
      exact iff_of_eq (congrArg₂ (fun t d => info.getBusType = t ∧ info.getBusDevId = d)
        (getBusType_new busDeviceId busType description)
        (getBusDevId_new busDeviceId busType description))

/-- A bus type with a bit behind the mask. -/
theorem not_forall_decodersAgree :
    ¬∀ (deviceId : UInt64) (busDeviceId : UInt32) (busType : BusType) (description : Name),
      DecodersAgree deviceId busDeviceId busType description := by
  intro h
  have hbuilt := (h 0 7 0x10000001 []).built.2
  exact absurd hbuilt (by decide)

/-- The ids that the USB subscriber makes are seen alike. -/
theorem toExtDevId_agree (usbDev : UsbDev) :
    queriedBusType (toExtDevId usbDev) = busTypeUsb ∧
      DeviceInfoData.getBusTypeByDeviceId (toExtDevId usbDev) = busTypeUsb := by
  have hqueried : queriedBusType (toExtDevId usbDev) = busTypeUsb :=
    (queriedBusType_getDeviceId (.new (toBusDeivceId usbDev) busTypeUsb [])).trans
      (getBusType_new (toBusDeivceId usbDev) busTypeUsb [])
  refine ⟨hqueried, ?_⟩
  have hagree := (getBusTypeByDeviceId_eq_iff (toExtDevId usbDev)).mpr
  rw [hqueried] at hagree
  exact hagree (by decide)

end ExtDevMgr.Manager
