import Mathlib.Algebra.Group.Int.Defs
import Mathlib.Algebra.Group.Nat.Defs
import ExtDevMgr.Base.Region

/-!
# SCSI transfers through a memory map

The part of `scsi_ddk_api.cpp` that reads into a device memory map. The mapping is shared with the
SCSI service, which always works at its front: `NormalizeMemMap` moves the caller's window there
before the call and `RestoreMemMap` moves the result back. The service, the type of the field
`memMapSize` of its requests and the codes of the frameworks are parameters.
-/

namespace ExtDevMgr.Scsi
open Region

abbrev scsiPeripheralDdkInvalidParameter : Int := 401
abbrev scsiPeripheralDdkSuccess : Int := 31700000
abbrev scsiPeripheralDdkMemoryError : Int := 31700001
abbrev scsiPeripheralDdkInitError : Int := 31700005
abbrev scsiPeripheralDdkServiceError : Int := 31700006

/-- `SECUREC_MEM_MAX_LEN`. -/
abbrev securecMemMaxLen : Nat := 0x7fffffff

/-- A null pointer is `none`; a mapping is the list of its bytes, so that `size` is its length. -/
structure ScsiPeripheralDeviceMemMap where
  address : Option (List UInt8)
  offset : UInt32
  bufferLength : UInt32
  transferredLength : UInt32

def ScsiPeripheralDeviceMemMap.memory (data : ScsiPeripheralDeviceMemMap) : List UInt8 :=
  data.address.getD []

def ScsiPeripheralDeviceMemMap.size (data : ScsiPeripheralDeviceMemMap) : Nat := data.memory.length

/-- The map once the bytes at `address` have become `memory`. -/
def ScsiPeripheralDeviceMemMap.withMemory (data : ScsiPeripheralDeviceMemMap)
    (memory : List UInt8) : ScsiPeripheralDeviceMemMap :=
  { data with address := data.address.map fun _ => memory }

/-- `memmove_s` from offset `src` to the `destMax` bytes at offset `dest`: whether it succeeds, and
the memory. A count over `destMax` clears the destination. -/
def memmoveS (memory : List UInt8) (dest destMax src count : Nat) : Bool × List UInt8 :=
  if destMax = 0 ∨ destMax > securecMemMaxLen then
    (false, memory)
  else if count > destMax then
    (false, store memory dest (List.replicate destMax 0))
  else
    (true, move memory dest src count)

theorem memmoveS_large (memory : List UInt8) (dest src count : Nat) {destMax : Nat}
    (h : securecMemMaxLen < destMax) : memmoveS memory dest destMax src count = (false, memory) :=
  if_pos (.inr h)

theorem memmoveS_le (memory : List UInt8) (dest src : Nat) {destMax count : Nat}
    (hpos : 0 < destMax) (hmax : destMax ≤ securecMemMaxLen) (hcount : count ≤ destMax) :
    memmoveS memory dest destMax src count = (true, move memory dest src count) := by
  rw [memmoveS, if_neg (by omega), if_neg (by omega)]

def validateMemMap (data : ScsiPeripheralDeviceMemMap) : Int :=
  if data.address.isNone then
    scsiPeripheralDdkInvalidParameter
  else if data.offset.toNat > data.size ∨
      data.bufferLength.toNat > data.size - data.offset.toNat then
    scsiPeripheralDdkInvalidParameter
  else if data.bufferLength = 0 then
    scsiPeripheralDdkInvalidParameter
  else
    scsiPeripheralDdkSuccess

def normalizeMemMap (data : ScsiPeripheralDeviceMemMap) : Int × ScsiPeripheralDeviceMemMap :=
  let ret := validateMemMap data
  if ret ≠ scsiPeripheralDdkSuccess then
    (ret, data)
  else if data.offset ≠ 0 ∧ data.bufferLength > 0 then
    let (ok, memory) :=
      memmoveS data.memory 0 data.size data.offset.toNat data.bufferLength.toNat
    if ok then
      (scsiPeripheralDdkSuccess, data.withMemory memory)
    else
      (scsiPeripheralDdkMemoryError, data.withMemory memory)
  else
    (scsiPeripheralDdkSuccess, data)

def restoreMemMap (data : ScsiPeripheralDeviceMemMap) (transferredLength : UInt32) :
    ScsiPeripheralDeviceMemMap :=
  if data.address.isNone ∨ data.offset = 0 ∨ transferredLength = 0 then
    data
  else
    let len := min transferredLength.toNat (data.size - data.offset.toNat)
    data.withMemory
      (memmoveS data.memory data.offset.toNat (data.size - data.offset.toNat) 0 len).2

/-! ## The service -/

/-- What the parts outside the repository fix: how a `size_t` is converted to the type of
`memMapSize`, which is unsigned, and the codes of the HDF and IPC frameworks. -/
structure Platform where
  toMemMapSize : Nat → Nat
  toMemMapSize_le : ∀ n, toMemMapSize n ≤ n
  hdfSuccess : Int
  ohIpcErrorCodeBase : Int
  ohIpcErrorCodeMax : Int

structure HdiIORequest where
  lbAddress : UInt32
  transferLength : UInt16
  control : UInt8
  byte1 : UInt8
  byte6 : UInt8
  memMapSize : Nat
  timeout : UInt32

structure HdiInquiryRequest where
  pageCode : UInt8
  allocationLength : UInt16
  control : UInt8
  byte1 : UInt8
  memMapSize : Nat
  timeout : UInt32

structure HdiRequest where
  commandDescriptorBlock : List UInt8
  dataTransferDirection : Int8
  memMapSize : Nat
  timeout : UInt32

structure HdiResponse where
  senseData : List UInt8
  status : UInt8
  maskedStatus : UInt8
  msgStatus : UInt8
  sbLenWr : UInt8
  hostStatus : UInt16
  driverStatus : UInt16
  resId : Int
  duration : UInt32
  transferredLength : Int

structure HdiInquiryInfo where
  deviceType : UInt8
  idVendor : List UInt8
  idProduct : List UInt8
  revProduct : List UInt8

/-- The device as the service knows it. -/
structure HdiDevice where
  devFd : Int
  memMapFd : Int
  lbLength : UInt32

/-- A reply of the service, and the bytes it has put at the front of the mapping. -/
structure ServiceReply where
  ret : Int
  response : HdiResponse
  written : List UInt8

/-- The service: its reply to a request, given the bytes of the mapping. -/
structure ScsiPeripheralDdk where
  read10 : HdiDevice → HdiIORequest → List UInt8 → ServiceReply
  inquiry : HdiDevice → HdiInquiryRequest → List UInt8 → ServiceReply × HdiInquiryInfo
  sendRequestByCdb : HdiDevice → HdiRequest → List UInt8 → ServiceReply

def transToDdkErrCode (platform : Platform) (ret : Int) : Int :=
  if ret = platform.hdfSuccess then
    scsiPeripheralDdkSuccess
  else if ret ≥ platform.ohIpcErrorCodeBase ∧ ret ≤ platform.ohIpcErrorCodeMax then
    scsiPeripheralDdkServiceError
  else
    ret

/-- `static_cast<uint32_t>`. -/
def toUInt32 (n : Int) : UInt32 := UInt32.ofInt n

theorem toUInt32_natCast_le (n : Nat) : (toUInt32 n).toNat ≤ n := by
  have hmod : ((n : Int) % 2 ^ 32).toNat ≤ n := by omega
  exact Nat.le_trans (Nat.mod_le _ _) hmod

/-- What a transfer leaves: the code, the map, and the reply if it succeeded. -/
structure Transfer (ι : Type) where
  ret : Int
  data : ScsiPeripheralDeviceMemMap
  reply : Option (ServiceReply × ι)

/-- The steps that the three operations share, from `NormalizeMemMap` to `RestoreMemMap`. -/
def transfer {ι : Type} (platform : Platform) (data : ScsiPeripheralDeviceMemMap)
    (call : List UInt8 → ServiceReply × ι) : Transfer ι :=
  let (ret, data) := normalizeMemMap data
  if ret ≠ scsiPeripheralDdkSuccess then
    { ret, data, reply := none }
  else
    let (reply, info) := call data.memory
    let data := data.withMemory (store data.memory 0 reply.written)
    let ret := transToDdkErrCode platform reply.ret
    if ret ≠ scsiPeripheralDdkSuccess then
      { ret, data, reply := none }
    else
      { ret
        data := restoreMemMap data (toUInt32 reply.response.transferredLength)
        reply := some (reply, info) }

/-! ## The operations -/

structure ScsiPeripheralResponse where
  senseData : List UInt8
  status : UInt8
  maskedStatus : UInt8
  msgStatus : UInt8
  sbLenWr : UInt8
  hostStatus : UInt16
  driverStatus : UInt16
  resId : Int
  duration : UInt32

structure ScsiPeripheralIORequest where
  lbAddress : UInt32
  transferLength : UInt16
  control : UInt8
  byte1 : UInt8
  byte6 : UInt8
  data : Option ScsiPeripheralDeviceMemMap
  timeout : UInt32

structure ScsiPeripheralInquiryRequest where
  pageCode : UInt8
  allocationLength : UInt16
  control : UInt8
  byte1 : UInt8
  timeout : UInt32

structure ScsiPeripheralInquiryInfo where
  deviceType : UInt8
  idVendor : List UInt8
  idProduct : List UInt8
  revProduct : List UInt8
  data : Option ScsiPeripheralDeviceMemMap

structure ScsiPeripheralRequest where
  commandDescriptorBlock : List UInt8
  cdbLength : UInt8
  dataTransferDirection : Int8
  data : Option ScsiPeripheralDeviceMemMap
  timeout : UInt32

/-- `CopyDataToArray`, for an array of `arr.length` characters: `none` when the data does not
fit. -/
def copyDataToArray (data arr : List UInt8) : Option (List UInt8) :=
  if data.length > arr.length then
    none
  else
    some ((store arr 0 data).set (arr.length - 1) 0)

def copyResponse (srcResp : HdiResponse) (desResp : ScsiPeripheralResponse) :
    Int × ScsiPeripheralResponse :=
  if srcResp.senseData.length > desResp.senseData.length then
    (scsiPeripheralDdkMemoryError,
      { desResp with senseData := List.replicate desResp.senseData.length 0 })
  else
    (scsiPeripheralDdkSuccess, {
      senseData := store desResp.senseData 0 srcResp.senseData
      status := srcResp.status
      maskedStatus := srcResp.maskedStatus
      msgStatus := srcResp.msgStatus
      sbLenWr := srcResp.sbLenWr
      hostStatus := srcResp.hostStatus
      driverStatus := srcResp.driverStatus
      resId := srcResp.resId
      duration := srcResp.duration })

/-- `ToHdi`. -/
def ScsiPeripheralIORequest.toHdi (request : ScsiPeripheralIORequest) (platform : Platform)
    (data : ScsiPeripheralDeviceMemMap) : HdiIORequest where
  lbAddress := request.lbAddress
  transferLength := request.transferLength
  control := request.control
  byte1 := request.byte1
  byte6 := request.byte6
  memMapSize := platform.toMemMapSize data.size
  timeout := request.timeout

def ScsiPeripheralInquiryRequest.toHdi (request : ScsiPeripheralInquiryRequest)
    (platform : Platform) (data : ScsiPeripheralDeviceMemMap) : HdiInquiryRequest where
  pageCode := request.pageCode
  allocationLength := request.allocationLength
  control := request.control
  byte1 := request.byte1
  memMapSize := platform.toMemMapSize data.size
  timeout := request.timeout

def ScsiPeripheralRequest.toHdi (request : ScsiPeripheralRequest) (platform : Platform)
    (data : ScsiPeripheralDeviceMemMap) : HdiRequest where
  commandDescriptorBlock := request.commandDescriptorBlock.take request.cdbLength.toNat
  dataTransferDirection := request.dataTransferDirection
  memMapSize := platform.toMemMapSize data.bufferLength.toNat
  timeout := request.timeout

section
variable (platform : Platform) (gDdk : Option ScsiPeripheralDdk) (dev : Option HdiDevice)

def ohScsiPeripheralRead10 (request : Option ScsiPeripheralIORequest)
    (response : Option ScsiPeripheralResponse) :
    Int × Option ScsiPeripheralIORequest × Option ScsiPeripheralResponse :=
  match gDdk with
  | none => (scsiPeripheralDdkInitError, request, response)
  | some ddk =>
    match dev, request, request.bind (·.data), response with
    | some dev, some req, some data, some resp =>
      let hdiRequest := req.toHdi platform data
      let t := transfer platform data fun memory => (ddk.read10 dev hdiRequest memory, ())
      match t.reply with
      | none => (t.ret, some { req with data := some t.data }, response)
      | some (reply, _) =>
        let transferredLength := toUInt32 reply.response.transferredLength
        let (ret, resp) := copyResponse reply.response resp
        (ret, some { req with data := some { t.data with transferredLength } }, some resp)
    | _, _, _, _ => (scsiPeripheralDdkInvalidParameter, request, response)

def ohScsiPeripheralInquiry (request : Option ScsiPeripheralInquiryRequest)
    (inquiryInfo : Option ScsiPeripheralInquiryInfo) (response : Option ScsiPeripheralResponse) :
    Int × Option ScsiPeripheralInquiryInfo × Option ScsiPeripheralResponse :=
  match gDdk with
  | none => (scsiPeripheralDdkInitError, inquiryInfo, response)
  | some ddk =>
    match dev, request, inquiryInfo, inquiryInfo.bind (·.data), response with
    | some dev, some req, some info, some data, some resp =>
      let hdiRequest := req.toHdi platform data
      let t := transfer platform data (ddk.inquiry dev hdiRequest)
      let info := { info with data := some t.data }
      match t.reply with
      | none => (t.ret, some info, response)
      | some (reply, hdiInquiryInfo) =>
        let info := { info with deviceType := hdiInquiryInfo.deviceType }
        match copyDataToArray hdiInquiryInfo.idVendor info.idVendor with
        | none => (scsiPeripheralDdkMemoryError, some info, response)
        | some idVendor =>
          let info := { info with idVendor }
          match copyDataToArray hdiInquiryInfo.idProduct info.idProduct with
          | none => (scsiPeripheralDdkMemoryError, some info, response)
          | some idProduct =>
            let info := { info with idProduct }
            match copyDataToArray hdiInquiryInfo.revProduct info.revProduct with
            | none => (scsiPeripheralDdkMemoryError, some info, response)
            | some revProduct =>
              let transferredLength := toUInt32 reply.response.transferredLength
              let (ret, resp) := copyResponse reply.response resp
              (ret, some { info with
                revProduct, data := some { t.data with transferredLength } }, some resp)
    | _, _, _, _, _ => (scsiPeripheralDdkInvalidParameter, inquiryInfo, response)

def ohScsiPeripheralSendRequestByCdb (request : Option ScsiPeripheralRequest)
    (response : Option ScsiPeripheralResponse) :
    Int × Option ScsiPeripheralRequest × Option ScsiPeripheralResponse :=
  match gDdk with
  | none => (scsiPeripheralDdkInitError, request, response)
  | some ddk =>
    match dev, request, request.bind (·.data), response with
    | some dev, some req, some data, some resp =>
      if req.cdbLength = 0 then
        (scsiPeripheralDdkInvalidParameter, request, response)
      else
        let hdiRequest := req.toHdi platform data
        let t := transfer platform data fun memory =>
          (ddk.sendRequestByCdb dev hdiRequest memory, ())
        match t.reply with
        | none => (t.ret, some { req with data := some t.data }, response)
        | some (reply, _) =>
          let transferredLength := toUInt32 reply.response.transferredLength
          let (ret, resp) := copyResponse reply.response resp
          (ret, some { req with data := some { t.data with transferredLength } }, some resp)
    | _, _, _, _ => (scsiPeripheralDdkInvalidParameter, request, response)

end

end ExtDevMgr.Scsi
