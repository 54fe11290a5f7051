import ExtDevMgr.Ipc.Types
import ExtDevMgr.Manager.Permission
import ExtDevMgr.Manager.System
import ExtDevMgr.Notify.EventConfig
import ExtDevMgr.Pkg.MatchDriver
import ExtDevMgr.Usb.Attach

/-!
# The service

`driver_ext_mgr.cpp`: what clients may ask of the device manager, the package manager and the fault
notifications. Every request looks at its caller first.
-/

namespace ExtDevMgr.Service
open Manager Manager.ExtDeviceManager Manager.ExtPermissionManager
open Ipc (Str busTypeUsb busTypeInvalid busTypeMax)

/-- `PERMISSION_NAME`. -/
def permissionName : Name := "ohos.permission.ACCESS_EXTENSIONAL_DEVICE_DRIVER".toList

/-- The caller of a request, with what its tokens say of it. -/
structure Caller where
  tokenId : UInt32
  isSystemAppByFullTokenId : Bool
  isTokenNative : Bool

/-- `ExtPermissionManager::IsSystemAppOrSa`. -/
def isSystemAppOrSa (c : Caller) : Bool :=
  if c.isSystemAppByFullTokenId then true else c.isTokenNative

/-- The out parameter `errorCode`. -/
inductive ErrorCode
  | ret (ret : UsbErrCode)
  | edmErrNotSystemApp
  deriving DecidableEq

def edmOk : ErrorCode := .ret .edmOk
def edmNok : ErrorCode := .ret .edmNok

/-- The caller's queries are answered. -/
def MayQuery (t : TokenReplies) (c : Caller) : Prop :=
  isSystemAppOrSa c = true ∧ verifyPermission t c.tokenId permissionName = true

/-! ## Devices -/

/-- The records of the devices in the map; `utf8` gives the bytes of a string. -/
structure DeviceRecords where
  info : DeviceId → Usb.UsbDeviceInfo
  utf8 : Name → Str

/-- The body of the loop of `QueryDevice`. -/
def toDeviceData (records : DeviceRecords) (id : DeviceId) : Option Ipc.USBDevice :=
  if id.busType = busTypeUsb then
    some {
      busType := id.busType
      deviceId := id
      descripton := records.utf8 (records.info id).description
      productId := (records.info id).idProduct
      vendorId := (records.info id).idVendor }
  else
    none

def queryDevice (t : TokenReplies) (records : DeviceRecords) (c : Caller) (busType : UInt32)
    (m : ExtDeviceManager) : ErrorCode × List Ipc.USBDevice :=
  if !verifyPermission t c.tokenId permissionName then
    (.ret .edmErrNoPerm, [])
  else if busType = busTypeInvalid then
    (.ret .edmErrInvalidParam, [])
  else
    (edmOk, (m.queryDevice busType).filterMap (toDeviceData records))

def parseToInterfaceDesc (desc : Usb.UsbInterfaceDescriptor) : Ipc.USBInterfaceDesc where
  bInterfaceNumber := desc.bInterfaceNumber
  bClass := desc.bInterfaceClass
  bSubClass := desc.bInterfaceSubClass
  bProtocol := desc.bInterfaceProtocol

def parseToDeviceInfoData (records : DeviceRecords) (d : Device) : Option Ipc.USBDeviceInfoData :=
  if d.info.busType ≤ busTypeInvalid ∨ d.info.busType ≥ busTypeMax then
    none
  else if d.info.busType = busTypeUsb then
    some {
      deviceId := d.info
      isDriverMatched := d.hasDriver
      driverUid := if d.hasDriver then records.utf8 d.driverUid else []
      productId := (records.info d.info).idProduct
      vendorId := (records.info d.info).idVendor
      interfaceDescList :=
        (records.info d.info).interfaceDescList.map fun desc => some (parseToInterfaceDesc desc) }
  else
    none

/-- `deviceId` is given where the query is by device id. -/
def queryDeviceInfo (t : TokenReplies) (records : DeviceRecords) (c : Caller)
    (deviceId : Option DeviceId) (m : ExtDeviceManager) : ErrorCode × List Ipc.USBDeviceInfoData :=
  if !isSystemAppOrSa c then
    (.edmErrNotSystemApp, [])
  else if !verifyPermission t c.tokenId permissionName then
    (.ret .edmErrNoPerm, [])
  else
    let devices := match deviceId with
      | some deviceId => m.queryDevicesById deviceId
      | none => m.queryAllDevices
    (edmOk, devices.filterMap fun obj => parseToDeviceInfoData records (m.objects obj))

/-! ## Drivers -/

section
variable (lib : Json.CJsonLib) (scan : Pkg.ScanReplies) (store : Pkg.StoreReplies)

/-- The loop of `DriverPkgManager::QueryDriverInfo`: one row that is not decoded fails the query. -/
def decodePkgInfos (usb : Bool) : List Pkg.PkgInfoTable → Option (List Pkg.DriverInfo)
  | [] => some []
  | pkgInfo :: pkgInfos =>
    let driverInfo :=
      Pkg.newDriverInfo pkgInfo.bundleName pkgInfo.driverName pkgInfo.driverUid pkgInfo.userId
    match driverInfo.unSerialize lib usb pkgInfo.driverInfo with
    | (.edmOk, driverInfo) => (decodePkgInfos usb pkgInfos).map (driverInfo :: ·)
    | _ => none

/-- `DriverPkgManager::QueryDriverInfo`, `none` where it returns `EDM_NOK`. `driverUid` is given where
the query is by driver uid. -/
def queryPkgDriverInfo (bundleStateCallback : Option Pkg.DrvBundleStateCallback)
    (driverUid : Option Name) : Option (List Pkg.DriverInfo) :=
  match bundleStateCallback with
  | none => none
  | some s =>
    let (scanned, s) := s.getAllDriverInfos lib scan
    if !scanned then
      none
    else
      let (pkgSize, pkgInfos, _) := Pkg.PkgDbHelper.queryPkgInfosByDriverUid store driverUid.isSome
        (driverUid.getD []) [] (.ready s.initialised s.table)
      if pkgSize < 0 then none else decodePkgInfos lib scan.environment.usb pkgInfos

def parseToDriverInfoData (utf8 : Name → Str) (d : Pkg.DriverInfo) :
    Option Ipc.USBDriverInfoData :=
  match d.driverInfoExt with
  | none => none
  | some ext =>
    if d.busType ≤ busTypeInvalid ∨ d.busType ≥ busTypeMax then
      none
    else if d.busType = busTypeUsb then
      some {
        busType := d.busType
        driverUid := utf8 d.driverUid
        driverName := utf8 d.driverName
        bundleSize := utf8 d.driverSize
        version := utf8 d.version
        description := utf8 d.description
        pids := ext.pids
        vids := ext.vids }
    else
      none

def queryDriverInfo (t : TokenReplies) (utf8 : Name → Str) (c : Caller)
    (bundleStateCallback : Option Pkg.DrvBundleStateCallback) (driverUid : Option Name) :
    ErrorCode × List Ipc.USBDriverInfoData :=
  if !isSystemAppOrSa c then
    (.edmErrNotSystemApp, [])
  else if !verifyPermission t c.tokenId permissionName then
    (.ret .edmErrNoPerm, [])
  else
    match queryPkgDriverInfo lib scan store bundleStateCallback driverUid with
    | none => (edmNok, [])
    | some driverInfos => (edmOk, driverInfos.filterMap (parseToDriverInfoData utf8))

end

/-! ## Binds -/

section
variable (t : TokenReplies) (r : Replies) (c : Caller) (deviceId : DeviceId)
  (connectCallback : Option DriverExtMgrCallback) (m : ExtDeviceManager)

def bindDevice : ErrorCode × ExtDeviceManager :=
  if !verifyPermission t c.tokenId permissionName then
    (.ret .edmErrNoPerm, m)
  else
    let (ret, m) := m.connectDevice r deviceId c.tokenId connectCallback
    (.ret ret, m)

def unBindDevice : ErrorCode × ExtDeviceManager :=
  if !verifyPermission t c.tokenId permissionName then
    (.ret .edmErrNoPerm, m)
  else
    let (ret, m) := m.disConnectDevice r deviceId c.tokenId
    (.ret ret, m)

def bindDriverWithDeviceId (access : AccessReplies) : ErrorCode × ExtDeviceManager :=
  let (ret, m) :=
    Manager.bindDriverWithDeviceId t r access c.tokenId deviceId connectCallback m
  (.ret ret, m)

def unBindDriverWithDeviceId : ErrorCode × ExtDeviceManager :=
  if !verifyPermission t c.tokenId accessDdkDriversPermission then
    (.ret .edmErrNoPerm, m)
  else
    let (ret, m) := m.disConnectDriverWithDeviceId r deviceId c.tokenId
    (.ret ret, m)

end

/-! ## A system application -/

def systemApp : Caller where
  tokenId := 7
  isSystemAppByFullTokenId := true
  isTokenNative := false

def allowing : TokenReplies where
  verifyAccessToken _ _ := true
  getReqPermissionByName _ _ := none
  cJsonParse _ := none

def ascii (s : Name) : Str := s.map fun c => c.toNat.toUInt8

/-- Every device is a mouse. -/
def mice : DeviceRecords where
  info id :=
    { busDeviceId := (id >>> 32).toUInt32
      description := "Mouse".toList
      bcdUSB := 0x0200
      deviceClass := 0
      idVendor := 0x1234
      idProduct := 0x5678
      deviceSubClass := 0
      deviceProtocol := 0
      snNum := []
      interfaceDescList := [] }
  utf8 := ascii

end ExtDevMgr.Service
