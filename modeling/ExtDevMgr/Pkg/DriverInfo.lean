import ExtDevMgr.Json.CJson

/-!
# Driver records

`driver_info.cpp` and `usb_driver_info.cpp`: a driver record is written as a JSON object whose member
`ext_info` is the printed JSON object of the vendor and product ids, and read back from it
(`unSerialize_serialize`).
-/

namespace ExtDevMgr.Pkg
open Json

inductive EdmErr
  | edmOk
  | edmErrInvalidObject
  | edmErrJsonParseFail
  | edmErrJsonObjErr
  | edmErrNotSupport
  deriving DecidableEq

/-- The underlying type of the enumeration. -/
abbrev BusType := UInt32

abbrev busTypeInvalid : BusType := 0
abbrev busTypeUsb : BusType := 1
abbrev busTypeMax : BusType := 2

/-- `LowerStr`. -/
def lowerStr (s : Text) : Text := s.map Char.toLower

/-! ## Bus extensions -/

namespace BusExtensionCore

/-- `busTypeMap_` has the one name. -/
def getBusTypeByName (busName : Text) : BusType :=
  if lowerStr busName = "usb".toList then busTypeUsb else busTypeInvalid

/-- Whether there is a bus extension of the name, where `usb` says whether the USB extension is
registered. -/
def getBusExtensionByName (usb : Bool) (busName : Text) : Bool :=
  let busType := getBusTypeByName busName
  if busType ≤ busTypeInvalid ∨ busType ≥ busTypeMax then
    false
  else
    usb && busType == busTypeUsb

theorem getBusExtensionByName_iff {usb : Bool} {busName : Text} :
    getBusExtensionByName usb busName = true ↔ usb = true ∧ lowerStr busName = "usb".toList := by
  rw [getBusExtensionByName, getBusTypeByName]
  split
  · rename_i hname
    rw [if_neg (by decide), beq_self_eq_true, Bool.and_true]
    exact (and_iff_left hname).symm
  · rename_i hname
    rw [if_pos (by decide)]
    exact iff_of_false Bool.false_ne_true fun h => hname h.2

end BusExtensionCore

/-! ## The USB part -/

structure UsbDriverInfo where
  pids : List UInt16 := []
  vids : List UInt16 := []
  deriving DecidableEq

/-- `SetArrayToObj`. -/
def setArrayToObj (obj : CJson) (key : Text) (arr : List UInt16) : CJson :=
  obj.addItem key (.array (arr.map fun item => .number item.toNat))

/-- The elements of an array of numbers, `none` where one is no number. -/
def numbers : List CJson → Option (List UInt16)
  | [] => some []
  | .number valuedouble :: items => (numbers items).map (toUInt16 valuedouble :: ·)
  | _ => none

/-- `GetObjectItem`. -/
def getUint16Array (jsonObj : CJson) (key : Text) : Option (List UInt16) :=
  match jsonObj.getObjectItem key with
  | some (.array items) => numbers items
  | _ => none

namespace UsbDriverInfo
variable (lib : CJsonLib)

def toJson (info : UsbDriverInfo) : CJson :=
  setArrayToObj (setArrayToObj (.object []) "pids".toList info.pids) "vids".toList info.vids

def serialize (info : UsbDriverInfo) : EdmErr × Text :=
  (.edmOk, lib.printUnformatted info.toJson)

def unSerialize (driverStr : Text) (info : UsbDriverInfo) : EdmErr × UsbDriverInfo :=
  match lib.parse (cStr driverStr) with
  | none => (.edmErrJsonParseFail, info)
  | some jsonObj =>
    if jsonObj.getArraySize = 0 then
      (.edmErrJsonParseFail, info)
    else
      match getUint16Array jsonObj "pids".toList, getUint16Array jsonObj "vids".toList with
      | some pids, some vids => (.edmOk, { info with pids, vids })
      | _, _ => (.edmErrJsonObjErr, info)

end UsbDriverInfo

/-! ## The record -/

/-- Conversion to `int32_t`. -/
def toInt32 (n : Int) : Int := n.bmod (2 ^ 32)

/-- The only kind of `DriverInfoExt` is `UsbDriverInfo`. -/
structure DriverInfo where
  bus : Text := []
  busType : BusType := 0
  driverUid : Text
  userId : Int := -1
  bundleName : Text
  driverName : Text
  vendor : Text := []
  version : Text := []
  description : Text := []
  driverSize : Text := []
  launchOnBind : Bool := false
  accessAllowed : Bool := false
  driverInfoExt : Option UsbDriverInfo := none
  deriving DecidableEq

/-- `IsJsonObjValid`. -/
def isJsonObjValid (jsonObj : CJson) (member : Text) : Bool :=
  match jsonObj.getObjectItem member with
  | some (.string _) => true
  | _ => false

def checkJsonObj (jsonObj : CJson) : EdmErr :=
  if jsonObj.getArraySize = 0 then
    .edmErrJsonObjErr
  else if !isJsonObjValid jsonObj "bus".toList || !isJsonObjValid jsonObj "vendor".toList ||
      !isJsonObjValid jsonObj "version".toList || !isJsonObjValid jsonObj "ext_info".toList then
    .edmErrJsonObjErr
  else
    .edmOk

def getBoolValue (jsonObj : CJson) (key : Text) : Bool :=
  match jsonObj.getObjectItem key with
  | some (.bool value) => value
  | _ => false

def getStringValue (jsonObj : CJson) (key : Text) : Text :=
  match jsonObj.getObjectItem key with
  | some (.string valuestring) => valuestring
  | _ => []

namespace DriverInfo
variable (lib : CJsonLib)

/-- The object that is printed, with the printed USB part `extInfo`. -/
def toJson (d : DriverInfo) (extInfo : Text) : CJson :=
  CJson.object []
    |>.addString "bus".toList d.bus
    |>.addString "vendor".toList d.vendor
    |>.addString "version".toList d.version
    |>.addString "size".toList d.driverSize
    |>.addString "description".toList d.description
    |>.addString "ext_info".toList extInfo
    |>.addBool "launch_on_bind".toList d.launchOnBind
    |>.addBool "access_allowed".toList d.accessAllowed

/-- The code, and the string where it is set. -/
def serialize (d : DriverInfo) : EdmErr × Option Text :=
  match d.driverInfoExt with
  | none => (.edmErrInvalidObject, none)
  | some ext => (.edmOk, some (lib.printUnformatted (d.toJson (ext.serialize lib).2)))

/-- `usb` says whether the USB extension is registered. -/
def unSerialize (usb : Bool) (str : Text) (d : DriverInfo) : EdmErr × DriverInfo :=
  match lib.parse (cStr str) with
  | none => (.edmErrJsonParseFail, d)
  | some jsonObj =>
    let retCode := checkJsonObj jsonObj
    if retCode ≠ .edmOk then
      (retCode, d)
    else
      let busType := getStringValue jsonObj "bus".toList
      if !BusExtensionCore.getBusExtensionByName usb (lowerStr busType) then
        (.edmErrNotSupport, d)
      else
        let extInfo := getStringValue jsonObj "ext_info".toList
        let (ret, ext) := UsbDriverInfo.unSerialize lib extInfo {}
        if ret ≠ .edmOk then
          (ret, { d with driverInfoExt := some ext })
        else
          (.edmOk, { d with
            driverInfoExt := some ext
            bus := busType
            busType := BusExtensionCore.getBusTypeByName busType
            vendor := getStringValue jsonObj "vendor".toList
            version := getStringValue jsonObj "version".toList
            driverSize := getStringValue jsonObj "size".toList
            description := getStringValue jsonObj "description".toList
            launchOnBind := getBoolValue jsonObj "launch_on_bind".toList
            accessAllowed := getBoolValue jsonObj "access_allowed".toList })

end DriverInfo

/-! ## The round trip -/

theorem numbers_map (arr : List UInt16) :
    numbers (arr.map fun item => .number item.toNat) = some arr := by
  induction arr with
  | nil => rfl
  | cons item arr ih =>
    rw [List.map_cons, numbers, ih, Option.map_some, toUInt16_natCast]

theorem UsbDriverInfo.unSerialize_serialize {lib : CJsonLib} {info : UsbDriverInfo}
    (h : lib.Inverse info.toJson) (fresh : UsbDriverInfo) :
    unSerialize lib (info.serialize lib).2 fresh = (.edmOk, info) := by
  have hpids : getUint16Array info.toJson "pids".toList = some info.pids := numbers_map info.pids
  have hvids : getUint16Array info.toJson "vids".toList = some info.vids := numbers_map info.vids
  have hsize : info.toJson.getArraySize = 2 := rfl
  have hparse : lib.parse (info.serialize lib).2 = some info.toJson := h
  have hstr : cStr (info.serialize lib).2 = (info.serialize lib).2 := lib.cStr_print _
  rw [unSerialize, hstr, hparse]
  dsimp only
  rw [hsize, if_neg (by decide), hpids, hvids]

/-- What a reader may rely on: every string ends where it seems to, and the bus is the one that the
bus extensions know. -/
structure DriverInfo.Wellformed (d : DriverInfo) : Prop where
  bus : '\x00' ∉ d.bus
  vendor : '\x00' ∉ d.vendor
  version : '\x00' ∉ d.version
  driverSize : '\x00' ∉ d.driverSize
  description : '\x00' ∉ d.description
  busType : d.busType = BusExtensionCore.getBusTypeByName d.bus
  usb : lowerStr d.bus = "usb".toList

/-- `fresh` with everything of `d` that is serialized. -/
def DriverInfo.reloadedInto (d fresh : DriverInfo) : DriverInfo :=
  { d with
    driverUid := fresh.driverUid
    userId := fresh.userId
    bundleName := fresh.bundleName
    driverName := fresh.driverName }

/-- Two records agree in what is serialized. -/
structure DriverInfo.SameRecord (d d' : DriverInfo) : Prop where
  bus : d.bus = d'.bus
  busType : d.busType = d'.busType
  vendor : d.vendor = d'.vendor
  version : d.version = d'.version
  driverSize : d.driverSize = d'.driverSize
  description : d.description = d'.description
  launchOnBind : d.launchOnBind = d'.launchOnBind
  accessAllowed : d.accessAllowed = d'.accessAllowed
  vids : d.driverInfoExt.map (·.vids) = d'.driverInfoExt.map (·.vids)
  pids : d.driverInfoExt.map (·.pids) = d'.driverInfoExt.map (·.pids)

theorem DriverInfo.sameRecord_reloadedInto (d fresh : DriverInfo) :
    (d.reloadedInto fresh).SameRecord d :=
  ⟨rfl, rfl, rfl, rfl, rfl, rfl, rfl, rfl, rfl, rfl⟩

/-- Printing and parsing are inverse on the objects that `d` is written as. -/
def DriverInfo.Printable (lib : CJsonLib) (d : DriverInfo) : Prop :=
  ∀ ext, d.driverInfoExt = some ext →
    lib.Inverse ext.toJson ∧ lib.Inverse (d.toJson (ext.serialize lib).2)

section
variable {lib : CJsonLib} {d : DriverInfo} {extInfo : Text}

theorem DriverInfo.checkJsonObj_toJson : checkJsonObj (d.toJson extInfo) = .edmOk := rfl

theorem DriverInfo.getStringValue_bus (h : d.Wellformed) :
    getStringValue (d.toJson extInfo) "bus".toList = d.bus := cStr_eq_self h.bus

theorem DriverInfo.getStringValue_vendor (h : d.Wellformed) :
    getStringValue (d.toJson extInfo) "vendor".toList = d.vendor := cStr_eq_self h.vendor

theorem DriverInfo.getStringValue_version (h : d.Wellformed) :
    getStringValue (d.toJson extInfo) "version".toList = d.version := cStr_eq_self h.version

theorem DriverInfo.getStringValue_size (h : d.Wellformed) :
    getStringValue (d.toJson extInfo) "size".toList = d.driverSize := cStr_eq_self h.driverSize

theorem DriverInfo.getStringValue_description (h : d.Wellformed) :
    getStringValue (d.toJson extInfo) "description".toList = d.description :=
  cStr_eq_self h.description

theorem DriverInfo.serialize_eq {ext : UsbDriverInfo} (hext : d.driverInfoExt = some ext) :
    d.serialize lib =
      (.edmOk, some (lib.printUnformatted (d.toJson (ext.serialize lib).2))) := by
  rw [serialize, hext]

/-- Any record that reads what `d` was written as takes over all of it. -/
theorem DriverInfo.unSerialize_serialize {usb : Bool} {ext : UsbDriverInfo} (husb : usb = true)
    (h : d.Wellformed) (hext : d.driverInfoExt = some ext) (hprint : d.Printable lib)
    (fresh : DriverInfo) :
    fresh.unSerialize lib usb (lib.printUnformatted (d.toJson (ext.serialize lib).2)) =
      (.edmOk, d.reloadedInto fresh) := by
  obtain ⟨hinner, houter⟩ := hprint ext hext
  have hbus : BusExtensionCore.getBusExtensionByName usb (lowerStr d.bus) = true := by
    rw [BusExtensionCore.getBusExtensionByName_iff, h.usb]
    exact ⟨husb, by decide⟩
  have hextInfo : getStringValue (d.toJson (ext.serialize lib).2) "ext_info".toList =
      (ext.serialize lib).2 := lib.cStr_print _
  have hlaunch : getBoolValue (d.toJson (ext.serialize lib).2) "launch_on_bind".toList =
      d.launchOnBind := rfl
  have haccess : getBoolValue (d.toJson (ext.serialize lib).2) "access_allowed".toList =
      d.accessAllowed := rfl
  have hnot : ¬ (!true) = true := by decide
  rw [unSerialize, lib.cStr_print, houter]
  dsimp only
  rw [checkJsonObj_toJson, if_neg (not_not.mpr rfl), getStringValue_bus h, hbus, if_neg hnot,
    hextInfo, UsbDriverInfo.unSerialize_serialize hinner]
  dsimp only
  rw [if_neg (not_not.mpr rfl), getStringValue_vendor h, getStringValue_version h,
    getStringValue_size h, getStringValue_description h, hlaunch, haccess, ← h.busType, ← hext]
  rfl

end

end ExtDevMgr.Pkg
