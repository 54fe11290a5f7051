import Mathlib.Data.List.Forall2
import ExtDevMgr.Base.Numerals
import ExtDevMgr.Base.Text
import ExtDevMgr.Pkg.DriverInfo

/-!
# From the manifest to the package table

`DrvBundleStateCallback::ParseToPkgInfoTables` with `UsbBusExtension`: the driver extensions of
bundles are made driver records, which are serialized into rows of the package table. Every row gives
its record back (`parseToPkgInfoTables_reloads`).
-/

namespace ExtDevMgr.Pkg
open Json Text

def drvInfoBus : Text := "bus".toList
def drvInfoVendor : Text := "vendor".toList
def drvInfoDesc : Text := "description".toList
def drvInfoLaunchonbind : Text := "launchonbind".toList
def drvInfoAllowAccessed : Text := "ohos.permission.ACCESS_DDK_ALLOWED".toList

structure ApplicationInfo where
  accessTokenId : UInt32
  versionName : Text

structure ExtensionAbilityInfo where
  isDriver : Bool
  bundleName : Text
  name : Text
  metadata : List (Text × Text)
  applicationInfo : ApplicationInfo

structure PkgInfoTable where
  driverUid : Text
  bundleAbility : Text
  userId : Int := 0
  appIndex : Int := 0
  bundleName : Text
  driverName : Text
  driverInfo : Text
  deriving DecidableEq

/-- What the rest of the system answers. `getBundleStats` is the first of the sizes, if there is
one; `stale` is what an uninitialised `int` holds. -/
structure Environment where
  usb : Bool
  getBundleStats : Text → Option Int
  getHapTokenInfo : UInt32 → Option (Int × Int)
  stale : Int

/-- `std::to_string`. -/
def toStdString (n : Int) : Text :=
  if n < 0 then '-' :: Nat.toDigits 10 n.natAbs else Nat.toDigits 10 n.natAbs

/-- `GetBundleSize`. -/
def getBundleSize (env : Environment) (bundleName : Text) : Text :=
  match env.getBundleStats bundleName with
  | none => []
  | some size => toStdString size

/-- `std::map::emplace`: a key that is there keeps its value. -/
def emplace (key value : Text) : List (Text × Text) → List (Text × Text)
  | [] => [(key, value)]
  | entry :: entries =>
    if key = entry.1 then
      entry :: entries
    else if key < entry.1 then
      (key, value) :: entry :: entries
    else
      entry :: emplace key value entries

/-- The metadata as a map. -/
def metaMap (metadata : List (Text × Text)) : List (Text × Text) :=
  metadata.foldl (fun entries data => emplace data.1 data.2 entries) []

/-! ## The USB bus extension -/

namespace UsbBusExtension

def isSpace (c : Char) : Bool := c ∈ [' ', '\t', '\n', '\r', '\x0c', '\x0b']

/-- The value of a hexadecimal digit. -/
def hexDigit (c : Char) : Option Nat :=
  if '0' ≤ c ∧ c ≤ '9' then some (c.toNat - '0'.toNat)
  else if 'a' ≤ c ∧ c ≤ 'f' then some (c.toNat - 'a'.toNat + 10)
  else if 'A' ≤ c ∧ c ≤ 'F' then some (c.toNat - 'A'.toNat + 10)
  else none

/-- `out >> num` of a stream in base 16: nothing is stored where only blanks are left, zero where no
number stands, and the nearest `int` where the number is too large. -/
def extractHex (s : Text) (num : Int) : Int :=
  match s.dropWhile isSpace with
  | [] => num
  | c :: s =>
    let (sign, s) := if c = '-' then (-1, s) else if c = '+' then (1, s) else (1, c :: s)
    let digits := match s with
      | '0' :: 'x' :: s => s
      | '0' :: 'X' :: s => s
      | s => s
    let digits := (digits.takeWhile fun c => (hexDigit c).isSome).filterMap hexDigit
    let value : Int := sign * digits.foldl (fun value digit => 16 * value + digit) 0
    max (-2 ^ 31) (min value (2 ^ 31 - 1))

/-- The loop of `ParseCommaStrToVectorUint16`. -/
def parseItems : List Text → Int → List UInt16
  | [], _ => []
  | s :: items, num =>
    let num := extractHex s num
    UInt16.ofInt num :: parseItems items num

def parseCommaStrToVectorUint16 (stale : Int) (str : Text) : List UInt16 :=
  parseItems (lines ',' str) stale

def parseDriverInfo (stale : Int) (metadata : List (Text × Text)) : UsbDriverInfo :=
  metadata.foldl (fun info data =>
    if lowerStr data.1 = "pid".toList then
      { info with pids := parseCommaStrToVectorUint16 stale data.2 }
    else if lowerStr data.1 = "vid".toList then
      { info with vids := parseCommaStrToVectorUint16 stale data.2 }
    else
      info) {}

structure UsbDeviceInfo where
  busType : BusType
  idVendor : UInt16
  idProduct : UInt16

def matchDriver (driver : DriverInfo) (device : UsbDeviceInfo) : Bool :=
  if lowerStr driver.bus ≠ "usb".toList then
    false
  else if device.busType ≠ busTypeUsb then
    false
  else
    match driver.driverInfoExt with
    | none => false
    | some usbDriverInfo =>
      if device.idVendor ∉ usbDriverInfo.vids then false
      else if device.idProduct ∉ usbDriverInfo.pids then false
      else true

end UsbBusExtension

/-! ## The records and rows -/

def changeMeta (tmpDrvInfo : DriverInfo) (data : Text × Text) : DriverInfo :=
  let d := tmpDrvInfo
  let d := if data.1 = drvInfoBus then
      { d with bus := data.2, busType := BusExtensionCore.getBusTypeByName data.2 }
    else d
  let d := if data.1 = drvInfoVendor then { d with vendor := data.2 } else d
  let d := if data.1 = drvInfoDesc then { d with description := data.2 } else d
  let d := if lowerStr data.1 = drvInfoLaunchonbind then
      { d with launchOnBind := data.2 = "true".toList }
    else d
  if data.1 = drvInfoAllowAccessed then { d with accessAllowed := data.2 = "true".toList } else d

def changeValue (tmpDrvInfo : DriverInfo) (metadata : List (Text × Text)) : DriverInfo :=
  metadata.foldl changeMeta tmpDrvInfo

def createPkgInfoTable (env : Environment) (driverInfo : ExtensionAbilityInfo)
    (driverInfoStr : Text) : PkgInfoTable :=
  let pkgInfo : PkgInfoTable := {
    driverUid := driverInfo.name ++ "-".toList ++
      toStdString driverInfo.applicationInfo.accessTokenId.toNat
    bundleAbility := driverInfo.bundleName ++ "-".toList ++ driverInfo.name
    bundleName := driverInfo.bundleName
    driverName := driverInfo.name
    driverInfo := driverInfoStr }
  match env.getHapTokenInfo driverInfo.applicationInfo.accessTokenId with
  | none => pkgInfo
  | some (userID, instIndex) => { pkgInfo with userId := userID, appIndex := instIndex }

section
variable (lib : CJsonLib) (env : Environment)

/-- The record of one extension before it is serialized, if it is the driver of a known bus. The
sizes of the bundles are looked up once, which makes no difference. -/
def toDriverInfo (driverInfo : ExtensionAbilityInfo) : Option DriverInfo :=
  if !driverInfo.isDriver || driverInfo.metadata = [] then
    none
  else
    let tmpDrvInfo : DriverInfo := {
      bundleName := driverInfo.bundleName
      driverName := driverInfo.name
      driverUid := driverInfo.bundleName ++ "-".toList ++ driverInfo.name }
    let metaMap := metaMap driverInfo.metadata
    let tmpDrvInfo := changeValue tmpDrvInfo metaMap
    if !BusExtensionCore.getBusExtensionByName env.usb tmpDrvInfo.bus then
      none
    else
      some { tmpDrvInfo with
        driverInfoExt := some (UsbBusExtension.parseDriverInfo env.stale metaMap)
        driverSize := getBundleSize env driverInfo.bundleName
        version := driverInfo.applicationInfo.versionName }

/-- The records, and the rows added to `pkgInfoTables`. -/
def parseToPkgInfoTables : List ExtensionAbilityInfo → List PkgInfoTable →
    List DriverInfo × List PkgInfoTable
  | [], pkgInfoTables => ([], pkgInfoTables)
  | driverInfo :: driverInfos, pkgInfoTables =>
    match toDriverInfo env driverInfo with
    | none => parseToPkgInfoTables driverInfos pkgInfoTables
    | some tmpDrvInfo =>
      match tmpDrvInfo.serialize lib with
      | (.edmOk, some driverInfoStr) =>
        let pkgInfo := createPkgInfoTable env driverInfo driverInfoStr
        let tmpDrvInfo :=
          { tmpDrvInfo with driverUid := pkgInfo.driverUid, userId := toInt32 pkgInfo.userId }
        let (ret, pkgInfoTables) :=
          parseToPkgInfoTables driverInfos (pkgInfoTables ++ [pkgInfo])
        (tmpDrvInfo :: ret, pkgInfoTables)
      | _ => parseToPkgInfoTables driverInfos pkgInfoTables

end

/-! ## What the records are made of -/

/-- The strings of a manifest end where they seem to. -/
structure ExtensionAbilityInfo.NulFree (info : ExtensionAbilityInfo) : Prop where
  metadata : ∀ data ∈ info.metadata, '\x00' ∉ data.2
  versionName : '\x00' ∉ info.applicationInfo.versionName

theorem nul_notMem_toStdString (n : Int) : '\x00' ∉ toStdString n := by
  have hdigits : '\x00' ∉ Nat.toDigits 10 n.natAbs := Numerals.notMem_toDigits rfl _
  rw [toStdString]
  split
  · intro h
    rcases List.mem_cons.mp h with heq | hmem
    · exact absurd heq (by decide)
    · exact hdigits hmem
  · exact hdigits

theorem mem_emplace {key value : Text} {entries : List (Text × Text)} {data : Text × Text}
    (h : data ∈ emplace key value entries) : data = (key, value) ∨ data ∈ entries := by
  induction entries with
  | nil => exact .inl (List.mem_singleton.mp h)
  | cons entry entries ih =>
    rw [emplace] at h
    split at h
    · exact .inr h
    · split at h
      · exact List.mem_cons.mp h
      · rcases List.mem_cons.mp h with rfl | hmem
        · exact .inr List.mem_cons_self
        · exact (ih hmem).imp_right (List.mem_cons_of_mem _)

/-- The map holds nothing but metadata. -/
theorem mem_metaMap {metadata : List (Text × Text)} {data : Text × Text}
    (h : data ∈ metaMap metadata) : data ∈ metadata := by
  have hfold : ∀ (rest entries : List (Text × Text)),
      data ∈ rest.foldl (fun entries d => emplace d.1 d.2 entries) entries →
        data ∈ rest ∨ data ∈ entries := by
    intro rest
    induction rest with
    | nil => exact fun entries hmem => .inr hmem
    | cons first rest ih =>
      intro entries hmem
      rcases ih _ hmem with hrest | hentry
      · exact .inl (List.mem_cons_of_mem _ hrest)
      · rcases mem_emplace hentry with rfl | hentry
        · exact .inl List.mem_cons_self
        · exact .inr hentry
  exact (hfold metadata [] h).resolve_right List.not_mem_nil

/-- A record while metadata is entered into it. -/
structure DriverInfo.Sound (d : DriverInfo) : Prop where
  bus : '\x00' ∉ d.bus
  vendor : '\x00' ∉ d.vendor
  description : '\x00' ∉ d.description
  busType : d.busType = BusExtensionCore.getBusTypeByName d.bus

theorem DriverInfo.Sound.ite {p : Prop} [Decidable p] {d d' : DriverInfo} (h : d.Sound)
    (h' : d'.Sound) : (if p then d else d').Sound := by
  split
  · exact h
  · exact h'

theorem DriverInfo.Sound.changeMeta {d : DriverInfo} (h : d.Sound) {data : Text × Text}
    (hdata : '\x00' ∉ data.2) : (changeMeta d data).Sound := by
  have hbus : ∀ d : DriverInfo, d.Sound → (if data.1 = drvInfoBus then
      { d with bus := data.2, busType := BusExtensionCore.getBusTypeByName data.2 }
      else d).Sound := fun d h => .ite ⟨hdata, h.vendor, h.description, rfl⟩ h
  have hvendor : ∀ d : DriverInfo, d.Sound →
      (if data.1 = drvInfoVendor then { d with vendor := data.2 } else d).Sound :=
    fun d h => .ite ⟨h.bus, hdata, h.description, h.busType⟩ h
  have hdesc : ∀ d : DriverInfo, d.Sound →
      (if data.1 = drvInfoDesc then { d with description := data.2 } else d).Sound :=
    fun d h => .ite ⟨h.bus, h.vendor, hdata, h.busType⟩ h
  have hlaunch : ∀ d : DriverInfo, d.Sound → (if lowerStr data.1 = drvInfoLaunchonbind then
      { d with launchOnBind := data.2 = "true".toList } else d).Sound :=
    fun d h => .ite ⟨h.bus, h.vendor, h.description, h.busType⟩ h
  have hlast := hlaunch _ (hdesc _ (hvendor _ (hbus d h)))
  exact .ite ⟨hlast.bus, hlast.vendor, hlast.description, hlast.busType⟩ hlast

theorem DriverInfo.Sound.changeValue {d : DriverInfo} (h : d.Sound)
    {metadata : List (Text × Text)} (hdata : ∀ data ∈ metadata, '\x00' ∉ data.2) :
    (changeValue d metadata).Sound := by
  induction metadata generalizing d with
  | nil => exact h
  | cons data metadata ih =>
    exact ih (h.changeMeta (hdata data List.mem_cons_self))
      fun data' hmem => hdata data' (List.mem_cons_of_mem _ hmem)

section
variable {lib : CJsonLib} {env : Environment} {info : ExtensionAbilityInfo} {d : DriverInfo}

theorem toDriverInfo_wellformed (hnul : info.NulFree) (h : toDriverInfo env info = some d) :
    d.Wellformed ∧ env.usb = true ∧ ∃ ext, d.driverInfoExt = some ext := by
  rw [toDriverInfo] at h
  split at h
  · exact absurd h.symm (Option.some_ne_none _)
  · dsimp only at h
    split at h
    · exact absurd h.symm (Option.some_ne_none _)
    · rename_i hbus
      rw [Bool.not_eq_true', Bool.not_eq_false, BusExtensionCore.getBusExtensionByName_iff] at hbus
      have hsound : (changeValue {
          bundleName := info.bundleName
          driverName := info.name
          driverUid := info.bundleName ++ "-".toList ++ info.name }
          (metaMap info.metadata)).Sound :=
        DriverInfo.Sound.changeValue ⟨List.not_mem_nil, List.not_mem_nil, List.not_mem_nil, rfl⟩
          fun data hmem => hnul.metadata data (mem_metaMap hmem)
      cases h
      refine ⟨⟨hsound.bus, hsound.vendor, hnul.versionName, ?_, hsound.description,
        hsound.busType, hbus.2⟩, hbus.1, _, rfl⟩
      change '\x00' ∉ getBundleSize env info.bundleName
      rw [getBundleSize]
      split
      · exact List.not_mem_nil
      · exact nul_notMem_toStdString _

/-- What a row gives back: every record that reads it becomes the same as `d` and is matched to the
same devices. -/
def Reloads (lib : CJsonLib) (env : Environment) (d : DriverInfo) (row : PkgInfoTable) : Prop :=
  ∀ fresh : DriverInfo, ∃ reloaded,
    fresh.unSerialize lib env.usb row.driverInfo = (.edmOk, reloaded) ∧ reloaded.SameRecord d ∧
    ∀ device, UsbBusExtension.matchDriver reloaded device = UsbBusExtension.matchDriver d device

theorem parseToPkgInfoTables_none {infos : List ExtensionAbilityInfo} {rows : List PkgInfoTable}
    (h : toDriverInfo env info = none) :
    parseToPkgInfoTables lib env (info :: infos) rows = parseToPkgInfoTables lib env infos rows := by
  rw [parseToPkgInfoTables, h]

/-- The row of a record. -/
def rowOf (lib : CJsonLib) (env : Environment) (info : ExtensionAbilityInfo) (d : DriverInfo)
    (ext : UsbDriverInfo) : PkgInfoTable :=
  createPkgInfoTable env info (lib.printUnformatted (d.toJson (ext.serialize lib).2))

theorem createPkgInfoTable_driverInfo (info : ExtensionAbilityInfo) (str : Text) :
    (createPkgInfoTable env info str).driverInfo = str := by
  rw [createPkgInfoTable]
  dsimp only
  split <;> rfl

theorem parseToPkgInfoTables_some {infos : List ExtensionAbilityInfo} {rows : List PkgInfoTable}
    {ext : UsbDriverInfo} (h : toDriverInfo env info = some d) (hext : d.driverInfoExt = some ext) :
    parseToPkgInfoTables lib env (info :: infos) rows =
      ({ d with
          driverUid := (rowOf lib env info d ext).driverUid
          userId := toInt32 (rowOf lib env info d ext).userId } ::
        (parseToPkgInfoTables lib env infos (rows ++ [rowOf lib env info d ext])).1,
      (parseToPkgInfoTables lib env infos (rows ++ [rowOf lib env info d ext])).2) := by
  rw [parseToPkgInfoTables, h]
  dsimp only
  rw [DriverInfo.serialize_eq hext]
  rfl

theorem reloads_rowOf {ext : UsbDriverInfo} (husb : env.usb = true) (h : d.Wellformed)
    (hext : d.driverInfoExt = some ext) (hprint : d.Printable lib) (driverUid : Text)
    (userId : Int) :
    Reloads lib env { d with driverUid, userId } (rowOf lib env info d ext) := by
  intro fresh
  refine ⟨d.reloadedInto fresh, ?_,
    DriverInfo.sameRecord_reloadedInto { d with driverUid, userId } fresh, fun device => rfl⟩
  rw [rowOf, createPkgInfoTable_driverInfo]
  exact DriverInfo.unSerialize_serialize husb h hext hprint fresh

end

/-- Every record that is built from a manifest is given back by its row. -/
theorem parseToPkgInfoTables_reloads (lib : CJsonLib) (env : Environment)
    (infos : List ExtensionAbilityInfo) (rows : List PkgInfoTable)
    (hnul : ∀ info ∈ infos, info.NulFree)
    (hprint : ∀ d ∈ (parseToPkgInfoTables lib env infos rows).1, d.Printable lib) :
    ∃ new, (parseToPkgInfoTables lib env infos rows).2 = rows ++ new ∧
      List.Forall₂ (Reloads lib env) (parseToPkgInfoTables lib env infos rows).1 new := by
  induction infos generalizing rows with
  | nil => exact ⟨[], (List.append_nil rows).symm, .nil⟩
  | cons info infos ih =>
    have hrest : ∀ info' ∈ infos, info'.NulFree :=
      fun info' hmem => hnul info' (List.mem_cons_of_mem _ hmem)
    cases hinfo : toDriverInfo env info with
    | none =>
      rw [parseToPkgInfoTables_none hinfo] at hprint ⊢
      exact ih rows hrest hprint
    | some d =>
      obtain ⟨hwell, husb, ext, hext⟩ :=
        toDriverInfo_wellformed (hnul info List.mem_cons_self) hinfo
      rw [parseToPkgInfoTables_some hinfo hext] at hprint ⊢
      obtain ⟨new, hrows, hall⟩ := ih (rows ++ [rowOf lib env info d ext]) hrest
        fun d' hmem => hprint d' (List.mem_cons_of_mem _ hmem)
      refine ⟨rowOf lib env info d ext :: new, ?_, .cons ?_ hall⟩
      · rw [hrows, List.append_assoc]
        rfl
      · have hfirst : DriverInfo.Printable lib { d with
            driverUid := (rowOf lib env info d ext).driverUid
            userId := toInt32 (rowOf lib env info d ext).userId } := hprint _ List.mem_cons_self
        exact reloads_rowOf husb hwell hext hfirst _ _

/-! ## A manifest -/

def mouse : ExtensionAbilityInfo where
  isDriver := true
  bundleName := "com.usb.mouse".toList
  name := "Driver".toList
  metadata := [("bus".toList, "USB".toList), ("desc".toList, "x".toList),
    ("vendor".toList, "v".toList), ("vid".toList, "0x1234,2".toList), ("pid".toList, "5678".toList),
    ("launchOnBind".toList, "true".toList)]
  applicationInfo := { accessTokenId := 5, versionName := "1.0".toList }

def mouseEnvironment : Environment where
  usb := true
  getBundleStats := fun _ => some 10
  getHapTokenInfo := fun _ => some (100, 0)
  stale := 0

def mouseExt : UsbDriverInfo := { pids := [22136], vids := [4660, 2] }

def mouseDriver : DriverInfo where
  bus := "USB".toList
  busType := busTypeUsb
  driverUid := "Driver-5".toList
  userId := 100
  bundleName := "com.usb.mouse".toList
  driverName := "Driver".toList
  vendor := "v".toList
  version := "1.0".toList
  driverSize := "10".toList
  launchOnBind := true
  driverInfoExt := some mouseExt

def quoted (s : Text) : Text := '"' :: s ++ ['"']

/-- A JSON object, by the texts of its members. -/
def objectText (members : List (Text × Text)) : Text :=
  '\x7b' :: [','].intercalate (members.map fun member => quoted member.1 ++ ':' :: member.2) ++
    ['\x7d']

def mouseExtText : Text :=
  objectText [("pids".toList, "[22136]".toList), ("vids".toList, "[4660,2]".toList)]

/-- In a string the quotes of the inner object are escaped. -/
def escaped (s : Text) : Text := s.flatMap fun c => if c = '"' then ['\\', c] else [c]

def mouseText : Text :=
  objectText [("bus".toList, quoted "USB".toList), ("vendor".toList, quoted "v".toList),
    ("version".toList, quoted "1.0".toList), ("size".toList, quoted "10".toList),
    ("description".toList, quoted []), ("ext_info".toList, quoted (escaped mouseExtText)),
    ("launch_on_bind".toList, "true".toList), ("access_allowed".toList, "false".toList)]

def mouseParse (text : Text) : Option CJson :=
  if text = mouseExtText then some mouseExt.toJson
  else if text = mouseText then some (mouseDriver.toJson mouseExtText)
  else none

/-- The library on the two objects of the mouse. -/
def mouseLib : CJsonLib where
  printUnformatted json :=
    if (json.getObjectItem "bus".toList).isSome then mouseText else mouseExtText
  parse := mouseParse
  nul_notMem_print json := by
    split
    · decide +kernel
    · decide +kernel

theorem mouseDriver_printable : mouseDriver.Printable mouseLib := by
  intro ext hext
  cases hext
  have hinner : mouseLib.printUnformatted mouseExt.toJson = mouseExtText := by decide +kernel
  have houter : mouseLib.printUnformatted (mouseDriver.toJson mouseExtText) = mouseText := by
    decide +kernel
  have hne : mouseText ≠ mouseExtText := by decide +kernel
  have hparse : ∀ text, mouseLib.parse text = mouseParse text := fun _ => rfl
  constructor
  · rw [CJsonLib.Inverse, hinner, hparse, mouseParse, if_pos rfl]
  · rw [UsbDriverInfo.serialize, hinner, CJsonLib.Inverse, houter, hparse, mouseParse, if_neg hne,
      if_pos rfl]

theorem mouse_reloads :
    ∃ new, (parseToPkgInfoTables mouseLib mouseEnvironment [mouse] []).2 = [] ++ new ∧
      List.Forall₂ (Reloads mouseLib mouseEnvironment)
        (parseToPkgInfoTables mouseLib mouseEnvironment [mouse] []).1 new := by
  have hret : (parseToPkgInfoTables mouseLib mouseEnvironment [mouse] []).1 = [mouseDriver] := by
    decide +kernel
  apply parseToPkgInfoTables_reloads
  · intro info hmem
    rw [List.mem_singleton.mp hmem]
    exact ⟨by decide +kernel, by decide +kernel⟩
  · intro d hmem
    rw [hret] at hmem
    rw [List.mem_singleton.mp hmem]
    exact mouseDriver_printable

end ExtDevMgr.Pkg
