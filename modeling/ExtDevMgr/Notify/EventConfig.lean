import ExtDevMgr.Base.Table
import ExtDevMgr.EdmErrors
import ExtDevMgr.Json.CJson

/-!
# The fault configuration

`ParseJsonFile` joins the faults of the product with the local ones, `GetFaultInfo` looks a fault up
and `NotifyUsbPeripheralFault` takes a fault of a caller. The lookup is the join of the two files
(`getFaultInfo_parseJsonFile`), and what is taken are the named faults of it that are complete
(`faults_joined`).
-/

namespace ExtDevMgr.Notify
open Json EdmErrors

structure FaultInfo where
  faultName : Text := []
  type : Text := []
  title : Text := []
  msg : Text := []
  uri : Text := []
deriving DecidableEq

abbrev DomainFaultsMap := Table Text (List FaultInfo)

/-- The files of the product (CCM) and of the system, `none` where there is none. -/
structure FaultFiles where
  sysProd : Option Text
  system : Option Text

structure EventConfig where
  peripheralFaultsMap : DomainFaultsMap := ∅

/-! ## The files -/

/-- A string of a fault, the default where it is missing or empty. -/
def stringField (faultItem : CJson) (key : String) (dflt : Text) : Text :=
  match (faultItem.getObjectItemCaseSensitive key.toList).bind CJson.valuestring with
  | some valuestring => if (cStr valuestring).length > 0 then cStr valuestring else dflt
  | none => dflt

def extractFaultInfo (faultItem : CJson) : FaultInfo :=
  let faultInfo : FaultInfo := {}
  { faultName := stringField faultItem "faultName" faultInfo.faultName
    type := stringField faultItem "type" faultInfo.type
    title := stringField faultItem "title" faultInfo.title
    msg := stringField faultItem "msg" faultInfo.msg
    uri := stringField faultItem "uri" faultInfo.uri }

/-- One domain of a file with its faults. -/
def parseDomain (item : CJson) : Option (Text × List FaultInfo) :=
  match (item.getObjectItemCaseSensitive "domain".toList).bind CJson.valuestring with
  | none => none
  | some valuestring =>
    if (cStr valuestring).length = 0 then
      none
    else
      match item.getObjectItemCaseSensitive "fault".toList with
      | some (.array faultArray) => some (cStr valuestring, faultArray.map extractFaultInfo)
      | _ => none

/-- The loop over the domains. It stops at the first invalid one. -/
def parseDomains : List CJson → DomainFaultsMap → Bool × DomainFaultsMap
  | [], peripheralFaultMap => (true, peripheralFaultMap)
  | item :: items, peripheralFaultMap =>
    match parseDomain item with
    | none => (false, peripheralFaultMap)
    | some (domain, faults) => parseDomains items (peripheralFaultMap.insert domain faults)

/-- `ParseJsonFile` of one path. -/
def parseJsonFileTo (json : CJsonLib) (targetPath : Option Text)
    (peripheralFaultMap : DomainFaultsMap) : Bool × DomainFaultsMap :=
  match targetPath with
  | none => (false, peripheralFaultMap)
  | some content =>
    match json.parse (cStr content) with
    | some (.array root) => parseDomains root peripheralFaultMap
    | _ => (false, peripheralFaultMap)

/-! ## The join -/

def named (faultName : Text) (fault : FaultInfo) : Bool := fault.faultName = faultName

def matchedFaults (ccmFaults localFaults : List FaultInfo) : List FaultInfo :=
  ccmFaults.filterMap fun ccmFault => localFaults.find? (named ccmFault.faultName)

/-- One domain of the product: `resMap` and `tempMap` after it. -/
def fillDomain (maps : DomainFaultsMap × DomainFaultsMap) (domain : Text)
    (ccmFaults : List FaultInfo) : DomainFaultsMap × DomainFaultsMap :=
  let (resMap, tempMap) := maps
  match tempMap.lookup domain with
  | none => (resMap, tempMap)
  | some localFaults =>
    let matched := matchedFaults ccmFaults localFaults
    (if matched.isEmpty then resMap else resMap.insert domain matched, tempMap.erase domain)

def fillFaultsMap (ccmMap localMap : DomainFaultsMap) : DomainFaultsMap :=
  (ccmMap.entries.foldl (fun maps entry => fillDomain maps entry.1 entry.2) (∅, localMap)).1

namespace EventConfig

def parseJsonFile (json : CJsonLib) (files : FaultFiles) (config : EventConfig) :
    Bool × EventConfig :=
  let config := { config with peripheralFaultsMap := ∅ }
  let (bRet, ccmMap) := parseJsonFileTo json files.sysProd ∅
  if !bRet ∨ ccmMap.entries.length = 0 then
    (false, config)
  else
    let (bRet, localMap) := parseJsonFileTo json files.system ∅
    if !bRet ∨ localMap.entries.length = 0 then
      (false, config)
    else
      let config := { config with peripheralFaultsMap := fillFaultsMap ccmMap localMap }
      (!config.peripheralFaultsMap.entries.isEmpty, config)

def getFaultInfo (config : EventConfig) (domain faultName : Text) : FaultInfo :=
  match config.peripheralFaultsMap.lookup domain with
  | some faults => (faults.find? (named faultName)).getD {}
  | none => {}

end EventConfig

/-! ## The notification of a fault -/

/-- The strings of the locale and the notification service. -/
structure DeviceNotification where
  getValueByKey : Text → Text
  peripheralDeviceNotification : FaultInfo → Bool

namespace DeviceNotification

def fillNotificationCfg (n : DeviceNotification) (faultInfo : FaultInfo) : FaultInfo :=
  { faultInfo with
    title := n.getValueByKey faultInfo.title
    msg := n.getValueByKey faultInfo.msg }

def handleNotification (n : DeviceNotification) (faultInfo : FaultInfo) : Bool :=
  let notifCfg := n.fillNotificationCfg faultInfo
  if notifCfg.title.isEmpty ∨ notifCfg.msg.isEmpty then
    false
  else
    n.peripheralDeviceNotification notifCfg

end DeviceNotification

/-- The checks of `NotifyUsbPeripheralFault`: the fault that is handed on, or the code of the refusal. -/
def acceptFault (err : EdmErrors) (config : EventConfig) (isSystemAppOrSa : Bool)
    (domain faultName : Text) : Except Int FaultInfo :=
  if !isSystemAppOrSa then
    .error err.edmErrNotSystemApp
  else if domain.isEmpty ∨ faultName.isEmpty then
    .error err.edmErrInvalidParam
  else
    let faultInfo := config.getFaultInfo domain faultName
    if faultInfo.faultName.isEmpty ∨ faultInfo.type.isEmpty ∨ faultInfo.title.isEmpty ∨
        faultInfo.msg.isEmpty then
      .error err.edmErrInvalidParam
    else
      .ok faultInfo

def notifyUsbPeripheralFault (err : EdmErrors) (n : DeviceNotification) (config : EventConfig)
    (isSystemAppOrSa : Bool) (domain faultName : Text) : Int :=
  match acceptFault err config isSystemAppOrSa domain faultName with
  | .error code => code
  | .ok faultInfo => if !n.handleNotification faultInfo then err.edmNok else edmOk

/-! ## The lookups -/

/-- A map lists a fault of this name under the domain. -/
def listed (map : DomainFaultsMap) (domain faultName : Text) : Bool :=
  (map.lookup domain).any fun faults => faults.any (named faultName)

/-- The first fault of this name under the domain. -/
def firstNamed (map : DomainFaultsMap) (domain faultName : Text) : Option FaultInfo :=
  (map.lookup domain).bind fun faults => faults.find? (named faultName)

/-- What the join of two maps holds for a name. -/
def joinedFault (ccmMap localMap : DomainFaultsMap) (domain faultName : Text) : FaultInfo :=
  if listed ccmMap domain faultName then (firstNamed localMap domain faultName).getD {} else {}

@[simp] theorem named_iff {faultName : Text} {fault : FaultInfo} :
    named faultName fault = true ↔ fault.faultName = faultName :=
  decide_eq_true_iff

theorem find?_matchedFaults (ccmFaults localFaults : List FaultInfo) (faultName : Text) :
    (matchedFaults ccmFaults localFaults).find? (named faultName) =
      if ccmFaults.any (named faultName) then localFaults.find? (named faultName) else none := by
  induction ccmFaults with
  | nil => rfl
  | cons ccmFault ccmFaults ih =>
    rw [matchedFaults] at ih
    rw [matchedFaults, List.filterMap_cons, List.any_cons]
    cases hfind : localFaults.find? (named ccmFault.faultName) with
    | none =>
      -- an unmatched name is not found in the local map either
      rw [ih]
      by_cases hname : ccmFault.faultName = faultName
      · subst hname
        simp [hfind]
      · simp [hname]
    | some fault =>
      have hfault : fault.faultName = ccmFault.faultName := by simpa using List.find?_some hfind
      rw [List.find?_cons, ih]
      by_cases hname : ccmFault.faultName = faultName
      · subst hname
        simp [named_iff.mpr hfault, hfind]
      · simp [named, hfault, hname]

/-- What a domain that both maps have is filled with. -/
def matchedDomain (ccmFaults localFaults : List FaultInfo) : Option (List FaultInfo) :=
  if (matchedFaults ccmFaults localFaults).isEmpty then none
  else some (matchedFaults ccmFaults localFaults)

theorem fillDomain_eq (maps : DomainFaultsMap × DomainFaultsMap) (domain : Text)
    (ccmFaults : List FaultInfo) :
    fillDomain maps domain ccmFaults = Table.joinStep matchedDomain maps ⟨domain, ccmFaults⟩ := by
  cases hfind : maps.2.lookup domain with
  | none => simp [fillDomain, Table.joinStep, hfind]
  | some localFaults =>
    simp only [fillDomain, Table.joinStep, hfind, matchedDomain]
    split <;> rfl

theorem lookup_fillFaultsMap (ccmMap localMap : DomainFaultsMap) (domain : Text) :
    (fillFaultsMap ccmMap localMap).lookup domain =
      (ccmMap.lookup domain).bind fun ccmFaults =>
        (localMap.lookup domain).bind (matchedDomain ccmFaults) := by
  have hstep : (fun maps (entry : Sigma fun _ : Text => List FaultInfo) =>
      fillDomain maps entry.1 entry.2) = Table.joinStep matchedDomain := by
    funext maps entry
    exact fillDomain_eq maps entry.1 entry.2
  rw [fillFaultsMap, hstep, Table.lookup_join]

/-- The faults of a domain, found where both maps have it. -/
theorem find?_matchedDomain (ccmFaults localFaults : List FaultInfo) (faultName : Text) :
    (matchedDomain ccmFaults localFaults).bind (·.find? (named faultName)) =
      if ccmFaults.any (named faultName) then localFaults.find? (named faultName) else none := by
  rw [← find?_matchedFaults, matchedDomain]
  split
  case isTrue hempty => simp [List.isEmpty_iff.mp hempty]
  case isFalse => rfl

theorem getFaultInfo_eq (config : EventConfig) (domain faultName : Text) :
    config.getFaultInfo domain faultName =
      (firstNamed config.peripheralFaultsMap domain faultName).getD {} := by
  rw [EventConfig.getFaultInfo, firstNamed]
  cases config.peripheralFaultsMap.lookup domain <;> rfl

theorem firstNamed_fillFaultsMap (ccmMap localMap : DomainFaultsMap) (domain faultName : Text) :
    firstNamed (fillFaultsMap ccmMap localMap) domain faultName =
      if listed ccmMap domain faultName then firstNamed localMap domain faultName else none := by
  rw [firstNamed, lookup_fillFaultsMap, listed, firstNamed]
  cases ccmMap.lookup domain with
  | none => rfl
  | some ccmFaults =>
    cases localMap.lookup domain with
    | none => simp
    | some localFaults => exact find?_matchedDomain ccmFaults localFaults faultName

theorem getFaultInfo_fillFaultsMap (ccmMap localMap : DomainFaultsMap) (domain faultName : Text) :
    EventConfig.getFaultInfo ⟨fillFaultsMap ccmMap localMap⟩ domain faultName =
      joinedFault ccmMap localMap domain faultName := by
  rw [getFaultInfo_eq, firstNamed_fillFaultsMap, joinedFault]
  split <;> rfl

theorem getFaultInfo_empty (domain faultName : Text) :
    EventConfig.getFaultInfo ⟨∅⟩ domain faultName = {} := by
  rw [getFaultInfo_eq, firstNamed, AList.lookup_empty]
  rfl

/-! ## What is taken -/

/-- The maps that `ParseJsonFile` reads from the two files. -/
def FaultFiles.ccmMap (json : CJsonLib) (files : FaultFiles) : DomainFaultsMap :=
  (parseJsonFileTo json files.sysProd ∅).2

def FaultFiles.localMap (json : CJsonLib) (files : FaultFiles) : DomainFaultsMap :=
  (parseJsonFileTo json files.system ∅).2

/-- A fault with a name that is found in both maps, with all that a notification shows. -/
structure Configured (ccmMap localMap : DomainFaultsMap) (domain faultName : Text)
    (fault : FaultInfo) : Prop where
  domain_ne : domain ≠ []
  faultName_ne : faultName ≠ []
  ccm : listed ccmMap domain faultName
  found : firstNamed localMap domain faultName = some fault
  type_ne : fault.type ≠ []
  title_ne : fault.title ≠ []
  msg_ne : fault.msg ≠ []

theorem parseJsonFile_snd (json : CJsonLib) (files : FaultFiles) (config : EventConfig) :
    (config.parseJsonFile json files).2 =
      if (config.parseJsonFile json files).1 then
        ⟨fillFaultsMap (files.ccmMap json) (files.localMap json)⟩
      else ⟨∅⟩ := by
  rw [EventConfig.parseJsonFile, FaultFiles.ccmMap, FaultFiles.localMap]
  dsimp only
  split
  · rfl
  · split
    · rfl
    · split
      case isTrue => rfl
      case isFalse hempty =>
        have hentries : (fillFaultsMap (files.ccmMap json) (files.localMap json)).entries = [] := by
          simpa [FaultFiles.ccmMap, FaultFiles.localMap] using hempty
        exact congrArg EventConfig.mk (AList.ext hentries)

theorem getFaultInfo_parseJsonFile (json : CJsonLib) (files : FaultFiles) (config : EventConfig)
    (domain faultName : Text) :
    (config.parseJsonFile json files).2.getFaultInfo domain faultName =
      if (config.parseJsonFile json files).1 then
        joinedFault (files.ccmMap json) (files.localMap json) domain faultName
      else {} := by
  rw [parseJsonFile_snd]
  split
  · exact getFaultInfo_fillFaultsMap ..
  · exact getFaultInfo_empty ..

theorem acceptFault_ok_iff {err : EdmErrors} {config : EventConfig} {isSystemAppOrSa : Bool}
    {domain faultName : Text} {fault : FaultInfo} :
    acceptFault err config isSystemAppOrSa domain faultName = .ok fault ↔
      isSystemAppOrSa = true ∧ domain ≠ [] ∧ faultName ≠ [] ∧
        config.getFaultInfo domain faultName = fault ∧ fault.faultName ≠ [] ∧ fault.type ≠ [] ∧
        fault.title ≠ [] ∧ fault.msg ≠ [] := by
  cases isSystemAppOrSa with
  | false => simp [acceptFault]
  | true =>
    rw [acceptFault]
    dsimp only
    split
    case isTrue h => cases h
    case isFalse =>
      split
      case isTrue hnames => simp only [List.isEmpty_iff] at hnames; grind
      case isFalse hnames =>
        simp only [List.isEmpty_iff, not_or] at hnames
        split
        case isTrue hfault => simp only [List.isEmpty_iff] at hfault; grind
        case isFalse hfault =>
          simp only [List.isEmpty_iff, not_or] at hfault
          grind

theorem firstNamed_faultName {map : DomainFaultsMap} {domain faultName : Text} {fault : FaultInfo}
    (h : firstNamed map domain faultName = some fault) : fault.faultName = faultName := by
  obtain ⟨faults, -, hfind⟩ := Option.bind_eq_some_iff.mp h
  exact named_iff.mp (List.find?_some hfind)

theorem acceptFault_fillFaultsMap {err : EdmErrors} {ccmMap localMap : DomainFaultsMap}
    {isSystemAppOrSa : Bool} {domain faultName : Text} {fault : FaultInfo} :
    acceptFault err ⟨fillFaultsMap ccmMap localMap⟩ isSystemAppOrSa domain faultName = .ok fault ↔
      isSystemAppOrSa = true ∧ Configured ccmMap localMap domain faultName fault := by
  rw [acceptFault_ok_iff, getFaultInfo_fillFaultsMap]
  constructor
  · rintro ⟨hcaller, hdomain, hname, hfault, hne, htype, htitle, hmsg⟩
    -- the empty answer has no name
    have hlisted : listed ccmMap domain faultName = true := by
      by_contra hlisted
      rw [joinedFault, if_neg hlisted] at hfault
      exact hne (hfault ▸ rfl)
    rw [joinedFault, if_pos hlisted] at hfault
    cases hfound : firstNamed localMap domain faultName with
    | none =>
      rw [hfound] at hfault
      exact absurd (hfault ▸ rfl) hne
    | some found =>
      rw [hfound] at hfault
      exact ⟨hcaller, hdomain, hname, hlisted, hfound.trans (congrArg some hfault), htype, htitle,
        hmsg⟩
  · rintro ⟨hcaller, h⟩
    refine ⟨hcaller, h.domain_ne, h.faultName_ne, ?_, ?_, h.type_ne, h.title_ne, h.msg_ne⟩
    · rw [joinedFault, if_pos h.ccm, h.found, Option.getD_some]
    · rw [firstNamed_faultName h.found]
      exact h.faultName_ne

theorem acceptFault_empty {err : EdmErrors} {isSystemAppOrSa : Bool} {domain faultName : Text}
    {fault : FaultInfo} :
    acceptFault err ⟨∅⟩ isSystemAppOrSa domain faultName ≠ .ok fault := by
  intro h
  obtain ⟨-, -, -, hfault, hne, -⟩ := acceptFault_ok_iff.mp h
  rw [getFaultInfo_empty] at hfault
  exact hne (hfault ▸ rfl)

/-- A refusal is no success. -/
theorem ne_of_acceptFault_error {err : EdmErrors} {config : EventConfig} {isSystemAppOrSa : Bool}
    {domain faultName : Text} {code : Int}
    (h : acceptFault err config isSystemAppOrSa domain faultName = .error code) :
    code ≠ edmOk := by
  rw [acceptFault] at h
  dsimp only at h
  split at h
  · cases h
    exact err.code_ne_edmOk 16
  · split at h
    · cases h
      exact err.code_ne_edmOk 5
    · split at h
      · cases h
        exact err.code_ne_edmOk 5
      · cases h

theorem notifyUsbPeripheralFault_ok_iff {err : EdmErrors} {n : DeviceNotification}
    {config : EventConfig} {isSystemAppOrSa : Bool} {domain faultName : Text} :
    notifyUsbPeripheralFault err n config isSystemAppOrSa domain faultName = edmOk ↔
      ∃ fault, acceptFault err config isSystemAppOrSa domain faultName = .ok fault ∧
        n.handleNotification fault = true := by
  rw [notifyUsbPeripheralFault]
  cases haccept : acceptFault err config isSystemAppOrSa domain faultName with
  | error code => simp [ne_of_acceptFault_error haccept]
  | ok fault =>
    cases hhandle : n.handleNotification fault with
    | false => simp [edmNok, err.code_ne_edmOk, hhandle]
    | true => simp [hhandle]

/-- The lookups after `ParseJsonFile`, and the faults that are handed to the notification service and
taken by it. -/
theorem faults_joined (err : EdmErrors) (json : CJsonLib) (files : FaultFiles) (config : EventConfig) :
    (∀ domain faultName,
      (config.parseJsonFile json files).2.getFaultInfo domain faultName =
        if (config.parseJsonFile json files).1 then
          joinedFault (files.ccmMap json) (files.localMap json) domain faultName
        else {}) ∧
    (∀ ccmMap localMap domain faultName,
      EventConfig.getFaultInfo ⟨fillFaultsMap ccmMap localMap⟩ domain faultName =
        joinedFault ccmMap localMap domain faultName) ∧
    (∀ isSystemAppOrSa domain faultName fault,
      acceptFault err (config.parseJsonFile json files).2 isSystemAppOrSa domain faultName =
          .ok fault ↔
        isSystemAppOrSa = true ∧ (config.parseJsonFile json files).1 = true ∧
          Configured (files.ccmMap json) (files.localMap json) domain faultName fault) ∧
    ∀ n isSystemAppOrSa domain faultName,
      notifyUsbPeripheralFault err n (config.parseJsonFile json files).2 isSystemAppOrSa domain
          faultName = edmOk ↔
        ∃ fault, acceptFault err (config.parseJsonFile json files).2 isSystemAppOrSa domain
            faultName = .ok fault ∧ n.handleNotification fault = true := by
  refine ⟨getFaultInfo_parseJsonFile json files config, getFaultInfo_fillFaultsMap, ?_,
    fun _ _ _ _ => notifyUsbPeripheralFault_ok_iff⟩
  intro isSystemAppOrSa domain faultName fault
  rw [parseJsonFile_snd]
  split
  case isTrue hok => simp [acceptFault_fillFaultsMap, hok]
  case isFalse hok => simp [acceptFault_empty, hok]

/-! ## A fault without a name -/

/-- A map has a fault of this name that is complete but for the name. -/
def configuredIn (map : DomainFaultsMap) (domain faultName : Text) : Bool :=
  (map.lookup domain).any fun faults => faults.any fun fault =>
    named faultName fault && !fault.type.isEmpty && !fault.title.isEmpty && !fault.msg.isEmpty

def unnamedText : Text :=
  "[\x7b\"domain\":\"USB\",\"fault\":[\x7b\"type\":\"FAULT\",\"title\":\"t\",\"msg\":\"m\"\x7d]\x7d]".toList

def unnamedFaults : CJson :=
  .array [.object [("domain".toList, .string "USB".toList),
    ("fault".toList, .array [.object [("type".toList, .string "FAULT".toList),
      ("title".toList, .string "t".toList), ("msg".toList, .string "m".toList)]])]]

theorem nul_notMem_unnamedText : '\x00' ∉ unnamedText := by decide +kernel

def unnamedJson : CJsonLib where
  printUnformatted _ := unnamedText
  parse text := if text = unnamedText then some unnamedFaults else none
  nul_notMem_print _ := nul_notMem_unnamedText

/-- Both files hold a complete fault with the empty name, which no caller can name. -/
theorem not_forall_configured_accepted :
    ¬ ∀ (err : EdmErrors) (json : CJsonLib) (files : FaultFiles) (domain faultName : Text),
      (∃ fault, acceptFault err (EventConfig.parseJsonFile json files {}).2 true domain faultName =
        .ok fault) ↔
      (EventConfig.parseJsonFile json files {}).1 = true ∧
        configuredIn (files.ccmMap json) domain faultName ∧
        configuredIn (files.localMap json) domain faultName := by
  intro h
  have hparsed : (EventConfig.parseJsonFile unnamedJson ⟨some unnamedText, some unnamedText⟩ {}).1 =
      true := by decide +kernel
  have hmap : configuredIn (FaultFiles.ccmMap unnamedJson ⟨some unnamedText, some unnamedText⟩)
      "USB".toList [] = true := by decide +kernel
  obtain ⟨fault, haccept⟩ := (h ⟨1, Int.one_pos⟩ unnamedJson ⟨some unnamedText, some unnamedText⟩
    "USB".toList []).mpr ⟨hparsed, hmap, hmap⟩
  obtain ⟨-, -, hname, -⟩ := acceptFault_ok_iff.mp haccept
  exact hname rfl

end ExtDevMgr.Notify
