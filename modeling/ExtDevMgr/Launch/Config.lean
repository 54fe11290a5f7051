import ExtDevMgr.Base.Table
import ExtDevMgr.Launch.Version

/-!
# The launch configuration

`LoadConfig` reads an array of devices with the apps that are launched for them, and `FindEntry` looks
a device up. `strtoul` takes the vendor and the product id from any string that starts like a number,
so the answers are those of the well-formed items exactly as long as no other item is the last one of
its ids (`findEntry_iff`).
-/

namespace ExtDevMgr.Launch
open Json Numerals Text

abbrev maxConfigFileLen : Nat := 1024 * 1024

structure AppLaunchEntry where
  vid : UInt16
  pid : UInt16
  bundleName : Text
  abilityName : Text
  appStoreUri : Text
deriving DecidableEq

/-- The version and the configuration file at the two paths, `none` where one cannot be read. -/
structure ConfigFiles where
  presetVersion : Option Text
  presetConfig : Option Text
  cloudVersion : Option Text
  cloudConfig : Option Text

namespace AppLaunchConfig

abbrev Entries := Table Text AppLaunchEntry

def makeKey (vid pid : UInt16) : Text :=
  Nat.toDigits 10 vid.toNat ++ '_' :: Nat.toDigits 10 pid.toNat

def parseStringField (parent : CJson) (fieldName : String) : Option Text :=
  match (parent.getObjectItemCaseSensitive fieldName.toList).bind CJson.valuestring with
  | none => none
  | some valuestring =>
    let value := trim isSpace (cStr valuestring)
    if value.isEmpty then none else some value

/-- An id of an item as `ParseDeviceItemTo` reads it. -/
def parseId (lib : CLib) (valuestring : Text) : Option UInt16 :=
  let (val, errno) := lib.strtoul (cStr valuestring) 16
  if errno ≠ none ∨ val > 0xFFFF then none else some (UInt16.ofNat val)

/-- The entry of an item, for a way to read its ids. -/
def parseEntry (parseId : Text → Option UInt16) (deviceItem : CJson) : Option AppLaunchEntry :=
  match (deviceItem.getObjectItemCaseSensitive "vid".toList).bind CJson.valuestring,
    (deviceItem.getObjectItemCaseSensitive "pid".toList).bind CJson.valuestring with
  | some vid, some pid =>
    match parseId vid, parseId pid with
    | some vid, some pid =>
      match parseStringField deviceItem "bundleName", parseStringField deviceItem "abilityName",
        parseStringField deviceItem "appStoreUri" with
      | some bundleName, some abilityName, some appStoreUri =>
        some { vid, pid, bundleName, abilityName, appStoreUri }
      | _, _, _ => none
    | _, _ => none
  | _, _ => none

def parseDeviceItemTo (lib : CLib) (deviceItem : CJson) (outMap : Entries) : Bool × Entries :=
  match parseEntry (parseId lib) deviceItem with
  | none => (false, outMap)
  | some entry => (true, outMap.insert (makeKey entry.vid entry.pid) entry)

/-- The items of the array in a file. -/
def parseJsonRoot (json : CJsonLib) (file : Option Text) : Option (List CJson) :=
  match file with
  | none => none
  | some content =>
    if content.length = 0 ∨ content.length > maxConfigFileLen then
      none
    else
      match json.parse (cStr content) with
      | some (.array items) => some items
      | _ => none

def parseConfigFileTo (lib : CLib) (json : CJsonLib) (file : Option Text) (outMap : Entries) :
    Bool × Entries :=
  match parseJsonRoot json file with
  | none => (false, outMap)
  | some items =>
    (true, items.foldl (fun outMap deviceItem => (parseDeviceItemTo lib deviceItem outMap).2) outMap)

/-- The configuration file at the path with the higher version. -/
def effectiveFile (lib : CLib) (files : ConfigFiles) : Option Text :=
  match getHigherVersionPath lib files.presetVersion files.cloudVersion with
  | .preset => files.presetConfig
  | .cloud => files.cloudConfig

def loadConfig (lib : CLib) (json : CJsonLib) (files : ConfigFiles) (entryMap : Entries) :
    Bool × Entries :=
  let (ok, newMap) := parseConfigFileTo lib json (effectiveFile lib files) ∅
  if !ok then (false, entryMap) else (true, newMap)

def findEntry (entryMap : Entries) (vid pid : UInt16) : Option AppLaunchEntry :=
  entryMap.lookup (makeKey vid pid)

/-! ## The answers -/

/-- A numeral without its optional `0x`. -/
def withoutPrefix : Text → Text
  | '0' :: 'x' :: s => s
  | '0' :: 'X' :: s => s
  | s => s

/-- The number of a complete hexadecimal numeral not above `FFFF`. -/
def numeralId (valuestring : Text) : Option UInt16 :=
  let digits := withoutPrefix (cStr valuestring)
  if digits ≠ [] ∧ digits.all (isDigit 16) ∧ numeralValue 16 digits ≤ 0xFFFF then
    some (UInt16.ofNat (numeralValue 16 digits))
  else
    none

/-- The entry of the last item with these ids. -/
def lastFor (parseId : Text → Option UInt16) (items : List CJson) (vid pid : UInt16) :
    Option AppLaunchEntry :=
  ((items.filterMap (parseEntry parseId)).filter fun entry =>
    entry.vid = vid ∧ entry.pid = pid).getLast?

/-- The array that a call of `LoadConfig` finds. -/
def foundArray (lib : CLib) (json : CJsonLib) (files : ConfigFiles) : Option (List CJson) :=
  parseJsonRoot json (effectiveFile lib files)

/-- The entries after a sequence of calls. -/
def entriesAfter (lib : CLib) (json : CJsonLib) (loads : List ConfigFiles) : Entries :=
  loads.foldl (fun entryMap files => (loadConfig lib json files entryMap).2) ∅

/-- The array of the last call that has succeeded. -/
def lastLoaded (lib : CLib) (json : CJsonLib) (loads : List ConfigFiles) : List CJson :=
  (loads.filterMap (foundArray lib json)).getLast?.getD []

/-- An item whose ids are no numerals is the last one of these ids, and is not a repetition of the
well-formed one before it. -/
def Stray (lib : CLib) (items : List CJson) : Prop :=
  ∃ before item behind entry, items = before ++ item :: behind ∧
    parseEntry (parseId lib) item = some entry ∧ parseEntry numeralId item = none ∧
    lastFor (parseId lib) behind entry.vid entry.pid = none ∧
    lastFor numeralId before entry.vid entry.pid ≠ some entry

/-! ## Keys -/

theorem underscore_notMem_toDigits (n : Nat) : '_' ∉ Nat.toDigits 10 n := notMem_toDigits rfl n

/-- Different devices have different keys. -/
theorem makeKey_inj {vid pid vid' pid' : UInt16} :
    makeKey vid pid = makeKey vid' pid' ↔ vid = vid' ∧ pid = pid' := by
  rw [makeKey, makeKey, List.append_cons_inj_of_notMem (underscore_notMem_toDigits _)
    (underscore_notMem_toDigits _)]
  constructor
  · rintro ⟨hvid, -, hpid⟩
    exact ⟨UInt16.toNat_inj.mp (toDigits_injective hvid),
      UInt16.toNat_inj.mp (toDigits_injective hpid)⟩
  · rintro ⟨rfl, rfl⟩
    exact ⟨rfl, rfl, rfl⟩

/-! ## Numerals -/

theorem scan_withoutPrefix {s : Text} (hne : withoutPrefix s ≠ [])
    (h : ∀ c ∈ withoutPrefix s, isDigit 16 c) : scan 16 s = (false, withoutPrefix s) := by
  revert hne h
  unfold withoutPrefix
  split
  case h_1 s => exact scan_prefixed (.inl rfl)
  case h_2 s => exact scan_prefixed (.inr rfl)
  case h_3 => exact fun _ hdigits => scan_digits hdigits

/-- A complete numeral is read as its number. -/
theorem parseId_of_numeralId (lib : CLib) {valuestring : Text} {id : UInt16}
    (h : numeralId valuestring = some id) : parseId lib valuestring = some id := by
  rw [numeralId] at h
  split at h
  case isFalse => cases h
  case isTrue hnumeral =>
    obtain ⟨hne, hdigits, hle⟩ := hnumeral
    have hscan := scan_withoutPrefix hne (List.all_eq_true.mp hdigits)
    have hfits : ¬ ((none : Option Errno) ≠ none ∨
        numeralValue 16 (withoutPrefix (cStr valuestring)) > 0xFFFF) := by
      rintro (hnone | hlarge)
      · exact hnone rfl
      · omega
    rw [parseId, lib.strtoul_scanned hscan hne (by omega)]
    exact (if_neg hfits).trans h

theorem parseEntry_of_numerals (lib : CLib) {item : CJson} {entry : AppLaunchEntry}
    (h : parseEntry numeralId item = some entry) : parseEntry (parseId lib) item = some entry := by
  rw [parseEntry] at h ⊢
  split at h
  case h_2 => cases h
  case h_1 vid pid hvid hpid =>
    split at h
    case h_2 => cases h
    case h_1 vidVal pidVal hvidVal hpidVal =>
      rw [parseId_of_numeralId lib hvidVal, parseId_of_numeralId lib hpidVal]
      exact h

/-! ## Filling the table -/

theorem foldl_parseDeviceItemTo (lib : CLib) (items : List CJson) (outMap : Entries) :
    items.foldl (fun outMap deviceItem => (parseDeviceItemTo lib deviceItem outMap).2) outMap =
      ((items.filterMap (parseEntry (parseId lib))).map fun entry =>
        (makeKey entry.vid entry.pid, entry)).foldl (fun outMap e => outMap.insert e.1 e.2)
          outMap := by
  induction items generalizing outMap with
  | nil => rfl
  | cons item items ih =>
    rw [List.foldl_cons, ih, parseDeviceItemTo]
    cases hentry : parseEntry (parseId lib) item with
    | none => rw [List.filterMap_cons_none hentry]
    | some entry => rw [List.filterMap_cons_some hentry, List.map_cons, List.foldl_cons]

/-- The entry of a device is that of the last item read with its ids. -/
theorem findEntry_foldl (lib : CLib) (items : List CJson) (vid pid : UInt16) :
    findEntry (items.foldl (fun outMap deviceItem => (parseDeviceItemTo lib deviceItem outMap).2) ∅)
      vid pid = lastFor (parseId lib) items vid pid := by
  have hkeys : ∀ entry : AppLaunchEntry,
      decide (makeKey entry.vid entry.pid = makeKey vid pid) =
        decide (entry.vid = vid ∧ entry.pid = pid) := fun entry => decide_eq_decide.mpr makeKey_inj
  rw [findEntry, foldl_parseDeviceItemTo, Table.lookup_foldl_insert, AList.lookup_empty,
    Option.or_none, lastFor, List.filter_map, List.getLast?_map, Option.map_map]
  simp only [Function.comp_def, hkeys, Option.map_id']

/-! ## The last item -/

section
variable (read : Text → Option UInt16) (vid pid : UInt16)

theorem lastFor_append (before behind : List CJson) : lastFor read (before ++ behind) vid pid =
    (lastFor read behind vid pid).or (lastFor read before vid pid) := by
  rw [lastFor, List.filterMap_append, List.filter_append, List.getLast?_append]
  rfl

variable {read vid pid}

theorem lastFor_singleton_some {item : CJson} {entry : AppLaunchEntry}
    (h : parseEntry read item = some entry) :
    lastFor read [item] entry.vid entry.pid = some entry := by
  rw [lastFor, List.filterMap_cons_some h, List.filterMap_nil, List.filter_cons,
    if_pos (decide_eq_true ⟨rfl, rfl⟩)]
  rfl

theorem lastFor_singleton_none {item : CJson} (h : parseEntry read item = none) :
    lastFor read [item] vid pid = none := by
  rw [lastFor, List.filterMap_cons_none h]
  rfl

/-- What is found comes from an item behind which there is no other with the ids. -/
theorem exists_of_lastFor {items : List CJson} {entry : AppLaunchEntry}
    (h : lastFor read items vid pid = some entry) :
    ∃ before item behind, items = before ++ item :: behind ∧ parseEntry read item = some entry ∧
      lastFor read behind vid pid = none ∧ entry.vid = vid ∧ entry.pid = pid := by
  induction items with
  | nil => cases h
  | cons item items ih =>
    obtain hnone | ⟨last, hlast⟩ := (lastFor read items vid pid).eq_none_or_eq_some
    · have hsplit := lastFor_append read vid pid [item] items
      rw [List.singleton_append, h, hnone, Option.none_or, lastFor] at hsplit
      have hmem := List.mem_of_getLast? hsplit.symm
      obtain ⟨hread, hids⟩ := List.mem_filter.mp hmem
      obtain ⟨item', hitem, hread⟩ := List.mem_filterMap.mp hread
      cases List.mem_singleton.mp hitem
      obtain ⟨hvid, hpid⟩ := of_decide_eq_true hids
      exact ⟨[], item, items, rfl, hread, hnone, hvid, hpid⟩
    · have hsplit := lastFor_append read vid pid [item] items
      rw [List.singleton_append, h, hlast, Option.some_or] at hsplit
      obtain ⟨before, item', behind, heq, hread, hbehind, hids⟩ := ih (hlast.trans hsplit.symm)
      exact ⟨item :: before, item', behind, by rw [heq, List.cons_append], hread, hbehind, hids⟩

theorem lastFor_eq_none_iff {items : List CJson} : lastFor read items vid pid = none ↔
    ∀ item ∈ items, ∀ entry, parseEntry read item = some entry →
      ¬ (entry.vid = vid ∧ entry.pid = pid) := by
  rw [lastFor, List.getLast?_eq_none_iff, List.filter_eq_nil_iff]
  constructor
  · intro hall item hitem entry hread hids
    exact hall entry (List.mem_filterMap.mpr ⟨item, hitem, hread⟩) (decide_eq_true hids)
  · intro hall entry hentry hids
    obtain ⟨item, hitem, hread⟩ := List.mem_filterMap.mp hentry
    exact hall item hitem entry hread (of_decide_eq_true hids)

/-- An item with none of its ids behind it. -/
theorem lastFor_split {before behind : List CJson} {item : CJson}
    (hbehind : lastFor read behind vid pid = none) :
    lastFor read (before ++ item :: behind) vid pid =
      (lastFor read [item] vid pid).or (lastFor read before vid pid) := by
  rw [← List.singleton_append, lastFor_append, lastFor_append, hbehind, Option.none_or]

end

theorem numerals_none (lib : CLib) {items : List CJson} {vid pid : UInt16}
    (h : lastFor (parseId lib) items vid pid = none) : lastFor numeralId items vid pid = none := by
  rw [lastFor_eq_none_iff] at h ⊢
  intro item hitem entry hread
  exact h item hitem entry (parseEntry_of_numerals lib hread)

/-- The answers of an array are those of its well-formed items exactly when no other item is the last
one of its ids. -/
theorem lastFor_eq_iff (lib : CLib) (items : List CJson) :
    (∀ vid pid, lastFor (parseId lib) items vid pid = lastFor numeralId items vid pid) ↔
      ¬ Stray lib items := by
  constructor
  · rintro hall ⟨before, item, behind, entry, rfl, hread, hnone, hbehind, hne⟩
    have heq := hall entry.vid entry.pid
    rw [lastFor_split hbehind, lastFor_split (numerals_none lib hbehind),
      lastFor_singleton_some hread, lastFor_singleton_none hnone, Option.some_or,
      Option.none_or] at heq
    exact hne heq.symm
  · intro hstray vid pid
    obtain hnone | ⟨entry, hentry⟩ := (lastFor (parseId lib) items vid pid).eq_none_or_eq_some
    · rw [hnone, numerals_none lib hnone]
    · obtain ⟨before, item, behind, rfl, hread, hbehind, rfl, rfl⟩ := exists_of_lastFor hentry
      rw [hentry, lastFor_split (numerals_none lib hbehind)]
      obtain hnone | ⟨entry', hentry'⟩ := (parseEntry numeralId item).eq_none_or_eq_some
      · rw [lastFor_singleton_none hnone, Option.none_or]
        refine Decidable.byContradiction fun hne => hstray ?_
        exact ⟨before, item, behind, entry, rfl, hread, hnone, hbehind, Ne.symm hne⟩
      · cases hread.symm.trans (parseEntry_of_numerals lib hentry')
        rw [lastFor_singleton_some hentry', Option.some_or]

/-! ## Sequences of calls -/

theorem loadConfig_found (lib : CLib) (json : CJsonLib) {files : ConfigFiles} {items : List CJson}
    (h : foundArray lib json files = some items) (entryMap : Entries) :
    loadConfig lib json files entryMap = (true,
      items.foldl (fun outMap deviceItem => (parseDeviceItemTo lib deviceItem outMap).2) ∅) := by
  rw [foundArray] at h
  rw [loadConfig, parseConfigFileTo, h]
  rfl

theorem loadConfig_failed (lib : CLib) (json : CJsonLib) {files : ConfigFiles}
    (h : foundArray lib json files = none) (entryMap : Entries) :
    loadConfig lib json files entryMap = (false, entryMap) := by
  rw [foundArray] at h
  rw [loadConfig, parseConfigFileTo, h]
  rfl

/-- The answers are those of the array that was loaded last. -/
theorem findEntry_entriesAfter (lib : CLib) (json : CJsonLib) (loads : List ConfigFiles)
    (vid pid : UInt16) : findEntry (entriesAfter lib json loads) vid pid =
      lastFor (parseId lib) (lastLoaded lib json loads) vid pid := by
  induction loads using List.reverseRecOn with
  | nil => rfl
  | append_singleton loads files ih =>
    rw [entriesAfter, List.foldl_append, List.foldl_cons, List.foldl_nil]
    obtain hnone | ⟨items, hitems⟩ := (foundArray lib json files).eq_none_or_eq_some
    · rw [loadConfig_failed lib json hnone, lastLoaded, List.filterMap_append,
        List.filterMap_cons_none hnone, List.filterMap_nil, List.append_nil]
      exact ih
    · rw [loadConfig_found lib json hitems, lastLoaded, List.filterMap_append,
        List.filterMap_cons_some hitems, List.filterMap_nil, List.getLast?_concat, Option.getD_some]
      exact findEntry_foldl lib items vid pid

/-- After any calls of `LoadConfig` the answers are those of the well-formed items of the array loaded
last exactly when none of its other items is the last one of its ids; a failing call changes no
answer. -/
theorem findEntry_iff (lib : CLib) (json : CJsonLib) (loads : List ConfigFiles) :
    ((∀ vid pid, findEntry (entriesAfter lib json loads) vid pid =
        lastFor numeralId (lastLoaded lib json loads) vid pid) ↔
      ¬ Stray lib (lastLoaded lib json loads)) ∧
    ∀ files entryMap, (loadConfig lib json files entryMap).1 = false →
      (loadConfig lib json files entryMap).2 = entryMap := by
  constructor
  · simp only [findEntry_entriesAfter]
    exact lastFor_eq_iff lib (lastLoaded lib json loads)
  · intro files entryMap hfailed
    obtain hnone | ⟨items, hitems⟩ := (foundArray lib json files).eq_none_or_eq_some
    · rw [loadConfig_failed lib json hnone]
    · rw [loadConfig_found lib json hitems] at hfailed
      cases hfailed

/-- A 64-bit library that sets `errno` where there is no number. -/
def libEinval : CLib := ⟨64, Nat.le_of_ble_eq_true rfl, true⟩

/-- A file with one item, whose vendor id is no numeral. -/
def oldAdapterText : Text :=
  ("[\x7b\"vid\":\"12D1-old\",\"pid\":\"4321\",\"bundleName\":\"a\",\"abilityName\":\"b\"," ++
    "\"appStoreUri\":\"c\"\x7d]").toList

def oldAdapter : CJson :=
  .array [.object [("vid".toList, .string "12D1-old".toList), ("pid".toList, .string "4321".toList),
    ("bundleName".toList, .string "a".toList), ("abilityName".toList, .string "b".toList),
    ("appStoreUri".toList, .string "c".toList)]]

/-- A library that knows this file. -/
def oldAdapterJson : CJsonLib where
  printUnformatted _ := []
  parse text := if text = oldAdapterText then some oldAdapter else none
  nul_notMem_print _ := List.not_mem_nil

/-- The item becomes the entry of the device 12D1:4321. -/
theorem not_forall_findEntry :
    ¬ ∀ (json : CJsonLib) (loads : List ConfigFiles) (vid pid : UInt16),
      findEntry (entriesAfter libEinval json loads) vid pid =
        lastFor numeralId (lastLoaded libEinval json loads) vid pid := by
  intro hall
  have hanswer := hall oldAdapterJson [⟨none, none, none, some oldAdapterText⟩] 0x12D1 0x4321
  exact absurd hanswer (by decide +kernel)

end AppLaunchConfig

end ExtDevMgr.Launch
