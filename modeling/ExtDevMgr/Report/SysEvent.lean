import ExtDevMgr.Base.Numerals
import ExtDevMgr.Base.Text
import ExtDevMgr.Pkg.DriverInfo

/-!
# Reported driver events

`driver_report_sys_event.cpp`: the event of a driver carries its vendor and product ids as texts, the
numerals between commas. `ParseIdVector` compares an iterator with the end that stays at the first id,
so every list of more than one id ends with a comma (`lists_parseIdVector_iff`).
-/

namespace ExtDevMgr.ExtDevReportSysEvent
open Json Numerals Pkg Text

/-- What the event of a driver is filled from. -/
structure ExtDevEvent where
  driverUid : Text := []
  driverName : Text := []
  versionCode : Text := []
  vids : Text := []
  pids : Text := []
  userId : Int := 0
  bundleName : Text := []

/-- `std::to_string`. -/
def toStdString (id : UInt16) : Text := Nat.toDigits 10 id.toNat

def parseIdVector (ids : List UInt16) : Text :=
  if ids.length < 1 then
    []
  else
    -- `ids.begin()`, which the loop does not advance
    let it := 0
    ids.foldl (fun str id =>
      if it + 1 = ids.length then str ++ toStdString id else str ++ toStdString id ++ [',']) []

/-- The overload for drivers, `none` where a null pointer is dereferenced. -/
def parseToExtDevEvent (driverInfo : Option DriverInfo) (eventObj : Option ExtDevEvent) :
    Option (Option ExtDevEvent) :=
  match driverInfo, eventObj with
  | some driverInfo, some eventObj =>
    if driverInfo.busType = busTypeUsb then
      match driverInfo.driverInfoExt with
      | none => none
      | some usbDriverInfo =>
        some <| some { eventObj with
          vids := parseIdVector usbDriverInfo.vids
          pids := parseIdVector usbDriverInfo.pids
          driverUid := driverInfo.driverUid
          userId := driverInfo.userId
          driverName := driverInfo.driverName
          versionCode := driverInfo.version
          bundleName := driverInfo.bundleName }
    else
      some (some eventObj)
  | _, eventObj => some eventObj

/-! ## Lists of ids -/

def readId (token : Text) : Option UInt16 :=
  (readDecimal token).bind fun n => if n < 2 ^ 16 then some (UInt16.ofNat n) else none

/-- The ids of a text, `none` where a token between the commas is no id. -/
def readIds (str : Text) : Option (List UInt16) :=
  if str = [] then some [] else (str.splitOn ',').mapM readId

/-- `str` is the list of the ids. -/
structure Lists (ids : List UInt16) (str : Text) : Prop where
  joined : str = [','].intercalate (ids.map toStdString)
  not_leading : str.head? ≠ some ','
  not_trailing : str.getLast? ≠ some ','
  readIds : readIds str = some ids

theorem comma_notMem_toStdString {token : Text} {ids : List UInt16}
    (h : token ∈ ids.map toStdString) : ',' ∉ token := by
  obtain ⟨id, -, rfl⟩ := List.mem_map.mp h
  exact notMem_toDigits rfl _

theorem toStdString_ne_nil {token : Text} {ids : List UInt16}
    (h : token ∈ ids.map toStdString) : token ≠ [] := by
  obtain ⟨id, -, rfl⟩ := List.mem_map.mp h
  exact Nat.toDigits_ne_nil

theorem readId_toStdString (id : UInt16) : readId (toStdString id) = some id := by
  rw [readId, toStdString, readDecimal_toDigits, Option.bind_some, if_pos id.toNat_lt,
    UInt16.ofNat_toNat]

theorem mapM_readId (ids : List UInt16) : (ids.map toStdString).mapM readId = some ids := by
  induction ids with
  | nil => rfl
  | cons id ids ih =>
    rw [List.map_cons, List.mapM_cons, readId_toStdString, ih]
    rfl

/-- The joined numerals are read back. -/
theorem lists_intercalate (ids : List UInt16) :
    Lists ids ([','].intercalate (ids.map toStdString)) := by
  refine ⟨rfl, ?_, ?_, ?_⟩
  · intro h
    obtain ⟨token, hmem, hcomma⟩ :=
      exists_mem_of_head?_intercalate (fun _ hmem => toStdString_ne_nil hmem) h
    exact comma_notMem_toStdString hmem hcomma
  · intro h
    obtain ⟨token, hmem, hcomma⟩ :=
      exists_mem_of_getLast?_intercalate (fun _ hmem => toStdString_ne_nil hmem) h
    exact comma_notMem_toStdString hmem hcomma
  · cases ids with
    | nil => rfl
    | cons id ids =>
      have hsplit : ([','].intercalate ((id :: ids).map toStdString)).splitOn ',' =
          (id :: ids).map toStdString :=
        List.splitOn_intercalate ',' (fun _ hmem => comma_notMem_toStdString hmem)
          (List.cons_ne_nil _ _)
      have hne : [','].intercalate ((id :: ids).map toStdString) ≠ [] := by
        intro hnil
        rw [hnil] at hsplit
        have hmem : [] ∈ (id :: ids).map toStdString := hsplit ▸ List.mem_singleton.mpr rfl
        exact toStdString_ne_nil hmem rfl
      rw [readIds, if_neg hne, hsplit, mapM_readId]

/-! ## What the loop writes -/

/-- The condition of the loop does not change, so a comma follows each numeral or none. -/
theorem parseIdVector_of_two_le {ids : List UInt16} (h : 2 ≤ ids.length) :
    parseIdVector ids = ids.flatMap fun id => toStdString id ++ [','] := by
  have hloop : ∀ (rest : List UInt16) (str : Text),
      rest.foldl (fun str id => if 0 + 1 = ids.length then str ++ toStdString id
        else str ++ toStdString id ++ [',']) str =
      str ++ rest.flatMap fun id => toStdString id ++ [','] := by
    intro rest
    induction rest with
    | nil => simp
    | cons id rest ih =>
      intro str
      rw [List.foldl_cons, if_neg (by omega), ih, List.flatMap_cons, List.append_assoc,
        List.append_assoc, List.append_assoc]
  rw [parseIdVector, if_neg (by omega), hloop, List.nil_append]

theorem parseIdVector_of_le_one {ids : List UInt16} (h : ids.length ≤ 1) :
    parseIdVector ids = [','].intercalate (ids.map toStdString) := by
  cases ids with
  | nil => rfl
  | cons id ids =>
    cases ids with
    | nil => simp [parseIdVector]
    | cons id' ids =>
      rw [List.length_cons, List.length_cons] at h
      omega

theorem getLast?_parseIdVector {ids : List UInt16} (h : 2 ≤ ids.length) :
    (parseIdVector ids).getLast? = some ',' := by
  have hne : ids ≠ [] := List.ne_nil_of_length_pos (by omega)
  rw [parseIdVector_of_two_le h, ← List.dropLast_concat_getLast hne]
  simp

theorem length_le_one_of_lists {ids : List UInt16} (h : Lists ids (parseIdVector ids)) :
    ids.length ≤ 1 := by
  by_contra hmany
  exact h.not_trailing (getLast?_parseIdVector (by omega))

theorem lists_of_length_le_one {ids : List UInt16} (h : ids.length ≤ 1) :
    Lists ids (parseIdVector ids) := by
  rw [parseIdVector_of_le_one h]
  exact lists_intercalate ids

/-- The text of the ids is right exactly as long as there is at most one id. -/
theorem lists_parseIdVector_iff (ids : List UInt16) :
    Lists ids (parseIdVector ids) ↔ ids.length ≤ 1 :=
  ⟨length_le_one_of_lists, lists_of_length_le_one⟩

/-- A driver for two devices of one vendor. -/
theorem parseIdVector_two_ids :
    parseIdVector [1133, 50503] = "1133,50503,".toList ∧
      ¬ Lists [1133, 50503] (parseIdVector [1133, 50503]) := by
  have hends : (parseIdVector [1133, 50503]).getLast? = some ',' :=
    getLast?_parseIdVector (by decide)
  exact ⟨by decide +kernel, fun h => h.not_trailing hends⟩

/-- The event of a USB driver lists its ids as long as there are no two vendors and no two products. -/
theorem parseToExtDevEvent_lists_iff {driverInfo : DriverInfo} {usbDriverInfo : UsbDriverInfo}
    (hbus : driverInfo.busType = busTypeUsb) (hext : driverInfo.driverInfoExt = some usbDriverInfo)
    (eventObj : ExtDevEvent) :
    ∃ event, parseToExtDevEvent (some driverInfo) (some eventObj) = some (some event) ∧
      (Lists usbDriverInfo.vids event.vids ∧ Lists usbDriverInfo.pids event.pids ↔
        usbDriverInfo.vids.length ≤ 1 ∧ usbDriverInfo.pids.length ≤ 1) := by
  rw [parseToExtDevEvent, if_pos hbus, hext]
  refine ⟨_, rfl, ?_⟩
  constructor
  · intro h
    exact ⟨length_le_one_of_lists h.1, length_le_one_of_lists h.2⟩
  · intro h
    exact ⟨lists_of_length_le_one h.1, lists_of_length_le_one h.2⟩

end ExtDevMgr.ExtDevReportSysEvent
