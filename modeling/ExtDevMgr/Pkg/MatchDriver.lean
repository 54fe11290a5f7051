import ExtDevMgr.Pkg.Decoder
import ExtDevMgr.Pkg.FullScan

/-!
# The driver of a device

`DriverPkgManager::QueryMatchDriver` reads the package table and returns the driver of the first row
that is decoded and matches (`queryMatchDriver_first`). A row that is not decoded leaves the bus of its
record empty, and no bus extension has the empty name.
-/

namespace ExtDevMgr.Pkg
open Json PkgDbHelper

/-- The constructor of `DriverInfo`, which makes up an empty uid. Its parameter `userId` is an
`int32_t`, the column of a row 64 bits wide. -/
def newDriverInfo (bundleName driverName driverUid : Text) (userId : Int) : DriverInfo where
  driverUid := if driverUid = [] then bundleName ++ "-".toList ++ driverName else driverUid
  userId := toInt32 userId
  bundleName
  driverName

section
variable (lib : CJsonLib)

/-- The loop of `QueryMatchDriver`. -/
def matchPkgInfos (usb : Bool) (devInfo : UsbBusExtension.UsbDeviceInfo) :
    List PkgInfoTable → Option DriverInfo
  | [] => none
  | pkgInfo :: pkgInfos =>
    let driverInfo :=
      newDriverInfo pkgInfo.bundleName pkgInfo.driverName pkgInfo.driverUid pkgInfo.userId
    let (_, driverInfo) := driverInfo.unSerialize lib usb pkgInfo.driverInfo
    if BusExtensionCore.getBusExtensionByName usb driverInfo.bus &&
        UsbBusExtension.matchDriver driverInfo devInfo then
      some driverInfo
    else
      matchPkgInfos usb devInfo pkgInfos

/-- `r` answers the scan, and `q` the query of the table. -/
def queryMatchDriver (r : ScanReplies) (q : StoreReplies)
    (bundleStateCallback : Option DrvBundleStateCallback)
    (devInfo : UsbBusExtension.UsbDeviceInfo) : Option DriverInfo :=
  match bundleStateCallback with
  | none => none
  | some s =>
    let (scanned, s) := s.getAllDriverInfos lib r
    if !scanned then
      none
    else
      let (retRdb, pkgInfos, _) :=
        queryPkgInfosByDriverUid q false [] [] (.ready s.initialised s.table)
      if retRdb < 0 then none
      else if retRdb = 0 then none
      else matchPkgInfos lib r.environment.usb devInfo pkgInfos

end

/-! ## What is looked for -/

/-- The scan leaves the state `s'`, and every call that reads the table in it succeeds. A result set
ends behind its last row, and counts its rows by an `int32_t`. -/
structure Readable (lib : CJsonLib) (r : ScanReplies) (q : StoreReplies)
    (s s' : DrvBundleStateCallback) : Prop where
  scanned : s.getAllDriverInfos lib r = (true, s')
  initialised : s'.initialised = true
  beginTransaction : q.beginTransaction = eOk
  query : q.query = true
  commit : q.commit = eOk
  getRowCount : q.result.getRowCount = eOk
  getColumnIndex : ∀ column ∈ queriedColumns, q.result.getColumnIndex column = eOk
  goToRow : ∀ i < s'.table.length, q.result.goToRow i = eOk
  getValue : ∀ i < s'.table.length, ∀ column ∈ queriedColumns, q.result.getValue i column = eOk
  isEnded : ∀ i, i + 1 < s'.table.length → q.result.isEnded i = false
  length_lt : s'.table.length < 2 ^ 31

/-- The record of a row before it is decoded. -/
def Row.driver (row : Row) : DriverInfo :=
  newDriverInfo (row.bundleName.getD []) (row.driverName.getD []) (row.driverUid.getD [])
    (row.userId.getD 0)

/-- The column `driverInfo` of the row is decoded to `d`, which is matched to the device. -/
structure Serves (lib : CJsonLib) (usb : Bool) (devInfo : UsbBusExtension.UsbDeviceInfo) (row : Row)
    (d : DriverInfo) : Prop where
  decoded : row.driver.unSerialize lib usb (row.driverInfo.getD []) = (.edmOk, d)
  accepted : UsbBusExtension.matchDriver d devInfo = true

/-- The driver has the names and ids of the row, the user id as an `int32_t`; where the uid of the row
is empty, it is made up of the names. -/
structure Names (row : Row) (d : DriverInfo) : Prop where
  bundleName : d.bundleName = row.bundleName.getD []
  driverName : d.driverName = row.driverName.getD []
  userId : d.userId = toInt32 (row.userId.getD 0)
  driverUid : row.driverUid.getD [] ≠ [] → d.driverUid = row.driverUid.getD []
  madeUp : row.driverUid.getD [] = [] →
    d.driverUid = row.bundleName.getD [] ++ "-".toList ++ row.driverName.getD []

/-! ## Decoding -/

section
variable {lib : CJsonLib} {usb : Bool} {devInfo : UsbBusExtension.UsbDeviceInfo}

theorem DriverInfo.unSerialize_names (lib : CJsonLib) (usb : Bool) (str : Text) (d : DriverInfo) :
    (d.unSerialize lib usb str).2.bundleName = d.bundleName ∧
      (d.unSerialize lib usb str).2.driverName = d.driverName ∧
      (d.unSerialize lib usb str).2.driverUid = d.driverUid ∧
      (d.unSerialize lib usb str).2.userId = d.userId := by
  unfold unSerialize
  cases lib.parse (cStr str) with
  | none => exact ⟨rfl, rfl, rfl, rfl⟩
  | some jsonObj =>
    dsimp only
    split
    · exact ⟨rfl, rfl, rfl, rfl⟩
    · split
      · exact ⟨rfl, rfl, rfl, rfl⟩
      · split
        · exact ⟨rfl, rfl, rfl, rfl⟩
        · exact ⟨rfl, rfl, rfl, rfl⟩

/-- A record is decoded with the bus extension there, or its bus stays as it was. -/
theorem DriverInfo.unSerialize_bus (lib : CJsonLib) (usb : Bool) (str : Text) (d : DriverInfo) :
    (d.unSerialize lib usb str).1 = .edmOk ∧ usb = true ∨
      (d.unSerialize lib usb str).1 ≠ .edmOk ∧ (d.unSerialize lib usb str).2.bus = d.bus := by
  cases hreach : extInfo lib usb str with
  | none =>
    obtain ⟨hret, hsame⟩ := unSerialize_of_extInfo_none hreach d
    exact .inr ⟨hret, congrArg bus hsame⟩
  | some text =>
    rcases unSerialize_of_extInfo_some hreach d with ⟨ret, hret, -, hresult⟩ | ⟨ext, -, hresult, -⟩
    · rw [hresult]
      exact .inr ⟨hret, rfl⟩
    · exact .inl ⟨hresult, usb_of_extInfo_some hreach⟩

/-- The driver that the loop makes of a row. -/
def matched (lib : CJsonLib) (usb : Bool) (devInfo : UsbBusExtension.UsbDeviceInfo) (row : Row) :
    Option DriverInfo :=
  let driverInfo := (row.driver.unSerialize lib usb (row.driverInfo.getD [])).2
  if BusExtensionCore.getBusExtensionByName usb driverInfo.bus &&
      UsbBusExtension.matchDriver driverInfo devInfo then
    some driverInfo
  else
    none

theorem UsbBusExtension.bus_of_matchDriver {d : DriverInfo}
    (h : UsbBusExtension.matchDriver d devInfo = true) : lowerStr d.bus = "usb".toList := by
  by_contra hbus
  rw [UsbBusExtension.matchDriver, if_pos hbus] at h
  cases h

/-- A partly decoded row is not matched. -/
theorem matched_eq_some_iff {row : Row} {d : DriverInfo} :
    matched lib usb devInfo row = some d ↔ Serves lib usb devInfo row d := by
  unfold matched
  dsimp only
  rcases row.driver.unSerialize_bus lib usb (row.driverInfo.getD []) with
    ⟨hret, husb⟩ | ⟨hret, hbus⟩
  · have hbus : BusExtensionCore.getBusExtensionByName usb
        (row.driver.unSerialize lib usb (row.driverInfo.getD [])).2.bus = true ↔
          lowerStr (row.driver.unSerialize lib usb (row.driverInfo.getD [])).2.bus = "usb".toList :=
      BusExtensionCore.getBusExtensionByName_iff.trans (and_iff_right husb)
    generalize hresult : row.driver.unSerialize lib usb (row.driverInfo.getD []) = result at hret hbus
    obtain ⟨ret, driverInfo⟩ := result
    cases hret
    constructor
    · intro h
      split at h
      · rename_i hcond
        cases h
        exact ⟨hresult, (Bool.and_eq_true_iff.mp hcond).2⟩
      · cases h
    · rintro ⟨hdecoded, haccepted⟩
      cases hresult.symm.trans hdecoded
      rw [haccepted, hbus.mpr (UsbBusExtension.bus_of_matchDriver haccepted)]
      rfl
  · have hempty : row.driver.bus = [] := rfl
    rw [hbus, hempty]
    refine iff_of_false (fun h => ?_) fun h => hret (congrArg Prod.fst h.decoded)
    cases usb <;> cases h

theorem Serves.names {row : Row} {d : DriverInfo} (h : Serves lib usb devInfo row d) : Names row d := by
  have hnames := row.driver.unSerialize_names lib usb (row.driverInfo.getD [])
  rw [h.decoded] at hnames
  obtain ⟨hbundle, hdriver, huid, huser⟩ := hnames
  refine ⟨hbundle, hdriver, huser, fun hne => ?_, fun hempty => ?_⟩
  · exact huid.trans (if_neg hne)
  · exact huid.trans (if_pos hempty)

/-! ## The table -/

theorem matchPkgInfos_eq (rows : List Row) (stale : Int) :
    matchPkgInfos lib usb devInfo (rows.map (Row.toPkgInfo stale)) =
      rows.findSome? (matched lib usb devInfo) := by
  induction rows with
  | nil => rfl
  | cons row rows ih =>
    have hcons : matchPkgInfos lib usb devInfo (row.toPkgInfo stale ::
        rows.map (Row.toPkgInfo stale)) =
          if BusExtensionCore.getBusExtensionByName usb
                (row.driver.unSerialize lib usb (row.driverInfo.getD [])).2.bus &&
              UsbBusExtension.matchDriver
                (row.driver.unSerialize lib usb (row.driverInfo.getD [])).2 devInfo then
            some (row.driver.unSerialize lib usb (row.driverInfo.getD [])).2
          else
            matchPkgInfos lib usb devInfo (rows.map (Row.toPkgInfo stale)) := rfl
    rw [List.map_cons, hcons, List.findSome?_cons, ih, matched]
    split
    · rfl
    · rfl

theorem any_ne_ok_eq_false {code : Text → Int} (h : ∀ column ∈ queriedColumns, code column = eOk) :
    queriedColumns.any (fun column => code column ≠ eOk) = false := by
  rw [List.any_eq_false]
  intro column hcolumn
  rw [decide_eq_true_iff, not_not]
  exact h column hcolumn

theorem parseRows_eq {q : ResultReplies} {rows : List Row} (i : Nat)
    (hrow : ∀ k < rows.length, q.goToRow (i + k) = eOk)
    (hvalue : ∀ k < rows.length, ∀ column ∈ queriedColumns, q.getValue (i + k) column = eOk)
    (hended : ∀ k, k + 1 < rows.length → q.isEnded (i + k) = false) (pkgInfos : List PkgInfoTable) :
    parseRows q i rows pkgInfos = (true, pkgInfos ++ rows.map (Row.toPkgInfo q.stale)) := by
  induction rows generalizing i pkgInfos with
  | nil => rw [parseRows, List.map_nil, List.append_nil]
  | cons row rows ih =>
    have hshift : ∀ k, i + 1 + k = i + (k + 1) := by
      intro k
      omega
    have hgo : q.goToRow i = eOk := hrow 0 (Nat.succ_pos _)
    have hcolumns := any_ne_ok_eq_false (hvalue 0 (Nat.succ_pos _))
    rw [Nat.add_zero] at hcolumns
    rw [parseRows, if_neg (not_not.mpr hgo), hcolumns, if_neg Bool.false_ne_true]
    dsimp only
    cases rows with
    | nil =>
      split
      · rfl
      · rfl
    | cons next rows =>
      have hnot : q.isEnded i = false := hended 0 (Nat.succ_lt_succ (Nat.succ_pos _))
      rw [hnot, if_neg Bool.false_ne_true, ih (i + 1)]
      · rw [List.map_cons, List.append_assoc]
        rfl
      · intro k hk
        rw [hshift]
        exact hrow (k + 1) (Nat.succ_lt_succ hk)
      · intro k hk
        rw [hshift]
        exact hvalue (k + 1) (Nat.succ_lt_succ hk)
      · intro k hk
        rw [hshift]
        exact hended (k + 1) (Nat.succ_lt_succ hk)

variable {r : ScanReplies} {q : StoreReplies} {s s' : DrvBundleStateCallback}

/-- The query gives all rows of a readable table. -/
theorem queryPkgInfos_of_readable (h : Readable lib r q s s') :
    ∃ db, queryPkgInfosByDriverUid q false [] [] (.ready s'.initialised s'.table) =
      (toInt32 s'.table.length, s'.table.map (Row.toPkgInfo q.result.stale), db) := by
  have hcolumns := any_ne_ok_eq_false h.getColumnIndex
  have hrows : parseToPkgInfos q.result s'.table [] =
      (true, s'.table.map (Row.toPkgInfo q.result.stale)) := by
    rw [parseToPkgInfos, if_neg, parseRows_eq 0, List.nil_append]
    · simpa only [Nat.zero_add] using h.goToRow
    · simpa only [Nat.zero_add] using h.getValue
    · simpa only [Nat.zero_add] using h.isEnded
    · rw [not_or, not_not, hcolumns]
      exact ⟨h.getRowCount, Bool.false_ne_true⟩
  have hbegin : (PkgDataBase.ready true s'.table).beginTransaction q.beginTransaction =
      (pkgOk, .inside true s'.table s'.table) := by
    rw [h.beginTransaction]
    rfl
  have hquery : (PkgDataBase.inside true s'.table s'.table).query q.query (fun _ => true) =
      (some s'.table, .inside true s'.table s'.table) := by
    rcases query_cases true s'.table s'.table q.query (fun _ => true) with
      ⟨-, hcall⟩ | ⟨hfails, -⟩
    · rw [hcall, List.filter_eq_self.mpr fun _ _ => rfl]
    · exact absurd ⟨rfl, h.query⟩ hfails
  have hcommit : commitOrRollBack q (.inside true s'.table s'.table) =
      (pkgOk, { initialised := true, store := .closed s'.table false }) := by
    rw [commitOrRollBack, h.commit]
    rfl
  refine ⟨{ initialised := true, store := .closed s'.table false }, ?_⟩
  rw [h.initialised, queryPkgInfosByDriverUid, queryPkgInfos, hbegin]
  dsimp only
  rw [if_neg not_ok_lt_ok, if_neg Bool.false_ne_true, hquery]
  dsimp only
  rw [hcommit]
  dsimp only
  rw [if_neg not_ok_lt_ok, hrows]
  dsimp only
  rw [if_neg (by decide), List.length_map]

theorem queryMatchDriver_of_readable (h : Readable lib r q s s') :
    queryMatchDriver lib r q (some s) devInfo =
      s'.table.findSome? (matched lib r.environment.usb devInfo) := by
  obtain ⟨db, hquery⟩ := queryPkgInfos_of_readable h
  have hlength : toInt32 s'.table.length = s'.table.length := by
    have hlt := h.length_lt
    exact Int.bmod_eq_of_le (by omega) (by omega)
  simp only [queryMatchDriver, h.scanned, Bool.not_true, Bool.false_eq_true, if_false, hquery,
    hlength, matchPkgInfos_eq]
  rw [if_neg (Int.not_lt.mpr (Int.natCast_nonneg _))]
  split
  · rename_i hzero
    rw [List.length_eq_zero_iff.mp (Int.natCast_eq_zero.mp hzero)]
    rfl
  · rfl

/-- **The driver of a device.** From a readable table the driver of the first row that is decoded and
matches is returned, with the names and ids of the row as far as the record can hold them, and nothing
if there is no such row. -/
theorem queryMatchDriver_first (h : Readable lib r q s s')
    (devInfo : UsbBusExtension.UsbDeviceInfo) :
    (∀ d, queryMatchDriver lib r q (some s) devInfo = some d ↔
        ∃ before row after, s'.table = before ++ row :: after ∧
          Serves lib r.environment.usb devInfo row d ∧ Names row d ∧
          ∀ row' ∈ before, ¬ ∃ d', Serves lib r.environment.usb devInfo row' d') ∧
      (queryMatchDriver lib r q (some s) devInfo = none ↔
        ∀ row ∈ s'.table, ¬ ∃ d, Serves lib r.environment.usb devInfo row d) := by
  have hnone : ∀ row, matched lib r.environment.usb devInfo row = none ↔
      ¬ ∃ d, Serves lib r.environment.usb devInfo row d := by
    intro row
    rw [Option.eq_none_iff_forall_ne_some, not_exists]
    exact forall_congr' fun d => not_congr matched_eq_some_iff
  rw [queryMatchDriver_of_readable h]
  constructor
  · intro d
    rw [List.findSome?_eq_some_iff]
    constructor
    · rintro ⟨before, row, after, htable, hmatched, hbefore⟩
      have hserves := matched_eq_some_iff.mp hmatched
      refine ⟨before, row, after, htable, hserves, hserves.names, ?_⟩
      exact fun row' hrow => (hnone row').mp (hbefore row' hrow)
    · rintro ⟨before, row, after, htable, hserves, -, hbefore⟩
      refine ⟨before, row, after, htable, matched_eq_some_iff.mpr hserves, ?_⟩
      exact fun row' hrow => (hnone row').mpr (hbefore row' hrow)
  · rw [List.findSome?_eq_none_iff]
    exact forall₂_congr fun row _ => hnone row

end

/-! ## Two rows -/

/-- The drivers have been scanned before. -/
def scannedWith (table : List Row) : DrvBundleStateCallback where
  bundleMgr := true
  bundleUpdateCallback := true
  initOnce := true
  initialised := true
  table

def mouseRow (driverUid : Option Text) (userId : Int) : Row where
  id := 1
  driverUid
  userId := some userId
  bundleName := some "com.usb.mouse".toList
  driverName := some "Driver".toList
  driverInfo := some mouseText

def mouseDevice : UsbBusExtension.UsbDeviceInfo where
  busType := busTypeUsb
  idVendor := 0x1234
  idProduct := 0x5678

theorem scannedWith_readable {table : List Row} (hlt : table.length < 2 ^ 31) :
    Readable mouseLib DrvBundleStateCallback.failingQuery (accepting 1) (scannedWith table)
      (scannedWith table) where
  scanned := rfl
  initialised := rfl
  beginTransaction := rfl
  query := rfl
  commit := rfl
  getRowCount := rfl
  getColumnIndex _ _ := rfl
  goToRow _ _ := rfl
  getValue _ _ _ _ := rfl
  isEnded _ _ := rfl
  length_lt := hlt

/-- The first row is not decoded, the second one has the driver of the mouse. -/
theorem queryMatchDriver_first_mouse :
    ∃ before row after,
      [{ id := 2, driverInfo := some "x".toList }, mouseRow (some "Driver-5".toList) 100] =
        before ++ row :: after ∧
      Serves mouseLib true mouseDevice row mouseDriver ∧ Names row mouseDriver ∧
      ∀ row' ∈ before, ¬ ∃ d', Serves mouseLib true mouseDevice row' d' :=
  ((queryMatchDriver_first (scannedWith_readable (by decide)) mouseDevice).1 mouseDriver).mp
    (by decide +kernel)

/-- The driver of a row without a uid does not have the uid of the row, and one of a row whose user id
is wider than an `int32_t` not its user id. -/
theorem not_forall_rowIds :
    (¬ ∀ lib r q s s' devInfo d, Readable lib r q s s' →
      queryMatchDriver lib r q (some s) devInfo = some d →
        ∃ row ∈ s'.table, Serves lib r.environment.usb devInfo row d ∧
          d.driverUid = row.driverUid.getD []) ∧
    ¬ ∀ lib r q s s' devInfo d, Readable lib r q s s' →
      queryMatchDriver lib r q (some s) devInfo = some d →
        ∃ row ∈ s'.table, Serves lib r.environment.usb devInfo row d ∧
          d.userId = row.userId.getD 0 := by
  constructor
  · intro h
    have hresult : queryMatchDriver mouseLib DrvBundleStateCallback.failingQuery (accepting 1)
        (some (scannedWith [mouseRow none 100])) mouseDevice =
          some { mouseDriver with driverUid := "com.usb.mouse-Driver".toList } := by
      decide +kernel
    obtain ⟨row, hrow, -, huid⟩ := h _ _ _ _ _ _ _ (scannedWith_readable (by decide)) hresult
    rw [List.mem_singleton.mp hrow] at huid
    exact absurd huid (by decide)
  · intro h
    have hresult : queryMatchDriver mouseLib DrvBundleStateCallback.failingQuery (accepting 1)
        (some (scannedWith [mouseRow (some "Driver-5".toList) 4294967396])) mouseDevice =
          some mouseDriver := by
      decide +kernel
    obtain ⟨row, hrow, -, huser⟩ := h _ _ _ _ _ _ _ (scannedWith_readable (by decide)) hresult
    rw [List.mem_singleton.mp hrow] at huser
    exact absurd huser (by decide)

end ExtDevMgr.Pkg
