import ExtDevMgr.Pkg.Installed
import ExtDevMgr.Service.DriverExtMgr

/-!
# What clients are told about drivers

`QueryDriverInfo` tells what the rows of the package table are decoded to, and nothing if one of them
is not decoded. The rows written for a bundle are decoded to the records of its manifest, so those are
told as the manifest has them (`drivers_told`).
-/

namespace ExtDevMgr.Service
open Manager Manager.ExtPermissionManager Json Pkg Pkg.PkgDbHelper
open Ipc (Str)

/-- The row is decoded to `d`. -/
def Decodes (lib : CJsonLib) (usb : Bool) (row : Row) (d : Pkg.DriverInfo) : Prop :=
  row.driver.unSerialize lib usb (row.driverInfo.getD []) = (.edmOk, d)

/-- Every call that reads `rows` succeeds. A result set ends behind its last row, and counts its rows
by an `int32_t`. -/
structure Answers (store : StoreReplies) (rows : List Row) : Prop where
  beginTransaction : store.beginTransaction = eOk
  query : store.query = true
  commit : store.commit = eOk
  getRowCount : store.result.getRowCount = eOk
  getColumnIndex : ∀ column ∈ queriedColumns, store.result.getColumnIndex column = eOk
  goToRow : ∀ i < rows.length, store.result.goToRow i = eOk
  getValue : ∀ i < rows.length, ∀ column ∈ queriedColumns, store.result.getValue i column = eOk
  isEnded : ∀ i, i + 1 < rows.length → store.result.isEnded i = false
  length_lt : rows.length < 2 ^ 31

/-- The rows that a query is about. -/
def asked (driverUid : Option Name) (row : Row) : Bool :=
  driverUid.all fun driverUid => row.driverUid = some driverUid

/-- The records that a query is about. -/
def askedRecord (driverUid : Option Name) (d : Pkg.DriverInfo) : Bool :=
  driverUid.all fun driverUid => d.driverUid = driverUid

/-- What a client gets to know about a driver. -/
def driverData (utf8 : Name → Str) (d : Pkg.DriverInfo) : Ipc.USBDriverInfoData where
  busType := Ipc.busTypeUsb
  driverUid := utf8 d.driverUid
  driverName := utf8 d.driverName
  bundleSize := utf8 d.driverSize
  version := utf8 d.version
  description := utf8 d.description
  pids := (d.driverInfoExt.getD {}).pids
  vids := (d.driverInfoExt.getD {}).vids

/-- The reply where the rows `kept` are followed by the rows of `records`. -/
structure Told (lib : CJsonLib) (usb : Bool) (utf8 : Name → Str) (driverUid : Option Name)
    (kept : List Row) (records : List Pkg.DriverInfo)
    (reply : ErrorCode × List Ipc.USBDriverInfoData) : Prop where
  decoded : ∀ ds, List.Forall₂ (Decodes lib usb) (kept.filter (asked driverUid)) ds →
    reply = (edmOk, (ds ++ records.filter (askedRecord driverUid)).map (driverData utf8))
  undecoded : (¬ ∃ ds, List.Forall₂ (Decodes lib usb) (kept.filter (asked driverUid)) ds) →
    reply = (edmNok, [])
  roundTrips : ∀ d ∈ reply.2,
    Ipc.RoundTrips (Ipc.USBDriverInfoData.marshalling · d) Ipc.DriverInfoData.unmarshalling d

variable {lib : CJsonLib} {usb : Bool} {rows : List Row} {store : StoreReplies}

/-! ## Decoding -/

theorem decodePkgInfos_of_decodes {ds : List Pkg.DriverInfo} (stale : Int)
    (h : List.Forall₂ (Decodes lib usb) rows ds) :
    decodePkgInfos lib usb (rows.map (Row.toPkgInfo stale)) = some ds := by
  induction h with
  | nil => rfl
  | @cons row d rows ds hrow _ ih =>
    have hdecoded : (newDriverInfo (row.toPkgInfo stale).bundleName (row.toPkgInfo stale).driverName
        (row.toPkgInfo stale).driverUid (row.toPkgInfo stale).userId).unSerialize lib usb
        (row.toPkgInfo stale).driverInfo = (.edmOk, d) := hrow
    rw [List.map_cons, decodePkgInfos, hdecoded]
    dsimp only
    rw [ih, Option.map_some]

theorem decodes_of_decodePkgInfos {stale : Int} {ds : List Pkg.DriverInfo}
    (h : decodePkgInfos lib usb (rows.map (Row.toPkgInfo stale)) = some ds) :
    List.Forall₂ (Decodes lib usb) rows ds := by
  induction rows generalizing ds with
  | nil =>
    cases h
    exact .nil
  | cons row rows ih =>
    rw [List.map_cons, decodePkgInfos] at h
    split at h
    case h_1 d hdecoded =>
      obtain ⟨ds, hds, rfl⟩ := Option.map_eq_some_iff.1 h
      exact .cons hdecoded (ih hds)
    case h_2 => cases h

theorem lowerStr_lowerStr (s : Name) : lowerStr (lowerStr s) = lowerStr s := by
  have htoLower : ∀ c : Char, c.toLower.toLower = c.toLower := by
    intro c
    unfold Char.toLower
    grind
  rw [lowerStr, lowerStr, List.map_map]
  exact List.map_congr_left fun c _ => htoLower c

/-- A decoded record is one of the USB bus, with its ids. -/
theorem unSerialize_ok {str : Name} {d d' : Pkg.DriverInfo}
    (h : d.unSerialize lib usb str = (.edmOk, d')) :
    d'.busType = Pkg.busTypeUsb ∧ ∃ ext, d'.driverInfoExt = some ext := by
  unfold DriverInfo.unSerialize at h
  split at h
  case h_1 => cases h
  case h_2 jsonObj hparse =>
    dsimp only at h
    split at h
    · rename_i hcheck
      exact absurd (congrArg Prod.fst h) hcheck
    · split at h
      · cases h
      · rename_i hbus
        split at h
        · rename_i hret
          exact absurd (congrArg Prod.fst h) hret
        · rw [Bool.not_eq_true', Bool.not_eq_false, BusExtensionCore.getBusExtensionByName_iff,
            lowerStr_lowerStr] at hbus
          cases h
          exact ⟨if_pos hbus.2, _, rfl⟩

theorem Decodes.toData {row : Row} {d : Pkg.DriverInfo} (h : Decodes lib usb row d)
    (utf8 : Name → Str) : parseToDriverInfoData utf8 d = some (driverData utf8 d) := by
  obtain ⟨hbus, ext, hext⟩ := unSerialize_ok h
  have hbusType : d.busType = Ipc.busTypeUsb := hbus
  rw [parseToDriverInfoData, driverData, hext]
  dsimp only
  rw [hbusType, if_neg (by decide), if_pos rfl]
  rfl

theorem filterMap_toData {ds : List Pkg.DriverInfo} (h : List.Forall₂ (Decodes lib usb) rows ds)
    (utf8 : Name → Str) : ds.filterMap (parseToDriverInfoData utf8) = ds.map (driverData utf8) := by
  induction h with
  | nil => rfl
  | cons hrow _ ih => rw [List.filterMap_cons_some (hrow.toData utf8), ih, List.map_cons]

/-! ## The query -/

theorem queryPkgInfos_of_answers {p : Row → Bool} (h : Answers store (rows.filter p)) :
    ∃ db, queryPkgInfos store p [] (.ready true rows) = (toInt32 (rows.filter p).length,
      (rows.filter p).map (Row.toPkgInfo store.result.stale), db) := by
  have hcolumns := any_ne_ok_eq_false h.getColumnIndex
  have hparse : parseToPkgInfos store.result (rows.filter p) [] =
      (true, (rows.filter p).map (Row.toPkgInfo store.result.stale)) := by
    rw [parseToPkgInfos, if_neg, parseRows_eq 0, List.nil_append]
    · simpa only [Nat.zero_add] using h.goToRow
    · simpa only [Nat.zero_add] using h.getValue
    · simpa only [Nat.zero_add] using h.isEnded
    · rw [not_or, not_not, hcolumns]
      exact ⟨h.getRowCount, Bool.false_ne_true⟩
  have hbegin : (PkgDataBase.ready true rows).beginTransaction store.beginTransaction =
      (pkgOk, .inside true rows rows) := by
    rw [h.beginTransaction]
    rfl
  have hquery : (PkgDataBase.inside true rows rows).query store.query p =
      (some (rows.filter p), .inside true rows rows) := by
    rcases query_cases true rows rows store.query p with ⟨-, hcall⟩ | ⟨hfails, -⟩
    · exact hcall
    · exact absurd ⟨rfl, h.query⟩ hfails
  have hcommit : commitOrRollBack store (.inside true rows rows) =
      (pkgOk, { initialised := true, store := .closed rows false }) := by
    rw [commitOrRollBack, h.commit]
    rfl
  refine ⟨{ initialised := true, store := .closed rows false }, ?_⟩
  rw [queryPkgInfos, hbegin]
  dsimp only
  rw [if_neg not_ok_lt_ok, hquery]
  dsimp only
  rw [hcommit]
  dsimp only
  rw [if_neg not_ok_lt_ok, hparse]
  dsimp only
  rw [if_neg (by decide), List.length_map]

section
variable {scan : ScanReplies} {s s' : DrvBundleStateCallback} {driverUid : Option Name}

theorem queryPkgDriverInfo_of_answers (hscan : s.getAllDriverInfos lib scan = (true, s'))
    (hinit : s'.initialised = true) (h : Answers store (s'.table.filter (asked driverUid))) :
    queryPkgDriverInfo lib scan store (some s) driverUid =
      decodePkgInfos lib scan.environment.usb
        ((s'.table.filter (asked driverUid)).map (Row.toPkgInfo store.result.stale)) := by
  have hwhere : (if driverUid.isSome then
        fun row : Row => decide (row.driverUid = some (driverUid.getD []))
      else fun _ => true) = asked driverUid := by
    cases driverUid with
    | none => rfl
    | some driverUid => rfl
  have hlength : toInt32 (s'.table.filter (asked driverUid)).length =
      (s'.table.filter (asked driverUid)).length := by
    have hlt := h.length_lt
    exact Int.bmod_eq_of_le (by omega) (by omega)
  obtain ⟨db, hquery⟩ := queryPkgInfos_of_answers h
  rw [queryPkgDriverInfo, hscan]
  dsimp only
  rw [if_neg (by decide), hinit, queryPkgInfosByDriverUid, hwhere, hquery]
  dsimp only
  rw [hlength, if_neg (Int.not_lt.mpr (Int.natCast_nonneg _))]

/-- The rows of records are decoded to those that are asked for. -/
theorem decodes_rowsOf {records : List Pkg.DriverInfo} {new : List PkgInfoTable}
    (h : List.Forall₂ (DecodedTo lib usb) records new) (r : StoreReplies) (n : Nat)
    (driverUid : Option Name) :
    List.Forall₂ (Decodes lib usb) ((rowsOf r n new).filter (asked driverUid))
      (records.filter (askedRecord driverUid)) := by
  induction h generalizing n with
  | nil => exact .nil
  | @cons d pkgInfo records new hdecoded _ ih =>
    have hasked : asked driverUid (pkgInfo.toRow (r.insert n).2) = askedRecord driverUid d := by
      cases driverUid with
      | none => rfl
      | some driverUid =>
        have huid : (pkgInfo.toRow (r.insert n).2).driverUid = some d.driverUid :=
          congrArg some hdecoded.driverUid
        simp only [asked, askedRecord, Option.all_some, huid, Option.some.injEq]
    rw [rowsOf, List.filter_cons, List.filter_cons, hasked]
    split
    · exact .cons (hdecoded.decoded _) (ih (n + 1))
    · exact ih (n + 1)

/-- The rows before them decide whether all rows are decoded. -/
theorem told_of_decodePkgInfos {kept new : List Row} {records : List Pkg.DriverInfo} (stale : Int)
    (utf8 : Name → Str)
    (hnew : List.Forall₂ (Decodes lib usb) (new.filter (asked driverUid))
      (records.filter (askedRecord driverUid)))
    {reply : ErrorCode × List Ipc.USBDriverInfoData}
    (hreply : reply = match decodePkgInfos lib usb
        (((kept ++ new).filter (asked driverUid)).map (Row.toPkgInfo stale)) with
      | none => (edmNok, [])
      | some driverInfos => (edmOk, driverInfos.filterMap (parseToDriverInfoData utf8))) :
    Told lib usb utf8 driverUid kept records reply := by
  rw [List.filter_append] at hreply
  refine ⟨fun ds hds => ?_, fun hnone => ?_, fun d hd => ?_⟩
  · have hall := List.rel_append hds hnew
    rw [hreply, decodePkgInfos_of_decodes stale hall]
    dsimp only
    rw [filterMap_toData hall]
  · cases hdecoded : decodePkgInfos lib usb (((kept.filter (asked driverUid)) ++
        new.filter (asked driverUid)).map (Row.toPkgInfo stale)) with
    | none => rw [hreply, hdecoded]
    | some ds =>
      have hall : List.Forall₂ (flip (Decodes lib usb)) ds (kept.filter (asked driverUid) ++
          new.filter (asked driverUid)) := (decodes_of_decodePkgInfos hdecoded).flip
      exact absurd ⟨_, (List.forall₂_take_append _ _ _ hall).flip⟩ hnone
  · cases hdecoded : decodePkgInfos lib usb (((kept.filter (asked driverUid)) ++
        new.filter (asked driverUid)).map (Row.toPkgInfo stale)) with
    | none =>
      rw [hreply, hdecoded] at hd
      cases hd
    | some ds =>
      rw [hreply, hdecoded] at hd
      dsimp only at hd
      rw [filterMap_toData (decodes_of_decodePkgInfos hdecoded), List.mem_map] at hd
      obtain ⟨driver, -, rfl⟩ := hd
      exact (Ipc.USBDriverInfoData.roundTrips_iff_usb _).2 rfl

/-- **What clients are told about drivers.** Once the records of a bundle's manifest have been
written into the table, a caller with the permission is told of the drivers of the other bundles and
behind them of the records, those with the uid where one is given; of nothing if a row of another
bundle is not decoded. Whatever a client is told comes out of a parcel as it was put in. -/
theorem drivers_told (lib : CJsonLib) (scan : ScanReplies) (infos : List ExtensionAbilityInfo)
    (hnul : ∀ info ∈ infos, info.NulFree)
    (hprint : ∀ d ∈ (parseToPkgInfoTables lib scan.environment infos []).1, d.Printable lib)
    (writes : StoreReplies) (bundleName : Name) (initialised : Bool) (old : List Row)
    (hok : pkgOk ≤ (addOrUpdatePkgInfo writes (parseToPkgInfoTables lib scan.environment infos []).2
      bundleName (.ready initialised old)).1)
    (s s' : DrvBundleStateCallback) (hscan : s.getAllDriverInfos lib scan = (true, s'))
    (hinit : s'.initialised = true)
    (htable : s'.table = (addOrUpdatePkgInfo writes
      (parseToPkgInfoTables lib scan.environment infos []).2 bundleName
      (.ready initialised old)).2.table)
    (t : TokenReplies) (utf8 : Name → Str) (c : Caller) (hmay : MayQuery t c)
    (driverUid : Option Name) (store : StoreReplies)
    (hanswers : Answers store (s'.table.filter (asked driverUid))) :
    Told lib scan.environment.usb utf8 driverUid
      (old.filter fun row => !ofBundleIfAny bundleName row)
      (parseToPkgInfoTables lib scan.environment infos []).1
      (queryDriverInfo lib scan store t utf8 c (some s) driverUid) := by
  obtain ⟨new, hrows, hall⟩ := parseToPkgInfoTables_decodedTo infos [] hnul hprint
  rw [List.nil_append] at hrows
  rw [table_written writes _ bundleName initialised old hok, refreshed, hrows] at htable
  refine told_of_decodePkgInfos store.result.stale utf8
    (decodes_rowsOf hall writes 0 driverUid) ?_
  rw [queryDriverInfo, hmay.1, hmay.2, queryPkgDriverInfo_of_answers hscan hinit hanswers, htable]
  rfl

/-- The driver of another bundle. -/
def wheelRow : Row :=
  { mouseRow (some "Wheel-5".toList) 100 with bundleName := some "com.usb.wheel".toList }

/-- The table once the mouse has been installed beside it. -/
def wheelAndMouse : List Row :=
  (addOrUpdatePkgInfo (accepting 2) (parseToPkgInfoTables mouseLib mouseEnvironment [mouse] []).2
    "com.usb.mouse".toList (.ready true [wheelRow])).2.table

/-- A system application asks for all drivers. -/
theorem wheelAndMouse_told :
    Told mouseLib mouseEnvironment.usb ascii none
      ([wheelRow].filter fun row => !ofBundleIfAny "com.usb.mouse".toList row)
      (parseToPkgInfoTables mouseLib mouseEnvironment [mouse] []).1
      (queryDriverInfo mouseLib DrvBundleStateCallback.failingQuery (accepting 1) allowing ascii
        systemApp (some (scannedWith wheelAndMouse)) none) := by
  have hrecords : (parseToPkgInfoTables mouseLib mouseEnvironment [mouse] []).1 = [mouseDriver] := by
    decide +kernel
  have hlength : (wheelAndMouse.filter (asked none)).length < 2 ^ 31 := by decide +kernel
  refine drivers_told mouseLib DrvBundleStateCallback.failingQuery [mouse] ?_ ?_ (accepting 2) _ true
    [wheelRow] (by decide +kernel) _ (scannedWith wheelAndMouse) rfl rfl rfl allowing ascii systemApp
    ⟨rfl, rfl⟩ none (accepting 1) ?_
  · intro info hmem
    rw [List.mem_singleton.1 hmem]
    exact ⟨by decide +kernel, by decide +kernel⟩
  · intro d hmem
    have hmem : d ∈ (parseToPkgInfoTables mouseLib mouseEnvironment [mouse] []).1 := hmem
    rw [hrecords] at hmem
    rw [List.mem_singleton.1 hmem]
    exact mouseDriver_printable
  · exact {
      beginTransaction := rfl
      query := rfl
      commit := rfl
      getRowCount := rfl
      getColumnIndex := fun _ _ => rfl
      goToRow := fun _ _ => rfl
      getValue := fun _ _ _ _ => rfl
      isEnded := fun _ _ => rfl
      length_lt := hlength }

end

end ExtDevMgr.Service
