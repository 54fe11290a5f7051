import ExtDevMgr.Pkg.MatchDriver

/-!
# The table after an installation

The rows that `UpdateToRdb` writes for a bundle are decoded to the records they were made of, so a
query of the table after it finds what the kept rows serve, and else the first record of the bundle
that matches the device.
-/

namespace ExtDevMgr.Pkg
open Json PkgDbHelper

variable {lib : CJsonLib} {env : Environment} {devInfo : UsbBusExtension.UsbDeviceInfo}

/-! ## Rows of records -/

/-- The row of the record is decoded to `d`. -/
structure DecodedTo (lib : CJsonLib) (usb : Bool) (d : DriverInfo) (pkgInfo : PkgInfoTable) :
    Prop where
  decoded : ∀ id, (pkgInfo.toRow id).driver.unSerialize lib usb pkgInfo.driverInfo = (.edmOk, d)
  driverUid : pkgInfo.driverUid = d.driverUid

theorem createPkgInfoTable_names (env : Environment) (info : ExtensionAbilityInfo) (str : Text) :
    (createPkgInfoTable env info str).bundleName = info.bundleName ∧
      (createPkgInfoTable env info str).driverName = info.name ∧
      (createPkgInfoTable env info str).driverUid ≠ [] := by
  have hne : info.name ++ "-".toList ++ toStdString info.applicationInfo.accessTokenId.toNat ≠ [] := by
    simp
  rw [createPkgInfoTable]
  dsimp only
  split
  · exact ⟨rfl, rfl, hne⟩
  · exact ⟨rfl, rfl, hne⟩

theorem driver_toRow {pkgInfo : PkgInfoTable} (huid : pkgInfo.driverUid ≠ []) (id : Int) :
    (pkgInfo.toRow id).driver =
      { bundleName := pkgInfo.bundleName, driverName := pkgInfo.driverName
        driverUid := pkgInfo.driverUid, userId := toInt32 pkgInfo.userId } := by
  simp only [Row.driver, PkgInfoTable.toRow, newDriverInfo, Option.getD_some, huid, if_false]

theorem changeMeta_names (d : DriverInfo) (data : Text × Text) :
    (changeMeta d data).bundleName = d.bundleName ∧ (changeMeta d data).driverName = d.driverName := by
  unfold changeMeta
  dsimp only
  repeat' split
  all_goals exact ⟨rfl, rfl⟩

theorem changeValue_names (d : DriverInfo) (metadata : List (Text × Text)) :
    (changeValue d metadata).bundleName = d.bundleName ∧
      (changeValue d metadata).driverName = d.driverName := by
  induction metadata generalizing d with
  | nil => exact ⟨rfl, rfl⟩
  | cons data metadata ih =>
    obtain ⟨hbundle, hdriver⟩ := ih (changeMeta d data)
    obtain ⟨hbundle', hdriver'⟩ := changeMeta_names d data
    exact ⟨hbundle.trans hbundle', hdriver.trans hdriver'⟩

theorem toDriverInfo_names {info : ExtensionAbilityInfo} {d : DriverInfo}
    (h : toDriverInfo env info = some d) :
    d.bundleName = info.bundleName ∧ d.driverName = info.name := by
  rw [toDriverInfo] at h
  split at h
  · cases h
  · dsimp only at h
    split at h
    · cases h
    · cases h
      exact changeValue_names _ _

/-- A row has the names and ids that its record has, so nothing of the record is lost. -/
theorem decodedTo_rowOf {info : ExtensionAbilityInfo} {d : DriverInfo} {ext : UsbDriverInfo}
    (hinfo : toDriverInfo env info = some d) (hnul : info.NulFree)
    (hext : d.driverInfoExt = some ext) (hprint : d.Printable lib) :
    DecodedTo lib env.usb { d with
      driverUid := (rowOf lib env info d ext).driverUid
      userId := toInt32 (rowOf lib env info d ext).userId } (rowOf lib env info d ext) := by
  refine ⟨fun id => ?_, rfl⟩
  obtain ⟨hwell, husb, -⟩ := toDriverInfo_wellformed hnul hinfo
  obtain ⟨hbundle, hdriver⟩ := toDriverInfo_names hinfo
  obtain ⟨hbundle', hdriver', huid⟩ :=
    createPkgInfoTable_names env info (lib.printUnformatted (d.toJson (ext.serialize lib).2))
  have hrow : ((rowOf lib env info d ext).toRow id).driver =
      { bundleName := d.bundleName, driverName := d.driverName
        driverUid := (rowOf lib env info d ext).driverUid
        userId := toInt32 (rowOf lib env info d ext).userId } := by
    rw [hbundle, hdriver, ← hbundle', ← hdriver']
    exact driver_toRow huid id
  have htext : (rowOf lib env info d ext).driverInfo =
      lib.printUnformatted (d.toJson (ext.serialize lib).2) := createPkgInfoTable_driverInfo info _
  rw [hrow, htext, DriverInfo.unSerialize_serialize husb hwell hext hprint]
  rfl

/-- The rows made of a manifest, in the order of the records. -/
theorem parseToPkgInfoTables_decodedTo (infos : List ExtensionAbilityInfo)
    (rows : List PkgInfoTable) (hnul : ∀ info ∈ infos, info.NulFree)
    (hprint : ∀ d ∈ (parseToPkgInfoTables lib env infos rows).1, d.Printable lib) :
    ∃ new, (parseToPkgInfoTables lib env infos rows).2 = rows ++ new ∧
      List.Forall₂ (DecodedTo lib env.usb) (parseToPkgInfoTables lib env infos rows).1 new := by
  induction infos generalizing rows with
  | nil => exact ⟨[], (List.append_nil rows).symm, .nil⟩
  | cons info infos ih =>
    have hrest : ∀ info' ∈ infos, info'.NulFree :=
      fun info' hmem => hnul info' (List.mem_cons_of_mem _ hmem)
    cases hinfo : toDriverInfo env info with
    | none =>
      rw [parseToPkgInfoTables_none hinfo] at hprint ⊢
      exact ih rows hrest hprint
    | some d =>
      have hfirst := hnul info List.mem_cons_self
      obtain ⟨-, -, ext, hext⟩ := toDriverInfo_wellformed hfirst hinfo
      rw [parseToPkgInfoTables_some hinfo hext] at hprint ⊢
      obtain ⟨new, hrows, hall⟩ := ih (rows ++ [rowOf lib env info d ext]) hrest
        fun d' hmem => hprint d' (List.mem_cons_of_mem _ hmem)
      have hd : DriverInfo.Printable lib { d with
          driverUid := (rowOf lib env info d ext).driverUid
          userId := toInt32 (rowOf lib env info d ext).userId } := hprint _ List.mem_cons_self
      refine ⟨rowOf lib env info d ext :: new, ?_, .cons (decodedTo_rowOf hinfo hfirst hext hd) hall⟩
      rw [hrows, List.append_assoc, List.singleton_append]

/-! ## Queries -/

/-- A row of a record serves what the record matches. -/
theorem matched_of_decodedTo {usb : Bool} {d : DriverInfo} {pkgInfo : PkgInfoTable}
    (h : DecodedTo lib usb d pkgInfo) (id : Int) :
    matched lib usb devInfo (pkgInfo.toRow id) =
      if UsbBusExtension.matchDriver d devInfo then some d else none := by
  split
  case isTrue haccepted => exact matched_eq_some_iff.2 ⟨h.decoded id, haccepted⟩
  case isFalse haccepted =>
    rw [Option.eq_none_iff_forall_ne_some]
    intro d' hmatched
    obtain ⟨hdecoded, haccepted'⟩ := matched_eq_some_iff.1 hmatched
    cases (h.decoded id).symm.trans hdecoded
    exact haccepted haccepted'

theorem findSome?_rowsOf {usb : Bool} {records : List DriverInfo} {new : List PkgInfoTable}
    (h : List.Forall₂ (DecodedTo lib usb) records new) (r : StoreReplies) (n : Nat) :
    (rowsOf r n new).findSome? (matched lib usb devInfo) =
      records.find? (UsbBusExtension.matchDriver · devInfo) := by
  induction h generalizing n with
  | nil => rfl
  | @cons d pkgInfo records new hdecoded _ ih =>
    rw [rowsOf, List.findSome?_cons, matched_of_decodedTo hdecoded, List.find?_cons, ih]
    cases UsbBusExtension.matchDriver d devInfo with
    | true => rfl
    | false => rfl

/-- The driver of a device once the bundle has been written: a row of another bundle comes before the
records of the bundle. -/
def installed (lib : CJsonLib) (env : Environment) (infos : List ExtensionAbilityInfo)
    (bundleName : Text) (old : List Row) (devInfo : UsbBusExtension.UsbDeviceInfo) :
    Option DriverInfo :=
  ((old.filter fun row => !ofBundleIfAny bundleName row).findSome? (matched lib env.usb devInfo)).or
    ((parseToPkgInfoTables lib env infos []).1.find? (UsbBusExtension.matchDriver · devInfo))

/-- The table after a successful write. -/
theorem table_written (r : StoreReplies) (pkgInfos : List PkgInfoTable) (bundleName : Text)
    (initialised : Bool) (old : List Row)
    (hok : pkgOk ≤ (addOrUpdatePkgInfo r pkgInfos bundleName (.ready initialised old)).1) :
    (addOrUpdatePkgInfo r pkgInfos bundleName (.ready initialised old)).2.table =
      refreshed r pkgInfos bundleName old := by
  rcases addOrUpdatePkgInfo_atomicIfFits initialised old r pkgInfos bundleName with
    ⟨-, hatomic⟩ | ⟨-, code, hcode, hresult⟩
  · rw [PkgDataBase.table, hatomic.done (hatomic.code.mp hok)]
  · rw [hresult] at hok
    exact absurd hok (Int.not_le.mpr hcode)

/-- What a query of the table finds after a successful write. -/
theorem findSome?_written {infos : List ExtensionAbilityInfo} (hnul : ∀ info ∈ infos, info.NulFree)
    (hprint : ∀ d ∈ (parseToPkgInfoTables lib env infos []).1, d.Printable lib)
    (r : StoreReplies) (bundleName : Text) (initialised : Bool) (old : List Row)
    (hok : pkgOk ≤ (addOrUpdatePkgInfo r (parseToPkgInfoTables lib env infos []).2 bundleName
      (.ready initialised old)).1) :
    (addOrUpdatePkgInfo r (parseToPkgInfoTables lib env infos []).2 bundleName
        (.ready initialised old)).2.table.findSome? (matched lib env.usb devInfo) =
      installed lib env infos bundleName old devInfo := by
  obtain ⟨new, hrows, hall⟩ := parseToPkgInfoTables_decodedTo infos [] hnul hprint
  rw [List.nil_append] at hrows
  rw [table_written r _ bundleName initialised old hok, refreshed, List.findSome?_append, hrows,
    findSome?_rowsOf hall]
  rfl

end ExtDevMgr.Pkg
