import ExtDevMgr.Base.Parts
import ExtDevMgr.Pkg.Atomicity
import ExtDevMgr.Pkg.BundleState

/-!
# The package table by bundle

A task of `DrvBundleStateCallback` replaces the rows of its own bundle, or all rows, and leaves the rest
of the table alone (`part_write`). What the bundle manager lists consists of the rows of the single
bundles (`filter_listed`).
-/

namespace ExtDevMgr.Pkg
open Json Transaction PkgDbHelper Parts

/-! ## Rows of the drivers -/

section
variable (lib : CJsonLib)

/-- The row record of one extension, if there is one. -/
def toPkgInfo (env : Environment) (driverInfo : ExtensionAbilityInfo) : Option PkgInfoTable :=
  (toDriverInfo env driverInfo).bind fun tmpDrvInfo =>
    match tmpDrvInfo.serialize lib with
    | (.edmOk, some driverInfoStr) => some (createPkgInfoTable env driverInfo driverInfoStr)
    | _ => none

theorem parseToPkgInfoTables_cons (env : Environment) (info : ExtensionAbilityInfo)
    (infos : List ExtensionAbilityInfo) (rows : List PkgInfoTable) :
    (parseToPkgInfoTables lib env (info :: infos) rows).2 =
      (parseToPkgInfoTables lib env infos (rows ++ (toPkgInfo lib env info).toList)).2 := by
  rw [parseToPkgInfoTables, toPkgInfo]
  cases toDriverInfo env info with
  | none =>
    rw [Option.bind_none, Option.toList_none, List.append_nil]
  | some d =>
    have hfails : (parseToPkgInfoTables lib env infos rows).2 =
        (parseToPkgInfoTables lib env infos (rows ++ [])).2 := by
      rw [List.append_nil]
    dsimp only [Option.bind_some]
    generalize d.serialize lib = result
    obtain ⟨code, driverInfoStr⟩ := result
    cases driverInfoStr with
    | none => cases code <;> exact hfails
    | some driverInfoStr =>
      cases code with
      | edmOk => rfl
      | _ => exact hfails

theorem parseToPkgInfoTables_snd (env : Environment) (driverInfos : List ExtensionAbilityInfo)
    (rows : List PkgInfoTable) : (parseToPkgInfoTables lib env driverInfos rows).2 =
      rows ++ driverInfos.filterMap (toPkgInfo lib env) := by
  induction driverInfos generalizing rows with
  | nil => exact (List.append_nil rows).symm
  | cons info infos ih =>
    rw [parseToPkgInfoTables_cons, ih, List.append_assoc, List.filterMap_cons]
    cases toPkgInfo lib env info with
    | none => rfl
    | some pkgInfo => rfl

theorem createPkgInfoTable_bundleName (env : Environment) (info : ExtensionAbilityInfo)
    (str : Text) : (createPkgInfoTable env info str).bundleName = info.bundleName := by
  rw [createPkgInfoTable]
  dsimp only
  split <;> rfl

theorem toPkgInfo_bundleName {lib : CJsonLib} {env : Environment} {info : ExtensionAbilityInfo}
    {pkgInfo : PkgInfoTable} (h : toPkgInfo lib env info = some pkgInfo) :
    pkgInfo.bundleName = info.bundleName := by
  obtain ⟨d, -, hd⟩ := Option.bind_eq_some_iff.mp h
  split at hd
  · cases hd
    exact createPkgInfoTable_bundleName env info _
  · exact nomatch hd

/-- Only the size of the own bundle is looked up. -/
theorem toPkgInfo_congr {env : Environment} {stats stats' : Text → Option Int}
    {info : ExtensionAbilityInfo} (h : stats info.bundleName = stats' info.bundleName) :
    toPkgInfo lib { env with getBundleStats := stats } info =
      toPkgInfo lib { env with getBundleStats := stats' } info := by
  have hsize : getBundleSize { env with getBundleStats := stats } info.bundleName =
      getBundleSize { env with getBundleStats := stats' } info.bundleName := by
    rw [getBundleSize, getBundleSize]
    dsimp only
    rw [h]
  unfold toPkgInfo toDriverInfo
  rw [hsize]
  rfl

/-- A row without the id that the store gives it. -/
def Row.withoutId (row : Row) : Row := { row with id := 0 }

theorem map_withoutId_rowsOf (r : StoreReplies) (n : Nat) (pkgInfos : List PkgInfoTable) :
    (rowsOf r n pkgInfos).map Row.withoutId = pkgInfos.map (·.toRow 0) := by
  induction pkgInfos generalizing n with
  | nil => rfl
  | cons pkgInfo pkgInfos ih => exact congrArg (_ :: ·) (ih (n + 1))

end

/-! ## Writes -/

/-- A writer that reports success has written the new table. -/
theorem AtomicIfFits.table_eq {initialised : Bool} {old new : List Row} {fits : Prop}
    {result : Int × PkgDataBase} (h : AtomicIfFits initialised old new fits result)
    (hcode : pkgOk ≤ result.1) : result.2.table = new := by
  rcases h with ⟨-, hatomic⟩ | ⟨-, code, hlt, rfl⟩
  · exact hatomic.done (hatomic.code.mp hcode)
  · exact absurd hcode (Int.not_le.mpr hlt)

namespace Task

/-- The bundles that a task writes about; `none` stands for the rows without one. -/
def Covers (key : Option Text) : Task → Prop
  | .updateToRdb _ bundleName => key = some bundleName
  | .onBundleDrvRemoved bundleName => key = some bundleName
  | .getAllDriverInfos _ => True

/-- The rows that a task puts in place of the old ones. -/
def rows : Task → List Row
  | .updateToRdb pkgInfos _ => pkgInfos.map (·.toRow 0)
  | .onBundleDrvRemoved _ => []
  | .getAllDriverInfos pkgInfos => pkgInfos.map (·.toRow 0)

/-- The handlers write about their own bundle alone. -/
def Sound : Task → Prop
  | .updateToRdb pkgInfos bundleName =>
    bundleName ≠ [] ∧ ∀ pkgInfo ∈ pkgInfos, pkgInfo.bundleName = bundleName
  | _ => True

end Task

/-- The part of a table about one bundle. -/
def part (key : Option Text) (table : List Row) : List Row :=
  (table.filter fun row => row.bundleName = key).map Row.withoutId

theorem part_eq_filter (key : Option Text) (table : List Row) :
    part key table = (table.map Row.withoutId).filter fun row => row.bundleName = key := by
  rw [List.filter_map]
  rfl

theorem part_append (key : Option Text) (table table' : List Row) :
    part key (table ++ table') = part key table ++ part key table' := by
  rw [part, List.filter_append, List.map_append]
  rfl

theorem part_rowsOf (key : Option Text) (r : StoreReplies) (n : Nat)
    (pkgInfos : List PkgInfoTable) : part key (rowsOf r n pkgInfos) =
      (pkgInfos.map (·.toRow 0)).filter fun row => row.bundleName = key := by
  rw [part_eq_filter, map_withoutId_rowsOf]

/-- What a deletion leaves of its own bundle and of the others. -/
theorem part_deleted (key : Option Text) (bundleName : Text) (table : List Row) :
    part key (table.filter fun row => !ofBundle bundleName row) =
      if key = some bundleName then [] else part key table := by
  rw [part, List.filter_filter]
  split
  · next hkey =>
    subst hkey
    rw [List.map_eq_nil_iff, List.filter_eq_nil_iff]
    intro row _ hrow
    obtain ⟨hof, hother⟩ := Bool.and_eq_true_iff.mp hrow
    rw [ofBundle, hof] at hother
    exact nomatch hother
  · next hkey =>
    refine congrArg (List.map Row.withoutId) (List.filter_congr fun row _ => ?_)
    by_cases hrow : row.bundleName = key
    · have hother : ofBundle bundleName row = false :=
        decide_eq_false fun hof => hkey (hrow.symm.trans hof)
      rw [hother, Bool.not_false, Bool.and_true]
    · rw [decide_eq_false hrow, Bool.false_and]

/-- The rows of a handler are about its own bundle. -/
theorem filter_rows {pkgInfos : List PkgInfoTable} {bundleName : Text}
    (h : ∀ pkgInfo ∈ pkgInfos, pkgInfo.bundleName = bundleName) {key : Option Text}
    (hkey : key ≠ some bundleName) :
    (pkgInfos.map (·.toRow 0)).filter (fun row => row.bundleName = key) = [] := by
  refine filter_key_eq_nil (fun row hrow => ?_) hkey.symm
  obtain ⟨pkgInfo, hmem, rfl⟩ := List.mem_map.mp hrow
  exact congrArg some (h pkgInfo hmem)

theorem part_write {r : StoreReplies} {task : Task} {table : List Row} (hsound : task.Sound)
    (hcode : pkgOk ≤ (task.write r (.ready true table)).1) (key : Option Text) :
    (task.Covers key → part key (task.write r (.ready true table)).2.table =
      task.rows.filter fun row => row.bundleName = key) ∧
    (¬ task.Covers key → part key (task.write r (.ready true table)).2.table =
      part key table) := by
  cases task with
  | updateToRdb pkgInfos bundleName =>
    have htable := (addOrUpdatePkgInfo_atomicIfFits true table r pkgInfos bundleName).table_eq hcode
    rw [Task.write, htable, refreshed, ofBundleIfAny, if_neg hsound.1, part_append, part_rowsOf,
      part_deleted]
    constructor
    · intro (hkey : key = some bundleName)
      rw [if_pos hkey]
      rfl
    · intro (hkey : key ≠ some bundleName)
      rw [if_neg hkey, filter_rows hsound.2 hkey, List.append_nil]
  | onBundleDrvRemoved bundleName =>
    have hatomic : AtomicResult table (table.filter fun row => !ofBundle bundleName row)
        (deleteRightRecord r bundleName (.ready true table)) := deleteAndNoOtherOperation_atomic _
    have htable : (deleteRightRecord r bundleName (.ready true table)).2.table =
        table.filter fun row => !ofBundle bundleName row := hatomic.done (hatomic.code.mp hcode)
    rw [Task.write, htable, part_deleted]
    constructor
    · intro (hkey : key = some bundleName)
      exact if_pos hkey
    · intro (hkey : key ≠ some bundleName)
      exact if_neg hkey
  | getAllDriverInfos pkgInfos =>
    have htable := (addOrUpdatePkgInfo_atomicIfFits true table r pkgInfos []).table_eq hcode
    have hnil : table.filter (fun row => !ofBundleIfAny [] row) = [] := by
      apply List.filter_eq_nil_iff.mpr
      intro row _
      exact nofun
    rw [Task.write, htable, refreshed, hnil, List.nil_append, part_rowsOf]
    exact ⟨fun _ => rfl, fun hkey => absurd trivial hkey⟩

/-! ## What the bundle manager lists -/

theorem BundleMgr.getBundleInfo_iff {mgr : BundleMgr} {bundleName : Text} {userId : Int}
    {bundle : BundleInfo} : mgr.getBundleInfo bundleName userId = some bundle ↔
      bundle ∈ mgr.bundles userId ∧ bundle.name = bundleName :=
  find?_name_iff (mgr.nodup userId)

section
variable (lib : CJsonLib) (env : Environment)

/-- The rows of a bundle. -/
def BundleInfo.rows (bundle : BundleInfo) : List Row :=
  (bundle.driverInfos.filterMap
    (toPkgInfo lib { env with getBundleStats := fun _ => bundle.bundleStats })).map (·.toRow 0)

theorem BundleInfo.driverInfos_bundleName {bundle : BundleInfo} {info : ExtensionAbilityInfo}
    (h : info ∈ bundle.driverInfos) : info.bundleName = bundle.name := by
  obtain ⟨info', hmem, rfl⟩ := List.mem_map.mp h
  exact bundle.named info' (List.mem_filter.mp hmem).1

variable {lib env} in
theorem BundleInfo.rows_bundleName {bundle : BundleInfo} {row : Row}
    (h : row ∈ bundle.rows lib env) : row.bundleName = some bundle.name := by
  obtain ⟨pkgInfo, hpkgInfo, rfl⟩ := List.mem_map.mp h
  obtain ⟨info, hinfo, heq⟩ := List.mem_filterMap.mp hpkgInfo
  exact congrArg some ((toPkgInfo_bundleName heq).trans (driverInfos_bundleName hinfo))

/-- The rows do not depend on the other bundles. -/
theorem BundleInfo.rows_eq {mgr : BundleMgr} {userId : Int} {bundle : BundleInfo}
    (h : bundle ∈ mgr.bundles userId) :
    (bundle.driverInfos.filterMap (toPkgInfo lib (mgr.environment env userId))).map (·.toRow 0) =
      bundle.rows lib env := by
  refine congrArg (List.map _) (List.filterMap_congr fun info hinfo => toPkgInfo_congr lib ?_)
  rw [driverInfos_bundleName hinfo, BundleMgr.getBundleInfo_iff.mpr ⟨h, rfl⟩]
  rfl

namespace DrvBundleState

/-- The rows of the drivers that the bundle manager lists for the active user. -/
def listed (s : DrvBundleState) : List Row :=
  (s.pkgInfoTables lib env (s.bundleMgr.queryExtensionAbilityInfos s.foreground)).map (·.toRow 0)

/-- Those of one bundle. -/
def listedOf (s : DrvBundleState) (key : Option Text) : List Row :=
  (key.bind fun bundleName => s.bundleMgr.getBundleInfo bundleName s.foreground).elim []
    (BundleInfo.rows lib env)

theorem filter_listed (s : DrvBundleState) (key : Option Text) :
    (s.listed lib env).filter (fun row => row.bundleName = key) = s.listedOf lib env key := by
  have hlisted : s.listed lib env =
      (s.bundleMgr.bundles s.foreground).flatMap (BundleInfo.rows lib env) := by
    rw [listed, pkgInfoTables, parseToPkgInfoTables_snd, List.nil_append,
      BundleMgr.queryExtensionAbilityInfos, List.filterMap_flatMap, List.map_flatMap]
    exact List.flatMap_congr fun bundle hmem => BundleInfo.rows_eq lib env hmem
  rw [hlisted]
  exact filter_flatMap (fun bundle row hrow => BundleInfo.rows_bundleName hrow)
    (s.bundleMgr.nodup s.foreground) key

/-- A table whose parts are all what is listed holds what is listed. -/
theorem perm_listed {s : DrvBundleState}
    (h : ∀ key, part key s.table = s.listedOf lib env key) :
    (s.table.map Row.withoutId).Perm (s.listed lib env) := by
  refine perm_of_filter_eq (fun row : Row => row.bundleName) fun key => ?_
  rw [filter_listed, ← h, part_eq_filter]

end DrvBundleState

end

end ExtDevMgr.Pkg
