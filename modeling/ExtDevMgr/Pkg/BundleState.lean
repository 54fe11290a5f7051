import ExtDevMgr.Base.Machine
import ExtDevMgr.Pkg.PkgDatabase

/-!
# Keeping the package table

`DrvBundleStateCallback` as a transition system. A call first takes its snapshot of the bundle manager,
and what it writes into the package table is a task until a later step. The full scan holds
`initOnceMutex_` in between. The queries succeed; a bundle that is not installed is not found.
-/

namespace ExtDevMgr.Pkg
open Json

/-! ## The bundle manager -/

/-- A bundle as `GetBundleInfo` and `GetBundleStats` describe it. -/
structure BundleInfo where
  name : Text
  extensionInfos : List ExtensionAbilityInfo
  applicationInfo : ApplicationInfo
  bundleStats : Option Int
  name_ne : name ≠ []
  named : ∀ info ∈ extensionInfos, info.bundleName = name

/-- The drivers among the extensions. -/
def BundleInfo.driverInfos (bundle : BundleInfo) : List ExtensionAbilityInfo :=
  (bundle.extensionInfos.filter fun info => info.isDriver).map fun info =>
    { info with applicationInfo := bundle.applicationInfo }

/-- The bundles installed for each user. -/
structure BundleMgr where
  bundles : Int → List BundleInfo
  nodup : ∀ userId, ((bundles userId).map BundleInfo.name).Nodup

namespace BundleMgr

def getBundleInfo (mgr : BundleMgr) (bundleName : Text) (userId : Int) : Option BundleInfo :=
  (mgr.bundles userId).find? fun bundle => bundle.name = bundleName

/-- `QueryExtensionAbilityInfos` for the type DRIVER. -/
def queryExtensionAbilityInfos (mgr : BundleMgr) (userId : Int) : List ExtensionAbilityInfo :=
  (mgr.bundles userId).flatMap BundleInfo.driverInfos

/-- The other bundles of a user. -/
def without (mgr : BundleMgr) (userId : Int) (bundleName : Text) : List BundleInfo :=
  (mgr.bundles userId).filter fun bundle => bundle.name ≠ bundleName

theorem nodup_without (mgr : BundleMgr) (userId : Int) (bundleName : Text) :
    ((mgr.without userId bundleName).map BundleInfo.name).Nodup :=
  (mgr.nodup userId).sublist (List.filter_sublist.map _)

def remove (mgr : BundleMgr) (userId : Int) (bundleName : Text) : BundleMgr where
  bundles := Function.update mgr.bundles userId (mgr.without userId bundleName)
  nodup userId' := by
    rw [Function.update_apply]
    split
    · exact mgr.nodup_without userId bundleName
    · exact mgr.nodup userId'

/-- Install or update. -/
def install (mgr : BundleMgr) (userId : Int) (bundle : BundleInfo) : BundleMgr where
  bundles := Function.update mgr.bundles userId (bundle :: mgr.without userId bundle.name)
  nodup userId' := by
    rw [Function.update_apply]
    split
    · rw [List.map_cons, List.nodup_cons]
      refine ⟨fun hmem => ?_, mgr.nodup_without userId bundle.name⟩
      obtain ⟨other, hother, hname⟩ := List.mem_map.mp hmem
      exact of_decide_eq_true (List.mem_filter.mp hother).2 hname
    · exact mgr.nodup userId'

/-- What `ParseToPkgInfoTables` asks while `userId` is in the foreground. -/
def environment (env : Environment) (mgr : BundleMgr) (userId : Int) : Environment :=
  { env with
    getBundleStats := fun bundleName =>
      (mgr.getBundleInfo bundleName userId).bind BundleInfo.bundleStats }

end BundleMgr

/-! ## Calls and tasks -/

/-- A call that has not begun. -/
inductive Call
  | onBundleAdded (bundleName : Text) (userId : Int)
  | onBundleUpdated (bundleName : Text) (userId : Int)
  | onBundleRemoved (bundleName : Text) (userId : Int)
  | onAccountsSwitch
  | getAllDriverInfos
  deriving DecidableEq

/-- What is still to be written. -/
inductive Task
  | updateToRdb (pkgInfos : List PkgInfoTable) (bundleName : Text)
  | onBundleDrvRemoved (bundleName : Text)
  | getAllDriverInfos (pkgInfos : List PkgInfoTable)
  deriving DecidableEq

/-- The scan, which holds `initOnceMutex_`. -/
def Task.isScan : Task → Bool
  | .getAllDriverInfos _ => true
  | _ => false

/-- The write of a task. `OnBundleDrvRemoved` reads the rows first, which it only reports. -/
def Task.write (r : StoreReplies) : Task → PkgDataBase → Int × PkgDataBase
  | .updateToRdb pkgInfos bundleName, db => PkgDbHelper.addOrUpdatePkgInfo r pkgInfos bundleName db
  | .onBundleDrvRemoved bundleName, db => PkgDbHelper.deleteRightRecord r bundleName db
  | .getAllDriverInfos pkgInfos, db => PkgDbHelper.addOrUpdatePkgInfo r pkgInfos [] db

/-- `foreground` is the active user. -/
structure DrvBundleState where
  bundleMgr : BundleMgr
  foreground : Int
  initOnce : Bool := false
  table : List Row
  calls : List Call
  tasks : List Task

namespace DrvBundleState

def isCurrentUserId (s : DrvBundleState) (userId : Int) : Bool := s.foreground = userId

def queryDriverInfos (s : DrvBundleState) (bundleName : Text) (userId : Int) :
    Option (List ExtensionAbilityInfo) :=
  if bundleName = [] then
    none
  else
    (s.bundleMgr.getBundleInfo bundleName userId).map BundleInfo.driverInfos

def called (s : DrvBundleState) (call : Call) : DrvBundleState :=
  { s with calls := s.calls ++ [call] }

def began (s : DrvBundleState) (task : Task) : DrvBundleState :=
  { s with tasks := task :: s.tasks }

section
variable (lib : CJsonLib) (env : Environment) (s : DrvBundleState)

/-- What `UpdateToRdb` makes of its snapshot. -/
def pkgInfoTables (driverInfos : List ExtensionAbilityInfo) : List PkgInfoTable :=
  (parseToPkgInfoTables lib (s.bundleMgr.environment env s.foreground) driverInfos []).2

def onBundleAdded (bundleName : Text) (userId : Int) : DrvBundleState :=
  if !s.isCurrentUserId userId then
    s
  else
    match s.queryDriverInfos bundleName userId with
    | none => s
    | some driverInfos => s.began (.updateToRdb (s.pkgInfoTables lib env driverInfos) bundleName)

def onBundleUpdated (bundleName : Text) (userId : Int) : DrvBundleState :=
  if !s.isCurrentUserId userId then
    s
  else
    match s.queryDriverInfos bundleName userId with
    | none => s
    | some driverInfos =>
      if driverInfos = [] then
        s.began (.onBundleDrvRemoved bundleName)
      else
        s.began (.updateToRdb (s.pkgInfoTables lib env driverInfos) bundleName)

def onBundleRemoved (bundleName : Text) (userId : Int) : DrvBundleState :=
  if !s.isCurrentUserId userId then s else s.began (.onBundleDrvRemoved bundleName)

/-- `ResetInitOnce` and `GetAllDriverInfosAsync`. -/
def onAccountsSwitch : DrvBundleState := { s with initOnce := false }.called .getAllDriverInfos

def getAllDriverInfos : DrvBundleState :=
  if s.initOnce then
    s
  else
    s.began (.getAllDriverInfos
      (s.pkgInfoTables lib env (s.bundleMgr.queryExtensionAbilityInfos s.foreground)))

/-- A call up to its snapshot. -/
def begin : Call → DrvBundleState
  | .onBundleAdded bundleName userId => s.onBundleAdded lib env bundleName userId
  | .onBundleUpdated bundleName userId => s.onBundleUpdated lib env bundleName userId
  | .onBundleRemoved bundleName userId => s.onBundleRemoved bundleName userId
  | .onAccountsSwitch => s.onAccountsSwitch
  | .getAllDriverInfos => s.getAllDriverInfos lib env

end

/-- `initOnceMutex_` is not held. -/
def initOnceFree (s : DrvBundleState) : Prop := ∀ task ∈ s.tasks, task.isScan = false

instance (s : DrvBundleState) : Decidable s.initOnceFree :=
  inferInstanceAs (Decidable (∀ task ∈ s.tasks, task.isScan = false))

/-- The database as the tasks find it. -/
def db (s : DrvBundleState) : PkgDataBase where
  initialised := true
  store := .closed s.table false

/-- The state without a task that is done. -/
def finished (s : DrvBundleState) (task : Task) : DrvBundleState :=
  { s with tasks := s.tasks.erase task, initOnce := s.initOnce || task.isScan }

inductive Action
  /-- The bundle manager installs or updates a bundle, and calls the handler. -/
  | install (userId : Int) (bundle : BundleInfo)
  | remove (userId : Int) (bundleName : Text)
  | switchAccount (newId : Int)
  /-- A query of the drivers scans the bundles first. -/
  | queryDriver
  | begin (call : Call)
  | write (r : StoreReplies) (task : Task)

section
variable (lib : CJsonLib) (env : Environment)

def step (s : DrvBundleState) : Action → DrvBundleState
  | .install userId bundle =>
    { s with bundleMgr := s.bundleMgr.install userId bundle }.called
      (if (s.bundleMgr.getBundleInfo bundle.name userId).isSome then
        .onBundleUpdated bundle.name userId
      else
        .onBundleAdded bundle.name userId)
  | .remove userId bundleName =>
    { s with bundleMgr := s.bundleMgr.remove userId bundleName }.called
      (.onBundleRemoved bundleName userId)
  | .switchAccount newId => { s with foreground := newId }.called .onAccountsSwitch
  | .queryDriver => s.called .getAllDriverInfos
  | .begin call => { s with calls := s.calls.erase call }.begin lib env call
  | .write r task => { s.finished task with table := (task.write r s.db).2.table }

/-- Calls begin and tasks write in any order, and the writes succeed. -/
def Enabled (s : DrvBundleState) : Action → Prop
  | .begin call => call ∈ s.calls ∧
      (call = .onAccountsSwitch ∨ call = .getAllDriverInfos → s.initOnceFree)
  | .write r task => task ∈ s.tasks ∧ pkgOk ≤ (task.write r s.db).1
  | _ => True

/-- The service starts with a scan, over a table of any content. -/
def machine (bundleMgr : BundleMgr) (foreground : Int) (table : List Row) :
    Machine DrvBundleState Action where
  init := { bundleMgr, foreground, table, calls := [.getAllDriverInfos], tasks := [] }
  enabled := Enabled
  step := step lib env

end

end DrvBundleState

end ExtDevMgr.Pkg
