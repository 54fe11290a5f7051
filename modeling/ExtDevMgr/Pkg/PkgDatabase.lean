import ExtDevMgr.Base.Transaction
import ExtDevMgr.Pkg.Manifest

/-!
# The package table

`pkg_database.cpp` and `pkg_db_helper.cpp` over a relational store that is transactional and rolls
back without failing. The answers of the store are parameters.
-/

namespace ExtDevMgr.Pkg
open Json Transaction

abbrev pkgOk : Int := 0
abbrev pkgFailure : Int := -1
abbrev pkgRdbExecuteFailture : Int := -2
abbrev pkgRdbNoInit : Int := -3

/-- `OHOS::NativeRdb::E_OK`. -/
abbrev eOk : Int := 0

/-- A row of `pkgInfoTable`; `none` is NULL. -/
structure Row where
  id : Int
  driverUid : Option Text := none
  userId : Option Int := none
  appIndex : Option Int := none
  bundleAbility : Option Text := none
  bundleName : Option Text := none
  driverName : Option Text := none
  driverInfo : Option Text := none
  deriving DecidableEq

/-- A table open for reading, with the answers to the calls that read it. `stale` is what an
uninitialised field holds. -/
structure ResultReplies where
  getRowCount : Int
  getColumnIndex : Text → Int
  goToRow : Nat → Int
  getValue : Nat → Text → Int
  isEnded : Nat → Bool
  stale : Int

/-- What the store answers to the calls of one operation: codes, and for an insertion the row id
too. `query` is whether there is a result set. -/
structure StoreReplies where
  beginTransaction : Int
  delete : Int
  insert : Nat → Int × Int
  update : Int
  query : Bool
  result : ResultReplies
  commit : Int

/-- `initialised` is whether there is a store. -/
structure PkgDataBase where
  initialised : Bool
  store : Store (List Row)

namespace PkgDataBase

def table (db : PkgDataBase) : List Row := db.store.content

/-- A call of the store, which answers `ret`. -/
def call (ret : Int) (f : Bool → Store (List Row) → Store (List Row)) (db : PkgDataBase) :
    Int × PkgDataBase :=
  if !db.initialised then
    (pkgRdbNoInit, { db with store := f false db.store })
  else if ret ≠ eOk then
    (pkgRdbExecuteFailture, { db with store := f false db.store })
  else
    (pkgOk, { db with store := f true db.store })

def beginTransaction (ret : Int) (db : PkgDataBase) : Int × PkgDataBase := db.call ret Store.start

def commit (ret : Int) (db : PkgDataBase) : Int × PkgDataBase := db.call ret Store.commit

def rollBack (db : PkgDataBase) : PkgDataBase := { db with store := db.store.rollBack }

/-- The row id, or a code. -/
def insert (reply : Int × Int) (insertValues : Int → Row) (db : PkgDataBase) :
    Int × PkgDataBase :=
  let (ret, outRowId) := reply
  let (code, db) := db.call ret (Store.exec (· ++ [insertValues outRowId]))
  if code ≠ pkgOk then (code, db) else (outRowId, db)

/-- The rows with `p` get new values. -/
def update (ret : Int) (values : Row → Row) (p : Row → Bool) (db : PkgDataBase) :
    Int × PkgDataBase :=
  db.call ret (Store.exec (·.map fun row => if p row then values row else row))

/-- The rows with `p` are deleted. -/
def delete (ret : Int) (p : Row → Bool) (db : PkgDataBase) : Int × PkgDataBase :=
  db.call ret (Store.exec (·.filter fun row => !p row))

/-- The rows with `p`, if there is a result set. -/
def query (reply : Bool) (p : Row → Bool) (db : PkgDataBase) : Option (List Row) × PkgDataBase :=
  let (code, db) := db.call (if reply then eOk else pkgFailure) (Store.exec id)
  if code ≠ pkgOk then (none, db) else (some (db.table.filter p), db)

end PkgDataBase

/-! ## Writing -/

/-- The condition `bundleName = ?`. -/
def ofBundle (bundleName : Text) (row : Row) : Bool := row.bundleName = some bundleName

/-- The condition on the bundle, where a name is given. -/
def ofBundleIfAny (bundleName : Text) : Row → Bool :=
  if bundleName = [] then fun _ => true else ofBundle bundleName

/-- The condition `bundleAbility = ?`. -/
def ofBundleAbility (bundleAbility : Text) (row : Row) : Bool :=
  row.bundleAbility = some bundleAbility

/-- The values of a record as a row. -/
def PkgInfoTable.toRow (pkgInfo : PkgInfoTable) (id : Int) : Row where
  id
  driverUid := some pkgInfo.driverUid
  userId := some pkgInfo.userId
  appIndex := some pkgInfo.appIndex
  bundleAbility := some pkgInfo.bundleAbility
  bundleName := some pkgInfo.bundleName
  driverName := some pkgInfo.driverName
  driverInfo := some pkgInfo.driverInfo

namespace PkgDbHelper
variable (r : StoreReplies)

/-- The common end of the operations. -/
def commitOrRollBack (db : PkgDataBase) : Int × PkgDataBase :=
  let (ret, db) := db.commit r.commit
  if ret < pkgOk then (ret, db.rollBack) else (ret, db)

def deleteAndNoOtherOperation (whereClause : Row → Bool) (db : PkgDataBase) :
    Int × PkgDataBase :=
  let (ret, db) := db.beginTransaction r.beginTransaction
  if ret < pkgOk then
    (ret, db)
  else
    let (ret, db) := db.delete r.delete whereClause
    if ret < pkgOk then
      (ret, db.rollBack)
    else
      commitOrRollBack r db

def deleteRightRecord (bundleName : Text) (db : PkgDataBase) : Int × PkgDataBase :=
  deleteAndNoOtherOperation r (ofBundle bundleName) db

/-- The loop of `AddOrUpdatePkgInfo`, from the `n`-th insertion on: the code with which the function
returns from inside of it, if it does. -/
def insertPkgInfos : Nat → List PkgInfoTable → PkgDataBase → Option Int × PkgDataBase
  | _, [], db => (none, db)
  | n, pkgInfo :: pkgInfos, db =>
    let (rowId, db) := db.insert (r.insert n) pkgInfo.toRow
    let ret := toInt32 rowId
    if ret < pkgOk then (some ret, db.rollBack) else insertPkgInfos (n + 1) pkgInfos db

def addOrUpdatePkgInfo (pkgInfos : List PkgInfoTable) (bundleName : Text) (db : PkgDataBase) :
    Int × PkgDataBase :=
  let (ret, db) := db.beginTransaction r.beginTransaction
  if ret < pkgOk then
    (ret, db)
  else
    let (ret, db) := db.delete r.delete (ofBundleIfAny bundleName)
    if ret < pkgOk then
      (ret, db.rollBack)
    else
      match insertPkgInfos r 0 pkgInfos db with
      | (some ret, db) => (ret, db)
      | (none, db) => commitOrRollBack r db

/-- `isUpdate` is the second component. -/
def checkIfNeedUpdateEx (bundleAbility : Text) (db : PkgDataBase) : Int × Bool × PkgDataBase :=
  match db.query r.query (ofBundleAbility bundleAbility) with
  | (none, db) => (pkgRdbExecuteFailture, false, db.rollBack)
  | (some rows, db) =>
    let (code, db) := db.call r.result.getRowCount (Store.exec id)
    if code ≠ pkgOk then
      (pkgRdbExecuteFailture, false, db.rollBack)
    else
      (pkgOk, decide (rows.length > 0), db)

def addOrUpdateRightRecordEx (isUpdate : Bool) (bundleName bundleAbility driverInfo : Text)
    (db : PkgDataBase) : Int × PkgDataBase :=
  let (ret, db) :=
    if isUpdate then
      db.update r.update (fun row => { row with
        bundleName := some bundleName
        bundleAbility := some bundleAbility
        driverInfo := some driverInfo }) (ofBundleAbility bundleAbility)
    else
      let (rowId, db) := db.insert (r.insert 0) fun id => {
        id, bundleName := some bundleName, bundleAbility := some bundleAbility
        driverInfo := some driverInfo }
      (toInt32 rowId, db)
  if ret < pkgOk then (ret, db.rollBack) else (ret, db)

def addOrUpdateRightRecord (bundleName bundleAbility driverInfo : Text) (db : PkgDataBase) :
    Int × PkgDataBase :=
  let (ret, db) := db.beginTransaction r.beginTransaction
  if ret < pkgOk then
    (ret, db)
  else
    let (ret, isUpdate, db) := checkIfNeedUpdateEx r bundleAbility db
    if ret < pkgOk then
      (ret, db)
    else
      let (ret, db) := addOrUpdateRightRecordEx r isUpdate bundleName bundleAbility driverInfo db
      if ret < pkgOk then
        (ret, db)
      else
        commitOrRollBack r db

end PkgDbHelper

/-! ## Reading -/

/-- The columns that are read. -/
def queriedColumns : List Text :=
  ["driverUid".toList, "userId".toList, "bundleName".toList, "driverName".toList,
    "driverInfo".toList]

/-- `appIndex` is not read. -/
def Row.toPkgInfo (stale : Int) (row : Row) : PkgInfoTable where
  driverUid := row.driverUid.getD []
  bundleAbility := []
  userId := row.userId.getD 0
  appIndex := stale
  bundleName := row.bundleName.getD []
  driverName := row.driverName.getD []
  driverInfo := row.driverInfo.getD []

/-- The loop of `ParseToPkgInfos`, from the `i`-th row on. -/
def parseRows (r : ResultReplies) : Nat → List Row → List PkgInfoTable → Bool × List PkgInfoTable
  | _, [], pkgInfos => (true, pkgInfos)
  | i, row :: rows, pkgInfos =>
    if r.goToRow i ≠ eOk then
      (false, pkgInfos)
    else if queriedColumns.any fun column => r.getValue i column ≠ eOk then
      (false, pkgInfos)
    else
      let pkgInfos := pkgInfos ++ [row.toPkgInfo r.stale]
      if r.isEnded i then (true, pkgInfos) else parseRows r (i + 1) rows pkgInfos

def parseToPkgInfos (r : ResultReplies) (resultSet : List Row) (pkgInfos : List PkgInfoTable) :
    Bool × List PkgInfoTable :=
  if r.getRowCount ≠ eOk ∨ queriedColumns.any fun column => r.getColumnIndex column ≠ eOk then
    (false, pkgInfos)
  else
    parseRows r 0 resultSet pkgInfos

namespace PkgDbHelper
variable (r : StoreReplies)

/-- `QueryPkgInfos` with a condition; it adds to `pkgInfos`. -/
def queryPkgInfos (p : Row → Bool) (pkgInfos : List PkgInfoTable) (db : PkgDataBase) :
    Int × List PkgInfoTable × PkgDataBase :=
  let (ret, db) := db.beginTransaction r.beginTransaction
  if ret < pkgOk then
    (ret, pkgInfos, db)
  else
    match db.query r.query p with
    | (none, db) => (pkgRdbExecuteFailture, pkgInfos, db.rollBack)
    | (some resultSet, db) =>
      let (ret, db) := commitOrRollBack r db
      if ret < pkgOk then
        (ret, pkgInfos, db)
      else
        let (ok, pkgInfos) := parseToPkgInfos r.result resultSet pkgInfos
        if !ok then
          (pkgFailure, pkgInfos, db)
        else
          (toInt32 pkgInfos.length, pkgInfos, db)

def queryPkgInfosByDriverUid (isByDriverUid : Bool) (driverUid : Text)
    (pkgInfos : List PkgInfoTable) (db : PkgDataBase) : Int × List PkgInfoTable × PkgDataBase :=
  queryPkgInfos r (if isByDriverUid then fun row => row.driverUid = some driverUid
    else fun _ => true) pkgInfos db

def queryPkgInfosByBundleName (bundleName : Text) (pkgInfos : List PkgInfoTable)
    (db : PkgDataBase) : Int × List PkgInfoTable × PkgDataBase :=
  queryPkgInfos r (ofBundleIfAny bundleName) pkgInfos db

end PkgDbHelper

end ExtDevMgr.Pkg
