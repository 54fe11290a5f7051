import ExtDevMgr.Pkg.Atomicity

/-!
# The full scan

`DrvBundleStateCallback::GetAllDriverInfos` rewrites the package table from what the bundle manager
lists. The answers of the account manager, of the bundle manager and of the store are parameters. The
result of the query is not looked at: a scan is faithful unless the query fails and everything else
succeeds (`scan_faithful_iff`).
-/

namespace ExtDevMgr.Pkg
open Json Transaction PkgDbHelper

/-- `Constants::INVALID_USERID`. -/
abbrev invalidUserid : Int := -1

/-- What the calls of a scan are answered. The query has a result and a list that it fills. -/
structure ScanReplies where
  getForegroundOsAccountLocalId : Int × Int
  getSystemAbilityManager : Bool
  getSystemAbility : Bool
  ifaceCast : Bool
  queryExtensionAbilityInfos : Int → Bool × List ExtensionAbilityInfo
  environment : Environment
  store : StoreReplies

/-- `bundleMgr` and `bundleUpdateCallback` are whether these pointers are set, `initialised` is whether
there is a store, and `updates` are the names that `OnBundlesUpdated` has been started for. -/
structure DrvBundleStateCallback where
  bundleMgr : Bool
  bundleUpdateCallback : Bool
  initOnce : Bool
  initialised : Bool
  table : List Row
  updates : List Text := []

namespace DrvBundleStateCallback
variable (lib : CJsonLib) (r : ScanReplies) (s : DrvBundleStateCallback)

def getCurrentActiveUserId : Int :=
  let (ret, localId) := r.getForegroundOsAccountLocalId
  if ret ≠ 0 then invalidUserid else localId

def getBundleMgrProxy : Bool × DrvBundleStateCallback :=
  if s.bundleMgr then (true, s)
  else if !r.getSystemAbilityManager then (false, s)
  else if !r.getSystemAbility then (false, s)
  else if !r.ifaceCast then (false, s)
  else (true, { s with bundleMgr := true })

def updateToRdb (driverInfos : List ExtensionAbilityInfo) (bundleName : Text) :
    Bool × DrvBundleStateCallback :=
  let pkgInfoTables := (parseToPkgInfoTables lib r.environment driverInfos []).2
  let (ret, db) := addOrUpdatePkgInfo r.store pkgInfoTables bundleName (.ready s.initialised s.table)
  let s := { s with table := db.table }
  if ret < pkgOk then (false, s)
  else if s.bundleUpdateCallback then (true, { s with updates := s.updates ++ [bundleName] })
  else (true, s)

def getAllDriverInfos : Bool × DrvBundleStateCallback :=
  if s.initOnce then
    (true, s)
  else
    let userId := getCurrentActiveUserId r
    if userId = invalidUserid then
      (false, s)
    else
      let (proxy, s) := getBundleMgrProxy r s
      if !proxy then
        (false, s)
      else
        let (_, driverInfos) := r.queryExtensionAbilityInfos userId
        let (updated, s) := updateToRdb lib r s driverInfos []
        if !updated then (false, s) else (true, { s with initOnce := true })

end DrvBundleStateCallback

/-! ## What a scan should do -/

/-- Every call of an update with `count` records succeeds. -/
structure StoreReplies.Succeed (r : StoreReplies) (initialised : Bool) (count : Nat) : Prop where
  beginTransaction : Succeeds initialised r.beginTransaction
  delete : Succeeds initialised r.delete
  insert : ∀ k < count, Succeeds initialised (r.insert k).1
  commit : Succeeds initialised r.commit

namespace ScanReplies
variable (lib : CJsonLib) (r : ScanReplies) (s : DrvBundleStateCallback)

/-- There is an active user. -/
def HasUser : Prop := DrvBundleStateCallback.getCurrentActiveUserId r ≠ invalidUserid

/-- The proxy of the bundle manager is there or can be had. -/
def HasProxy : Prop :=
  s.bundleMgr ∨ r.getSystemAbilityManager ∧ r.getSystemAbility ∧ r.ifaceCast

/-- The answer of the bundle manager for the active user. -/
def listed : Bool × List ExtensionAbilityInfo :=
  r.queryExtensionAbilityInfos (DrvBundleStateCallback.getCurrentActiveUserId r)

/-- The records of the drivers that are listed. -/
def records : List PkgInfoTable := (parseToPkgInfoTables lib r.environment r.listed.2 []).2

end ScanReplies

/-- The rows hold exactly the records. -/
def Holds (records : List PkgInfoTable) (table : List Row) : Prop :=
  List.Forall₂ (fun pkgInfo row => ∃ id, row = pkgInfo.toRow id) records table

namespace DrvBundleStateCallback

/-- A scan that returns `true` leaves the records of the listed drivers; a scan in which a query or
the update fails returns `false` and leaves the table. -/
structure Faithful (lib : CJsonLib) (r : ScanReplies) (s : DrvBundleStateCallback) : Prop where
  done : s.initOnce = false → (s.getAllDriverInfos lib r).1 = true →
    (s.getAllDriverInfos lib r).2.initOnce = true ∧
      Holds (r.records lib) (s.getAllDriverInfos lib r).2.table
  undone : s.initOnce = false →
    ¬ (r.HasUser ∧ r.HasProxy s ∧ r.listed.1 = true ∧
      r.store.Succeed s.initialised (r.records lib).length) →
    (s.getAllDriverInfos lib r).1 = false ∧ (s.getAllDriverInfos lib r).2.table = s.table ∧
      (s.getAllDriverInfos lib r).2.initOnce = false

/-- There is a user and a proxy, every call of the update succeeds, and the row ids are no errors. -/
structure Completes (lib : CJsonLib) (r : ScanReplies) (s : DrvBundleStateCallback) : Prop where
  user : r.HasUser
  proxy : r.HasProxy s
  succeed : r.store.Succeed s.initialised (r.records lib).length
  fits : ∀ k < (r.records lib).length, Fits (r.store.insert k).2

end DrvBundleStateCallback

/-! ## The update -/

section
variable (initialised : Bool) (old : List Row) (r : StoreReplies)

theorem holds_rowsOf (n : Nat) (pkgInfos : List PkgInfoTable) :
    Holds pkgInfos (rowsOf r n pkgInfos) := by
  induction pkgInfos generalizing n with
  | nil => exact .nil
  | cons pkgInfo pkgInfos ih => exact .cons ⟨_, rfl⟩ (ih (n + 1))

/-- The `k`-th insertion succeeds with a row id that fits. -/
def Inserts (k : Nat) : Prop := Succeeds initialised (r.insert k).1 ∧ Fits (r.insert k).2

/-- The insertions go through when all of them succeed with row ids that fit. -/
theorem insertPkgInfos_eq_none_iff (n : Nat) (pkgInfos : List PkgInfoTable) (new : List Row) :
    (insertPkgInfos r n pkgInfos (.inside initialised old new)).1 = none ↔
      ∀ k < pkgInfos.length, Inserts initialised r (n + k) := by
  induction pkgInfos generalizing n new with
  | nil => exact iff_of_true rfl fun k hk => absurd hk (Nat.not_lt_zero k)
  | cons pkgInfo pkgInfos ih =>
    have htail : (∀ k < pkgInfos.length, Inserts initialised r (n + (k + 1))) ↔
        ∀ k < pkgInfos.length, Inserts initialised r (n + 1 + k) := by
      refine forall₂_congr fun k _ => ?_
      rw [Nat.add_assoc, Nat.add_comm 1 k]
    rw [List.length_cons, Nat.forall_lt_succ_left, htail, Nat.add_zero, insertPkgInfos]
    rcases insert_cases initialised old new (r.insert n) pkgInfo.toRow with
      ⟨hret, hcall⟩ | ⟨hret, code, hcode, hcall⟩
    · rw [hcall]
      dsimp only
      by_cases hfit : Fits (r.insert n).2
      · rw [if_neg (Int.not_lt.mpr hfit), ih]
        exact (and_iff_right ⟨hret, hfit⟩).symm
      · rw [if_pos (Int.not_le.mp hfit)]
        exact iff_of_false (Option.some_ne_none _) fun h => hfit h.1.2
    · rw [hcall]
      dsimp only
      rw [hcode.2, if_pos hcode.1]
      exact iff_of_false (Option.some_ne_none _) fun h => hret h.1.1

theorem addOrUpdatePkgInfo_ok_iff (pkgInfos : List PkgInfoTable) (bundleName : Text) :
    pkgOk ≤ (addOrUpdatePkgInfo r pkgInfos bundleName (.ready initialised old)).1 ↔
      r.Succeed initialised pkgInfos.length ∧ ∀ k < pkgInfos.length, Fits (r.insert k).2 := by
  have inserts := insertPkgInfos_eq_none_iff initialised old r 0 pkgInfos
    (old.filter fun row => !ofBundleIfAny bundleName row)
  simp only [Nat.zero_add] at inserts
  have refused : ∀ {code db}, insertPkgInfos r 0 pkgInfos
      (.inside initialised old (old.filter fun row => !ofBundleIfAny bundleName row)) =
        (some code, db) →
      ¬ (r.Succeed initialised pkgInfos.length ∧ ∀ k < pkgInfos.length, Fits (r.insert k).2) := by
    rintro code db hloop ⟨hsucceed, hfits⟩
    have hnone := inserts.mpr fun k hk => ⟨hsucceed.insert k hk, hfits k hk⟩
    rw [hloop] at hnone
    cases hnone
  unfold addOrUpdatePkgInfo PkgDataBase.delete
  rcases beginTransaction_cases initialised old r.beginTransaction with
    ⟨hbegin, hcall⟩ | ⟨hbegin, code, hcode, hcall⟩
  · rw [hcall]
    dsimp only
    rw [if_neg not_ok_lt_ok]
    rcases exec_cases initialised old old r.delete
      (·.filter fun row => !ofBundleIfAny bundleName row) with
      ⟨hdelete, hcall⟩ | ⟨hdelete, code, hcode, hcall⟩
    · rw [hcall]
      dsimp only
      rw [if_neg not_ok_lt_ok]
      rcases insertPkgInfos_cases initialised old r 0 pkgInfos
        (old.filter fun row => !ofBundleIfAny bundleName row) with
        ⟨-, hloop | ⟨code, hcode, hloop⟩⟩ | ⟨-, code, hcode, hloop⟩
      · have hinserts := inserts.mp (congrArg Prod.fst hloop)
        rw [hloop]
        dsimp only [commitOrRollBack]
        rcases commit_cases initialised old _ r.commit with
          ⟨hcommit, hcall⟩ | ⟨hcommit, code, hcode, hcall⟩
        · rw [hcall]
          dsimp only
          rw [if_neg not_ok_lt_ok]
          refine iff_of_true (Int.le_refl 0) ⟨⟨hbegin, hdelete, ?_, hcommit⟩, ?_⟩
          · exact fun k hk => (hinserts k hk).1
          · exact fun k hk => (hinserts k hk).2
        · rw [hcall]
          dsimp only
          rw [if_pos hcode.1]
          exact iff_of_false (Int.not_le.mpr hcode.1) fun h => hcommit h.1.commit
      · rw [hloop]
        exact iff_of_false (Int.not_le.mpr hcode.1) (refused hloop)
      · rw [hloop]
        exact iff_of_false (Int.not_le.mpr hcode) (refused hloop)
    · rw [hcall]
      dsimp only
      rw [if_pos hcode.1]
      exact iff_of_false (Int.not_le.mpr hcode.1) fun h => hdelete h.1.delete
  · rw [hcall]
    dsimp only
    rw [if_pos hcode.1]
    exact iff_of_false (Int.not_le.mpr hcode.1) fun h => hbegin h.1.beginTransaction

/-- The table after a scan that wrote it, and after one that did not. -/
theorem addOrUpdatePkgInfo_table (pkgInfos : List PkgInfoTable) :
    (pkgOk ≤ (addOrUpdatePkgInfo r pkgInfos [] (.ready initialised old)).1 →
        Holds pkgInfos (addOrUpdatePkgInfo r pkgInfos [] (.ready initialised old)).2.table) ∧
      ((addOrUpdatePkgInfo r pkgInfos [] (.ready initialised old)).1 < pkgOk →
        (addOrUpdatePkgInfo r pkgInfos [] (.ready initialised old)).2.table = old) := by
  rcases addOrUpdatePkgInfo_atomicIfFits initialised old r pkgInfos [] with
    ⟨-, hatomic⟩ | ⟨-, code, hcode, hresult⟩
  · constructor
    · intro hok
      have hnone : old.filter (fun row => !ofBundleIfAny [] row) = [] := by
        rw [List.filter_eq_nil_iff]
        intro row _
        exact Bool.false_ne_true
      rw [PkgDataBase.table, hatomic.done (hatomic.code.mp hok), refreshed, hnone]
      exact holds_rowsOf r 0 pkgInfos
    · intro hlt
      apply hatomic.undone
      rw [← Bool.not_eq_false, ← hatomic.code]
      exact Int.not_le.mpr hlt
  · rw [hresult]
    constructor
    · intro hok
      exact absurd hok (Int.not_le.mpr hcode)
    · intro _
      rfl

end

/-! ## The scan -/

namespace DrvBundleStateCallback
variable {lib : CJsonLib} {r : ScanReplies} {s : DrvBundleStateCallback}

theorem getBundleMgrProxy_iff : (s.getBundleMgrProxy r).1 = true ↔ r.HasProxy s := by
  unfold getBundleMgrProxy ScanReplies.HasProxy
  cases s.bundleMgr with
  | true => exact iff_of_true rfl (.inl rfl)
  | false =>
    cases r.getSystemAbilityManager <;> cases r.getSystemAbility <;> cases r.ifaceCast <;> simp

theorem getBundleMgrProxy_keeps (r : ScanReplies) (s : DrvBundleStateCallback) :
    (s.getBundleMgrProxy r).2.table = s.table ∧ (s.getBundleMgrProxy r).2.initOnce = s.initOnce ∧
      (s.getBundleMgrProxy r).2.initialised = s.initialised := by
  unfold getBundleMgrProxy
  repeat' split
  all_goals exact ⟨rfl, rfl, rfl⟩

section
variable (lib : CJsonLib) (r : ScanReplies) (s : DrvBundleStateCallback)
  (driverInfos : List ExtensionAbilityInfo)

theorem updateToRdb_initOnce : (s.updateToRdb lib r driverInfos []).2.initOnce = s.initOnce := by
  simp only [updateToRdb]
  split
  · rfl
  · split
    · rfl
    · rfl

/-- `UpdateToRdb` for all bundles is the update of the store. -/
theorem updateToRdb_eq :
    ((s.updateToRdb lib r driverInfos []).1 = true ↔ pkgOk ≤ (addOrUpdatePkgInfo r.store
        (parseToPkgInfoTables lib r.environment driverInfos []).2 []
        (.ready s.initialised s.table)).1) ∧
      (s.updateToRdb lib r driverInfos []).2.table = (addOrUpdatePkgInfo r.store
        (parseToPkgInfoTables lib r.environment driverInfos []).2 []
        (.ready s.initialised s.table)).2.table := by
  simp only [updateToRdb]
  split
  · rename_i hlt
    exact ⟨iff_of_false Bool.false_ne_true (Int.not_le.mpr hlt), rfl⟩
  · rename_i hlt
    split
    · exact ⟨iff_of_true rfl (Int.not_lt.mp hlt), rfl⟩
    · exact ⟨iff_of_true rfl (Int.not_lt.mp hlt), rfl⟩

end

section
variable (lib) (hinit : s.initOnce = false)
include hinit

theorem getAllDriverInfos_of_noUser (huser : ¬ r.HasUser) :
    s.getAllDriverInfos lib r = (false, s) := by
  simp only [getAllDriverInfos, hinit, Bool.false_eq_true, if_false]
  exact if_pos (not_not.mp huser)

theorem getAllDriverInfos_of_noProxy (huser : r.HasUser) (hproxy : ¬ r.HasProxy s) :
    s.getAllDriverInfos lib r = (false, (s.getBundleMgrProxy r).2) := by
  have hproxy : (s.getBundleMgrProxy r).1 = false := by
    rw [← Bool.not_eq_true, getBundleMgrProxy_iff]
    exact hproxy
  simp only [getAllDriverInfos, hinit, Bool.false_eq_true, if_false, if_neg huser, hproxy,
    Bool.not_false, if_true]

theorem getAllDriverInfos_of_proxy (huser : r.HasUser) (hproxy : r.HasProxy s) :
    s.getAllDriverInfos lib r =
      if ((s.getBundleMgrProxy r).2.updateToRdb lib r r.listed.2 []).1 = true then
        (true, { ((s.getBundleMgrProxy r).2.updateToRdb lib r r.listed.2 []).2 with
          initOnce := true })
      else
        (false, ((s.getBundleMgrProxy r).2.updateToRdb lib r r.listed.2 []).2) := by
  have hproxy := getBundleMgrProxy_iff.mpr hproxy
  simp only [getAllDriverInfos, hinit, Bool.false_eq_true, if_false, if_neg huser, hproxy,
    Bool.not_true]
  cases h : ((s.getBundleMgrProxy r).2.updateToRdb lib r r.listed.2 []).1 with
  | true =>
    rw [ScanReplies.listed] at h
    simp only [h, ScanReplies.listed, Bool.not_true, Bool.false_eq_true, if_false, if_true]
  | false =>
    rw [ScanReplies.listed] at h
    simp only [h, ScanReplies.listed, Bool.not_false, Bool.false_eq_true, if_false, if_true]

/-- A scan returns `true` with the records in the table, or `false` with the table as it was. -/
theorem getAllDriverInfos_cases :
    Completes lib r s ∧ (s.getAllDriverInfos lib r).1 = true ∧
        (s.getAllDriverInfos lib r).2.initOnce = true ∧
        Holds (r.records lib) (s.getAllDriverInfos lib r).2.table ∨
      ¬ Completes lib r s ∧ (s.getAllDriverInfos lib r).1 = false ∧
        (s.getAllDriverInfos lib r).2.table = s.table ∧
        (s.getAllDriverInfos lib r).2.initOnce = false := by
  by_cases huser : r.HasUser
  · obtain ⟨htable, hinitOnce, hinitialised⟩ := s.getBundleMgrProxy_keeps r
    by_cases hproxy : r.HasProxy s
    · obtain ⟨hok, hupdated⟩ := updateToRdb_eq lib r (s.getBundleMgrProxy r).2 r.listed.2
      rw [hinitialised, htable] at hok hupdated
      obtain ⟨hdone, hundone⟩ :=
        addOrUpdatePkgInfo_table s.initialised s.table r.store (r.records lib)
      have hwrites := addOrUpdatePkgInfo_ok_iff s.initialised s.table r.store (r.records lib) []
      rw [getAllDriverInfos_of_proxy lib hinit huser hproxy]
      split
      · rename_i hupdate
        have hle := hok.mp hupdate
        obtain ⟨hsucceed, hfits⟩ := hwrites.mp hle
        refine .inl ⟨⟨huser, hproxy, hsucceed, hfits⟩, rfl, rfl, ?_⟩
        exact hupdated ▸ hdone hle
      · rename_i hupdate
        have hlt := Int.not_le.mp fun hle => hupdate (hok.mpr hle)
        refine .inr ⟨fun h => ?_, rfl, hupdated.trans (hundone hlt), ?_⟩
        · exact absurd (hwrites.mpr ⟨h.succeed, h.fits⟩) (Int.not_le.mpr hlt)
        · exact (updateToRdb_initOnce lib r _ _).trans (hinitOnce.trans hinit)
    · rw [getAllDriverInfos_of_noProxy lib hinit huser hproxy]
      exact .inr ⟨fun h => hproxy h.proxy, rfl, htable, hinitOnce.trans hinit⟩
  · rw [getAllDriverInfos_of_noUser lib hinit huser]
    exact .inr ⟨fun h => huser h.user, rfl, rfl, hinit⟩

end

/-- **The full scan.** It is faithful exactly when it is not made at all, or the query succeeds, or
something else fails. -/
theorem scan_faithful_iff (lib : CJsonLib) (r : ScanReplies) (s : DrvBundleStateCallback) :
    Faithful lib r s ↔ s.initOnce = true ∨ r.listed.1 = true ∨ ¬ Completes lib r s := by
  cases hinit : s.initOnce with
  | true =>
    refine iff_of_true ⟨fun h => ?_, fun h => ?_⟩ (.inl rfl)
    · cases hinit.symm.trans h
    · cases hinit.symm.trans h
  | false =>
    rw [or_iff_right Bool.false_ne_true]
    rcases getAllDriverInfos_cases lib hinit (r := r) with
      ⟨hcompletes, hret, hscanned, htable⟩ | ⟨hcompletes, hret, htable, hscanned⟩
    · rw [or_iff_left (not_not.mpr hcompletes)]
      constructor
      · intro h
        by_contra hquery
        have hfalse := (h.undone hinit fun hall => hquery hall.2.2.1).1
        cases hret.symm.trans hfalse
      · intro hquery
        refine ⟨fun _ _ => ⟨hscanned, htable⟩, fun _ hfails => ?_⟩
        exact absurd ⟨hcompletes.user, hcompletes.proxy, hquery, hcompletes.succeed⟩ hfails
    · refine iff_of_true ⟨fun _ htrue => ?_, fun _ _ => ⟨hret, htable, hscanned⟩⟩ (.inr hcompletes)
      cases hret.symm.trans htrue

/-- The bundle manager has gone: the query of the drivers of user 100 fails. -/
def failingQuery : ScanReplies where
  getForegroundOsAccountLocalId := (0, 100)
  getSystemAbilityManager := true
  getSystemAbility := true
  ifaceCast := true
  queryExtensionAbilityInfos _ := (false, [])
  environment := mouseEnvironment
  store := accepting 1

def withDriver : DrvBundleStateCallback where
  bundleMgr := true
  bundleUpdateCallback := false
  initOnce := false
  initialised := true
  table := [{ id := 1, bundleName := some "com.usb.mouse".toList }]

/-- The failed query is taken for a list without drivers, and the table is emptied. -/
theorem not_forall_scan_faithful : ¬ ∀ lib r s, Faithful lib r s := by
  intro h
  have hfails : failingQuery.listed.1 ≠ true := by decide
  have hundone := (h mouseLib failingQuery withDriver).undone rfl fun hall => hfails hall.2.2.1
  exact absurd hundone.1 (by decide)

end DrvBundleStateCallback

end ExtDevMgr.Pkg
