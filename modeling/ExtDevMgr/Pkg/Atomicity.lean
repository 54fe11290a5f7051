import ExtDevMgr.Pkg.PkgDatabase

/-!
# Atomicity of the package table

Every operation closes its transaction, and the writers leave either the new table or the old one. A
row id that is negative as an `int32_t` is taken for an error, though: the writers tell whether every
call succeeded exactly when none is given out (`writers_atomic_iff`).
-/

namespace ExtDevMgr.Pkg
open Json Transaction PkgDbHelper

/-- No transaction is open, and no call has failed yet. -/
abbrev PkgDataBase.ready (initialised : Bool) (table : List Row) : PkgDataBase where
  initialised
  store := .closed table false

/-- Every call of the open transaction has succeeded so far. -/
abbrev PkgDataBase.inside (initialised : Bool) (old new : List Row) : PkgDataBase where
  initialised
  store := .within old new false

/-- A call with the answer `ret` succeeds. -/
abbrev Succeeds (initialised : Bool) (ret : Int) : Prop := initialised = true ∧ ret = eOk

/-- The result of a writer is atomic. -/
abbrev AtomicResult (old new : List Row) (result : Int × PkgDataBase) : Prop :=
  result.2.store.Atomic old new (pkgOk ≤ result.1)

/-! ## Single calls -/

theorem not_ok_lt_ok : ¬ pkgOk < pkgOk := Int.lt_irrefl 0

/-- A code for a call that failed; it is an `int32_t`. -/
def IsFailure (code : Int) : Prop := code < pkgOk ∧ toInt32 code = code

theorem rdbExecuteFailture_isFailure : IsFailure pkgRdbExecuteFailture := by
  constructor
  · decide
  · decide

theorem rdbNoInit_isFailure : IsFailure pkgRdbNoInit := by
  constructor
  · decide
  · decide

theorem PkgDataBase.call_cases (db : PkgDataBase) (ret : Int)
    (f : Bool → Store (List Row) → Store (List Row)) :
    Succeeds db.initialised ret ∧ db.call ret f = (pkgOk, { db with store := f true db.store }) ∨
      ¬ Succeeds db.initialised ret ∧ ∃ code, IsFailure code ∧
        db.call ret f = (code, { db with store := f false db.store }) := by
  rw [call]
  cases hinit : db.initialised with
  | false =>
    exact .inr ⟨fun h => absurd h.1 nofun, pkgRdbNoInit, rdbNoInit_isFailure, rfl⟩
  | true =>
    by_cases hret : ret = eOk
    · exact .inl ⟨⟨rfl, hret⟩, if_neg (not_not.mpr hret)⟩
    · refine .inr ⟨fun h => hret h.2, pkgRdbExecuteFailture, ?_, if_pos hret⟩
      exact rdbExecuteFailture_isFailure

section
variable (initialised : Bool) (old new : List Row)

theorem beginTransaction_cases (ret : Int) :
    Succeeds initialised ret ∧ (PkgDataBase.ready initialised old).beginTransaction ret =
        (pkgOk, .inside initialised old old) ∨
      ¬ Succeeds initialised ret ∧ ∃ code, IsFailure code ∧
        (PkgDataBase.ready initialised old).beginTransaction ret =
          (code, { initialised, store := .closed old true }) :=
  PkgDataBase.call_cases (.ready initialised old) ret Store.start

theorem exec_cases (ret : Int) (f : List Row → List Row) :
    Succeeds initialised ret ∧ (PkgDataBase.inside initialised old new).call ret (Store.exec f) =
        (pkgOk, .inside initialised old (f new)) ∨
      ¬ Succeeds initialised ret ∧ ∃ code, IsFailure code ∧
        (PkgDataBase.inside initialised old new).call ret (Store.exec f) =
          (code, { initialised, store := .within old new true }) :=
  PkgDataBase.call_cases (.inside initialised old new) ret (Store.exec f)

theorem commit_cases (ret : Int) :
    Succeeds initialised ret ∧ (PkgDataBase.inside initialised old new).commit ret =
        (pkgOk, { initialised, store := .closed new false }) ∨
      ¬ Succeeds initialised ret ∧ ∃ code, IsFailure code ∧
        (PkgDataBase.inside initialised old new).commit ret =
          (code, { initialised, store := .within old new true }) :=
  PkgDataBase.call_cases (.inside initialised old new) ret Store.commit

theorem insert_cases (reply : Int × Int) (insertValues : Int → Row) :
    Succeeds initialised reply.1 ∧
        (PkgDataBase.inside initialised old new).insert reply insertValues =
          (reply.2, .inside initialised old (new ++ [insertValues reply.2])) ∨
      ¬ Succeeds initialised reply.1 ∧ ∃ code, IsFailure code ∧
        (PkgDataBase.inside initialised old new).insert reply insertValues =
          (code, { initialised, store := .within old new true }) := by
  unfold PkgDataBase.insert
  rcases exec_cases initialised old new reply.1 (· ++ [insertValues reply.2]) with
    ⟨hret, hcall⟩ | ⟨hret, code, hcode, hcall⟩
  · refine .inl ⟨hret, ?_⟩
    dsimp only
    rw [hcall]
    exact if_neg (not_not.mpr rfl)
  · refine .inr ⟨hret, code, hcode, ?_⟩
    dsimp only
    rw [hcall]
    exact if_pos (Int.ne_of_lt hcode.1)

end

/-! ## Writers -/

section
variable {initialised : Bool} {old new : List Row} {r : StoreReplies}

theorem atomic_of_failure {code : Int} (hcode : IsFailure code) :
    AtomicResult old new (code, { initialised, store := .closed old true }) :=
  Store.Atomic.of_undone (Int.not_le.mpr hcode.1)

theorem commitOrRollBack_atomic :
    AtomicResult old new (commitOrRollBack r (.inside initialised old new)) := by
  unfold commitOrRollBack
  rcases commit_cases initialised old new r.commit with ⟨-, hcall⟩ | ⟨-, code, hcode, hcall⟩
  · rw [hcall]
    dsimp only
    rw [if_neg not_ok_lt_ok]
    exact Store.Atomic.of_done (Int.le_refl 0)
  · rw [hcall]
    dsimp only
    rw [if_pos hcode.1]
    exact atomic_of_failure hcode

theorem deleteAndNoOtherOperation_atomic (p : Row → Bool) :
    AtomicResult old (old.filter fun row => !p row)
      (deleteAndNoOtherOperation r p (.ready initialised old)) := by
  unfold deleteAndNoOtherOperation PkgDataBase.delete
  rcases beginTransaction_cases initialised old r.beginTransaction with
    ⟨-, hcall⟩ | ⟨-, code, hcode, hcall⟩
  · rw [hcall]
    dsimp only
    rw [if_neg not_ok_lt_ok]
    rcases exec_cases initialised old old r.delete (·.filter fun row => !p row) with
      ⟨-, hcall⟩ | ⟨-, code, hcode, hcall⟩
    · rw [hcall]
      dsimp only
      rw [if_neg not_ok_lt_ok]
      exact commitOrRollBack_atomic
    · rw [hcall]
      dsimp only
      rw [if_pos hcode.1]
      exact atomic_of_failure hcode
  · rw [hcall]
    dsimp only
    rw [if_pos hcode.1]
    exact atomic_of_failure hcode

/-! ## The loop of insertions -/

/-- The row id is not taken for an error. -/
abbrev Fits (rowId : Int) : Prop := pkgOk ≤ toInt32 rowId

/-- Of the `count` insertions from the `n`-th on, every one that is reached gets a row id that
fits. -/
def RowIdsFit (initialised : Bool) (r : StoreReplies) (n count : Nat) : Prop :=
  ∀ k < count, (∀ j ≤ k, Succeeds initialised (r.insert (n + j)).1) → Fits (r.insert (n + k)).2

theorem rowIdsFit_zero (n : Nat) : RowIdsFit initialised r n 0 :=
  fun k hk => absurd hk (Nat.not_lt_zero k)

theorem rowIdsFit_succ_iff (n count : Nat) : RowIdsFit initialised r n (count + 1) ↔
    (Succeeds initialised (r.insert n).1 →
      Fits (r.insert n).2 ∧ RowIdsFit initialised r (n + 1) count) := by
  have hshift : ∀ j, n + 1 + j = n + (j + 1) := by
    intro j
    omega
  constructor
  · intro h hret
    refine ⟨h 0 (Nat.succ_pos count) fun j hj => ?_, fun k hk hall => ?_⟩
    · rw [Nat.le_zero.mp hj]
      exact hret
    · rw [hshift]
      refine h (k + 1) (Nat.succ_lt_succ hk) fun j hj => ?_
      cases j with
      | zero => exact hret
      | succ j =>
        rw [← hshift]
        exact hall j (Nat.le_of_succ_le_succ hj)
  · intro h k hk hall
    obtain ⟨hfit, hrest⟩ := h (hall 0 (Nat.zero_le k))
    cases k with
    | zero => exact hfit
    | succ k =>
      rw [← hshift]
      refine hrest k (Nat.lt_of_succ_lt_succ hk) fun j hj => ?_
      rw [hshift]
      exact hall (j + 1) (Nat.succ_le_succ hj)

/-- The rows of the records from the `n`-th insertion on. -/
def rowsOf (r : StoreReplies) : Nat → List PkgInfoTable → List Row
  | _, [] => []
  | n, pkgInfo :: pkgInfos => pkgInfo.toRow (r.insert n).2 :: rowsOf r (n + 1) pkgInfos

/-- The loop goes through or rolls back after a call that failed; or it rolls back for a row id that
does not fit, though every call has succeeded. -/
theorem insertPkgInfos_cases (initialised : Bool) (old : List Row) (r : StoreReplies) (n : Nat)
    (pkgInfos : List PkgInfoTable) (new : List Row) :
    RowIdsFit initialised r n pkgInfos.length ∧
        (insertPkgInfos r n pkgInfos (.inside initialised old new) =
            (none, .inside initialised old (new ++ rowsOf r n pkgInfos)) ∨
          ∃ code, IsFailure code ∧ insertPkgInfos r n pkgInfos (.inside initialised old new) =
            (some code, { initialised, store := .closed old true })) ∨
      ¬ RowIdsFit initialised r n pkgInfos.length ∧
        ∃ code < pkgOk, insertPkgInfos r n pkgInfos (.inside initialised old new) =
          (some code, { initialised, store := .closed old false }) := by
  induction pkgInfos generalizing n new with
  | nil =>
    rw [rowsOf, List.append_nil]
    exact .inl ⟨rowIdsFit_zero n, .inl rfl⟩
  | cons pkgInfo pkgInfos ih =>
    rw [List.length_cons, rowIdsFit_succ_iff, insertPkgInfos]
    rcases insert_cases initialised old new (r.insert n) pkgInfo.toRow with
      ⟨hret, hcall⟩ | ⟨hret, code, hcode, hcall⟩
    · rw [hcall]
      dsimp only
      by_cases hfit : Fits (r.insert n).2
      · rw [if_neg (Int.not_lt.mpr hfit), rowsOf]
        rcases ih (n + 1) (new ++ [pkgInfo.toRow (r.insert n).2]) with
          ⟨hrest, hdone⟩ | ⟨hrest, hundone⟩
        · rw [List.append_assoc] at hdone
          exact .inl ⟨fun _ => ⟨hfit, hrest⟩, hdone⟩
        · exact .inr ⟨fun h => hrest (h hret).2, hundone⟩
      · rw [if_pos (Int.not_le.mp hfit)]
        exact .inr ⟨fun h => hfit (h hret).1, _, Int.not_le.mp hfit, rfl⟩
    · rw [hcall]
      dsimp only
      rw [hcode.2, if_pos hcode.1]
      exact .inl ⟨fun h => absurd h hret, .inr ⟨code, hcode, rfl⟩⟩

/-! ## The writers -/

/-- The result of a writer is atomic, and `fits` holds; or calls that all succeeded are undone. -/
def AtomicIfFits (initialised : Bool) (old new : List Row) (fits : Prop)
    (result : Int × PkgDataBase) : Prop :=
  fits ∧ AtomicResult old new result ∨
    ¬ fits ∧ ∃ code < pkgOk, result = (code, { initialised, store := .closed old false })

section
variable {fits : Prop} {result : Int × PkgDataBase}
  (h : AtomicIfFits initialised old new fits result)
include h

theorem AtomicIfFits.atomic_iff : AtomicResult old new result ↔ fits := by
  rcases h with ⟨hfits, hatomic⟩ | ⟨hfits, code, hcode, rfl⟩
  · exact iff_of_true hatomic hfits
  · exact iff_of_false (Store.not_atomic_of_undone (Int.not_le.mpr hcode) rfl) hfits

theorem AtomicIfFits.saved : result.2.store.saved = none := by
  rcases h with ⟨-, hatomic⟩ | ⟨-, code, -, rfl⟩
  · exact hatomic.saved
  · rfl

end

/-- What a refresh leaves of a table. -/
def refreshed (r : StoreReplies) (pkgInfos : List PkgInfoTable) (bundleName : Text)
    (table : List Row) : List Row :=
  (table.filter fun row => !ofBundleIfAny bundleName row) ++ rowsOf r 0 pkgInfos

theorem addOrUpdatePkgInfo_atomicIfFits (initialised : Bool) (old : List Row)
    (r : StoreReplies) (pkgInfos : List PkgInfoTable) (bundleName : Text) :
    AtomicIfFits initialised old (refreshed r pkgInfos bundleName old)
      (Succeeds initialised r.beginTransaction → Succeeds initialised r.delete →
        RowIdsFit initialised r 0 pkgInfos.length)
      (addOrUpdatePkgInfo r pkgInfos bundleName (.ready initialised old)) := by
  unfold addOrUpdatePkgInfo PkgDataBase.delete
  rcases beginTransaction_cases initialised old r.beginTransaction with
    ⟨hbegin, hcall⟩ | ⟨hbegin, code, hcode, hcall⟩
  · rw [hcall]
    dsimp only
    rw [if_neg not_ok_lt_ok]
    rcases exec_cases initialised old old r.delete
      (·.filter fun row => !ofBundleIfAny bundleName row) with
      ⟨hdelete, hcall⟩ | ⟨hdelete, code, hcode, hcall⟩
    · rw [hcall]
      dsimp only
      rw [if_neg not_ok_lt_ok]
      rcases insertPkgInfos_cases initialised old r 0 pkgInfos
        (old.filter fun row => !ofBundleIfAny bundleName row) with
        ⟨hfit, hloop | ⟨code, hcode, hloop⟩⟩ | ⟨hfit, code, hcode, hloop⟩
      · rw [hloop]
        exact .inl ⟨fun _ _ => hfit, commitOrRollBack_atomic⟩
      · rw [hloop]
        exact .inl ⟨fun _ _ => hfit, atomic_of_failure hcode⟩
      · rw [hloop]
        exact .inr ⟨fun h => hfit (h hbegin hdelete), code, hcode, rfl⟩
    · rw [hcall]
      dsimp only
      rw [if_pos hcode.1]
      exact .inl ⟨fun _ h => absurd h hdelete, atomic_of_failure hcode⟩
  · rw [hcall]
    dsimp only
    rw [if_pos hcode.1]
    exact .inl ⟨fun h => absurd h hbegin, atomic_of_failure hcode⟩

/-- The row of a right record. -/
def rightRecord (bundleName bundleAbility driverInfo : Text) (id : Int) : Row where
  id
  bundleName := some bundleName
  bundleAbility := some bundleAbility
  driverInfo := some driverInfo

/-- A row with the ability gets the values of a right record. -/
def updatedRow (bundleName bundleAbility driverInfo : Text) (row : Row) : Row :=
  if ofBundleAbility bundleAbility row then
    { row with
      bundleName := some bundleName
      bundleAbility := some bundleAbility
      driverInfo := some driverInfo }
  else row

/-- A table with a right record in it. -/
def recorded (r : StoreReplies) (isUpdate : Bool) (bundleName bundleAbility driverInfo : Text)
    (table : List Row) : List Row :=
  if isUpdate then table.map (updatedRow bundleName bundleAbility driverInfo)
  else table ++ [rightRecord bundleName bundleAbility driverInfo (r.insert 0).2]

theorem query_cases (initialised : Bool) (old new : List Row) (reply : Bool) (p : Row → Bool) :
    (initialised = true ∧ reply = true) ∧ (PkgDataBase.inside initialised old new).query reply p =
        (some (new.filter p), .inside initialised old new) ∨
      ¬ (initialised = true ∧ reply = true) ∧
        (PkgDataBase.inside initialised old new).query reply p =
          (none, { initialised, store := .within old new true }) := by
  unfold PkgDataBase.query
  rcases exec_cases initialised old new (if reply then eOk else pkgFailure) id with
    ⟨hret, hcall⟩ | ⟨hret, code, hcode, hcall⟩
  · rw [hcall]
    refine .inl ⟨⟨hret.1, ?_⟩, if_neg (not_not.mpr rfl)⟩
    cases reply with
    | true => rfl
    | false => exact absurd hret.2 (by decide)
  · rw [hcall]
    refine .inr ⟨fun h => hret ⟨h.1, if_pos h.2⟩, if_pos (Int.ne_of_lt hcode.1)⟩

theorem checkIfNeedUpdateEx_cases (initialised : Bool) (old : List Row) (r : StoreReplies)
    (bundleAbility : Text) :
    (r.query = true ∧ Succeeds initialised r.result.getRowCount) ∧
        checkIfNeedUpdateEx r bundleAbility (.inside initialised old old) =
          (pkgOk, old.any (ofBundleAbility bundleAbility), .inside initialised old old) ∨
      ¬ (r.query = true ∧ Succeeds initialised r.result.getRowCount) ∧
        checkIfNeedUpdateEx r bundleAbility (.inside initialised old old) =
          (pkgRdbExecuteFailture, false, { initialised, store := .closed old true }) := by
  unfold checkIfNeedUpdateEx
  rcases query_cases initialised old old r.query (ofBundleAbility bundleAbility) with
    ⟨hquery, hcall⟩ | ⟨hquery, hcall⟩
  · rw [hcall]
    dsimp only
    rcases exec_cases initialised old old r.result.getRowCount id with
      ⟨hcount, hcall⟩ | ⟨hcount, code, hcode, hcall⟩
    · rw [hcall]
      refine .inl ⟨⟨hquery.2, hcount⟩, ?_⟩
      dsimp only
      rw [if_neg (not_not.mpr rfl)]
      have hany : decide ((old.filter (ofBundleAbility bundleAbility)).length > 0) =
          old.any (ofBundleAbility bundleAbility) := by
        rw [Bool.eq_iff_iff, decide_eq_true_iff, gt_iff_lt, List.length_pos_iff,
          List.any_eq_true]
        simp
      rw [hany]
      rfl
    · rw [hcall]
      exact .inr ⟨fun h => hcount h.2, if_pos (Int.ne_of_lt hcode.1)⟩
  · rw [hcall]
    exact .inr ⟨fun h => hquery ⟨h.2.1, h.1⟩, rfl⟩

section
variable {result : Int × PkgDataBase} {code : Int} {db : PkgDataBase} (h : result = (code, db))
include h

theorem kept_of_call (hcode : pkgOk ≤ code) :
    (if result.1 < pkgOk then (result.1, result.2.rollBack) else (result.1, result.2)) =
      (code, db) := by
  rw [h]
  exact if_neg (Int.not_lt.mpr hcode)

theorem undone_of_call (hcode : code < pkgOk) :
    (if result.1 < pkgOk then (result.1, result.2.rollBack) else (result.1, result.2)) =
      (code, db.rollBack) := by
  rw [h]
  exact if_pos hcode

end

/-- The insertion of a right record gets a row id that fits, where it is reached. -/
def RightRecordFits (initialised : Bool) (r : StoreReplies) (isUpdate : Bool) : Prop :=
  isUpdate = false → Succeeds initialised (r.insert 0).1 → Fits (r.insert 0).2

/-- Like the loop of insertions, for one right record. -/
theorem addOrUpdateRightRecordEx_cases (initialised : Bool) (old : List Row) (r : StoreReplies)
    (isUpdate : Bool) (bundleName bundleAbility driverInfo : Text) :
    RightRecordFits initialised r isUpdate ∧
        ((∃ code, pkgOk ≤ code ∧ addOrUpdateRightRecordEx r isUpdate bundleName bundleAbility
            driverInfo (.inside initialised old old) =
              (code, .inside initialised old
                (recorded r isUpdate bundleName bundleAbility driverInfo old))) ∨
          ∃ code, IsFailure code ∧ addOrUpdateRightRecordEx r isUpdate bundleName bundleAbility
            driverInfo (.inside initialised old old) =
              (code, { initialised, store := .closed old true })) ∨
      ¬ RightRecordFits initialised r isUpdate ∧
        ∃ code < pkgOk, addOrUpdateRightRecordEx r isUpdate bundleName bundleAbility
          driverInfo (.inside initialised old old) =
            (code, { initialised, store := .closed old false }) := by
  unfold addOrUpdateRightRecordEx
  cases isUpdate with
  | true =>
    have hfits : RightRecordFits initialised r true := nofun
    rcases exec_cases initialised old old r.update
      (·.map (updatedRow bundleName bundleAbility driverInfo)) with
      ⟨-, hcall⟩ | ⟨-, code, hcode, hcall⟩
    · refine .inl ⟨hfits, .inl ⟨pkgOk, Int.le_refl 0, ?_⟩⟩
      exact kept_of_call hcall (Int.le_refl 0)
    · refine .inl ⟨hfits, .inr ⟨code, hcode, ?_⟩⟩
      exact undone_of_call hcall hcode.1
  | false =>
    rw [if_neg Bool.false_ne_true]
    rcases insert_cases initialised old old (r.insert 0)
      (rightRecord bundleName bundleAbility driverInfo) with
      ⟨hinsert, hcall⟩ | ⟨hinsert, code, hcode, hcall⟩
    · have hret := congrArg (Prod.map toInt32 id) hcall
      by_cases hfit : Fits (r.insert 0).2
      · refine .inl ⟨fun _ _ => hfit, .inl ⟨toInt32 (r.insert 0).2, hfit, ?_⟩⟩
        exact kept_of_call hret hfit
      · refine .inr ⟨fun h => hfit (h rfl hinsert), toInt32 (r.insert 0).2, Int.not_le.mp hfit, ?_⟩
        exact undone_of_call hret (Int.not_le.mp hfit)
    · refine .inl ⟨fun _ h => absurd h hinsert, .inr ⟨code, hcode, ?_⟩⟩
      have hret := congrArg (Prod.map toInt32 id) hcall
      exact undone_of_call (hret.trans (congrArg (·, _) hcode.2)) hcode.1

theorem addOrUpdateRightRecord_atomicIfFits (initialised : Bool) (old : List Row)
    (r : StoreReplies) (bundleName bundleAbility driverInfo : Text) :
    AtomicIfFits initialised old
      (recorded r (old.any (ofBundleAbility bundleAbility)) bundleName bundleAbility driverInfo old)
      (Succeeds initialised r.beginTransaction → r.query = true →
        Succeeds initialised r.result.getRowCount →
        RightRecordFits initialised r (old.any (ofBundleAbility bundleAbility)))
      (addOrUpdateRightRecord r bundleName bundleAbility driverInfo (.ready initialised old)) := by
  unfold addOrUpdateRightRecord
  rcases beginTransaction_cases initialised old r.beginTransaction with
    ⟨hbegin, hcall⟩ | ⟨hbegin, code, hcode, hcall⟩
  · rw [hcall]
    dsimp only
    rw [if_neg not_ok_lt_ok]
    rcases checkIfNeedUpdateEx_cases initialised old r bundleAbility with
      ⟨⟨hquery, hcount⟩, hcheck⟩ | ⟨hfail, hcheck⟩
    · rw [hcheck]
      dsimp only
      rw [if_neg not_ok_lt_ok]
      rcases addOrUpdateRightRecordEx_cases initialised old r
        (old.any (ofBundleAbility bundleAbility)) bundleName bundleAbility driverInfo with
        ⟨hfit, ⟨code, hcode, hrecord⟩ | ⟨code, hcode, hrecord⟩⟩ | ⟨hfit, code, hcode, hrecord⟩
      · rw [hrecord]
        dsimp only
        rw [if_neg (Int.not_lt.mpr hcode)]
        exact .inl ⟨fun _ _ _ => hfit, commitOrRollBack_atomic⟩
      · rw [hrecord]
        dsimp only
        rw [if_pos hcode.1]
        exact .inl ⟨fun _ _ _ => hfit, atomic_of_failure hcode⟩
      · rw [hrecord]
        dsimp only
        rw [if_pos hcode]
        exact .inr ⟨fun h => hfit (h hbegin hquery hcount), code, hcode, rfl⟩
    · rw [hcheck]
      exact .inl ⟨fun _ hq hc => absurd ⟨hq, hc⟩ hfail,
        atomic_of_failure rdbExecuteFailture_isFailure⟩
  · rw [hcall]
    dsimp only
    rw [if_pos hcode.1]
    exact .inl ⟨fun h => absurd h hbegin, atomic_of_failure hcode⟩

/-! ## Queries -/

theorem commitOrRollBack_unchanged (initialised : Bool) (old : List Row) (r : StoreReplies) :
    ∃ code failed,
    commitOrRollBack r (.inside initialised old old) =
      (code, { initialised, store := .closed old failed }) := by
  unfold commitOrRollBack
  rcases commit_cases initialised old old r.commit with ⟨-, hcall⟩ | ⟨-, code, hcode, hcall⟩
  · rw [hcall]
    exact ⟨pkgOk, false, if_neg not_ok_lt_ok⟩
  · rw [hcall]
    exact ⟨code, true, if_pos hcode.1⟩

/-- A query leaves the table as it is and no transaction open. -/
theorem queryPkgInfos_unchanged (initialised : Bool) (old : List Row) (r : StoreReplies)
    (p : Row → Bool) (pkgInfos : List PkgInfoTable) :
    ∃ failed, (queryPkgInfos r p pkgInfos (.ready initialised old)).2.2 =
      { initialised, store := .closed old failed } := by
  unfold queryPkgInfos
  rcases beginTransaction_cases initialised old r.beginTransaction with
    ⟨-, hcall⟩ | ⟨-, code, hcode, hcall⟩
  · rw [hcall]
    dsimp only
    rw [if_neg not_ok_lt_ok]
    rcases query_cases initialised old old r.query p with ⟨-, hcall⟩ | ⟨-, hcall⟩
    · obtain ⟨code, failed, hcommit⟩ := commitOrRollBack_unchanged initialised old r
      rw [hcall]
      dsimp only
      rw [hcommit]
      refine ⟨failed, ?_⟩
      dsimp only
      split
      · rfl
      · split
        · rfl
        · rfl
    · rw [hcall]
      exact ⟨true, rfl⟩
  · rw [hcall]
    dsimp only
    rw [if_pos hcode.1]
    exact ⟨true, rfl⟩

end

/-! ## The package table -/

/-- Nothing is left open, and the table is as before. -/
def Unchanged (table : List Row) (db : PkgDataBase) : Prop :=
  db.store.saved = none ∧ db.table = table

theorem Unchanged.of_closed {initialised failed : Bool} {table : List Row} {db : PkgDataBase}
    (h : db = { initialised, store := .closed table failed }) : Unchanged table db := by
  subst h
  exact ⟨rfl, rfl⟩

/-- No operation leaves a transaction open, a query leaves the table as it is, and a deletion is
atomic. The two writers that insert are atomic exactly when no row id that they reach is taken for an
error. -/
theorem writers_atomic_iff (initialised : Bool) (table : List Row) (r : StoreReplies)
    (pkgInfos queried : List PkgInfoTable) (bundleName bundleAbility driverInfo : Text) :
    let db := PkgDataBase.ready initialised table
    let isUpdate := table.any (ofBundleAbility bundleAbility)
    (AtomicResult table (refreshed r pkgInfos bundleName table)
        (addOrUpdatePkgInfo r pkgInfos bundleName db) ↔
      (Succeeds initialised r.beginTransaction → Succeeds initialised r.delete →
        RowIdsFit initialised r 0 pkgInfos.length)) ∧
    AtomicResult table (table.filter fun row => !ofBundle bundleName row)
      (deleteRightRecord r bundleName db) ∧
    (AtomicResult table (recorded r isUpdate bundleName bundleAbility driverInfo table)
        (addOrUpdateRightRecord r bundleName bundleAbility driverInfo db) ↔
      (Succeeds initialised r.beginTransaction → r.query = true →
        Succeeds initialised r.result.getRowCount → RightRecordFits initialised r isUpdate)) ∧
    (addOrUpdatePkgInfo r pkgInfos bundleName db).2.store.saved = none ∧
    (addOrUpdateRightRecord r bundleName bundleAbility driverInfo db).2.store.saved = none ∧
    (∀ isByDriverUid driverUid,
      Unchanged table (queryPkgInfosByDriverUid r isByDriverUid driverUid queried db).2.2) ∧
    Unchanged table (queryPkgInfosByBundleName r bundleName queried db).2.2 := by
  have hadded := addOrUpdatePkgInfo_atomicIfFits initialised table r pkgInfos bundleName
  have hrecorded :=
    addOrUpdateRightRecord_atomicIfFits initialised table r bundleName bundleAbility driverInfo
  refine ⟨hadded.atomic_iff, deleteAndNoOtherOperation_atomic _, hrecorded.atomic_iff,
    hadded.saved, hrecorded.saved, fun isByDriverUid driverUid => ?_, ?_⟩
  · obtain ⟨failed, h⟩ := queryPkgInfos_unchanged initialised table r
      (if isByDriverUid then fun row => row.driverUid = some driverUid else fun _ => true) queried
    exact .of_closed h
  · obtain ⟨failed, h⟩ :=
      queryPkgInfos_unchanged initialised table r (ofBundleIfAny bundleName) queried
    exact .of_closed h

/-- A store that takes every call, and gives out the row ids from `rowId` on. -/
def accepting (rowId : Int) : StoreReplies where
  beginTransaction := eOk
  delete := eOk
  insert n := (eOk, rowId + n)
  update := eOk
  query := true
  result :=
    { getRowCount := eOk
      getColumnIndex := fun _ => eOk
      goToRow := fun _ => eOk
      getValue := fun _ _ => eOk
      isEnded := fun _ => false
      stale := 0 }
  commit := eOk

/-- Every call succeeds, and yet the right record is not in the table. -/
theorem rightRecord_undone :
    (addOrUpdateRightRecord (accepting (2 ^ 31)) ['b'] ['a'] ['d'] (.ready true [])).2.table = [] ∧
      ¬ AtomicResult [] (recorded (accepting (2 ^ 31)) false ['b'] ['a'] ['d'] [])
        (addOrUpdateRightRecord (accepting (2 ^ 31)) ['b'] ['a'] ['d'] (.ready true [])) := by
  refine ⟨by decide, fun h => ?_⟩
  have hcode : pkgOk ≤
      (addOrUpdateRightRecord (accepting (2 ^ 31)) ['b'] ['a'] ['d'] (.ready true [])).1 :=
    h.code.mpr (by decide)
  exact absurd hcode (by decide)

end ExtDevMgr.Pkg
