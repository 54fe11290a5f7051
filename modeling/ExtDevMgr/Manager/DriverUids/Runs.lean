import ExtDevMgr.Manager.DriverUids

/-!
# Updates, switches and runs

In an update and in a switch the order of the devices decides: a driver that is registered in the turn
of one device may be removed in the turn of a later one.
-/

namespace ExtDevMgr.Manager.DriverUids
open ExtDeviceManager Cleanup

variable {m m' : ExtDeviceManager} {r : Replies} {id : DeviceId} {obj : Nat} {uid : Name}

/-! ## Updates -/

/-- What the turn of a device in an update makes of the driver uid: `true` for registered. -/
def turnChange (r : Replies) (deviceIds : Finset DeviceId) (m : ExtDeviceManager) (uid : Name)
    (id : DeviceId) : Option Bool :=
  match m.deviceMap.lookup id with
  | none => none
  | some obj =>
    if (newDriver r (m.cleaned deviceIds (m.objects obj))).any (·.driverUid = uid) then
      some true
    else if id ∈ deviceIds ∧ (m.objects obj).driverInfo.any (·.driverUid = uid) then
      some false
    else
      none

theorem forgetDriver_listed (hlistener : m.driverChangeCallback = true) :
    listed uid (m.forgetDriver obj).out.log = true ↔
      ¬(m.objects obj).driverInfo.any (·.driverUid = uid) = true ∧ listed uid m.out.log = true := by
  refine (removeDriverInfo_listed (m := m.setDevice obj
    (m.objects obj).removeBundleInfo.clearDrvExtRemote) hlistener).trans ?_
  rw [setDevice_self]
  exact .rfl

theorem rematchDevice_listed (hlistener : m.driverChangeCallback = true) :
    listed uid (m.rematchDevice r obj).out.log = true ↔
      (newDriver r (m.objects obj)).any (·.driverUid = uid) = true ∨ listed uid m.out.log = true := by
  cases hnew : newDriver r (m.objects obj) with
  | none =>
    rw [rematchDevice_none hnew, Option.any_none]
    exact (or_iff_right Bool.false_ne_true).symm
  | some driverInfo =>
    rw [rematchDevice_some hnew]
    refine (addDevIdOfBundleInfoMap_listed (m := m.setDevice obj
      ((m.objects obj).addBundleInfo driverInfo.bundleInfo driverInfo)) hlistener
      driverInfo.bundleInfo_ne_nil).trans ?_
    rw [setDevice_self]
    exact .rfl

/-- The device is forgotten before it is matched. -/
theorem matchDriverInfo_listed (hlistener : m.driverChangeCallback = true) (hm : m.Keyed)
    (deviceIds : Finset DeviceId) :
    listed uid (matchDriverInfo r deviceIds m id).out.log =
      (turnChange r deviceIds m uid id).getD (listed uid m.out.log) := by
  cases hid : m.deviceMap.lookup id with
  | none => simp only [matchDriverInfo, turnChange, hid, Option.getD_none]
  | some obj =>
    rw [Bool.eq_iff_iff]
    simp only [matchDriverInfo, turnChange, hid, cleaned, hm id obj hid]
    by_cases hmem : id ∈ deviceIds
    · have hcall : (m.forgetDriver obj).driverChangeCallback = true :=
        forgetDriver_touches.driverChangeCallback.trans hlistener
      simp only [hmem, if_true, true_and]
      rw [rematchDevice_listed hcall, forgetDriver_self, forgetDriver_listed hlistener]
      split
      case isTrue hnew => exact iff_of_true (.inl hnew) rfl
      case isFalse hnew =>
        rw [or_iff_right hnew]
        split
        case isTrue hany => exact iff_of_false (fun hall => hall.1 hany) Bool.false_ne_true
        case isFalse hany => exact and_iff_right hany
    · simp only [hmem, if_false, false_and]
      rw [rematchDevice_listed hlistener]
      split
      case isTrue hnew => exact iff_of_true (.inl hnew) rfl
      case isFalse hnew => exact or_iff_right hnew

theorem turnChange_congr (h : SameDevices m m') {deviceIds : Finset DeviceId}
    (hobj : ∀ obj, m.deviceMap.lookup id = some obj → m'.objects obj = m.objects obj) :
    turnChange r deviceIds m' uid id = turnChange r deviceIds m uid id := by
  unfold turnChange
  rw [h.deviceMap]
  cases hid : m.deviceMap.lookup id with
  | none => rfl
  | some obj =>
    dsimp only
    rw [hobj obj hid, cleaned_congr h]

/-- The last turn that is about the uid decides. -/
theorem matchDriverInfos_listed (hlistener : m.driverChangeCallback = true) (hm : m.Keyed)
    (deviceIds : Finset DeviceId) {order : List DeviceId} (horder : order.Nodup) :
    listed uid (m.matchDriverInfos r deviceIds order).out.log =
      (order.reverse.findSome? (turnChange r deviceIds m uid)).getD (listed uid m.out.log) := by
  have hturn := matchDriverInfo_isTurn (r := r) deviceIds
  induction order using List.reverseRecOn with
  | nil => rfl
  | append_singleton l id ih =>
    obtain ⟨hl, -, hdisj⟩ := List.nodup_append.mp horder
    have hnot : id ∉ l := fun hmem => hdisj id hmem id (List.mem_singleton_self id) rfl
    have hsame := hturn.foldl_sameDevices l m
    have hchange : turnChange r deviceIds (l.foldl (matchDriverInfo r deviceIds) m) uid id =
        turnChange r deviceIds m uid id :=
      turnChange_congr hsame fun obj hid => hturn.foldl_objects hm hid hnot
    rw [matchDriverInfos, List.foldl_append, List.foldl_cons, List.foldl_nil,
      matchDriverInfo_listed (hsame.driverChangeCallback.trans hlistener) (hm.of_sameDevices hsame),
      hchange, List.reverse_append, List.reverse_singleton, List.singleton_append,
      List.findSome?_cons]
    cases turnChange r deviceIds m uid id with
    | some change => rfl
    | none => exact ih hl

/-- What the turns of an update make of the driver uid together. -/
def updateChange (r : Replies) (bundleName : Name) (order : List DeviceId) (m : ExtDeviceManager)
    (uid : Name) : Option Bool :=
  order.reverse.findSome? (turnChange r (m.deleteBundlesOfBundleInfoMap bundleName).1 m uid)

/-- An update leaves a registered device with a driver with the uid. -/
def UsedAfter (r : Replies) (bundleName : Name) (uid : Name) (m : ExtDeviceManager) : Prop :=
  ∃ obj ∈ m.queryAllDevices,
    match newDriver r (m.lookedAt bundleName (m.objects obj)) with
    | some driverInfo => driverInfo.driverUid = uid
    | none => HasUid uid (m.lookedAt bundleName (m.objects obj))

theorem onBundlesUpdated_listed (hlistener : m.driverChangeCallback = true) (hm : m.Keyed)
    (bundleName : Name) {order : List DeviceId} (horder : order.Perm m.deviceMap.keys) :
    listed uid (m.onBundlesUpdated r bundleName order).out.log =
      (updateChange r bundleName order m uid).getD (listed uid m.out.log) := by
  have hsame : SameDevices m (m.deleteBundlesOfBundleInfoMap bundleName).2 :=
    deleteBundles_sameDevices bundleName
  have hout : (m.deleteBundlesOfBundleInfoMap bundleName).2.out = m.out := by
    rw [deleteBundlesOfBundleInfoMap]
    split
    case isTrue => rfl
    case isFalse => rfl
  have hchange (id : DeviceId) : turnChange r (m.deleteBundlesOfBundleInfoMap bundleName).1
      (m.deleteBundlesOfBundleInfoMap bundleName).2 uid id =
        turnChange r (m.deleteBundlesOfBundleInfoMap bundleName).1 m uid id :=
    turnChange_congr hsame fun obj _ => by rw [deleteBundles_objects]
  refine (matchDriverInfos_listed (hsame.driverChangeCallback.trans hlistener)
    (hm.of_sameDevices hsame) (m.deleteBundlesOfBundleInfoMap bundleName).1
    (nodup_order horder)).trans ?_
  rw [hout, updateChange, funext hchange]

theorem onBundlesUpdated_used (hm : m.Keyed) (bundleName : Name) {order : List DeviceId}
    (horder : order.Perm m.deviceMap.keys) :
    Used uid (m.onBundlesUpdated r bundleName order) ↔ UsedAfter r bundleName uid m := by
  unfold Used UsedAfter
  rw [queryAllDevices_of_sameDevices (onBundlesUpdated_sameDevices bundleName order)]
  refine exists_congr fun obj => and_congr_right fun hreg => ?_
  obtain ⟨id, hid, -⟩ := mem_queryAllDevices.mp hreg
  cases hnew : newDriver r (m.lookedAt bundleName (m.objects obj)) with
  | none => rw [onBundlesUpdated_none hm horder hid hnew]
  | some driverInfo =>
    rw [hasUid_of_sameDriver (onBundlesUpdated_some hm horder hid hnew).1, HasUid]
    change driverInfo.bundleInfo ≠ [] ∧ decide (driverInfo.driverUid = uid) = true ↔ _
    rw [and_iff_right driverInfo.bundleInfo_ne_nil, decide_eq_true_eq]

/-- A device that the update registers a driver for has it in the end. -/
theorem usedAfter_of_turnChange {bundleName : Name}
    (h : turnChange r (m.deleteBundlesOfBundleInfoMap bundleName).1 m uid id = some true) :
    UsedAfter r bundleName uid m := by
  unfold turnChange at h
  cases hid : m.deviceMap.lookup id with
  | none =>
    rw [hid] at h
    cases h
  | some obj =>
    rw [hid] at h
    dsimp only at h
    split at h
    case isFalse =>
      split at h
      case isTrue => cases h
      case isFalse => cases h
    case isTrue hany =>
      obtain ⟨driverInfo, hnew, huid⟩ := (Option.any_eq_true _ _).mp hany
      have hflag : (m.objects obj).isUnRegisted = false := newDriver_cleaned hnew
      refine ⟨obj, mem_queryAllDevices.mpr ⟨id, hid, hflag⟩, ?_⟩
      rw [lookedAt, hnew]
      exact of_decide_eq_true huid

/-- Where no turn is about the uid, only devices that had it have it after the update. -/
theorem used_of_usedAfter {bundleName : Name} {order : List DeviceId}
    (horder : order.Perm m.deviceMap.keys) (hnone : updateChange r bundleName order m uid = none)
    (h : UsedAfter r bundleName uid m) : Used uid m := by
  obtain ⟨obj, hreg, huid⟩ := h
  obtain ⟨id, hid, -⟩ := mem_queryAllDevices.mp hreg
  have hturn := List.findSome?_eq_none_iff.mp hnone id (List.mem_reverse.mpr (mem_order horder hid))
  simp only [turnChange, hid] at hturn
  cases hnew : newDriver r (m.lookedAt bundleName (m.objects obj)) with
  | some driverInfo =>
    rw [hnew] at huid
    rw [lookedAt] at hnew
    rw [hnew, Option.any_some, decide_eq_true huid, if_pos rfl] at hturn
    cases hturn
  | none =>
    rw [hnew] at huid
    refine ⟨obj, hreg, ?_⟩
    dsimp only at huid
    rw [lookedAt, cleaned] at huid
    split at huid
    case isTrue => exact absurd (forgotten_bundleInfo _) huid.1
    case isFalse => exact huid

/-- The list mirrors the drivers after an update exactly when no driver is left to a device after it
has been removed last, and none goes from its last device without being removed. -/
theorem onBundlesUpdated_mirrors_iff (h : Mirrors m) (hlistener : m.driverChangeCallback = true)
    (hm : m.Keyed) (bundleName : Name) {order : List DeviceId}
    (horder : order.Perm m.deviceMap.keys) :
    Mirrors (m.onBundlesUpdated r bundleName order) ↔ ∀ uid,
      (updateChange r bundleName order m uid = some false → ¬UsedAfter r bundleName uid m) ∧
        (updateChange r bundleName order m uid = none → Used uid m →
          UsedAfter r bundleName uid m) := by
  unfold Mirrors
  refine forall_congr' fun uid => ?_
  rw [onBundlesUpdated_listed hlistener hm bundleName horder, onBundlesUpdated_used hm bundleName horder]
  cases hchange : updateChange r bundleName order m uid with
  | none =>
    have hback := used_of_usedAfter horder hchange
    rw [Option.getD_none, h uid]
    constructor
    · exact fun hall => ⟨nofun, fun _ => hall.mp⟩
    · exact fun hkept => ⟨hkept.2 rfl, hback⟩
  | some change =>
    rw [Option.getD_some]
    cases change with
    | true =>
      obtain ⟨id, -, hturn⟩ := List.exists_of_findSome?_eq_some hchange
      exact iff_of_true (iff_of_true rfl (usedAfter_of_turnChange hturn)) ⟨nofun, nofun⟩
    | false =>
      constructor
      · exact fun hall => ⟨fun _ hused => Bool.false_ne_true (hall.mpr hused), nofun⟩
      · exact fun hkept => iff_of_false Bool.false_ne_true (hkept.1 rfl)

/-! ## Switches -/

/-- The switch takes the driver from the device: no device visited before it takes out the entry. -/
def Cleared (userId : Int) (order : List DeviceId) (m : ExtDeviceManager) (obj : Nat) : Prop :=
  ∃ l₁ id l₂, order = l₁ ++ id :: l₂ ∧ m.deviceMap.lookup id = some obj ∧
    m.ClearedAfter userId l₁ (m.objects obj)

theorem cleared_append_singleton {userId : Int} {l : List DeviceId} :
    Cleared userId (l ++ [id]) m obj ↔ Cleared userId l m obj ∨
      (m.deviceMap.lookup id = some obj ∧ m.ClearedAfter userId l (m.objects obj)) := by
  constructor
  · rintro ⟨l₁, i, l₂, hl, hi, hafter⟩
    rcases List.eq_nil_or_concat l₂ with rfl | ⟨k, j, rfl⟩
    · obtain ⟨rfl, heq⟩ := List.append_inj' hl rfl
      cases heq
      exact .inr ⟨hi, hafter⟩
    · rw [List.concat_eq_append, ← List.cons_append, ← List.append_assoc] at hl
      obtain ⟨rfl, -⟩ := List.append_inj' hl rfl
      exact .inl ⟨l₁, i, k, rfl, hi, hafter⟩
  · rintro (⟨l₁, i, l₂, rfl, hi, hafter⟩ | ⟨hid, hafter⟩)
    · exact ⟨l₁, i, l₂ ++ [id], by simp, hi, hafter⟩
    · exact ⟨l, id, [], rfl, hid, hafter⟩

theorem clearMatchedDriver_listed (hlistener : m.driverChangeCallback = true) (userId : Int)
    (hid : m.deviceMap.lookup id = some obj) :
    listed uid (clearMatchedDriver r userId m id).out.log = true ↔ listed uid m.out.log = true ∧
      ¬((clearedBy userId (m.objects obj) = true ∧
        (m.bundleMatchMap.lookup (m.objects obj).bundleInfo).isSome = true) ∧
          (m.objects obj).driverInfo.any (·.driverUid = uid) = true) := by
  simp only [clearMatchedDriver, hid]
  by_cases hclear : clearedBy userId (m.objects obj) = true
  · obtain ⟨driverInfo, hinfo, -⟩ := clearedBy_driverInfo hclear
    rw [if_pos hclear]
    cases hentry : m.bundleMatchMap.lookup (m.objects obj).bundleInfo with
    | none => simp
    | some ids =>
      rw [hinfo]
      dsimp only
      have hstop : KeepsList m (eraseBundle (m.objects obj).bundleInfo
          { m with out := (stopDriverExtension (r.device (m.objects obj).info).stop
              driverInfo.bundleName driverInfo.driverName userId m.out).2 }) :=
        .of_emits (stopDriverExtension_emits ..)
      refine (forgetDriver_listed (m := eraseBundle (m.objects obj).bundleInfo
        { m with out := (stopDriverExtension (r.device (m.objects obj).info).stop
            driverInfo.bundleName driverInfo.driverName userId m.out).2 }) hlistener).trans ?_
      rw [hstop.listed_eq, and_comm]
      refine and_congr_right fun _ => not_congr ?_
      rw [and_iff_right ⟨hclear, rfl⟩, ← hinfo]
      exact .rfl
  · rw [if_neg hclear]
    simp [hclear]

theorem clearMatchedDrivers_listed (hlistener : m.driverChangeCallback = true) (hm : m.Keyed)
    (userId : Int) {order : List DeviceId} (horder : order.Nodup) :
    listed uid (m.clearMatchedDrivers r userId order).out.log = true ↔ listed uid m.out.log = true ∧
      ∀ obj, Cleared userId order m obj →
        ¬(m.objects obj).driverInfo.any (·.driverUid = uid) = true := by
  change listed uid (order.foldl (clearMatchedDriver r userId) m).out.log = true ↔ _
  have hturn := clearMatchedDriver_isTurn (r := r) userId
  induction order using List.reverseRecOn with
  | nil =>
    refine (and_iff_left ?_).symm
    rintro obj ⟨l₁, id, l₂, hl, -⟩
    simp at hl
  | append_singleton l id ih =>
    obtain ⟨hl, -, hdisj⟩ := List.nodup_append.mp horder
    have hnot : id ∉ l := fun hmem => hdisj id hmem id (List.mem_singleton_self id) rfl
    have hsame := hturn.foldl_sameDevices l m
    rw [List.foldl_append, List.foldl_cons, List.foldl_nil]
    simp only [cleared_append_singleton, or_imp, forall_and, ← and_assoc, ← ih hl]
    cases hid : m.deviceMap.lookup id with
    | none =>
      rw [hturn.absent (hsame.deviceMap ▸ hid)]
      simp
    | some obj =>
      have hself := hturn.foldl_objects hm hid hnot
      rw [clearMatchedDriver_listed (hsame.driverChangeCallback.trans hlistener) userId
        (hsame.deviceMap ▸ hid), hself, lookup_clearMatchedDrivers userId _ hm hl]
      refine and_congr_right fun _ => ?_
      simp only [Option.some.injEq, and_imp, forall_eq', ClearedAfter, not_and]

theorem clearMatchedDrivers_used (hm : m.Keyed) (userId : Int) {order : List DeviceId}
    (horder : order.Perm m.deviceMap.keys) :
    Used uid (m.clearMatchedDrivers r userId order) ↔
      ∃ obj ∈ m.queryAllDevices, ¬Cleared userId order m obj ∧ HasUid uid (m.objects obj) := by
  unfold Used
  rw [queryAllDevices_of_sameDevices (clearMatchedDrivers_sameDevices userId order)]
  refine exists_congr fun obj => and_congr_right fun hreg => ?_
  obtain ⟨id, hid, -⟩ := mem_queryAllDevices.mp hreg
  by_cases hcleared : Cleared userId order m obj
  · obtain ⟨l₁, i, l₂, rfl, hi, hafter⟩ := hcleared
    rw [(clearMatchedDrivers_at userId hm (nodup_order horder) hi).1 hafter]
    apply iff_of_false
    · exact fun huid => huid.1 (forgotten_bundleInfo _)
    · exact fun hall => hall.1 ⟨l₁, i, l₂, rfl, hi, hafter⟩
  · obtain ⟨l₁, l₂, rfl⟩ := List.append_of_mem (mem_order horder hid)
    have hafter : ¬m.ClearedAfter userId l₁ (m.objects obj) :=
      fun hafter => hcleared ⟨l₁, id, l₂, rfl, hid, hafter⟩
    rw [(clearMatchedDrivers_at userId hm (nodup_order horder) hid).2 hafter, and_iff_right hcleared]

theorem hasUid_of_cleared {userId : Int} {order : List DeviceId} (h : Cleared userId order m obj)
    (hany : (m.objects obj).driverInfo.any (·.driverUid = uid) = true) :
    HasUid uid (m.objects obj) := by
  obtain ⟨l₁, id, l₂, -, -, hclear, -⟩ := h
  exact ⟨(MatchMap.clearedBy_iff.mp hclear).2.1, hany⟩

/-- The list mirrors the drivers after a switch exactly when the devices with the driver of a cleared
device are cleared as well. -/
theorem clearMatchedDrivers_mirrors_iff (h : Mirrors m) (hlistener : m.driverChangeCallback = true)
    (hm : m.Keyed) (userId : Int) {order : List DeviceId} (horder : order.Perm m.deviceMap.keys) :
    Mirrors (m.clearMatchedDrivers r userId order) ↔ ∀ uid obj, Cleared userId order m obj →
      HasUid uid (m.objects obj) → ∀ o ∈ m.queryAllDevices, HasUid uid (m.objects o) →
        Cleared userId order m o := by
  unfold Mirrors
  refine forall_congr' fun uid => ?_
  rw [clearMatchedDrivers_listed hlistener hm userId (nodup_order horder),
    clearMatchedDrivers_used hm userId horder, h uid]
  constructor
  · intro hall obj hcleared huid o ho huid'
    by_contra hnot
    exact (hall.mpr ⟨o, ho, hnot, huid'⟩).2 obj hcleared huid.2
  · intro hkept
    constructor
    · rintro ⟨⟨o, ho, huid⟩, hcleared⟩
      exact ⟨o, ho, fun hnot => hcleared o hnot huid.2, huid⟩
    · rintro ⟨o, ho, hnot, huid⟩
      refine ⟨⟨o, ho, huid⟩, fun obj hcleared hany => ?_⟩
      exact hnot (hkept obj hcleared (hasUid_of_cleared hcleared hany) o ho huid)

/-! ## Runs -/

variable {s : System}

theorem mirrors_of_keepsList (h : Mirrors m) (hs : AtMostConnects m m') (hl : KeepsList m m') :
    Mirrors m' := by
  obtain ⟨obj, hkeep⟩ := hs
  intro uid
  rw [hl.listed_eq, h uid]
  unfold Used
  rw [queryAllDevices_of_sameDevices hkeep.sameDevices]
  refine exists_congr fun o => and_congr_right fun _ => ?_
  by_cases ho : o = obj
  · rw [ho, hasUid_of_sameDriver hkeep.sameDriver]
  · rw [hkeep.objects o ho]

theorem onDisconnect_mirrors (h : Mirrors s.manager) (r : Replies) (obj : Nat) (resultCode : Int) :
    Mirrors (s.step (.onDisconnect r obj resultCode)).manager := by
  have hkeep : KeepsDriver obj s.manager (s.manager.onDisconnect obj resultCode) :=
    onDisconnect_keepsDriver resultCode
  have hlist : KeepsList s.manager (s.manager.onDisconnect obj resultCode) :=
    .of_emits (Device.onDisconnect_emits resultCode)
  simp only [System.step, System.onDisconnect]
  split
  case isTrue => exact mirrors_of_keepsList h ⟨obj, hkeep⟩ hlist
  case isFalse =>
    exact mirrors_of_keepsList h ⟨obj, hkeep.trans stopExtension_keepsDriver⟩
      (hlist.trans stopExtension_keepsList)

/-- An attach brings in no driver with a flagged device; a detach removes the driver of its device
exactly where no other registered device has it; a device that leaves the map late has no driver of its
own; and an update and a switch leave no device with a driver that they have removed for another one,
and take no driver from its last device without removing it. -/
def Kept (s : System) : Action → Prop
  | .registerDevice r devInfo => ∀ obj, s.manager.deviceMap.lookup devInfo = some obj →
      (s.manager.objects obj).drvExtRemote = none → (s.manager.objects obj).isUnRegisted = true →
      ∀ uid, HasUid uid (matched r devInfo (s.manager.objects obj)) → Used uid s.manager
  | .unRegisterDevice r devInfo => ∀ obj, s.manager.deviceMap.lookup devInfo = some obj →
      ∀ uid, HasUid uid (s.manager.objects obj) →
        (Removes r s.manager (s.manager.objects obj) → ¬UsedBeside uid s.manager obj) ∧
          ((s.manager.objects obj).isUnRegisted = false → ¬UsedBeside uid s.manager obj →
            Removes r s.manager (s.manager.objects obj))
  | .removeDeviceOfDeviceMap _ obj =>
    ∀ o, s.manager.deviceMap.lookup (s.manager.objects obj).info = some o →
      (s.manager.objects o).isUnRegisted = false →
      ∀ uid, HasUid uid (s.manager.objects o) → UsedBeside uid s.manager o
  | .onBundlesUpdated r bundleName order => ∀ uid,
      (updateChange r bundleName order s.manager uid = some false →
        ¬UsedAfter r bundleName uid s.manager) ∧
        (updateChange r bundleName order s.manager uid = none → Used uid s.manager →
          UsedAfter r bundleName uid s.manager)
  | .clearMatchedDrivers _ userId order => ∀ uid obj, Cleared userId order s.manager obj →
      HasUid uid (s.manager.objects obj) → ∀ o ∈ s.manager.queryAllDevices,
        HasUid uid (s.manager.objects o) → Cleared userId order s.manager o
  | _ => True

/-- The map is in order and there is a listener. -/
structure Inv (s : System) : Prop where
  wellFormed : s.WellFormed
  listener : s.manager.driverChangeCallback = true

theorem step_inv (h : Inv s) {a : Action} (ha : s.Enabled a) : Inv (s.step a) := by
  refine ⟨System.step_wellFormed h.wellFormed ha, ?_⟩
  have hkeep {a : Action} (ha : a.KeepsMap) :
      (s.step a).manager.driverChangeCallback = true :=
    (System.step_sameDevices ha).driverChangeCallback.trans h.listener
  cases a with
  | registerDevice r devInfo =>
    cases hid : s.manager.deviceMap.lookup devInfo with
    | none => exact (System.registerDevice_new r hid).driverChangeCallback.trans h.listener
    | some obj => exact (System.registerDevice_found r hid).driverChangeCallback.trans h.listener
  | unRegisterDevice r devInfo =>
    cases hid : s.manager.deviceMap.lookup devInfo with
    | none => exact (congrArg _ (System.unRegisterDevice_absent r hid)).trans h.listener
    | some obj =>
      refine (System.unRegisterDevice_found r hid).driverChangeCallback.trans ?_
      rw [detachDevice]
      split
      case isTrue => exact h.listener
      case isFalse => exact h.listener
  | removeDeviceOfDeviceMap => exact h.listener
  | onBundlesUpdated => exact hkeep (a := .onBundlesUpdated ..) trivial
  | clearMatchedDrivers => exact hkeep (a := .clearMatchedDrivers ..) trivial
  | connectDevice => exact hkeep (a := .connectDevice ..) trivial
  | connectDriverWithDeviceId => exact hkeep (a := .connectDriverWithDeviceId ..) trivial
  | disConnectDevice => exact hkeep (a := .disConnectDevice ..) trivial
  | disConnectDriverWithDeviceId => exact hkeep (a := .disConnectDriverWithDeviceId ..) trivial
  | onConnect => exact hkeep (a := .onConnect ..) trivial
  | onDisconnect => exact hkeep (a := .onDisconnect ..) trivial
  | remoteDied => exact hkeep (a := .remoteDied ..) trivial

theorem step_mirrors_iff (hinv : Inv s) (h : Mirrors s.manager) {a : Action}
    (ha : s.Enabled a) : Mirrors (s.step a).manager ↔ Kept s a := by
  obtain ⟨hwf, hlistener⟩ := hinv
  have hm : s.manager.Keyed := fun _ _ => hwf.info
  cases a with
  | registerDevice r devInfo => exact registerDevice_mirrors_iff h hwf hlistener r devInfo
  | unRegisterDevice r devInfo =>
    simp only [Kept, System.step]
    cases hid : s.manager.deviceMap.lookup devInfo with
    | none =>
      rw [System.unRegisterDevice_absent r hid]
      refine iff_of_true h fun obj hobj => ?_
      cases hobj
    | some obj =>
      rw [unRegisterDevice_mirrors_iff h hlistener hm hid]
      simp only [Option.some.injEq, forall_eq']
  | removeDeviceOfDeviceMap r obj => exact removeDeviceOfDeviceMap_mirrors_iff h hm r obj
  | onBundlesUpdated r bundleName order =>
    exact onBundlesUpdated_mirrors_iff h hlistener hm bundleName ha
  | clearMatchedDrivers r userId order =>
    exact clearMatchedDrivers_mirrors_iff h hlistener hm userId ha
  | connectDevice r id token callback =>
    exact iff_of_true (mirrors_of_keepsList h (connectDevice_atMostConnects id token callback)
      (.of_emits (connectDevice_emits id token callback))) trivial
  | connectDriverWithDeviceId r access id token appIds callback =>
    exact iff_of_true (mirrors_of_keepsList h
      (connectDriverWithDeviceId_atMostConnects access id token appIds callback)
      (.of_emits (connectDriverWithDeviceId_emits access id token appIds callback))) trivial
  | disConnectDevice r id token =>
    exact iff_of_true (mirrors_of_keepsList h (disConnectDevice_atMostConnects id token)
      (.of_emits (disConnectDevice_emits id token))) trivial
  | disConnectDriverWithDeviceId r id token =>
    exact iff_of_true (mirrors_of_keepsList h (disConnectDriverWithDeviceId_atMostConnects id token)
      (.of_emits (disConnectDriverWithDeviceId_emits id token))) trivial
  | onConnect obj remote resultCode =>
    exact iff_of_true (mirrors_of_keepsList h ⟨obj, onConnect_keepsDriver remote resultCode⟩
      (.of_emits (Device.onConnect_emits remote resultCode))) trivial
  | onDisconnect r obj resultCode =>
    exact iff_of_true (onDisconnect_mirrors h r obj resultCode) trivial
  | remoteDied obj object =>
    exact iff_of_true (mirrors_of_keepsList h ⟨obj, remoteDied_keepsDriver object⟩ (.of_out rfl))
      trivial

/-- The service permits the drivers of the registered devices in every state of a run exactly when
every step of the run removes a driver with its last device and with no other. -/
theorem mirrors_iff_kept (as : List Action) (hrun : (System.machine true).Runs as) :
    (System.machine true).Throughout (Mirrors ·.manager) (System.machine true).init as ↔
      (System.machine true).Along Kept (System.machine true).init as :=
  Machine.throughout_iff_along (I := Inv) (fun _ _ h ha => step_inv h ha)
    (fun _ _ hinv h ha => step_mirrors_iff hinv h ha) ⟨System.init_wellFormed true, rfl⟩
    (fun _ => iff_of_false Bool.false_ne_true fun ⟨_, hmem, _⟩ => nomatch hmem) hrun

/-- A device comes and goes, and its driver disconnects. -/
theorem mirrors_one_device :
    (System.machine true).Throughout (Mirrors ·.manager) (System.machine true).init
      [.registerDevice System.replies 1, .unRegisterDevice System.replies 1] := by
  refine (mirrors_iff_kept _ (by decide)).mpr ⟨nofun, ?_, trivial⟩
  intro obj hobj uid _
  have hobj' : some 0 = some obj := hobj
  cases hobj'
  have hbeside : ¬UsedBeside uid
      ((System.machine true).step (System.machine true).init
        (.registerDevice System.replies 1)).manager 0 := by
    rintro ⟨o, ho, hne, -⟩
    have ho' : o ∈ [0] := ho
    exact hne (List.mem_singleton.mp ho')
  exact ⟨fun _ => hbeside, fun _ _ => by decide⟩

/-- The answers of an ability manager that does not disconnect. -/
def refusesDisconnect : Replies :=
  { System.replies with device := fun _ => ⟨fun _ => some 0, some 1, some 0, true⟩ }

/-- The last device with a driver leaves, and the driver does not disconnect. -/
theorem not_forall_mirrors :
    ¬∀ as, (System.machine true).Runs as →
      (System.machine true).Throughout (Mirrors ·.manager) (System.machine true).init as := by
  intro h
  have hlast := (h [.registerDevice System.replies 1, .unRegisterDevice refusesDisconnect 1]
    (by decide)).last
  exact absurd ((hlast ['u']).mp (by decide)) (by decide)

end ExtDevMgr.Manager.DriverUids
