import ExtDevMgr.Manager.System

/-!
# The loops over the devices

`MatchDriverInfos` and `ClearMatchedDrivers` visit the devices of the map one after the other, and a
turn changes the visited device only. So what a loop makes of a device is what its own turn does, in
the match map that the earlier turns have left.
-/

namespace ExtDevMgr.Manager.ExtDeviceManager
variable {m m' : ExtDeviceManager} {r : Replies} {id id' : DeviceId} {obj : Nat}

/-- Every device of the map stands under its own id. -/
def Keyed (m : ExtDeviceManager) : Prop :=
  ∀ id obj, m.deviceMap.lookup id = some obj → (m.objects obj).info = id

theorem Keyed.ne (h : m.Keyed) {obj' : Nat} (hid : m.deviceMap.lookup id = some obj)
    (hid' : m.deviceMap.lookup id' = some obj') (hne : id ≠ id') : obj ≠ obj' := by
  rintro rfl
  exact hne ((h _ _ hid).symm.trans (h _ _ hid'))

theorem Keyed.of_sameDevices (h : m.Keyed) (hm : SameDevices m m') : m'.Keyed := by
  intro id obj hid
  rw [hm.deviceMap] at hid
  exact (hm.info obj).trans (h id obj hid)

/-! ## Turns -/

/-- A turn of a loop changes the device it visits only. -/
structure IsTurn (f : ExtDeviceManager → DeviceId → ExtDeviceManager) : Prop where
  absent : ∀ {m id}, m.deviceMap.lookup id = none → f m id = m
  touches : ∀ {m id obj}, m.deviceMap.lookup id = some obj → Touches obj m (f m id)

variable {f : ExtDeviceManager → DeviceId → ExtDeviceManager}

theorem IsTurn.sameDevices (hf : IsTurn f) (m : ExtDeviceManager) (id : DeviceId) :
    SameDevices m (f m id) := by
  cases hid : m.deviceMap.lookup id with
  | none =>
    rw [hf.absent hid]
    exact .refl m
  | some obj => exact (hf.touches hid).sameDevices

theorem IsTurn.objects_of_ne (hf : IsTurn f) (hm : m.Keyed)
    (hid : m.deviceMap.lookup id = some obj) (hne : id ≠ id') :
    (f m id').objects obj = m.objects obj := by
  cases hid' : m.deviceMap.lookup id' with
  | none => rw [hf.absent hid']
  | some obj' => exact (hf.touches hid').objects obj (hm.ne hid hid' hne)

theorem IsTurn.foldl_sameDevices (hf : IsTurn f) (l : List DeviceId) (m : ExtDeviceManager) :
    SameDevices m (l.foldl f m) :=
  SameDevices.foldl hf.sameDevices l m

/-- A loop that does not visit a device leaves it as it is. -/
theorem IsTurn.foldl_objects (hf : IsTurn f) {l : List DeviceId} (hm : m.Keyed)
    (hid : m.deviceMap.lookup id = some obj) (hl : id ∉ l) :
    (l.foldl f m).objects obj = m.objects obj := by
  induction l generalizing m with
  | nil => rfl
  | cons id' l ih =>
    obtain ⟨hne, hl⟩ := not_or.1 (mt List.mem_cons.2 hl)
    have hsame := hf.sameDevices m id'
    rw [List.foldl_cons, ih (hm.of_sameDevices hsame) (hsame.deviceMap ▸ hid) hl,
      hf.objects_of_ne hm hid hne]

/-- What a loop makes of a device is what its turn makes of it. -/
theorem IsTurn.foldl_split (hf : IsTurn f) {l₁ l₂ : List DeviceId} (hm : m.Keyed)
    (hid : m.deviceMap.lookup id = some obj) (hl : (l₁ ++ id :: l₂).Nodup) :
    ((l₁ ++ id :: l₂).foldl f m).objects obj = (f (l₁.foldl f m) id).objects obj ∧
      (l₁.foldl f m).objects obj = m.objects obj := by
  obtain ⟨-, hl₂, hdisj⟩ := List.nodup_append.1 hl
  have hsame₁ := hf.foldl_sameDevices l₁ m
  have hsame := hsame₁.trans (hf.sameDevices _ id)
  rw [List.foldl_append, List.foldl_cons]
  exact ⟨hf.foldl_objects (hm.of_sameDevices hsame) (hsame.deviceMap ▸ hid) (List.nodup_cons.1 hl₂).1,
    hf.foldl_objects hm hid fun hmem => hdisj _ hmem _ (List.mem_cons_self ..) rfl⟩

/-- The turn of a device finds it as it was before the loop, and the loop leaves it as its turn
does. -/
theorem IsTurn.foldl_at (hf : IsTurn f) {l : List DeviceId} (hm : m.Keyed) (hl : l.Nodup)
    (hmem : id ∈ l) (hid : m.deviceMap.lookup id = some obj) :
    ∃ m' : ExtDeviceManager, SameDevices m m' ∧ m'.objects obj = m.objects obj ∧
      (l.foldl f m).objects obj = (f m' id).objects obj := by
  obtain ⟨l₁, l₂, rfl⟩ := List.append_of_mem hmem
  obtain ⟨hloop, hbefore⟩ := hf.foldl_split hm hid hl
  exact ⟨l₁.foldl f m, hf.foldl_sameDevices l₁ m, hbefore, hloop⟩

/-- Of two devices that a loop visits, one comes before the other. -/
theorem exists_before {l : List DeviceId} (h : id ∈ l) (h' : id' ∈ l) (hne : id ≠ id') :
    (∃ l₁ l₂, l = l₁ ++ id :: l₂ ∧ id' ∈ l₁) ∨ ∃ l₁ l₂, l = l₁ ++ id' :: l₂ ∧ id ∈ l₁ := by
  obtain ⟨l₁, l₂, rfl⟩ := List.append_of_mem h
  rcases List.mem_append.1 h' with h' | h'
  · exact .inl ⟨l₁, l₂, rfl, h'⟩
  · obtain ⟨k₁, k₂, rfl⟩ := List.append_of_mem ((List.mem_cons.1 h').resolve_left hne.symm)
    exact .inr ⟨l₁ ++ id :: k₁, k₂, by simp, by simp⟩

/-! ## Entries of the match map -/

def entry (m : ExtDeviceManager) (bundleInfo : Name) : Finset DeviceId :=
  (m.bundleMatchMap.lookup bundleInfo).getD ∅

theorem entry_congr (h : m'.bundleMatchMap = m.bundleMatchMap) (n : Name) :
    m'.entry n = m.entry n := by
  rw [entry, entry, h]

theorem matchEntry_eq (b : Name) (id : DeviceId) : m.matchEntry b id = insert id (m.entry b) := by
  unfold matchEntry entry
  cases m.bundleMatchMap.lookup b with
  | none => rfl
  | some ids => rfl

theorem mem_entry_emplaceDevId {b n : Name} :
    id' ∈ (m.emplaceDevId b id).entry n ↔ (id' = id ∧ b = n) ∨ id' ∈ m.entry n := by
  by_cases hn : n = b
  · subst hn
    rw [entry, emplaceDevId, AList.lookup_insert, Option.getD_some, matchEntry_eq,
      Finset.mem_insert, and_iff_left rfl]
  · rw [entry, emplaceDevId, AList.lookup_insert_ne hn, or_iff_right fun h => hn h.2.symm]
    rfl

theorem emplaceDevId_congr (h : m'.bundleMatchMap = m.bundleMatchMap) (b : Name) (id : DeviceId) :
    (m'.emplaceDevId b id).bundleMatchMap = (m.emplaceDevId b id).bundleMatchMap := by
  simp only [emplaceDevId, matchEntry, h]

/-! ## `MatchDriverInfos` -/

/-- The driver that a device is matched to, if it is visited as it stands. -/
def newDriver (r : Replies) (d : Device) : Option DriverInfo :=
  if d.isUnRegisted ∨ d.drvExtRemote.isSome then none else r.queryMatchDriver d.info

/-- The device at the middle of its turn. -/
def cleaned (m : ExtDeviceManager) (deviceIds : Finset DeviceId) (d : Device) : Device :=
  if d.info ∈ deviceIds then m.forgotten d else d

@[simp] theorem cleaned_info (deviceIds : Finset DeviceId) (d : Device) :
    (m.cleaned deviceIds d).info = d.info := by
  unfold cleaned
  split
  case isTrue => exact forgotten_info d
  case isFalse => rfl

@[simp] theorem cleaned_isUnRegisted (deviceIds : Finset DeviceId) (d : Device) :
    (m.cleaned deviceIds d).isUnRegisted = d.isUnRegisted := by
  unfold cleaned
  split
  case isTrue => exact forgotten_isUnRegisted d
  case isFalse => rfl

theorem rematchDevice_none (h : newDriver r (m.objects obj) = none) : m.rematchDevice r obj = m := by
  unfold newDriver at h
  unfold rematchDevice
  split
  case isTrue => rfl
  case isFalse hskip =>
    rw [if_neg hskip] at h
    rw [h]

theorem rematchDevice_some {driverInfo : DriverInfo}
    (h : newDriver r (m.objects obj) = some driverInfo) :
    m.rematchDevice r obj =
      ((m.setDevice obj ((m.objects obj).addBundleInfo driverInfo.bundleInfo driverInfo)
        ).addDevIdOfBundleInfoMap r obj driverInfo.bundleInfo).2 := by
  unfold newDriver at h
  unfold rematchDevice
  split
  case isTrue hskip =>
    rw [if_pos hskip] at h
    cases h
  case isFalse hskip =>
    rw [if_neg hskip] at h
    rw [h]

theorem newDriver_some {d : Device} {driverInfo : DriverInfo} (h : newDriver r d = some driverInfo) :
    d.isUnRegisted = false ∧ d.drvExtRemote = none ∧ r.queryMatchDriver d.info = some driverInfo := by
  unfold newDriver at h
  split at h
  case isTrue => cases h
  case isFalse hskip =>
    obtain ⟨hflag, hremote⟩ := not_or.1 hskip
    exact ⟨by simpa using hflag, by simpa using hremote, h⟩

/-- Only a device that is not flagged is matched. -/
theorem newDriver_cleaned {deviceIds : Finset DeviceId} {d : Device} {driverInfo : DriverInfo}
    (h : newDriver r (m.cleaned deviceIds d) = some driverInfo) : d.isUnRegisted = false :=
  (cleaned_isUnRegisted deviceIds d).symm.trans (newDriver_some h).1

theorem matchDriverInfo_isTurn (deviceIds : Finset DeviceId) :
    IsTurn (matchDriverInfo r deviceIds) where
  absent hid := by simp only [matchDriverInfo, hid]
  touches hid := by
    simp only [matchDriverInfo, hid]
    split
    case isTrue => exact forgetDriver_touches.trans rematchDevice_touches
    case isFalse => exact rematchDevice_touches

/-- A turn of `MatchDriverInfos` is a rematch of the cleaned device. -/
theorem matchDriverInfo_eq (r : Replies) (deviceIds : Finset DeviceId) (hm : m.Keyed)
    (hid : m.deviceMap.lookup id = some obj) :
    ∃ m₁ : ExtDeviceManager, matchDriverInfo r deviceIds m id = m₁.rematchDevice r obj ∧
      m₁.objects obj = m.cleaned deviceIds (m.objects obj) ∧
      m₁.bundleMatchMap = m.bundleMatchMap := by
  simp only [matchDriverInfo, hid, cleaned, hm id obj hid]
  split
  case isTrue => exact ⟨_, rfl, forgetDriver_self, forgetDriver_bundleMatchMap⟩
  case isFalse => exact ⟨m, rfl, rfl, rfl⟩

/-- A device that is not matched stays as it was cleaned. -/
theorem matchDriverInfo_none {deviceIds : Finset DeviceId} (hm : m.Keyed)
    (hid : m.deviceMap.lookup id = some obj)
    (h : newDriver r (m.cleaned deviceIds (m.objects obj)) = none) :
    (matchDriverInfo r deviceIds m id).objects obj = m.cleaned deviceIds (m.objects obj) ∧
      (matchDriverInfo r deviceIds m id).bundleMatchMap = m.bundleMatchMap := by
  obtain ⟨m₁, heq, hobj, hmap⟩ := matchDriverInfo_eq r deviceIds hm hid
  rw [heq, rematchDevice_none (hobj ▸ h)]
  exact ⟨hobj, hmap⟩

theorem matchDriverInfo_some {deviceIds : Finset DeviceId} {driverInfo : DriverInfo} (hm : m.Keyed)
    (hid : m.deviceMap.lookup id = some obj)
    (h : newDriver r (m.cleaned deviceIds (m.objects obj)) = some driverInfo) :
    Device.SameDriver
        ((m.cleaned deviceIds (m.objects obj)).addBundleInfo driverInfo.bundleInfo driverInfo)
        ((matchDriverInfo r deviceIds m id).objects obj) ∧
      ((matchDriverInfo r deviceIds m id).objects obj).drvExtRemote = none ∧
      (matchDriverInfo r deviceIds m id).bundleMatchMap =
        (m.emplaceDevId driverInfo.bundleInfo id).bundleMatchMap := by
  obtain ⟨m₁, heq, hobj, hmap⟩ := matchDriverInfo_eq r deviceIds hm hid
  obtain ⟨-, hremote, -⟩ := newDriver_some h
  rw [← hobj] at h hremote
  rw [heq, rematchDevice_some h]
  generalize hd : (m₁.objects obj).addBundleInfo driverInfo.bundleInfo driverInfo = d
  have hself : ((m₁.setDevice obj d).objects obj) = d := setDevice_self d
  have hkeep := addDevIdOfBundleInfoMap_keepsDriver (m := m₁.setDevice obj d) (r := r) obj
    driverInfo.bundleInfo_ne_nil
  have hinfo : d.info = id := by
    rw [← hd, ← hm id obj hid]
    exact (congrArg Device.info hobj).trans (cleaned_info ..)
  refine ⟨?_, ?_, ?_⟩
  · have hsame : Device.SameDriver ((m₁.setDevice obj d).objects obj) _ := hkeep.sameDriver
    rw [hself] at hsame
    rw [← hobj, hd]
    exact hsame
  · rw [addDevIdOfBundleInfoMap, if_neg driverInfo.bundleInfo_ne_nil]
    refine launchDriver_drvExtRemote ?_
    change ((m₁.setDevice obj d).objects obj).drvExtRemote = none
    rw [hself, ← hd]
    exact hremote
  · rw [hkeep.bundleMatchMap, hself, hinfo]
    exact emplaceDevId_congr hmap _ _

theorem mem_entry_matchDriverInfo {deviceIds : Finset DeviceId} {n : Name} (hm : m.Keyed) :
    id' ∈ (matchDriverInfo r deviceIds m id).entry n ↔
      id' ∈ m.entry n ∨ (id' = id ∧ ∃ obj driverInfo, m.deviceMap.lookup id = some obj ∧
        newDriver r (m.cleaned deviceIds (m.objects obj)) = some driverInfo ∧
        driverInfo.bundleInfo = n) := by
  cases hid : m.deviceMap.lookup id with
  | none => simp [(matchDriverInfo_isTurn deviceIds).absent hid]
  | some obj =>
    cases hnew : newDriver r (m.cleaned deviceIds (m.objects obj)) with
    | none => simp [entry_congr (matchDriverInfo_none hm hid hnew).2, hnew]
    | some driverInfo =>
      rw [entry_congr (matchDriverInfo_some hm hid hnew).2.2, mem_entry_emplaceDevId, or_comm]
      simp [hnew]

/-! ## The loop of `MatchDriverInfos` -/

theorem cleaned_congr (h : SameDevices m m') (deviceIds : Finset DeviceId) (d : Device) :
    m'.cleaned deviceIds d = m.cleaned deviceIds d := by
  simp only [cleaned, forgotten, h.driverChangeCallback]

/-- What the loop makes of a device that is not matched. -/
theorem matchDriverInfos_none {deviceIds : Finset DeviceId} {order : List DeviceId} (hm : m.Keyed)
    (horder : order.Nodup) (hmem : id ∈ order) (hid : m.deviceMap.lookup id = some obj)
    (h : newDriver r (m.cleaned deviceIds (m.objects obj)) = none) :
    (m.matchDriverInfos r deviceIds order).objects obj = m.cleaned deviceIds (m.objects obj) := by
  obtain ⟨m', hsame, hbefore, hloop⟩ :=
    (matchDriverInfo_isTurn (r := r) deviceIds).foldl_at hm horder hmem hid
  rw [← cleaned_congr hsame, ← hbefore] at h ⊢
  exact hloop.trans (matchDriverInfo_none (hm.of_sameDevices hsame) (hsame.deviceMap ▸ hid) h).1

/-- What the loop makes of a device that is matched. -/
theorem matchDriverInfos_some {deviceIds : Finset DeviceId} {order : List DeviceId}
    {driverInfo : DriverInfo} (hm : m.Keyed) (horder : order.Nodup) (hmem : id ∈ order)
    (hid : m.deviceMap.lookup id = some obj)
    (h : newDriver r (m.cleaned deviceIds (m.objects obj)) = some driverInfo) :
    Device.SameDriver
        ((m.cleaned deviceIds (m.objects obj)).addBundleInfo driverInfo.bundleInfo driverInfo)
        ((m.matchDriverInfos r deviceIds order).objects obj) ∧
      ((m.matchDriverInfos r deviceIds order).objects obj).drvExtRemote = none := by
  obtain ⟨m', hsame, hbefore, hloop⟩ :=
    (matchDriverInfo_isTurn (r := r) deviceIds).foldl_at hm horder hmem hid
  rw [← cleaned_congr hsame, ← hbefore] at h ⊢
  obtain ⟨hdriver, hremote, -⟩ :=
    matchDriverInfo_some (hm.of_sameDevices hsame) (hsame.deviceMap ▸ hid) h
  rw [matchDriverInfos, hloop]
  exact ⟨hdriver, hremote⟩

/-- The entries once the loop is through: the devices matched by it have come in. -/
theorem mem_entry_matchDriverInfos {deviceIds : Finset DeviceId} {order : List DeviceId} {n : Name}
    (hm : m.Keyed) (horder : order.Nodup) :
    id ∈ (m.matchDriverInfos r deviceIds order).entry n ↔
      id ∈ m.entry n ∨ (id ∈ order ∧ ∃ obj driverInfo, m.deviceMap.lookup id = some obj ∧
        newDriver r (m.cleaned deviceIds (m.objects obj)) = some driverInfo ∧
        driverInfo.bundleInfo = n) := by
  have hturn := matchDriverInfo_isTurn (r := r) deviceIds
  induction order generalizing m with
  | nil => simp [matchDriverInfos]
  | cons i order ih =>
    obtain ⟨hi, horder⟩ := List.nodup_cons.1 horder
    have hsame := hturn.sameDevices m i
    refine (ih (hm.of_sameDevices hsame) horder).trans ?_
    rw [mem_entry_matchDriverInfo hm, hsame.deviceMap, List.mem_cons, or_assoc]
    refine or_congr_right ?_
    constructor
    · rintro (⟨rfl, h⟩ | ⟨hmem, obj, driverInfo, hobj, hnew, hn⟩)
      · exact ⟨.inl rfl, h⟩
      · have hne : id ≠ i := fun heq => hi (heq ▸ hmem)
        rw [cleaned_congr hsame, hturn.objects_of_ne hm hobj hne] at hnew
        exact ⟨.inr hmem, obj, driverInfo, hobj, hnew, hn⟩
    · rintro ⟨rfl | hmem, obj, driverInfo, hobj, hnew, hn⟩
      · exact .inl ⟨rfl, obj, driverInfo, hobj, hnew, hn⟩
      · have hne : id ≠ i := fun heq => hi (heq ▸ hmem)
        refine .inr ⟨hmem, obj, driverInfo, hobj, ?_, hn⟩
        rw [cleaned_congr hsame, hturn.objects_of_ne hm hobj hne]
        exact hnew

/-! ## `OnBundlesUpdated` -/

/-- A loop over the map visits all its devices. -/
theorem mem_order {order : List DeviceId} (horder : order.Perm m.deviceMap.keys)
    (hid : m.deviceMap.lookup id = some obj) : id ∈ order :=
  horder.mem_iff.2 (AList.mem_keys.1 (AList.lookup_isSome.1 (by rw [hid]; rfl)))

theorem nodup_order {order : List DeviceId} (horder : order.Perm m.deviceMap.keys) : order.Nodup :=
  horder.nodup_iff.2 m.deviceMap.keys_nodup

theorem deleteBundles_sameDevices (bundleName : Name) :
    SameDevices m (m.deleteBundlesOfBundleInfoMap bundleName).2 := by
  rw [deleteBundlesOfBundleInfoMap]
  split
  case isTrue => exact ⟨rfl, rfl, rfl, fun _ => rfl, fun _ => rfl⟩
  case isFalse => exact ⟨rfl, rfl, rfl, fun _ => rfl, fun _ => rfl⟩

theorem deleteBundles_objects (bundleName : Name) :
    (m.deleteBundlesOfBundleInfoMap bundleName).2.objects = m.objects := by
  rw [deleteBundlesOfBundleInfoMap]
  split
  case isTrue => rfl
  case isFalse => rfl

/-- The device at the middle of its turn in an update: without its driver if its id stood in an entry
of the bundle. -/
def lookedAt (m : ExtDeviceManager) (bundleName : Name) (d : Device) : Device :=
  m.cleaned (m.deleteBundlesOfBundleInfoMap bundleName).1 d

theorem lookedAt_of_mem {bundleName : Name} {d : Device}
    (h : d.info ∈ (m.deleteBundlesOfBundleInfoMap bundleName).1) :
    m.lookedAt bundleName d = m.forgotten d := by
  rw [lookedAt, cleaned, if_pos h]

theorem lookedAt_of_notMem {bundleName : Name} {d : Device}
    (h : d.info ∉ (m.deleteBundlesOfBundleInfoMap bundleName).1) : m.lookedAt bundleName d = d := by
  rw [lookedAt, cleaned, if_neg h]

theorem onBundlesUpdated_none {bundleName : Name} {order : List DeviceId} (hm : m.Keyed)
    (horder : order.Perm m.deviceMap.keys) (hid : m.deviceMap.lookup id = some obj)
    (h : newDriver r (m.lookedAt bundleName (m.objects obj)) = none) :
    (m.onBundlesUpdated r bundleName order).objects obj =
      m.lookedAt bundleName (m.objects obj) := by
  have hsame : SameDevices m (m.deleteBundlesOfBundleInfoMap bundleName).2 :=
    deleteBundles_sameDevices bundleName
  have hid' : (m.deleteBundlesOfBundleInfoMap bundleName).2.deviceMap.lookup id = some obj := by
    rw [hsame.deviceMap, hid]
  rw [lookedAt, ← cleaned_congr hsame, ← deleteBundles_objects (m := m) bundleName] at h ⊢
  exact matchDriverInfos_none (hm.of_sameDevices hsame) (nodup_order horder)
    (mem_order horder hid) hid' h

theorem onBundlesUpdated_some {bundleName : Name} {order : List DeviceId}
    {driverInfo : DriverInfo} (hm : m.Keyed) (horder : order.Perm m.deviceMap.keys)
    (hid : m.deviceMap.lookup id = some obj)
    (h : newDriver r (m.lookedAt bundleName (m.objects obj)) = some driverInfo) :
    Device.SameDriver ((m.lookedAt bundleName (m.objects obj)).addBundleInfo
        driverInfo.bundleInfo driverInfo)
        ((m.onBundlesUpdated r bundleName order).objects obj) ∧
      ((m.onBundlesUpdated r bundleName order).objects obj).drvExtRemote = none := by
  have hsame : SameDevices m (m.deleteBundlesOfBundleInfoMap bundleName).2 :=
    deleteBundles_sameDevices bundleName
  have hid' : (m.deleteBundlesOfBundleInfoMap bundleName).2.deviceMap.lookup id = some obj := by
    rw [hsame.deviceMap, hid]
  rw [lookedAt, ← cleaned_congr hsame, ← deleteBundles_objects (m := m) bundleName] at h ⊢
  exact matchDriverInfos_some (hm.of_sameDevices hsame) (nodup_order horder)
    (mem_order horder hid) hid' h

/-! ## `ClearMatchedDrivers` -/

theorem clearMatchedDriver_isTurn (userId : Int) : IsTurn (clearMatchedDriver r userId) where
  absent hid := by simp only [clearMatchedDriver, hid]
  touches {m id obj} hid := by
    simp only [clearMatchedDriver, hid]
    split
    case isTrue =>
      split
      · have herase (b : Name) (out : Outside) : Touches obj m ({ m with out }.eraseBundle b) :=
          .of_objects rfl rfl rfl rfl
        exact (herase _ _).trans forgetDriver_touches
      · exact .refl m
    case isFalse => exact .refl m

/-- The device of `id` would be cleared if the entry of `b` were there. -/
def Clearable (m : ExtDeviceManager) (userId : Int) (b : Name) (id : DeviceId) : Prop :=
  ∃ obj, m.deviceMap.lookup id = some obj ∧ clearedBy userId (m.objects obj) = true ∧
    (m.objects obj).bundleInfo = b

theorem clearedBy_driverInfo {userId : Int} {d : Device} (h : clearedBy userId d = true) :
    ∃ driverInfo, d.driverInfo = some driverInfo ∧ driverInfo.userId = userId := by
  unfold clearedBy at h
  cases hinfo : d.driverInfo with
  | none => simp [hinfo] at h
  | some driverInfo =>
    simp only [hinfo, Option.any_some, Bool.and_eq_true, decide_eq_true_eq] at h
    exact ⟨driverInfo, rfl, h.2⟩

/-- A turn clears its device where the entry of its driver is still there, and takes the entry
out. -/
theorem clearMatchedDriver_spec (userId : Int) (hid : m.deviceMap.lookup id = some obj) :
    (clearMatchedDriver r userId m id).objects obj =
        (if clearedBy userId (m.objects obj) ∧
            (m.bundleMatchMap.lookup (m.objects obj).bundleInfo).isSome
          then m.forgotten (m.objects obj) else m.objects obj) ∧
      (clearMatchedDriver r userId m id).bundleMatchMap =
        (if clearedBy userId (m.objects obj) ∧
            (m.bundleMatchMap.lookup (m.objects obj).bundleInfo).isSome
          then m.bundleMatchMap.erase (m.objects obj).bundleInfo else m.bundleMatchMap) := by
  simp only [clearMatchedDriver, hid]
  by_cases hclear : clearedBy userId (m.objects obj) = true
  · obtain ⟨driverInfo, hinfo, -⟩ := clearedBy_driverInfo hclear
    rw [if_pos hclear, hinfo]
    cases hentry : m.bundleMatchMap.lookup (m.objects obj).bundleInfo with
    | none => simp
    | some ids =>
      simp only [hclear, Option.isSome_some, and_self, if_true]
      exact ⟨forgetDriver_self, forgetDriver_bundleMatchMap⟩
  · rw [if_neg hclear, if_neg fun h => hclear h.1, if_neg fun h => hclear h.1]
    exact ⟨rfl, rfl⟩

theorem lookup_clearMatchedDriver {userId : Int} {b : Name} :
    ((clearMatchedDriver r userId m id).bundleMatchMap.lookup b).isSome ↔
      (m.bundleMatchMap.lookup b).isSome ∧ ¬m.Clearable userId b id := by
  cases hid : m.deviceMap.lookup id with
  | none =>
    rw [(clearMatchedDriver_isTurn userId).absent hid]
    simp [Clearable, hid]
  | some obj =>
    have hclearable : m.Clearable userId b id ↔
        clearedBy userId (m.objects obj) = true ∧ (m.objects obj).bundleInfo = b := by
      simp [Clearable, hid]
    rw [(clearMatchedDriver_spec userId hid).2, hclearable]
    split
    case isTrue h =>
      by_cases hb : b = (m.objects obj).bundleInfo
      · subst hb
        simp [h.1]
      · rw [AList.lookup_erase_ne hb, and_iff_left]
        exact fun h' => hb h'.2.symm
    case isFalse h =>
      constructor
      · refine fun hsome => ⟨hsome, ?_⟩
        rintro ⟨hclear, rfl⟩
        exact h ⟨hclear, hsome⟩
      · exact And.left

theorem clearable_turn {userId : Int} {b : Name} {i : DeviceId} (hm : m.Keyed) (hne : i ≠ id) :
    (clearMatchedDriver r userId m id).Clearable userId b i ↔ m.Clearable userId b i := by
  have hturn := clearMatchedDriver_isTurn (r := r) userId
  unfold Clearable
  rw [(hturn.sameDevices m id).deviceMap]
  refine exists_congr fun obj => and_congr_right fun hobj => ?_
  rw [hturn.objects_of_ne hm hobj hne]

/-- The turns before take out the entries of the devices that they may clear. -/
theorem lookup_clearMatchedDrivers (userId : Int) (b : Name) {l : List DeviceId} (hm : m.Keyed)
    (hl : l.Nodup) :
    ((l.foldl (clearMatchedDriver r userId) m).bundleMatchMap.lookup b).isSome ↔
      (m.bundleMatchMap.lookup b).isSome ∧ ∀ i ∈ l, ¬m.Clearable userId b i := by
  have hturn := clearMatchedDriver_isTurn (r := r) userId
  induction l generalizing m with
  | nil => simp
  | cons id l ih =>
    obtain ⟨hid, hl⟩ := List.nodup_cons.1 hl
    refine (ih (hm.of_sameDevices (hturn.sameDevices m id)) hl).trans ?_
    rw [lookup_clearMatchedDriver, and_assoc, List.forall_mem_cons]
    refine and_congr_right fun _ => and_congr_right fun _ => forall₂_congr fun i hi => ?_
    have hne : i ≠ id := fun heq => hid (heq ▸ hi)
    rw [clearable_turn hm hne]

/-- A device is cleared exactly when it may be, the entry of its driver is there, and no device
visited before takes that entry out. -/
def ClearedAfter (m : ExtDeviceManager) (userId : Int) (before : List DeviceId) (d : Device) :
    Prop :=
  clearedBy userId d = true ∧ (m.bundleMatchMap.lookup d.bundleInfo).isSome ∧
    ∀ i ∈ before, ¬m.Clearable userId d.bundleInfo i

theorem clearMatchedDrivers_at (userId : Int) {l₁ l₂ : List DeviceId} (hm : m.Keyed)
    (hl : (l₁ ++ id :: l₂).Nodup) (hid : m.deviceMap.lookup id = some obj) :
    (m.ClearedAfter userId l₁ (m.objects obj) →
        (m.clearMatchedDrivers r userId (l₁ ++ id :: l₂)).objects obj =
          m.forgotten (m.objects obj)) ∧
      (¬m.ClearedAfter userId l₁ (m.objects obj) →
        (m.clearMatchedDrivers r userId (l₁ ++ id :: l₂)).objects obj = m.objects obj) := by
  have hturn := clearMatchedDriver_isTurn (r := r) userId
  obtain ⟨hloop, hbefore⟩ := hturn.foldl_split hm hid hl
  have hsame := hturn.foldl_sameDevices l₁ m
  have hforgotten (d : Device) :
      (l₁.foldl (clearMatchedDriver r userId) m).forgotten d = m.forgotten d := by
    simp only [forgotten, hsame.driverChangeCallback]
  have hself := (clearMatchedDriver_spec (r := r) userId
    (hsame.deviceMap ▸ hid : (l₁.foldl (clearMatchedDriver r userId) m).deviceMap.lookup id =
      some obj)).1
  rw [hbefore, hforgotten] at hself
  have hentry := lookup_clearMatchedDrivers (r := r) userId (m.objects obj).bundleInfo hm
    (List.nodup_append.1 hl).1
  refine ⟨fun hcleared => ?_, fun hcleared => ?_⟩
  · exact hloop.trans (hself.trans (if_pos ⟨hcleared.1, hentry.2 hcleared.2⟩))
  · exact hloop.trans (hself.trans (if_neg fun h => hcleared ⟨h.1, hentry.1 h.2⟩))

end ExtDevMgr.Manager.ExtDeviceManager
