import ExtDevMgr.Manager.MatchMap

/-!
# Bundle keys

The match map has the keys `bundle-driver`. Names of bundles have no `-`, so the first one of a key
ends the name of its bundle, and an uninstall, which erases the keys that start with the bundle and a
`-` while it iterates over the map, erases those of the bundle (`bundleKeys_unambiguous`).
-/

namespace ExtDevMgr.Manager.BundleKeys
open ExtDeviceManager MatchMap

/-- The `bundleInfo` that `MatchDriverInfos` makes of a bundle and a driver. -/
def bundleKey (bundleName driverName : Name) : Name := bundleName ++ stiching ++ driverName

example (driverInfo : DriverInfo) :
    driverInfo.bundleInfo = bundleKey driverInfo.bundleName driverInfo.driverName := rfl

variable {b b' d d' key : Name} {m : ExtDeviceManager}

/-! ## Splitting a key -/

theorem bundleKey_cons : bundleKey b d = b ++ '-' :: d := by
  rw [bundleKey, stiching, List.append_assoc]
  rfl

theorem hyphen_mem_bundleKey : '-' ∈ bundleKey b d := by
  rw [bundleKey_cons]
  exact List.mem_append_right _ List.mem_cons_self

theorem ne_hyphen_of_notMem (hb : '-' ∉ b) : ∀ c ∈ b, decide (c ≠ '-') = true := by
  intro c hc
  apply decide_eq_true
  intro heq
  exact hb (heq ▸ hc)

theorem getBundleName_bundleKey (hb : '-' ∉ b) : getBundleName (bundleKey b d) = b := by
  rw [getBundleName, if_pos hyphen_mem_bundleKey, bundleKey_cons,
    List.takeWhile_append_of_pos (ne_hyphen_of_notMem hb)]
  exact List.append_nil b

theorem getAbilityName_bundleKey (hb : '-' ∉ b) : getAbilityName (bundleKey b d) = d := by
  rw [getAbilityName, if_pos hyphen_mem_bundleKey, bundleKey_cons,
    List.dropWhile_append_of_pos (ne_hyphen_of_notMem hb)]
  rfl

theorem bundleKey_inj (hb : '-' ∉ b) (hb' : '-' ∉ b') :
    bundleKey b d = bundleKey b' d' ↔ b = b' ∧ d = d' := by
  constructor
  · intro h
    have hbundle := congrArg getBundleName h
    have hability := congrArg getAbilityName h
    rw [getBundleName_bundleKey hb, getBundleName_bundleKey hb'] at hbundle
    rw [getAbilityName_bundleKey hb, getAbilityName_bundleKey hb'] at hability
    exact ⟨hbundle, hability⟩
  · rintro ⟨rfl, rfl⟩
    rfl

/-- The key was built from the bundle. -/
def BuiltFrom (bundleName key : Name) : Prop := ∃ driverName, key = bundleKey bundleName driverName

theorem startStr_prefix_iff : startStr b <+: key ↔ BuiltFrom b key := by
  constructor
  · rintro ⟨d, rfl⟩
    exact ⟨d, rfl⟩
  · rintro ⟨d, rfl⟩
    exact ⟨d, rfl⟩

/-- Also where one of the names is a prefix of the other. -/
theorem builtFrom_bundleKey_iff (hb : '-' ∉ b) (hb' : '-' ∉ b') :
    BuiltFrom b (bundleKey b' d) ↔ b' = b := by
  constructor
  · rintro ⟨d', h⟩
    exact ((bundleKey_inj hb' hb).mp h).1
  · rintro rfl
    exact ⟨d, rfl⟩

/-! ## The loop -/

/-- The test of the loop of `DeleteBundlesOfBundleInfoMap`. -/
def startsWith (startStr key : Name) : Bool :=
  decide (key.length ≥ startStr.length) && decide (startStr = key.take startStr.length)

theorem startsWith_iff {startStr : Name} : startsWith startStr key = true ↔ startStr <+: key := by
  rw [startsWith, Bool.and_eq_true, decide_eq_true_iff, decide_eq_true_iff,
    List.prefix_iff_eq_take]
  refine and_iff_right_of_imp fun h => ?_
  rw [h, List.length_take]
  exact Nat.min_le_right _ _

/-- `DeleteBundlesOfBundleInfoMap` as it iterates over the entries. -/
def deleteBundlesLoop (bundleName : Name) (m : ExtDeviceManager) :
    Finset DeviceId × ExtDeviceManager :=
  if bundleName = [] then
    (∅, { m with bundleMatchMap := ∅ })
  else
    let (deviceIds, bundleMatchMap) :=
      Table.eraseIf (startsWith (startStr bundleName)) (fun deviceIds ids => deviceIds ∪ ids)
        m.bundleMatchMap.entries (∅, m.bundleMatchMap)
    (deviceIds, { m with bundleMatchMap })

/-- Erasing behind the iterator, the loop passes over no entry. -/
theorem deleteBundlesLoop_eq (b : Name) (m : ExtDeviceManager) :
    deleteBundlesLoop b m = m.deleteBundlesOfBundleInfoMap b := by
  have htest : startsWith (startStr b) = fun key => decide (startStr b <+: key) := by
    funext key
    rw [Bool.eq_iff_iff, startsWith_iff, decide_eq_true_iff]
  rw [deleteBundlesLoop, deleteBundlesOfBundleInfoMap]
  split
  · rfl
  · dsimp only
    rw [Table.eraseIf_fst, Table.eraseIf_snd, htest]

/-- What an uninstall of the bundle `b` does to the match map, and what it returns. -/
structure DeletesBundle (b : Name) (m : ExtDeviceManager) (deviceIds : Finset DeviceId)
    (m' : ExtDeviceManager) : Prop where
  erased : ∀ key, BuiltFrom b key → m'.bundleMatchMap.lookup key = none
  kept : ∀ key, ¬ BuiltFrom b key → m'.bundleMatchMap.lookup key = m.bundleMatchMap.lookup key
  others : ∀ b' driverName, '-' ∉ b' → b' ≠ b →
    m'.bundleMatchMap.lookup (bundleKey b' driverName) =
      m.bundleMatchMap.lookup (bundleKey b' driverName)
  mem_deviceIds : ∀ id, id ∈ deviceIds ↔
    ∃ key ids, BuiltFrom b key ∧ m.bundleMatchMap.lookup key = some ids ∧ id ∈ ids
  frame : m' = { m with bundleMatchMap := m'.bundleMatchMap }

theorem lookup_deleteBundles (hne : b ≠ []) :
    (m.deleteBundlesOfBundleInfoMap b).2.bundleMatchMap.lookup key =
      if startStr b <+: key then none else m.bundleMatchMap.lookup key := by
  rw [deleteBundlesOfBundleInfoMap, if_neg hne]
  simp only [Table.lookup_filter]
  split
  · rename_i h
    rw [if_neg (by simpa using h)]
  · rename_i h
    rw [if_pos (by simpa using h)]

theorem mem_entry_iff {id : DeviceId} :
    id ∈ m.entry key ↔ ∃ ids, m.bundleMatchMap.lookup key = some ids ∧ id ∈ ids := by
  rw [entry]
  cases m.bundleMatchMap.lookup key with
  | none => simp
  | some ids => simp

theorem deletesBundle (hne : b ≠ []) (hb : '-' ∉ b) (m : ExtDeviceManager) :
    DeletesBundle b m (m.deleteBundlesOfBundleInfoMap b).1
      (m.deleteBundlesOfBundleInfoMap b).2 := by
  have hkept : ∀ key, ¬ BuiltFrom b key →
      (m.deleteBundlesOfBundleInfoMap b).2.bundleMatchMap.lookup key =
        m.bundleMatchMap.lookup key := by
    intro key hkey
    rw [lookup_deleteBundles hne, if_neg fun h => hkey (startStr_prefix_iff.mp h)]
  refine ⟨?_, hkept, ?_, ?_, ?_⟩
  · intro key hkey
    rw [lookup_deleteBundles hne, if_pos (startStr_prefix_iff.mpr hkey)]
  · intro b' driverName hb' hother
    exact hkept _ fun h => hother ((builtFrom_bundleKey_iff hb hb').mp h)
  · intro id
    rw [mem_deleteBundles, and_iff_right hne]
    simp only [startStr_prefix_iff, mem_entry_iff, exists_and_left]
  · rw [deleteBundlesOfBundleInfoMap, if_neg hne]

/-- Keys determine the bundle and the driver, and an uninstall takes the entries of its bundle. -/
theorem bundleKeys_unambiguous (hb : '-' ∉ b) :
    (∀ b' driverName driverName', '-' ∉ b' →
      (bundleKey b driverName = bundleKey b' driverName' ↔ b = b' ∧ driverName = driverName')) ∧
    (∀ driverName, getBundleName (bundleKey b driverName) = b ∧
      getAbilityName (bundleKey b driverName) = driverName) ∧
    (b ≠ [] → ∀ m, DeletesBundle b m (deleteBundlesLoop b m).1 (deleteBundlesLoop b m).2) := by
  refine ⟨?_, ?_, ?_⟩
  · intro b' driverName driverName' hb'
    exact bundleKey_inj hb hb'
  · intro driverName
    exact ⟨getBundleName_bundleKey hb, getAbilityName_bundleKey hb⟩
  · intro hne m
    rw [deleteBundlesLoop_eq]
    exact deletesBundle hne hb m

/-- Two bundles of which one name is a prefix of the other, with a device each. -/
def docks : ExtDeviceManager :=
  { bundleMatchMap := ((∅ : Table Name (Finset DeviceId)).insert "com.dock-usb-c".toList {1}).insert
      "com.dockpro-usb".toList {2} }

theorem bundleKeys_unambiguous_docks :
    getBundleName "com.dock-usb-c".toList = "com.dock".toList ∧
      getAbilityName "com.dock-usb-c".toList = "usb-c".toList ∧
      (deleteBundlesLoop "com.dock".toList docks).2.bundleMatchMap.lookup "com.dock-usb-c".toList =
        none ∧
      (deleteBundlesLoop "com.dock".toList docks).2.bundleMatchMap.lookup "com.dockpro-usb".toList =
        some {2} := by
  have hb : '-' ∉ "com.dock".toList := by decide
  have hne : "com.dock".toList ≠ [] := by decide
  obtain ⟨-, hinvert, hdelete⟩ := bundleKeys_unambiguous hb
  obtain ⟨hbundle, hability⟩ := hinvert "usb-c".toList
  have hkept := (hdelete hne docks).others "com.dockpro".toList "usb".toList (by decide) (by decide)
  exact ⟨hbundle, hability, (hdelete hne docks).erased _ ⟨"usb-c".toList, rfl⟩, hkept.trans rfl⟩

end ExtDevMgr.Manager.BundleKeys
