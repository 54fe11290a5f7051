import ExtDevMgr.Manager.MatchMap

/-!
# Cleaning up after a user and after a bundle

A user switch and an uninstall take the drivers away from the devices. Both find the devices through
the match map, so they pass over a device whose entry is gone (`clearMatchedDrivers_clears_iff`,
`onBundlesUpdated_uninstalls_iff`).
-/

namespace ExtDevMgr.Manager.Cleanup
open ExtDeviceManager ExtDevMgr.Manager.System MatchMap

variable {m m' : ExtDeviceManager} {r : Replies} {id : DeviceId} {obj : Nat}

/-- A registered device of the map. -/
abbrev Registered (m : ExtDeviceManager) (id : DeviceId) (obj : Nat) : Prop :=
  m.deviceMap.lookup id = some obj ∧ (m.objects obj).isUnRegisted = false

theorem run_keyed {driverChangeCallback : Bool} {as : List Action}
    (hrun : (machine driverChangeCallback).Runs as) :
    ((machine driverChangeCallback).run (machine driverChangeCallback).init as).manager.Keyed := by
  have hwell : (machine driverChangeCallback).Throughout System.WellFormed
      (machine driverChangeCallback).init as :=
    Machine.throughout_of_along (fun _ _ h ha => step_wellFormed h ha)
      (init_wellFormed driverChangeCallback) hrun
  exact fun _ _ => hwell.last.info

/-! ## User switches -/

/-- The device has the driver info of a driver of the user. -/
def HasDriverOf (userId : Int) (d : Device) : Prop := d.driverInfo.any (·.userId = userId) = true

instance (userId : Int) (d : Device) : Decidable (HasDriverOf userId d) :=
  inferInstanceAs (Decidable (_ = true))

/-- No registered device of `m'` has a driver info of the user, and none has kept the `bundleInfo_` or
the remote that came with the one it had in `m`. -/
def ClearedOf (userId : Int) (m m' : ExtDeviceManager) : Prop :=
  ∀ id obj, Registered m' id obj → ¬ HasDriverOf userId (m'.objects obj) ∧
    (HasDriverOf userId (m.objects obj) →
      (m'.objects obj).bundleInfo = [] ∧ (m'.objects obj).drvExtRemote = none)

/-- There is a listener, and every registered device with a driver of the user is found through the
entry of its driver and does not share the driver with another one. -/
def FoundAlone (userId : Int) (m : ExtDeviceManager) : Prop :=
  ∀ id obj, Registered m id obj → HasDriverOf userId (m.objects obj) →
    m.driverChangeCallback = true ∧ (m.objects obj).bundleInfo ≠ [] ∧
    (m.bundleMatchMap.lookup (m.objects obj).bundleInfo).isSome = true ∧
    ∀ id' obj', Registered m id' obj' → HasDriverOf userId (m.objects obj') →
      (m.objects obj').bundleInfo = (m.objects obj).bundleInfo → id' = id

theorem forgotten_driverInfo (d : Device) : (m.forgotten d).driverInfo =
    if m.driverChangeCallback then none else d.driverInfo := by
  unfold forgotten
  split
  · rfl
  · rfl

theorem not_hasDriverOf_forgotten {userId : Int} {d : Device} (h : HasDriverOf userId d) :
    ¬ HasDriverOf userId (m.forgotten d) ↔ m.driverChangeCallback = true := by
  rw [HasDriverOf, forgotten_driverInfo]
  cases m.driverChangeCallback with
  | true => exact iff_of_true nofun rfl
  | false => exact iff_of_false (fun hnot => hnot h) nofun

/-- A switch is done with a device. -/
theorem cleared_at_iff {userId : Int} {l₁ l₂ : List DeviceId} (hm : m.Keyed)
    (hl : (l₁ ++ id :: l₂).Nodup) (hid : m.deviceMap.lookup id = some obj)
    (hdriver : HasDriverOf userId (m.objects obj)) :
    (¬ HasDriverOf userId ((m.clearMatchedDrivers r userId (l₁ ++ id :: l₂)).objects obj) ∧
      (HasDriverOf userId (m.objects obj) →
        ((m.clearMatchedDrivers r userId (l₁ ++ id :: l₂)).objects obj).bundleInfo = [] ∧
        ((m.clearMatchedDrivers r userId (l₁ ++ id :: l₂)).objects obj).drvExtRemote = none)) ↔
      m.driverChangeCallback = true ∧ m.ClearedAfter userId l₁ (m.objects obj) := by
  obtain ⟨hyes, hno⟩ := clearMatchedDrivers_at (r := r) userId hm hl hid
  by_cases hafter : m.ClearedAfter userId l₁ (m.objects obj)
  · rw [hyes hafter, not_hasDriverOf_forgotten hdriver]
    exact and_congr_right fun _ => iff_of_true
      (fun _ => ⟨forgotten_bundleInfo _, forgotten_drvExtRemote _⟩) hafter
  · rw [hno hafter]
    exact iff_of_false (fun h => h.1 hdriver) fun h => hafter h.2

theorem clearedBy_of_hasDriverOf {userId : Int} (hreg : Registered m id obj)
    (hb : (m.objects obj).bundleInfo ≠ []) (hdriver : HasDriverOf userId (m.objects obj)) :
    clearedBy userId (m.objects obj) = true :=
  clearedBy_iff.2 ⟨hreg.2, hb, hdriver⟩

theorem Registered.of_sameDevices (h : Registered m id obj) (hm : SameDevices m m') :
    Registered m' id obj :=
  ⟨hm.deviceMap ▸ h.1, (hm.isUnRegisted obj).trans h.2⟩

theorem Registered.of_sameDevices' (h : Registered m' id obj) (hm : SameDevices m m') :
    Registered m id obj :=
  ⟨hm.deviceMap ▸ h.1, (hm.isUnRegisted obj).symm.trans h.2⟩

/-- Of two devices with one driver, the one that comes first takes the entry out. -/
theorem clearedOf_iff_foundAlone {userId : Int} {order : List DeviceId} (hm : m.Keyed)
    (horder : order.Perm m.deviceMap.keys) :
    ClearedOf userId m (m.clearMatchedDrivers r userId order) ↔ FoundAlone userId m := by
  have hsame : SameDevices m (m.clearMatchedDrivers r userId order) :=
    clearMatchedDrivers_sameDevices userId order
  have hnodup := nodup_order horder
  constructor
  · intro h
    have hafter {id obj l₁ l₂} (hreg : Registered m id obj)
        (hdriver : HasDriverOf userId (m.objects obj)) (hl : order = l₁ ++ id :: l₂) :
        m.driverChangeCallback = true ∧ m.ClearedAfter userId l₁ (m.objects obj) := by
      subst hl
      exact (cleared_at_iff hm hnodup hreg.1 hdriver).1 (h id obj (hreg.of_sameDevices hsame))
    intro id obj hreg hdriver
    obtain ⟨l₁, l₂, hl⟩ := List.append_of_mem (mem_order horder hreg.1)
    obtain ⟨hcall, hclear, hentry, -⟩ := hafter hreg hdriver hl
    have hb : (m.objects obj).bundleInfo ≠ [] := (clearedBy_iff.1 hclear).2.1
    refine ⟨hcall, hb, hentry, fun id' obj' hreg' hdriver' hb' => ?_⟩
    by_contra hne
    rcases exists_before (mem_order horder hreg.1) (mem_order horder hreg'.1) (Ne.symm hne) with
      ⟨k₁, k₂, hk, hmem⟩ | ⟨k₁, k₂, hk, hmem⟩
    · have hclear' := clearedBy_of_hasDriverOf hreg' (hb' ▸ hb) hdriver'
      exact (hafter hreg hdriver hk).2.2.2 id' hmem ⟨obj', hreg'.1, hclear', hb'⟩
    · exact (hafter hreg' hdriver' hk).2.2.2 id hmem ⟨obj, hreg.1, hclear, hb'.symm⟩
  · intro h id obj hreg'
    have hreg := hreg'.of_sameDevices' hsame
    obtain ⟨l₁, l₂, rfl⟩ := List.append_of_mem (mem_order horder hreg.1)
    by_cases hdriver : HasDriverOf userId (m.objects obj)
    · obtain ⟨hcall, hb, hentry, halone⟩ := h id obj hreg hdriver
      refine (cleared_at_iff hm hnodup hreg.1 hdriver).2
        ⟨hcall, clearedBy_of_hasDriverOf hreg hb hdriver, hentry, ?_⟩
      rintro i hi ⟨obj', hobj', hclear, hb'⟩
      obtain ⟨hflag, -, hdriver'⟩ := clearedBy_iff.1 hclear
      have hid : i = id := halone i obj' ⟨hobj', hflag⟩ hdriver' hb'
      exact (List.nodup_append.1 hnodup).2.2 i hi id List.mem_cons_self hid
    · rw [(clearMatchedDrivers_at userId hm hnodup hreg.1).2
        fun hafter => hdriver (clearedBy_iff.1 hafter.1).2.2]
      exact ⟨hdriver, fun hdriver' => absurd hdriver' hdriver⟩

/-- In every state that a run leads to, a user switch clears the registered devices of the drivers of
the user exactly when each of them is found alone. -/
theorem clearMatchedDrivers_clears_iff (driverChangeCallback : Bool) (as : List Action)
    (hrun : (machine driverChangeCallback).Runs as) (r : Replies) (userId : Int)
    (order : List DeviceId)
    (horder : order.Perm ((machine driverChangeCallback).run
      (machine driverChangeCallback).init as).manager.deviceMap.keys) :
    let m := ((machine driverChangeCallback).run (machine driverChangeCallback).init as).manager
    ClearedOf userId m (m.clearMatchedDrivers r userId order) ↔ FoundAlone userId m :=
  clearedOf_iff_foundAlone (run_keyed hrun) horder

/-- A switch away from the user of the only device. -/
theorem switch_clears_one :
    let m := ((machine true).run (machine true).init [.registerDevice replies 1,
      .onConnect 0 (some 7) 0]).manager
    ClearedOf (-1) m (m.clearMatchedDrivers replies (-1) [1]) ↔ FoundAlone (-1) m :=
  clearMatchedDrivers_clears_iff true _ (by decide) replies (-1) [1] (by decide)

/-- The second of two devices with one driver keeps it. -/
theorem switch_keeps_second :
    ¬ ∀ driverChangeCallback as, (machine driverChangeCallback).Runs as → ∀ r userId order,
      let m := ((machine driverChangeCallback).run (machine driverChangeCallback).init as).manager
      order.Perm m.deviceMap.keys → ClearedOf userId m (m.clearMatchedDrivers r userId order) := by
  intro h
  have hcleared := h true [.registerDevice replies 1, .registerDevice replies 2] (by decide)
    replies (-1) [1, 2] (by decide) 2 1 (by decide)
  exact hcleared.1 (by decide)

/-! ## Uninstalls -/

/-- Nothing of the bundle is left in the device; `driverOf` is the driver that a remote belongs to. -/
structure FreeOf (bundleName : Name) (driverOf : Nat → Name) (d : Device) : Prop where
  bundleInfo : ¬ startStr bundleName <+: d.bundleInfo
  driverInfo : ∀ driverInfo, d.driverInfo = some driverInfo → driverInfo.bundleName ≠ bundleName
  drvExtRemote : ∀ remote, d.drvExtRemote = some remote → ¬ startStr bundleName <+: driverOf remote

/-- No visible device has anything of the bundle. -/
def Uninstalled (bundleName : Name) (driverOf : Nat → Name) (m : ExtDeviceManager) : Prop :=
  ∀ obj ∈ m.queryAllDevices, FreeOf bundleName driverOf (m.objects obj)

/-- The id stands in an entry of the bundle. -/
def InEntryOf (bundleName : Name) (m : ExtDeviceManager) (id : DeviceId) : Prop :=
  ∃ n, startStr bundleName <+: n ∧ id ∈ m.entry n

/-- A device in an entry of the bundle loses its driver info to a listener or to a new driver, and
any other device has nothing of the bundle unless it is matched to a new driver. -/
def Reached (r : Replies) (bundleName : Name) (driverOf : Nat → Name) (m : ExtDeviceManager) :
    Prop :=
  ∀ id obj, Registered m id obj →
    (InEntryOf bundleName m id →
      (∃ driverInfo, (m.objects obj).driverInfo = some driverInfo ∧
        driverInfo.bundleName = bundleName) →
      m.driverChangeCallback = true ∨ (r.queryMatchDriver id).isSome = true) ∧
    (¬ InEntryOf bundleName m id →
      (m.objects obj).drvExtRemote.isSome = true ∨ r.queryMatchDriver id = none →
      FreeOf bundleName driverOf (m.objects obj))

theorem mem_queryAllDevices : obj ∈ m.queryAllDevices ↔ ∃ id, Registered m id obj := by
  rw [queryAllDevices, List.mem_map]
  constructor
  · rintro ⟨⟨id, o⟩, he, rfl⟩
    obtain ⟨hmem, hflag⟩ := List.mem_filter.1 he
    rw [Bool.not_eq_true'] at hflag
    exact ⟨id, Table.lookup_eq_some_iff.2 hmem, hflag⟩
  · rintro ⟨id, hid, hflag⟩
    refine ⟨⟨id, obj⟩, List.mem_filter.2 ⟨Table.lookup_eq_some_iff.1 hid, ?_⟩, rfl⟩
    rwa [Bool.not_eq_true']

theorem lookedAt_of_inEntryOf {bundleName : Name} (hb : bundleName ≠ []) {d : Device}
    (h : InEntryOf bundleName m d.info) : m.lookedAt bundleName d = m.forgotten d :=
  lookedAt_of_mem (mem_deleteBundles.2 ⟨hb, h⟩)

theorem lookedAt_of_not_inEntryOf {bundleName : Name} {d : Device}
    (h : ¬ InEntryOf bundleName m d.info) : m.lookedAt bundleName d = d :=
  lookedAt_of_notMem fun hmem => h (mem_deleteBundles.1 hmem).2

/-- The keys of the drivers that devices are matched to are not of the bundle. -/
def HoldsNone (r : Replies) (bundleName : Name) : Prop :=
  ∀ id driverInfo, r.queryMatchDriver id = some driverInfo →
    ¬ startStr bundleName <+: driverInfo.bundleInfo

theorem freeOf_matched {bundleName : Name} {driverOf : Nat → Name} {d d' : Device}
    {driverInfo : DriverInfo} (hnone : ¬ startStr bundleName <+: driverInfo.bundleInfo)
    (hsame : Device.SameDriver (d.addBundleInfo driverInfo.bundleInfo driverInfo) d')
    (hremote : d'.drvExtRemote = none) : FreeOf bundleName driverOf d' where
  bundleInfo := by rwa [hsame.bundleInfo]
  driverInfo driverInfo' h := by
    rw [hsame.driverInfo] at h
    cases h
    rintro rfl
    exact hnone ⟨driverInfo.driverName, rfl⟩
  drvExtRemote remote h := by
    rw [hremote] at h
    exact nomatch h

theorem freeOf_forgotten_iff {bundleName : Name} {driverOf : Nat → Name} {d : Device} :
    FreeOf bundleName driverOf (m.forgotten d) ↔
      ((∃ driverInfo, d.driverInfo = some driverInfo ∧ driverInfo.bundleName = bundleName) →
        m.driverChangeCallback = true) := by
  constructor
  · rintro h ⟨driverInfo, hinfo, hb⟩
    by_contra hcall
    refine h.driverInfo driverInfo ?_ hb
    rw [forgotten_driverInfo, if_neg hcall, hinfo]
  · refine fun h => ⟨fun hprefix => ?_, fun driverInfo hinfo hb => ?_, fun remote hremote => ?_⟩
    · exact startStr_ne_nil hprefix (forgotten_bundleInfo d)
    · rw [forgotten_driverInfo] at hinfo
      split at hinfo
      · exact nomatch hinfo
      · next hcall => exact hcall (h ⟨driverInfo, hinfo, hb⟩)
    · rw [forgotten_drvExtRemote] at hremote
      exact nomatch hremote

theorem newDriver_eq_none_iff {d : Device} (hflag : d.isUnRegisted = false) :
    newDriver r d = none ↔ d.drvExtRemote.isSome = true ∨ r.queryMatchDriver d.info = none := by
  rw [newDriver_of_unflagged hflag]
  split
  · next hremote => exact iff_of_true rfl (.inl hremote)
  · next hremote => exact (or_iff_right hremote).symm

/-- What an update leaves in a device. -/
theorem freeOf_updated_iff {bundleName : Name} (hb : bundleName ≠ []) {driverOf : Nat → Name}
    {order : List DeviceId} (hm : m.Keyed) (horder : order.Perm m.deviceMap.keys)
    (hnone : HoldsNone r bundleName) (hreg : Registered m id obj) :
    FreeOf bundleName driverOf ((m.onBundlesUpdated r bundleName order).objects obj) ↔
      (InEntryOf bundleName m id →
        (∃ driverInfo, (m.objects obj).driverInfo = some driverInfo ∧
          driverInfo.bundleName = bundleName) →
        m.driverChangeCallback = true ∨ (r.queryMatchDriver id).isSome = true) ∧
      (¬ InEntryOf bundleName m id →
        (m.objects obj).drvExtRemote.isSome = true ∨ r.queryMatchDriver id = none →
        FreeOf bundleName driverOf (m.objects obj)) := by
  obtain ⟨hlookup, hflag⟩ := hreg
  have hid : (m.objects obj).info = id := hm id obj hlookup
  have hmatched {driverInfo : DriverInfo}
      (hnew : newDriver r (m.lookedAt bundleName (m.objects obj)) = some driverInfo) :
      FreeOf bundleName driverOf ((m.onBundlesUpdated r bundleName order).objects obj) := by
    obtain ⟨hsame, hremote⟩ := onBundlesUpdated_some hm horder hlookup hnew
    exact freeOf_matched (hnone _ driverInfo (newDriver_some hnew).2.2) hsame hremote
  by_cases hin : InEntryOf bundleName m id
  · have hlooked : m.lookedAt bundleName (m.objects obj) = m.forgotten (m.objects obj) :=
      lookedAt_of_inEntryOf hb (hid.symm ▸ hin)
    have hquery : newDriver r (m.lookedAt bundleName (m.objects obj)) = r.queryMatchDriver id := by
      rw [hlooked, newDriver_of_unflagged ((forgotten_isUnRegisted _).trans hflag),
        forgotten_drvExtRemote, forgotten_info, hid]
      rfl
    rw [and_iff_left fun hnot => absurd hin hnot, forall_prop_of_true hin]
    cases hnew : r.queryMatchDriver id with
    | none =>
      rw [onBundlesUpdated_none hm horder hlookup (hquery.trans hnew), hlooked,
        freeOf_forgotten_iff]
      exact imp_congr_right fun _ => (or_iff_left Bool.false_ne_true).symm
    | some driverInfo => exact iff_of_true (hmatched (hquery.trans hnew)) fun _ => .inr rfl
  · have hlooked : m.lookedAt bundleName (m.objects obj) = m.objects obj :=
      lookedAt_of_not_inEntryOf (hid.symm ▸ hin)
    rw [and_iff_right fun hin' => absurd hin' hin, forall_prop_of_true hin]
    cases hnew : newDriver r (m.objects obj) with
    | none =>
      rw [onBundlesUpdated_none hm horder hlookup (hlooked.symm ▸ hnew), hlooked,
        forall_prop_of_true (hid ▸ (newDriver_eq_none_iff hflag).1 hnew)]
    | some driverInfo =>
      refine iff_of_true (hmatched (hlooked.symm ▸ hnew)) fun hstays => ?_
      rw [← hid, ← newDriver_eq_none_iff hflag, hnew] at hstays
      exact nomatch hstays

/-- In every state that a run leads to, an update after an uninstall leaves nothing of the bundle in
the visible devices exactly when it reaches those that have something of it. -/
theorem onBundlesUpdated_uninstalls_iff (driverChangeCallback : Bool) (as : List Action)
    (hrun : (machine driverChangeCallback).Runs as) (r : Replies) (bundleName : Name)
    (hb : bundleName ≠ []) (hnone : HoldsNone r bundleName) (driverOf : Nat → Name)
    (order : List DeviceId)
    (horder : order.Perm ((machine driverChangeCallback).run
      (machine driverChangeCallback).init as).manager.deviceMap.keys) :
    let m := ((machine driverChangeCallback).run (machine driverChangeCallback).init as).manager
    Uninstalled bundleName driverOf (m.onBundlesUpdated r bundleName order) ↔
      Reached r bundleName driverOf m := by
  intro m
  have hm : m.Keyed := run_keyed hrun
  have hsame : SameDevices m (m.onBundlesUpdated r bundleName order) :=
    onBundlesUpdated_sameDevices bundleName order
  constructor
  · intro h id obj hreg
    exact (freeOf_updated_iff hb hm horder hnone hreg).1
      (h obj (mem_queryAllDevices.2 ⟨id, hreg.of_sameDevices hsame⟩))
  · intro h obj hmem
    obtain ⟨id, hreg⟩ := mem_queryAllDevices.1 hmem
    have hreg' := hreg.of_sameDevices' hsame
    exact (freeOf_updated_iff hb hm horder hnone hreg').2 (h id obj hreg')

/-- The replies once the driver is gone. -/
def repliesWithout : Replies := { replies with queryMatchDriver := fun _ => none }

theorem holdsNone_repliesWithout : HoldsNone repliesWithout ['b'] :=
  fun _ _ h => nomatch h

theorem uninstall_reaches_one :
    let m := ((machine true).run (machine true).init [.registerDevice replies 1,
      .onConnect 0 (some 7) 0]).manager
    Uninstalled ['b'] (fun _ => ['b', '-', 'd'])
        (m.onBundlesUpdated repliesWithout ['b'] [1]) ↔
      Reached repliesWithout ['b'] (fun _ => ['b', '-', 'd']) m :=
  onBundlesUpdated_uninstalls_iff true _ (by decide) repliesWithout ['b'] (by decide)
    holdsNone_repliesWithout _ [1] (by decide)

/-- A refresh of all bundles forgets the entry of a connected device, so that an uninstall passes over
the device. -/
theorem uninstall_misses :
    ¬ ∀ driverChangeCallback as, (machine driverChangeCallback).Runs as →
      ∀ r bundleName, bundleName ≠ [] → HoldsNone r bundleName → ∀ driverOf order,
      let m := ((machine driverChangeCallback).run (machine driverChangeCallback).init as).manager
      order.Perm m.deviceMap.keys →
        Uninstalled bundleName driverOf (m.onBundlesUpdated r bundleName order) := by
  intro h
  have huninstalled := h true [.registerDevice replies 1, .onConnect 0 (some 7) 0,
    .onBundlesUpdated replies [] [1]] (by decide) repliesWithout ['b'] (by decide)
    holdsNone_repliesWithout (fun _ => ['b', '-', 'd']) [1] (by decide) 0 (by decide)
  exact huninstalled.bundleInfo (by decide)

end ExtDevMgr.Manager.Cleanup
