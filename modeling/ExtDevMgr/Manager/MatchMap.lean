import ExtDevMgr.Manager.Loops

/-!
# The match map and the devices

Which driver a device has is stored twice: as the `bundleInfo_` of the device and as its id in an
entry of the match map. The two sides agree as long as no operation of a run separates them, and
for each operation it can be said before it is taken whether it does.
-/

namespace ExtDevMgr.Manager.MatchMap
open ExtDeviceManager ExtDevMgr.Manager.System

/-- The match map and the devices of the map agree. -/
structure Agree (m : ExtDeviceManager) : Prop where
  listed : ∀ id obj, m.deviceMap.lookup id = some obj → (m.objects obj).isUnRegisted = false →
    ((m.objects obj).bundleInfo ≠ [] ↔ id ∈ m.entry (m.objects obj).bundleInfo)
  elsewhere : ∀ id obj, m.deviceMap.lookup id = some obj → (m.objects obj).isUnRegisted = false →
    ∀ n, n ≠ (m.objects obj).bundleInfo → id ∉ m.entry n
  present : ∀ n id, id ∈ m.entry n →
    ∃ obj, m.deviceMap.lookup id = some obj ∧ (m.objects obj).isUnRegisted = false

/-- A registered device of the map has the driver `n`. -/
def MatchedTo (m : ExtDeviceManager) (id : DeviceId) (n : Name) : Prop :=
  ∃ obj, m.deviceMap.lookup id = some obj ∧ (m.objects obj).isUnRegisted = false ∧
    (m.objects obj).bundleInfo = n ∧ n ≠ []

variable {m m' : ExtDeviceManager} {r : Replies} {id id' : DeviceId} {obj : Nat} {n : Name}

theorem agree_iff : Agree m ↔ ∀ n id, id ∈ m.entry n ↔ MatchedTo m id n := by
  constructor
  · refine fun h n id => ⟨fun hmem => ?_, ?_⟩
    · obtain ⟨obj, hid, hflag⟩ := h.present n id hmem
      have hn : (m.objects obj).bundleInfo = n := by
        by_contra hne
        exact h.elsewhere id obj hid hflag n (Ne.symm hne) hmem
      exact ⟨obj, hid, hflag, hn, hn ▸ (h.listed id obj hid hflag).2 (hn ▸ hmem)⟩
    · rintro ⟨obj, hid, hflag, rfl, hne⟩
      exact (h.listed id obj hid hflag).1 hne
  · refine fun h => ⟨fun id obj hid hflag => ?_, fun id obj hid hflag n hn hmem => ?_, fun n id hmem => ?_⟩
    · rw [h]
      constructor
      · exact fun hne => ⟨obj, hid, hflag, rfl, hne⟩
      · exact fun ⟨_, _, _, _, hne⟩ => hne
    · obtain ⟨o, ho, -, rfl, -⟩ := (h n id).1 hmem
      rw [hid] at ho
      cases ho
      exact hn rfl
    · obtain ⟨o, ho, hflag, -, -⟩ := (h n id).1 hmem
      exact ⟨o, ho, hflag⟩

theorem matchedTo_found (hid : m.deviceMap.lookup id = some obj) :
    MatchedTo m id n ↔
      (m.objects obj).isUnRegisted = false ∧ (m.objects obj).bundleInfo = n ∧ n ≠ [] := by
  unfold MatchedTo
  rw [hid]
  simp

theorem not_matchedTo_absent (hid : m.deviceMap.lookup id = none) : ¬MatchedTo m id n := by
  rintro ⟨obj, hobj, -⟩
  rw [hid] at hobj
  cases hobj

/-- Of a device with a driver that is not flagged, its driver is all that the entries say. -/
theorem mem_entry_found (ha : Agree m) (hid : m.deviceMap.lookup id = some obj) :
    id ∈ m.entry n ↔
      (m.objects obj).isUnRegisted = false ∧ (m.objects obj).bundleInfo = n ∧ n ≠ [] :=
  (agree_iff.1 ha n id).trans (matchedTo_found hid)

/-! ## One device -/

theorem matchedTo_of_touches (hm : m.Keyed) (hid : m.deviceMap.lookup id = some obj)
    (ht : Touches obj m m') (hne : id' ≠ id) : MatchedTo m' id' n ↔ MatchedTo m id' n := by
  unfold MatchedTo
  rw [ht.deviceMap]
  refine exists_congr fun o => and_congr_right fun ho => ?_
  rw [ht.objects o (hm.ne ho hid hne)]

/-- An operation on one device keeps the agreement when it does so for this device. -/
theorem agree_of_touches (hm : m.Keyed) (ha : Agree m) (hid : m.deviceMap.lookup id = some obj)
    (ht : Touches obj m m') (hentry : ∀ id' n, id' ≠ id → (id' ∈ m'.entry n ↔ id' ∈ m.entry n)) :
    Agree m' ↔ ∀ n, id ∈ m'.entry n ↔ (m.objects obj).isUnRegisted = false ∧
      (m'.objects obj).bundleInfo = n ∧ n ≠ [] := by
  have hself (n : Name) : MatchedTo m' id n ↔ (m.objects obj).isUnRegisted = false ∧
      (m'.objects obj).bundleInfo = n ∧ n ≠ [] := by
    rw [matchedTo_found (ht.deviceMap ▸ hid), ht.isUnRegisted]
  rw [agree_iff]
  constructor
  · exact fun h n => (h n id).trans (hself n)
  · intro h n id'
    by_cases hne : id' = id
    · subst hne
      exact (h n).trans (hself n).symm
    · rw [hentry id' n hne, matchedTo_of_touches hm hid ht hne]
      exact agree_iff.1 ha n id'

theorem agree_of_keepsDriver (ha : Agree m) (hk : KeepsDriver obj m m') : Agree m' := by
  have hsame := hk.toTouches.sameDevices
  have hbundle := keepsDriver_bundleInfo hk
  refine agree_iff.2 fun n id => ?_
  rw [entry_congr hk.bundleMatchMap, agree_iff.1 ha]
  unfold MatchedTo
  simp only [hsame.deviceMap, hsame.isUnRegisted, hbundle]

/-! ## Attach -/

/-- The driver that `RegisterDevice` leaves a device with. -/
def startedBundle (r : Replies) (devInfo : DeviceId) (d : Device) : Name :=
  if d.bundleInfo = [] then ((r.queryMatchDriver devInfo).map (·.bundleInfo)).getD []
  else d.bundleInfo

theorem startedBundle_eq_nil {d : Device} :
    startedBundle r id d = [] ↔ d.bundleInfo = [] ∧ r.queryMatchDriver id = none := by
  unfold startedBundle
  split
  case isTrue h =>
    cases r.queryMatchDriver id with
    | none => simp [h]
    | some driverInfo => simp [driverInfo.bundleInfo_ne_nil]
  case isFalse h => simp [h]

theorem matchDevice_bundleInfo (m : ExtDeviceManager) (r : Replies) (id : DeviceId) (obj : Nat) :
    ((m.matchDevice r id obj).objects obj).bundleInfo = startedBundle r id (m.objects obj) ∧
      (m.matchDevice r id obj).bundleMatchMap = m.bundleMatchMap := by
  unfold matchDevice startedBundle
  split
  case isTrue h =>
    cases r.queryMatchDriver id with
    | none => exact ⟨h, rfl⟩
    | some driverInfo => exact ⟨congrArg Device.bundleInfo (setDevice_self _), rfl⟩
  case isFalse => exact ⟨rfl, rfl⟩

theorem startDevice_spec (hinfo : (m.objects obj).info = id) :
    ((m.startDevice r id obj).2.objects obj).bundleInfo = startedBundle r id (m.objects obj) ∧
      ∀ id' n, id' ∈ (m.startDevice r id obj).2.entry n ↔
        (id' = id ∧ startedBundle r id (m.objects obj) = n ∧ n ≠ []) ∨ id' ∈ m.entry n := by
  obtain ⟨hbundle, hmap⟩ := matchDevice_bundleInfo m r id obj
  have hinfo' : ((m.matchDevice r id obj).stopUnloadTimer.objects obj).info = id :=
    matchDevice_touches.info.trans hinfo
  have hbundle' : ((m.matchDevice r id obj).stopUnloadTimer.objects obj).bundleInfo =
      startedBundle r id (m.objects obj) := hbundle
  have hentry (n : Name) : (m.matchDevice r id obj).stopUnloadTimer.entry n = m.entry n :=
    entry_congr hmap n
  rw [startDevice_snd, hbundle]
  split
  case isTrue h =>
    refine ⟨hbundle', fun id' n => ?_⟩
    rw [hentry, or_iff_right]
    rintro ⟨-, hn, hne⟩
    exact hne (hn ▸ h)
  case isFalse h =>
    have hkeep := addDevIdOfBundleInfoMap_keepsDriver (m := (m.matchDevice r id obj).stopUnloadTimer)
      (r := r) obj h
    refine ⟨hkeep.sameDriver.bundleInfo.trans hbundle', fun id' n => ?_⟩
    rw [entry_congr hkeep.bundleMatchMap, mem_entry_emplaceDevId, hentry, hinfo']
    refine or_congr_left (and_congr_right fun _ => ?_)
    exact ⟨fun hn => ⟨hn, hn ▸ h⟩, And.left⟩

/-- Attaching a device that is in the map separates the two sides only when the device is flagged
and gets or keeps a driver. -/
theorem startDevice_agree_iff (hm : m.Keyed) (ha : Agree m)
    (hid : m.deviceMap.lookup id = some obj) :
    Agree (m.startDevice r id obj).2 ↔ ((m.objects obj).isUnRegisted = true →
      (m.objects obj).bundleInfo = [] ∧ r.queryMatchDriver id = none) := by
  obtain ⟨hbundle, hentry⟩ := startDevice_spec (r := r) (hm id obj hid)
  rw [agree_of_touches hm ha hid startDevice_touches fun id' n hne => by simp [hentry, hne], hbundle]
  simp only [hentry, true_and, mem_entry_found ha hid]
  rw [← startedBundle_eq_nil]
  cases (m.objects obj).isUnRegisted with
  | true =>
    constructor
    · refine fun h _ => ?_
      by_contra hne
      simpa [hne] using (h (startedBundle r id (m.objects obj))).1
    · intro h n
      simp [h rfl, eq_comm]
  | false =>
    refine iff_of_true (fun n => ?_) (by simp)
    simp only [true_and, or_iff_left_iff_imp]
    rintro ⟨hn, hne⟩
    refine ⟨?_, hne⟩
    rw [startedBundle, if_neg (hn ▸ hne), hn]

theorem makeDevice_agree
    (halloc : ∀ {id obj}, m.deviceMap.lookup id = some obj → obj < m.nextObject)
    (hid : m.deviceMap.lookup id = none) (ha : Agree m) : Agree (m.makeDevice id) := by
  refine agree_iff.2 fun n id' => ?_
  have hentry : (m.makeDevice id).entry n = m.entry n := entry_congr rfl n
  rw [hentry, agree_iff.1 ha]
  by_cases hne : id' = id
  · subst hne
    refine iff_of_false (not_matchedTo_absent hid) ?_
    rw [matchedTo_found lookup_makeDevice_self, makeDevice_self]
    rintro ⟨-, hn, hne⟩
    exact hne hn.symm
  · unfold MatchedTo
    rw [lookup_makeDevice hne]
    refine exists_congr fun o => and_congr_right fun ho => ?_
    rw [makeDevice_of_lt (halloc ho)]

/-! ## Detach -/

theorem matchedTo_congr (hs : SameDevices m m')
    (hb : ∀ o, (m'.objects o).bundleInfo = (m.objects o).bundleInfo) :
    MatchedTo m' id n ↔ MatchedTo m id n := by
  unfold MatchedTo
  simp only [hs.deviceMap, hs.isUnRegisted, hb]

theorem matchedTo_erase :
    MatchedTo { m with deviceMap := m.deviceMap.erase id } id' n ↔ id' ≠ id ∧ MatchedTo m id' n := by
  constructor
  · rintro ⟨o, ho, h⟩
    obtain ⟨hne, ho⟩ := lookup_of_erase ho
    exact ⟨hne, o, ho, h⟩
  · rintro ⟨hne, o, ho, h⟩
    exact ⟨o, (AList.lookup_erase_ne hne).trans ho, h⟩

theorem matchedTo_detachDevice (hm : m.Keyed) (hid : m.deviceMap.lookup id = some obj) :
    MatchedTo (m.detachDevice id obj) id' n ↔ id' ≠ id ∧ MatchedTo m id' n := by
  unfold detachDevice
  split
  case isFalse => exact matchedTo_erase
  case isTrue =>
    by_cases hne : id' = id
    · refine iff_of_false ?_ fun h => h.1 hne
      rintro ⟨o, ho, hflag, -⟩
      rw [setDevice_deviceMap, hne, hid] at ho
      cases ho
      rw [setDevice_self] at hflag
      cases hflag
    · rw [and_iff_right hne]
      unfold MatchedTo
      refine exists_congr fun o => and_congr_right fun ho => ?_
      rw [setDevice_ne _ (hm.ne ho hid hne)]

theorem mem_matchMapWithout {b : Name} :
    id' ∈ ((m.matchMapWithout b id).lookup n).getD ∅ ↔
      id' ∈ m.entry n ∧ (n = b → id' ≠ id ∧ 1 < (m.entry b).card) := by
  have hentry : m.entry b = (m.bundleMatchMap.lookup b).getD ∅ := rfl
  unfold matchMapWithout
  cases hlook : m.bundleMatchMap.lookup b with
  | none =>
    rw [hlook] at hentry
    refine ⟨fun h => ⟨h, ?_⟩, And.left⟩
    rintro rfl
    rw [hlook] at h
    simp at h
  | some ids =>
    rw [hlook, Option.getD_some] at hentry
    dsimp only
    rw [hentry]
    by_cases hn : n = b
    · subst hn
      rw [hentry]
      split
      case isTrue hcard => simp [hcard, and_comm]
      case isFalse hcard => simp [hcard]
    · have hother : ∀ t : Table Name (Finset DeviceId), t.lookup n = m.bundleMatchMap.lookup n →
          (id' ∈ (t.lookup n).getD ∅ ↔ id' ∈ m.entry n ∧ (n = b → id' ≠ id ∧ 1 < ids.card)) :=
        fun t ht => by simp [ht, hn, entry]
      split
      case isTrue => exact hother _ (AList.lookup_insert_ne hn)
      case isFalse => exact hother _ (AList.lookup_erase_ne hn)

theorem detachDevice_spec (m : ExtDeviceManager) (id : DeviceId) (obj : Nat) :
    (m.detachDevice id obj).bundleMatchMap = m.bundleMatchMap ∧
      ((m.detachDevice id obj).objects obj).info = (m.objects obj).info := by
  unfold detachDevice
  split
  case isTrue => exact ⟨rfl, by rw [setDevice_self]; rfl⟩
  case isFalse => exact ⟨rfl, rfl⟩

theorem unRegisterDevice_spec (hm : m.Keyed) (hid : m.deviceMap.lookup id = some obj) :
    (∀ o, ((m.unRegisterDevice r id).2.objects o).bundleInfo =
        ((m.detachDevice id obj).objects o).bundleInfo) ∧
      (m.unRegisterDevice r id).2.bundleMatchMap =
        if (m.objects obj).bundleInfo = [] then m.bundleMatchMap
        else m.matchMapWithout (m.objects obj).bundleInfo id := by
  have hunload : KeepsDriver obj (m.detachDevice id obj) ((m.detachDevice id obj).unLoadSelf r) :=
    unLoadSelf_keepsDriver
  obtain ⟨hmap, hinfo⟩ := detachDevice_spec m id obj
  have hbundle := keepsDriver_bundleInfo hunload
  simp only [unRegisterDevice, hid]
  split
  case isTrue => exact ⟨hbundle, hunload.bundleMatchMap.trans hmap⟩
  case isFalse hb =>
    obtain ⟨ht, hwithout, hself⟩ := removeDevIdOfBundleInfoMap_spec (r := r)
      (m := (m.detachDevice id obj).unLoadSelf r) obj hb
    refine ⟨fun o => (ht.field Device.bundleInfo hself o).trans (hbundle o), ?_⟩
    · rw [hwithout, hunload.info, hinfo, hm id obj hid]
      simp only [matchMapWithout, hunload.bundleMatchMap, hmap]

/-- Detaching a device takes its id out of the entry of its driver. Where the device is flagged
already, its id is not there and the entry of one other device is taken out instead. -/
theorem unRegisterDevice_agree_iff (hm : m.Keyed) (ha : Agree m)
    (hid : m.deviceMap.lookup id = some obj) :
    Agree (m.unRegisterDevice r id).2 ↔ ((m.objects obj).isUnRegisted = true →
      (m.objects obj).bundleInfo ≠ [] → (m.entry (m.objects obj).bundleInfo).card ≠ 1) := by
  obtain ⟨hbundle, hmap⟩ := unRegisterDevice_spec (r := r) hm hid
  have hmatched (id' : DeviceId) (n : Name) :
      MatchedTo (m.unRegisterDevice r id).2 id' n ↔ id' ≠ id ∧ id' ∈ m.entry n := by
    rw [matchedTo_congr (unRegisterDevice_found r hid) hbundle, matchedTo_detachDevice hm hid,
      agree_iff.1 ha]
  have hentry (n : Name) : (m.unRegisterDevice r id).2.entry n =
      ((if (m.objects obj).bundleInfo = [] then m.bundleMatchMap
        else m.matchMapWithout (m.objects obj).bundleInfo id).lookup n).getD ∅ := by
    rw [entry, hmap]
  rw [agree_iff]
  simp only [hmatched, hentry]
  by_cases hb : (m.objects obj).bundleInfo = []
  · refine iff_of_true (fun n id' => ?_) fun _ hne => absurd hb hne
    rw [if_pos hb]
    refine ⟨fun hmem => ⟨?_, hmem⟩, And.right⟩
    rintro rfl
    obtain ⟨-, hn, hne⟩ := (mem_entry_found ha hid).1 hmem
    exact hne (hn ▸ hb)
  · simp only [if_neg hb, mem_matchMapWithout]
    constructor
    · intro h hflag _ hcard
      obtain ⟨i, hi⟩ := Finset.card_eq_one.1 hcard
      have himem : i ∈ m.entry (m.objects obj).bundleInfo := hi ▸ Finset.mem_singleton_self i
      have hne : i ≠ id := by
        rintro rfl
        rw [mem_entry_found ha hid, hflag] at himem
        cases himem.1
      have := ((h (m.objects obj).bundleInfo i).2 ⟨hne, himem⟩).2 rfl
      omega
    · refine fun h n id' => ⟨fun hmem => ⟨?_, hmem.1⟩, fun hmem => ⟨hmem.2, ?_⟩⟩
      · rintro rfl
        exact (hmem.2 ((mem_entry_found ha hid).1 hmem.1).2.1.symm).1 rfl
      · rintro rfl
        refine ⟨hmem.1, ?_⟩
        cases hflag : (m.objects obj).isUnRegisted with
        | true =>
          have hcard := h hflag hb
          have hpos := Finset.card_pos.2 ⟨id', hmem.2⟩
          omega
        | false =>
          have hself := (mem_entry_found ha hid).2 ⟨hflag, rfl, hb⟩
          exact Finset.one_lt_card.2 ⟨id', hmem.2, id, hself, hmem.1⟩

/-! ## Bundle updates -/

theorem mem_foldl_union {l : List (Sigma fun _ : Name => Finset DeviceId)} {ids : Finset DeviceId} :
    id ∈ l.foldl (fun deviceIds e => deviceIds ∪ e.2) ids ↔ id ∈ ids ∨ ∃ e ∈ l, id ∈ e.2 := by
  induction l generalizing ids with
  | nil => simp
  | cons e l ih =>
    refine ih.trans ?_
    rw [Finset.mem_union, List.exists_mem_cons_iff, or_assoc]

/-- An update deletes the entries of the bundle, or all of them if it names none. -/
def Deleted (bundleName n : Name) : Prop := bundleName = [] ∨ startStr bundleName <+: n

instance (bundleName n : Name) : Decidable (Deleted bundleName n) :=
  inferInstanceAs (Decidable (_ ∨ _))

theorem entry_deleteBundles {bundleName : Name} :
    (m.deleteBundlesOfBundleInfoMap bundleName).2.entry n =
      if Deleted bundleName n then ∅ else m.entry n := by
  by_cases hb : bundleName = []
  · have hdeleted : Deleted bundleName n := .inl hb
    rw [if_pos hdeleted, deleteBundlesOfBundleInfoMap, if_pos hb]
    rfl
  · have hdeleted : Deleted bundleName n ↔ startStr bundleName <+: n := or_iff_right hb
    rw [deleteBundlesOfBundleInfoMap, if_neg hb]
    simp only [entry, Table.lookup_filter, hdeleted]
    by_cases hn : startStr bundleName <+: n
    · simp [hn]
    · simp [hn]

/-- The ids that an update returns are those of the entries of the bundle. -/
theorem mem_deleteBundles {bundleName : Name} :
    id ∈ (m.deleteBundlesOfBundleInfoMap bundleName).1 ↔
      bundleName ≠ [] ∧ ∃ n, startStr bundleName <+: n ∧ id ∈ m.entry n := by
  by_cases hb : bundleName = []
  · simp [deleteBundlesOfBundleInfoMap, hb]
  · rw [deleteBundlesOfBundleInfoMap, if_neg hb]
    dsimp only
    rw [mem_foldl_union, or_iff_right (Finset.notMem_empty id), and_iff_right hb]
    constructor
    · rintro ⟨⟨n, ids⟩, he, hid⟩
      obtain ⟨hmem, hn⟩ := List.mem_filter.1 he
      refine ⟨n, of_decide_eq_true hn, ?_⟩
      rw [entry, Table.lookup_eq_some_iff.2 hmem]
      exact hid
    · rintro ⟨n, hn, hid⟩
      unfold entry at hid
      cases hlook : m.bundleMatchMap.lookup n with
      | none => simp [hlook] at hid
      | some ids =>
        rw [hlook] at hid
        exact ⟨⟨n, ids⟩, List.mem_filter.2 ⟨Table.lookup_eq_some_iff.1 hlook, decide_eq_true hn⟩,
          hid⟩

theorem startStr_ne_nil {bundleName : Name} (h : startStr bundleName <+: n) : n ≠ [] := by
  rintro rfl
  have := List.prefix_nil.1 h
  simp [startStr, stiching] at this

/-- The devices that are registered, have a driver and are not connected or looked at again: they
keep their place only if the update does not move them. -/
def Stays (r : Replies) (bundleName : Name) (id : DeviceId) (d : Device) : Prop :=
  if bundleName = [] then
    d.drvExtRemote = none ∧ (r.queryMatchDriver id).isSome
  else
    ¬startStr bundleName <+: d.bundleInfo → d.drvExtRemote = none →
      ∀ driverInfo, r.queryMatchDriver id = some driverInfo → driverInfo.bundleInfo = d.bundleInfo

/-- What the update makes of a registered device, and of the entries it is in. -/
def updatedBundle (r : Replies) (c : Device) : Name :=
  ((newDriver r c).map (·.bundleInfo)).getD c.bundleInfo

def UpdatedEntry (r : Replies) (bundleName : Name) (d c : Device) (n : Name) : Prop :=
  (¬Deleted bundleName n ∧ d.bundleInfo = n ∧ n ≠ []) ∨
    ∃ driverInfo, newDriver r c = some driverInfo ∧ driverInfo.bundleInfo = n

theorem newDriver_of_unflagged {d : Device} (hflag : d.isUnRegisted = false) :
    newDriver r d = if d.drvExtRemote.isSome then none else r.queryMatchDriver d.info := by
  simp [newDriver, hflag]

/-- A device of the bundle is looked at again without its driver, and always keeps its place. -/
theorem updated_cleaned {bundleName : Name} {d c : Device} (hc : c.bundleInfo = [])
    (hstarts : startStr bundleName <+: d.bundleInfo) :
    UpdatedEntry r bundleName d c n ↔ updatedBundle r c = n ∧ n ≠ [] := by
  unfold UpdatedEntry updatedBundle
  rw [or_iff_right]
  · cases newDriver r c with
    | none =>
      refine iff_of_false (by simp) ?_
      rintro ⟨hn, hne⟩
      exact hne (hn.symm.trans hc)
    | some driverInfo =>
      simp only [Option.some.injEq, exists_eq_left', Option.map_some, Option.getD_some]
      refine ⟨fun hn => ⟨hn, ?_⟩, And.left⟩
      exact hn ▸ driverInfo.bundleInfo_ne_nil
  · rintro ⟨hdeleted, rfl, -⟩
    exact hdeleted (.inr hstarts)

theorem updated_iff_stays {bundleName : Name} {d : Device} (hflag : d.isUnRegisted = false)
    (hother : bundleName = [] ∨ ¬startStr bundleName <+: d.bundleInfo) :
    (∀ n, UpdatedEntry r bundleName d d n ↔ updatedBundle r d = n ∧ n ≠ []) ↔
      (d.bundleInfo ≠ [] → Stays r bundleName d.info d) := by
  have hdeleted {n : Name} (hn : d.bundleInfo = n) : Deleted bundleName n ↔ bundleName = [] := by
    subst hn
    exact or_iff_left_of_imp fun h => hother.resolve_right fun hno => hno h
  unfold UpdatedEntry updatedBundle
  cases hnew : newDriver r d with
  | none =>
    have hskip : ¬(d.drvExtRemote = none ∧ (r.queryMatchDriver d.info).isSome) := by
      rintro ⟨hremote, hquery⟩
      rw [newDriver_of_unflagged hflag, hremote] at hnew
      rw [show r.queryMatchDriver d.info = none from hnew] at hquery
      cases hquery
    simp only [reduceCtorEq, false_and, exists_false, or_false, Option.map_none, Option.getD_none]
    by_cases hb : bundleName = []
    · rw [Stays, if_pos hb]
      constructor
      · intro h hne
        exact absurd (.inl hb) ((h d.bundleInfo).2 ⟨rfl, hne⟩).1
      · refine fun h n => iff_of_false (fun hn => hn.1 (.inl hb)) ?_
        rintro ⟨rfl, hne⟩
        exact hskip (h hne)
    · refine iff_of_true (fun n => ?_) fun _ => ?_
      · refine and_iff_right_of_imp fun hn => ?_
        rwa [hdeleted hn.1]
      · rw [Stays, if_neg hb]
        intro _ hremote driverInfo hquery
        exact absurd ⟨hremote, by rw [hquery]; rfl⟩ hskip
  | some driverInfo =>
    obtain ⟨-, hremote, hquery⟩ := newDriver_some hnew
    simp only [Option.some.injEq, exists_eq_left', Option.map_some, Option.getD_some]
    by_cases hb : bundleName = []
    · rw [Stays, if_pos hb]
      refine iff_of_true (fun n => ?_) fun _ => ⟨hremote, by rw [hquery]; rfl⟩
      rw [or_iff_right fun h => h.1 (.inl hb)]
      exact ⟨fun hn => ⟨hn, hn ▸ driverInfo.bundleInfo_ne_nil⟩, And.left⟩
    · rw [Stays, if_neg hb]
      constructor
      · intro h hne _ _ di hdi
        rw [hquery] at hdi
        cases hdi
        refine ((h d.bundleInfo).1 (.inl ⟨?_, rfl, hne⟩)).1
        rwa [hdeleted rfl]
      · refine fun h n => ⟨?_, fun hn => .inr hn.1⟩
        rintro (⟨-, rfl, hne⟩ | rfl)
        · exact ⟨h hne (hother.resolve_left hb) hremote driverInfo hquery, hne⟩
        · exact ⟨rfl, driverInfo.bundleInfo_ne_nil⟩

/-- The ids that an update returns, told by the devices. -/
theorem mem_deleteBundles_found {bundleName : Name} (ha : Agree m)
    (hid : m.deviceMap.lookup id = some obj) :
    id ∈ (m.deleteBundlesOfBundleInfoMap bundleName).1 ↔ bundleName ≠ [] ∧
      startStr bundleName <+: (m.objects obj).bundleInfo ∧ (m.objects obj).isUnRegisted = false := by
  rw [mem_deleteBundles]
  refine and_congr_right fun _ => ⟨?_, fun ⟨hstarts, hflag⟩ => ⟨_, hstarts, ?_⟩⟩
  · rintro ⟨n, hstarts, hn⟩
    obtain ⟨hflag, rfl, -⟩ := (mem_entry_found ha hid).1 hn
    exact ⟨hstarts, hflag⟩
  · exact (mem_entry_found ha hid).2 ⟨hflag, rfl, startStr_ne_nil hstarts⟩

/-- The entries after an update: what is not deleted of them, and the devices that it matches. -/
theorem mem_entry_onBundlesUpdated {bundleName : Name} {order : List DeviceId} (hm : m.Keyed)
    (horder : order.Perm m.deviceMap.keys) :
    id ∈ (m.onBundlesUpdated r bundleName order).entry n ↔
      (¬Deleted bundleName n ∧ id ∈ m.entry n) ∨ ∃ obj driverInfo,
        m.deviceMap.lookup id = some obj ∧
        newDriver r (m.lookedAt bundleName (m.objects obj)) = some driverInfo ∧
        driverInfo.bundleInfo = n := by
  have hsame : SameDevices m (m.deleteBundlesOfBundleInfoMap bundleName).2 :=
    deleteBundles_sameDevices bundleName
  refine (mem_entry_matchDriverInfos (hm.of_sameDevices hsame) (nodup_order horder)).trans ?_
  rw [entry_deleteBundles, hsame.deviceMap, deleteBundles_objects]
  refine or_congr ?_ ?_
  · split
    case isTrue hdeleted => simp [hdeleted]
    case isFalse hdeleted => simp [hdeleted]
  · simp only [cleaned_congr hsame]
    refine and_iff_right_of_imp ?_
    rintro ⟨obj, -, hobj, -⟩
    exact mem_order horder hobj

theorem bundleInfo_onBundlesUpdated {bundleName : Name} {order : List DeviceId} (hm : m.Keyed)
    (horder : order.Perm m.deviceMap.keys) (hid : m.deviceMap.lookup id = some obj) :
    ((m.onBundlesUpdated r bundleName order).objects obj).bundleInfo =
      updatedBundle r (m.lookedAt bundleName (m.objects obj)) := by
  unfold updatedBundle
  cases hnew : newDriver r (m.lookedAt bundleName (m.objects obj)) with
  | none =>
    rw [onBundlesUpdated_none hm horder hid hnew]
    rfl
  | some driverInfo => exact (onBundlesUpdated_some hm horder hid hnew).1.bundleInfo

/-- An update keeps a device in its place exactly when it stays. -/
theorem updated_agree_iff {bundleName : Name} {order : List DeviceId} (hm : m.Keyed) (ha : Agree m)
    (horder : order.Perm m.deviceMap.keys) (hid : m.deviceMap.lookup id = some obj) :
    (∀ n, id ∈ (m.onBundlesUpdated r bundleName order).entry n ↔
        MatchedTo (m.onBundlesUpdated r bundleName order) id n) ↔
      ((m.objects obj).isUnRegisted = false → (m.objects obj).bundleInfo ≠ [] →
        Stays r bundleName id (m.objects obj)) := by
  have hsame : SameDevices m (m.onBundlesUpdated r bundleName order) :=
    onBundlesUpdated_sameDevices bundleName order
  have hinfo : (m.objects obj).info = id := hm id obj hid
  have hmatched (n : Name) : MatchedTo (m.onBundlesUpdated r bundleName order) id n ↔
      (m.objects obj).isUnRegisted = false ∧
        updatedBundle r (m.lookedAt bundleName (m.objects obj)) = n ∧ n ≠ [] := by
    rw [matchedTo_found (hsame.deviceMap ▸ hid), bundleInfo_onBundlesUpdated hm horder hid,
      hsame.isUnRegisted]
  have hentry (n : Name) : id ∈ (m.onBundlesUpdated r bundleName order).entry n ↔
      (¬Deleted bundleName n ∧ (m.objects obj).isUnRegisted = false ∧
        (m.objects obj).bundleInfo = n ∧ n ≠ []) ∨
      ∃ driverInfo, newDriver r (m.lookedAt bundleName (m.objects obj)) = some driverInfo ∧
        driverInfo.bundleInfo = n := by
    rw [mem_entry_onBundlesUpdated hm horder, mem_entry_found ha hid]
    simp [hid]
  simp only [hmatched, hentry]
  cases hflag : (m.objects obj).isUnRegisted with
  | true =>
    have hnone : newDriver r (m.lookedAt bundleName (m.objects obj)) = none := by
      simp [newDriver, lookedAt, hflag]
    simp [hnone]
  | false =>
    simp only [true_and, forall_const]
    by_cases hcase : bundleName ≠ [] ∧ startStr bundleName <+: (m.objects obj).bundleInfo
    · have hmem := (mem_deleteBundles_found ha hid).2 ⟨hcase.1, hcase.2, hflag⟩
      rw [lookedAt_of_mem (hinfo.symm ▸ hmem)]
      refine iff_of_true (fun n => updated_cleaned (forgotten_bundleInfo _) hcase.2) fun _ => ?_
      rw [Stays, if_neg hcase.1]
      exact fun hno => absurd hcase.2 hno
    · have hmem : (m.objects obj).info ∉ (m.deleteBundlesOfBundleInfoMap bundleName).1 := by
        rw [hinfo, mem_deleteBundles_found ha hid]
        exact fun h => hcase ⟨h.1, h.2.1⟩
      rw [lookedAt_of_notMem hmem, ← hinfo]
      exact updated_iff_stays hflag ((or_iff_not_imp_left).2 fun hb hstarts => hcase ⟨hb, hstarts⟩)

theorem onBundlesUpdated_agree_iff {bundleName : Name} {order : List DeviceId} (hm : m.Keyed)
    (ha : Agree m) (horder : order.Perm m.deviceMap.keys) :
    Agree (m.onBundlesUpdated r bundleName order) ↔
      ∀ id obj, m.deviceMap.lookup id = some obj → (m.objects obj).isUnRegisted = false →
        (m.objects obj).bundleInfo ≠ [] → Stays r bundleName id (m.objects obj) := by
  rw [agree_iff]
  constructor
  · exact fun h id obj hid => (updated_agree_iff hm ha horder hid).1 fun n => h n id
  · intro h n id
    cases hid : m.deviceMap.lookup id with
    | none =>
      have hsame : SameDevices m (m.onBundlesUpdated r bundleName order) :=
        onBundlesUpdated_sameDevices bundleName order
      refine iff_of_false ?_ (not_matchedTo_absent (by rw [hsame.deviceMap, hid]))
      rw [mem_entry_onBundlesUpdated hm horder]
      rintro (⟨-, hn⟩ | ⟨obj, _, hobj, -⟩)
      · obtain ⟨obj, hobj, -⟩ := ha.present n id hn
        rw [hid] at hobj
        cases hobj
      · rw [hid] at hobj
        cases hobj
    | some obj => exact (updated_agree_iff hm ha horder hid).2 (h id obj hid) n

/-! ## User switches -/

/-- A switch clears the device: its driver is the user's, and no other registered device has it. -/
def ClearedAlone (m : ExtDeviceManager) (userId : Int) (id : DeviceId) (d : Device) : Prop :=
  d.driverInfo.any (·.userId = userId) = true ∧ ∀ id' obj', m.deviceMap.lookup id' = some obj' →
    (m.objects obj').isUnRegisted = false → (m.objects obj').bundleInfo = d.bundleInfo → id' = id

theorem clearedBy_iff {userId : Int} {d : Device} : clearedBy userId d = true ↔
    d.isUnRegisted = false ∧ d.bundleInfo ≠ [] ∧ d.driverInfo.any (·.userId = userId) = true := by
  simp [clearedBy, Device.hasDriver, and_assoc]

theorem clearMatchedDrivers_agree_iff {userId : Int} {order : List DeviceId} (hm : m.Keyed)
    (ha : Agree m) (horder : order.Perm m.deviceMap.keys) :
    Agree (m.clearMatchedDrivers r userId order) ↔
      ∀ id obj, m.deviceMap.lookup id = some obj → (m.objects obj).isUnRegisted = false →
        (m.objects obj).bundleInfo ≠ [] → ClearedAlone m userId id (m.objects obj) := by
  have hsame : SameDevices m (m.clearMatchedDrivers r userId order) :=
    clearMatchedDrivers_sameDevices userId order
  have hnodup : order.Nodup := horder.nodup_iff.2 m.deviceMap.keys_nodup
  have hall {id obj} (hid : m.deviceMap.lookup id = some obj) : id ∈ order :=
    horder.mem_iff.2 (AList.mem_keys.1 (AList.lookup_isSome.1 (by rw [hid]; rfl)))
  have hagree : Agree (m.clearMatchedDrivers r userId order) ↔
      ∀ id obj, m.deviceMap.lookup id = some obj → (m.objects obj).isUnRegisted = false →
        ((m.clearMatchedDrivers r userId order).objects obj).bundleInfo = [] := by
    have hempty (n : Name) : (m.clearMatchedDrivers r userId order).entry n = ∅ := rfl
    rw [agree_iff]
    simp only [hempty, Finset.notMem_empty, false_iff, MatchedTo, hsame.deviceMap,
      hsame.isUnRegisted]
    constructor
    · intro h id obj hid hflag
      by_contra hne
      exact h _ id ⟨obj, hid, hflag, rfl, hne⟩
    · rintro h n id ⟨obj, hid, hflag, rfl, hne⟩
      exact hne (h id obj hid hflag)
  -- a device with a driver loses it exactly when the loop clears it
  have hcleared {id obj l₁ l₂} (hid : m.deviceMap.lookup id = some obj)
      (hl : order = l₁ ++ id :: l₂) (hb : (m.objects obj).bundleInfo ≠ []) :
      ((m.clearMatchedDrivers r userId order).objects obj).bundleInfo = [] ↔
        m.ClearedAfter userId l₁ (m.objects obj) := by
    subst hl
    obtain ⟨hyes, hno⟩ := clearMatchedDrivers_at (r := r) userId hm hnodup hid
    constructor
    · intro h
      by_contra hnot
      rw [hno hnot] at h
      exact hb h
    · intro h
      rw [hyes h, forgotten_bundleInfo]
  rw [hagree]
  constructor
  · intro h id obj hid hflag hb
    obtain ⟨l₁, l₂, hl⟩ := List.append_of_mem (hall hid)
    have hafter := (hcleared hid hl hb).1 (h id obj hid hflag)
    refine ⟨(clearedBy_iff.1 hafter.1).2.2, fun id' obj' hid' hflag' hb' => ?_⟩
    by_contra hne
    have hafter' {k₁ k₂} (hk : order = k₁ ++ id' :: k₂) :=
      (hcleared hid' hk (hb' ▸ hb)).1 (h id' obj' hid' hflag')
    rcases exists_before (hall hid) (hall hid') (Ne.symm hne) with
      ⟨k₁, k₂, hk, hmem⟩ | ⟨k₁, k₂, hk, hmem⟩
    · obtain ⟨j₁, j₂, hj⟩ := List.append_of_mem (hall hid')
      have hclear := (hafter' hj).1
      exact ((hcleared hid hk hb).1 (h id obj hid hflag)).2.2 id' hmem ⟨obj', hid', hclear, hb'⟩
    · exact (hafter' hk).2.2 id hmem ⟨obj, hid, hafter.1, hb'.symm⟩
  · intro h id obj hid hflag
    obtain ⟨l₁, l₂, hl⟩ := List.append_of_mem (hall hid)
    by_cases hb : (m.objects obj).bundleInfo = []
    · subst hl
      rw [(clearMatchedDrivers_at (r := r) userId hm hnodup hid).2 fun h => (clearedBy_iff.1 h.1).2.1 hb]
      exact hb
    · obtain ⟨huser, halone⟩ := h id obj hid hflag hb
      refine (hcleared hid hl hb).2 ⟨clearedBy_iff.2 ⟨hflag, hb, huser⟩, ?_, ?_⟩
      · have hmem := (mem_entry_found ha hid).2 ⟨hflag, rfl, hb⟩
        unfold entry at hmem
        cases hlook : m.bundleMatchMap.lookup (m.objects obj).bundleInfo with
        | none => simp [hlook] at hmem
        | some ids => rfl
      · rintro i hi ⟨obj', hobj', hclear, hb'⟩
        rw [halone i obj' hobj' (clearedBy_iff.1 hclear).1 hb'] at hi
        rw [hl] at hnodup
        exact (List.nodup_append.1 hnodup).2.2 id hi id (List.mem_cons_self ..) rfl

/-! ## Runs -/

/-- The operation does not separate the two sides. -/
def InStep (s : System) : Action → Prop
  | .registerDevice r devInfo => ∀ obj, s.manager.deviceMap.lookup devInfo = some obj →
      (s.manager.objects obj).isUnRegisted = true → (s.manager.objects obj).drvExtRemote = none →
      (s.manager.objects obj).bundleInfo = [] ∧ r.queryMatchDriver devInfo = none
  | .unRegisterDevice _ devInfo => ∀ obj, s.manager.deviceMap.lookup devInfo = some obj →
      (s.manager.objects obj).isUnRegisted = true → (s.manager.objects obj).bundleInfo ≠ [] →
      (s.manager.entry (s.manager.objects obj).bundleInfo).card ≠ 1
  | .onBundlesUpdated r bundleName _ => ∀ id obj, s.manager.deviceMap.lookup id = some obj →
      (s.manager.objects obj).isUnRegisted = false → (s.manager.objects obj).bundleInfo ≠ [] →
      Stays r bundleName id (s.manager.objects obj)
  | .clearMatchedDrivers _ userId _ => ∀ id obj, s.manager.deviceMap.lookup id = some obj →
      (s.manager.objects obj).isUnRegisted = false → (s.manager.objects obj).bundleInfo ≠ [] →
      ClearedAlone s.manager userId id (s.manager.objects obj)
  | .removeDeviceOfDeviceMap _ obj => ∀ o,
      s.manager.deviceMap.lookup (s.manager.objects obj).info = some o →
      (s.manager.objects o).isUnRegisted = false → (s.manager.objects o).bundleInfo = []
  | _ => True

theorem agree_of_atMostConnects (ha : Agree m) (h : AtMostConnects m m') : Agree m' :=
  h.elim fun _ hkeep => agree_of_keepsDriver ha hkeep

theorem removeDeviceOfDeviceMap_agree_iff (ha : Agree m) :
    Agree (m.removeDeviceOfDeviceMap obj) ↔
      ∀ o, m.deviceMap.lookup (m.objects obj).info = some o → (m.objects o).isUnRegisted = false →
        (m.objects o).bundleInfo = [] := by
  have hentry (n : Name) : (m.removeDeviceOfDeviceMap obj).entry n = m.entry n := entry_congr rfl n
  have hmatched (id : DeviceId) (n : Name) : MatchedTo (m.removeDeviceOfDeviceMap obj) id n ↔
      id ≠ (m.objects obj).info ∧ MatchedTo m id n := matchedTo_erase
  rw [agree_iff]
  simp only [hentry, agree_iff.1 ha, hmatched, iff_and_self]
  constructor
  · intro h o ho hflag
    by_contra hne
    exact h _ _ ⟨o, ho, hflag, rfl, hne⟩ rfl
  · rintro h n id ⟨o, ho, hflag, rfl, hne⟩ rfl
    exact hne (h o ho hflag)

theorem step_agree_iff {s : System} (h : s.WellFormed) (ha : Agree s.manager) {a : Action}
    (hen : s.Enabled a) : Agree (s.step a).manager ↔ InStep s a := by
  have hm : s.manager.Keyed := fun _ _ => h.info
  cases a with
  | registerDevice r devInfo =>
    cases hid : s.manager.deviceMap.lookup devInfo with
    | none =>
      have hnew := makeDevice_agree h.allocated hid ha
      simp only [step, registerDevice, hid, InStep, reduceCtorEq, false_implies, implies_true,
        iff_true]
      have hm' : (s.manager.makeDevice devInfo).Keyed := fun _ _ => (h.makeDevice devInfo).info
      refine (startDevice_agree_iff hm' hnew lookup_makeDevice_self).2 fun hflag => ?_
      rw [makeDevice_self] at hflag
      cases hflag
    | some obj =>
      simp only [step, registerDevice, hid, InStep, Option.some.injEq, forall_eq']
      split
      case isTrue hremote =>
        refine iff_of_true ha fun _ hnone => ?_
        rw [hnone] at hremote
        cases hremote
      case isFalse hremote =>
        rw [startDevice_agree_iff hm ha hid]
        simp only [Option.not_isSome_iff_eq_none.1 hremote, forall_const]
  | unRegisterDevice r devInfo =>
    cases hid : s.manager.deviceMap.lookup devInfo with
    | none =>
      refine iff_of_true ?_ (by simp [InStep, hid])
      simp only [step, unRegisterDevice_absent r hid]
      exact ha
    | some obj =>
      simp only [InStep, hid, Option.some.injEq, forall_eq']
      exact unRegisterDevice_agree_iff hm ha hid
  | onBundlesUpdated r bundleName order => exact onBundlesUpdated_agree_iff hm ha hen
  | clearMatchedDrivers r userId order => exact clearMatchedDrivers_agree_iff hm ha hen
  | removeDeviceOfDeviceMap r obj =>
    have hstop : KeepsDriver 0 (s.manager.removeDeviceOfDeviceMap obj)
        ((s.manager.removeDeviceOfDeviceMap obj).stopExtension r obj) := stopExtension_keepsDriver
    have hback : KeepsDriver 0 ((s.manager.removeDeviceOfDeviceMap obj).stopExtension r obj)
        (s.manager.removeDeviceOfDeviceMap obj) := .of_objects rfl rfl rfl rfl rfl
    refine Iff.trans ?_ (removeDeviceOfDeviceMap_agree_iff ha)
    exact ⟨fun h => agree_of_keepsDriver h hback, fun h => agree_of_keepsDriver h hstop⟩
  | connectDevice r id token cb =>
    exact iff_of_true (agree_of_atMostConnects ha (connectDevice_atMostConnects ..)) trivial
  | connectDriverWithDeviceId r access id token ids cb =>
    exact iff_of_true (agree_of_atMostConnects ha (connectDriverWithDeviceId_atMostConnects ..))
      trivial
  | disConnectDevice r id token =>
    exact iff_of_true (agree_of_atMostConnects ha (disConnectDevice_atMostConnects ..)) trivial
  | disConnectDriverWithDeviceId r id token =>
    exact iff_of_true (agree_of_atMostConnects ha (disConnectDriverWithDeviceId_atMostConnects ..))
      trivial
  | onConnect obj remote code =>
    exact iff_of_true (agree_of_keepsDriver ha (onConnect_keepsDriver remote code)) trivial
  | remoteDied obj object =>
    exact iff_of_true (agree_of_keepsDriver ha (remoteDied_keepsDriver object)) trivial
  | onDisconnect r obj code =>
    have hdisc : Agree (s.manager.onDisconnect obj code) :=
      agree_of_keepsDriver ha (onDisconnect_keepsDriver code)
    refine iff_of_true ?_ trivial
    simp only [step, System.onDisconnect]
    split
    case isTrue => exact hdisc
    case isFalse =>
      have hstop : KeepsDriver 0 (s.manager.onDisconnect obj code)
          ((s.manager.onDisconnect obj code).stopExtension r obj) := stopExtension_keepsDriver
      exact agree_of_keepsDriver hdisc hstop

/-- The match map and the devices agree in every state of a run exactly when no operation of the
run separates them. -/
theorem agree_iff_inStep (driverChangeCallback : Bool) (as : List Action)
    (hrun : (machine driverChangeCallback).Runs as) :
    (machine driverChangeCallback).Throughout (fun s => Agree s.manager)
        (machine driverChangeCallback).init as ↔
      (machine driverChangeCallback).Along InStep (machine driverChangeCallback).init as :=
  Machine.throughout_iff_along (fun _ _ h ha => step_wellFormed h ha)
    (fun _ _ h ha hen => step_agree_iff h ha hen) (init_wellFormed driverChangeCallback)
    (agree_iff.2 fun n id => by simp [machine, entry, MatchedTo]) hrun

/-- A device is attached, connected and detached. -/
theorem agree_of_run_inStep :
    (machine true).Throughout (fun s => Agree s.manager) (machine true).init
      [.registerDevice replies 1, .onConnect 0 (some 7) 0, .unRegisterDevice replies 1] := by
  refine (agree_iff_inStep true _ (by decide)).2 ⟨?_, trivial, ?_, trivial⟩
  · intro obj hobj
    cases hobj
  · intro obj hobj hflag
    cases hobj
    cases hflag

/-- A refresh of all bundles clears the map and passes over the connected devices. -/
theorem not_forall_agree :
    ¬∀ driverChangeCallback as, (machine driverChangeCallback).Runs as →
      (machine driverChangeCallback).Throughout (fun s => Agree s.manager)
        (machine driverChangeCallback).init as := by
  intro h
  have hlast := (h true [.registerDevice replies 1, .onConnect 0 (some 7) 0,
    .onBundlesUpdated replies [] [1]] (by decide)).last
  exact absurd ((hlast.listed 1 0 (by decide) (by decide)).1 (by decide)) (by decide)

end ExtDevMgr.Manager.MatchMap
