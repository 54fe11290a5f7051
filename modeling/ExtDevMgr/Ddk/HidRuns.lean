import ExtDevMgr.Ddk.HidHandles

/-!
# Runs of the HID client

Handles stay faithful in a run as long as no id that the service gives mixes two of them up.
-/

namespace ExtDevMgr.Ddk.Hid
open ExtDevMgr.Ddk.Hid.System

variable {s t : System} {r : Replies} {handle : Int32} {id : UInt32} {hdfErrNoperm : HdfErrNoperm}

/-! ## Calls -/

/-- The call goes on after `Connect`. -/
def Proceeds (s : System) (r : Replies) : Prop :=
  s.ddk ≠ none ∨ (r.get = true ∧ r.addDeathRecipient = true)

/-- The call creates a device. -/
def Creates (s : System) (r : Replies) (hidDevice : Option HidDevice)
    (hidEventProperties : Option HidEventProperties) : Prop :=
  Proceeds s r ∧ (parameters hidDevice hidEventProperties).isSome ∧ r.ret = hidDdkSuccess

/-- The call destroys a device. -/
def Destroys (s : System) (r : Replies) : Prop := Proceeds s r ∧ r.ret = hidDdkSuccess

instance (s : System) (r : Replies) : Decidable (Proceeds s r) := inferInstanceAs (Decidable (_ ∨ _))

instance (s : System) (r : Replies) (hidDevice : Option HidDevice)
    (hidEventProperties : Option HidEventProperties) :
    Decidable (Creates s r hidDevice hidEventProperties) :=
  inferInstanceAs (Decidable (_ ∧ _))

instance (s : System) (r : Replies) : Decidable (Destroys s r) := inferInstanceAs (Decidable (_ ∧ _))

theorem hidCode_eq_success {ret : Int} :
    hidCode hdfErrNoperm ret = hidDdkSuccess ↔ ret = hidDdkSuccess := by
  unfold hidCode
  split
  case isTrue h =>
    rw [h]
    exact iff_of_false (by decide) hdfErrNoperm.2
  case isFalse => rfl

theorem connect_eq_success : (s.connect r).1 = hidDdkSuccess ↔ Proceeds s r := by
  unfold Proceeds
  cases hddk : s.ddk with
  | some i =>
    rw [connect_connected r (by rw [hddk]; nofun)]
    exact iff_of_true rfl (.inl nofun)
  | none =>
    have hfailure : hidDdkFailure ≠ hidDdkSuccess := by decide
    simp only [connect, hddk]
    cases r.get with
    | false => exact iff_of_false hfailure (by simp)
    | true =>
      cases r.addDeathRecipient with
      | false => exact iff_of_false hfailure (by simp)
      | true => exact iff_of_true rfl (.inr ⟨rfl, rfl⟩)

/-- A call that goes on has a proxy. -/
theorem connect_ddk (h : Proceeds s r) : (s.connect r).2.ddk ≠ none := by
  cases hddk : s.ddk with
  | some i =>
    rw [connect_connected r (by rw [hddk]; nofun), hddk]
    nofun
  | none =>
    obtain ⟨hget, hadd⟩ := h.resolve_left (not_not_intro hddk)
    obtain ⟨deviceMap, devices, heq⟩ :=
      foldl_recreateDevice_eq r.recreated { s with ddk := some s.epoch }
    simp [connect, hddk, hget, hadd, heq]

/-- The service that answers a request with success is the one that is there. -/
theorem System.Answers.connected (h : s.Answers r) (hproceeds : Proceeds s r)
    (hret : r.ret = hidDdkSuccess) : (s.connect r).2.ddk = some (s.connect r).2.epoch := by
  have ht := h.reconnected
  rw [ht.epoch]
  rcases ht.ddk with heq | ⟨-, heq⟩
  · have hne := connect_ddk hproceeds
    rw [heq] at hne ⊢
    exact (h.served hret).resolve_left hne
  · exact heq

section
variable {hidDevice : Option HidDevice} {hidEventProperties : Option HidEventProperties}

theorem createDevice_state (h : ¬Creates s r hidDevice hidEventProperties) :
    (s.ohHidCreateDevice r hdfErrNoperm hidDevice hidEventProperties).state = (s.connect r).2 := by
  simp only [ohHidCreateDevice]
  split
  case isTrue => rfl
  case isFalse hconnected =>
    have hproceeds := connect_eq_success.mp (not_not.mp hconnected)
    cases hparameters : parameters hidDevice hidEventProperties with
    | none => rfl
    | some p =>
      have hret : ¬hidCode hdfErrNoperm r.ret = hidDdkSuccess := by
        rw [hidCode_eq_success]
        exact fun hret => h ⟨hproceeds, by rw [hparameters]; rfl, hret⟩
      simp only [if_pos hret]

theorem createDevice_state_creates (hdfErrNoperm : HdfErrNoperm)
    (h : Creates s r hidDevice hidEventProperties) :
    ∃ tempDevice tempProperties,
      (s.ohHidCreateDevice r hdfErrNoperm hidDevice hidEventProperties).state =
        (s.connect r).2.afterCreate tempDevice tempProperties r.deviceId := by
  obtain ⟨hproceeds, hparameters, hret⟩ := h
  obtain ⟨⟨tempDevice, tempProperties⟩, hparameters⟩ := Option.isSome_iff_exists.mp hparameters
  refine ⟨tempDevice, tempProperties, ?_⟩
  simp only [ohHidCreateDevice, hparameters]
  rw [if_neg (not_not_intro (connect_eq_success.mpr hproceeds)),
    if_neg (not_not_intro (hidCode_eq_success.mpr hret))]
  rfl

end

theorem emitEvent_state (items : Option (List HidEmitItem)) (length : UInt16) :
    (s.ohHidEmitEvent r hdfErrNoperm handle items length).state = (s.connect r).2 := by
  simp only [ohHidEmitEvent]
  split
  case isTrue => rfl
  case isFalse =>
    split
    case isTrue => rfl
    case isFalse =>
      split
      case isTrue => rfl
      case isFalse =>
        cases items with
        | none => rfl
        | some items => rfl

theorem destroyDevice_state (h : ¬Destroys s r) :
    (s.ohHidDestroyDevice r hdfErrNoperm handle).state = (s.connect r).2 := by
  simp only [ohHidDestroyDevice]
  split
  case isTrue => rfl
  case isFalse hconnected =>
    have hproceeds := connect_eq_success.mp (not_not.mp hconnected)
    rw [if_pos]
    exact fun hret => h ⟨hproceeds, hidCode_eq_success.mp hret⟩

theorem destroyDevice_state_destroys (h : Destroys s r) :
    (s.ohHidDestroyDevice r hdfErrNoperm handle).state = (s.connect r).2.afterDestroy handle := by
  simp only [ohHidDestroyDevice]
  rw [if_neg (not_not_intro (connect_eq_success.mpr h.1)),
    if_neg (not_not_intro (hidCode_eq_success.mpr h.2))]
  rfl

/-! ## Steps -/

/-- The id that the new device is given is no negative handle, no handle of a cached device, and not
what a device that is given no other id has for its id. -/
structure CreateKept (s : System) (r : Replies) : Prop where
  nonneg : ¬r.deviceId.toInt32 < 0
  absent : r.deviceId.toInt32 ∉ s.deviceMap
  unused : ∀ e ∈ s.deviceMap.entries, r.Stays e.1 → e.2.realId ≠ r.deviceId

/-- The number that the handle is stands as an id for no device of a different handle. -/
structure DestroyKept (s : System) (r : Replies) (handle : Int32) : Prop where
  devices : ∀ d ∈ s.devices.lookup handle.toUInt32, d.handle = handle
  given : ∀ p ∈ r.recreated, p.2 = some handle.toUInt32 → p.1 = handle

instance (s : System) (r : Replies) : Decidable (CreateKept s r) :=
  decidable_of_iff (¬r.deviceId.toInt32 < 0 ∧ r.deviceId.toInt32 ∉ s.deviceMap ∧
      ∀ e ∈ s.deviceMap.entries, r.Stays e.1 → e.2.realId ≠ r.deviceId)
    ⟨fun h => ⟨h.1, h.2.1, h.2.2⟩, fun h => ⟨h.nonneg, h.absent, h.unused⟩⟩

instance (s : System) (r : Replies) (handle : Int32) : Decidable (DestroyKept s r handle) :=
  have : Decidable (∀ p ∈ r.recreated, p.2 = some handle.toUInt32 → p.1 = handle) :=
    List.decidableBAll _ r.recreated
  decidable_of_iff ((∀ d ∈ s.devices.lookup handle.toUInt32, d.handle = handle) ∧
      ∀ p ∈ r.recreated, p.2 = some handle.toUInt32 → p.1 = handle)
    ⟨fun h => ⟨h.1, h.2⟩, fun h => ⟨h.devices, h.given⟩⟩

/-- No id that the service gives mixes two handles up. -/
def Kept (s : System) : Action → Prop
  | .createDevice r hidDevice hidEventProperties =>
    ConnectKept s r ∧ (Creates s r hidDevice hidEventProperties → CreateKept s r)
  | .emitEvent r .. => ConnectKept s r
  | .destroyDevice r handle => ConnectKept s r ∧ (Destroys s r → DestroyKept s r handle)
  | .die | .onRemoteDied => True

instance (s : System) : DecidablePred (Kept s)
  | .createDevice .. => inferInstanceAs (Decidable (_ ∧ _))
  | .emitEvent r .. => inferInstanceAs (Decidable (ConnectKept s r))
  | .destroyDevice .. => inferInstanceAs (Decidable (_ ∧ _))
  | .die | .onRemoteDied => .isTrue trivial

theorem newHandle_iff (ht : Reconnected s r t) (hfresh : r.deviceId ∉ r.given) :
    NewHandle t r.deviceId ↔ CreateKept s r := by
  have hmem (handle : Int32) : handle ∈ t.deviceMap ↔ handle ∈ s.deviceMap := by
    rw [← not_iff_not, ← AList.lookup_eq_none, ← AList.lookup_eq_none, ← creation?_eq_none,
      ← creation?_eq_none, ht.creation?]
  constructor
  · intro h
    refine ⟨h.nonneg, (hmem _).not.mp h.absent, ?_⟩
    intro e he hstays
    exact h.unused ((ht.stays hstays).trans (Table.lookup_eq_some_iff.mpr he))
  · intro h
    refine ⟨h.nonneg, (hmem _).not.mpr h.absent, ?_⟩
    intro handle value hvalue
    by_cases hstays : r.Stays handle
    · rw [ht.stays hstays] at hvalue
      exact h.unused _ (Table.lookup_eq_some_iff.mp hvalue) hstays
    · obtain ⟨realId, hgiven⟩ := not_stays hstays
      have hold : handle ∈ s.deviceMap :=
        (hmem handle).mp (AList.lookup_isSome.mp (by rw [hvalue]; rfl))
      obtain ⟨old, hold⟩ := Option.isSome_iff_exists.mp (AList.lookup_isSome.mpr hold)
      rw [ht.given hgiven hold] at hvalue
      cases hvalue
      rintro rfl
      exact hfresh (mem_given.mpr ⟨handle, hgiven⟩)

theorem freeHandle_iff (h : Sound s) (hr : s.Answers r) (ht : Reconnected s r t) :
    FreeHandle t handle ↔ DestroyKept s r handle := by
  constructor
  · intro hfree
    constructor
    · exact fun d hd => hfree d (ht.devices.mpr (.inl hd))
    · rintro ⟨handle', reply⟩ hmem rfl
      obtain ⟨-, d, -, rfl, hd⟩ := h.recreated hr ht hmem
      exact hfree d hd
  · rintro ⟨hdevices, hgiven⟩ d hd
    rcases ht.devices.mp hd with hold | ⟨handle', hmem, hcreation⟩
    · exact hdevices d hold
    · exact (h.cached.mp hcreation).2.trans (hgiven _ hmem rfl)

namespace Sound

theorem connect (h : Sound s) (hr : s.Answers r) (hkept : ConnectKept s r) :
    Sound (s.connect r).2 :=
  h.reconnected hr hkept hr.reconnected

theorem die (h : Sound s) : Sound s.die where
  served hd := by cases hd
  epoch i hi := Nat.le_succ_of_le (h.epoch i hi)
  linked := h.linked
  distinct := h.distinct
  cached := h.cached
  nonneg := h.nonneg
  live hd := by cases hd
  reaches _ hd := by cases hd
  others _ := rfl

/-- The instance whose death is told has left no devices. -/
theorem onRemoteDied (h : Sound s) (ha : s.enabled .onRemoteDied) : Sound s.onRemoteDied := by
  obtain ⟨i, hi⟩ := Option.ne_none_iff_exists'.mp ha.1
  have hddk := h.linked i hi
  have hdevices (id : UInt32) : s.devices.lookup id = none := by
    cases hd : s.devices.lookup id with
    | none => rfl
    | some d => exact absurd (hi.trans (hddk.symm.trans (h.served hd))) ha.2
  rw [System.onRemoteDied, if_pos (by rw [hddk]; nofun)]
  exact { h with
    served := fun {id _} hd => absurd ((hdevices id).symm.trans hd) nofun
    epoch := nofun
    linked := nofun }

end Sound

theorem init_sound : Sound (machine hdfErrNoperm).init where
  served hd := by cases hd
  epoch := nofun
  linked := nofun
  distinct := List.nodup_nil
  cached := by
    intro handle c
    exact iff_of_false nofun fun h => List.not_mem_nil h.1
  nonneg := nofun
  live hd := by cases hd
  reaches _ hd := by cases hd
  others _ := rfl

/-- An id that no device has and that is given to none is new to the service once the client is
connected. -/
theorem Reconnected.notMem_devices (ht : Reconnected s r t)
    (hid : id ∉ s.devices.keys ++ r.given) : id ∉ t.devices := by
  rw [List.mem_append, not_or] at hid
  rw [← AList.lookup_eq_none]
  cases hd : t.devices.lookup id with
  | none => rfl
  | some d =>
    rcases ht.devices.mp hd with hold | ⟨handle, hmem, -⟩
    · exact absurd (AList.mem_keys.mp (AList.lookup_isSome.mp (by rw [hold]; rfl))) hid.1
    · exact absurd (mem_given.mpr ⟨handle, hmem⟩) hid.2

theorem answering_sound {a : Action} (h : Sound s) (ha : s.enabled a) (hkept : Kept s a) :
    Sound (s.answering a) := by
  cases a with
  | createDevice => exact h.connect ha.1 hkept.1
  | emitEvent => exact h.connect ha hkept
  | destroyDevice => exact h.connect ha hkept.1
  | die => exact h
  | onRemoteDied => exact h

theorem step_sound {a : Action} (h : Sound s) (ha : s.enabled a) (hkept : Kept s a) :
    Sound (s.step hdfErrNoperm a) := by
  have ht := answering_sound h ha hkept
  cases a with
  | createDevice r hidDevice hidEventProperties =>
    by_cases hcreates : Creates s r hidDevice hidEventProperties
    · obtain ⟨tempDevice, tempProperties, heq⟩ :=
        createDevice_state_creates hdfErrNoperm hcreates
      have hfresh := (List.mem_append.not.mp ha.2)
      have hnew := (newHandle_iff ha.1.reconnected (not_or.mp hfresh).2).mpr (hkept.2 hcreates)
      rw [System.step, heq]
      exact ht.afterCreate (ha.1.connected hcreates.1 hcreates.2.2)
        (ha.1.reconnected.notMem_devices ha.2) hnew
    · rw [System.step, createDevice_state hcreates]
      exact ht
  | emitEvent r handle items length =>
    rw [System.step, emitEvent_state]
    exact ht
  | destroyDevice r handle =>
    by_cases hdestroys : Destroys s r
    · rw [System.step, destroyDevice_state_destroys hdestroys]
      exact ht.afterDestroy ((freeHandle_iff h ha ha.reconnected).mpr (hkept.2 hdestroys))
    · rw [System.step, destroyDevice_state hdestroys]
      exact ht
  | die => exact h.die
  | onRemoteDied => exact h.onRemoteDied ha

theorem step_faithful_iff {a : Action} (h : Sound s) (ha : s.enabled a) :
    FaithfulStep hdfErrNoperm s a ↔ Kept s a := by
  refine ⟨?_, fun hkept => ⟨(answering_sound h ha hkept).faithful, (step_sound h ha hkept).faithful⟩⟩
  rintro ⟨hanswering, hstep⟩
  cases a with
  | createDevice r hidDevice hidEventProperties =>
    have hconnect := (h.connect_faithful_iff ha.1).mp hanswering
    refine ⟨hconnect, fun hcreates => ?_⟩
    obtain ⟨tempDevice, tempProperties, heq⟩ :=
      createDevice_state_creates hdfErrNoperm hcreates
    rw [System.step, heq] at hstep
    have hnew := (h.connect ha.1 hconnect).newHandle
      (ha.1.connected hcreates.1 hcreates.2.2) hstep
    exact (newHandle_iff ha.1.reconnected (not_or.mp (List.mem_append.not.mp ha.2)).2).mp hnew
  | emitEvent => exact (h.connect_faithful_iff ha).mp hanswering
  | destroyDevice r handle =>
    have hconnect := (h.connect_faithful_iff ha).mp hanswering
    refine ⟨hconnect, fun hdestroys => ?_⟩
    rw [System.step, destroyDevice_state_destroys hdestroys] at hstep
    exact (freeHandle_iff h ha ha.reconnected).mp ((h.connect ha hconnect).freeHandle hstep)
  | die => trivial
  | onRemoteDied => trivial

/-- The handles are faithful in every call of a run exactly when no id that the service gives in it
mixes two handles up. -/
theorem handlesFaithful_iff_kept (hdfErrNoperm : HdfErrNoperm) (as : List Action)
    (hrun : (machine hdfErrNoperm).Runs as) :
    (machine hdfErrNoperm).Along (FaithfulStep hdfErrNoperm) (machine hdfErrNoperm).init as ↔
      (machine hdfErrNoperm).Along Kept (machine hdfErrNoperm).init as :=
  Machine.along_iff_along (I := Sound) (fun _ _ h ha hkept => step_sound h ha hkept)
    (fun _ _ h ha => step_faithful_iff h ha) init_sound hrun

/-- A keyboard of no keys. -/
def keyboard : HidDevice := ⟨some [107], 1, 2, 3, 4, none, 0⟩

def noEvents : HidEventProperties where
  hidEventTypes := ⟨none, 0⟩
  hidKeys := ⟨none, 0⟩
  hidAbs := ⟨none, 0⟩
  hidRelBits := ⟨none, 0⟩
  hidMiscellaneous := ⟨none, 0⟩
  hidAbsMax := .replicate 64 0
  hidAbsMin := .replicate 64 0
  hidAbsFuzz := .replicate 64 0
  hidAbsFlat := .replicate 64 0

/-- The service grants every request, the new device getting `deviceId`. -/
def granted (recreated : List (Int32 × Option UInt32)) (deviceId : UInt32) : Replies :=
  ⟨true, recreated, true, hidDdkSuccess, deviceId⟩

/-- After a restart two devices have each other's ids, and a call on a handle finds its device. -/
theorem faithful_of_swapped_ids :
    (machine ⟨-1, by decide⟩).Along (FaithfulStep ⟨-1, by decide⟩) (machine ⟨-1, by decide⟩).init
      [.createDevice (granted [] 5) (some keyboard) (some noEvents),
        .createDevice (granted [] 6) (some keyboard) (some noEvents), .die, .onRemoteDied,
        .emitEvent (granted [(5, some 6), (6, some 5)] 0) 5 (some []) 0] :=
  (handlesFaithful_iff_kept ⟨-1, by decide⟩ _ (by decide +kernel)).mpr (by decide +kernel)

/-- Of two devices the first is destroyed. The restarted service gives the other one the id 1, and the
next device the id 2, which is the handle of the other one. -/
theorem not_forall_handlesFaithful :
    ¬∀ hdfErrNoperm as, (machine hdfErrNoperm).Runs as →
      (machine hdfErrNoperm).Along (FaithfulStep hdfErrNoperm) (machine hdfErrNoperm).init as := by
  intro h
  have hsteps := h ⟨-1, by decide⟩
    [.createDevice (granted [] 1) (some keyboard) (some noEvents),
      .createDevice (granted [] 2) (some keyboard) (some noEvents),
      .destroyDevice (granted [] 0) 1, .die, .onRemoteDied,
      .createDevice (granted [(2, some 1)] 2) (some keyboard) (some noEvents)] (by decide)
  obtain ⟨-, -, -, -, -, ⟨-, hlast⟩, -⟩ := hsteps
  exact absurd hlast.distinct (by decide)

end ExtDevMgr.Ddk.Hid
