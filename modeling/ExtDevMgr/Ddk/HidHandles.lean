import ExtDevMgr.Ddk.HidConnect

/-!
# Handles of the HID client

A handle is the id that the service has given when the device was created. It should go on standing
for that device when the service has been restarted and gives the device another id. The new ids and
the old handles are the same numbers, and nothing keeps them apart.
-/

namespace ExtDevMgr.Ddk.Hid
open ExtDevMgr.Ddk.Hid.System

variable {s t : System} {r : Replies} {handle : Int32} {id : UInt32}

/-! ## Faithful handles -/

variable (hdfErrNoperm : HdfErrNoperm)

/-- The handles of the devices that are not destroyed differ, a call on one of them reaches the device
that stands for its creation and no other, and a call on any other handle reaches no device that was
created under a different handle. -/
structure Faithful (s : System) : Prop where
  distinct : (s.created.map Creation.handle).Nodup
  emits : s.ddk = some s.epoch → ∀ c ∈ s.created, ∀ r items length, length ≤ maxEmitItemNum →
    ∀ id d, s.devices.lookup id = some d →
      ((s.ohHidEmitEvent r hdfErrNoperm c.handle (some items) length).target = some id ↔ d = c)
  destroys : s.ddk = some s.epoch → ∀ c ∈ s.created, ∀ r id d, s.devices.lookup id = some d →
    ((s.ohHidDestroyDevice r hdfErrNoperm c.handle).target = some id ↔ d = c)
  others : s.ddk = some s.epoch → ∀ handle, (∀ c ∈ s.created, c.handle ≠ handle) →
    ∀ r items length id d, s.devices.lookup id = some d →
      (s.ohHidEmitEvent r hdfErrNoperm handle items length).target = some id ∨
        (s.ohHidDestroyDevice r hdfErrNoperm handle).target = some id → d.handle = handle

/-- The handles are faithful where the request of a call is answered and after the call. -/
def FaithfulStep (s : System) (a : Action) : Prop :=
  Faithful hdfErrNoperm (s.answering a) ∧ Faithful hdfErrNoperm (s.step hdfErrNoperm a)

/-! ## Targets -/

variable {hdfErrNoperm}

theorem getRealDeviceId_found {value : TempDevice}
    (h : s.deviceMap.lookup handle = some value) : s.getRealDeviceId handle = value.realId := by
  rw [getRealDeviceId, h]

theorem getRealDeviceId_absent (h : s.deviceMap.lookup handle = none) :
    s.getRealDeviceId handle = handle.toUInt32 := by
  rw [getRealDeviceId, h]

theorem destroy_target (h : s.ddk ≠ none) (r : Replies) (handle : Int32) :
    (s.ohHidDestroyDevice r hdfErrNoperm handle).target = some (s.getRealDeviceId handle) := by
  simp only [ohHidDestroyDevice, connect_connected r h]
  rw [if_neg (not_not_intro rfl)]
  split
  case isTrue => rfl
  case isFalse => rfl

theorem emit_target (h : s.ddk ≠ none) (r : Replies) (hhandle : ¬handle < 0)
    (items : List HidEmitItem) {length : UInt16} (hlength : length ≤ maxEmitItemNum) :
    (s.ohHidEmitEvent r hdfErrNoperm handle (some items) length).target =
      some (s.getRealDeviceId handle) := by
  simp only [ohHidEmitEvent, connect_connected r h]
  rw [if_neg (not_not_intro rfl), if_neg hhandle, if_neg (UInt16.not_lt.mpr hlength)]
  rfl

/-- A handle that is negative as an `int32_t` reaches nothing. -/
theorem emit_target_neg (r : Replies) (hhandle : handle < 0) (items : Option (List HidEmitItem))
    (length : UInt16) : (s.ohHidEmitEvent r hdfErrNoperm handle items length).target = none := by
  simp only [ohHidEmitEvent, if_pos hhandle]
  split
  case isTrue => rfl
  case isFalse => rfl

theorem emit_target_of_some (h : s.ddk ≠ none) (r : Replies) {items : Option (List HidEmitItem)}
    {length : UInt16}
    (hid : (s.ohHidEmitEvent r hdfErrNoperm handle items length).target = some id) :
    s.getRealDeviceId handle = id := by
  simp only [ohHidEmitEvent, connect_connected r h] at hid
  rw [if_neg (not_not_intro rfl)] at hid
  split at hid
  case isTrue => cases hid
  case isFalse =>
    split at hid
    case isTrue => cases hid
    case isFalse =>
      cases items with
      | none => cases hid
      | some items => exact Option.some.inj hid

/-! ## The invariant -/

/-- What the client and the service are to each other while the handles are faithful. -/
structure Sound (s : System) : Prop where
  served : ∀ {id d}, s.devices.lookup id = some d → s.ddk = some s.epoch
  epoch : ∀ i, s.ddk = some i → i ≤ s.epoch
  linked : ∀ i, s.linked = some i → s.ddk = some i
  distinct : (s.created.map Creation.handle).Nodup
  cached : ∀ {handle c}, s.creation? handle = some c ↔ c ∈ s.created ∧ c.handle = handle
  nonneg : ∀ c ∈ s.created, ¬c.handle < 0
  live : ∀ {id d}, s.devices.lookup id = some d → d ∈ s.created
  reaches : ∀ {handle value id d}, s.deviceMap.lookup handle = some value →
    s.devices.lookup id = some d → (value.realId = id ↔ d = value.creation)
  others : ∀ {handle}, s.deviceMap.lookup handle = none → s.devices.lookup handle.toUInt32 = none

theorem creation?_eq_none : s.creation? handle = none ↔ s.deviceMap.lookup handle = none :=
  Option.map_eq_none_iff

theorem creation?_eq_some {c : Creation} (h : s.creation? handle = some c) :
    ∃ value, s.deviceMap.lookup handle = some value ∧ value.creation = c :=
  Option.map_eq_some_iff.mp h

namespace Sound

theorem found (h : Sound s) {c : Creation} (hc : c ∈ s.created) :
    ∃ value, s.deviceMap.lookup c.handle = some value ∧ value.creation = c :=
  creation?_eq_some (h.cached.mpr ⟨hc, rfl⟩)

theorem absent (h : Sound s) (hhandle : ∀ c ∈ s.created, c.handle ≠ handle) :
    s.deviceMap.lookup handle = none := by
  rw [← creation?_eq_none]
  cases hcreation : s.creation? handle with
  | none => rfl
  | some c =>
    obtain ⟨hc, heq⟩ := h.cached.mp hcreation
    exact absurd heq (hhandle c hc)

theorem faithful (h : Sound s) : Faithful hdfErrNoperm s where
  distinct := h.distinct
  emits := by
    intro hddk c hc r items length hlength id d hd
    obtain ⟨value, hvalue, rfl⟩ := h.found hc
    rw [emit_target (by rw [hddk]; nofun) r (h.nonneg _ hc) items hlength,
      getRealDeviceId_found hvalue, Option.some.injEq]
    exact h.reaches hvalue hd
  destroys := by
    intro hddk c hc r id d hd
    obtain ⟨value, hvalue, rfl⟩ := h.found hc
    rw [destroy_target (by rw [hddk]; nofun), getRealDeviceId_found hvalue, Option.some.injEq]
    exact h.reaches hvalue hd
  others := by
    intro hddk handle hhandle r items length id d hd htarget
    have hne : s.ddk ≠ none := by
      rw [hddk]
      nofun
    have hid : s.getRealDeviceId handle = id := by
      rcases htarget with htarget | htarget
      · exact emit_target_of_some hne r htarget
      · exact Option.some.inj ((destroy_target hne r handle).symm.trans htarget)
    have habsent := h.absent hhandle
    rw [getRealDeviceId_absent habsent] at hid
    rw [← hid, h.others habsent] at hd
    cases hd

end Sound

/-! ## Connecting -/

/-- The ids that the cached devices are given are handles of cached devices, and no device that is
refused still has one of them for its id. -/
structure ConnectKept (s : System) (r : Replies) : Prop where
  given : ∀ id ∈ r.given, id.toInt32 ∈ s.deviceMap
  refused : ∀ e ∈ s.deviceMap.entries, r.Stays e.1 → e.2.realId ∉ r.given

instance (s : System) (r : Replies) : Decidable (ConnectKept s r) :=
  have : Decidable (∀ id ∈ r.given, id.toInt32 ∈ s.deviceMap) := List.decidableBAll _ r.given
  decidable_of_iff ((∀ id ∈ r.given, id.toInt32 ∈ s.deviceMap) ∧
      ∀ e ∈ s.deviceMap.entries, r.Stays e.1 → e.2.realId ∉ r.given)
    ⟨fun h => ⟨h.1, h.2⟩, fun h => ⟨h.given, h.refused⟩⟩

theorem mem_given : id ∈ r.given ↔ ∃ handle, (handle, some id) ∈ r.recreated := by
  simp [Replies.given]

/-- An id is given to one device. -/
theorem System.Answers.handle_unique (h : s.Answers r) {handle' : Int32}
    (hmem : (handle, some id) ∈ r.recreated) (hmem' : (handle', some id) ∈ r.recreated) :
    handle = handle' := by
  have hpairs := List.pairwise_filterMap.mp (List.nodup_append.mp h.fresh).2.1
  have hsymm : Std.Symm fun p q : Int32 × Option UInt32 =>
      ∀ id, p.2 = some id → ∀ id', q.2 = some id' → id ≠ id' :=
    ⟨fun _ _ h id hid id' hid' => (h id' hid' id hid).symm⟩
  by_contra hne
  exact hpairs.forall hmem hmem' (fun heq => hne (congrArg Prod.fst heq)) id rfl id rfl rfl

/-- A device is given one id. -/
theorem System.Answers.id_unique (h : s.Answers r) {reply reply' : Option UInt32}
    (hmem : (handle, reply) ∈ r.recreated) (hmem' : (handle, reply') ∈ r.recreated) :
    reply = reply' :=
  congrArg Prod.snd (List.inj_on_of_nodup_map h.nodup hmem hmem' rfl)

theorem not_stays (h : ¬r.Stays handle) : ∃ id, (handle, some id) ∈ r.recreated := by
  simp only [Replies.Stays, not_forall] at h
  obtain ⟨⟨handle', reply⟩, hmem, rfl, hreply⟩ := h
  obtain ⟨id, rfl⟩ := Option.ne_none_iff_exists'.mp hreply
  exact ⟨id, hmem⟩

theorem stays_of_nil (h : r.recreated = []) (handle : Int32) : r.Stays handle := by
  intro p hp
  rw [h] at hp
  cases hp

/-- The handles that are given ids are cached. -/
theorem System.Answers.cached (h : s.Answers r) {reply : Option UInt32}
    (hmem : (handle, reply) ∈ r.recreated) : ∃ value, s.deviceMap.lookup handle = some value := by
  have hasked := h.asked.mem_iff.mp (List.mem_map_of_mem (f := Prod.fst) hmem)
  unfold System.asked at hasked
  split at hasked
  case isTrue => exact Option.isSome_iff_exists.mp (AList.lookup_isSome.mpr (AList.mem_keys.mpr hasked))
  case isFalse => cases hasked

namespace Sound

/-- A service to which the client connects anew has no devices. -/
theorem devices_eq_none (h : Sound s) (hddk : s.ddk = none) (id : UInt32) :
    s.devices.lookup id = none := by
  cases hd : s.devices.lookup id with
  | none => rfl
  | some d =>
    rw [h.served hd] at hddk
    cases hddk

theorem reconnected_reaches (h : Sound s) (hr : s.Answers r) (hkept : ConnectKept s r)
    (ht : Reconnected s r t) {value : TempDevice} {d : Creation}
    (hvalue : t.deviceMap.lookup handle = some value) (hd : t.devices.lookup id = some d) :
    value.realId = id ↔ d = value.creation := by
  rcases ht.devices.mp hd with hold | ⟨handle', hmem, hcreation⟩
  · -- The client was connected, so `Connect` has done nothing.
    have hnil : r.recreated = [] := by
      by_contra hne
      rw [h.devices_eq_none (ht.asked hne).1] at hold
      cases hold
    rw [ht.stays (stays_of_nil hnil handle)] at hvalue
    exact h.reaches hvalue hold
  · have hcreation' : s.creation? handle = some value.creation := by
      rw [← ht.creation? handle, creation?_found hvalue]
    have heq : d = value.creation ↔ handle' = handle := by
      constructor
      · rintro rfl
        exact (h.cached.mp hcreation).2.symm.trans (h.cached.mp hcreation').2
      · rintro rfl
        exact Option.some.inj (hcreation.symm.trans hcreation')
    rw [heq]
    by_cases hstays : r.Stays handle
    · rw [ht.stays hstays] at hvalue
      apply iff_of_false
      · rintro rfl
        exact hkept.refused _ (Table.lookup_eq_some_iff.mp hvalue) hstays
          (mem_given.mpr ⟨handle', hmem⟩)
      · rintro rfl
        cases hstays _ hmem rfl
    · obtain ⟨realId, hgiven⟩ := not_stays hstays
      obtain ⟨old, hold⟩ := hr.cached hgiven
      rw [ht.given hgiven hold] at hvalue
      cases hvalue
      constructor
      · rintro rfl
        exact hr.handle_unique hmem hgiven
      · rintro rfl
        exact Option.some.inj (hr.id_unique hgiven hmem)

theorem reconnected (h : Sound s) (hr : s.Answers r) (hkept : ConnectKept s r)
    (ht : Reconnected s r t) : Sound t where
  served := by
    intro id d hd
    rw [ht.epoch]
    rcases ht.devices.mp hd with hold | ⟨handle', hmem, -⟩
    · have hddk := h.served hold
      rcases ht.ddk with heq | ⟨hnone, -⟩
      · rw [heq, hddk]
      · rw [hddk] at hnone
        cases hnone
    · exact (ht.asked (List.ne_nil_of_mem hmem)).2
  epoch := by
    intro i hi
    rw [ht.epoch]
    rcases ht.ddk with heq | ⟨-, heq⟩
    · rw [heq] at hi
      exact h.epoch i hi
    · rw [heq] at hi
      exact (Option.some.inj hi).ge
  linked := by
    intro i hi
    rcases ht.linked with heq | heq
    · rw [heq] at hi
      have hddk := h.linked i hi
      rcases ht.ddk with heq | ⟨hnone, -⟩
      · rw [heq, hddk]
      · rw [hddk] at hnone
        cases hnone
    · rw [← heq, hi]
  distinct := by
    rw [ht.created]
    exact h.distinct
  cached := by
    intro handle c
    rw [ht.creation?, ht.created]
    exact h.cached
  nonneg := by
    rw [ht.created]
    exact h.nonneg
  live := by
    intro id d hd
    rw [ht.created]
    rcases ht.devices.mp hd with hold | ⟨handle', -, hcreation⟩
    · exact h.live hold
    · exact (h.cached.mp hcreation).1
  reaches := h.reconnected_reaches hr hkept ht
  others := by
    intro handle habsent
    rw [← creation?_eq_none, ht.creation?, creation?_eq_none] at habsent
    cases hd : t.devices.lookup handle.toUInt32 with
    | none => rfl
    | some d =>
      rcases ht.devices.mp hd with hold | ⟨handle', hmem, -⟩
      · rw [h.others habsent] at hold
        cases hold
      · have hhandle := hkept.given _ (mem_given.mpr ⟨handle', hmem⟩)
        rw [Int32.toInt32_toUInt32] at hhandle
        exact absurd hhandle (AList.lookup_eq_none.mp habsent)

/-- A device that has been created again, with its creation. -/
theorem recreated (h : Sound s) (hr : s.Answers r) (ht : Reconnected s r t)
    (hmem : (handle, some id) ∈ r.recreated) :
    t.ddk = some t.epoch ∧ ∃ d ∈ s.created, d.handle = handle ∧ t.devices.lookup id = some d := by
  obtain ⟨value, hvalue⟩ := hr.cached hmem
  have hcreation := creation?_found hvalue
  obtain ⟨hcreated, hhandle⟩ := h.cached.mp hcreation
  refine ⟨?_, value.creation, hcreated, hhandle, ht.devices.mpr (.inr ⟨handle, hmem, hcreation⟩)⟩
  rw [ht.epoch]
  exact (ht.asked (List.ne_nil_of_mem hmem)).2

/-- A device that is created again takes the calls on the handle that its id is as a number. -/
theorem connectKept_given (h : Sound s) (hr : s.Answers r) (ht : Reconnected s r t)
    (hfaithful : Faithful hdfErrNoperm t) (hid : id ∈ r.given) : id.toInt32 ∈ s.deviceMap := by
  obtain ⟨handle, hmem⟩ := mem_given.mp hid
  obtain ⟨hddk, d, hcreated, -, hd⟩ := h.recreated hr ht hmem
  have hconnected : t.ddk ≠ none := by
    rw [hddk]
    nofun
  have hmap {c : Creation} (hc : c ∈ s.created) : c.handle ∈ s.deviceMap := by
    obtain ⟨value, hvalue, -⟩ := h.found hc
    exact AList.lookup_isSome.mp (by rw [hvalue]; rfl)
  by_contra hnone
  have habsent : t.deviceMap.lookup id.toInt32 = none := by
    rw [← creation?_eq_none, ht.creation?, creation?_eq_none]
    exact AList.lookup_eq_none.mpr hnone
  have htarget : (t.ohHidDestroyDevice r hdfErrNoperm id.toInt32).target = some id := by
    rw [destroy_target hconnected, getRealDeviceId_absent habsent, UInt32.toUInt32_toInt32]
  have hother : ∀ c ∈ t.created, c.handle ≠ id.toInt32 := by
    intro c hc heq
    rw [ht.created] at hc
    exact hnone (heq ▸ hmap hc)
  have heq := hfaithful.others hddk id.toInt32 hother r none 0 id d hd (.inr htarget)
  exact hnone (heq ▸ hmap hcreated)

/-- A call on a device that is refused reaches the device that has been given its old id. -/
theorem connectKept_refused (h : Sound s) (hr : s.Answers r) (ht : Reconnected s r t)
    (hfaithful : Faithful hdfErrNoperm t) {value : TempDevice}
    (hvalue : s.deviceMap.lookup handle = some value) (hstays : r.Stays handle) :
    value.realId ∉ r.given := by
  intro hid
  obtain ⟨handle', hmem⟩ := mem_given.mp hid
  obtain ⟨hddk, d, -, hhandle, hd⟩ := h.recreated hr ht hmem
  obtain ⟨hc, rfl⟩ := h.cached.mp (creation?_found hvalue)
  have hreal : t.getRealDeviceId value.creation.handle = value.realId :=
    getRealDeviceId_found ((ht.stays hstays).trans hvalue)
  have htarget : (t.ohHidDestroyDevice r hdfErrNoperm value.creation.handle).target =
      some value.realId := by
    rw [destroy_target (by rw [hddk]; nofun), hreal]
  have heq := (hfaithful.destroys hddk _ (ht.created ▸ hc) r _ d hd).mp htarget
  rw [heq] at hhandle
  cases hstays _ hmem hhandle.symm

theorem connect_faithful_iff (h : Sound s) (hr : s.Answers r) :
    Faithful hdfErrNoperm (s.connect r).2 ↔ ConnectKept s r := by
  have ht := hr.reconnected
  constructor
  · intro hfaithful
    constructor
    · exact fun id => h.connectKept_given hr ht hfaithful
    · intro e he hstays
      exact h.connectKept_refused hr ht hfaithful (Table.lookup_eq_some_iff.mpr he) hstays
  · exact fun hkept => (h.reconnected hr hkept ht).faithful

end Sound

/-! ## Creating -/

/-- A device can be created under the id without being mixed up: the id is no negative handle, no
handle of a cached device, and not what a cached device has for its id. -/
structure NewHandle (s : System) (id : UInt32) : Prop where
  nonneg : ¬id.toInt32 < 0
  absent : id.toInt32 ∉ s.deviceMap
  unused : ∀ {handle value}, s.deviceMap.lookup handle = some value → value.realId ≠ id

/-- The state after a successful `OH_Hid_CreateDevice`. -/
def System.afterCreate (s : System) (tempDevice : V1_0.HidDevice)
    (tempProperties : V1_0.HidEventProperties) (id : UInt32) : System :=
  ((s.createDevice id).cacheDeviceInfor ⟨s.creations, id.toInt32⟩ tempDevice tempProperties id).2

namespace Sound
variable {tempDevice : V1_0.HidDevice} {tempProperties : V1_0.HidEventProperties}

theorem mem_of_created (h : Sound s) {c : Creation} (hc : c ∈ s.created) :
    c.handle ∈ s.deviceMap := by
  obtain ⟨value, hvalue, -⟩ := h.found hc
  exact AList.lookup_isSome.mp (by rw [hvalue]; rfl)

theorem afterCreate_creation? (handle : Int32) :
    (s.afterCreate tempDevice tempProperties id).creation? handle =
      if handle = id.toInt32 then some ⟨s.creations, id.toInt32⟩ else s.creation? handle := by
  split
  case isTrue h =>
    have hself : (s.afterCreate tempDevice tempProperties id).deviceMap.lookup id.toInt32 =
      some ⟨tempDevice, tempProperties, id, ⟨s.creations, id.toInt32⟩⟩ := AList.lookup_insert _
    rw [h, creation?_found hself]
  case isFalse h => exact congrArg (Option.map _) (AList.lookup_insert_ne h)

theorem afterCreate (h : Sound s) (hddk : s.ddk = some s.epoch) (hfresh : id ∉ s.devices)
    (hnew : NewHandle s id) : Sound (s.afterCreate tempDevice tempProperties id) where
  served _ := hddk
  epoch := h.epoch
  linked := h.linked
  distinct := by
    refine List.nodup_cons.mpr ⟨?_, h.distinct⟩
    intro hmem
    obtain ⟨c, hc, heq⟩ := List.mem_map.mp hmem
    have hhandle : c.handle = id.toInt32 := heq
    exact hnew.absent (hhandle ▸ h.mem_of_created hc)
  cached := by
    intro handle c
    rw [afterCreate_creation?]
    change _ ↔ c ∈ _ :: s.created ∧ _
    rw [List.mem_cons]
    split
    case isTrue hhandle =>
      subst hhandle
      constructor
      · intro heq
        cases heq
        exact ⟨.inl rfl, rfl⟩
      · rintro ⟨rfl | hc, heq⟩
        · rfl
        · exact absurd (heq ▸ h.mem_of_created hc) hnew.absent
    case isFalse hhandle =>
      rw [h.cached, or_and_right, or_iff_right]
      rintro ⟨rfl, heq⟩
      exact hhandle heq.symm
  nonneg := List.forall_mem_cons.mpr ⟨hnew.nonneg, h.nonneg⟩
  live := by
    intro id' d hd
    rcases (Table.lookup_insert_of_notMem hfresh).mp hd with ⟨-, rfl⟩ | hd
    · exact List.mem_cons_self ..
    · exact List.mem_cons_of_mem _ (h.live hd)
  reaches := by
    intro handle value id' d hvalue hd
    have hne {c : Creation} (hc : c ∈ s.created) : c ≠ ⟨s.creations, id.toInt32⟩ := by
      rintro rfl
      exact hnew.absent (h.mem_of_created hc)
    rcases (Table.lookup_insert_of_notMem hnew.absent).mp hvalue with ⟨-, rfl⟩ | hold
    · rcases (Table.lookup_insert_of_notMem hfresh).mp hd with ⟨rfl, rfl⟩ | hd
      · exact iff_of_true rfl rfl
      · apply iff_of_false
        · rintro rfl
          exact hfresh (AList.lookup_isSome.mp (by rw [hd]; rfl))
        · exact hne (h.live hd)
    · rcases (Table.lookup_insert_of_notMem hfresh).mp hd with ⟨rfl, rfl⟩ | hd
      · apply iff_of_false (hnew.unused hold)
        exact (hne (h.cached.mp (creation?_found hold)).1).symm
      · exact h.reaches hold hd
  others := by
    intro handle habsent
    obtain ⟨hne, habsent⟩ := AList.lookup_insert_eq_none.mp habsent
    refine (AList.lookup_insert_ne ?_).trans (h.others habsent)
    rintro rfl
    exact hne (Int32.toInt32_toUInt32 handle).symm

theorem newHandle (h : Sound s) (hddk : s.ddk = some s.epoch)
    (hfaithful : Faithful hdfErrNoperm (s.afterCreate tempDevice tempProperties id)) :
    NewHandle s id := by
  have hconnected : (s.afterCreate tempDevice tempProperties id).ddk ≠ none := by
    change s.ddk ≠ none
    rw [hddk]
    nofun
  have hself : (s.afterCreate tempDevice tempProperties id).devices.lookup id =
      some ⟨s.creations, id.toInt32⟩ := AList.lookup_insert _
  have habsent : id.toInt32 ∉ s.deviceMap := by
    intro hmem
    obtain ⟨value, hvalue⟩ := Option.isSome_iff_exists.mp (AList.lookup_isSome.mpr hmem)
    obtain ⟨hc, heq⟩ := h.cached.mp (creation?_found hvalue)
    exact (List.nodup_cons.mp hfaithful.distinct).1 (List.mem_map.mpr ⟨_, hc, heq⟩)
  refine ⟨?_, habsent, ?_⟩
  · intro hneg
    have hemit := hfaithful.emits hddk _ (List.mem_cons_self ..) default [] 0
      (by decide) _ _ hself
    rw [emit_target_neg _ hneg] at hemit
    cases hemit.mpr rfl
  · intro handle value hvalue hid
    obtain ⟨hc, hhandle⟩ := h.cached.mp (creation?_found hvalue)
    have hne : handle ≠ id.toInt32 := by
      rintro rfl
      exact habsent (hhandle ▸ h.mem_of_created hc)
    have hfound : (s.afterCreate tempDevice tempProperties id).deviceMap.lookup
        value.creation.handle = some value := by
      rw [hhandle]
      exact (AList.lookup_insert_ne hne).trans hvalue
    have hdestroy := hfaithful.destroys hddk _ (List.mem_cons_of_mem _ hc) default _ _ hself
    rw [destroy_target hconnected, getRealDeviceId_found hfound, hid] at hdestroy
    exact hne (hhandle.symm.trans (congrArg Creation.handle (hdestroy.mp rfl)).symm)

end Sound

/-! ## Destroying -/

/-- The call on the handle that is left over reaches no device of a different handle. -/
def FreeHandle (s : System) (handle : Int32) : Prop :=
  ∀ d, s.devices.lookup handle.toUInt32 = some d → d.handle = handle

/-- The state after a successful `OH_Hid_DestroyDevice`. -/
def System.afterDestroy (s : System) (handle : Int32) : System :=
  let t := s.destroyDevice (s.getRealDeviceId handle) handle
  { t with deviceMap := t.deviceMap.erase handle }

theorem mem_afterDestroy_created {c : Creation} :
    c ∈ (s.afterDestroy handle).created ↔ c ∈ s.created ∧ c.handle ≠ handle := by
  simp [afterDestroy, destroyDevice]

theorem afterDestroy_creation? {handle' : Int32} {c : Creation} :
    (s.afterDestroy handle).creation? handle' = some c ↔
      handle' ≠ handle ∧ s.creation? handle' = some c := by
  by_cases hhandle : handle' = handle
  · subst hhandle
    have hnone : (s.afterDestroy handle').deviceMap.lookup handle' = none := AList.lookup_erase _ _
    rw [creation?_eq_none.mpr hnone]
    simp
  · rw [and_iff_right hhandle]
    exact Eq.congr_left (congrArg (Option.map _) (AList.lookup_erase_ne hhandle))

theorem lookup_afterDestroy_devices {d : Creation} :
    (s.afterDestroy handle).devices.lookup id = some d ↔
      id ≠ s.getRealDeviceId handle ∧ s.devices.lookup id = some d :=
  Table.lookup_erase_eq_some

namespace Sound

/-- A device is reached under its handle. -/
theorem getRealDeviceId_eq (h : Sound s) {d : Creation} (hd : s.devices.lookup id = some d) :
    s.getRealDeviceId d.handle = id := by
  obtain ⟨value, hvalue, rfl⟩ := h.found (h.live hd)
  rw [getRealDeviceId_found hvalue]
  exact (h.reaches hvalue hd).mpr rfl

theorem afterDestroy (h : Sound s) (hfree : FreeHandle s handle) : Sound (s.afterDestroy handle) where
  served hd := h.served (lookup_afterDestroy_devices.mp hd).2
  epoch := h.epoch
  linked := h.linked
  distinct := h.distinct.sublist (List.filter_sublist.map _)
  cached := by
    intro handle' c
    rw [afterDestroy_creation?, h.cached, mem_afterDestroy_created]
    constructor
    · rintro ⟨hne, hc, rfl⟩
      exact ⟨⟨hc, hne⟩, rfl⟩
    · rintro ⟨⟨hc, hne⟩, rfl⟩
      exact ⟨hne, hc, rfl⟩
  nonneg c hc := h.nonneg c (mem_afterDestroy_created.mp hc).1
  live := by
    intro id d hd
    obtain ⟨hid, hold⟩ := lookup_afterDestroy_devices.mp hd
    refine mem_afterDestroy_created.mpr ⟨h.live hold, ?_⟩
    rintro rfl
    exact hid (h.getRealDeviceId_eq hold).symm
  reaches hvalue hd :=
    h.reaches (Table.lookup_erase_eq_some.mp hvalue).2 (lookup_afterDestroy_devices.mp hd).2
  others := by
    intro handle' habsent
    cases hd : (s.afterDestroy handle).devices.lookup handle'.toUInt32 with
    | none => rfl
    | some d =>
      obtain ⟨hid, hold⟩ := lookup_afterDestroy_devices.mp hd
      by_cases hhandle : handle' = handle
      · subst hhandle
        have hreal := h.getRealDeviceId_eq hold
        rw [hfree d hold] at hreal
        exact absurd hreal.symm hid
      · rw [h.others ((AList.lookup_erase_ne hhandle).symm.trans habsent)] at hold
        cases hold

theorem freeHandle (h : Sound s) (hfaithful : Faithful hdfErrNoperm (s.afterDestroy handle)) :
    FreeHandle s handle := by
  intro d hd
  by_contra hne
  have hddk := h.served hd
  have hreal : handle.toUInt32 ≠ s.getRealDeviceId handle := by
    intro heq
    cases hvalue : s.deviceMap.lookup handle with
    | none =>
      rw [h.others hvalue] at hd
      cases hd
    | some value =>
      rw [getRealDeviceId_found hvalue] at heq
      have hcreation := (h.reaches hvalue hd).mp heq.symm
      rw [hcreation] at hne
      exact hne (h.cached.mp (creation?_found hvalue)).2
  have hd' := lookup_afterDestroy_devices.mpr ⟨hreal, hd⟩
  have hother : ∀ c ∈ (s.afterDestroy handle).created, c.handle ≠ handle :=
    fun c hc => (mem_afterDestroy_created.mp hc).2
  have htarget : ((s.afterDestroy handle).ohHidDestroyDevice default hdfErrNoperm
      handle).target = some handle.toUInt32 := by
    rw [destroy_target (by change s.ddk ≠ none; rw [hddk]; nofun)]
    exact congrArg some (getRealDeviceId_absent (AList.lookup_erase _ _))
  exact hne (hfaithful.others hddk handle hother _ none 0 _ d hd' (.inr htarget))

end Sound

end ExtDevMgr.Ddk.Hid
