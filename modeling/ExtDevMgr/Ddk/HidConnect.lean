import ExtDevMgr.Ddk.HidDdk

/-!
# Connecting to a restarted HID service

The loop of `Connect` creates the cached devices again, one turn for each, and a turn changes what the
client and the service have of its own device only.
-/

namespace ExtDevMgr.Ddk.Hid
open ExtDevMgr.Ddk.Hid.System

variable {s t : System} {r : Replies} {handle : Int32} {id : UInt32}

/-! ## The loop of `Connect` -/

/-- The device of the handle is given no id. -/
def Replies.Stays (r : Replies) (handle : Int32) : Prop :=
  ∀ p ∈ r.recreated, p.1 = handle → p.2 = none

instance (r : Replies) (handle : Int32) : Decidable (r.Stays handle) :=
  List.decidableBAll (fun p : Int32 × Option UInt32 => p.1 = handle → p.2 = none) r.recreated

/-- The creation that has cached a device under the handle. -/
def System.creation? (s : System) (handle : Int32) : Option Creation :=
  (s.deviceMap.lookup handle).map TempDevice.creation

theorem creation?_found {value : TempDevice} (h : s.deviceMap.lookup handle = some value) :
    s.creation? handle = some value.creation := by
  rw [creation?, h, Option.map_some]

theorem recreateDevice_refused (h : Int32) : s.recreateDevice (h, none) = s := by
  unfold recreateDevice
  cases s.deviceMap.lookup h with
  | none => rfl
  | some value => rfl

theorem recreateDevice_absent {p : Int32 × Option UInt32} (h : s.deviceMap.lookup p.1 = none) :
    s.recreateDevice p = s := by
  rw [recreateDevice, h]

theorem recreateDevice_found {h : Int32} {value : TempDevice} {realId : UInt32}
    (hvalue : s.deviceMap.lookup h = some value) :
    s.recreateDevice (h, some realId) =
      { s with
        deviceMap := s.deviceMap.insert h { value with realId }
        devices := s.devices.insert realId value.creation } := by
  simp only [recreateDevice, hvalue]

/-- A turn leaves the device map as it is or gives the device it visits an id. -/
theorem recreateDevice_cases (s : System) (p : Int32 × Option UInt32) :
    ((∀ realId, p.2 = some realId → s.deviceMap.lookup p.1 = none) ∧ s.recreateDevice p = s) ∨
      ∃ value realId, s.deviceMap.lookup p.1 = some value ∧ p.2 = some realId ∧
        s.recreateDevice p =
          { s with
            deviceMap := s.deviceMap.insert p.1 { value with realId }
            devices := s.devices.insert realId value.creation } := by
  obtain ⟨h, reply⟩ := p
  cases reply with
  | none => exact .inl ⟨nofun, recreateDevice_refused h⟩
  | some realId =>
    cases hvalue : s.deviceMap.lookup h with
    | none => exact .inl ⟨fun _ _ => rfl, recreateDevice_absent hvalue⟩
    | some value => exact .inr ⟨value, realId, rfl, rfl, recreateDevice_found hvalue⟩

theorem lookup_recreateDevice_ne {p : Int32 × Option UInt32} (hne : handle ≠ p.1) :
    (s.recreateDevice p).deviceMap.lookup handle = s.deviceMap.lookup handle := by
  rcases recreateDevice_cases s p with ⟨-, h⟩ | ⟨value, realId, -, -, h⟩
  · rw [h]
  · rw [h]
    exact AList.lookup_insert_ne hne

theorem creation?_recreateDevice (p : Int32 × Option UInt32) :
    (s.recreateDevice p).creation? handle = s.creation? handle := by
  rcases recreateDevice_cases s p with ⟨-, h⟩ | ⟨value, realId, hvalue, -, h⟩
  · rw [h]
  · have hself : (s.recreateDevice p).deviceMap.lookup p.1 = some { value with realId } := by
      rw [h]
      exact AList.lookup_insert _
    by_cases hhandle : handle = p.1
    · rw [hhandle, creation?_found hvalue, creation?_found hself]
    · exact congrArg (Option.map _) (lookup_recreateDevice_ne hhandle)

section
variable {l : List (Int32 × Option UInt32)}

theorem foldl_recreateDevice_eq (l : List (Int32 × Option UInt32)) (s : System) :
    ∃ deviceMap devices, l.foldl recreateDevice s = { s with deviceMap, devices } := by
  induction l generalizing s with
  | nil => exact ⟨s.deviceMap, s.devices, rfl⟩
  | cons p l ih =>
    obtain ⟨deviceMap, devices, heq⟩ := ih (s.recreateDevice p)
    refine ⟨deviceMap, devices, heq.trans ?_⟩
    rcases recreateDevice_cases s p with ⟨-, h⟩ | ⟨value, realId, -, -, h⟩
    · rw [h]
    · rw [h]

theorem creation?_foldl (l : List (Int32 × Option UInt32)) :
    (l.foldl recreateDevice s).creation? handle = s.creation? handle := by
  induction l generalizing s with
  | nil => rfl
  | cons p l ih => exact ih.trans (creation?_recreateDevice p)

theorem lookup_foldl_of_stays (h : ∀ p ∈ l, p.1 = handle → p.2 = none) :
    (l.foldl recreateDevice s).deviceMap.lookup handle = s.deviceMap.lookup handle := by
  induction l generalizing s with
  | nil => rfl
  | cons p l ih =>
    obtain ⟨hp, hl⟩ := List.forall_mem_cons.mp h
    refine (ih hl).trans ?_
    by_cases hhandle : p.1 = handle
    · have hrefused : p = (p.1, none) := Prod.ext rfl (hp hhandle)
      rw [hrefused, recreateDevice_refused]
    · exact lookup_recreateDevice_ne (Ne.symm hhandle)

theorem lookup_foldl_of_given {value : TempDevice} {realId : UInt32} (hl : (l.map Prod.fst).Nodup)
    (hmem : (handle, some realId) ∈ l) (hvalue : s.deviceMap.lookup handle = some value) :
    (l.foldl recreateDevice s).deviceMap.lookup handle = some { value with realId } := by
  induction l generalizing s with
  | nil => cases hmem
  | cons p l ih =>
    obtain ⟨hp, hl⟩ := List.nodup_cons.mp hl
    cases hmem with
    | head =>
      have hstays : ∀ p ∈ l, p.1 = handle → p.2 = none := by
        intro p hmem heq
        exact absurd (List.mem_map.mpr ⟨p, hmem, heq⟩) hp
      refine (lookup_foldl_of_stays hstays).trans ?_
      rw [recreateDevice_found hvalue]
      exact AList.lookup_insert _
    | tail _ hmem =>
      have hne : handle ≠ p.1 := fun heq => hp (heq ▸ List.mem_map_of_mem (f := Prod.fst) hmem)
      exact ih hl hmem ((lookup_recreateDevice_ne hne).trans hvalue)

/-- The service has the devices it had before and, under their new ids, those created again. -/
theorem lookup_devices_foldl {d : Creation}
    (hids : (s.devices.keys ++ l.filterMap Prod.snd).Nodup) :
    (l.foldl recreateDevice s).devices.lookup id = some d ↔
      s.devices.lookup id = some d ∨
        ∃ handle, (handle, some id) ∈ l ∧ s.creation? handle = some d := by
  induction l generalizing s with
  | nil => simp
  | cons p l ih =>
    rw [List.foldl_cons]
    rcases recreateDevice_cases s p with ⟨hp, h⟩ | ⟨value, realId, hvalue, hp, h⟩
    · have hl : (l.filterMap Prod.snd).Sublist ((p :: l).filterMap Prod.snd) :=
        (List.sublist_cons_self p l).filterMap _
      rw [h, ih (hids.sublist ((List.Sublist.refl _).append hl))]
      refine or_congr_right (exists_congr fun handle => and_congr_left fun hcreation => ?_)
      rw [List.mem_cons, or_iff_right]
      rintro rfl
      rw [creation?, hp id rfl] at hcreation
      cases hcreation
    · rw [List.filterMap_cons, hp] at hids
      obtain ⟨hnew, hids⟩ := List.nodup_cons.mp (List.nodup_middle.mp hids)
      have hfresh : realId ∉ s.devices.keys := fun hmem => hnew (List.mem_append_left _ hmem)
      have hdevices : (s.recreateDevice p).devices = s.devices.insert realId value.creation := by
        rw [h]
      have hids' : ((s.recreateDevice p).devices.keys ++ l.filterMap Prod.snd).Nodup := by
        rw [hdevices, AList.keys_insert, List.erase_of_not_mem hfresh]
        exact List.nodup_cons.mpr ⟨hnew, hids⟩
      rw [ih hids', hdevices, Table.lookup_insert_of_notMem (AList.mem_keys.not.mpr hfresh)]
      have hcreation : s.creation? p.1 = some value.creation := creation?_found hvalue
      obtain ⟨p, reply⟩ := p
      cases hp
      simp only [creation?_recreateDevice, List.mem_cons, Prod.mk.injEq, Option.some.injEq]
      constructor
      · rintro ((⟨rfl, rfl⟩ | hold) | ⟨handle, hmem, hd⟩)
        · exact .inr ⟨p, .inl ⟨rfl, rfl⟩, hcreation⟩
        · exact .inl hold
        · exact .inr ⟨handle, .inr hmem, hd⟩
      · rintro (hold | ⟨handle, ⟨rfl, rfl⟩ | hmem, hd⟩)
        · exact .inl (.inr hold)
        · exact .inl (.inl ⟨rfl, Option.some.inj (hcreation.symm.trans hd)⟩)
        · exact .inr ⟨handle, hmem, hd⟩

end

/-! ## `Connect` -/

theorem connect_connected (r : Replies) (h : s.ddk ≠ none) : s.connect r = (hidDdkSuccess, s) := by
  obtain ⟨i, hi⟩ := Option.ne_none_iff_exists'.mp h
  rw [connect, hi]

/-- What `Connect` makes of a state: the cached devices that it has created again stand for the same
creations under the ids that they are given. -/
structure Reconnected (s : System) (r : Replies) (t : System) : Prop where
  created : t.created = s.created
  epoch : t.epoch = s.epoch
  ddk : t.ddk = s.ddk ∨ (s.ddk = none ∧ t.ddk = some s.epoch)
  linked : t.linked = s.linked ∨ t.linked = t.ddk
  asked : r.recreated ≠ [] → s.ddk = none ∧ t.ddk = some s.epoch
  creation? : ∀ handle, t.creation? handle = s.creation? handle
  stays : ∀ {handle}, r.Stays handle → t.deviceMap.lookup handle = s.deviceMap.lookup handle
  given : ∀ {handle realId value}, (handle, some realId) ∈ r.recreated →
    s.deviceMap.lookup handle = some value →
      t.deviceMap.lookup handle = some { value with realId }
  devices : ∀ {id d}, t.devices.lookup id = some d ↔ s.devices.lookup id = some d ∨
    ∃ handle, (handle, some id) ∈ r.recreated ∧ s.creation? handle = some d

theorem Reconnected.refl (h : r.recreated = []) : Reconnected s r s where
  created := rfl
  epoch := rfl
  ddk := .inl rfl
  linked := .inl rfl
  asked hne := absurd h hne
  creation? _ := rfl
  stays _ := rfl
  given hmem := by
    rw [h] at hmem
    cases hmem
  devices := by simp [h]

theorem System.Answers.recreated_eq_nil (h : s.Answers r) (hasked : s.asked r = []) :
    r.recreated = [] := by
  have hperm := h.asked
  rw [hasked] at hperm
  exact List.map_eq_nil_iff.mp hperm.eq_nil

theorem System.Answers.nodup (h : s.Answers r) : (r.recreated.map Prod.fst).Nodup := by
  refine h.asked.nodup_iff.mpr ?_
  unfold System.asked
  split
  case isTrue => exact s.deviceMap.keys_nodup
  case isFalse => exact List.nodup_nil

/-- The loop of `Connect` over the whole map, on a proxy of the present instance. -/
theorem System.Answers.reconnected_loop (h : s.Answers r) (hddk : s.ddk = none) :
    Reconnected s r (r.recreated.foldl recreateDevice { s with ddk := some s.epoch }) := by
  obtain ⟨deviceMap, devices, heq⟩ :=
    foldl_recreateDevice_eq r.recreated { s with ddk := some s.epoch }
  exact {
    created := by rw [heq]
    epoch := by rw [heq]
    ddk := by
      rw [heq]
      exact .inr ⟨hddk, rfl⟩
    linked := by
      rw [heq]
      exact .inl rfl
    asked := fun _ => by
      rw [heq]
      exact ⟨hddk, rfl⟩
    creation? := fun handle => creation?_foldl r.recreated
    stays := fun hstays => lookup_foldl_of_stays hstays
    given := fun hmem hvalue => lookup_foldl_of_given h.nodup hmem hvalue
    devices := lookup_devices_foldl h.fresh }

theorem System.Answers.reconnected (h : s.Answers r) : Reconnected s r (s.connect r).2 := by
  cases hddk : s.ddk with
  | some i =>
    rw [connect_connected r (by rw [hddk]; nofun)]
    refine .refl (h.recreated_eq_nil (if_neg ?_))
    rw [hddk]
    exact fun hnone => nomatch hnone.1
  | none =>
    simp only [connect, hddk]
    split
    case isTrue hget =>
      refine .refl (h.recreated_eq_nil (if_neg ?_))
      intro hasked
      rw [hasked.2] at hget
      cases hget
    case isFalse =>
      have hloop := h.reconnected_loop hddk
      split
      case isTrue => exact hloop
      case isFalse =>
        obtain ⟨deviceMap, devices, heq⟩ :=
          foldl_recreateDevice_eq r.recreated { s with ddk := some s.epoch }
        exact { hloop with
          linked := .inr (by
            rw [heq]) }

end ExtDevMgr.Ddk.Hid
