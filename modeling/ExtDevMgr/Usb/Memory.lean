import ExtDevMgr.Usb.Slots

/-!
# What the parser owns

The blocks that a configuration owns through its pointers, against the blocks that
`FreeUsbConfigDescriptor` deletes by the counts. As long as the writes are in range the two agree:
the slots behind `numAltsetting` and the endpoints behind `bNumEndpoints` own nothing, and no owning
pointer is overwritten.
-/

namespace ExtDevMgr.Usb
open Records

/-! ## Owned blocks -/

def ownedAltSetting (i k : Nat) (desc : UsbDdkInterfaceDescriptor) : List Block :=
  (if desc.extra.isSome then [Block.extra i k] else []) ++
    match desc.endPoint with
    | some endPoint =>
      (List.range endPoint.length).flatMap (fun j => clearEndpoint i k j (endPoint.getD j {})) ++
        [Block.endPoint i k]
    | none => []

def ownedInterface (i : Nat) (usbInterface : UsbDdkInterface) : List Block :=
  (List.range usbInterface.slots).flatMap (fun k => ownedAltSetting i k (usbInterface.slot k)) ++
    if usbInterface.altsetting.isSome then [.altsetting i] else []

/-- The blocks that a heap-allocated configuration owns, itself included. -/
def ownedConfig (config : UsbDdkConfigDescriptor) : List Block :=
  (match config.interface with
  | some interface =>
    (List.range interface.length).flatMap (fun i => ownedInterface i (interface.getD i {})) ++
      [Block.interfaces]
  | none => []) ++ (if config.extra.isSome then [Block.configExtra] else []) ++ [.config]

theorem flatMap_range_of_le {α : Type} {f : Nat → List α} {a b : Nat} (hle : a ≤ b)
    (hf : ∀ j, a ≤ j → f j = []) : (List.range b).flatMap f = (List.range a).flatMap f := by
  induction b with
  | zero => rw [Nat.le_zero.mp hle]
  | succ b ih =>
    rcases Nat.lt_or_eq_of_le hle with hlt | rfl
    · rw [List.range_succ, List.flatMap_append, ih (Nat.le_of_lt_succ hlt), List.flatMap_singleton,
        hf b (Nat.le_of_lt_succ hlt), List.append_nil]
    · rfl

/-- Two ranges give the same blocks when nothing is behind the shorter one. -/
theorem flatMap_range_eq {α : Type} {f : Nat → List α} {a b : Nat}
    (hf : ∀ j, min a b ≤ j → f j = []) : (List.range a).flatMap f = (List.range b).flatMap f := by
  rw [flatMap_range_of_le (Nat.min_le_left a b) hf, flatMap_range_of_le (Nat.min_le_right a b) hf]

/-! ## Endpoints -/

/-- The endpoints behind the count own nothing. -/
def EndpointsCounted (desc : UsbDdkInterfaceDescriptor) : Prop :=
  ∀ endPoint, desc.endPoint = some endPoint → ∀ j,
    desc.interfaceDescriptor.bNumEndpoints.toNat ≤ j → endPoint.getD j {} = {}

theorem clearAltSetting_eq_owned {desc : UsbDdkInterfaceDescriptor} (h : EndpointsCounted desc)
    (i k : Nat) : clearAltSetting i k desc = ownedAltSetting i k desc := by
  rw [clearAltSetting, ownedAltSetting]
  congr 1
  cases hend : desc.endPoint with
  | none => rfl
  | some endPoint =>
    dsimp only
    congr 1
    refine flatMap_range_eq fun j hj => ?_
    have hnil : endPoint.getD j {} = {} := by
      have hj' : desc.interfaceDescriptor.bNumEndpoints.toNat ≤ j ∨ endPoint.length ≤ j := by
        omega
      rcases hj' with hle | hle
      · exact h endPoint hend j hle
      · exact List.getD_eq_default _ _ hle
    rw [hnil]
    rfl

theorem EndpointCall.result_of_zero {c : Cursor} {result : Int × UsbDdkEndpointDescriptor}
    (hc : c.InBounds) (h : EndpointCall c result) (hzero : result.1 = 0) : result.2 = {} := by
  cases h with
  | short => exact rfl
  | stray => exact rfl
  | malformed => exact rfl
  | parsed rs hcomplete htype hlen hrs =>
    obtain ⟨-, -, hle⟩ := (Cursor.complete_bytes hc).mp hcomplete
    have hhead := Cursor.length_head hc hle
    simp only [List.flatten_cons, List.length_append] at hzero
    omega

theorem parseEndpoints_counted {n i : Nat} {st : EndpointLoop} (h : st.cursor.Valid)
    (hlen : st.endPoint.length = i + n) (hnum : st.bNumEndpoints.toNat = i + n)
    (fresh : ∀ j, i ≤ j → st.endPoint.getD j {} = {}) :
    ∀ j, (parseEndpoints n i st).bNumEndpoints.toNat ≤ j →
      (parseEndpoints n i st).endPoint.getD j {} = {} := by
  induction n generalizing i st with
  | zero =>
    intro j hj
    rw [parseEndpoints] at hj ⊢
    exact fresh j (by omega)
  | succ n ih =>
    have hcall := parseEndpoint_call h
    have hpass := (hcall.passes h).2
    have fresh' := fresh_set (parseEndpoint {} st.cursor).2 fresh
    simp only [parseEndpoints, fresh i (Nat.le_refl i)]
    split
    · rename_i hzero
      have hi : i < 256 := by
        have := st.bNumEndpoints.toNat_lt
        omega
      rw [hcall.result_of_zero h.inBounds hzero] at fresh' ⊢
      intro j hj
      simp only [UInt8.toNat_ofNat', Nat.mod_eq_of_lt hi] at hj
      rcases Nat.lt_or_eq_of_le hj with hlt | rfl
      · exact fresh' j hlt
      · rw [List.getD_eq_getElem?_getD, List.getElem?_set_self (by omega), Option.getD_some]
    · split
      · rename_i hneg
        exact absurd (hcall.passes h).1 (Int.not_le.mpr hneg)
      · refine @ih (i + 1) _ (hpass.valid h) ?_ ?_ fresh'
        · rw [List.length_set]
          omega
        · dsimp only
          omega

theorem parseInterfaceEndpoint_counted (desc : UsbDdkInterfaceDescriptor) {c : Cursor}
    (h : c.Valid) (hnone : desc.endPoint = none) :
    EndpointsCounted (parseInterfaceEndpoint desc c).2.1 := by
  rw [parseInterfaceEndpoint]
  split
  · have fresh := fun j (_ : 0 ≤ j) =>
      fresh_replicate desc.interfaceDescriptor.bNumEndpoints.toNat j
    intro endPoint hend j hj
    obtain rfl := Option.some.inj hend
    exact @parseEndpoints_counted _ 0 {
      ret := usbDdkSuccess
      bNumEndpoints := desc.interfaceDescriptor.bNumEndpoints
      endPoint := List.replicate desc.interfaceDescriptor.bNumEndpoints.toNat {}
      cursor := c } h (by rw [List.length_replicate, Nat.zero_add]) (Nat.zero_add _).symm fresh j hj
  · intro endPoint hend
    rw [hnone] at hend
    cases hend

/-! ## The invariant of the configuration -/

theorem slot_setSlot (u : UsbDdkInterface) (k j : Nat) (desc : UsbDdkInterfaceDescriptor) :
    (u.setSlot k desc).slot j = u.slot j ∨ k = j ∧ (u.setSlot k desc).slot j = desc := by
  cases h : u.altsetting with
  | none => exact .inl (by simp [UsbDdkInterface.slot, UsbDdkInterface.setSlot, h])
  | some slots =>
    simp only [UsbDdkInterface.slot, UsbDdkInterface.setSlot, h, Option.map_some, Option.getD_some,
      List.getD_eq_getElem?_getD, List.getElem?_set]
    split
    · rename_i hkj
      split
      · exact .inr ⟨hkj, rfl⟩
      · rename_i hge
        exact .inl (by rw [← hkj, List.getElem?_eq_none (Nat.not_lt.mp hge)])
    · exact .inl rfl

/-- The pointers of a slot are null. -/
structure Unowned (desc : UsbDdkInterfaceDescriptor) : Prop where
  extra : desc.extra = none
  endPoint : desc.endPoint = none

theorem Unowned.counted {desc : UsbDdkInterfaceDescriptor} (h : Unowned desc) :
    EndpointsCounted desc := by
  intro endPoint hend
  rw [h.endPoint] at hend
  cases hend

/-- Slots behind the count and endpoints behind their count own nothing, and no owning pointer was
overwritten. -/
structure Tidy (st : ConfigLoop) : Prop where
  fresh : ∀ i k, (st.iface i).numAltsetting.toNat ≤ k → Unowned ((st.iface i).slot k)
  endpoints : ∀ i k, EndpointsCounted ((st.iface i).slot k)
  lost : ∀ k, .lost k ∉ st.events

section
variable {origin : Cursor} {st st' : ConfigLoop}

theorem slot_of_zero {u : UsbDdkInterface} (h : ∀ desc ∈ u.altsetting.getD [], desc = {}) (k : Nat) :
    u.slot k = {} := by
  rw [UsbDdkInterface.slot, List.getD_eq_getElem?_getD]
  cases hk : (u.altsetting.getD [])[k]? with
  | none => rfl
  | some desc => exact h desc (List.mem_of_getElem? hk)

theorem slot_entryState (origin : Cursor) (i k : Nat) :
    ((entryState origin).iface i).slot k = {} := by
  refine slot_of_zero (fun desc hdesc => ?_) k
  rw [ConfigLoop.iface, entryState] at hdesc
  simp only [allocateInterfaces, Option.getD_some, List.getD_eq_getElem?_getD,
    List.getElem?_map] at hdesc
  cases hi : (getInterfaceNumber origin).2[i]? with
  | none => simp [hi] at hdesc
  | some j =>
    rw [hi] at hdesc
    exact (List.mem_replicate.mp hdesc).2

theorem tidy_entryState (origin : Cursor) : Tidy (entryState origin) where
  fresh i k _ := by
    rw [slot_entryState]
    exact ⟨rfl, rfl⟩
  endpoints i k := by
    rw [slot_entryState]
    exact Unowned.counted ⟨rfl, rfl⟩
  lost _ := nofun

/-- A slot that owns nothing still owns nothing once a descriptor has been copied over its
header. -/
theorem Tidy.unowned_desc (h : Tidy st) (i : Nat) : Unowned (st.turn i).desc :=
  ⟨(h.fresh i _ (Nat.le_refl _)).extra, (h.fresh i _ (Nat.le_refl _)).endPoint⟩

theorem Tidy.reject (h : Tidy st) (i : Nat) : Tidy (st.put i (st.turn i).written) := by
  have hslot : ∀ j k, ((st.put i (st.turn i).written).iface j).slot k = (st.iface j).slot k ∨
      Unowned (((st.put i (st.turn i).written).iface j).slot k) := by
    intro j k
    rcases iface_put st i j (st.turn i).written with heq | ⟨rfl, heq⟩
    · exact .inl (by rw [heq])
    · rw [heq]
      rcases slot_setSlot (st.iface i) (st.turn i).target k (st.turn i).desc with hs | ⟨-, hs⟩
      · exact .inl hs
      · exact .inr (hs ▸ h.unowned_desc i)
  refine ⟨fun j k hk => ?_, fun j k => ?_, fun k hk => ?_⟩
  · rcases hslot j k with heq | hun
    · rw [heq]
      refine h.fresh j k ?_
      rcases iface_put st i j (st.turn i).written with hif | ⟨rfl, hif⟩
      · rwa [hif] at hk
      · rw [hif] at hk
        exact hk
    · exact hun
  · rcases hslot j k with heq | hun
    · rw [heq]
      exact h.endpoints j k
    · exact hun.counted
  · rw [events_written] at hk
    rcases List.mem_append.mp hk with hk | hk
    · exact h.lost k hk
    · cases List.mem_singleton.mp hk

theorem Tidy.accept (h : Tidy st) (hv : st.cursor.Valid) {i : Nat}
    (hlt : (st.iface i).numAltsetting.toNat < usbMaxAltSetting) :
    Tidy (st.put i (st.turn i).accepted) := by
  have hdesc := h.unowned_desc i
  have hcounted : EndpointsCounted (st.turn i).endpoints.2.1 := by
    refine parseInterfaceEndpoint_counted _ ?_ rfl
    have hc : (st.turn i).afterHeader.Valid := hv.advance (Int.natCast_nonneg _)
    exact hc.advance (findNextDescriptor_nonneg hc.inBounds)
  have hnum := numAltsetting_accepted (t := st.turn i) hlt
  refine ⟨fun j k hk => ?_, fun j k => ?_, fun k hk => ?_⟩
  · rcases iface_put st i j (st.turn i).accepted with heq | ⟨rfl, heq⟩
    · rw [heq] at hk ⊢
      exact h.fresh j k hk
    · rw [heq] at hk ⊢
      rw [hnum] at hk
      have hk' : (st.iface i).numAltsetting.toNat < k := hk
      rcases slot_setSlot { st.iface i with numAltsetting := (st.iface i).numAltsetting + 1 }
        (st.turn i).target k (st.turn i).endpoints.2.1 with hs | ⟨hkk, -⟩
      · exact (congrArg Unowned hs).mpr (h.fresh i k (Nat.le_of_lt hk'))
      · exact absurd hkk (Nat.ne_of_lt hk')
  · rcases iface_put st i j (st.turn i).accepted with heq | ⟨rfl, heq⟩
    · rw [heq]
      exact h.endpoints j k
    · rw [heq]
      rcases slot_setSlot { st.iface i with numAltsetting := (st.iface i).numAltsetting + 1 }
        (st.turn i).target k (st.turn i).endpoints.2.1 with hs | ⟨-, hs⟩
      · exact (congrArg EndpointsCounted hs).mpr (h.endpoints i k)
      · exact (congrArg EndpointsCounted hs).mpr hcounted
  · have hevents : (st.put i (st.turn i).accepted).events = st.events ++ ([st.write i] ++ []) := by
      simp only [ConfigLoop.put, InterfaceLoop.accepted, hdesc.extra, hdesc.endPoint]
      rfl
    rw [hevents, List.append_nil] at hk
    rcases List.mem_append.mp hk with hk | hk
    · exact h.lost k hk
    · cases List.mem_singleton.mp hk

/-- While the writes are in range, the parser stays tidy. -/
theorem EntryTrace.tidy (ho : origin.Valid) (h : EntryTrace origin st)
    (hrange : ∀ e ∈ st.events, e.InRange) : Tidy st := by
  have hinv := Trace.invariant (P := fun st => EntryTrace origin st ∧
    ((∀ e ∈ st.events, e.InRange) → Tidy st)) (fun {st st'} ⟨htrace, hst⟩ hstep => ?_) h
    ⟨.refl, fun _ => tidy_entryState origin⟩
  · exact hinv.2 hrange
  refine ⟨htrace.tail hstep, fun hrange => ?_⟩
  obtain ⟨es, hes⟩ := hstep.events_mono
  have htidy := hst fun e he => hrange e (hes ▸ List.mem_append_left es he)
  cases hstep with
  | extras =>
    refine ⟨fun i k hk => ?_, fun i k => ?_, fun k => ?_⟩
    · rw [iface_skipped] at hk ⊢
      exact htidy.fresh i k hk
    · rw [iface_skipped]
      exact htidy.endpoints i k
    · rw [events_skipped]
      exact htidy.lost k
  | reject i => exact htidy.reject i
  | accept i hnum =>
    obtain ⟨lost, -, hevents⟩ := events_accepted st i
    have hin : (st.iface i).numAltsetting.toNat < (st.iface i).slots :=
      hrange (st.write i) (hevents ▸ List.mem_append_right _ List.mem_cons_self)
    rw [htrace.slots ho hnum] at hin
    exact htidy.accept ((htrace.fromOrigin ho).valid ho)
      (Nat.lt_of_lt_of_le hin (Nat.min_le_left _ _))
  | jump => exact ⟨htidy.fresh, htidy.endpoints, htidy.lost⟩

/-- The arrays of a configuration: one interface for each count, each with an array of at most 128
slots. -/
structure Shaped (config : UsbDdkConfigDescriptor) : Prop where
  interface : ∃ us, config.interface = some us ∧
    us.length = config.configDescriptor.bNumInterfaces.toNat ∧
    ∀ u ∈ us, u.altsetting.isSome = true ∧ u.slots ≤ usbMaxAltSetting

theorem Shaped.setInterface {config : UsbDdkConfigDescriptor} (h : Shaped config) (i : Nat)
    {u : UsbDdkInterface} (hu : u.altsetting.isSome = true ∧ u.slots ≤ usbMaxAltSetting) :
    Shaped (config.setInterface i u) := by
  obtain ⟨us, hus, hlen, hall⟩ := h.interface
  refine ⟨us.set i u, by rw [UsbDdkConfigDescriptor.setInterface, hus]; rfl,
    by rw [List.length_set, hlen]; rfl, fun u' hu' => ?_⟩
  rcases List.mem_or_eq_of_mem_set hu' with hmem | rfl
  · exact hall u' hmem
  · exact hu

theorem shaped_entryState (ho : origin.Valid) : Shaped (entryState origin).config := by
  have hcounts := counts_getInterfaceNumber ho.inBounds
  refine ⟨_, rfl, ?_, fun u hu => ?_⟩
  · have hlen := hcounts.length_le
    simp only [usbMaxInterfaces] at hlen
    rw [length_allocateInterfaces, hcounts.length]
    exact (Nat.mod_eq_of_lt (by omega)).symm
  · obtain ⟨j, -, rfl⟩ := List.mem_map.mp hu
    refine ⟨rfl, ?_⟩
    rw [UsbDdkInterface.slots, Option.getD_some, List.length_replicate]
    exact Nat.min_le_right _ _

theorem isSome_setSlot (u : UsbDdkInterface) (k : Nat) (desc : UsbDdkInterfaceDescriptor) :
    (u.setSlot k desc).altsetting.isSome = u.altsetting.isSome := by
  cases h : u.altsetting <;> simp [UsbDdkInterface.setSlot, h]

theorem EntryTrace.shaped (ho : origin.Valid) (h : EntryTrace origin st) : Shaped st.config := by
  have hinv := Trace.invariant (P := fun st => EntryTrace origin st ∧ Shaped st.config)
    (fun {st st'} ⟨htrace, hst⟩ hstep => ⟨htrace.tail hstep, ?_⟩) h
    ⟨.refl, shaped_entryState ho⟩
  · exact hinv.2
  have hiface : ∀ i, st.Numbered (getInterfaceNumber origin).1 i →
      (st.iface i).altsetting.isSome = true ∧ (st.iface i).slots ≤ usbMaxAltSetting := by
    intro i hnum
    obtain ⟨us, hus, -, hall⟩ := hst.interface
    have hi := htrace.lt_length ho hnum
    rw [hus, Option.getD_some] at hi
    rw [ConfigLoop.iface, hus, Option.getD_some, List.getD_eq_getElem _ _ hi]
    exact hall _ (List.getElem_mem hi)
  cases hstep with
  | extras =>
    obtain ⟨us, hus, hlen, hall⟩ := hst.interface
    refine ⟨us, (skipped_interface st).trans hus, ?_, hall⟩
    rw [ConfigLoop.skipped]
    split <;> exact hlen
  | reject i hnum =>
    refine hst.setInterface i ⟨?_, ?_⟩
    · exact (isSome_setSlot _ _ _).trans (hiface i hnum).1
    · exact (slots_written _).trans_le (hiface i hnum).2
  | accept i hnum =>
    refine hst.setInterface i ⟨?_, ?_⟩
    · exact (isSome_setSlot _ _ _).trans (hiface i hnum).1
    · exact (slots_accepted _).trans_le (hiface i hnum).2
  | jump => exact hst

/-- Freeing a configuration that the parser built within its slots deletes exactly the blocks it
owns. -/
theorem EntryTrace.free_eq_owned (ho : origin.Valid) (h : EntryTrace origin st)
    (hrange : ∀ e ∈ st.events, e.InRange) :
    freeUsbConfigDescriptor st.config = ownedConfig st.config := by
  obtain ⟨us, hus, hlen, hall⟩ := (h.shaped ho).interface
  have htidy := h.tidy ho hrange
  rw [freeUsbConfigDescriptor, rawClearConfiguration, ownedConfig, hus]
  dsimp only
  rw [← hlen]
  congr 4
  funext i
  have hiface : us.getD i {} = st.iface i := by rw [ConfigLoop.iface, hus, Option.getD_some]
  have hle := h.numAltsetting_le hrange i
  have hslots : (st.iface i).slots ≤ usbMaxAltSetting := by
    rw [← hiface]
    by_cases hi : i < us.length
    · rw [List.getD_eq_getElem _ _ hi]
      exact (hall _ (List.getElem_mem hi)).2
    · rw [List.getD_eq_default _ _ (Nat.not_lt.mp hi)]
      exact Nat.zero_le _
  rw [hiface, clearInterface, if_neg (Nat.not_lt.mpr (hle.trans hslots)), clearInterfaceReads,
    if_neg (Nat.not_lt.mpr (hle.trans hslots)), ownedInterface]
  congr 1
  rw [flatMap_range_of_le hle fun k hk => ?_]
  · refine congrArg (fun f => List.flatMap f _) (funext fun k => ?_)
    exact clearAltSetting_eq_owned (htidy.endpoints i k) i k
  · have hun := htidy.fresh i k hk
    rw [ownedAltSetting, hun.extra, hun.endPoint]
    rfl

end

end ExtDevMgr.Usb
