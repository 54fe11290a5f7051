import Mathlib.Data.List.Forall2
import Mathlib.Data.List.Induction
import ExtDevMgr.Usb.Outcome
import ExtDevMgr.Usb.Settings

/-!
# The counting pass and the parsing pass

`GetInterfaceNumber` walks over the records by their lengths, and the parser attributes them to
interfaces by its own rules. In a vector shorter than the value of an error code, in which no number
has more than 128 interface descriptors, a result of zero means that the two agree: the interface
array lists the numbers in order of first appearance, each with its own descriptors
(`agrees_of_zero`).
-/

namespace ExtDevMgr.Usb
open Records

/-- The numbers of the interface descriptors, in order of first appearance. -/
def interfaceNumbers (rs : List (List UInt8)) : List UInt8 :=
  ((rs.filter fun r => isInterface (byteAt r 2) r).map (byteAt · 2)).eraseDups

/-- The settings of number `x` are those that `settingsOf` finds in the records. -/
structure Holds (settingsOf : UInt8 → List (List UInt8) → List UsbInterfaceDescriptor)
    (rs : List (List UInt8)) (x : UInt8) (u : UsbDdkInterface) : Prop where
  num : u.numAltsetting.toNat = rs.countP (isInterface x)
  pos : 1 ≤ u.numAltsetting.toNat
  altsetting : ∃ slots, u.altsetting = some slots ∧
    slots.map (·.interfaceDescriptor) = settingsOf x rs

/-- The interface array lists the numbers of the vector and holds the settings that `settingsOf`
finds for each of them. -/
structure Lists (settingsOf : UInt8 → List (List UInt8) → List UsbInterfaceDescriptor)
    (rs : List (List UInt8)) (config : UsbDdkConfigDescriptor) : Prop where
  full : ∀ r ∈ rs, byteAt r 1 = usbDdkDtInterface → 9 ≤ len r
  interface : ∃ us, config.interface = some us ∧
    us.length = config.configDescriptor.bNumInterfaces.toNat ∧
    List.Forall₂ (Holds settingsOf rs) (interfaceNumbers rs) us

/-- The parser assigns a configuration that lists the settings, and `GetInterfaceDescriptor` adds the
first setting of each number, none of them zeroed, to the list of the caller. -/
structure PassesAgree (settingsOf : UInt8 → List (List UInt8) → List UsbInterfaceDescriptor)
    (configBuffer : List UInt8) (outcome : ParseOutcome) : Prop where
  lists : ∃ config, outcome.config = some config ∧ Lists settingsOf (records configBuffer) config
  reports : ∀ fuel edmErrOffset interfaceList,
    parseUsbConfigDescriptor fuel configBuffer = some outcome →
    ∃ reported, getInterfaceDescriptor fuel edmErrOffset (some edmOk)
        (some { ret := edmOk, descriptor := configBuffer }) interfaceList =
          some (edmOk, interfaceList ++ reported) ∧
      List.Forall₂ (fun x d => (settingsOf x (records configBuffer)).head? = some d ∧ d ≠ {})
        (interfaceNumbers (records configBuffer)) reported

/-! ## Order of first appearance -/

section
variable {rs : List (List UInt8)} {r : List UInt8} {x : UInt8}

theorem mem_interfaceNumbers : x ∈ interfaceNumbers rs ↔ ∃ r ∈ rs, isInterface x r = true := by
  simp only [interfaceNumbers, List.mem_eraseDups, List.mem_map, List.mem_filter]
  constructor
  · rintro ⟨r, ⟨hmem, hr⟩, rfl⟩
    exact ⟨r, hmem, hr⟩
  · rintro ⟨r, hmem, hr⟩
    have hx := (isInterface_iff.mp hr).2.2
    exact ⟨r, ⟨hmem, hx.symm ▸ hr⟩, hx⟩

theorem interfaceNumbers_concat (rs : List (List UInt8)) (r : List UInt8) :
    interfaceNumbers (rs ++ [r]) =
      if isInterface (byteAt r 2) r = true ∧ byteAt r 2 ∉ interfaceNumbers rs then
        interfaceNumbers rs ++ [byteAt r 2] else interfaceNumbers rs := by
  rw [interfaceNumbers, List.filter_append, List.map_append, List.eraseDups_append]
  rw [← interfaceNumbers, List.filter_singleton]
  cases hr : isInterface (byteAt r 2) r with
  | false => simp [List.removeAll]
  | true =>
    have hmem : byteAt r 2 ∈ (rs.filter fun r => isInterface (byteAt r 2) r).map (byteAt · 2) ↔
        byteAt r 2 ∈ interfaceNumbers rs := List.mem_eraseDups.symm
    by_cases hx : byteAt r 2 ∈ interfaceNumbers rs
    · simp [List.removeAll, hmem, hx]
    · simp [List.removeAll, hmem, hx, List.eraseDups_cons]

theorem countRecord_fst (nums : List UInt8 × List UInt8) (r : List UInt8) :
    (countRecord nums r).1 =
      if (isInterface (byteAt r 2) r = true ∧ byteAt r 2 ∉ nums.1) ∧
        nums.1.length < usbMaxInterfaces then nums.1 ++ [byteAt r 2] else nums.1 := by
  have hiff : isInterface (byteAt r 2) r = true ↔
      byteAt r 1 = usbDdkDtInterface ∧ ¬ ((byteAt r 0).toNat : Int) < usbDdkDtInterfaceSize := by
    rw [isInterface_iff, Int.not_lt]
    exact ⟨fun ⟨htype, hlen, _⟩ => ⟨htype, Int.ofNat_le.mpr hlen⟩,
      fun ⟨htype, hlen⟩ => ⟨htype, Int.ofNat_le.mp hlen, rfl⟩⟩
  obtain ⟨numbers, counts⟩ := nums
  rw [countRecord]
  split
  · rename_i htype
    rw [getInterfaceNumberDes]
    dsimp only
    split
    · rename_i hshort
      rw [if_neg fun hc => (hiff.mp hc.1.1).2 hshort]
    · rename_i hlen
      have hr := hiff.mpr ⟨htype, hlen⟩
      split
      · rename_i i hi
        obtain ⟨hlt, hx, -⟩ := List.findIdx?_eq_some_iff_getElem.mp hi
        have hmem : byteAt r 2 ∈ numbers := of_decide_eq_true hx ▸ List.getElem_mem hlt
        have hlisted : ¬ ((isInterface (byteAt r 2) r = true ∧ byteAt r 2 ∉ numbers) ∧
            numbers.length < usbMaxInterfaces) := fun hc => hc.1.2 hmem
        rw [if_neg hlisted]
        split <;> rfl
      · rename_i hnone
        have hx : byteAt r 2 ∉ numbers := fun hmem =>
          of_decide_eq_false (List.findIdx?_eq_none_iff.mp hnone _ hmem) rfl
        simp only [hr, hx, not_false_eq_true, and_self, true_and]
        split <;> rfl
  · rename_i htype
    rw [if_neg fun hc => htype (hiff.mp hc.1.1).1]

/-- Until its list is full, the counting pass lists the numbers. -/
theorem foldl_countRecord_fst (rs : List (List UInt8))
    (h : (rs.foldl countRecord ([], [])).1.length < usbMaxInterfaces) :
    (rs.foldl countRecord ([], [])).1 = interfaceNumbers rs := by
  induction rs using List.reverseRecOn with
  | nil => rfl
  | append_singleton rs r ih =>
    rw [List.foldl_concat, countRecord_fst] at h ⊢
    have hprev : (rs.foldl countRecord ([], [])).1.length < usbMaxInterfaces := by
      refine Nat.lt_of_le_of_lt ?_ h
      split
      · rw [List.length_append]
        exact Nat.le_add_right _ _
      · exact Nat.le_refl _
    rw [ih hprev, interfaceNumbers_concat]
    simp only [← ih hprev, hprev, and_true]

end

/-! ## A result of zero -/

section
variable {origin : Cursor} {b : ConfigResult} {rs : List (List UInt8)} {x : UInt8}

/-- Where no interface descriptor is walked over, no number is listed. -/
theorem not_accepts_of_behind {c : Cursor} (ho : origin.Valid) (h : origin.Skips rs c)
    (hsize : c.size ≤ 0) (hrs : ∀ r ∈ rs, byteAt r 1 ≠ usbDdkDtInterface) :
    ¬ AcceptsHeader origin := by
  refine fun ha => ha.counted ?_
  rw [getInterfaceNumber_eq ho.inBounds, h.records, Cursor.bytes_of_neg hsize, records_nil,
    List.append_nil, foldl_countRecord_of_ne _ hrs]

/-- The list of numbers is not full when the first turn resolves. -/
theorem TurnResolves.length_lt (ho : origin.Valid) (ha : AcceptsHeader origin)
    (h : TurnResolves (getInterfaceNumber origin).1 (entryState origin)) :
    (getInterfaceNumber origin).1.length < usbMaxInterfaces := by
  obtain ⟨hskip, hbehind⟩ := skips_entryState ho ha
  have hsingle := h.single
  by_cases hsize : 2 ≤ (entryState origin).cursor.size
  · by_cases hrest : 2 < (entryState origin).skipped.cursor.size
    · exact (h.number hsize hrest).1
    · obtain ⟨h1, h2⟩ := h.rest hsize
      rw [ConfigLoop.cursor_skipped] at h1 h2 hrest
      refine absurd ha (not_accepts_of_behind ho (hskip.trans (skips_extras hskip.inBounds).1)
        (by omega) (List.forall_mem_append.mpr ⟨hbehind, fun r hr => ?_⟩))
      exact not_interface_of_isExtra (isExtra_of_mem_extras hr)
  · exact absurd ha (not_accepts_of_behind ho hskip (by omega) hbehind)

/-- A result of zero leaves the parser behind the last byte. -/
theorem exists_trace_of_zero (ho : origin.Valid) (ha : AcceptsHeader origin)
    (h : Loop.Returns (loopBody origin) (entryState origin) b) (hret : b.ret = 0) :
    ∃ st, EntryTrace origin st ∧ st.config = b.config ∧ st.cursor.size = 0 := by
  obtain ⟨st, hreach, hexit⟩ := Loop.returns_iff.mp h
  rcases ReachedFrom.exit ho ⟨ha, hreach⟩ hexit with ⟨-, st', htrace, rfl⟩ | ⟨-, herr⟩
  · exact ⟨st', htrace, rfl, hret⟩
  · rcases herr with hparam | hneg
    · exact absurd (hret.symm.trans hparam) (by decide)
    · exact absurd hret (Int.ne_of_lt hneg)

theorem Filled.holds {u : UsbDdkInterface} (h : Filled rs u x)
    (hsome : u.altsetting.isSome = true) (hslots : u.slots = u.numAltsetting.toNat)
    (hx : x ∈ interfaceNumbers rs) : Holds settings rs x u where
  num := h.num
  pos := by
    rw [h.num]
    exact List.countP_pos_iff.mpr (mem_interfaceNumbers.mp hx)
  altsetting := by
    obtain ⟨slots, hu⟩ := Option.isSome_iff_exists.mp hsome
    refine ⟨slots, hu, ?_⟩
    have hsettled := h.settled
    rw [UsbDdkInterface.slots, hu, Option.getD_some] at hslots
    rwa [hu, Option.getD_some, ← hslots, List.take_length] at hsettled

/-- The configuration of a result of zero lists the lowered settings. -/
theorem lists_of_zero (ho : origin.Valid) (hsmall : origin.size < usbDdkInvalidOperation)
    (hcount : ∀ x, (records origin.bytes).countP (isInterface x) ≤ usbMaxAltSetting)
    (ha : AcceptsHeader origin) (h : Loop.Returns (loopBody origin) (entryState origin) b)
    (hret : b.ret = 0) : Lists settings (records origin.bytes) b.config := by
  obtain ⟨st, htrace, hconfig, hsize⟩ := exists_trace_of_zero ho ha h hret
  obtain ⟨before, hskip, hfull, hfilled⟩ :=
    (htrace.allFilled ho hsmall hcount ha).resolve_left (by omega)
  have hrec : records origin.bytes = before := by
    rw [hskip.records, Cursor.bytes_of_neg (Int.le_of_eq hsize), records_nil, List.append_nil]
  have hturns := (turns_resolve_iff ho ha h).1.mpr (Int.le_of_eq hret)
  have hroom := (hturns _ ⟨ha, .refl⟩).length_lt ho ha
  have hnums : (getInterfaceNumber origin).1 = interfaceNumbers before := by
    rw [getInterfaceNumber_eq ho.inBounds, hrec] at hroom ⊢
    exact foldl_countRecord_fst before hroom
  obtain ⟨us, hus, hlen, hall⟩ := (htrace.shaped ho).interface
  rw [hrec, ← hconfig]
  refine ⟨hfull, us, hus, hlen, ?_⟩
  have hlength := htrace.length_interface ho
  rw [hus, Option.getD_some] at hlength
  rw [← hnums]
  refine List.forall₂_iff_get.mpr ⟨hlength.symm, fun i hi hi' => ?_⟩
  have hx := List.getElem?_eq_getElem hi
  have hu : st.iface i = us[i] := by
    rw [ConfigLoop.iface, hus, Option.getD_some, List.getD_eq_getElem _ _ hi']
  have hfill := hfilled i _ hx
  have hslots := htrace.slots ho hx
  have hbound := hcount (getInterfaceNumber origin).1[i]
  rw [hrec, ← hfill.num] at hslots hbound
  rw [hu] at hfill hslots hbound
  refine hfill.holds (hall _ (List.getElem_mem hi')).1 (hslots.trans (Nat.min_eq_right hbound)) ?_
  rw [← hnums]
  exact List.getElem_mem hi

theorem isSome_of_holds {xs : List UInt8} {us : List UsbDdkInterface}
    {settingsOf : UInt8 → List (List UInt8) → List UsbInterfaceDescriptor}
    (h : List.Forall₂ (Holds settingsOf rs) xs us) : ∀ u ∈ us, u.altsetting.isSome = true := by
  induction h with
  | nil => exact nofun
  | cons hu _ ih =>
    obtain ⟨slots, hslots, -⟩ := hu.altsetting
    exact List.forall_mem_cons.mpr ⟨Option.isSome_of_eq_some hslots, ih⟩

theorem bLength_of_mem_settings {d : UsbInterfaceDescriptor} (h : d ∈ settings x rs) :
    9 ≤ d.bLength.toNat := by
  induction rs with
  | nil => cases h
  | cons r rs ih =>
    rw [settings] at h
    split at h
    · rename_i hr
      rcases List.mem_cons.mp h with rfl | h
      · exact (isInterface_iff.mp hr).2.1
      · exact ih h
    · exact ih h

/-- The first setting is the one that `GetInterfaceDescriptor` copies, and it is not zeroed. -/
theorem Holds.head {u : UsbDdkInterface} (h : Holds settings rs x u) :
    (settings x rs).head? = some (u.slot 0).interfaceDescriptor ∧
      (u.slot 0).interfaceDescriptor ≠ {} := by
  obtain ⟨slots, hu, hslots⟩ := h.altsetting
  have hlength := length_settings x rs
  have hpos := h.pos
  rw [h.num, ← hlength] at hpos
  rw [UsbDdkInterface.slot, hu, Option.getD_some]
  cases slots with
  | nil =>
    rw [← hslots] at hpos
    cases hpos
  | cons slot slots =>
    rw [List.map_cons] at hslots
    refine ⟨by rw [← hslots]; rfl, fun hzero => ?_⟩
    have hmem : slot.interfaceDescriptor ∈ settings x rs := hslots ▸ List.mem_cons_self
    have hlen := bLength_of_mem_settings hmem
    have heq : slot.interfaceDescriptor = {} := hzero
    rw [heq] at hlen
    exact absurd hlen (by decide)

end

/-- In vectors of at most 65535 bytes in which no number has more than 128 interface descriptors, the
counting pass and the parsing pass agree whenever the parser returns zero, on the descriptors with
their number of endpoints lowered to the endpoints found. -/
theorem agrees_of_zero (configBuffer : List UInt8) (outcome : ParseOutcome)
    (hlength : configBuffer.length ≤ 65535)
    (hcount : ∀ x, (records configBuffer).countP (isInterface x) ≤ 128)
    (hreturns : ParserReturns configBuffer outcome) (hret : outcome.ret = 0) :
    PassesAgree settings configBuffer outcome := by
  have ho := valid_vectorCursor configBuffer
  have hsize : (vectorCursor configBuffer).size = configBuffer.length :=
    size_vectorCursor_of_lt (by omega)
  have hbytes : (vectorCursor configBuffer).bytes = configBuffer :=
    bytes_vectorCursor_of_lt (by omega)
  have ha := accepts_of_zero hreturns hret
  obtain ⟨result, hresult, rfl⟩ := (parserReturns_of_accepts ha).mp hreturns
  rw [ret_outcomeOf] at hret
  have hconfig : (outcomeOf result).config = some result.config := by
    rw [outcomeOf, if_neg (Int.not_lt.mpr (Int.le_of_eq hret.symm))]
  have hlists := lists_of_zero ho (by rw [hsize]; simp only [usbDdkInvalidOperation]; omega)
    (hbytes.symm ▸ hcount) ha hresult hret
  rw [hbytes] at hlists
  refine ⟨⟨_, hconfig, hlists⟩, fun fuel edmErrOffset interfaceList hfuel => ?_⟩
  obtain ⟨us, hus, hlen, hall⟩ := hlists.interface
  refine ⟨us.map fun u => (u.slot 0).interfaceDescriptor, ?_, ?_⟩
  · rw [getInterfaceDescriptor_parsed _ _ hfuel,
      interfacesOf_of_zero edmErrOffset ((ret_outcomeOf result).trans hret) hconfig hus hlen
        (isSome_of_holds hall)]
  · exact List.forall₂_map_right_iff.mpr (hall.imp fun _ _ hu => hu.head)

/-- A vector with two settings of interface 0. The first declares an endpoint, and no endpoint
descriptor follows it. -/
def twoSettings : List UInt8 :=
  [[9, 2, 27, 0, 1, 1, 0, 128, 50], [9, 4, 0, 0, 1, 255, 0, 0, 0],
    [9, 4, 0, 1, 0, 255, 0, 0, 0]].flatten

theorem records_twoSettings : records twoSettings = [[9, 2, 27, 0, 1, 1, 0, 128, 50],
    [9, 4, 0, 0, 1, 255, 0, 0, 0], [9, 4, 0, 1, 0, 255, 0, 0, 0]] := by
  refine records_flatten fun r hr => ?_
  simp only [List.mem_cons, List.not_mem_nil, or_false] at hr
  rcases hr with rfl | rfl | rfl <;> exact ⟨by decide, by decide⟩

theorem countP_twoSettings (x : UInt8) : (records twoSettings).countP (isInterface x) ≤ 128 := by
  refine Nat.le_trans List.countP_le_length ?_
  rw [records_twoSettings]
  decide

theorem returns_twoSettings : ∃ outcome,
    parseUsbConfigDescriptor 10 twoSettings = some outcome ∧ outcome.ret = 0 := by
  have hrun : (parseUsbConfigDescriptor 10 twoSettings).map (·.ret) = some 0 := by decide +kernel
  exact Option.map_eq_some_iff.mp hrun

/-- The passes agree on the two settings, of which the first is lowered to no endpoints. -/
theorem agrees_of_twoSettings : ∃ outcome, ParserReturns twoSettings outcome ∧
    PassesAgree settings twoSettings outcome := by
  obtain ⟨outcome, hrun, hret⟩ := returns_twoSettings
  exact ⟨outcome, ⟨10, hrun⟩, agrees_of_zero twoSettings outcome (by decide) countP_twoSettings
    ⟨10, hrun⟩ hret⟩

/-- The interface descriptors with number `x`, as they are in the vector. -/
def plainSettings (x : UInt8) (rs : List (List UInt8)) : List UsbInterfaceDescriptor :=
  (rs.filter (isInterface x)).map (UsbInterfaceDescriptor.load · {})

/-- The altsettings are not the descriptors of the vector as they are there. -/
theorem not_forall_passesAgree_plain : ¬ ∀ configBuffer outcome, configBuffer.length ≤ 65535 →
    (∀ x, (records configBuffer).countP (isInterface x) ≤ 128) →
    ParserReturns configBuffer outcome → outcome.ret = 0 →
    PassesAgree plainSettings configBuffer outcome := by
  intro h
  obtain ⟨outcome, hrun, hret⟩ := returns_twoSettings
  have hagree := h twoSettings outcome (by decide) countP_twoSettings ⟨10, hrun⟩ hret
  obtain ⟨reported, hreported, hall⟩ := hagree.reports 10 0 [] hrun
  have hget : (getInterfaceDescriptor 10 0 (some edmOk)
      (some { ret := edmOk, descriptor := twoSettings }) []).map
        (fun reply => reply.2.map (·.bNumEndpoints)) = some [0] := by
    decide +kernel
  rw [hreported, Option.map_some, List.nil_append] at hget
  have hnumbers : interfaceNumbers (records twoSettings) = [0] := by
    rw [records_twoSettings]
    decide +kernel
  have hhead : (plainSettings 0 (records twoSettings)).head?.map (·.bNumEndpoints) = some 1 := by
    rw [records_twoSettings]
    decide +kernel
  rw [hnumbers] at hall
  cases hall with
  | cons hd hrest =>
    cases hrest
    rw [hd.1] at hhead
    obtain ⟨hone, -⟩ := List.cons.inj (Option.some.inj hget)
    exact absurd (hone.symm.trans (Option.some.inj hhead)) (by decide)

end ExtDevMgr.Usb
