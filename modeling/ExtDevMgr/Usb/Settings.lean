import ExtDevMgr.Usb.Slots

/-!
# The descriptors that the parser leaves in its slots

A turn that accepts an interface descriptor reads the records behind it up to the next interface
descriptor, and lowers `bNumEndpoints` to the number of endpoint descriptors that it finds. While the
parser stays on the walk of the counting pass, the counted slots of an interface hold the interface
descriptors of its number in this way, in order (`Filled`).
-/

namespace ExtDevMgr.Usb
open Records

def isEndpoint (r : List UInt8) : Bool := decide (byteAt r 1 = usbDdkDtEndpoint)

/-- Any other record than one of the type of interface descriptors. -/
def isBehind (r : List UInt8) : Bool := decide (byteAt r 1 ≠ usbDdkDtInterface)

/-- The interface descriptor `r`, with `bNumEndpoints` lowered to the number of endpoint descriptors
among the records `rs` behind it. -/
def lowered (r : List UInt8) (rs : List (List UInt8)) : UsbInterfaceDescriptor :=
  { UsbInterfaceDescriptor.load r {} with
    bNumEndpoints :=
      if rs.countP isEndpoint < (byteAt r 4).toNat then UInt8.ofNat (rs.countP isEndpoint)
      else byteAt r 4 }

/-- The interface descriptors with number `x`, each lowered to the endpoint descriptors up to the
next interface descriptor. -/
def settings (x : UInt8) : List (List UInt8) → List UsbInterfaceDescriptor
  | [] => []
  | r :: rs => if isInterface x r then lowered r (rs.takeWhile isBehind) :: settings x rs
      else settings x rs

/-! ## Records appended -/

section
variable {x : UInt8} {r : List UInt8} {rs bs : List (List UInt8)}

theorem isInterface_eq_false (h : byteAt r 1 ≠ usbDdkDtInterface) : isInterface x r = false :=
  Bool.eq_false_iff.mpr fun hr => h (isInterface_iff.mp hr).1

theorem not_endpoint_of_isExtra (h : isExtra r = true) : isEndpoint r = false := by
  simp only [isExtra, Bool.and_eq_true, Bool.not_eq_true', decide_eq_false_iff_not] at h
  exact decide_eq_false h.2

theorem lowered_congr (h : rs.countP isEndpoint = bs.countP isEndpoint) :
    lowered r rs = lowered r bs := by
  rw [lowered, lowered, h]

theorem takeWhile_isBehind (h : ∀ r ∈ rs, byteAt r 1 ≠ usbDdkDtInterface) :
    rs.takeWhile isBehind = rs :=
  List.takeWhile_eq_self_iff.mpr fun r hr => decide_eq_true (h r hr)

theorem takeWhile_append_interface (h : byteAt r 1 = usbDdkDtInterface) :
    (bs ++ r :: rs).takeWhile isBehind = bs.takeWhile isBehind := by
  have hr : isBehind r = false := decide_eq_false (not_not_intro h)
  induction bs with
  | nil => rw [List.nil_append, List.takeWhile_cons, hr, List.takeWhile_nil]; rfl
  | cons b bs ih => rw [List.cons_append, List.takeWhile_cons, List.takeWhile_cons, ih]

theorem countP_takeWhile_append (h : ∀ r ∈ rs, isExtra r = true) :
    ((bs ++ rs).takeWhile isBehind).countP isEndpoint =
      (bs.takeWhile isBehind).countP isEndpoint := by
  induction bs with
  | nil =>
    rw [List.nil_append, List.takeWhile_nil,
      takeWhile_isBehind fun r hr => not_interface_of_isExtra (h r hr)]
    exact List.countP_eq_zero.mpr fun r hr => by simp [not_endpoint_of_isExtra (h r hr)]
  | cons b bs ih =>
    rw [List.cons_append, List.takeWhile_cons, List.takeWhile_cons]
    split
    · rw [List.countP_cons, List.countP_cons, ih]
    · rfl

theorem settings_append_interface (h : byteAt r 1 = usbDdkDtInterface) :
    settings x (bs ++ r :: rs) = settings x bs ++ settings x (r :: rs) := by
  induction bs with
  | nil => rfl
  | cons b bs ih =>
    rw [List.cons_append, settings, settings, ih, takeWhile_append_interface h]
    split
    · rfl
    · rfl

theorem settings_of_behind (h : ∀ r ∈ rs, byteAt r 1 ≠ usbDdkDtInterface) : settings x rs = [] := by
  induction rs with
  | nil => rfl
  | cons r rs ih =>
    obtain ⟨hr, hrs⟩ := List.forall_mem_cons.mp h
    rw [settings, isInterface_eq_false hr, if_neg Bool.false_ne_true, ih hrs]

theorem settings_append_extras (h : ∀ r ∈ rs, isExtra r = true) :
    settings x (bs ++ rs) = settings x bs := by
  induction bs with
  | nil => exact settings_of_behind fun r hr => not_interface_of_isExtra (h r hr)
  | cons b bs ih =>
    rw [List.cons_append, settings, settings, ih, lowered_congr (countP_takeWhile_append h)]

/-- An interface descriptor and the records up to the next one. -/
theorem settings_segment (h : ∀ r ∈ rs, byteAt r 1 ≠ usbDdkDtInterface) :
    settings x (r :: rs) = if isInterface x r then [lowered r rs] else [] := by
  rw [settings, takeWhile_isBehind h, settings_of_behind h]

theorem length_settings (x : UInt8) (rs : List (List UInt8)) :
    (settings x rs).length = rs.countP (isInterface x) := by
  induction rs with
  | nil => rfl
  | cons r rs ih =>
    rw [settings, List.countP_cons, ← ih]
    split
    · rfl
    · rfl

end

/-! ## Endpoints -/

/-- `c'` is `c` moved past the records `rs`, none of them an interface descriptor, or an error code has
been taken for a length. -/
def Finds (c : Cursor) (n : Nat) (c' : Cursor) : Prop :=
  (∃ rs, c.Skips rs c' ∧ (∀ r ∈ rs, byteAt r 1 ≠ usbDdkDtInterface) ∧ rs.countP isEndpoint = n) ∨
    c'.size + usbDdkInvalidOperation ≤ c.size

theorem Finds.refl {c : Cursor} (h : c.InBounds) : Finds c 0 c :=
  .inl ⟨[], .refl h, nofun, rfl⟩

theorem Finds.trans {c c' c'' : Cursor} {n m : Nat} (h : Finds c n c') (h' : Finds c' m c'')
    (hle : c'.size ≤ c.size) (hle' : c''.size ≤ c'.size) : Finds c (n + m) c'' := by
  rcases h with ⟨rs, hskip, hrs, rfl⟩ | hjump
  · rcases h' with ⟨rs', hskip', hrs', rfl⟩ | hjump'
    · refine .inl ⟨rs ++ rs', hskip.trans hskip', ?_, List.countP_append⟩
      exact List.forall_mem_append.mpr ⟨hrs, hrs'⟩
    · exact .inr (Int.le_trans hjump' hle)
  · exact .inr (Int.le_trans (Int.add_le_add_right hle' _) hjump)

theorem finds_extras {c : Cursor} (h : c.InBounds) :
    Finds c 0 (c.advance (findNextDescriptor c)) := by
  refine .inl ⟨_, (skips_extras h).1, ?_, ?_⟩
  · exact fun r hr => not_interface_of_isExtra (isExtra_of_mem_extras hr)
  · refine List.countP_eq_zero.mpr fun r hr => ?_
    rw [not_endpoint_of_isExtra (isExtra_of_mem_extras hr)]
    exact Bool.false_ne_true

/-- A call of `ParseEndpoint` finds one endpoint descriptor, or none where it returns zero. -/
theorem EndpointCall.finds {c : Cursor} {result : Int × UsbDdkEndpointDescriptor}
    (h : c.Valid) (hcall : EndpointCall c result) :
    Finds c (if result.1 = 0 then 0 else 1) (c.advance result.1) := by
  have hjump : Finds c 1 (c.advance usbDdkInvalidOperation) := by
    refine .inr (Int.le_of_eq ?_)
    simp only [Cursor.advance, Int.sub_add_cancel]
  cases hcall with
  | short => exact hjump
  | stray =>
    rw [c.advance_zero]
    exact .refl h.inBounds
  | malformed => exact hjump
  | parsed rs hc htype hlen hrs =>
    obtain ⟨h1, -, h3⟩ := (Cursor.complete_bytes h.inBounds).mp hc
    have hhead := Cursor.skips_head h.inBounds hc
    have hheadtype : byteAt c.head 1 = usbDdkDtEndpoint := by
      rw [Cursor.byteAt_head (by omega) h3, htype]
    have hone : Finds c 1 (c.advance (byteAt c.buffer 0).toNat) := by
      refine .inl ⟨[c.head], hhead, ?_, ?_⟩
      · intro r hr
        rw [List.mem_singleton.mp hr, hheadtype]
        decide
      · rw [List.countP_singleton, isEndpoint, hheadtype]
        rfl
    have hextras := skips_extras hhead.inBounds
    have hlength : (c.head :: rs).flatten.length ≠ 0 := by
      rw [List.flatten_cons, List.length_append, Cursor.length_head h.inBounds h3]
      omega
    rw [if_neg (Int.natCast_ne_zero.mpr hlength), hrs]
    have heq := (hhead.trans hextras.1).eq
    rw [List.singleton_append] at heq
    rw [← heq]
    refine hone.trans (finds_extras hhead.inBounds) ?_ ?_
    · exact Int.sub_le_self _ (Int.natCast_nonneg _)
    · exact Int.sub_le_self _ (findNextDescriptor_nonneg hhead.inBounds)

theorem parseEndpoints_finds {n i : Nat} {st : EndpointLoop} (h : st.cursor.Valid)
    (hnum : st.bNumEndpoints.toNat = i + n) (fresh : ∀ j, i ≤ j → st.endPoint.getD j {} = {}) :
    ∃ m ≤ n, (parseEndpoints n i st).bNumEndpoints.toNat = i + m ∧
      (parseEndpoints n i st).cursor.size ≤ st.cursor.size ∧
      Finds st.cursor m (parseEndpoints n i st).cursor := by
  induction n generalizing i st with
  | zero => exact ⟨0, Nat.le_refl 0, hnum, Int.le_refl _, .refl h.inBounds⟩
  | succ n ih =>
    have hcall := parseEndpoint_call h
    obtain ⟨hnonneg, hpass⟩ := hcall.passes h
    have hfinds := hcall.finds h
    simp only [parseEndpoints, fresh i (Nat.le_refl i)]
    split
    · have hi : i < 256 := by
        have := st.bNumEndpoints.toNat_lt
        omega
      exact ⟨0, Nat.zero_le _, Nat.mod_eq_of_lt hi, Int.le_refl _, .refl h.inBounds⟩
    · rename_i hne
      rw [if_neg hne] at hfinds
      split
      · rename_i hneg
        exact absurd hnonneg (Int.not_le.mpr hneg)
      · obtain ⟨m, hm, hnum', hle, hrest⟩ := @ih (i + 1) { st with
          ret := (parseEndpoint {} st.cursor).1
          endPoint := st.endPoint.set i (parseEndpoint {} st.cursor).2
          cursor := st.cursor.advance (parseEndpoint {} st.cursor).1 }
          (hpass.valid h) (by rw [hnum]; omega) (fresh_set _ fresh)
        refine ⟨m + 1, Nat.succ_le_succ hm, by rw [hnum']; omega,
          Int.le_trans hle hpass.size_le, ?_⟩
        rw [Nat.add_comm]
        exact hfinds.trans hrest hpass.size_le hle

theorem parseInterfaceEndpoint_finds (desc : UsbDdkInterfaceDescriptor) {c : Cursor}
    (h : c.Valid) :
    ∃ m ≤ desc.interfaceDescriptor.bNumEndpoints.toNat,
      (parseInterfaceEndpoint desc c).2.1.interfaceDescriptor =
        { desc.interfaceDescriptor with bNumEndpoints := UInt8.ofNat m } ∧
      (parseInterfaceEndpoint desc c).2.2.size ≤ c.size ∧
      Finds c m (parseInterfaceEndpoint desc c).2.2 := by
  rw [parseInterfaceEndpoint]
  split
  · obtain ⟨m, hm, hnum, hle, hfinds⟩ :=
      @parseEndpoints_finds desc.interfaceDescriptor.bNumEndpoints.toNat 0 {
        ret := usbDdkSuccess
        bNumEndpoints := desc.interfaceDescriptor.bNumEndpoints
        endPoint := List.replicate desc.interfaceDescriptor.bNumEndpoints.toNat {}
        cursor := c } h (Nat.zero_add _).symm fun j _ => fresh_replicate _ j
    refine ⟨m, hm, ?_, hle, hfinds⟩
    rw [Nat.zero_add] at hnum
    rw [← hnum, UInt8.ofNat_toNat]
  · rename_i hzero
    refine ⟨0, Nat.zero_le _, ?_, Int.le_refl _, .refl h.inBounds⟩
    have hnum : desc.interfaceDescriptor.bNumEndpoints = UInt8.ofNat 0 :=
      UInt8.toNat_inj.mp (Nat.le_zero.mp (Nat.not_lt.mp hzero))
    rw [← hnum]

theorem InterfaceLoop.Accepts.load_head {t : InterfaceLoop} (ha : t.Accepts) :
    UsbInterfaceDescriptor.load t.cursor.head {} = t.desc.interfaceDescriptor := by
  have hhead := Cursor.bytes_head ha.length ha.length_le
  rw [← UsbInterfaceDescriptor.load_take _ _ (Nat.le_refl 9), hhead,
    UsbInterfaceDescriptor.load_take _ _ (Nat.le_refl 9)]
  rfl

theorem lowered_of_le {r : List UInt8} {rs : List (List UInt8)} {desc : UsbInterfaceDescriptor}
    (hload : desc = UsbInterfaceDescriptor.load r {})
    (hle : rs.countP isEndpoint ≤ desc.bNumEndpoints.toNat) :
    { desc with bNumEndpoints := UInt8.ofNat (rs.countP isEndpoint) } = lowered r rs := by
  subst hload
  rw [lowered]
  split
  · rfl
  · rename_i hge
    have heq : rs.countP isEndpoint = (byteAt r 4).toNat :=
      Nat.le_antisymm hle (Nat.not_lt.mp hge)
    rw [heq, UInt8.ofNat_toNat]

/-- Behind an accepted interface descriptor the parser reads the records up to some place, and its
descriptor is lowered to the endpoint descriptors among them. -/
theorem InterfaceLoop.Accepts.lowered {t : InterfaceLoop} (ha : t.Accepts) (h : t.cursor.Valid) :
    (∃ rs, t.afterHeader.Skips rs t.endpoints.2.2 ∧
        (∀ r ∈ rs, byteAt r 1 ≠ usbDdkDtInterface) ∧
        t.endpoints.2.1.interfaceDescriptor = Usb.lowered t.cursor.head rs) ∨
      t.endpoints.2.2.size + usbDdkInvalidOperation ≤ t.cursor.size := by
  have hafter : t.afterHeader.Valid := h.advance (Int.natCast_nonneg _)
  have hextras := findNextDescriptor_nonneg hafter.inBounds
  obtain ⟨m, hm, hdesc, hle, hfinds⟩ := parseInterfaceEndpoint_finds { t.desc with
    endPoint := none
    extra := extraBlock (extras t.afterHeader)
    extraLength := (extras t.afterHeader).flatten.length } (hafter.advance hextras)
  have hall := (finds_extras hafter.inBounds).trans hfinds (Int.sub_le_self _ hextras) hle
  rw [Nat.zero_add] at hall
  rcases hall with ⟨rs, hskip, hrs, rfl⟩ | hjump
  · refine .inl ⟨rs, hskip, hrs, hdesc.trans ?_⟩
    rw [← lowered_of_le ha.load_head.symm hm]
  · refine .inr (Int.le_trans hjump ?_)
    exact Int.sub_le_self _ (Int.natCast_nonneg _)

/-! ## Interfaces -/

/-- The elements in front of and at an index, once it has been set. -/
theorem take_succ_set {α : Type} {l : List α} {i : Nat} (hi : i < l.length) (b : α) :
    (l.set i b).take (i + 1) = l.take i ++ [b] := by
  rw [List.take_add_one, List.take_set_of_le (Nat.le_refl i), List.getElem?_set_self hi,
    Option.toList_some]

/-- The counted slots of an interface hold the descriptors of its number in `before`. -/
structure Filled (before : List (List UInt8)) (u : UsbDdkInterface) (x : UInt8) : Prop where
  num : u.numAltsetting.toNat = before.countP (isInterface x)
  settled : ((u.altsetting.getD []).take u.numAltsetting.toNat).map (·.interfaceDescriptor) =
    settings x before

namespace Filled
variable {before rs : List (List UInt8)} {r : List UInt8} {u : UsbDdkInterface} {x : UInt8}

theorem extras (h : Filled before u x) (hrs : ∀ r ∈ rs, isExtra r = true) :
    Filled (before ++ rs) u x where
  num := by
    rw [h.num, List.countP_append,
      countP_of_not_interface fun r hr => not_interface_of_isExtra (hrs r hr), Nat.add_zero]
  settled := by rw [h.settled, settings_append_extras hrs]

/-- The descriptor of another number leaves the interface as it is. -/
theorem other (h : Filled before u x) (htype : byteAt r 1 = usbDdkDtInterface)
    (hr : isInterface x r = false) (hrs : ∀ r ∈ rs, byteAt r 1 ≠ usbDdkDtInterface) :
    Filled (before ++ r :: rs) u x where
  num := by
    rw [h.num, List.countP_append, List.countP_cons, hr, countP_of_not_interface hrs]
    rfl
  settled := by
    rw [h.settled, settings_append_interface htype, settings_segment hrs, hr,
      if_neg Bool.false_ne_true, List.append_nil]

theorem altsetting_setSlot (u : UsbDdkInterface) (k : Nat) (desc : UsbDdkInterfaceDescriptor) :
    (u.setSlot k desc).altsetting.getD [] = (u.altsetting.getD []).set k desc := by
  cases h : u.altsetting with
  | none => simp [UsbDdkInterface.setSlot, h]
  | some slots => simp [UsbDdkInterface.setSlot, h]

/-- A write to the slot behind the counted ones changes none of them. -/
theorem reject (h : Filled before u x) (desc : UsbDdkInterfaceDescriptor) :
    Filled before (u.setSlot u.numAltsetting.toNat desc) x where
  num := h.num
  settled := by
    rw [← h.settled, altsetting_setSlot, numAltsetting_setSlot, List.take_set_of_le]
    exact Nat.le_refl _

theorem accept (h : Filled before u x) (hlt : u.numAltsetting.toNat < u.slots)
    (hmax : u.numAltsetting.toNat < usbMaxAltSetting) (hr : isInterface x r = true)
    (hrs : ∀ r ∈ rs, byteAt r 1 ≠ usbDdkDtInterface) {desc : UsbDdkInterfaceDescriptor}
    (hdesc : desc.interfaceDescriptor = lowered r rs) :
    Filled (before ++ r :: rs)
      ({ u with numAltsetting := u.numAltsetting + 1 }.setSlot u.numAltsetting.toNat desc) x := by
  have hnum := toNat_numAltsetting_succ hmax
  constructor
  · rw [numAltsetting_setSlot, hnum, h.num, List.countP_append, List.countP_cons, hr,
      countP_of_not_interface hrs]
    rfl
  · rw [altsetting_setSlot, numAltsetting_setSlot, hnum, settings_append_interface
      (isInterface_iff.mp hr).1, settings_segment hrs, if_pos hr, ← h.settled, ← hdesc,
      take_succ_set hlt, List.map_append, List.map_singleton]

end Filled

/-! ## Runs -/

section
variable {origin : Cursor} {st st' : ConfigLoop}

/-- The cursor is a place of the walk, and the interfaces hold the descriptors in front of it, of
which none is shorter than nine bytes. -/
def AllFilled (origin : Cursor) (st : ConfigLoop) : Prop :=
  ∃ before, origin.Skips before st.cursor ∧
    (∀ r ∈ before, byteAt r 1 = usbDdkDtInterface → 9 ≤ len r) ∧
    ∀ i x, (getInterfaceNumber origin).1[i]? = some x → Filled before (st.iface i) x

theorem allFilled_entryState (ho : origin.Valid) (ha : AcceptsHeader origin) :
    AllFilled origin (entryState origin) := by
  obtain ⟨hskip, hbehind⟩ := skips_entryState ho ha
  refine ⟨[origin.head], hskip, fun r hr htype => absurd htype (hbehind r hr), fun i x _ => ?_⟩
  constructor
  · rw [numAltsetting_entryState, countP_of_not_interface hbehind]
    rfl
  · rw [numAltsetting_entryState, settings_of_behind hbehind]
    rfl

/-- The interface of an accepted descriptor has a slot for it. -/
theorem AllFilled.room (ho : origin.Valid)
    (hcount : ∀ x, (records origin.bytes).countP (isInterface x) ≤ usbMaxAltSetting)
    (htrace : EntryTrace origin st) (h : AllFilled origin st) {i : Nat}
    (hnum : st.Numbered (getInterfaceNumber origin).1 i) (ha : (st.turn i).Accepts) :
    (st.iface i).numAltsetting.toNat < (st.iface i).slots ∧
      (st.iface i).numAltsetting.toNat < usbMaxAltSetting := by
  obtain ⟨before, hskip, -, hfilled⟩ := h
  have hc := ha.complete ((htrace.fromOrigin ho).valid ho)
  have hhead := Cursor.records_head (c := st.cursor) (Int.lt_of_lt_of_le (by decide) ha.size) hc
  have hr : isInterface (byteAt st.cursor.buffer 2) st.cursor.head = true := ha.isInterface_head
  have hbound := hcount (byteAt st.cursor.buffer 2)
  have hslots := htrace.slots ho hnum
  rw [hskip.records, hhead, List.countP_append, List.countP_cons_of_pos hr,
    ← (hfilled i _ hnum).num] at hbound hslots
  omega

/-- An accepted descriptor goes into the next slot of its interface. -/
theorem allFilled_accept (ho : origin.Valid) (hsmall : origin.size < usbDdkInvalidOperation)
    (hcount : ∀ x, (records origin.bytes).countP (isInterface x) ≤ usbMaxAltSetting)
    (htrace : EntryTrace origin st) (h : AllFilled origin st) {i : Nat}
    (hnum : st.Numbered (getInterfaceNumber origin).1 i) (ha : (st.turn i).Accepts) :
    (st.put i (st.turn i).accepted).cursor.size < 0 ∨
      AllFilled origin (st.put i (st.turn i).accepted) := by
  obtain ⟨hlt, hmax⟩ := h.room ho hcount htrace hnum ha
  obtain ⟨before, hskip, hfull, hfilled⟩ := h
  have hvalid := (htrace.fromOrigin ho).valid ho
  have hhead := Cursor.skips_head hvalid.inBounds (ha.complete hvalid)
  have hle := (htrace.fromOrigin ho).size_le
  have hr : isInterface (byteAt st.cursor.buffer 2) st.cursor.head = true := ha.isInterface_head
  rcases ha.lowered hvalid with ⟨rs, hrs, hbehind, hdesc⟩ | hjump
  · have hafter := hskip.trans (hhead.trans hrs)
    rw [List.singleton_append] at hafter
    refine .inr ⟨before ++ (st.cursor.head :: rs), hafter, ?_, fun j x hx => ?_⟩
    · intro r hmem htype
      rcases List.mem_append.mp hmem with hmem | hmem
      · exact hfull r hmem htype
      · rcases List.mem_cons.mp hmem with rfl | hmem
        · exact (isInterface_iff.mp hr).2.1
        · exact absurd htype (hbehind r hmem)
    have hcounts := counts_getInterfaceNumber ho.inBounds
    by_cases hij : i = j
    · subst hij
      obtain rfl : x = byteAt st.cursor.buffer 2 := Option.some.inj (hx.symm.trans hnum)
      rw [iface_put_self st (htrace.lt_length ho hnum)]
      exact (hfilled i _ hx).accept hlt hmax hr hbehind hdesc
    · have hxne : isInterface x st.cursor.head = false := by
        refine Bool.eq_false_iff.mpr fun hx' => hij (hcounts.index_inj hnum ?_)
        rw [hx, ← (isInterface_iff.mp hx').2.2, (isInterface_iff.mp hr).2.2]
      rw [iface_put_ne st hij]
      exact (hfilled j x hx).other (isInterface_iff.mp hr).1 hxne hbehind
  · refine .inl ?_
    change (st.turn i).endpoints.2.2.size < 0
    change (st.turn i).endpoints.2.2.size + usbDdkInvalidOperation ≤ st.cursor.size at hjump
    omega

/-- The parser keeps the settings filled until an error code is taken for a length. -/
theorem EntryTrace.allFilled (ho : origin.Valid) (hsmall : origin.size < usbDdkInvalidOperation)
    (hcount : ∀ x, (records origin.bytes).countP (isInterface x) ≤ usbMaxAltSetting)
    (ha : AcceptsHeader origin) (h : EntryTrace origin st) :
    st.cursor.size < 0 ∨ AllFilled origin st := by
  have hinv := Trace.invariant (P := fun st => EntryTrace origin st ∧
    (st.cursor.size < 0 ∨ AllFilled origin st)) (fun {st st'} ⟨htrace, hst⟩ hstep => ?_) h
    ⟨.refl, .inr (allFilled_entryState ho ha)⟩
  · exact hinv.2
  refine ⟨htrace.tail hstep, ?_⟩
  have hvalid := (htrace.fromOrigin ho).valid ho
  cases hstep with
  | extras hsize =>
    obtain ⟨before, hskip, hfull, hfilled⟩ := hst.resolve_left (by omega)
    refine .inr ⟨before ++ extras st.cursor, ?_, ?_, fun i x hx => ?_⟩
    · rw [st.cursor_skipped]
      exact hskip.trans (skips_extras hvalid.inBounds).1
    · intro r hmem htype
      rcases List.mem_append.mp hmem with hmem | hmem
      · exact hfull r hmem htype
      · exact absurd htype (not_interface_of_isExtra (isExtra_of_mem_extras hmem))
    · rw [iface_skipped]
      exact (hfilled i x hx).extras fun r hr => isExtra_of_mem_extras hr
  | reject i hnum hsize =>
    obtain ⟨before, hskip, hfull, hfilled⟩ := hst.resolve_left (by omega)
    refine .inr ⟨before, hskip, hfull, fun j x hx => ?_⟩
    rcases iface_put st i j (st.turn i).written with heq | ⟨rfl, heq⟩
    · rw [heq]
      exact hfilled j x hx
    · rw [heq]
      exact (hfilled i x hx).reject _
  | accept i hnum hacc =>
    have hsize : 9 ≤ st.cursor.size := hacc.size
    exact allFilled_accept ho hsmall hcount htrace (hst.resolve_left (by omega)) hnum hacc
  | jump d hd =>
    refine .inl ?_
    change origin.size - d < 0
    omega

end

end ExtDevMgr.Usb
