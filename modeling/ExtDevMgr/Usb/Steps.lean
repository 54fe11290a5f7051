import ExtDevMgr.Usb.Walk

/-!
# What each parsing function does to the cursor

One lemma per function of the parsing pass up to `ParseInterfaceEndpoint`, on a cursor whose size is
an `int32_t` and does not exceed its buffer. `ParseEndpoint` returns an error code, returns zero, or
moves past one endpoint record and the extra records behind it (`EndpointCall`); a run of its calls
therefore moves past records other than interface descriptors or takes an error code for a length
(`Cursor.Passes`).
-/

namespace ExtDevMgr.Usb
open Records

/-- The cursor can be one of a run: its size does not exceed its buffer and fits an `int32_t`. -/
structure Cursor.Valid (c : Cursor) : Prop where
  inBounds : c.InBounds
  lt : c.size < 2 ^ 31

theorem Cursor.Valid.advance {c : Cursor} (h : c.Valid) {n : Int} (hn : 0 ≤ n) :
    (c.advance n).Valid where
  inBounds := h.inBounds.advance hn
  lt := by
    have := h.lt
    simp only [Cursor.advance]
    omega

/-! ## Extra descriptors -/

theorem findNextDescriptor_nonneg {c : Cursor} (h : c.InBounds) : 0 ≤ findNextDescriptor c := by
  rw [findNextDescriptor_eq h]
  exact Int.natCast_nonneg _

/-- The extra records at the cursor. -/
def extras (c : Cursor) : List (List UInt8) := (records c.bytes).takeWhile isExtra

theorem isExtra_of_mem_extras {c : Cursor} {r : List UInt8} (h : r ∈ extras c) :
    isExtra r = true := List.mem_takeWhile_imp h

theorem not_interface_of_isExtra {r : List UInt8} (h : isExtra r = true) :
    byteAt r 1 ≠ usbDdkDtInterface := by
  intro hr
  simp [isExtra, hr] at h

theorem findNextDescriptor_extras {c : Cursor} (h : c.InBounds) :
    findNextDescriptor c = (extras c).flatten.length := findNextDescriptor_eq h

theorem skips_extras {c : Cursor} (h : c.InBounds) :
    c.Skips (extras c) (c.advance (findNextDescriptor c)) ∧
      records (c.advance (findNextDescriptor c)).bytes = (records c.bytes).dropWhile isExtra := by
  rw [findNextDescriptor_extras h]
  exact Cursor.skips_of_records h List.takeWhile_append_dropWhile.symm

theorem findNextDescriptor_le {c : Cursor} (h : c.InBounds) (hs : 0 ≤ c.size) :
    findNextDescriptor c ≤ c.size := by
  have hnonneg := (skips_extras h).1.size_nonneg h hs
  simp only [Cursor.advance] at hnonneg
  omega

theorem take_extras {c : Cursor} (h : c.InBounds) :
    c.buffer.take (findNextDescriptor c).toNat = (extras c).flatten := by
  have hskips := (skips_extras h).1
  rw [findNextDescriptor_extras h] at hskips ⊢
  have hle : (extras c).flatten.length ≤ c.size.toNat := by
    rw [← Cursor.length_bytes h, hskips.bytes, List.length_append]
    exact Nat.le_add_right _ _
  rw [Int.toNat_natCast, ← Nat.min_eq_left hle, ← List.take_take]
  exact (congrArg (List.take _) hskips.bytes).trans List.take_left

/-- `FillExtraDescriptor` appends, as long as the block stays within the limit of `memcpy_s`. -/
theorem fillExtraDescriptor_append {extra : Option (List UInt8)} {extraLength : Nat}
    (buffer : List UInt8) {bufferLen : Int} (hextra : (extra.getD []).length = extraLength)
    (hpos : 0 < bufferLen) (hmax : extraLength + bufferLen < 2 ^ 31) :
    fillExtraDescriptor extra extraLength buffer bufferLen =
      (usbDdkSuccess, some (extra.getD [] ++ buffer.take bufferLen.toNat),
        extraLength + bufferLen.toNat) := by
  obtain ⟨n, rfl⟩ := Int.eq_ofNat_of_zero_le (Int.le_of_lt hpos)
  simp only [fillExtraDescriptor, Int.toNat_natCast]
  have hsum : (extraLength + n) % 2 ^ 32 = extraLength + n := Nat.mod_eq_of_lt (by omega)
  have hdiff : (2 ^ 32 + (extraLength + n) - extraLength) % 2 ^ 32 = n := by omega
  have hold : ((if extraLength = 0 then none else extra).getD []).take extraLength =
      extra.getD [] := by
    split
    · rename_i h0
      rw [h0, List.length_eq_zero_iff] at hextra
      rw [h0, hextra, List.take_zero]
    · rw [← hextra, List.take_length]
  have hcopy : memcpyS (extraLength + n) extraLength = true := by
    simp only [memcpyS, Bool.and_eq_true, decide_eq_true_eq]
    omega
  have hcopy' : memcpyS n n = true := by
    simp only [memcpyS, Bool.and_eq_true, decide_eq_true_eq]
    omega
  rw [if_neg (by omega), hsum, hdiff, hold, hcopy, hcopy', hextra]
  simp

/-- The block that `FillExtraDescriptor` allocates for extra records behind a null pointer. -/
def extraBlock (rs : List (List UInt8)) : Option (List UInt8) :=
  if rs.flatten = [] then none else some rs.flatten

theorem extras_flatten_nil {c : Cursor} (h : c.InBounds) :
    (extras c).flatten = [] ↔ findNextDescriptor c = 0 := by
  rw [findNextDescriptor_extras h, ← List.length_eq_zero_iff]
  omega

theorem fillExtraDescriptor_extras {c : Cursor} (h : c.Valid) (hlen : findNextDescriptor c ≠ 0) :
    fillExtraDescriptor none 0 c.buffer (findNextDescriptor c) =
      (usbDdkSuccess, extraBlock (extras c), (extras c).flatten.length) := by
  have hnonneg := findNextDescriptor_nonneg h.inBounds
  have hle : findNextDescriptor c ≤ max c.size 0 := by
    by_cases hs : 0 ≤ c.size
    · have := findNextDescriptor_le h.inBounds hs
      omega
    · have hnil : extras c = [] := by
        rw [extras, Cursor.bytes_of_neg (by omega), records_nil, List.takeWhile_nil]
      rw [findNextDescriptor_extras h.inBounds, hnil]
      exact Int.le_max_right _ _
  have := h.lt
  have hpos : 0 < findNextDescriptor c := by omega
  have hfill := fillExtraDescriptor_append c.buffer (Eq.refl ((none : Option _).getD []).length)
    hpos (by simp only [Option.getD_none, List.length_nil]; omega)
  simp only [Option.getD_none, List.length_nil] at hfill
  rw [hfill, take_extras h.inBounds, extraBlock,
    if_neg (mt (extras_flatten_nil h.inBounds).mp hlen), findNextDescriptor_extras h.inBounds,
    Int.toNat_natCast, List.nil_append, Nat.zero_add]

/-! ## Endpoints -/

/-- The record at the cursor. -/
abbrev Cursor.head (c : Cursor) : List UInt8 := c.bytes.take (byteAt c.buffer 0).toNat

theorem Cursor.complete_of_bounds {c : Cursor} (h : c.InBounds) {n : Int} (hn : 2 ≤ n)
    (hlo : n ≤ (byteAt c.buffer 0).toNat) (hhi : ((byteAt c.buffer 0).toNat : Int) ≤ c.size) :
    Complete c.bytes := (Cursor.complete_bytes h).mpr ⟨by omega, by omega, hhi⟩

theorem Cursor.length_head {c : Cursor} (h : c.InBounds)
    (hle : ((byteAt c.buffer 0).toNat : Int) ≤ c.size) :
    c.head.length = (byteAt c.buffer 0).toNat := by
  rw [Cursor.head, List.length_take, Cursor.length_bytes h]
  omega

theorem Cursor.byteAt_head {c : Cursor} {i : Nat} (hi : i < (byteAt c.buffer 0).toNat)
    (hle : ((byteAt c.buffer 0).toNat : Int) ≤ c.size) :
    byteAt c.head i = byteAt c.buffer i := by
  rw [Cursor.head, byteAt_take hi, Cursor.byteAt_bytes (by omega)]

theorem Cursor.records_head {c : Cursor} (hs : 0 < c.size) (hc : Complete c.bytes) :
    records c.bytes = c.head :: records (c.bytes.drop (byteAt c.buffer 0).toNat) := by
  have hrecords := records_of_complete hc
  rwa [Cursor.len_bytes hs] at hrecords

/-- Moving past the complete record at the cursor. -/
theorem Cursor.skips_head {c : Cursor} (h : c.InBounds) (hc : Complete c.bytes) :
    c.Skips [c.head] (c.advance (byteAt c.buffer 0).toNat) := by
  obtain ⟨h1, -, h3⟩ := (Cursor.complete_bytes h).mp hc
  have hlen := Cursor.length_head h h3
  have hrecords := Cursor.records_head (by omega) hc
  have hskips := (Cursor.skips_of_records h
    (hrecords.trans (List.singleton_append (x := c.head)).symm)).1
  rw [List.flatten_singleton, hlen] at hskips
  exact hskips

/-- What a call of `ParseEndpoint` into zeroed memory returns and leaves in it. -/
inductive EndpointCall (c : Cursor) : Int × UsbDdkEndpointDescriptor → Prop where
  | short : c.size < descHeaderLength → EndpointCall c (usbDdkInvalidOperation, {})
  | stray : descHeaderLength ≤ c.size → byteAt c.buffer 1 ≠ usbDdkDtEndpoint ∨
      c.size < (byteAt c.buffer 0).toNat → EndpointCall c (0, {})
  | malformed : descHeaderLength ≤ c.size → byteAt c.buffer 1 = usbDdkDtEndpoint →
      ((byteAt c.buffer 0).toNat : Int) ≤ c.size →
      ((byteAt c.buffer 0).toNat : Int) < usbDdkDtEndpointSize →
      EndpointCall c (usbDdkInvalidOperation, {})
  | parsed (rs : List (List UInt8)) : Complete c.bytes →
      byteAt c.buffer 1 = usbDdkDtEndpoint → 7 ≤ (byteAt c.buffer 0).toNat →
      rs = extras (c.advance (byteAt c.buffer 0).toNat) →
      EndpointCall c ((c.head :: rs).flatten.length, {
        endpointDescriptor := .load c.head {}
        extra := extraBlock rs
        extraLength := rs.flatten.length })

theorem UsbEndpointDescriptor.load_take (bytes : List UInt8) (dest : UsbEndpointDescriptor)
    {n : Nat} (hn : 7 ≤ n) : load (bytes.take n) dest = load bytes dest := by
  simp only [load, byteAt_take (show 0 < n by omega), byteAt_take (show 1 < n by omega),
    byteAt_take (show 2 < n by omega), byteAt_take (show 3 < n by omega),
    byteAt_take (show 4 < n by omega), byteAt_take (show 5 < n by omega),
    byteAt_take (show 6 < n by omega)]

theorem UsbInterfaceDescriptor.load_take (bytes : List UInt8) (dest : UsbInterfaceDescriptor)
    {n : Nat} (hn : 9 ≤ n) : load (bytes.take n) dest = load bytes dest := by
  simp only [load, byteAt_take (show 0 < n by omega), byteAt_take (show 1 < n by omega),
    byteAt_take (show 2 < n by omega), byteAt_take (show 3 < n by omega),
    byteAt_take (show 4 < n by omega), byteAt_take (show 5 < n by omega),
    byteAt_take (show 6 < n by omega), byteAt_take (show 7 < n by omega),
    byteAt_take (show 8 < n by omega)]

theorem Cursor.bytes_head {c : Cursor} {n : Nat} (hn : n ≤ (byteAt c.buffer 0).toNat)
    (hle : ((byteAt c.buffer 0).toNat : Int) ≤ c.size) : c.head.take n = c.buffer.take n := by
  simp only [Cursor.head, Cursor.bytes, List.take_take]
  congr 1
  omega

theorem parseEndpoint_call {c : Cursor} (h : c.Valid) : EndpointCall c (parseEndpoint {} c) := by
  rw [parseEndpoint]
  by_cases hshort : c.size < descHeaderLength
  · rw [if_pos hshort]
    exact .short hshort
  rw [if_neg hshort]
  by_cases hstray : byteAt c.buffer 1 ≠ usbDdkDtEndpoint ∨ ((byteAt c.buffer 0).toNat : Int) > c.size
  · simp only [if_pos hstray]
    exact .stray (by omega) hstray
  simp only [if_neg hstray]
  obtain ⟨htype, hle⟩ := not_or.mp hstray
  have htype := not_not.mp htype
  have hle := Int.not_lt.mp hle
  by_cases hmal : ((byteAt c.buffer 0).toNat : Int) < usbDdkDtEndpointSize
  · rw [if_pos hmal]
    exact .malformed (by omega) htype hle hmal
  rw [if_neg hmal]
  simp only [usbDdkDtEndpointSize] at hmal
  have hc := Cursor.complete_of_bounds h.inBounds (n := 7) (by omega) (by omega) hle
  have hload : (parseDescriptor .endpoint UsbEndpointDescriptor.load {} 9 c.buffer c.size).2 =
      .load c.head {} := by
    rw [parseDescriptor_of_le (by simp only [getDescriptorLength, usbDdkDtEndpointSize]; omega)
      (by decide) (by decide)]
    simp only [getDescriptorLength, usbDdkDtEndpointSize]
    rw [← Cursor.bytes_head (by omega) hle, UsbEndpointDescriptor.load_take _ _ (by decide)]
  have hlen := Cursor.length_head h.inBounds hle
  have hadv := h.advance (n := (byteAt c.buffer 0).toNat) (Int.natCast_nonneg _)
  have hcall := EndpointCall.parsed _ hc htype (by omega) rfl
  rw [hload]
  by_cases hnext : findNextDescriptor (c.advance (byteAt c.buffer 0).toNat) = 0
  · have hnil := (extras_flatten_nil hadv.inBounds).mpr hnext
    simp only [if_pos hnext]
    simpa [extraBlock, hnil, hlen, List.flatten_cons] using hcall
  · simp only [if_neg hnext, fillExtraDescriptor_extras hadv hnext]
    rw [if_neg (by simp), findNextDescriptor_extras hadv.inBounds]
    simpa [hlen, List.flatten_cons] using hcall

/-- At most `n` calls of `ParseEndpoint` lead from `c` to `c'`: past records that are not interface
descriptors, or by an error code taken for a length. -/
structure Cursor.Passes (n : Nat) (c c' : Cursor) : Prop where
  advance : ∃ d : Int, 0 ≤ d ∧ c' = c.advance d
  low : min c.size 0 - n * usbDdkInvalidOperation ≤ c'.size
  skips : (∃ rs, c.Skips rs c' ∧ ∀ r ∈ rs, byteAt r 1 ≠ usbDdkDtInterface) ∨
    c'.size + usbDdkInvalidOperation ≤ c.size

namespace Cursor

theorem Passes.valid {n : Nat} {c c' : Cursor} (hp : Passes n c c') (h : c.Valid) : c'.Valid := by
  obtain ⟨d, hd, rfl⟩ := hp.advance
  exact h.advance hd

theorem Passes.size_le {n : Nat} {c c' : Cursor} (hp : Passes n c c') : c'.size ≤ c.size := by
  obtain ⟨d, hd, rfl⟩ := hp.advance
  simp only [Cursor.advance]
  omega

theorem Passes.refl {c : Cursor} (h : c.InBounds) : Passes 0 c c where
  advance := ⟨0, Int.le_refl 0, c.advance_zero.symm⟩
  low := by omega
  skips := .inl ⟨[], .refl h, nofun⟩

theorem Passes.mono {n m : Nat} {c c' : Cursor} (hp : Passes n c c') (hle : n ≤ m) :
    Passes m c c' where
  advance := hp.advance
  low := by
    have := hp.low
    simp only [usbDdkInvalidOperation] at this ⊢
    omega
  skips := hp.skips

theorem Passes.trans {n m : Nat} {c c' c'' : Cursor} (hp : Passes n c c')
    (hp' : Passes m c' c'') : Passes (n + m) c c'' where
  advance := by
    obtain ⟨d, hd, rfl⟩ := hp.advance
    obtain ⟨d', hd', rfl⟩ := hp'.advance
    exact ⟨d + d', Int.add_nonneg hd hd', advance_advance c hd hd'⟩
  low := by
    have h1 := hp.low
    have h2 := hp'.low
    simp only [usbDdkInvalidOperation] at h1 h2 ⊢
    omega
  skips := by
    have hle := hp.size_le
    have hle' := hp'.size_le
    rcases hp.skips with ⟨rs, hrs, hne⟩ | hjump
    · rcases hp'.skips with ⟨rs', hrs', hne'⟩ | hjump'
      · refine .inl ⟨rs ++ rs', hrs.trans hrs', fun r hr => ?_⟩
        rcases List.mem_append.mp hr with hr | hr
        · exact hne r hr
        · exact hne' r hr
      · exact .inr (Int.le_trans hjump' hle)
    · exact .inr (Int.le_trans (Int.add_le_add_right hle' _) hjump)

/-- Moving past extra records is no call at all. -/
theorem passes_extras {c : Cursor} (h : c.InBounds) (hs : 0 ≤ c.size) :
    Passes 0 c (c.advance (findNextDescriptor c)) where
  advance := ⟨_, findNextDescriptor_nonneg h, rfl⟩
  low := by
    have := findNextDescriptor_le h hs
    simp only [Cursor.advance]
    omega
  skips := .inl ⟨_, (skips_extras h).1, fun _ hr => not_interface_of_isExtra
    (isExtra_of_mem_extras hr)⟩

end Cursor

theorem EndpointCall.passes {c : Cursor} {result : Int × UsbDdkEndpointDescriptor}
    (h : c.Valid) (hcall : EndpointCall c result) :
    0 ≤ result.1 ∧ Cursor.Passes 1 c (c.advance result.1) := by
  have hjump : Cursor.Passes 1 c (c.advance usbDdkInvalidOperation) := {
    advance := ⟨_, by decide, rfl⟩
    low := by simp only [Cursor.advance, usbDdkInvalidOperation]; omega
    skips := .inr (by simp only [Cursor.advance, usbDdkInvalidOperation]; omega) }
  cases hcall with
  | short => exact ⟨by decide, hjump⟩
  | stray =>
    rw [c.advance_zero]
    exact ⟨Int.le_refl 0, (Cursor.Passes.refl h.inBounds).mono (Nat.zero_le 1)⟩
  | malformed => exact ⟨by decide, hjump⟩
  | parsed rs hc htype hlen hrs =>
    obtain ⟨h1, -, h3⟩ := (Cursor.complete_bytes h.inBounds).mp hc
    have hhead := Cursor.skips_head h.inBounds hc
    have hskips := hhead.trans (skips_extras hhead.inBounds).1
    rw [show extras (c.advance (byteAt c.buffer 0).toNat) = rs from hrs.symm] at hskips
    rw [hskips.eq] at hskips
    have hnonneg := hskips.size_nonneg h.inBounds (by omega)
    refine ⟨Int.natCast_nonneg _, ⟨_, Int.natCast_nonneg _, rfl⟩, ?_, .inl ⟨_, hskips, ?_⟩⟩
    · have hle : min c.size 0 - (1 : Nat) * usbDdkInvalidOperation ≤ 0 := by
        simp only [usbDdkInvalidOperation]
        omega
      exact Int.le_trans hle hnonneg
    · intro r hr
      rcases List.mem_append.mp hr with hr | hr
      · rw [List.mem_singleton.mp hr, Cursor.byteAt_head (by omega) h3, htype]
        decide
      · exact not_interface_of_isExtra (isExtra_of_mem_extras (hrs ▸ hr))

/-- Storing an endpoint leaves the ones behind it zeroed. -/
theorem fresh_set {es : List UsbDdkEndpointDescriptor} {i : Nat} (e : UsbDdkEndpointDescriptor)
    (fresh : ∀ j, i ≤ j → es.getD j {} = {}) : ∀ j, i + 1 ≤ j → (es.set i e).getD j {} = {} := by
  intro j hj
  have hj' := fresh j (by omega)
  rw [List.getD_eq_getElem?_getD] at hj' ⊢
  rwa [List.getElem?_set_ne (by omega)]

theorem fresh_replicate (n : Nat) (j : Nat) :
    (List.replicate n ({} : UsbDdkEndpointDescriptor)).getD j {} = {} := by
  rw [List.getD_eq_getElem?_getD, List.getElem?_replicate]
  split <;> rfl

theorem parseEndpoints_passes {n i : Nat} {st : EndpointLoop} (h : st.cursor.Valid)
    (hret : 0 ≤ st.ret) (fresh : ∀ j, i ≤ j → st.endPoint.getD j {} = {}) :
    0 ≤ (parseEndpoints n i st).ret ∧
      Cursor.Passes n st.cursor (parseEndpoints n i st).cursor := by
  induction n generalizing i st with
  | zero => exact ⟨hret, .refl h.inBounds⟩
  | succ n ih =>
    have hcall := parseEndpoint_call h
    obtain ⟨hnonneg, hpass⟩ := hcall.passes h
    have hzero : Cursor.Passes (n + 1) st.cursor st.cursor :=
      (Cursor.Passes.refl h.inBounds).mono (Nat.zero_le _)
    simp only [parseEndpoints, fresh i (Nat.le_refl i)]
    split
    · rename_i h0
      exact ⟨Int.le_of_eq h0.symm, hzero⟩
    · split
      · rename_i hneg
        exact absurd hnonneg (Int.not_le.mpr hneg)
      · have fresh' := fresh_set (parseEndpoint {} st.cursor).2 fresh
        obtain ⟨hret', hpass'⟩ := @ih (i + 1) { st with
          ret := (parseEndpoint {} st.cursor).1
          endPoint := st.endPoint.set i (parseEndpoint {} st.cursor).2
          cursor := st.cursor.advance (parseEndpoint {} st.cursor).1 }
          (hpass.valid h) hnonneg fresh'
        exact ⟨hret', (hpass.trans hpass').mono (by omega)⟩

theorem parseInterfaceEndpoint_passes (desc : UsbDdkInterfaceDescriptor) {c : Cursor}
    (h : c.Valid) (hnum : desc.interfaceDescriptor.bNumEndpoints.toNat ≤ usbMaxEndpoints) :
    0 ≤ (parseInterfaceEndpoint desc c).1 ∧
      Cursor.Passes usbMaxEndpoints c (parseInterfaceEndpoint desc c).2.2 := by
  rw [parseInterfaceEndpoint]
  split
  · have fresh := fun j (_ : 0 ≤ j) =>
      fresh_replicate desc.interfaceDescriptor.bNumEndpoints.toNat j
    obtain ⟨hret, hpass⟩ := @parseEndpoints_passes desc.interfaceDescriptor.bNumEndpoints.toNat 0 {
      ret := usbDdkSuccess
      bNumEndpoints := desc.interfaceDescriptor.bNumEndpoints
      endPoint := List.replicate desc.interfaceDescriptor.bNumEndpoints.toNat {}
      cursor := c } h (Int.le_refl 0) fresh
    exact ⟨hret, hpass.mono hnum⟩
  · exact ⟨Int.le_refl 0, (Cursor.Passes.refl h.inBounds).mono (Nat.zero_le _)⟩

end ExtDevMgr.Usb
