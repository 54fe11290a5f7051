import ExtDevMgr.Usb.Reads
import ExtDevMgr.Usb.Entry
import ExtDevMgr.Usb.Trace

/-!
# Reads inside the vector

The remaining size and the offset of the read pointer add up to the length of the vector, also after
an error code has been taken for a length. Each function of the parser therefore reads inside the
vector and computes sizes that fit an `int32_t`, and returns what the parser without the reads does.
-/

namespace ExtDevMgr.Usb.Reads
open Access

/-- The offset is inside a vector of the length, and the size an `int32_t`. -/
def InputEvent.Safe (length : Nat) : InputEvent → Prop
  | .read offset => 0 ≤ offset ∧ offset < length
  | .size value => -2 ^ 31 ≤ value ∧ value < 2 ^ 31

/-- The pointer is at its offset in the vector, and the size is what is left behind it of the length
that the parser is given; both may lie past the end. -/
structure Pointer.Inside (configBuffer : List UInt8) (p : Pointer) : Prop where
  buffer : p.cursor.buffer = configBuffer.drop p.offset.toNat
  nonneg : 0 ≤ p.offset
  total : p.offset + p.cursor.size = toInt32 configBuffer.length

namespace Pointer
variable {configBuffer : List UInt8} {p : Pointer}

theorem Inside.total_le (h : p.Inside configBuffer) :
    p.offset + p.cursor.size ≤ configBuffer.length := by
  rw [h.total]
  exact toInt32_le (Int.natCast_nonneg _)

theorem Inside.valid (h : p.Inside configBuffer) : p.cursor.Valid where
  inBounds := by
    have := h.nonneg
    have := h.total_le
    rw [Cursor.InBounds, h.buffer, List.length_drop]
    omega
  lt := by
    have hnonneg := h.nonneg
    have hlt := toInt32_lt configBuffer.length
    rw [← h.total] at hlt
    omega

theorem byteAt_spec (h : p.Inside configBuffer) {i : Nat} (hi : i < p.cursor.size) :
    (p.byteAt i).Spec (InputEvent.Safe configBuffer.length)
      fun b => b = Usb.byteAt p.cursor.buffer i := by
  have hnonneg := h.nonneg
  have htotal := h.total_le
  refine spec_touch ?_ rfl
  exact ⟨by omega, by omega⟩

theorem descriptorHeader_spec (h : p.Inside configBuffer) (hsize : 2 ≤ p.cursor.size) :
    p.descriptorHeader.Spec (InputEvent.Safe configBuffer.length)
      fun header => header = Usb.descriptorHeader p.cursor.buffer := by
  apply (byteAt_spec h (i := 0) (by omega)).bind
  intro bLength hbLength
  apply (byteAt_spec h (i := 1) (by omega)).bind
  intro bDescriptorType hbDescriptorType
  apply spec_pure
  rw [hbLength, hbDescriptorType]

theorem take_spec (h : p.Inside configBuffer) {n : Nat} (hn : n ≤ p.cursor.size) :
    (p.take n).Spec (InputEvent.Safe configBuffer.length)
      fun bytes => bytes = p.cursor.buffer.take n := by
  have hnonneg := h.nonneg
  have htotal := h.total_le
  refine spec_touchAll ?_ rfl
  intro event hevent
  obtain ⟨i, hi, rfl⟩ := List.mem_map.mp hevent
  rw [List.mem_range] at hi
  exact ⟨by omega, by omega⟩

theorem advance_spec (h : p.Inside configBuffer) {n : Int} (hn : 0 ≤ n)
    (hlow : -2 ^ 31 ≤ p.cursor.size - n) :
    (p.advance n).Spec (InputEvent.Safe configBuffer.length)
      fun p' => p'.Inside configBuffer ∧ p'.cursor = p.cursor.advance n := by
  have hlt := h.valid.lt
  have hnonneg := h.nonneg
  have htotal := h.total
  refine spec_touch ⟨hlow, by omega⟩ ⟨⟨?_, ?_, ?_⟩, rfl⟩
  · change p.cursor.buffer.drop n.toNat = configBuffer.drop (p.offset + n).toNat
    rw [h.buffer, List.drop_drop, Int.toNat_add hnonneg hn]
  · exact Int.add_nonneg hnonneg hn
  · change p.offset + n + (p.cursor.size - n) = toInt32 configBuffer.length
    omega

end Pointer

variable {configBuffer : List UInt8} {p : Pointer}

/-! ## One descriptor -/

theorem parseDescriptor_spec {α : Type} (h : p.Inside configBuffer)
    (descriptorType : UsbDdkDescriptorType) (load : List UInt8 → α → α) (dest : α) (destLen : Nat) :
    (parseDescriptor descriptorType load dest destLen p p.cursor.size).Spec
      (InputEvent.Safe configBuffer.length)
      fun r => r = Usb.parseDescriptor descriptorType load dest destLen p.cursor.buffer
        p.cursor.size := by
  simp only [parseDescriptor, Usb.parseDescriptor]
  by_cases htype : getDescriptorLength descriptorType = int32Max
  · simp only [if_pos htype]
    exact spec_pure rfl
  simp only [if_neg htype]
  by_cases hsize : p.cursor.size < getDescriptorLength descriptorType
  · simp only [if_pos hsize]
    exact spec_pure rfl
  simp only [if_neg hsize]
  by_cases hcopy : memcpyS destLen (getDescriptorLength descriptorType).toNat = false
  · simp only [if_pos hcopy]
    exact spec_pure rfl
  simp only [if_neg hcopy]
  have hpos : 0 ≤ getDescriptorLength descriptorType := by
    cases descriptorType <;> decide
  apply (Pointer.take_spec h (n := (getDescriptorLength descriptorType).toNat) (by omega)).bind
  intro bytes hbytes
  apply spec_pure
  rw [hbytes]

theorem findNextDescriptorBody_follows :
    Follows (InputEvent.Safe configBuffer.length)
      (fun s : Pointer × Int => s.1.Inside configBuffer) (fun s => (s.1.cursor, s.2))
      Usb.findNextDescriptorBody findNextDescriptorBody := by
  rintro ⟨p, len⟩ h
  have h : p.Inside configBuffer := h
  simp only [findNextDescriptorBody, Usb.findNextDescriptorBody]
  by_cases hsize : p.cursor.size < descHeaderLength
  · simp only [if_pos hsize]
    exact spec_pure rfl
  simp only [if_neg hsize]
  apply (Pointer.descriptorHeader_spec h (Int.not_lt.mp hsize)).bind
  rintro _ rfl
  dsimp only
  split
  · exact spec_pure rfl
  · split
    · exact spec_pure rfl
    · rename_i hlen
      apply (Pointer.advance_spec h (Int.natCast_nonneg _) (by omega)).bind
      rintro p' ⟨hp', hcursor⟩
      exact spec_pure ⟨by rw [hcursor], hp'⟩

theorem findNextDescriptor_spec (h : p.Inside configBuffer) :
    (findNextDescriptor p).Spec (InputEvent.Safe configBuffer.length)
      fun len => len = Usb.findNextDescriptor p.cursor :=
  findNextDescriptorBody_follows.loop (fun _ => findNextDescriptorBody_variant) 0 h

theorem fillExtraDescriptor_spec (h : p.Inside configBuffer) (extra : Option (List UInt8))
    (extraLength : Nat) {bufferLen : Int} (hnonneg : 0 ≤ bufferLen)
    (hle : bufferLen ≤ p.cursor.size) :
    (fillExtraDescriptor extra extraLength p bufferLen).Spec (InputEvent.Safe configBuffer.length)
      fun r => r = Usb.fillExtraDescriptor extra extraLength p.cursor.buffer bufferLen := by
  simp only [fillExtraDescriptor, Usb.fillExtraDescriptor]
  generalize (if extraLength = 0 then none else extra) = old
  split
  · exact spec_pure rfl
  · split
    · exact spec_pure rfl
    · split
      · exact spec_pure rfl
      · apply (Pointer.take_spec h (by omega)).bind
        rintro _ rfl
        exact spec_pure rfl

theorem parseEndpoint_spec (h : p.Inside configBuffer) (endPoint : UsbDdkEndpointDescriptor) :
    (parseEndpoint endPoint p).Spec (InputEvent.Safe configBuffer.length)
      fun r => r = Usb.parseEndpoint endPoint p.cursor := by
  simp only [parseEndpoint, Usb.parseEndpoint]
  by_cases hsize : p.cursor.size < descHeaderLength
  · simp only [if_pos hsize]
    exact spec_pure rfl
  simp only [if_neg hsize]
  apply (Pointer.descriptorHeader_spec h (Int.not_lt.mp hsize)).bind
  rintro _ rfl
  dsimp only
  split
  · exact spec_pure rfl
  · rename_i hstray
    split
    · exact spec_pure rfl
    · apply (parseDescriptor_spec h _ _ _ _).bind
      rintro _ rfl
      have hle := Int.not_lt.mp (not_or.mp hstray).2
      apply (Pointer.advance_spec h (Int.natCast_nonneg _) (by omega)).bind
      rintro p' ⟨hp', hcursor⟩
      apply (findNextDescriptor_spec hp').bind
      rintro _ rfl
      rw [hcursor]
      split
      · exact spec_pure rfl
      · have hnonneg := findNextDescriptor_nonneg hp'.valid.inBounds
        have hle' := findNextDescriptor_le hp'.valid.inBounds (by
          rw [hcursor]
          exact Int.sub_nonneg.mpr hle)
        rw [hcursor] at hnonneg hle'
        apply (fillExtraDescriptor_spec hp' _ _ hnonneg (by rw [hcursor]; exact hle')).bind
        rintro _ rfl
        rw [hcursor]
        split
        · exact spec_pure rfl
        · exact spec_pure rfl

theorem rawParseDescriptor_spec (h : p.Inside configBuffer) (descriptorType : UsbDdkDescriptorType)
    (desc : UsbDdkInterfaceDescriptor) :
    (rawParseDescriptor p descriptorType desc).Spec (InputEvent.Safe configBuffer.length)
      fun r => r = Usb.rawParseDescriptor p.cursor descriptorType desc := by
  apply (parseDescriptor_spec h _ _ _ _).bind
  rintro _ rfl
  simp only [Usb.rawParseDescriptor]
  split
  · exact spec_pure rfl
  · split
    · exact spec_pure rfl
    · split
      · exact spec_pure rfl
      · exact spec_pure rfl

/-! ## Endpoints -/

/-- An error code is the most that `ParseEndpoint` moves past the end. -/
theorem parseEndpoint_ret {c : Cursor} (h : c.Valid) :
    0 ≤ (Usb.parseEndpoint {} c).1 ∧
      min c.size 0 - usbDdkInvalidOperation ≤ c.size - (Usb.parseEndpoint {} c).1 := by
  obtain ⟨hnonneg, hpass⟩ := (parseEndpoint_call h).passes h
  refine ⟨hnonneg, ?_⟩
  have hlow := hpass.low
  rwa [Int.natCast_one, Int.one_mul] at hlow

theorem parseEndpoints_spec {n i : Nat} {st : EndpointLoop} {offset : Int}
    (h : Pointer.Inside configBuffer ⟨st.cursor, offset⟩) (hn : n ≤ usbMaxEndpoints)
    (hlow : -((usbMaxEndpoints - n) * usbDdkInvalidOperation) ≤ st.cursor.size)
    (fresh : ∀ j, i ≤ j → st.endPoint.getD j {} = {}) :
    (parseEndpoints n i (st, offset)).Spec (InputEvent.Safe configBuffer.length)
      fun s => s.1 = Usb.parseEndpoints n i st ∧ Pointer.Inside configBuffer ⟨s.1.cursor, s.2⟩ := by
  induction n generalizing i st offset with
  | zero => exact spec_pure ⟨rfl, h⟩
  | succ n ih =>
    obtain ⟨hnonneg, hret⟩ := parseEndpoint_ret h.valid
    simp only [parseEndpoints, Usb.parseEndpoints, fresh i (Nat.le_refl i)]
    apply (parseEndpoint_spec h {}).bind
    rintro _ rfl
    dsimp only
    split
    · exact spec_pure ⟨rfl, h⟩
    · split
      · exact spec_pure ⟨rfl, h⟩
      · simp only [usbMaxEndpoints, usbDdkInvalidOperation] at hn hlow hret
        apply (Pointer.advance_spec (p := ⟨st.cursor, offset⟩) h hnonneg (by dsimp only; omega)).bind
        rintro p' ⟨hp', hcursor⟩
        rw [← hcursor]
        apply ih
        · exact hp'
        · simp only [usbMaxEndpoints]
          omega
        · rw [hcursor]
          simp only [Cursor.advance, usbMaxEndpoints, usbDdkInvalidOperation]
          omega
        · exact fresh_set _ fresh

theorem parseInterfaceEndpoint_spec (h : p.Inside configBuffer) (hsize : 0 ≤ p.cursor.size)
    (desc : UsbDdkInterfaceDescriptor)
    (hnum : desc.interfaceDescriptor.bNumEndpoints.toNat ≤ usbMaxEndpoints) :
    (parseInterfaceEndpoint desc p).Spec (InputEvent.Safe configBuffer.length)
      fun r => (r.1, r.2.1, r.2.2.cursor) = Usb.parseInterfaceEndpoint desc p.cursor ∧
        r.2.2.Inside configBuffer := by
  simp only [parseInterfaceEndpoint, Usb.parseInterfaceEndpoint]
  split
  · refine (parseEndpoints_spec h hnum ?_ fun j _ => fresh_replicate _ j).bind ?_
    · refine Int.le_trans (Int.neg_nonpos_of_nonneg ?_) hsize
      exact Int.mul_nonneg (Int.sub_nonneg.mpr (Int.ofNat_le.mpr hnum)) (by decide)
    · rintro ⟨st, offset⟩ ⟨rfl, hst⟩
      exact spec_pure ⟨rfl, hst⟩
  · exact spec_pure ⟨rfl, h⟩

/-! ## The counting pass -/

theorem getInterfaceNumberDes_spec (h : p.Inside configBuffer)
    (hle : ((byteAt p.cursor.buffer 0).toNat : Int) ≤ p.cursor.size) (hsize : 2 ≤ p.cursor.size)
    (nums : List UInt8 × List UInt8) :
    (getInterfaceNumberDes p nums).Spec (InputEvent.Safe configBuffer.length)
      fun r => r = Usb.getInterfaceNumberDes p.cursor.buffer nums := by
  apply (Pointer.byteAt_spec h (i := 0) (by omega)).bind
  rintro _ rfl
  split
  · rename_i hlen
    exact spec_pure (if_pos hlen).symm
  · rename_i hlen
    simp only [usbDdkDtInterfaceSize] at hlen
    apply (Pointer.byteAt_spec h (i := 2) (by omega)).bind
    intro _ _
    exact spec_pure rfl

theorem countHeader_spec (h : p.Inside configBuffer)
    (hle : ((byteAt p.cursor.buffer 0).toNat : Int) ≤ p.cursor.size) (hsize : 2 ≤ p.cursor.size)
    (nums : List UInt8 × List UInt8) :
    (countHeader p (Usb.descriptorHeader p.cursor.buffer) nums).Spec
      (InputEvent.Safe configBuffer.length) fun r =>
        r = if byteAt p.cursor.buffer 1 = usbDdkDtInterface then
          Usb.getInterfaceNumberDes p.cursor.buffer nums else nums := by
  unfold countHeader
  split
  · exact getInterfaceNumberDes_spec h hle hsize nums
  · exact spec_pure rfl

theorem getInterfaceNumberBody_follows :
    Follows (InputEvent.Safe configBuffer.length)
      (fun s : Pointer × (List UInt8 × List UInt8) => s.1.Inside configBuffer)
      (fun s => (s.1.cursor, s.2)) Usb.getInterfaceNumberBody getInterfaceNumberBody := by
  rintro ⟨p, nums⟩ h
  have h : p.Inside configBuffer := h
  simp only [getInterfaceNumberBody, Usb.getInterfaceNumberBody]
  by_cases hpos : p.cursor.size ≤ 0
  · simp only [if_pos hpos]
    exact spec_pure rfl
  simp only [if_neg hpos]
  by_cases hsize : p.cursor.size < descHeaderLength
  · simp only [if_pos hsize]
    exact spec_pure rfl
  simp only [if_neg hsize]
  have hsize := Int.not_lt.mp hsize
  apply (Pointer.descriptorHeader_spec h hsize).bind
  rintro _ rfl
  dsimp only
  split
  · exact spec_pure rfl
  · rename_i hlen
    have hle := Int.not_lt.mp (not_or.mp hlen).1
    apply (countHeader_spec h hle hsize nums).bind
    rintro _ rfl
    apply (Pointer.advance_spec h (Int.natCast_nonneg _) (by omega)).bind
    rintro p' ⟨hp', hcursor⟩
    exact spec_pure ⟨by rw [hcursor], hp'⟩

theorem getInterfaceNumber_spec (h : p.Inside configBuffer) :
    (getInterfaceNumber p).Spec (InputEvent.Safe configBuffer.length)
      fun nums => nums = Usb.getInterfaceNumber p.cursor :=
  getInterfaceNumberBody_follows.loop (fun _ => getInterfaceNumberBody_variant) ([], []) h

/-! ## Interfaces -/

theorem atLast_spec (h : p.Inside configBuffer) (interfaceNumber : Int) :
    (atLast p interfaceNumber).Spec (InputEvent.Safe configBuffer.length) fun last =>
      last = decide (p.cursor.size < usbDdkDtInterfaceSize ∨
        byteAt p.cursor.buffer 1 ≠ usbDdkDtInterface ∨
        ((byteAt p.cursor.buffer 2).toNat : Int) ≠ interfaceNumber) := by
  unfold atLast
  split
  · rename_i hsize
    exact spec_pure (decide_eq_true (.inl hsize)).symm
  · rename_i hsize
    have hle := Int.not_lt.mp hsize
    simp only [usbDdkDtInterfaceSize] at hle
    apply (Pointer.byteAt_spec h (i := 1) (by omega)).bind
    rintro _ rfl
    apply (Pointer.byteAt_spec h (i := 2) (by omega)).bind
    rintro _ rfl
    exact spec_pure (decide_eq_decide.mpr (or_iff_right hsize).symm)

theorem fillExtras_spec (h : p.Inside configBuffer) (extra : Option (List UInt8))
    (extraLength : Nat) {len : Int} (hnonneg : 0 ≤ len) (hle : len ≤ p.cursor.size) :
    (fillExtras p extra extraLength len).Spec (InputEvent.Safe configBuffer.length) fun r =>
      r = if len ≠ 0 then Usb.fillExtraDescriptor extra extraLength p.cursor.buffer len
        else (usbDdkSuccess, extra, extraLength) := by
  unfold fillExtras
  split
  · exact fillExtraDescriptor_spec h extra extraLength hnonneg hle
  · exact spec_pure rfl

/-- The states of the loop of `ParseInterface` and the offset of its cursor. -/
def InterfaceInside (configBuffer : List UInt8) (s : InterfaceLoop × Int) : Prop :=
  Pointer.Inside configBuffer ⟨s.1.cursor, s.2⟩

theorem parseAltSetting_spec {st : InterfaceLoop} {position : Int}
    (h : Pointer.Inside configBuffer ⟨st.cursor, position⟩) (k : Nat)
    (desc : UsbDdkInterfaceDescriptor)
    (hle : (desc.interfaceDescriptor.bLength.toNat : Int) ≤ st.cursor.size)
    (hnum : desc.interfaceDescriptor.bNumEndpoints.toNat ≤ usbMaxEndpoints) :
    (parseAltSetting (st, position) k desc).Spec (InputEvent.Safe configBuffer.length)
      (Sum.elim (fun t => Usb.parseAltSetting st k desc = .inl t.1 ∧ InterfaceInside configBuffer t)
        fun b => Usb.parseAltSetting st k desc = .inr b) := by
  simp only [parseAltSetting, Usb.parseAltSetting]
  generalize (if st.interfaceNumber = -1 then (desc.interfaceDescriptor.bInterfaceNumber.toNat : Int)
    else st.interfaceNumber) = interfaceNumber
  apply (Pointer.advance_spec h (Int.natCast_nonneg _) (by dsimp only; omega)).bind
  rintro p ⟨hp, hcursor⟩
  have hsize : 0 ≤ p.cursor.size := by
    rw [hcursor]
    exact Int.sub_nonneg.mpr hle
  have hnonneg := findNextDescriptor_nonneg hp.valid.inBounds
  have hle' := findNextDescriptor_le hp.valid.inBounds hsize
  apply (findNextDescriptor_spec hp).bind
  rintro _ rfl
  rw [← hcursor]
  apply (fillExtras_spec hp none 0 hnonneg hle').bind
  intro fill hfill
  rw [← hfill]
  split
  · exact spec_pure rfl
  · apply (Pointer.advance_spec hp hnonneg (by omega)).bind
    rintro q ⟨hq, hcursor'⟩
    have hsize' : 0 ≤ q.cursor.size := by
      rw [hcursor']
      exact Int.sub_nonneg.mpr hle'
    refine (parseInterfaceEndpoint_spec hq hsize' _ ?_).bind ?_
    · exact hnum
    · rintro ⟨ret, desc', p'⟩ ⟨hret, hp'⟩
      rw [← hcursor', ← hret]
      dsimp only
      split
      · exact spec_pure rfl
      · apply (atLast_spec hp' _).bind
        rintro _ rfl
        simp only [decide_eq_true_eq]
        split
        · exact spec_pure rfl
        · exact spec_pure ⟨rfl, hp'⟩

theorem parseInterfaceBody_follows :
    Follows (InputEvent.Safe configBuffer.length) (InterfaceInside configBuffer) Prod.fst
      Usb.parseInterfaceBody parseInterfaceBody := by
  rintro ⟨st, position⟩ h
  simp only [parseInterfaceBody, Usb.parseInterfaceBody]
  split
  · exact spec_pure rfl
  · rename_i hsize
    apply (rawParseDescriptor_spec h _ _).bind
    rintro _ rfl
    have hraw := rawParseDescriptor_interface (Int.not_lt.mp hsize)
      (st.usbInterface.slot st.usbInterface.numAltsetting.toNat)
    simp only [hraw]
    by_cases hstray : byteAt st.cursor.buffer 1 ≠ usbDdkDtInterface ∨
        ((byteAt st.cursor.buffer 0).toNat : Int) > st.cursor.size
    · simp only [if_pos hstray, if_true]
      exact spec_pure rfl
    by_cases hmal : ((byteAt st.cursor.buffer 0).toNat : Int) < usbDdkDtInterfaceSize ∨
        (byteAt st.cursor.buffer 4).toNat > usbMaxEndpoints
    · have hother : usbDdkInvalidOperation ≠ usbDdkInvalidParameter := by decide
      simp only [if_neg hstray, if_pos hmal, if_neg hother, if_true]
      exact spec_pure rfl
    · have hparameter : usbDdkSuccess ≠ usbDdkInvalidParameter := by decide
      have hoperation : usbDdkSuccess ≠ usbDdkInvalidOperation := by decide
      simp only [if_neg hstray, if_neg hmal, if_neg hparameter, if_neg hoperation]
      apply parseAltSetting_spec
      · exact h
      · exact Int.not_lt.mp (not_or.mp hstray).2
      · exact Nat.not_lt.mp (not_or.mp hmal).2

theorem parseInterface_spec (h : p.Inside configBuffer) (usbInterface : UsbDdkInterface) :
    (parseInterface usbInterface p).Spec (InputEvent.Safe configBuffer.length)
      fun result => result = Usb.parseInterface usbInterface p.cursor := by
  unfold parseInterface Usb.parseInterface
  split
  · exact spec_pure rfl
  · exact parseInterfaceBody_follows.loop (parseInterfaceBody_variant h.valid) _
      (s := (interfaceEntry usbInterface p.cursor, p.offset)) h

/-! ## The configuration -/

theorem parseInterface_ret_lt {u : UsbDdkInterface} {c : Cursor} (h : c.Valid) :
    (Usb.parseInterface u c).ret < 2 ^ 31 := by
  by_cases hnum : u.numAltsetting.toNat ≤ usbMaxAltSetting
  · apply parseInterface_rule h hnum (P := fun _ => True) (Q := fun b => b.ret < 2 ^ 31) trivial
    · intros
      trivial
    · intro t b _ _ hturn
      cases hturn with
      | short => exact toInt32_lt _
      | stray => exact toInt32_lt _
      | malformed => exact (by decide : usbDdkInvalidOperation < 2 ^ 31)
      | last => exact toInt32_lt _
  · rw [Usb.parseInterface, if_pos (Nat.not_le.mp hnum)]
    exact (by decide : usbDdkInvalidOperation < 2 ^ 31)

/-- The states of the loop of `ParseConfigurationDes` and the offset of its cursor. -/
def ConfigInside (configBuffer : List UInt8) (s : ConfigLoop × Int) : Prop :=
  Pointer.Inside configBuffer ⟨s.1.cursor, s.2⟩

theorem parseConfigurationInterface_spec (interfaceNums : List UInt8) {st : ConfigLoop}
    {position : Int} (h : Pointer.Inside configBuffer ⟨st.cursor, position⟩) :
    (parseConfigurationInterface interfaceNums (st, position)).Spec
      (InputEvent.Safe configBuffer.length)
      (Sum.elim
        (fun t => Usb.parseConfigurationInterface interfaceNums st = .inl t.1 ∧
          ConfigInside configBuffer t)
        fun b => Usb.parseConfigurationInterface interfaceNums st = .inr b) := by
  simp only [parseConfigurationInterface, Usb.parseConfigurationInterface]
  split
  · exact spec_pure rfl
  · rename_i hsize
    split
    · exact spec_pure rfl
    · have hsize := Int.not_le.mp hsize
      apply (Pointer.byteAt_spec h (i := 2) hsize).bind
      rintro _ rfl
      dsimp only
      cases interfaceIndex st.config interfaceNums (byteAt st.cursor.buffer 2) with
      | none => exact spec_pure rfl
      | some i =>
        apply (parseInterface_spec h _).bind
        rintro _ rfl
        dsimp only
        split
        · exact spec_pure rfl
        · rename_i hret
          have hlt := parseInterface_ret_lt (u := (st.config.interface.getD []).getD i {}) h.valid
          dsimp only at hlt
          have hlow : -2 ^ 31 ≤ st.cursor.size -
              (Usb.parseInterface ((st.config.interface.getD []).getD i {}) st.cursor).ret := by
            simp only [descHeaderLength] at hsize
            omega
          apply (Pointer.advance_spec (p := ⟨st.cursor, position⟩) h (Int.not_lt.mp hret) hlow).bind
          rintro p' ⟨hp', hcursor⟩
          exact spec_pure ⟨by rw [hcursor], hp'⟩

theorem parseConfigurationDesBody_follows (interfaceNums : List UInt8) :
    Follows (InputEvent.Safe configBuffer.length) (ConfigInside configBuffer) Prod.fst
      (Usb.parseConfigurationDesBody interfaceNums) (parseConfigurationDesBody interfaceNums) := by
  rintro ⟨st, position⟩ h
  have h : Pointer.Inside configBuffer ⟨st.cursor, position⟩ := h
  simp only [parseConfigurationDesBody, Usb.parseConfigurationDesBody]
  split
  · exact spec_pure rfl
  · rename_i hsize
    have hsize : 2 ≤ st.cursor.size := Int.not_lt.mp hsize
    have hnonneg := findNextDescriptor_nonneg h.valid.inBounds
    have hle := findNextDescriptor_le h.valid.inBounds (by dsimp only; omega)
    apply (findNextDescriptor_spec h).bind
    rintro _ rfl
    dsimp only at hnonneg hle ⊢
    split
    · exact parseConfigurationInterface_spec interfaceNums h
    · apply (fillExtraDescriptor_spec h _ _ hnonneg hle).bind
      rintro _ rfl
      dsimp only
      split
      · exact spec_pure rfl
      · apply (Pointer.advance_spec (p := ⟨st.cursor, position⟩) h hnonneg (by dsimp only; omega)).bind
        rintro p' ⟨hp', hcursor⟩
        rw [← hcursor]
        exact parseConfigurationInterface_spec interfaceNums hp'

theorem parseConfigurationDes_spec (fuel : Nat) (interfaceNums : List UInt8) {st : ConfigLoop}
    {position : Int} (h : Pointer.Inside configBuffer ⟨st.cursor, position⟩) :
    (parseConfigurationDes fuel interfaceNums (st, position)).Spec
      (InputEvent.Safe configBuffer.length)
      fun result => result = Usb.parseConfigurationDes fuel interfaceNums st :=
  (parseConfigurationDesBody_follows interfaceNums).iterate fuel h

theorem parseConfigurationEntry_spec (h : p.Inside configBuffer)
    (config : UsbDdkConfigDescriptor) :
    (parseConfigurationEntry config p).Spec (InputEvent.Safe configBuffer.length)
      (Sum.elim
        (fun t => Usb.parseConfigurationEntry config p.cursor = .inl (t.1, t.2.1) ∧
          ConfigInside configBuffer t.2)
        fun b => Usb.parseConfigurationEntry config p.cursor = .inr b) := by
  simp only [parseConfigurationEntry, Usb.parseConfigurationEntry]
  split
  · exact spec_pure rfl
  · rename_i hsize
    apply (parseDescriptor_spec h _ _ _ _).bind
    rintro _ rfl
    split
    · exact spec_pure rfl
    · rename_i hfields
      simp only [not_or, Int.not_lt] at hfields
      obtain ⟨-, hlength, hle, -⟩ := hfields
      apply (getInterfaceNumber_spec h).bind
      rintro _ rfl
      split
      · exact spec_pure rfl
      · have hsize : 9 ≤ p.cursor.size := Int.not_lt.mp hsize
        apply (Pointer.advance_spec h (Int.natCast_nonneg _) (by omega)).bind
        rintro p' ⟨hp', hcursor⟩
        exact spec_pure ⟨by rw [hcursor], hp'⟩

theorem parseConfiguration_spec (fuel : Nat) (config : UsbDdkConfigDescriptor)
    (h : p.Inside configBuffer) :
    (parseConfiguration fuel config p).Spec (InputEvent.Safe configBuffer.length)
      fun result => result = Usb.parseConfiguration fuel config p.cursor := by
  unfold parseConfiguration Usb.parseConfiguration
  apply (parseConfigurationEntry_spec h config).bind
  intro entry hentry
  cases entry with
  | inl t =>
    rw [hentry.1]
    exact parseConfigurationDes_spec fuel t.1 hentry.2
  | inr result =>
    rw [hentry]
    exact spec_pure rfl

/-- At the entry of the parser the pointer is at the first byte of the vector. -/
theorem inside_vectorCursor (configBuffer : List UInt8) :
    Pointer.Inside configBuffer ⟨vectorCursor configBuffer, 0⟩ where
  buffer := rfl
  nonneg := Int.le_refl 0
  total := Int.zero_add _

/-- The reads and the sizes for a vector of any length. -/
theorem parseUsbConfigDescriptor_spec (fuel : Nat) (configBuffer : List UInt8) :
    (parseUsbConfigDescriptor fuel configBuffer).Spec (InputEvent.Safe configBuffer.length)
      (· = Usb.parseUsbConfigDescriptor fuel configBuffer) := by
  apply Spec.bind (Q := (· = Usb.parseConfiguration fuel {} (vectorCursor configBuffer)))
  · exact parseConfiguration_spec fuel {} (inside_vectorCursor configBuffer)
  · rintro _ rfl
    exact spec_pure rfl

/-- **Every read is inside the vector.** For a vector of any length, after any number of turns: the
parser has read at offsets inside the vector only, and every remaining size is the exact difference in
an `int32_t`. What it returns is what the parser without the reads returns. -/
theorem parseUsbConfigDescriptor_reads (fuel : Nat) (configBuffer : List UInt8) :
    (parseUsbConfigDescriptor fuel configBuffer).Within (InputEvent.Safe configBuffer.length) ∧
      (parseUsbConfigDescriptor fuel configBuffer).value =
        Usb.parseUsbConfigDescriptor fuel configBuffer :=
  parseUsbConfigDescriptor_spec fuel configBuffer

/-- A vector that ends in an endpoint descriptor of two bytes. -/
def shortEndpointVector : List UInt8 :=
  [9, 2, 20, 0, 1, 1, 0, 128, 50] ++ [9, 4, 0, 0, 1, 255, 0, 0, 0] ++ [2, 5]

/-- With these two bytes left the parser takes the error code of `ParseEndpoint` for a length. -/
theorem parseUsbConfigDescriptor_reads_shortEndpoint :
    InputEvent.size (2 - usbDdkInvalidOperation) ∈
        (parseUsbConfigDescriptor 2 shortEndpointVector).places ∧
      (parseUsbConfigDescriptor 2 shortEndpointVector).Within
        (InputEvent.Safe shortEndpointVector.length) :=
  ⟨by decide +kernel, (parseUsbConfigDescriptor_reads 2 shortEndpointVector).1⟩

end ExtDevMgr.Usb.Reads
