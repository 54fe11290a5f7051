import ExtDevMgr.Usb.Steps

/-!
# The turns of the two parsing loops

`InterfaceTurn` says what a turn of `ParseInterface` does and `ConfigTurn` what a turn of
`ParseConfigurationDes` does, case by case; every invariant of the two loops is derived from them.
-/

namespace ExtDevMgr.Usb
open Records

/-! ## Interfaces -/

section
variable (st : InterfaceLoop)

/-- The slot that a turn of `ParseInterface` reads its descriptor into. -/
def InterfaceLoop.target : Nat := st.usbInterface.numAltsetting.toNat

/-- That slot with the descriptor at the cursor copied over its header. -/
def InterfaceLoop.desc : UsbDdkInterfaceDescriptor :=
  { st.usbInterface.slot st.target with
    interfaceDescriptor := .load st.cursor.buffer
      (st.usbInterface.slot st.target).interfaceDescriptor }

/-- The state once `RawParseDescriptor` has written the slot. -/
def InterfaceLoop.written : InterfaceLoop :=
  { st with
    usbInterface := st.usbInterface.setSlot st.target st.desc
    events := st.events ++ [.altWrite st.target st.usbInterface.slots st.cursor.size] }

/-- `RawParseDescriptor` accepts the record at the cursor. -/
structure InterfaceLoop.Accepts : Prop where
  size : 9 ≤ st.cursor.size
  type : byteAt st.cursor.buffer 1 = usbDdkDtInterface
  length : 9 ≤ (byteAt st.cursor.buffer 0).toNat
  length_le : ((byteAt st.cursor.buffer 0).toNat : Int) ≤ st.cursor.size
  endpoints : (byteAt st.cursor.buffer 4).toNat ≤ usbMaxEndpoints

/-- The cursor behind the interface record, and the extra records there. -/
abbrev InterfaceLoop.afterHeader : Cursor :=
  st.cursor.advance (byteAt st.cursor.buffer 0).toNat

/-- The result of `ParseInterfaceEndpoint` in a turn that accepts its record. -/
def InterfaceLoop.endpoints : Int × UsbDdkInterfaceDescriptor × Cursor :=
  let c := st.afterHeader
  parseInterfaceEndpoint { st.desc with
    endPoint := none
    extra := extraBlock (extras c)
    extraLength := (extras c).flatten.length } (c.advance (findNextDescriptor c))

/-- The state at the end of a turn that accepts its record. -/
def InterfaceLoop.accepted : InterfaceLoop where
  usbInterface :=
    { st.usbInterface with numAltsetting := st.usbInterface.numAltsetting + 1 }.setSlot st.target
      st.endpoints.2.1
  cursor := st.endpoints.2.2
  offset := st.offset + (st.cursor.size - st.endpoints.2.2.size)
  interfaceNumber := if st.interfaceNumber = -1 then
    ((byteAt st.cursor.buffer 2).toNat : Int) else st.interfaceNumber
  events := st.written.events ++
    if st.desc.extra.isSome || st.desc.endPoint.isSome then [.lost st.target] else []

/-- The cursor stands at another alternate setting of the interface. -/
structure InterfaceLoop.AtNext : Prop where
  size : 9 ≤ st.cursor.size
  type : byteAt st.cursor.buffer 1 = usbDdkDtInterface
  number : ((byteAt st.cursor.buffer 2).toNat : Int) = st.interfaceNumber

/-- What a turn of `ParseInterface` does. -/
inductive InterfaceTurn : InterfaceLoop ⊕ InterfaceResult → Prop where
  | short : st.cursor.size < 9 → InterfaceTurn (.inr (st.leave (toInt32 st.offset)))
  | stray : 9 ≤ st.cursor.size → byteAt st.cursor.buffer 1 ≠ usbDdkDtInterface ∨
      st.cursor.size < (byteAt st.cursor.buffer 0).toNat →
      InterfaceTurn (.inr (st.written.leave (toInt32 st.offset)))
  | malformed : 9 ≤ st.cursor.size → byteAt st.cursor.buffer 1 = usbDdkDtInterface →
      ((byteAt st.cursor.buffer 0).toNat : Int) ≤ st.cursor.size →
      (byteAt st.cursor.buffer 0).toNat < 9 ∨ usbMaxEndpoints < (byteAt st.cursor.buffer 4).toNat →
      InterfaceTurn (.inr (st.written.leave usbDdkInvalidOperation))
  | next : st.Accepts → st.accepted.AtNext → InterfaceTurn (.inl st.accepted)
  | last : st.Accepts → ¬ st.accepted.AtNext →
      InterfaceTurn (.inr (st.accepted.leave (toInt32 st.accepted.offset)))

end

@[simp] theorem slots_setSlot (u : UsbDdkInterface) (k : Nat) (desc : UsbDdkInterfaceDescriptor) :
    (u.setSlot k desc).slots = u.slots := by
  cases h : u.altsetting <;> simp [UsbDdkInterface.slots, UsbDdkInterface.setSlot, h]

@[simp] theorem numAltsetting_setSlot (u : UsbDdkInterface) (k : Nat)
    (desc : UsbDdkInterfaceDescriptor) : (u.setSlot k desc).numAltsetting = u.numAltsetting := rfl

theorem setSlot_setSlot (u : UsbDdkInterface) (k : Nat) (desc desc' : UsbDdkInterfaceDescriptor) :
    (u.setSlot k desc).setSlot k desc' = u.setSlot k desc' := by
  cases h : u.altsetting <;> simp [UsbDdkInterface.setSlot, h]

theorem InterfaceLoop.Accepts.complete {st : InterfaceLoop} (ha : st.Accepts)
    (h : st.cursor.Valid) : Complete st.cursor.bytes :=
  Cursor.complete_of_bounds h.inBounds (n := 9) (by omega) (by have := ha.length; omega)
    ha.length_le

/-- Behind an accepted interface record the cursor moves past records that are not interface
descriptors, or takes an error code for a length. -/
theorem InterfaceLoop.Accepts.passes {st : InterfaceLoop} (ha : st.Accepts)
    (h : st.cursor.Valid) :
    0 ≤ st.endpoints.1 ∧ Cursor.Passes usbMaxEndpoints st.afterHeader st.endpoints.2.2 := by
  have hc := (Cursor.skips_head h.inBounds (ha.complete h)).inBounds
  have hs : 0 ≤ st.afterHeader.size := Int.sub_nonneg.mpr ha.length_le
  have hpass := Cursor.passes_extras hc hs
  obtain ⟨hret, hpass'⟩ := parseInterfaceEndpoint_passes { st.desc with
    endPoint := none
    extra := extraBlock (extras st.afterHeader)
    extraLength := (extras st.afterHeader).flatten.length }
    (hpass.valid (h.advance (Int.natCast_nonneg _))) ha.endpoints
  exact ⟨hret, (hpass.trans hpass').mono (Nat.le_of_eq (Nat.zero_add _))⟩

theorem rawParseDescriptor_interface {c : Cursor} (hsize : 9 ≤ c.size)
    (desc : UsbDdkInterfaceDescriptor) :
    rawParseDescriptor c .interface desc =
      (if byteAt c.buffer 1 ≠ usbDdkDtInterface ∨ ((byteAt c.buffer 0).toNat : Int) > c.size then
        usbDdkInvalidParameter
      else if ((byteAt c.buffer 0).toNat : Int) < usbDdkDtInterfaceSize ∨
          (byteAt c.buffer 4).toNat > usbMaxEndpoints then
        usbDdkInvalidOperation
      else
        usbDdkSuccess,
      { desc with interfaceDescriptor := .load c.buffer desc.interfaceDescriptor }) := by
  have hparse : parseDescriptor .interface UsbInterfaceDescriptor.load desc.interfaceDescriptor 9
      c.buffer c.size = (usbDdkSuccess, .load c.buffer desc.interfaceDescriptor) := by
    rw [parseDescriptor_of_le hsize (by decide) (by decide),
      UsbInterfaceDescriptor.load_take _ _ (by decide)]
  simp only [rawParseDescriptor, hparse, ne_eq, not_true_eq_false, if_false]
  by_cases hstray : byteAt c.buffer 1 ≠ usbDdkDtInterface ∨
      ((byteAt c.buffer 0).toNat : Int) > c.size
  · rw [if_pos hstray]
    exact if_pos hstray
  · rw [if_neg hstray]
    refine (if_neg hstray).trans ?_
    by_cases hmal : ((byteAt c.buffer 0).toNat : Int) < usbDdkDtInterfaceSize ∨
        (byteAt c.buffer 4).toNat > usbMaxEndpoints
    · rw [if_pos hmal]
      exact if_pos hmal
    · rw [if_neg hmal]
      exact if_neg hmal

/-- The part of a turn behind an accepted record. -/
theorem parseAltSetting_accepted {st : InterfaceLoop} (ha : st.Accepts) (h : st.cursor.Valid) :
    parseAltSetting st.written st.target st.desc =
      if st.accepted.cursor.size < usbDdkDtInterfaceSize ∨
          byteAt st.accepted.cursor.buffer 1 ≠ usbDdkDtInterface ∨
          ((byteAt st.accepted.cursor.buffer 2).toNat : Int) ≠ st.accepted.interfaceNumber then
        .inr (st.accepted.leave (toInt32 st.accepted.offset))
      else
        .inl st.accepted := by
  have hc := h.advance (n := (byteAt st.cursor.buffer 0).toNat) (Int.natCast_nonneg _)
  have hfill : (if findNextDescriptor st.afterHeader ≠ 0 then
      fillExtraDescriptor none 0 st.afterHeader.buffer (findNextDescriptor st.afterHeader)
      else (usbDdkSuccess, none, 0)) =
      (usbDdkSuccess, extraBlock (extras st.afterHeader),
        (extras st.afterHeader).flatten.length) := by
    split
    · rename_i hne
      exact fillExtraDescriptor_extras hc hne
    · rename_i h0
      rw [extraBlock, (extras_flatten_nil hc.inBounds).mpr (not_not.mp h0)]
      rfl
  have hret : ¬ st.endpoints.1 < usbDdkSuccess := Int.not_lt.mpr (ha.passes h).1
  have hbLength : st.desc.interfaceDescriptor.bLength = byteAt st.cursor.buffer 0 := rfl
  have hcursor : st.written.cursor = st.cursor := rfl
  have hend : parseInterfaceEndpoint { st.desc with
      endPoint := none
      extra := extraBlock (extras st.afterHeader)
      extraLength := (extras st.afterHeader).flatten.length }
      (st.afterHeader.advance (findNextDescriptor st.afterHeader)) = st.endpoints := rfl
  have hset : { st.written.usbInterface with
      numAltsetting := st.written.usbInterface.numAltsetting + 1 }.setSlot st.target
        st.endpoints.2.1 = st.accepted.usbInterface :=
    setSlot_setSlot { st.usbInterface with numAltsetting := st.usbInterface.numAltsetting + 1 }
      st.target st.desc st.endpoints.2.1
  have hoffset : st.written.offset + (byteAt st.cursor.buffer 0).toNat +
      findNextDescriptor st.afterHeader +
      ((st.afterHeader.advance (findNextDescriptor st.afterHeader)).size - st.endpoints.2.2.size) =
      st.accepted.offset := by
    simp only [InterfaceLoop.written, InterfaceLoop.accepted, InterfaceLoop.afterHeader,
      Cursor.advance]
    omega
  simp only [parseAltSetting, hbLength, hcursor, hfill, hend, hset, hoffset]
  rw [if_neg (not_not.mpr rfl), if_neg hret]
  rfl

/-- A turn of `ParseInterface`, case by case. -/
theorem parseInterfaceBody_turn {st : InterfaceLoop} (h : st.cursor.Valid) :
    InterfaceTurn st (parseInterfaceBody st) := by
  rw [parseInterfaceBody]
  by_cases hsize : st.cursor.size < 9
  · rw [if_pos hsize]
    exact .short hsize
  simp only [if_neg hsize, rawParseDescriptor_interface (Int.not_lt.mp hsize)]
  by_cases hstray : byteAt st.cursor.buffer 1 ≠ usbDdkDtInterface ∨
      ((byteAt st.cursor.buffer 0).toNat : Int) > st.cursor.size
  · rw [if_pos hstray, if_pos rfl]
    exact .stray (Int.not_lt.mp hsize) hstray
  obtain ⟨htype, hle⟩ := not_or.mp hstray
  have htype := not_not.mp htype
  have hle := Int.not_lt.mp hle
  rw [if_neg hstray]
  by_cases hmal : ((byteAt st.cursor.buffer 0).toNat : Int) < usbDdkDtInterfaceSize ∨
      (byteAt st.cursor.buffer 4).toNat > usbMaxEndpoints
  · rw [if_pos hmal, if_neg (by decide), if_pos rfl]
    exact .malformed (Int.not_lt.mp hsize) htype hle (hmal.imp Int.ofNat_lt.mp id)
  rw [if_neg hmal, if_neg (by decide), if_neg (by decide)]
  have ha : st.Accepts := {
    size := Int.not_lt.mp hsize
    type := htype
    length := Int.ofNat_le.mp (Int.not_lt.mp (not_or.mp hmal).1)
    length_le := hle
    endpoints := Nat.not_lt.mp (not_or.mp hmal).2 }
  refine (congrArg (InterfaceTurn st) (parseAltSetting_accepted ha h)).mpr ?_
  by_cases hlast : st.accepted.cursor.size < usbDdkDtInterfaceSize ∨
      byteAt st.accepted.cursor.buffer 1 ≠ usbDdkDtInterface ∨
      ((byteAt st.accepted.cursor.buffer 2).toNat : Int) ≠ st.accepted.interfaceNumber
  · rw [if_pos hlast]
    refine .last ha fun hnext => ?_
    rcases hlast with hlt | hne | hne
    · exact absurd hnext.size (Int.not_le.mpr hlt)
    · exact hne hnext.type
    · exact hne hnext.number
  · rw [if_neg hlast]
    obtain ⟨h1, h2⟩ := not_or.mp hlast
    obtain ⟨h2, h3⟩ := not_or.mp h2
    exact .next ha ⟨Int.not_lt.mp h1, not_not.mp h2, not_not.mp h3⟩

theorem InterfaceLoop.Accepts.valid {st : InterfaceLoop} (ha : st.Accepts)
    (h : st.cursor.Valid) : st.accepted.cursor.Valid :=
  (ha.passes h).2.valid (h.advance (Int.natCast_nonneg _))

theorem InterfaceLoop.Accepts.size_le {st : InterfaceLoop} (ha : st.Accepts)
    (h : st.cursor.Valid) :
    st.accepted.cursor.size + (byteAt st.cursor.buffer 0).toNat ≤ st.cursor.size := by
  have hle := (ha.passes h).2.size_le
  simp only [accepted, afterHeader, Cursor.advance] at hle ⊢
  omega

/-- The loop of `ParseInterface` at its first turn. -/
def interfaceEntry (usbInterface : UsbDdkInterface) (c : Cursor) : InterfaceLoop where
  usbInterface := usbInterface
  cursor := c
  offset := 0
  interfaceNumber := -1
  events := []

theorem turn_inl {st st' : InterfaceLoop} (h : st.cursor.Valid)
    (hturn : parseInterfaceBody st = .inl st') :
    st.Accepts ∧ st.accepted.AtNext ∧ st' = st.accepted := by
  have hcase := parseInterfaceBody_turn h
  rw [hturn] at hcase
  cases hcase with
  | next ha hnext => exact ⟨ha, hnext, rfl⟩

/-- The remaining size is a variant of `ParseInterface`. -/
theorem parseInterfaceBody_variant {u : UsbDdkInterface} {c : Cursor} (h : c.Valid)
    {t t' : InterfaceLoop} (ht : Loop.Reaches parseInterfaceBody (interfaceEntry u c) t)
    (hturn : parseInterfaceBody t = .inl t') : t'.cursor.size.toNat < t.cursor.size.toNat := by
  have hvalid : t.cursor.Valid := by
    refine ht.invariant (P := fun t => t.cursor.Valid) (fun {t t'} ht hturn => ?_) h
    obtain ⟨ha, -, rfl⟩ := turn_inl ht hturn
    exact ha.valid ht
  obtain ⟨ha, -, rfl⟩ := turn_inl hvalid hturn
  have hle := ha.size_le hvalid
  have := ha.size
  have := ha.length
  omega

theorem parseInterface_returns {u : UsbDdkInterface} {c : Cursor} (h : c.Valid)
    (hnum : u.numAltsetting.toNat ≤ usbMaxAltSetting) :
    Loop.Returns parseInterfaceBody (interfaceEntry u c) (parseInterface u c) := by
  rw [parseInterface, if_neg (Nat.not_lt.mpr hnum)]
  exact Loop.run_returns _ (parseInterfaceBody_variant h)

/-- **Rule for `ParseInterface`.** An invariant of the accepted turns, with what holds at each of
the exits. -/
theorem parseInterface_rule {u : UsbDdkInterface} {c : Cursor} (h : c.Valid)
    (hnum : u.numAltsetting.toNat ≤ usbMaxAltSetting) {P : InterfaceLoop → Prop}
    {Q : InterfaceResult → Prop} (entry : P (interfaceEntry u c))
    (next : ∀ {t : InterfaceLoop}, t.cursor.Valid → P t → t.Accepts → t.accepted.AtNext →
      P t.accepted)
    (exit : ∀ {t : InterfaceLoop} {b}, t.cursor.Valid → P t → InterfaceTurn t (.inr b) →
      Q b) : Q (parseInterface u c) := by
  refine (parseInterface_returns h hnum).post (P := fun t => t.cursor.Valid ∧ P t)
    (fun ⟨hv, hi⟩ hturn => ?_) (fun ⟨hv, hi⟩ hturn => ?_) ⟨h, entry⟩
  · obtain ⟨ha, hnext, rfl⟩ := turn_inl hv hturn
    exact ⟨ha.valid hv, next hv hi ha hnext⟩
  · exact exit hv hi (hturn ▸ parseInterfaceBody_turn hv)

/-- What the later turns of `ParseInterface` keep, entered with `size` bytes: the distance from the
entry is positive and stays below `2 ^ 32` even after an error code was taken for a length. -/
structure Advanced (size : Int) (st : InterfaceLoop) : Prop where
  offset : st.offset = size - st.cursor.size
  pos : 9 ≤ st.offset
  low : -(usbMaxEndpoints * usbDdkInvalidOperation) ≤ st.cursor.size

theorem InterfaceLoop.Accepts.advanced {st : InterfaceLoop} (ha : st.Accepts)
    (h : st.cursor.Valid) {size : Int} (hoffset : st.offset = size - st.cursor.size)
    (hnonneg : 0 ≤ st.offset) : Advanced size st.accepted where
  offset := by
    simp only [accepted]
    omega
  pos := by
    have hle := ha.size_le h
    have hlen := ha.length
    simp only [accepted] at hle ⊢
    omega
  low := by
    have hlow := (ha.passes h).2.low
    have hle := ha.length_le
    simp only [accepted, afterHeader, Cursor.advance, usbMaxEndpoints, usbDdkInvalidOperation]
      at hlow ⊢
    omega

theorem Advanced.toInt32_ne_zero {size : Int} (hsize : size < 2 ^ 31) {st : InterfaceLoop}
    (h : Advanced size st) : toInt32 st.offset ≠ 0 := by
  have hoffset := h.offset
  have hpos := h.pos
  have hlow := h.low
  simp only [usbMaxEndpoints, usbDdkInvalidOperation] at hlow
  exact Usb.toInt32_ne_zero (by omega) (by omega)

/-! ## The configuration -/

/-- The loop of `ParseConfigurationDes` can be in this state: its extra block is as long as it says,
and what is left of the vector still fits behind it. -/
structure ConfigLoop.Valid (st : ConfigLoop) : Prop where
  cursor : st.cursor.Valid
  extraLength : (st.config.extra.getD []).length = st.config.extraLength
  extraBound : st.config.extraLength + max st.cursor.size 0 < 2 ^ 31

section
variable (interfaceNums : List UInt8) (st : ConfigLoop)

/-- The state behind the extra records at the cursor. -/
def ConfigLoop.skipped : ConfigLoop :=
  if findNextDescriptor st.cursor = 0 then st
  else { st with
    config := { st.config with
      extra := some (st.config.extra.getD [] ++ (extras st.cursor).flatten)
      extraLength := st.config.extraLength + (extras st.cursor).flatten.length }
    cursor := st.cursor.advance (findNextDescriptor st.cursor) }

/-- The result of parsing into interface `i`. -/
def ConfigLoop.parsed (i : Nat) : InterfaceResult :=
  parseInterface ((st.config.interface.getD []).getD i {}) st.cursor

/-- The state once interface `i` has been parsed, the cursor not yet moved. -/
def ConfigLoop.stored (i : Nat) : ConfigLoop :=
  { st with
    config := st.config.setInterface i (st.parsed i).usbInterface
    events := st.events ++ (st.parsed i).events }

/-- The state after a turn that parses into interface `i`. -/
def ConfigLoop.moved (i : Nat) : ConfigLoop :=
  { st.stored i with cursor := st.cursor.advance (st.parsed i).ret }

/-- The number of the interface at the cursor is the one of index `i`. -/
structure ConfigLoop.Selects (i : Nat) : Prop where
  size : 2 < st.cursor.size
  room : st.config.configDescriptor.bNumInterfaces.toNat < usbMaxInterfaces
  index : interfaceIndex st.config interfaceNums (byteAt st.cursor.buffer 2) = some i

/-- What the part of a turn of `ParseConfigurationDes` behind the extra records does. -/
inductive ConfigTurn : ConfigLoop ⊕ ConfigResult → Prop where
  | finished : st.cursor.size ≤ 2 → ConfigTurn (.inr (st.leave st.cursor.size))
  | overlong : 2 < st.cursor.size →
      usbMaxInterfaces ≤ st.config.configDescriptor.bNumInterfaces.toNat →
      ConfigTurn (.inr (st.leave usbDdkInvalidParameter))
  | unknown : 2 < st.cursor.size →
      st.config.configDescriptor.bNumInterfaces.toNat < usbMaxInterfaces →
      interfaceIndex st.config interfaceNums (byteAt st.cursor.buffer 2) = none →
      ConfigTurn (.inr (st.leave usbDdkInvalidParameter))
  | failed (i : Nat) : st.Selects interfaceNums i → (st.parsed i).ret < 0 →
      ConfigTurn (.inr ((st.stored i).leave (st.parsed i).ret))
  | next (i : Nat) : st.Selects interfaceNums i → 0 ≤ (st.parsed i).ret →
      ConfigTurn (.inl (st.moved i))

theorem parseConfigurationInterface_turn :
    ConfigTurn interfaceNums st (parseConfigurationInterface interfaceNums st) := by
  rw [parseConfigurationInterface]
  by_cases hsize : st.cursor.size ≤ descHeaderLength
  · rw [if_pos hsize]
    exact .finished hsize
  rw [if_neg hsize]
  have hsize := Int.not_le.mp hsize
  by_cases hroom : usbMaxInterfaces ≤ st.config.configDescriptor.bNumInterfaces.toNat
  · rw [if_pos hroom]
    exact .overlong hsize hroom
  rw [if_neg hroom]
  have hroom := Nat.not_le.mp hroom
  cases hindex : interfaceIndex st.config interfaceNums (byteAt st.cursor.buffer 2) with
  | none => exact .unknown hsize hroom hindex
  | some i =>
    have hsel : st.Selects interfaceNums i := ⟨hsize, hroom, hindex⟩
    by_cases hret : (st.parsed i).ret < 0
    · exact (congrArg (ConfigTurn interfaceNums st) (if_pos hret)).mpr (.failed i hsel hret)
    · exact (congrArg (ConfigTurn interfaceNums st) (if_neg hret)).mpr
        (.next i hsel (Int.not_lt.mp hret))

end

theorem ConfigLoop.Selects.next {interfaceNums : List UInt8} {st : ConfigLoop} {i : Nat}
    (hsel : st.Selects interfaceNums i) (hret : 0 ≤ (st.parsed i).ret) :
    parseConfigurationInterface interfaceNums st = .inl (st.moved i) := by
  rw [parseConfigurationInterface, if_neg (Int.not_le.mpr hsel.size),
    if_neg (Nat.not_le.mpr hsel.room), hsel.index]
  exact if_neg (Int.not_lt.mpr hret)

/-- A turn of `ParseConfigurationDes` with a header left skips the extra records and goes on behind
them: `FillExtraDescriptor` does not fail. -/
theorem parseConfigurationDesBody_skipped (interfaceNums : List UInt8) {st : ConfigLoop}
    (h : st.Valid) (hsize : 2 ≤ st.cursor.size) :
    parseConfigurationDesBody interfaceNums st =
      parseConfigurationInterface interfaceNums st.skipped := by
  have hnonneg := findNextDescriptor_nonneg h.cursor.inBounds
  have hle := findNextDescriptor_le h.cursor.inBounds (by omega)
  have hbound := h.extraBound
  rw [parseConfigurationDesBody, if_neg (Int.not_lt.mpr hsize), ConfigLoop.skipped]
  by_cases hnext : findNextDescriptor st.cursor = 0
  · simp only [if_pos hnext]
  · have hfill := fillExtraDescriptor_append st.cursor.buffer h.extraLength
      (show 0 < findNextDescriptor st.cursor by omega) (by omega)
    rw [take_extras h.cursor.inBounds] at hfill
    simp only [if_neg hnext, hfill]
    rw [findNextDescriptor_extras h.cursor.inBounds, Int.toNat_natCast]
    rfl

theorem ConfigLoop.Valid.skipped {st : ConfigLoop} (h : st.Valid) (hsize : 0 ≤ st.cursor.size) :
    st.skipped.Valid := by
  rw [ConfigLoop.skipped]
  split
  · exact h
  · have hle := findNextDescriptor_le h.cursor.inBounds hsize
    have hnonneg := findNextDescriptor_nonneg h.cursor.inBounds
    have hbound := h.extraBound
    refine ⟨h.cursor.advance hnonneg, ?_, ?_⟩
    · rw [Option.getD_some, List.length_append, h.extraLength]
    · simp only [Cursor.advance]
      rw [findNextDescriptor_extras h.cursor.inBounds] at hle ⊢
      omega

theorem ConfigLoop.cursor_skipped (st : ConfigLoop) :
    st.skipped.cursor = st.cursor.advance (findNextDescriptor st.cursor) := by
  rw [ConfigLoop.skipped]
  split
  · rename_i h
    rw [h, Cursor.advance_zero]
  · rfl

theorem ConfigLoop.Valid.moved {st : ConfigLoop} (h : st.Valid) {i : Nat}
    (hret : 0 ≤ (st.parsed i).ret) : (st.moved i).Valid where
  cursor := h.cursor.advance hret
  extraLength := h.extraLength
  extraBound := by
    have := h.extraBound
    simp only [ConfigLoop.moved, ConfigLoop.stored, UsbDdkConfigDescriptor.setInterface,
      Cursor.advance]
    omega

theorem config_turn_inl {interfaceNums : List UInt8} {st st' : ConfigLoop} (h : st.Valid)
    (hturn : parseConfigurationDesBody interfaceNums st = .inl st') :
    ∃ i, 2 ≤ st.cursor.size ∧ st.skipped.Selects interfaceNums i ∧
      0 ≤ (st.skipped.parsed i).ret ∧ st' = st.skipped.moved i := by
  by_cases hsize : st.cursor.size < descHeaderLength
  · rw [parseConfigurationDesBody, if_pos hsize] at hturn
    cases hturn
  · have hsize := Int.not_lt.mp hsize
    have hcase := parseConfigurationInterface_turn interfaceNums st.skipped
    rw [← parseConfigurationDesBody_skipped _ h hsize, hturn] at hcase
    cases hcase with
    | next i hsel hret => exact ⟨i, hsize, hsel, hret, rfl⟩

/-- What a turn of `ParseConfigurationDes` leaves the loop with. -/
theorem config_turn_inr {interfaceNums : List UInt8} {st : ConfigLoop} {b : ConfigResult}
    (h : st.Valid) (hturn : parseConfigurationDesBody interfaceNums st = .inr b) :
    (st.cursor.size < 2 ∧ b = st.leave st.cursor.size) ∨
      (2 ≤ st.cursor.size ∧ ConfigTurn interfaceNums st.skipped (.inr b)) := by
  by_cases hsize : st.cursor.size < descHeaderLength
  · rw [parseConfigurationDesBody, if_pos hsize] at hturn
    cases hturn
    exact .inl ⟨hsize, rfl⟩
  · have hsize := Int.not_lt.mp hsize
    rw [parseConfigurationDesBody_skipped _ h hsize] at hturn
    exact .inr ⟨hsize, hturn ▸ parseConfigurationInterface_turn interfaceNums st.skipped⟩

theorem valid_of_reaches {interfaceNums : List UInt8} {st st' : ConfigLoop} (h : st.Valid)
    (hreach : Loop.Reaches (parseConfigurationDesBody interfaceNums) st st') : st'.Valid :=
  hreach.invariant (fun {t t'} ht hturn => by
    obtain ⟨i, hsize, -, hret, rfl⟩ := config_turn_inl ht hturn
    exact (ht.skipped (by omega)).moved hret) h

end ExtDevMgr.Usb
