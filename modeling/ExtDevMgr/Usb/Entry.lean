import ExtDevMgr.Usb.Turns
import ExtDevMgr.Usb.Counting

/-!
# The entry of the parser

`ParseConfiguration` rejects a header, or enters the loop of `ParseConfigurationDes` in `entryState`;
`ParseUsbConfigDescriptor` returns exactly when that loop does.
-/

namespace ExtDevMgr.Usb
open Records

theorem size_vectorCursor (configBuffer : List UInt8) :
    (vectorCursor configBuffer).size = toInt32 configBuffer.length := rfl

theorem toInt32_le {n : Int} (hn : 0 ≤ n) : toInt32 n ≤ n := by
  by_cases hlt : n < 2 ^ 31
  · exact Int.le_of_eq (toInt32_of_bounds (by omega) hlt)
  · have := toInt32_lt n
    omega

theorem valid_vectorCursor (configBuffer : List UInt8) : (vectorCursor configBuffer).Valid where
  inBounds := by
    rw [Cursor.InBounds, size_vectorCursor]
    exact toInt32_le (Int.natCast_nonneg configBuffer.length)
  lt := by
    rw [size_vectorCursor]
    exact toInt32_lt configBuffer.length

theorem size_vectorCursor_of_lt {configBuffer : List UInt8}
    (h : (configBuffer.length : Int) < 2 ^ 31) :
    (vectorCursor configBuffer).size = configBuffer.length :=
  toInt32_of_bounds (by omega) h

theorem bytes_vectorCursor_of_lt {configBuffer : List UInt8}
    (h : (configBuffer.length : Int) < 2 ^ 31) : (vectorCursor configBuffer).bytes = configBuffer := by
  rw [Cursor.bytes, size_vectorCursor_of_lt h, Int.toNat_natCast]
  exact List.take_length

/-- The checks of `ParseConfiguration` pass, and at least one interface is counted. -/
structure AcceptsHeader (c : Cursor) : Prop where
  size : 9 ≤ c.size
  type : byteAt c.buffer 1 = usbDdkDtConfig
  length : 9 ≤ (byteAt c.buffer 0).toNat
  length_le : ((byteAt c.buffer 0).toNat : Int) ≤ c.size % 2 ^ 8
  interfaces : (byteAt c.buffer 4).toNat ≤ usbMaxInterfaces
  counted : (getInterfaceNumber c).1 ≠ []

/-- The state in which the loop of `ParseConfigurationDes` is entered. -/
def entryState (c : Cursor) : ConfigLoop where
  config := {
    configDescriptor := {
      UsbConfigDescriptor.load c.buffer {} with
      bNumInterfaces := UInt8.ofNat (getInterfaceNumber c).1.length }
    interface := some (allocateInterfaces (getInterfaceNumber c).2) }
  cursor := c.advance (byteAt c.buffer 0).toNat
  events := []

/-- A rejected header: the code is the positive `USB_DDK_INVALID_OPERATION`, and nothing has been
allocated. -/
structure RejectsHeader (c : Cursor) (result : ConfigResult) : Prop where
  not_accepts : ¬ AcceptsHeader c
  ret : result.ret = usbDdkInvalidOperation
  interface : result.config.interface = none
  extra : result.config.extra = none
  events : result.events = []

theorem UsbConfigDescriptor.load_take (bytes : List UInt8) (dest : UsbConfigDescriptor) {n : Nat}
    (hn : 9 ≤ n) : load (bytes.take n) dest = load bytes dest := by
  simp only [load, byteAt_take (show 0 < n by omega), byteAt_take (show 1 < n by omega),
    byteAt_take (show 2 < n by omega), byteAt_take (show 3 < n by omega),
    byteAt_take (show 4 < n by omega), byteAt_take (show 5 < n by omega),
    byteAt_take (show 6 < n by omega), byteAt_take (show 7 < n by omega),
    byteAt_take (show 8 < n by omega)]

theorem parseConfigurationEntry_cases {c : Cursor} (h : c.InBounds) :
    (AcceptsHeader c ∧
      parseConfigurationEntry {} c = .inl ((getInterfaceNumber c).1, entryState c)) ∨
    ∃ result, RejectsHeader c result ∧ parseConfigurationEntry {} c = .inr result := by
  rw [parseConfigurationEntry]
  by_cases hsize : c.size < usbDdkDtConfigSize
  · rw [if_pos hsize]
    exact .inr ⟨_, ⟨fun ha => absurd ha.size (Int.not_le.mpr hsize), rfl, rfl, rfl, rfl⟩, rfl⟩
  rw [if_neg hsize]
  have hload : (parseDescriptor .config UsbConfigDescriptor.load {} 9 c.buffer c.size).2 =
      .load c.buffer {} := by
    rw [parseDescriptor_of_le (Int.not_lt.mp hsize) (by decide) (by decide),
      UsbConfigDescriptor.load_take _ _ (by decide)]
  simp only [hload]
  by_cases hhead : byteAt c.buffer 1 ≠ usbDdkDtConfig ∨
      ((byteAt c.buffer 0).toNat : Int) < usbDdkDtConfigSize ∨
      ((byteAt c.buffer 0).toNat : Int) > c.size % 2 ^ 8 ∨
      (byteAt c.buffer 4).toNat > usbMaxInterfaces
  · refine .inr ⟨_, ⟨fun ha => ?_, rfl, rfl, rfl, rfl⟩, if_pos hhead⟩
    have hlength := ha.length
    have hlength_le := ha.length_le
    have hinterfaces := ha.interfaces
    rcases hhead with htype | hhead
    · exact htype ha.type
    · simp only [usbDdkDtConfigSize] at hhead
      omega
  obtain ⟨htype, hhead'⟩ := not_or.mp hhead
  simp only [usbDdkDtConfigSize] at hsize hhead'
  by_cases hnil : (getInterfaceNumber c).1 = []
  · refine .inr ⟨_, ⟨fun ha => ha.counted hnil, rfl, rfl, rfl, rfl⟩,
      (if_neg hhead).trans (if_pos (.inl (List.length_eq_zero_iff.mpr hnil)))⟩
  · have hlen := (counts_getInterfaceNumber h).length_le
    have hcount : ¬ ((getInterfaceNumber c).1.length = 0 ∨
        (getInterfaceNumber c).1.length > usbMaxAltSetting) := by
      rw [List.length_eq_zero_iff, not_or]
      refine ⟨hnil, ?_⟩
      simp only [usbMaxInterfaces, usbMaxAltSetting] at hlen ⊢
      omega
    refine .inl ⟨⟨by omega, not_not.mp htype, by omega, by omega, by omega, hnil⟩, ?_⟩
    exact (if_neg hhead).trans (if_neg hcount)

theorem AcceptsHeader.entry {c : Cursor} (ha : AcceptsHeader c) (h : c.InBounds) :
    parseConfigurationEntry {} c = .inl ((getInterfaceNumber c).1, entryState c) := by
  rcases parseConfigurationEntry_cases h with ⟨-, hentry⟩ | ⟨result, hrej, -⟩
  · exact hentry
  · exact absurd ha hrej.not_accepts

theorem AcceptsHeader.valid {c : Cursor} (h : c.Valid) : (entryState c).Valid where
  cursor := h.advance (Int.natCast_nonneg _)
  extraLength := rfl
  extraBound := by
    have := h.lt
    simp only [entryState, Cursor.advance]
    omega

/-- The loop of `ParseConfigurationDes` for the interface numbers counted from `c` on. -/
abbrev loopBody (c : Cursor) : ConfigLoop → ConfigLoop ⊕ ConfigResult :=
  parseConfigurationDesBody (getInterfaceNumber c).1

/-- `st` is at the head of a turn of the loop of `ParseConfigurationDes` when `c` is parsed. -/
structure ReachedFrom (c : Cursor) (st : ConfigLoop) : Prop where
  accepts : AcceptsHeader c
  reaches : Loop.Reaches (loopBody c) (entryState c) st

theorem ReachedFrom.valid {c : Cursor} {st : ConfigLoop} (h : ReachedFrom c st) (hc : c.Valid) :
    st.Valid :=
  valid_of_reaches (AcceptsHeader.valid hc) h.reaches

/-- The loop of `ParseConfigurationDes` on a vector. -/
abbrev configLoop (configBuffer : List UInt8) : ConfigLoop → ConfigLoop ⊕ ConfigResult :=
  loopBody (vectorCursor configBuffer)

/-- `st` is at the head of a turn of the loop of `ParseConfigurationDes` when the vector is
parsed. -/
abbrev Reached (configBuffer : List UInt8) (st : ConfigLoop) : Prop :=
  ReachedFrom (vectorCursor configBuffer) st

theorem Reached.valid {configBuffer : List UInt8} {st : ConfigLoop} (h : Reached configBuffer st) :
    st.Valid :=
  ReachedFrom.valid h (valid_vectorCursor configBuffer)

/-- The state after a turn, or the state itself where the turn leaves the loop. -/
def nextState (configBuffer : List UInt8) (st : ConfigLoop) : ConfigLoop :=
  (configLoop configBuffer st).elim id fun _ => st

theorem turn_nextState {configBuffer : List UInt8} {st : ConfigLoop}
    (h : (configLoop configBuffer st).isLeft = true) :
    configLoop configBuffer st = .inl (nextState configBuffer st) := by
  obtain ⟨st', hst'⟩ := Sum.isLeft_iff.mp h
  rw [nextState, hst']
  rfl

theorem Reached.next {configBuffer : List UInt8} {st : ConfigLoop} (h : Reached configBuffer st)
    (hleft : (configLoop configBuffer st).isLeft = true) :
    Reached configBuffer (nextState configBuffer st) :=
  ⟨h.accepts, h.reaches.tail (turn_nextState hleft)⟩

/-- `ParseUsbConfigDescriptor` returns `outcome` on the vector. -/
def ParserReturns (configBuffer : List UInt8) (outcome : ParseOutcome) : Prop :=
  ∃ fuel, parseUsbConfigDescriptor fuel configBuffer = some outcome

/-- What `ParseUsbConfigDescriptor` makes of the result of `ParseConfiguration`. -/
def outcomeOf (result : ConfigResult) : ParseOutcome :=
  if result.ret < 0 then
    { ret := result.ret, config := none, tmpConfig := result.config
      freed := freeUsbConfigDescriptor result.config
      unresolved := result.size, events := result.events }
  else
    { ret := result.ret, config := some result.config, tmpConfig := result.config
      freed := [], unresolved := result.size, events := result.events }

theorem ret_outcomeOf (result : ConfigResult) : (outcomeOf result).ret = result.ret := by
  rw [outcomeOf]
  split <;> rfl

theorem parseUsbConfigDescriptor_eq (fuel : Nat) (configBuffer : List UInt8) :
    parseUsbConfigDescriptor fuel configBuffer =
      (parseConfiguration fuel {} (vectorCursor configBuffer)).map outcomeOf := rfl

theorem parseConfiguration_inl {fuel : Nat} {config : UsbDdkConfigDescriptor} {c : Cursor}
    {interfaceNums : List UInt8} {st : ConfigLoop}
    (h : parseConfigurationEntry config c = .inl (interfaceNums, st)) :
    parseConfiguration fuel config c = parseConfigurationDes fuel interfaceNums st := by
  rw [parseConfiguration, h]

theorem parseConfiguration_inr {fuel : Nat} {config : UsbDdkConfigDescriptor} {c : Cursor}
    {result : ConfigResult} (h : parseConfigurationEntry config c = .inr result) :
    parseConfiguration fuel config c = some result := by
  rw [parseConfiguration, h]

theorem parserReturns_iff {configBuffer : List UInt8} {outcome : ParseOutcome} :
    ParserReturns configBuffer outcome ↔ ∃ fuel result,
      parseConfiguration fuel {} (vectorCursor configBuffer) = some result ∧
      outcomeOf result = outcome := by
  simp only [ParserReturns, parseUsbConfigDescriptor_eq, Option.map_eq_some_iff]

theorem parserReturns_of_accepts {configBuffer : List UInt8}
    (ha : AcceptsHeader (vectorCursor configBuffer)) {outcome : ParseOutcome} :
    ParserReturns configBuffer outcome ↔ ∃ result,
      Loop.Returns (configLoop configBuffer) (entryState (vectorCursor configBuffer)) result ∧
      outcome = outcomeOf result := by
  have hentry := ha.entry (valid_vectorCursor configBuffer).inBounds
  rw [parserReturns_iff]
  constructor
  · rintro ⟨fuel, result, hresult, rfl⟩
    exact ⟨result, ⟨fuel, (parseConfiguration_inl hentry).symm.trans hresult⟩, rfl⟩
  · rintro ⟨result, ⟨fuel, hresult⟩, rfl⟩
    exact ⟨fuel, result, (parseConfiguration_inl hentry).trans hresult, rfl⟩

theorem parserReturns_of_rejects {configBuffer : List UInt8}
    (hrej : ¬ AcceptsHeader (vectorCursor configBuffer)) :
    ∃ result, RejectsHeader (vectorCursor configBuffer) result ∧
      ∀ outcome, ParserReturns configBuffer outcome ↔ outcome = outcomeOf result := by
  rcases parseConfigurationEntry_cases (valid_vectorCursor configBuffer).inBounds with
    ⟨ha, -⟩ | ⟨result, hresult, hentry⟩
  · exact absurd ha hrej
  · refine ⟨result, hresult, fun outcome => ?_⟩
    rw [parserReturns_iff]
    constructor
    · rintro ⟨fuel, result', hresult', rfl⟩
      rw [parseConfiguration_inr hentry, Option.some.injEq] at hresult'
      rw [hresult']
    · rintro rfl
      exact ⟨0, result, parseConfiguration_inr hentry, rfl⟩

/-- A rejected header has a positive result. -/
theorem accepts_of_zero {configBuffer : List UInt8} {outcome : ParseOutcome}
    (h : ParserReturns configBuffer outcome) (hret : outcome.ret = 0) :
    AcceptsHeader (vectorCursor configBuffer) := by
  by_contra hrej
  obtain ⟨result, hresult, hiff⟩ := parserReturns_of_rejects hrej
  rw [(hiff outcome).mp h, ret_outcomeOf, hresult.ret] at hret
  exact absurd hret (by decide)

end ExtDevMgr.Usb
