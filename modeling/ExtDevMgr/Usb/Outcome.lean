import ExtDevMgr.Usb.Callers
import ExtDevMgr.Usb.Memory

/-!
# The parser and its callers

The parser's contract is a negative code with nothing assigned and everything freed, or the number
of unresolved bytes with the configuration assigned; its callers take zero for success. As the error
codes are positive, the three agree exactly on the vectors that the parser resolves to the last byte
or that drive the remaining size below zero (`Resolves`).
-/

namespace ExtDevMgr.Usb
open Records

/-! ## The contract -/

/-- A failure: nothing is assigned, and all that was allocated is freed. -/
structure ParseOutcome.Fails (outcome : ParseOutcome) : Prop where
  ret : outcome.ret < 0
  config : outcome.config = none
  freed : outcome.freed = ownedConfig outcome.tmpConfig
  lost : ∀ k, .lost k ∉ outcome.events

/-- A success: the result is the number of unresolved bytes, and the configuration is assigned. -/
structure ParseOutcome.Succeeds (configBuffer : List UInt8) (outcome : ParseOutcome) : Prop where
  nonneg : 0 ≤ outcome.ret
  le : outcome.ret ≤ configBuffer.length
  unresolved : outcome.ret = outcome.unresolved
  config : outcome.config = some outcome.tmpConfig

/-- The parser keeps its contract on a vector, `OH_Usb_GetConfigDescriptor` hands out a configuration
exactly when it returns zero, and `GetInterfaceDescriptor` accepts exactly the successes. -/
structure CallersAgree (fuel : Nat) (configBuffer : List UInt8) (outcome : ParseOutcome) :
    Prop where
  parser : outcome.Fails ∨ outcome.Succeeds configBuffer
  handsOut : ∀ hdf ddk configValid, (∀ reply ∈ ddk, reply.descriptor = configBuffer) →
    ∀ ret config, ohUsbGetConfigDescriptor fuel hdf ddk configValid = some (ret, config) →
      (config.isSome = true ↔ ret = usbDdkSuccess)
  accepts : ∀ edmErrOffset interfaceList,
    (∃ interfaceList', getInterfaceDescriptor fuel edmErrOffset (some edmOk)
      (some { ret := edmOk, descriptor := configBuffer }) interfaceList =
        some (edmOk, interfaceList')) ↔ outcome.Succeeds configBuffer

/-! ## The condition -/

/-- A turn of `ParseConfigurationDes` does not end the parsing with a positive result: it is not left
with one byte, nor with one or two behind the extra descriptors, and with more behind them fewer
than 32 interfaces are recorded and the number there is one of theirs. -/
structure TurnResolves (interfaceNums : List UInt8) (st : ConfigLoop) : Prop where
  single : st.cursor.size ≠ 1
  rest : 2 ≤ st.cursor.size → st.skipped.cursor.size ≠ 1 ∧ st.skipped.cursor.size ≠ 2
  number : 2 ≤ st.cursor.size → 2 < st.skipped.cursor.size →
    interfaceNums.length < usbMaxInterfaces ∧ byteAt st.skipped.cursor.buffer 2 ∈ interfaceNums

/-- The header is accepted and every turn resolves. -/
structure Resolves (configBuffer : List UInt8) : Prop where
  header : AcceptsHeader (vectorCursor configBuffer)
  turns : ∀ st, Reached configBuffer st →
    TurnResolves (getInterfaceNumber (vectorCursor configBuffer)).1 st

section
variable {origin : Cursor} {st : ConfigLoop}

theorem EntryTrace.configDescriptor (h : EntryTrace origin st) :
    st.config.configDescriptor = (entryState origin).config.configDescriptor := by
  refine Trace.invariant (P := fun st => st.config.configDescriptor = _)
    (fun {st st'} hst hstep => ?_) h rfl
  cases hstep with
  | extras =>
    rw [ConfigLoop.skipped]
    split <;> exact hst
  | reject => exact hst
  | accept => exact hst
  | jump => exact hst

theorem EntryTrace.bNumInterfaces (ho : origin.Valid) (h : EntryTrace origin st) :
    st.config.configDescriptor.bNumInterfaces.toNat = (getInterfaceNumber origin).1.length := by
  have hlen := (counts_getInterfaceNumber ho.inBounds).length_le
  simp only [usbMaxInterfaces] at hlen
  rw [h.configDescriptor]
  exact Nat.mod_eq_of_lt (by omega)

theorem EntryTrace.interfaceIndex_none (ho : origin.Valid) (h : EntryTrace origin st)
    {x : UInt8} : interfaceIndex st.config (getInterfaceNumber origin).1 x = none ↔
      x ∉ (getInterfaceNumber origin).1 := by
  rw [interfaceIndex, h.bNumInterfaces ho, List.take_length, List.findIdx?_eq_none_iff]
  constructor
  · intro hall hmem
    exact of_decide_eq_false (hall x hmem) rfl
  · intro hx y hy
    exact decide_eq_false fun hyx => hx (hyx ▸ hy)

theorem turnResolves_of_selects (ho : origin.Valid) (h : EntryTrace origin st.skipped)
    (hsize : 2 ≤ st.cursor.size) {i : Nat}
    (hsel : st.skipped.Selects (getInterfaceNumber origin).1 i) :
    TurnResolves (getInterfaceNumber origin).1 st := by
  have hlt := hsel.size
  refine ⟨by omega, fun _ => ⟨by omega, by omega⟩, fun _ _ => ⟨?_, ?_⟩⟩
  · rw [← h.bNumInterfaces ho]
    exact hsel.room
  · exact List.mem_of_getElem? (getElem?_of_interfaceIndex hsel.index)

theorem turnResolves_of_inl (ho : origin.Valid) (h : ReachedFrom origin st) {st' : ConfigLoop}
    (hturn : loopBody origin st = .inl st') : TurnResolves (getInterfaceNumber origin).1 st := by
  obtain ⟨i, hsize, hsel, -, -⟩ := config_turn_inl (h.valid ho) hturn
  exact turnResolves_of_selects ho ((h.trace ho).1.tail (.extras hsize)) hsize hsel

/-- The turn that leaves the loop resolves exactly when the result is not positive, and a result of
zero is the number of bytes left. -/
theorem turnResolves_of_inr (ho : origin.Valid) (h : ReachedFrom origin st) {b : ConfigResult}
    (hturn : loopBody origin st = .inr b) :
    (TurnResolves (getInterfaceNumber origin).1 st ↔ b.ret ≤ 0) ∧ (b.ret = 0 → b.size = 0) := by
  rcases config_turn_inr (h.valid ho) hturn with ⟨hlt, rfl⟩ | ⟨hsize, hcase⟩
  · refine ⟨⟨fun hres => ?_, fun hle => ⟨?_, by omega, by omega⟩⟩, id⟩
    · have hne := hres.single
      change st.cursor.size ≤ 0
      omega
    · change st.cursor.size ≤ 0 at hle
      omega
  · have htrace : EntryTrace origin st.skipped := (h.trace ho).1.tail (.extras hsize)
    cases hcase with
    | finished hle =>
      refine ⟨⟨fun hres => ?_, fun hret => ⟨by omega, fun _ => ?_, by omega⟩⟩, id⟩
      · obtain ⟨h1, h2⟩ := hres.rest hsize
        change st.skipped.cursor.size ≤ 0
        omega
      · change st.skipped.cursor.size ≤ 0 at hret
        omega
    | overlong hlt hover =>
      rw [htrace.bNumInterfaces ho] at hover
      refine ⟨⟨fun hres => ?_, fun hret => ?_⟩, fun hret => ?_⟩
      · exact absurd (hres.number hsize hlt).1 (Nat.not_lt.mpr hover)
      · exact absurd (show usbDdkInvalidParameter ≤ 0 from hret) (by decide)
      · exact absurd (show usbDdkInvalidParameter = 0 from hret) (by decide)
    | unknown hlt _ hnone =>
      refine ⟨⟨fun hres => ?_, fun hret => ?_⟩, fun hret => ?_⟩
      · exact absurd (hres.number hsize hlt).2 ((htrace.interfaceIndex_none ho).mp hnone)
      · exact absurd (show usbDdkInvalidParameter ≤ 0 from hret) (by decide)
      · exact absurd (show usbDdkInvalidParameter = 0 from hret) (by decide)
    | failed i hsel hneg =>
      exact ⟨⟨fun _ => Int.le_of_lt hneg, fun _ => turnResolves_of_selects ho htrace hsize hsel⟩,
        fun hzero => absurd hzero (Int.ne_of_lt hneg)⟩

/-- All turns resolve exactly when the result is not positive. -/
theorem turns_resolve_iff (ho : origin.Valid) (ha : AcceptsHeader origin) {b : ConfigResult}
    (h : Loop.Returns (loopBody origin) (entryState origin) b) :
    ((∀ st, ReachedFrom origin st → TurnResolves (getInterfaceNumber origin).1 st) ↔ b.ret ≤ 0) ∧
      (b.ret = 0 → b.size = 0) := by
  obtain ⟨t, hreach, hexit⟩ := Loop.returns_iff.mp h
  obtain ⟨hiff, hzero⟩ := turnResolves_of_inr ho ⟨ha, hreach⟩ hexit
  refine ⟨⟨fun hall => hiff.mp (hall t ⟨ha, hreach⟩), fun hle st hst => ?_⟩, hzero⟩
  cases hturn : loopBody origin st with
  | inl st' => exact turnResolves_of_inl ho hst hturn
  | inr b' =>
    obtain rfl := h.unique (Loop.returns_iff.mpr ⟨st, hst.reaches, hturn⟩)
    exact (turnResolves_of_inr ho hst hturn).1.mpr hle

end

/-! ## The callers -/

section
variable {fuel : Nat} {configBuffer : List UInt8} {outcome : ParseOutcome}

theorem copyInterfaces_of_isSome (edmErrOffset : Int) (us : List UsbDdkInterface)
    (h : ∀ u ∈ us, u.altsetting.isSome = true) (interfaceList : List UsbInterfaceDescriptor) :
    copyInterfaces edmErrOffset us interfaceList =
      (edmOk, interfaceList ++ us.map fun u => (u.slot 0).interfaceDescriptor) := by
  induction us generalizing interfaceList with
  | nil => exact Prod.ext rfl (List.append_nil _).symm
  | cons u us ih =>
    obtain ⟨slots, hslots⟩ := Option.isSome_iff_exists.mp (h u List.mem_cons_self)
    rw [copyInterfaces, hslots]
    dsimp only
    rw [ih (fun u' hu' => h u' (List.mem_cons_of_mem _ hu')), List.append_assoc]
    rfl

theorem map_getD_range (us : List UsbDdkInterface) :
    (List.range us.length).map (us.getD · {}) = us := by
  refine List.ext_getElem (by rw [List.length_map, List.length_range]) fun i _ hi => ?_
  rw [List.getElem_map, List.getElem_range, List.getD_eq_getElem _ _ hi]

/-- A result of zero with a complete configuration is copied. -/
theorem interfacesOf_of_zero (edmErrOffset : Int) {config : UsbDdkConfigDescriptor}
    {us : List UsbDdkInterface} (hret : outcome.ret = 0) (hconfig : outcome.config = some config)
    (hus : config.interface = some us)
    (hlen : us.length = config.configDescriptor.bNumInterfaces.toNat)
    (h : ∀ u ∈ us, u.altsetting.isSome = true) (interfaceList : List UsbInterfaceDescriptor) :
    interfacesOf edmErrOffset outcome interfaceList =
      (edmOk, interfaceList ++ us.map fun u => (u.slot 0).interfaceDescriptor) := by
  simp only [interfacesOf, hconfig, hus, if_neg (not_not.mpr hret), ← hlen]
  rw [map_getD_range, copyInterfaces_of_isSome edmErrOffset us h]

/-- What the DDK function returns and assigns is what the parser returned and assigned, unless it
fails before it calls the parser. -/
theorem ohUsbGetConfigDescriptor_cases {hdf : HdfCodes} {ddk : Option ServiceReply}
    {configValid : Bool} (h : parseUsbConfigDescriptor fuel configBuffer = some outcome)
    (hddk : ∀ reply ∈ ddk, reply.descriptor = configBuffer) {ret : Int}
    {config : Option UsbDdkConfigDescriptor}
    (hret : ohUsbGetConfigDescriptor fuel hdf ddk configValid = some (ret, config)) :
    ret ≠ usbDdkSuccess ∧ config = none ∨ ret = outcome.ret ∧ config = outcome.config := by
  cases ddk with
  | none =>
    cases hret
    exact .inl ⟨by decide, rfl⟩
  | some reply =>
    simp only [ohUsbGetConfigDescriptor, hddk reply rfl, h, Option.map_some] at hret
    split at hret
    · cases hret
      exact .inl ⟨by decide, rfl⟩
    · split at hret
      · rename_i hne
        cases hret
        exact .inl ⟨hne, rfl⟩
      · cases hret
        exact .inr ⟨rfl, rfl⟩

theorem getInterfaceDescriptor_parsed (edmErrOffset : Int)
    (interfaceList : List UsbInterfaceDescriptor)
    (h : parseUsbConfigDescriptor fuel configBuffer = some outcome) :
    getInterfaceDescriptor fuel edmErrOffset (some edmOk)
      (some { ret := edmOk, descriptor := configBuffer }) interfaceList =
        some (interfacesOf edmErrOffset outcome interfaceList) := by
  simp only [getInterfaceDescriptor, h, Option.map_some]
  rfl

/-- A caller of the DDK with a positive result in hand holds a configuration. -/
theorem not_callersAgree_of_pos (h : parseUsbConfigDescriptor fuel configBuffer = some outcome)
    (hconfig : outcome.config.isSome = true) (hpos : outcome.ret ≠ 0) :
    ¬ CallersAgree fuel configBuffer outcome := by
  intro hagree
  have hret : ohUsbGetConfigDescriptor fuel ⟨0, 0, 0, 0, 0, 0, 0, 0, 0, 0⟩
      (some { ret := 0, descriptor := configBuffer }) true = some (outcome.ret, outcome.config) := by
    have hmap : (parseUsbConfigDescriptor fuel configBuffer).map
        (fun outcome => (outcome.ret, outcome.config)) = some (outcome.ret, outcome.config) := by
      rw [h]
      rfl
    exact hmap
  have hiff := hagree.handsOut _ (some { ret := 0, descriptor := configBuffer }) true
    (fun reply hreply => by cases hreply; rfl) _ _ hret
  exact hpos (hiff.mp hconfig)

theorem callersAgree_of_fails (h : parseUsbConfigDescriptor fuel configBuffer = some outcome)
    (hfails : outcome.Fails) : CallersAgree fuel configBuffer outcome where
  parser := .inl hfails
  handsOut hdf ddk configValid hddk ret config hret := by
    have hneg := hfails.ret
    rcases ohUsbGetConfigDescriptor_cases h hddk hret with ⟨hne, rfl⟩ | ⟨rfl, rfl⟩
    · exact ⟨nofun, fun hzero => absurd hzero hne⟩
    · rw [hfails.config]
      exact ⟨nofun, fun hzero => absurd hzero (Int.ne_of_lt hneg)⟩
  accepts edmErrOffset interfaceList := by
    rw [getInterfaceDescriptor_parsed _ _ h, interfacesOf, hfails.config]
    constructor
    · rintro ⟨interfaceList', hret⟩
      have hneg := hfails.ret
      have hzero : outcome.ret = edmOk := congrArg Prod.fst (Option.some.inj hret)
      exact absurd hzero (Int.ne_of_lt hneg)
    · intro hsucc
      exact absurd hsucc.nonneg (Int.not_le.mpr hfails.ret)

theorem callersAgree_of_zero (h : parseUsbConfigDescriptor fuel configBuffer = some outcome)
    (hsucc : outcome.Succeeds configBuffer) (hzero : outcome.ret = 0)
    (hshape : Shaped outcome.tmpConfig) : CallersAgree fuel configBuffer outcome where
  parser := .inr hsucc
  handsOut hdf ddk configValid hddk ret config hret := by
    rcases ohUsbGetConfigDescriptor_cases h hddk hret with ⟨hne, rfl⟩ | ⟨rfl, rfl⟩
    · exact ⟨nofun, fun hzero => absurd hzero hne⟩
    · rw [hsucc.config]
      exact ⟨fun _ => hzero, fun _ => rfl⟩
  accepts edmErrOffset interfaceList := by
    obtain ⟨us, hus, hlen, hall⟩ := hshape.interface
    refine ⟨fun _ => hsucc, fun _ => ?_⟩
    rw [getInterfaceDescriptor_parsed _ _ h,
      interfacesOf_of_zero edmErrOffset hzero hsucc.config hus hlen fun u hu => (hall u hu).1]
    exact ⟨_, rfl⟩

/-- On a vector whose parsing stays within the allocated slots (beyond them the behaviour of the
parser is undefined) and returns, the parser and its callers agree exactly when every turn
resolves. -/
theorem callersAgree_iff (hslots : SlotsInRange configBuffer)
    (h : parseUsbConfigDescriptor fuel configBuffer = some outcome) :
    CallersAgree fuel configBuffer outcome ↔ Resolves configBuffer := by
  have ho := valid_vectorCursor configBuffer
  have hreturns : ParserReturns configBuffer outcome := ⟨fuel, h⟩
  by_cases ha : AcceptsHeader (vectorCursor configBuffer)
  · obtain ⟨result, hresult, rfl⟩ := (parserReturns_of_accepts ha).mp hreturns
    obtain ⟨hiff, hzero⟩ := turns_resolve_iff ho ha hresult
    obtain ⟨c, htrace⟩ := trace_of_returns ho ha hresult
    have hrange : ∀ e ∈ result.events, e.InRange :=
      (forall_inRange _).mpr (events_outcomeOf result ▸ hslots.writes _ (.exit hreturns))
    have hresolves : Resolves configBuffer ↔ result.ret ≤ 0 :=
      ⟨fun hres => hiff.mp hres.turns, fun hle => ⟨ha, hiff.mpr hle⟩⟩
    rw [hresolves]
    rcases Int.lt_trichotomy result.ret 0 with hneg | heq | hpos
    · refine ⟨fun _ => Int.le_of_lt hneg, fun _ => callersAgree_of_fails h ?_⟩
      rw [outcomeOf, if_pos hneg]
      exact ⟨hneg, rfl, htrace.free_eq_owned ho hrange, (htrace.tidy ho hrange).lost⟩
    · refine ⟨fun _ => Int.le_of_eq heq, fun _ => ?_⟩
      have hout : outcomeOf result = {
          ret := result.ret, config := some result.config, tmpConfig := result.config
          freed := [], unresolved := result.size, events := result.events } := by
        rw [outcomeOf, if_neg (Int.not_lt.mpr (Int.le_of_eq heq.symm))]
      rw [hout] at h ⊢
      refine callersAgree_of_zero h ⟨?_, ?_, ?_, rfl⟩ heq (htrace.shaped ho)
      · exact Int.le_of_eq heq.symm
      · exact Int.le_trans (Int.le_of_eq heq) (Int.natCast_nonneg _)
      · exact heq.trans (hzero heq).symm
    · refine ⟨fun hagree => absurd hagree ?_, fun hle => absurd hpos (Int.not_lt.mpr hle)⟩
      have hout : outcomeOf result = {
          ret := result.ret, config := some result.config, tmpConfig := result.config
          freed := [], unresolved := result.size, events := result.events } := by
        rw [outcomeOf, if_neg (Int.not_lt.mpr (Int.le_of_lt hpos))]
      rw [hout] at h ⊢
      exact not_callersAgree_of_pos h rfl (Int.ne_of_gt hpos)
  · obtain ⟨result, hrej, hiff⟩ := parserReturns_of_rejects ha
    obtain rfl := (hiff _).mp hreturns
    refine ⟨fun hagree => absurd hagree ?_, fun hres => absurd hres.header ha⟩
    have hne : result.ret ≠ 0 := by
      rw [hrej.ret]
      decide
    have hpos : ¬ result.ret < 0 := by
      rw [hrej.ret]
      decide
    have hout : outcomeOf result = {
        ret := result.ret, config := some result.config, tmpConfig := result.config
        freed := [], unresolved := result.size, events := result.events } := by
      rw [outcomeOf, if_neg hpos]
    rw [hout] at h ⊢
    exact not_callersAgree_of_pos h rfl hne

end

/-- A configuration with one interface is parsed to the last byte. -/
theorem callersAgree_interface : ∃ outcome,
    parseUsbConfigDescriptor 2 (interfaceThen []) = some outcome ∧
      (CallersAgree 2 (interfaceThen []) outcome ↔ Resolves (interfaceThen [])) := by
  obtain ⟨outcome, houtcome⟩ := Option.isSome_iff_exists.mp
    (show (parseUsbConfigDescriptor 2 (interfaceThen [])).isSome = true by decide +kernel)
  exact ⟨outcome, houtcome, callersAgree_iff slotsInRange_interfaceThen_nil houtcome⟩

/-- Eight bytes of a header: the parser returns 27400002, which is not negative, and assigns a
configuration. -/
theorem shortHeader_disagrees : ∃ outcome,
    parseUsbConfigDescriptor 0 [9, 2, 9, 0, 1, 1, 0, 128] = some outcome ∧
      outcome.ret = usbDdkInvalidOperation ∧ outcome.config.isSome = true ∧
      ¬ CallersAgree 0 [9, 2, 9, 0, 1, 1, 0, 128] outcome := by
  have hrun : (parseUsbConfigDescriptor 0 [9, 2, 9, 0, 1, 1, 0, 128]).map
      (fun outcome => (outcome.ret, outcome.config.isSome)) =
        some (usbDdkInvalidOperation, true) := by
    decide +kernel
  obtain ⟨outcome, houtcome, hpair⟩ := Option.map_eq_some_iff.mp hrun
  obtain ⟨hret, hconfig⟩ := Prod.mk.inj hpair
  refine ⟨outcome, houtcome, hret, hconfig, not_callersAgree_of_pos houtcome hconfig ?_⟩
  rw [hret]
  decide

end ExtDevMgr.Usb
