import ExtDevMgr.Usb.Entry

/-!
# Termination of the parser

A turn of `ParseConfigurationDes` leaves the remaining size as it is exactly when it starts in a
`Stalled` state: more than a header is left, no extra records are skipped, the byte at offset two is
a known interface number, and `ParseInterface` returns zero because the record there is not a
complete interface record. The turn then changes nothing that the next turn looks at, so a stalled
state is one the loop never leaves, and the parser terminates exactly when it never reaches one.
-/

namespace ExtDevMgr.Usb

/-- `ParseInterface` returns zero for interface `u` at `c`: too few bytes are left for an interface
descriptor, or the record there is not one, or is longer than what is left. -/
structure StrayRecord (u : UsbDdkInterface) (c : Cursor) : Prop where
  altsettings : u.numAltsetting.toNat ≤ usbMaxAltSetting
  stray : c.size < 9 ∨ byteAt c.buffer 1 ≠ usbDdkDtInterface ∨ c.size < (byteAt c.buffer 0).toNat

/-- Entered at an interface record, `ParseInterface` does not return zero. -/
theorem parseInterface_ret_ne_zero {u : UsbDdkInterface} {c : Cursor} (h : c.Valid)
    (hstray : ¬ StrayRecord u c) : (parseInterface u c).ret ≠ 0 := by
  by_cases hnum : u.numAltsetting.toNat ≤ usbMaxAltSetting
  · have hentry : ¬ (c.size < 9 ∨ byteAt c.buffer 1 ≠ usbDdkDtInterface ∨
        c.size < (byteAt c.buffer 0).toNat) := fun hc => hstray ⟨hnum, hc⟩
    have hstep : ∀ {t : InterfaceLoop}, t.cursor.Valid →
        t = interfaceEntry u c ∨ Advanced c.size t → t.Accepts → Advanced c.size t.accepted := by
      rintro t hv (rfl | hi) ha
      · exact ha.advanced hv (Int.sub_self _).symm (Int.le_refl 0)
      · exact ha.advanced hv hi.offset (Int.le_trans (by decide) hi.pos)
    refine parseInterface_rule h hnum (P := fun t => t = interfaceEntry u c ∨ Advanced c.size t)
      (Q := fun b => b.ret ≠ 0) (.inl rfl) (fun hv hi ha _ => .inr (hstep hv hi ha)) ?_
    intro t b hv hi hturn
    cases hturn with
    | short hlt =>
      rcases hi with rfl | hi
      · exact absurd (.inl hlt) hentry
      · exact hi.toInt32_ne_zero h.lt
    | stray _ hne =>
      rcases hi with rfl | hi
      · exact absurd (.inr hne) hentry
      · exact hi.toInt32_ne_zero h.lt
    | malformed => exact (by decide : usbDdkInvalidOperation ≠ 0)
    | last ha _ => exact (hstep hv hi ha).toInt32_ne_zero h.lt
  · rw [parseInterface, if_pos (Nat.not_le.mp hnum)]
    exact (by decide : usbDdkInvalidOperation ≠ 0)

theorem StrayRecord.not_complete {u : UsbDdkInterface} {c : Cursor} (h : StrayRecord u c)
    (hsize : 9 ≤ c.size) (htype : byteAt c.buffer 1 = usbDdkDtInterface)
    (hle : ((byteAt c.buffer 0).toNat : Int) ≤ c.size) : False := by
  rcases h.stray with hlt | hne | hlt
  · exact Int.not_le.mpr hlt hsize
  · exact hne htype
  · exact Int.not_le.mpr hlt hle

/-- At a stray record `ParseInterface` returns zero and counts no alternate setting. -/
theorem parseInterface_stray {u : UsbDdkInterface} {c : Cursor} (h : c.Valid)
    (hstray : StrayRecord u c) :
    (parseInterface u c).ret = 0 ∧
      (parseInterface u c).usbInterface.numAltsetting = u.numAltsetting := by
  have hreturns := parseInterface_returns h hstray.altsettings
  have hentry : (interfaceEntry u c).cursor.Valid := h
  have hturn := parseInterfaceBody_turn hentry
  rcases hreturns.cases with hexit | ⟨st', hnext, -⟩
  · rw [hexit] at hturn
    generalize parseInterface u c = b at hturn
    cases hturn with
    | short => exact ⟨toInt32_zero, rfl⟩
    | stray => exact ⟨toInt32_zero, rfl⟩
    | malformed hsize htype hle => exact (hstray.not_complete hsize htype hle).elim
    | last ha => exact (hstray.not_complete ha.size ha.type ha.length_le).elim
  · obtain ⟨ha, -, -⟩ := turn_inl hentry hnext
    exact (hstray.not_complete ha.size ha.type ha.length_le).elim

/-! ## Stalled states -/

/-- A turn of `ParseConfigurationDes` from `st` neither exits nor moves the cursor. -/
structure Stalled (interfaceNums : List UInt8) (st : ConfigLoop) : Prop where
  extra : findNextDescriptor st.cursor = 0
  known : ∃ i, st.Selects interfaceNums i ∧
    StrayRecord ((st.config.interface.getD []).getD i {}) st.cursor

theorem skipped_of_zero {st : ConfigLoop} (h : findNextDescriptor st.cursor = 0) :
    st.skipped = st := by
  rw [ConfigLoop.skipped, if_pos h]

theorem numAltsetting_setInterface {config : UsbDdkConfigDescriptor} {u : UsbDdkInterface}
    (i : Nat) (hu : u.numAltsetting = ((config.interface.getD []).getD i {}).numAltsetting) :
    (((config.setInterface i u).interface.getD []).getD i {}).numAltsetting =
      ((config.interface.getD []).getD i {}).numAltsetting := by
  cases hi : config.interface with
  | none => simp [UsbDdkConfigDescriptor.setInterface, hi]
  | some us =>
    simp only [UsbDdkConfigDescriptor.setInterface, hi, Option.map_some, Option.getD_some] at hu ⊢
    by_cases hlt : i < us.length
    · simpa [List.getD_eq_getElem?_getD, List.getElem?_set, hlt] using hu
    · simp [List.getD_eq_getElem?_getD, hlt]

theorem Stalled.turn {interfaceNums : List UInt8} {st : ConfigLoop} (hv : st.Valid)
    (h : Stalled interfaceNums st) :
    ∃ st', parseConfigurationDesBody interfaceNums st = .inl st' ∧ st'.Valid ∧
      Stalled interfaceNums st' ∧ st'.cursor.size = st.cursor.size := by
  obtain ⟨i, hsel, hstray⟩ := h.known
  obtain ⟨hret, hnum⟩ := parseInterface_stray hv.cursor hstray
  have hsize : 2 ≤ st.cursor.size := Int.le_of_lt hsel.size
  have hbody := parseConfigurationDesBody_skipped interfaceNums hv hsize
  rw [skipped_of_zero h.extra, hsel.next (Int.le_of_eq hret.symm)] at hbody
  have hcursor : (st.moved i).cursor = st.cursor :=
    (congrArg st.cursor.advance hret).trans st.cursor.advance_zero
  refine ⟨_, hbody, hv.moved (Int.le_of_eq hret.symm), ⟨?_, i, ⟨?_, hsel.room, ?_⟩, ?_, ?_⟩, ?_⟩
  · rw [hcursor, h.extra]
  · rw [hcursor]
    exact hsel.size
  · rw [hcursor]
    exact hsel.index
  · have hslot := numAltsetting_setInterface i hnum
    exact (congrArg (fun n => n.toNat ≤ usbMaxAltSetting) hslot).mpr hstray.altsettings
  · rw [hcursor]
    exact hstray.stray
  · rw [hcursor]

/-- A turn that goes on without moving the cursor starts in a stalled state. -/
theorem stalled_of_turn {interfaceNums : List UInt8} {st st' : ConfigLoop} (hv : st.Valid)
    (hturn : parseConfigurationDesBody interfaceNums st = .inl st')
    (hle : st.cursor.size ≤ st'.cursor.size) : Stalled interfaceNums st := by
  obtain ⟨i, hsize, hsel, hret, rfl⟩ := config_turn_inl hv hturn
  have hnonneg := findNextDescriptor_nonneg hv.cursor.inBounds
  have hmoved : (st.skipped.moved i).cursor.size =
      st.cursor.size - findNextDescriptor st.cursor - (st.skipped.parsed i).ret := by
    simp only [ConfigLoop.moved, ConfigLoop.cursor_skipped, Cursor.advance]
  have hextra : findNextDescriptor st.cursor = 0 := by omega
  have hzero : (st.skipped.parsed i).ret = 0 := by omega
  rw [skipped_of_zero hextra] at hsel hzero
  refine ⟨hextra, i, hsel, ?_⟩
  by_contra hstray
  exact parseInterface_ret_ne_zero hv.cursor hstray hzero

theorem not_terminates_of_stalled {interfaceNums : List UInt8} {st : ConfigLoop} (hv : st.Valid)
    (h : Stalled interfaceNums st) :
    ¬ Loop.Terminates (parseConfigurationDesBody interfaceNums) st :=
  Loop.not_terminates_of_closed (P := fun st => st.Valid ∧ Stalled interfaceNums st)
    (fun ⟨hv, hs⟩ => by
      obtain ⟨st', hturn, hv', hs', -⟩ := hs.turn hv
      exact ⟨st', hturn, hv', hs'⟩) ⟨hv, h⟩

/-- A turn exits the loop or lowers the remaining size. -/
def Progresses (configBuffer : List UInt8) (st : ConfigLoop) : Prop :=
  (∃ b, configLoop configBuffer st = .inr b) ∨
    ∃ st', configLoop configBuffer st = .inl st' ∧ st'.cursor.size < st.cursor.size

theorem progresses_iff {configBuffer : List UInt8} {st : ConfigLoop} (h : st.Valid) :
    Progresses configBuffer st ↔
      ¬ Stalled (getInterfaceNumber (vectorCursor configBuffer)).1 st := by
  constructor
  · intro hprog hstall
    obtain ⟨st', hturn, -, -, hsize⟩ := hstall.turn h
    rcases hprog with ⟨b, hexit⟩ | ⟨st'', hturn', hlt⟩
    · cases hexit.symm.trans hturn
    · cases hturn'.symm.trans hturn
      exact Int.ne_of_lt hlt hsize
  · intro hstall
    cases hturn : configLoop configBuffer st with
    | inr b => exact .inl ⟨b, hturn⟩
    | inl st' =>
      refine .inr ⟨st', hturn, ?_⟩
      by_contra hle
      exact hstall (stalled_of_turn h hturn (Int.not_lt.mp hle))

/-- A loop that reaches no stalled state terminates: the remaining size, which bounds the number of
turns, is a variant. -/
theorem terminates_of_not_stalled {configBuffer : List UInt8}
    (ha : AcceptsHeader (vectorCursor configBuffer))
    (h : ∀ st, Reached configBuffer st →
      ¬ Stalled (getInterfaceNumber (vectorCursor configBuffer)).1 st) :
    Loop.Terminates (configLoop configBuffer) (entryState (vectorCursor configBuffer)) := by
  refine Loop.terminates_of_variant (fun st => st.cursor.size.toNat) fun {t u} ht hturn => ?_
  have hreached : Reached configBuffer t := ⟨ha, ht⟩
  obtain ⟨i, hsize, -⟩ := config_turn_inl hreached.valid hturn
  rcases (progresses_iff hreached.valid).mpr (h t hreached) with ⟨b, hexit⟩ | ⟨u', hturn', hlt⟩
  · cases hexit.symm.trans hturn
  · cases hturn'.symm.trans hturn
    omega

/-- `ParseUsbConfigDescriptor` returns on a vector and every turn of `ParseConfigurationDes` makes
progress, exactly when no turn starts in a stalled state. -/
theorem parseUsbConfigDescriptor_terminates_iff (configBuffer : List UInt8) :
    ((∃ outcome, ParserReturns configBuffer outcome) ∧
      ∀ st, Reached configBuffer st → Progresses configBuffer st) ↔
    ∀ st, Reached configBuffer st →
      ¬ Stalled (getInterfaceNumber (vectorCursor configBuffer)).1 st := by
  constructor
  · rintro ⟨-, hprog⟩ st hst
    exact (progresses_iff hst.valid).mp (hprog st hst)
  · intro h
    refine ⟨?_, fun st hst => (progresses_iff hst.valid).mpr (h st hst)⟩
    by_cases ha : AcceptsHeader (vectorCursor configBuffer)
    · obtain ⟨result, hresult⟩ := terminates_of_not_stalled ha h
      exact ⟨_, (parserReturns_of_accepts ha).mpr ⟨result, hresult, rfl⟩⟩
    · obtain ⟨result, -, hreturns⟩ := parserReturns_of_rejects ha
      exact ⟨_, (hreturns _).mpr rfl⟩

/-- A vector with an interface that declares no endpoint, and an endpoint descriptor behind it
whose address is the number of the interface. -/
def strayEndpointVector : List UInt8 :=
  [9, 2, 25, 0, 1, 1, 0, 128, 50] ++ [9, 4, 1, 0, 0, 255, 0, 0, 0] ++ [7, 5, 1, 2, 64, 0, 0]

/-- The state behind the interface of that vector. -/
def strayEndpointState : ConfigLoop :=
  nextState strayEndpointVector (entryState (vectorCursor strayEndpointVector))

/-- On this vector the parser reaches a turn that makes no progress, and does not return. -/
theorem strayEndpointVector_diverges :
    (∃ st, Reached strayEndpointVector st ∧ ¬ Progresses strayEndpointVector st) ∧
      ¬ ∃ outcome, ParserReturns strayEndpointVector outcome := by
  have ha : AcceptsHeader (vectorCursor strayEndpointVector) := by
    constructor <;> decide +kernel
  have hentry : Reached strayEndpointVector (entryState (vectorCursor strayEndpointVector)) :=
    ⟨ha, .refl⟩
  have hreached : Reached strayEndpointVector strayEndpointState :=
    hentry.next (by decide +kernel)
  have hselects : strayEndpointState.Selects
      (getInterfaceNumber (vectorCursor strayEndpointVector)).1 0 := by
    constructor <;> decide +kernel
  have hstray : StrayRecord ((strayEndpointState.config.interface.getD []).getD 0 {})
      strayEndpointState.cursor := by
    constructor <;> decide +kernel
  have hstall : Stalled (getInterfaceNumber (vectorCursor strayEndpointVector)).1
      strayEndpointState := ⟨by decide +kernel, 0, hselects, hstray⟩
  refine ⟨⟨_, hreached, fun hprog => (progresses_iff hreached.valid).mp hprog hstall⟩, ?_⟩
  rintro ⟨outcome, houtcome⟩
  obtain ⟨result, hresult, -⟩ := (parserReturns_of_accepts ha).mp houtcome
  exact not_terminates_of_stalled hreached.valid hstall
    (Loop.Terminates.of_reaches hreached.reaches ⟨result, hresult⟩)

end ExtDevMgr.Usb
