import ExtDevMgr.Usb.Entry

/-!
# The nested loops as one transition system

`ParseInterface` runs inside the turns of `ParseConfigurationDes`. `ParseStep` flattens the two: a
step skips extra records, writes one slot of the interface whose number is at the cursor (accepting
the record there or not), or takes `USB_DDK_INVALID_OPERATION` for a length. Every state of the outer
loop is reached by such steps (`Reached.trace`), so an invariant of the parser is proved once for
each kind of step (`Trace.invariant`).
-/

namespace ExtDevMgr.Usb
open Records

/-- `c` is `origin` moved forward. -/
def Cursor.From (origin c : Cursor) : Prop := ∃ d : Int, 0 ≤ d ∧ c = origin.advance d

namespace Cursor.From

theorem refl (origin : Cursor) : From origin origin :=
  ⟨0, Int.le_refl 0, origin.advance_zero.symm⟩

theorem advance {origin c : Cursor} (h : From origin c) {n : Int} (hn : 0 ≤ n) :
    From origin (c.advance n) := by
  obtain ⟨d, hd, rfl⟩ := h
  exact ⟨d + n, Int.add_nonneg hd hn, advance_advance origin hd hn⟩

theorem passes {origin c c' : Cursor} {n : Nat} (h : From origin c) (hp : Passes n c c') :
    From origin c' := by
  obtain ⟨d, hd, rfl⟩ := hp.advance
  exact h.advance hd

theorem valid {origin c : Cursor} (h : From origin c) (ho : origin.Valid) : c.Valid := by
  obtain ⟨d, hd, rfl⟩ := h
  exact ho.advance hd

theorem size_le {origin c : Cursor} (h : From origin c) : c.size ≤ origin.size := by
  obtain ⟨d, hd, rfl⟩ := h
  exact Int.sub_le_self _ hd

/-- The remaining size determines the cursor. -/
theorem eq_of_size {origin c c' : Cursor} (h : From origin c) (h' : From origin c')
    (hsize : c.size = c'.size) : c = c' := by
  obtain ⟨d, -, rfl⟩ := h
  obtain ⟨d', -, rfl⟩ := h'
  simp only [Cursor.advance] at hsize
  rw [show d = d' by omega]

end Cursor.From

namespace ConfigLoop
variable (st : ConfigLoop)

/-- Interface `i` of the configuration. -/
def iface (i : Nat) : UsbDdkInterface := (st.config.interface.getD []).getD i {}

/-- A turn of `ParseInterface` for interface `i`. -/
def turn (i : Nat) : InterfaceLoop := interfaceEntry (st.iface i) st.cursor

/-- The state with interface `i`, the cursor and the events taken from a turn. -/
def put (i : Nat) (t : InterfaceLoop) : ConfigLoop where
  config := st.config.setInterface i t.usbInterface
  cursor := t.cursor
  events := st.events ++ t.events

end ConfigLoop

section
variable (origin : Cursor) (interfaceNums : List UInt8)

/-- The number at the cursor is the one of interface `i`. -/
def ConfigLoop.Numbered (st : ConfigLoop) (i : Nat) : Prop :=
  interfaceNums[i]? = some (byteAt st.cursor.buffer 2)

/-- One step of the flattened loops. -/
inductive ParseStep : ConfigLoop → ConfigLoop → Prop where
  | extras {st : ConfigLoop} : 2 ≤ st.cursor.size → ParseStep st st.skipped
  | reject {st : ConfigLoop} (i : Nat) : st.Numbered interfaceNums i → 9 ≤ st.cursor.size →
      ¬ (st.turn i).Accepts → ParseStep st (st.put i (st.turn i).written)
  | accept {st : ConfigLoop} (i : Nat) : st.Numbered interfaceNums i → (st.turn i).Accepts →
      ParseStep st (st.put i (st.turn i).accepted)
  | jump {st : ConfigLoop} (d : Int) : usbDdkInvalidOperation ≤ d →
      ParseStep st { st with cursor := origin.advance d }

/-- A sequence of steps of the flattened loops. -/
abbrev Trace : ConfigLoop → ConfigLoop → Prop := Relation.ReflTransGen (ParseStep origin interfaceNums)

variable {origin interfaceNums}

theorem Trace.invariant {P : ConfigLoop → Prop}
    (step : ∀ {st st'}, P st → ParseStep origin interfaceNums st st' → P st')
    {st st' : ConfigLoop} (h : Trace origin interfaceNums st st') (hst : P st) : P st' := by
  induction h with
  | refl => exact hst
  | tail _ hstep ih => exact step ih hstep

/-- Only the interfaces of the state change, and their number does not. -/
theorem length_setInterface (config : UsbDdkConfigDescriptor) (i : Nat) (u : UsbDdkInterface) :
    ((config.setInterface i u).interface.getD []).length = (config.interface.getD []).length := by
  cases h : config.interface <;> simp [UsbDdkConfigDescriptor.setInterface, h]

theorem iface_put_self (st : ConfigLoop) {i : Nat} (hi : i < (st.config.interface.getD []).length)
    (t : InterfaceLoop) : (st.put i t).iface i = t.usbInterface := by
  cases h : st.config.interface with
  | none => simp [h] at hi
  | some us =>
    rw [h, Option.getD_some] at hi
    simp [ConfigLoop.iface, ConfigLoop.put, UsbDdkConfigDescriptor.setInterface, h, hi]

theorem iface_put_ne (st : ConfigLoop) {i j : Nat} (hij : i ≠ j) (t : InterfaceLoop) :
    (st.put i t).iface j = st.iface j := by
  cases h : st.config.interface <;>
    simp [ConfigLoop.iface, ConfigLoop.put, UsbDdkConfigDescriptor.setInterface, h, hij]

theorem setInterface_setInterface (config : UsbDdkConfigDescriptor) (i : Nat)
    (u u' : UsbDdkInterface) :
    (config.setInterface i u).setInterface i u' = config.setInterface i u' := by
  cases h : config.interface <;> simp [UsbDdkConfigDescriptor.setInterface, h]

theorem setInterface_iface (st : ConfigLoop) (i : Nat) :
    st.config.setInterface i (st.iface i) = st.config := by
  cases h : st.config.interface with
  | none =>
    simp only [UsbDdkConfigDescriptor.setInterface, h, Option.map_none]
    rw [← h]
  | some us =>
    simp only [UsbDdkConfigDescriptor.setInterface, ConfigLoop.iface, h, Option.map_some,
      Option.getD_some]
    have hset : us.set i (us.getD i {}) = us := by
      apply List.ext_getElem?
      intro j
      rw [List.getElem?_set]
      split
      · rename_i hij
        subst hij
        split
        · rename_i hlt
          rw [List.getD_eq_getElem?_getD, List.getElem?_eq_getElem hlt, Option.getD_some]
        · rename_i hge
          rw [List.getElem?_eq_none (Nat.not_lt.mp hge)]
      · rfl
    rw [hset, ← h]

theorem put_turn_eq (st : ConfigLoop) (i : Nat) : st.put i (st.turn i) = st := by
  rw [ConfigLoop.put, ConfigLoop.turn, interfaceEntry, setInterface_iface, List.append_nil]

/-- A turn of `ParseInterface` and the turn of the flattened loops from the same place do the
same. -/
theorem put_written (st : ConfigLoop) {i : Nat}
    (hi : i < (st.config.interface.getD []).length) (t : InterfaceLoop) :
    (st.put i t).put i ((st.put i t).turn i).written = st.put i t.written := by
  have hturn : (st.put i t).turn i = interfaceEntry t.usbInterface t.cursor := by
    rw [ConfigLoop.turn, iface_put_self st hi]
    rfl
  rw [hturn]
  simp only [ConfigLoop.put, setInterface_setInterface, List.append_assoc]
  rfl

theorem put_accepted (st : ConfigLoop) {i : Nat}
    (hi : i < (st.config.interface.getD []).length) (t : InterfaceLoop) :
    (st.put i t).put i ((st.put i t).turn i).accepted = st.put i t.accepted := by
  have hturn : (st.put i t).turn i = interfaceEntry t.usbInterface t.cursor := by
    rw [ConfigLoop.turn, iface_put_self st hi]
    rfl
  rw [hturn]
  simp only [ConfigLoop.put, setInterface_setInterface, List.append_assoc]
  simp only [InterfaceLoop.accepted, InterfaceLoop.written, interfaceEntry, List.nil_append,
    List.append_assoc]
  rfl

variable (origin interfaceNums) in
/-- What holds at the head of every turn of `ParseInterface` entered from `st` for interface `i`,
whose number is `x`. -/
structure Simulated (st : ConfigLoop) (i : Nat) (x : UInt8) (t : InterfaceLoop) : Prop where
  trace : Trace origin interfaceNums st (st.put i t)
  fromOrigin : Cursor.From origin t.cursor
  number : byteAt t.cursor.buffer 2 = x
  interfaceNumber : t.interfaceNumber = -1 ∨ t.interfaceNumber = x.toNat
  offset : t.offset = st.cursor.size - t.cursor.size
  nonneg : 0 ≤ t.offset
  low : -(usbMaxEndpoints * usbDdkInvalidOperation) ≤ t.cursor.size

variable (origin interfaceNums) in
/-- The result of `ParseInterface` is the outcome of a trace, which ends at the cursor the result
moves to unless the result is negative. -/
structure SimulatedExit (st : ConfigLoop) (i : Nat) (b : InterfaceResult) : Prop where
  trace : ∃ c, Trace origin interfaceNums st {
    config := st.config.setInterface i b.usbInterface
    cursor := c
    events := st.events ++ b.events }
  moved : 0 ≤ b.ret → Trace origin interfaceNums st {
    config := st.config.setInterface i b.usbInterface
    cursor := st.cursor.advance b.ret
    events := st.events ++ b.events }

section
variable {st : ConfigLoop} {i : Nat} {x : UInt8} {t : InterfaceLoop}

theorem Simulated.entry (hfrom : Cursor.From origin st.cursor) (hsize : 0 ≤ st.cursor.size)
    (hx : byteAt st.cursor.buffer 2 = x) :
    Simulated origin interfaceNums st i x (st.turn i) where
  trace := by rw [put_turn_eq]
  fromOrigin := hfrom
  number := hx
  interfaceNumber := .inl rfl
  offset := (Int.sub_self _).symm
  nonneg := Int.le_refl 0
  low := Int.le_trans (by decide) hsize

theorem Simulated.numbered (h : Simulated origin interfaceNums st i x t)
    (hx : interfaceNums[i]? = some x) : (st.put i t).Numbered interfaceNums i := by
  rw [ConfigLoop.Numbered, hx, ← h.number]
  rfl

/-- An accepted record is one step. -/
theorem Simulated.step (ho : origin.Valid) (hi : i < (st.config.interface.getD []).length)
    (hx : interfaceNums[i]? = some x) (h : Simulated origin interfaceNums st i x t)
    (ha : t.Accepts) : Trace origin interfaceNums st (st.put i t.accepted) ∧
      Cursor.From origin t.accepted.cursor ∧ Advanced st.cursor.size t.accepted := by
  have hvalid := h.fromOrigin.valid ho
  have hturn : ((st.put i t).turn i).Accepts := ⟨ha.size, ha.type, ha.length, ha.length_le,
    ha.endpoints⟩
  have hstep : ParseStep origin interfaceNums (st.put i t) _ :=
    .accept i (h.numbered hx) hturn
  rw [put_accepted st hi] at hstep
  exact ⟨h.trace.tail hstep,
    (h.fromOrigin.advance (Int.natCast_nonneg _)).passes (ha.passes hvalid).2,
    ha.advanced hvalid h.offset h.nonneg⟩

theorem Simulated.next (ho : origin.Valid) (hi : i < (st.config.interface.getD []).length)
    (hx : interfaceNums[i]? = some x) (h : Simulated origin interfaceNums st i x t)
    (ha : t.Accepts) (hnext : t.accepted.AtNext) :
    Simulated origin interfaceNums st i x t.accepted := by
  obtain ⟨htrace, hfrom, hadv⟩ := h.step ho hi hx ha
  have hnumber : t.accepted.interfaceNumber = x.toNat := by
    rw [InterfaceLoop.accepted, ← h.number]
    dsimp only
    split
    · rfl
    · rename_i hne
      rw [h.number]
      exact h.interfaceNumber.resolve_left hne
  refine ⟨htrace, hfrom, ?_, .inr hnumber, hadv.offset, Int.le_trans (by decide) hadv.pos,
    hadv.low⟩
  have hbyte := hnext.number
  rw [hnumber] at hbyte
  exact UInt8.toNat_inj.mp (Int.natCast_inj.mp hbyte)

/-- The distance that a result reports leads to the cursor of the turn. -/
theorem advance_offset (ho : origin.Valid) (hst : Cursor.From origin st.cursor)
    (ht : Cursor.From origin t.cursor) (hoffset : t.offset = st.cursor.size - t.cursor.size)
    (hnonneg : 0 ≤ t.offset) (hlow : -(usbMaxEndpoints * usbDdkInvalidOperation) ≤ t.cursor.size)
    (hret : 0 ≤ toInt32 t.offset) : st.cursor.advance (toInt32 t.offset) = t.cursor := by
  have hlt := (hst.valid ho).lt
  simp only [usbMaxEndpoints, usbDdkInvalidOperation] at hlow
  rw [toInt32_of_nonneg hnonneg (by omega) hret]
  refine (hst.advance hnonneg).eq_of_size ht ?_
  simp only [Cursor.advance]
  omega

theorem Simulated.exit (ho : origin.Valid) (hi : i < (st.config.interface.getD []).length)
    (hx : interfaceNums[i]? = some x) (hst : Cursor.From origin st.cursor)
    (h : Simulated origin interfaceNums st i x t) {b : InterfaceResult}
    (hturn : InterfaceTurn t (.inr b)) : SimulatedExit origin interfaceNums st i b := by
  have hreject : 9 ≤ t.cursor.size → ¬ t.Accepts →
      Trace origin interfaceNums st (st.put i t.written) := by
    intro hsize hna
    have hstep : ParseStep origin interfaceNums (st.put i t) _ :=
      .reject i (h.numbered hx) hsize
        fun ha => hna ⟨ha.size, ha.type, ha.length, ha.length_le, ha.endpoints⟩
    rw [put_written st hi] at hstep
    exact h.trace.tail hstep
  have hmoved := advance_offset ho hst h.fromOrigin h.offset h.nonneg h.low
  cases hturn with
  | short =>
    refine ⟨⟨t.cursor, h.trace⟩, fun hret => ?_⟩
    refine (congrArg (fun c => Trace origin interfaceNums st { st.put i t with cursor := c })
      (hmoved hret)).mpr h.trace
  | stray hsize hne =>
    have htrace := hreject hsize fun ha => by
      rcases hne with hne | hlt
      · exact hne ha.type
      · exact Int.not_le.mpr hlt ha.length_le
    refine ⟨⟨t.cursor, htrace⟩, fun hret => ?_⟩
    exact (congrArg (fun c => Trace origin interfaceNums st { st.put i t.written with cursor := c })
      (hmoved hret)).mpr htrace
  | malformed hsize htype hle hmal =>
    have htrace := hreject hsize fun ha => by
      rcases hmal with hlt | hlt
      · exact Nat.not_le.mpr hlt ha.length
      · exact Nat.not_le.mpr hlt ha.endpoints
    refine ⟨⟨t.cursor, htrace⟩, fun _ => ?_⟩
    obtain ⟨d, hd, hc⟩ := hst
    have hjump : ParseStep origin interfaceNums (st.put i t.written) _ :=
      .jump (d + usbDdkInvalidOperation) (by omega)
    rw [← Cursor.advance_advance origin hd (by decide), ← hc] at hjump
    exact htrace.tail hjump
  | last ha hlast =>
    obtain ⟨htrace, hfrom, hadv⟩ := h.step ho hi hx ha
    refine ⟨⟨t.accepted.cursor, htrace⟩, fun hret => ?_⟩
    have hpos : 0 ≤ t.accepted.offset := Int.le_trans (by decide) hadv.pos
    exact (congrArg (fun c => Trace origin interfaceNums st { st.put i t.accepted with cursor := c })
      (advance_offset ho hst hfrom hadv.offset hpos hadv.low hret)).mpr htrace

end

/-! ## The outer loop -/

theorem getElem?_of_interfaceIndex {config : UsbDdkConfigDescriptor} {x : UInt8} {i : Nat}
    (h : interfaceIndex config interfaceNums x = some i) : interfaceNums[i]? = some x := by
  obtain ⟨hlt, hx, -⟩ := List.findIdx?_eq_some_iff_getElem.mp h
  rw [List.length_take] at hlt
  rw [List.getElem_take, decide_eq_true_eq] at hx
  rw [List.getElem?_eq_getElem (by omega), hx]

/-- `ParseInterface`, called for the interface whose number is at the cursor. -/
theorem parsed_simulated (ho : origin.Valid) {st : ConfigLoop} {i : Nat}
    (hst : Cursor.From origin st.cursor) (hi : i < (st.config.interface.getD []).length)
    (hsel : st.Selects interfaceNums i) :
    SimulatedExit origin interfaceNums st i (st.parsed i) := by
  have hx := getElem?_of_interfaceIndex hsel.index
  have hsize := hsel.size
  by_cases hnum : (st.iface i).numAltsetting.toNat ≤ usbMaxAltSetting
  · exact parseInterface_rule (hst.valid ho) hnum (P := Simulated origin interfaceNums st i _)
      (Simulated.entry hst (by omega) rfl) (fun _ h ha hnext => h.next ho hi hx ha hnext)
      (fun _ h hturn => h.exit ho hi hx hst hturn)
  · have hparsed : st.parsed i =
        { ret := usbDdkInvalidOperation, usbInterface := st.iface i, events := [] } := by
      rw [ConfigLoop.parsed, parseInterface]
      exact if_pos (Nat.not_le.mp hnum)
    rw [hparsed]
    obtain ⟨d, hd, hc⟩ := hst
    refine ⟨⟨st.cursor, ?_⟩, fun _ => ?_⟩
    · rw [setInterface_iface, List.append_nil]
    · have hjump : ParseStep origin interfaceNums st _ :=
        .jump (d + usbDdkInvalidOperation) (by omega)
      rw [← Cursor.advance_advance origin hd (by decide), ← hc] at hjump
      rw [setInterface_iface, List.append_nil]
      exact .single hjump

theorem skipped_interface (st : ConfigLoop) :
    st.skipped.config.interface = st.config.interface := by
  rw [ConfigLoop.skipped]
  split <;> rfl

/-- The steps do not change how many interfaces there are. -/
theorem Trace.length_interface {st st' : ConfigLoop} (h : Trace origin interfaceNums st st') :
    (st'.config.interface.getD []).length = (st.config.interface.getD []).length := by
  induction h with
  | refl => rfl
  | tail _ hstep ih =>
    rw [← ih]
    cases hstep with
    | extras => rw [skipped_interface]
    | reject => exact length_setInterface _ _ _
    | accept => exact length_setInterface _ _ _
    | jump => rfl

end

theorem length_allocateInterfaces (alternateSetting : List UInt8) :
    (allocateInterfaces alternateSetting).length = alternateSetting.length :=
  List.length_map _

section
variable {origin : Cursor}

/-- The steps that the parser makes from `origin`. -/
abbrev EntryTrace (origin : Cursor) : ConfigLoop → Prop :=
  Trace origin (getInterfaceNumber origin).1 (entryState origin)

theorem EntryTrace.length_interface (ho : origin.Valid) {st : ConfigLoop}
    (h : EntryTrace origin st) :
    (st.config.interface.getD []).length = (getInterfaceNumber origin).1.length := by
  rw [Trace.length_interface h]
  exact (length_allocateInterfaces _).trans (counts_getInterfaceNumber ho.inBounds).length

/-- The interface of a number that was counted has been allocated. -/
theorem EntryTrace.lt_length (ho : origin.Valid) {st : ConfigLoop} (h : EntryTrace origin st)
    {i : Nat} {x : UInt8} (hx : (getInterfaceNumber origin).1[i]? = some x) :
    i < (st.config.interface.getD []).length := by
  rw [h.length_interface ho]
  exact (List.getElem?_eq_some_iff.mp hx).1

/-- What a turn of `ParseConfigurationDes` parses into an interface is a trace. -/
theorem EntryTrace.parsed (ho : origin.Valid) {st : ConfigLoop} (h : EntryTrace origin st)
    (hfrom : Cursor.From origin st.cursor) (hsize : 2 ≤ st.cursor.size)
    {i : Nat} (hsel : st.skipped.Selects (getInterfaceNumber origin).1 i) :
    EntryTrace origin st.skipped ∧
      SimulatedExit origin (getInterfaceNumber origin).1 st.skipped i (st.skipped.parsed i) := by
  have hskip : EntryTrace origin st.skipped := h.tail (.extras hsize)
  have hfrom' : Cursor.From origin st.skipped.cursor := by
    rw [st.cursor_skipped]
    exact hfrom.advance (findNextDescriptor_nonneg (hfrom.valid ho).inBounds)
  have hi := hskip.lt_length ho (getElem?_of_interfaceIndex hsel.index)
  exact ⟨hskip, parsed_simulated ho hfrom' hi hsel⟩

/-- Every state at the head of a turn of `ParseConfigurationDes` is reached by steps of the
flattened loops. -/
theorem ReachedFrom.trace (ho : origin.Valid) {st : ConfigLoop} (h : ReachedFrom origin st) :
    EntryTrace origin st ∧ Cursor.From origin st.cursor := by
  have hinv := h.reaches.invariant (P := fun st => st.Valid ∧ EntryTrace origin st ∧
    Cursor.From origin st.cursor) (fun {t u} ⟨hv, ht, hfrom⟩ hturn => ?_)
    ⟨AcceptsHeader.valid ho, .refl, (Cursor.From.refl _).advance (Int.natCast_nonneg _)⟩
  · exact hinv.2
  · obtain ⟨i, hsize, hsel, hret, rfl⟩ := config_turn_inl hv hturn
    obtain ⟨hskip, hexit⟩ := ht.parsed ho hfrom hsize hsel
    refine ⟨(hv.skipped (by omega)).moved hret, hskip.trans (hexit.moved hret), ?_⟩
    refine Cursor.From.advance ?_ hret
    rw [t.cursor_skipped]
    exact hfrom.advance (findNextDescriptor_nonneg hv.cursor.inBounds)

/-- The turn leaves the loop because of the bytes that are left: too few for a header, or no more than
a header behind the extra descriptors. -/
def ConfigLoop.RunsOut (st : ConfigLoop) : Prop :=
  st.cursor.size < descHeaderLength ∨
    st.cursor.size - findNextDescriptor st.cursor ≤ descHeaderLength

/-- Where the loop runs out of bytes the result is a state of the parser; everywhere else it is an
error return. -/
theorem ReachedFrom.exit (ho : origin.Valid) {st : ConfigLoop} (h : ReachedFrom origin st)
    {b : ConfigResult} (hexit : loopBody origin st = .inr b) :
    (st.RunsOut ∧ ∃ st', EntryTrace origin st' ∧ b = st'.leave st'.cursor.size) ∨
      (¬ st.RunsOut ∧ (b.ret = usbDdkInvalidParameter ∨ b.ret < 0)) := by
  have htrace := (h.trace ho).1
  rcases config_turn_inr (h.valid ho) hexit with ⟨hshort, rfl⟩ | ⟨hsize, hturn⟩
  · exact .inl ⟨.inl hshort, st, htrace, rfl⟩
  · have hrest : st.skipped.cursor.size = st.cursor.size - findNextDescriptor st.cursor := by
      rw [st.cursor_skipped]
      rfl
    have hgoes : 2 < st.skipped.cursor.size → ¬ st.RunsOut := by
      intro hlt hruns
      rcases hruns with hruns | hruns
      · exact Int.not_le.mpr hruns hsize
      · exact Int.not_le.mpr hlt (hrest.trans_le hruns)
    cases hturn with
    | finished hle =>
      exact .inl ⟨.inr (hrest.symm.trans_le hle), _, htrace.tail (.extras hsize), rfl⟩
    | overlong hlt => exact .inr ⟨hgoes hlt, .inl rfl⟩
    | unknown hlt => exact .inr ⟨hgoes hlt, .inl rfl⟩
    | failed i hsel hneg => exact .inr ⟨hgoes hsel.size, .inr hneg⟩

/-- What the parser returns with is reached by steps of the flattened loops as well. -/
theorem trace_of_returns (ho : origin.Valid) (ha : AcceptsHeader origin) {result : ConfigResult}
    (h : Loop.Returns (loopBody origin) (entryState origin) result) :
    ∃ c, EntryTrace origin { config := result.config, cursor := c, events := result.events } := by
  obtain ⟨st, hreach, hexit⟩ := Loop.returns_iff.mp h
  have hreached : ReachedFrom origin st := ⟨ha, hreach⟩
  obtain ⟨htrace, hfrom⟩ := hreached.trace ho
  rcases config_turn_inr (hreached.valid ho) hexit with ⟨-, rfl⟩ | ⟨hsize, hturn⟩
  · exact ⟨st.cursor, htrace⟩
  · have hskip : EntryTrace origin st.skipped := htrace.tail (.extras hsize)
    cases hturn with
    | finished => exact ⟨_, hskip⟩
    | overlong => exact ⟨_, hskip⟩
    | unknown => exact ⟨_, hskip⟩
    | failed i hsel =>
      obtain ⟨c, hc⟩ := (htrace.parsed ho hfrom hsize hsel).2.trace
      exact ⟨c, hskip.trans hc⟩

end

end ExtDevMgr.Usb
