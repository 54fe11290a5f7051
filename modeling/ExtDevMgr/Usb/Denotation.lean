import ExtDevMgr.Usb.Grammar
import ExtDevMgr.Usb.Progress

/-!
# What the parser builds from the records

The slots, the endpoint arrays and the extra blocks of a configuration are those that `denote` reads
off the records in front of the cursor, as long as no error code has been taken for a length
(`Built`). A result of zero therefore comes with the configuration of the whole vector, which is
in the grammar.
-/

namespace ExtDevMgr.Usb
open Records

/-! ## Endpoints -/

/-- From `c` to `c'` the loop of `ParseInterfaceEndpoint` has read the records `rs`, with `n` endpoints
declared: it stops with all of them found, or in front of another header. -/
structure EndpointsRead (n : Nat) (c : Cursor) (rs : List (List UInt8)) (c' : Cursor) : Prop where
  skips : c.Skips rs c'
  behind : ∀ r ∈ rs, byteAt r 1 ≠ usbDdkDtInterface
  found : rs.countP isEndpoint ≤ n
  endpoints : ∀ e ∈ rs, isEndpoint e = true → 7 ≤ len e
  led : rs.takeWhile isExtra = []
  extras : extras c' = []
  stops : rs.countP isEndpoint = n ∨ 2 ≤ c'.size

namespace EndpointsRead
variable {n : Nat} {c c' c'' : Cursor} {rs : List (List UInt8)}

theorem refl (h : c.InBounds) (hextras : Usb.extras c = []) (hstops : 0 = n ∨ 2 ≤ c.size) :
    EndpointsRead n c [] c where
  skips := .refl h
  behind := nofun
  found := Nat.zero_le n
  endpoints := nofun
  led := rfl
  extras := hextras
  stops := hstops

/-- One more endpoint descriptor in front, with the extra records behind it. -/
theorem cons {r : List UInt8} {xs : List (List UInt8)} (h : EndpointsRead n c' rs c'')
    (hskip : c.Skips (r :: xs) c') (hr : isEndpoint r = true) (hlen : 7 ≤ len r)
    (hxs : ∀ x ∈ xs, isExtra x = true) : EndpointsRead (n + 1) c (r :: (xs ++ rs)) c'' := by
  have hcount : (r :: (xs ++ rs)).countP isEndpoint = rs.countP isEndpoint + 1 := by
    have hzero : xs.countP isEndpoint = 0 :=
      List.countP_eq_zero.mpr fun x hx => by simp [not_endpoint_of_isExtra (hxs x hx)]
    rw [List.countP_cons_of_pos hr, List.countP_append, hzero, Nat.zero_add]
  have htype : byteAt r 1 = usbDdkDtEndpoint := of_decide_eq_true hr
  refine ⟨hskip.trans h.skips, ?_, ?_, ?_, ?_, h.extras, ?_⟩
  · refine List.forall_mem_cons.mpr ⟨by rw [htype]; decide, List.forall_mem_append.mpr ⟨?_, h.behind⟩⟩
    exact fun x hx => not_interface_of_isExtra (hxs x hx)
  · rw [hcount]
    exact Nat.succ_le_succ h.found
  · refine List.forall_mem_cons.mpr ⟨fun _ => hlen, List.forall_mem_append.mpr ⟨?_, h.endpoints⟩⟩
    intro x hx hend
    rw [not_endpoint_of_isExtra (hxs x hx)] at hend
    cases hend
  · have hx : isExtra r = false := by simp [isExtra, htype]
    rw [List.takeWhile_cons, hx, if_neg Bool.false_ne_true]
  · rw [hcount]
    exact h.stops.imp (congrArg (· + 1)) id

end EndpointsRead

theorem extras_of_skipped {c : Cursor} (h : c.InBounds) :
    extras (c.advance (findNextDescriptor c)) = [] := by
  rw [extras, (skips_extras h).2, List.takeWhile_eq_nil_iff]
  exact fun hl => List.dropWhile_get_zero_not _ _ hl

/-- The state of the loop of `ParseInterfaceEndpoint` with the endpoints `done` stored and `n` to
read. -/
structure EndpointLoop.Stored (st : EndpointLoop) (done : List UsbDdkEndpointDescriptor) (n : Nat) :
    Prop where
  endPoint : st.endPoint = done ++ zeroedEndpoints n
  bNumEndpoints : st.bNumEndpoints = UInt8.ofNat (done.length + n)

/-- The state after a turn that stores `result` at `i` and goes on. -/
def EndpointLoop.next (st : EndpointLoop) (i : Nat) (result : Int × UsbDdkEndpointDescriptor) :
    EndpointLoop :=
  { st with
    ret := result.1
    endPoint := st.endPoint.set i result.2
    cursor := st.cursor.advance result.1 }

namespace EndpointLoop.Stored
variable {st : EndpointLoop} {done : List UsbDdkEndpointDescriptor} {n : Nat}

theorem fresh (h : st.Stored done n) (j : Nat) (hj : done.length ≤ j) :
    st.endPoint.getD j {} = {} := by
  rw [h.endPoint, List.getD_eq_getElem?_getD, List.getElem?_append_right hj,
    ← List.getD_eq_getElem?_getD]
  exact fresh_replicate n _

theorem set (h : st.Stored done (n + 1)) (e : UsbDdkEndpointDescriptor) :
    st.endPoint.set done.length e = done ++ (e :: zeroedEndpoints n) := by
  rw [h.endPoint, List.set_append_right _ _ (Nat.le_refl _), Nat.sub_self, zeroedEndpoints,
    List.replicate_succ, List.set_cons_zero, zeroedEndpoints]

theorem next (h : st.Stored done (n + 1)) (result : Int × UsbDdkEndpointDescriptor) :
    (st.next done.length result).Stored (done ++ [result.2]) n where
  endPoint := by
    rw [List.append_assoc, List.singleton_append, ← h.set]
    rfl
  bNumEndpoints := by
    rw [List.length_append, List.length_singleton, Nat.add_assoc, Nat.add_comm 1, ← h.bNumEndpoints]
    rfl

/-- A turn that reads no endpoint lowers the number of endpoints to those stored. -/
theorem stop (h : st.Stored done (n + 1))
    (hresult : parseEndpoint {} st.cursor = (0, {})) :
    parseEndpoints (n + 1) done.length st =
      { ret := 0, bNumEndpoints := UInt8.ofNat done.length
        endPoint := done ++ zeroedEndpoints (n + 1), cursor := st.cursor } := by
  simp only [parseEndpoints, h.fresh _ (Nat.le_refl _), hresult, if_pos, h.set]
  rfl

theorem go_on (h : st.Stored done (n + 1)) {result : Int × UsbDdkEndpointDescriptor}
    (hresult : parseEndpoint {} st.cursor = result) (hpos : 0 < result.1) :
    parseEndpoints (n + 1) done.length st =
      parseEndpoints n (done.length + 1) (st.next done.length result) := by
  simp only [parseEndpoints, h.fresh _ (Nat.le_refl _), hresult, EndpointLoop.next]
  rw [if_neg (Int.ne_of_gt hpos), if_neg (Int.not_lt.mpr (Int.le_of_lt hpos))]

/-- An error code taken for a length drives the size below that of the turn. -/
theorem jump (h : st.Stored done (n + 1)) (hv : st.cursor.Valid) (e : UsbDdkEndpointDescriptor) :
    (parseEndpoints n (done.length + 1)
      (st.next done.length (usbDdkInvalidOperation, e))).cursor.size + usbDdkInvalidOperation ≤
        st.cursor.size := by
  have hnonneg : 0 ≤ usbDdkInvalidOperation := by decide
  have hvalid : (st.next done.length (usbDdkInvalidOperation, e)).cursor.Valid := hv.advance hnonneg
  have hpass := @parseEndpoints_passes n (done.length + 1)
    (st.next done.length (usbDdkInvalidOperation, e)) hvalid hnonneg (fresh_set e h.fresh)
  have hle := hpass.2.size_le
  simp only [EndpointLoop.next, Cursor.advance] at hle ⊢
  omega

end EndpointLoop.Stored

/-- What a call of `ParseEndpoint` that reads an endpoint has moved past. -/
theorem skips_endpoint {c : Cursor} (h : c.Valid) (hc : Complete c.bytes)
    (htype : byteAt c.buffer 1 = usbDdkDtEndpoint) {xs : List (List UInt8)}
    (hxs : xs = extras (c.advance (byteAt c.buffer 0).toNat)) :
    c.Skips (c.head :: xs) (c.advance (c.head :: xs).flatten.length) ∧
      extras (c.advance (c.head :: xs).flatten.length) = [] ∧ isEndpoint c.head = true ∧
      len c.head = (byteAt c.buffer 0).toNat ∧ 0 < (c.head :: xs).flatten.length := by
  obtain ⟨-, h2, h3⟩ := (Cursor.complete_bytes h.inBounds).mp hc
  have hhead := Cursor.skips_head h.inBounds hc
  have hskips := hhead.trans (skips_extras hhead.inBounds).1
  have hlast := extras_of_skipped hhead.inBounds
  rw [← hxs, List.singleton_append] at hskips
  have heq := hskips.eq
  rw [heq] at hskips hlast
  refine ⟨hskips, hlast, ?_, congrArg UInt8.toNat (Cursor.byteAt_head (by omega) h3), ?_⟩
  · rw [isEndpoint, Cursor.byteAt_head (by omega) h3, htype]
    rfl
  · rw [List.flatten_cons, List.length_append, Cursor.length_head h.inBounds h3]
    omega

/-- The endpoints read are stored behind those already there, and counted with them; or an error code
has been taken for a length. -/
theorem parseEndpoints_reads {n : Nat} {st : EndpointLoop} {done : List UsbDdkEndpointDescriptor}
    (h : st.cursor.Valid) (hextras : extras st.cursor = []) (hst : st.Stored done n) :
    (∃ rs, EndpointsRead n st.cursor rs (parseEndpoints n done.length st).cursor ∧
      (parseEndpoints n done.length st).endPoint =
        done ++ (endpointsOf rs ++ zeroedEndpoints (n - rs.countP isEndpoint)) ∧
      (parseEndpoints n done.length st).bNumEndpoints =
        UInt8.ofNat (done.length + rs.countP isEndpoint)) ∨
    (parseEndpoints n done.length st).cursor.size + usbDdkInvalidOperation ≤ st.cursor.size := by
  induction n generalizing done st with
  | zero =>
    exact .inl ⟨[], .refl h.inBounds hextras (.inl rfl), hst.endPoint, hst.bNumEndpoints⟩
  | succ n ih =>
    have hcall := parseEndpoint_call h
    generalize hresult : parseEndpoint {} st.cursor = result at hcall
    cases hcall with
    | short =>
      rw [hst.go_on hresult (by decide)]
      exact .inr (hst.jump h _)
    | stray hsize =>
      rw [hst.stop hresult]
      exact .inl ⟨[], .refl h.inBounds hextras (.inr hsize), rfl, rfl⟩
    | malformed =>
      rw [hst.go_on hresult (by decide)]
      exact .inr (hst.jump h _)
    | parsed xs hc htype hlen hxs =>
      obtain ⟨hskips, hlast, hr, hbLength, hpos⟩ := skips_endpoint h hc htype hxs
      have hall : ∀ x ∈ xs, isExtra x = true := fun x hx => isExtra_of_mem_extras (hxs ▸ hx)
      rw [hst.go_on hresult (Int.natCast_pos.mpr hpos)]
      have hnext := ih (h.advance (Int.natCast_nonneg _)) hlast (hst.next (_, endpointOf st.cursor.head xs))
      rw [List.length_append, List.length_singleton] at hnext
      rcases hnext with ⟨rs, hread, hend, hnum⟩ | hjump
      · have hcount : (st.cursor.head :: (xs ++ rs)).countP isEndpoint =
            rs.countP isEndpoint + 1 := by
          rw [← length_endpointsOf, endpointsOf_segment hr hall hread.led, List.length_cons,
            length_endpointsOf]
        refine .inl ⟨_, hread.cons hskips hr (hlen.trans_eq hbLength.symm) hall, ?_, ?_⟩
        · rw [endpointsOf_segment hr hall hread.led, hcount, Nat.add_sub_add_right]
          exact hend.trans (by rw [List.append_assoc, List.singleton_append, List.cons_append])
        · rw [hcount]
          exact hnum.trans (congrArg UInt8.ofNat (Nat.add_right_comm _ 1 _))
      · exact .inr (Int.le_trans hjump (Int.sub_le_self _ (Int.natCast_nonneg _)))

/-! ## Interfaces -/

theorem endpointsOf_append_extras {xs : List (List UInt8)} (hxs : ∀ x ∈ xs, isExtra x = true)
    (rs : List (List UInt8)) : endpointsOf (xs ++ rs) = endpointsOf rs := by
  induction xs with
  | nil => rfl
  | cons x xs ih =>
    obtain ⟨hx, hxs⟩ := List.forall_mem_cons.mp hxs
    rw [List.cons_append, endpointsOf, not_endpoint_of_isExtra hx, if_neg Bool.false_ne_true,
      ih hxs]

/-- `ParseInterfaceEndpoint` fills in the endpoints read and lowers their number to those found. -/
theorem parseInterfaceEndpoint_reads (desc : UsbDdkInterfaceDescriptor) {c : Cursor} (h : c.Valid)
    (hextras : extras c = []) (hnone : desc.endPoint = none) :
    (∃ rs, EndpointsRead desc.interfaceDescriptor.bNumEndpoints.toNat c rs
        (parseInterfaceEndpoint desc c).2.2 ∧
      (parseInterfaceEndpoint desc c).2.1 = { desc with
        interfaceDescriptor := { desc.interfaceDescriptor with
          bNumEndpoints := UInt8.ofNat (rs.countP isEndpoint) }
        endPoint := endpointArray desc.interfaceDescriptor.bNumEndpoints.toNat rs }) ∨
    (parseInterfaceEndpoint desc c).2.2.size + usbDdkInvalidOperation ≤ c.size := by
  rw [parseInterfaceEndpoint]
  split
  · rename_i hpos
    have hst : EndpointLoop.Stored
        ⟨usbDdkSuccess, desc.interfaceDescriptor.bNumEndpoints,
          List.replicate desc.interfaceDescriptor.bNumEndpoints.toNat {}, c⟩
        [] desc.interfaceDescriptor.bNumEndpoints.toNat := {
      endPoint := rfl
      bNumEndpoints := by rw [List.length_nil, Nat.zero_add, UInt8.ofNat_toNat] }
    rcases parseEndpoints_reads h hextras hst with ⟨rs, hread, hend, hnum⟩ | hjump
    · refine .inl ⟨rs, hread, ?_⟩
      rw [List.length_nil, Nat.zero_add] at hnum
      rw [List.length_nil] at hend
      dsimp only
      rw [hend, hnum, endpointArray, if_neg (Nat.pos_iff_ne_zero.mp hpos)]
      rfl
    · exact .inr hjump
  · rename_i hzero
    have hzero := Nat.le_zero.mp (Nat.not_lt.mp hzero)
    have hnum : desc.interfaceDescriptor.bNumEndpoints = UInt8.ofNat 0 := UInt8.toNat_inj.mp hzero
    refine .inl ⟨[], .refl h.inBounds hextras (.inl hzero.symm), ?_⟩
    rw [endpointArray, if_pos hzero, List.countP_nil, ← hnum, ← hnone]

/-- A turn that accepts its record reads the records behind it up to some place where no extra
records are left, and stores what they stand for. -/
structure InterfaceLoop.Reads (t : InterfaceLoop) (rs : List (List UInt8)) : Prop where
  skips : t.afterHeader.Skips rs t.endpoints.2.2
  behind : ∀ r ∈ rs, byteAt r 1 ≠ usbDdkDtInterface
  setting : t.endpoints.2.1 = settingOf t.cursor.head rs
  fits : SettingFits t.cursor.head rs
  extras : extras t.endpoints.2.2 = []
  stops : rs.countP isEndpoint = (byteAt t.cursor.head 4).toNat ∨ 2 ≤ t.endpoints.2.2.size

theorem InterfaceLoop.Accepts.reads {t : InterfaceLoop} (ha : t.Accepts) (h : t.cursor.Valid) :
    (∃ rs, t.Reads rs) ∨ t.endpoints.2.2.size + usbDdkInvalidOperation ≤ t.cursor.size := by
  have hafter : t.afterHeader.Valid := h.advance (Int.natCast_nonneg _)
  have hnonneg := findNextDescriptor_nonneg hafter.inBounds
  have hlen := ha.length
  have hbyte : ∀ i, i < 9 → byteAt t.cursor.head i = byteAt t.cursor.buffer i := fun i hi =>
    Cursor.byteAt_head (by omega) ha.length_le
  have hdeclared : t.desc.interfaceDescriptor.bNumEndpoints = byteAt t.cursor.head 4 :=
    (hbyte 4 (by decide)).symm
  have hload : t.desc.interfaceDescriptor = UsbInterfaceDescriptor.load t.cursor.head {} :=
    ha.load_head.symm
  rcases parseInterfaceEndpoint_reads { t.desc with
    endPoint := none
    extra := extraBlock (Usb.extras t.afterHeader)
    extraLength := (Usb.extras t.afterHeader).flatten.length } (hafter.advance hnonneg)
    (extras_of_skipped hafter.inBounds) rfl with ⟨rs, hread, hdesc⟩ | hjump
  · have hall : ∀ x ∈ Usb.extras t.afterHeader, isExtra x = true :=
      fun x hx => isExtra_of_mem_extras hx
    have hcount : (Usb.extras t.afterHeader ++ rs).countP isEndpoint = rs.countP isEndpoint := by
      rw [← length_endpointsOf, endpointsOf_append_extras hall, length_endpointsOf]
    dsimp only at hread hdesc
    rw [hdeclared] at hread hdesc
    refine .inl ⟨Usb.extras t.afterHeader ++ rs, (skips_extras hafter.inBounds).1.trans hread.skips,
      ?_, hdesc.trans ?_, ⟨?_, ?_, ?_, ?_⟩, hread.extras, ?_⟩
    · refine List.forall_mem_append.mpr ⟨?_, hread.behind⟩
      exact fun x hx => not_interface_of_isExtra (hall x hx)
    · have hlowered : { t.desc.interfaceDescriptor with
          bNumEndpoints := UInt8.ofNat (rs.countP isEndpoint) } =
            Usb.lowered t.cursor.head (Usb.extras t.afterHeader ++ rs) := by
        rw [← hcount]
        refine lowered_of_le hload ?_
        rw [hcount, hdeclared]
        exact hread.found
      rw [settingOf, ← hlowered, List.takeWhile_append_of_pos hall, hread.led, List.append_nil,
        endpointArray, endpointArray, hcount, endpointsOf_append_extras hall]
    · exact hlen.trans_eq (congrArg UInt8.toNat (hbyte 0 (by decide))).symm
    · rw [hbyte 4 (by decide)]
      exact ha.endpoints
    · rw [hcount]
      exact hread.found
    · refine List.forall_mem_append.mpr ⟨fun x hx hend => ?_, hread.endpoints⟩
      rw [not_endpoint_of_isExtra (hall x hx)] at hend
      cases hend
    · rw [hcount]
      exact hread.stops
  · have hsize : (t.afterHeader.advance (findNextDescriptor t.afterHeader)).size ≤ t.cursor.size := by
      simp only [InterfaceLoop.afterHeader, Cursor.advance] at hnonneg ⊢
      omega
    exact .inr (Int.le_trans hjump hsize)

/-! ## Runs -/

/-- The counted slots of an interface are the settings of its number. -/
def Denoted (before : List (List UInt8)) (u : UsbDdkInterface) (x : UInt8) : Prop :=
  (u.altsetting.getD []).take u.numAltsetting.toNat = settingsOf x before

namespace Denoted
variable {before rs : List (List UInt8)} {r : List UInt8} {u : UsbDdkInterface} {x : UInt8}

theorem other (h : Denoted before u x) (htype : byteAt r 1 = usbDdkDtInterface)
    (hr : isInterface x r = false) (hrs : ∀ r ∈ rs, byteAt r 1 ≠ usbDdkDtInterface) :
    Denoted (before ++ r :: rs) u x := by
  rw [Denoted, settingsOf_append_interface htype, settingsOf_segment hrs, hr,
    if_neg Bool.false_ne_true, List.append_nil]
  exact h

theorem reject (h : Denoted before u x) (desc : UsbDdkInterfaceDescriptor) :
    Denoted before (u.setSlot u.numAltsetting.toNat desc) x := by
  rw [Denoted, Filled.altsetting_setSlot, numAltsetting_setSlot, List.take_set_of_le (Nat.le_refl _)]
  exact h

theorem accept (h : Denoted before u x) (hlt : u.numAltsetting.toNat < u.slots)
    (hmax : u.numAltsetting.toNat < usbMaxAltSetting) (hr : isInterface x r = true)
    (hrs : ∀ r ∈ rs, byteAt r 1 ≠ usbDdkDtInterface) {desc : UsbDdkInterfaceDescriptor}
    (hdesc : desc = settingOf r rs) :
    Denoted (before ++ r :: rs)
      ({ u with numAltsetting := u.numAltsetting + 1 }.setSlot u.numAltsetting.toNat desc) x := by
  rw [Denoted] at h ⊢
  rw [Filled.altsetting_setSlot, numAltsetting_setSlot, toNat_numAltsetting_succ hmax,
    take_succ_set hlt, h, settingsOf_append_interface (isInterface_iff.mp hr).1,
    settingsOf_segment hrs, if_pos hr, hdesc]

end Denoted

/-- The cursor is behind the header and the records `bs`, these are in the grammar, and the state
holds what they stand for. -/
structure Built (origin : Cursor) (st : ConfigLoop) (bs : List (List UInt8)) : Prop where
  skips : origin.Skips (origin.head :: bs) st.cursor
  fit : SettingsFit bs
  last : LastSettled bs ∨ 2 ≤ st.cursor.size
  settings : ∀ i x, (getInterfaceNumber origin).1[i]? = some x → Denoted bs (st.iface i) x
  extra : st.config.extra = extraBlock (bs.takeWhile isExtra)
  extraLength : st.config.extraLength = (bs.takeWhile isExtra).flatten.length
  strays : ∀ r ∈ bs.takeWhile isBehind, isEndpoint r = false
  /-- The extra records of the configuration are read before its first interface descriptor. -/
  led : bs = [] ∨ extras st.cursor = []

section
variable {origin : Cursor} {st st' : ConfigLoop} {bs : List (List UInt8)}

theorem built_entryState (ho : origin.Valid) (ha : AcceptsHeader origin) :
    Built origin (entryState origin) [] where
  skips := (skips_entryState ho ha).1
  fit := trivial
  last := .inl trivial
  settings i x _ := by
    rw [Denoted, numAltsetting_entryState]
    rfl
  extra := rfl
  extraLength := rfl
  strays := nofun
  led := .inl rfl

theorem Built.skipped (h : Built origin st bs) (hv : st.cursor.Valid) :
    ∃ bs', Built origin st.skipped bs' := by
  by_cases hnext : findNextDescriptor st.cursor = 0
  · exact ⟨bs, by rwa [skipped_of_zero hnext]⟩
  rcases h.led with rfl | hnil
  · have hall : ∀ x ∈ extras st.cursor, isExtra x = true := fun x hx => isExtra_of_mem_extras hx
    have hbehind : ∀ x ∈ extras st.cursor, byteAt x 1 ≠ usbDdkDtInterface :=
      fun x hx => not_interface_of_isExtra (hall x hx)
    have hextras : (extras st.cursor).takeWhile isExtra = extras st.cursor :=
      List.takeWhile_eq_self_iff.mpr hall
    have hne : (extras st.cursor).flatten ≠ [] :=
      mt (extras_flatten_nil hv.inBounds).mp hnext
    have hextra := h.extra
    have hlength := h.extraLength
    rw [List.takeWhile_nil] at hextra hlength
    refine ⟨extras st.cursor, ?_, settingsFit_of_behind hbehind,
      .inl (lastSettled_of_behind hbehind), fun i x hx => ?_, ?_, ?_, fun r hr => ?_, .inr ?_⟩
    · rw [st.cursor_skipped]
      exact h.skips.trans (skips_extras hv.inBounds).1
    · rw [iface_skipped, Denoted, settingsOf_of_behind hbehind]
      exact h.settings i x hx
    · rw [ConfigLoop.skipped, if_neg hnext, hextras, extraBlock, if_neg hne]
      dsimp only
      rw [hextra]
      rfl
    · rw [ConfigLoop.skipped, if_neg hnext, hextras]
      dsimp only
      rw [hlength, List.flatten_nil, List.length_nil, Nat.zero_add]
    · exact not_endpoint_of_isExtra (hall r (List.takeWhile_subset _ hr))
    · rw [st.cursor_skipped]
      exact extras_of_skipped hv.inBounds
  · rw [findNextDescriptor_extras hv.inBounds, hnil] at hnext
    exact absurd rfl hnext

theorem Built.reject (h : Built origin st bs) (i : Nat) :
    Built origin (st.put i (st.turn i).written) bs where
  skips := h.skips
  fit := h.fit
  last := h.last
  settings j x hx := by
    rcases iface_put st i j (st.turn i).written with heq | ⟨rfl, heq⟩
    · rw [heq]
      exact h.settings j x hx
    · rw [heq]
      exact (h.settings i x hx).reject _
  extra := h.extra
  extraLength := h.extraLength
  strays := h.strays
  led := h.led

/-- An accepted descriptor and the records read behind it are one more setting. -/
theorem Built.accept (ho : origin.Valid) (htrace : EntryTrace origin st)
    (h : Built origin st bs) {i : Nat} (hnum : st.Numbered (getInterfaceNumber origin).1 i)
    (ha : (st.turn i).Accepts) (hroom : (st.iface i).numAltsetting.toNat < (st.iface i).slots ∧
      (st.iface i).numAltsetting.toNat < usbMaxAltSetting)
    {rs : List (List UInt8)} (hreads : (st.turn i).Reads rs) :
    Built origin (st.put i (st.turn i).accepted) (bs ++ st.cursor.head :: rs) := by
  have hvalid := (htrace.fromOrigin ho).valid ho
  have hhead := Cursor.skips_head hvalid.inBounds (ha.complete hvalid)
  have hr : isInterface (byteAt st.cursor.buffer 2) st.cursor.head = true := ha.isInterface_head
  have htype := (isInterface_iff.mp hr).1
  have hnotExtra : isExtra st.cursor.head = false := by simp [isExtra, htype]
  have hnotBehind : isBehind st.cursor.head = false := decide_eq_false (not_not_intro htype)
  have hcounts := counts_getInterfaceNumber ho.inBounds
  refine ⟨?_, h.fit.append_segment htype hreads.behind hreads.fits, ?_, fun j x hx => ?_, ?_, ?_, ?_,
    .inr hreads.extras⟩
  · exact h.skips.trans (hhead.trans hreads.skips)
  · exact hreads.stops.imp_left (lastSettled_append_segment bs htype hreads.behind)
  · by_cases hij : i = j
    · subst hij
      obtain rfl : x = byteAt st.cursor.buffer 2 := Option.some.inj (hx.symm.trans hnum)
      rw [iface_put_self st (htrace.lt_length ho hnum)]
      exact (h.settings i _ hx).accept hroom.1 hroom.2 hr hreads.behind hreads.setting
    · have hxne : isInterface x st.cursor.head = false := by
        refine Bool.eq_false_iff.mpr fun hx' => hij (hcounts.index_inj hnum ?_)
        rw [hx, ← (isInterface_iff.mp hx').2.2, (isInterface_iff.mp hr).2.2]
      rw [iface_put_ne st hij]
      exact (h.settings j x hx).other htype hxne hreads.behind
  · rw [takeWhile_append_of_not hnotExtra]
    exact h.extra
  · rw [takeWhile_append_of_not hnotExtra]
    exact h.extraLength
  · rw [takeWhile_append_of_not hnotBehind]
    exact h.strays

/-- The parser builds what the records stand for until an error code is taken for a length. -/
theorem EntryTrace.built (ho : origin.Valid) (hsmall : origin.size < usbDdkInvalidOperation)
    (hcount : ∀ x, (records origin.bytes).countP (isInterface x) ≤ usbMaxAltSetting)
    (ha : AcceptsHeader origin) (h : EntryTrace origin st) :
    st.cursor.size < 0 ∨ ∃ bs, Built origin st bs := by
  have hinv := Trace.invariant (P := fun st => EntryTrace origin st ∧
    (st.cursor.size < 0 ∨ ∃ bs, Built origin st bs)) (fun {st st'} ⟨htrace, hst⟩ hstep => ?_) h
    ⟨.refl, .inr ⟨[], built_entryState ho ha⟩⟩
  · exact hinv.2
  refine ⟨htrace.tail hstep, ?_⟩
  have hvalid := (htrace.fromOrigin ho).valid ho
  cases hstep with
  | extras hsize =>
    obtain ⟨bs, hbs⟩ := hst.resolve_left (by omega)
    exact .inr (hbs.skipped hvalid)
  | reject i hnum hsize =>
    obtain ⟨bs, hbs⟩ := hst.resolve_left (by omega)
    exact .inr ⟨bs, hbs.reject i⟩
  | accept i hnum hacc =>
    have hsize : 9 ≤ st.cursor.size := hacc.size
    have hle := (htrace.fromOrigin ho).size_le
    obtain ⟨bs, hbs⟩ := hst.resolve_left (by omega)
    have hfilled := (htrace.allFilled ho hsmall hcount ha).resolve_left (by omega)
    have hroom := hfilled.room ho hcount htrace hnum hacc
    rcases hacc.reads hvalid with ⟨rs, hreads⟩ | hjump
    · exact .inr ⟨_, hbs.accept ho htrace hnum hacc hroom hreads⟩
    · refine .inl ?_
      change (st.turn i).endpoints.2.2.size < 0
      change (st.turn i).endpoints.2.2.size + usbDdkInvalidOperation ≤ st.cursor.size at hjump
      omega
  | jump d hd =>
    refine .inl ?_
    change origin.size - d < 0
    omega

end

/-! ## A result of zero -/

theorem Holds.eq_interfaceOf {rs : List (List UInt8)} {x : UInt8} {u : UsbDdkInterface}
    (h : Holds settings rs x u) (hdenoted : Denoted rs u x) : u = interfaceOf rs x := by
  obtain ⟨slots, hu, hslots⟩ := h.altsetting
  have hlength : slots.length = u.numAltsetting.toNat := by
    rw [h.num, ← length_settings, ← hslots, List.length_map]
  rw [Denoted, hu, Option.getD_some, ← hlength, List.take_length] at hdenoted
  rw [interfaceOf, ← h.num, UInt8.ofNat_toNat, ← hdenoted, ← hu]

section
variable {origin : Cursor} {b : ConfigResult}

/-- What a run with result zero leaves: the configuration of the records of the whole vector. -/
theorem denotes_of_returns (ho : origin.Valid) (hsmall : origin.size < usbDdkInvalidOperation)
    (hcount : ∀ x, (records origin.bytes).countP (isInterface x) ≤ usbMaxAltSetting)
    (ha : AcceptsHeader origin) (h : Loop.Returns (loopBody origin) (entryState origin) b)
    (hret : b.ret = 0) : ∃ st bs, Built origin st bs ∧ LastSettled bs ∧
      origin.bytes = (origin.head :: bs).flatten ∧ records origin.bytes = origin.head :: bs ∧
      (getInterfaceNumber origin).1 = interfaceNumbers (origin.head :: bs) ∧
      (interfaceNumbers (origin.head :: bs)).length < usbMaxInterfaces ∧
      b.config = denote (origin.head :: bs) := by
  obtain ⟨st, htrace, hconfig, hsize⟩ := exists_trace_of_zero ho ha h hret
  obtain ⟨bs, hbs⟩ := (htrace.built ho hsmall hcount ha).resolve_left (by omega)
  have hend := Cursor.bytes_of_neg (Int.le_of_eq hsize)
  have hbytes : origin.bytes = (origin.head :: bs).flatten := by
    rw [hbs.skips.bytes, hend, List.append_nil]
  have hrec : records origin.bytes = origin.head :: bs := by
    rw [hbs.skips.records, hend, records_nil, List.append_nil]
  have hturns := (turns_resolve_iff ho ha h).1.mpr (Int.le_of_eq hret)
  have hroom := (hturns _ ⟨ha, .refl⟩).length_lt ho ha
  have hnums : (getInterfaceNumber origin).1 = interfaceNumbers (origin.head :: bs) := by
    rw [getInterfaceNumber_eq ho.inBounds, hrec] at hroom ⊢
    exact foldl_countRecord_fst _ hroom
  refine ⟨st, bs, hbs, hbs.last.resolve_right (by omega), hbytes, hrec, hnums, hnums ▸ hroom, ?_⟩
  obtain ⟨us, hus, -, hall⟩ := (lists_of_zero ho hsmall hcount ha h hret).interface
  rw [hrec] at hall
  have hbehind := (skips_entryState ho ha).2 _ (List.mem_singleton_self _)
  have hinterfaces : us = (interfaceNumbers (origin.head :: bs)).map
      (interfaceOf (origin.head :: bs)) := by
    refine List.ext_getElem (by rw [List.length_map, hall.length_eq]) fun i hi hi' => ?_
    rw [List.length_map] at hi'
    have hx : (getInterfaceNumber origin).1[i]? = some (interfaceNumbers (origin.head :: bs))[i] := by
      rw [hnums, List.getElem?_eq_getElem hi']
    have hu : st.iface i = us[i] := by
      rw [ConfigLoop.iface, hconfig, hus, Option.getD_some, List.getD_eq_getElem _ _ hi]
    have hholds := (List.forall₂_iff_get.mp hall).2 i hi' hi
    have hdenoted := hbs.settings i _ hx
    rw [hu] at hdenoted
    rw [List.getElem_map]
    refine Holds.eq_interfaceOf hholds (hdenoted.trans ?_)
    rw [settingsOf, isInterface_eq_false hbehind, if_neg Bool.false_ne_true]
  have hdesc := htrace.configDescriptor
  have hextra := hbs.extra
  have hlength := hbs.extraLength
  rw [hconfig] at hdesc hextra hlength
  have hlen := ha.length
  have hload : UsbConfigDescriptor.load origin.head {} = UsbConfigDescriptor.load origin.buffer {} := by
    rw [← UsbConfigDescriptor.load_take origin.head _ (Nat.le_refl 9),
      Cursor.bytes_head hlen ha.length_le_size, UsbConfigDescriptor.load_take _ _ (Nat.le_refl 9)]
  have hconfig' : b.config.configDescriptor = (denote (origin.head :: bs)).configDescriptor := by
    rw [hdesc, denote, List.headD_cons, hload, ← hnums]
    rfl
  cases hb : b.config with
  | mk configDescriptor interface extra extraLength =>
    rw [hb] at hus hconfig' hextra hlength
    dsimp only at hus hconfig' hextra hlength
    rw [hconfig', hus, hextra, hlength, hinterfaces]
    rfl

end

/-- A result of zero comes with the configuration that the records stand for, and only vectors of the
grammar have it. -/
theorem denotes_of_zero {configBuffer : List UInt8} {outcome : ParseOutcome}
    (hlength : configBuffer.length ≤ 65535)
    (hcount : ∀ x, (records configBuffer).countP (isInterface x) ≤ 128)
    (hreturns : ParserReturns configBuffer outcome) (hret : outcome.ret = 0) :
    Grammatical configBuffer ∧ outcome.config = some (denote (records configBuffer)) := by
  have ho := valid_vectorCursor configBuffer
  have hsize : (vectorCursor configBuffer).size = configBuffer.length :=
    size_vectorCursor_of_lt (by omega)
  have hbytes : (vectorCursor configBuffer).bytes = configBuffer :=
    bytes_vectorCursor_of_lt (by omega)
  have ha := accepts_of_zero hreturns hret
  obtain ⟨result, hresult, rfl⟩ := (parserReturns_of_accepts ha).mp hreturns
  rw [ret_outcomeOf] at hret
  obtain ⟨st, bs, hbs, hlast, hflat, hrec, hnums, hroom, hconfig⟩ := denotes_of_returns ho
    (by rw [hsize]; simp only [usbDdkInvalidOperation]; omega) (hbytes.symm ▸ hcount) ha hresult hret
  rw [hbytes] at hflat hrec
  refine ⟨⟨ha.type, ha.length, ?_, ha.interfaces, ?_, ?_, ?_, ?_, ?_, ?_⟩, ?_⟩
  · have hle := ha.length_le
    rw [hsize] at hle
    change (len configBuffer : Int) ≤ _ at hle
    omega
  · rw [hrec, ← hflat]
  · rw [hrec, ← hnums]
    exact ha.counted
  · rw [hrec]
    exact hroom
  · rw [hrec]
    exact hbs.strays
  · rw [hrec]
    exact hbs.fit
  · rw [hrec]
    exact hlast
  · rw [outcomeOf, if_neg (Int.not_lt.mpr (Int.le_of_eq hret.symm)), hconfig, hrec]

end ExtDevMgr.Usb
