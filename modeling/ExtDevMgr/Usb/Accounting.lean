import Mathlib.Algebra.GroupWithZero.Nat
import ExtDevMgr.Usb.Agreement

/-!
# Every byte is accounted for

The lengths that the configuration holds add up to the bytes in front of the cursor, at every step of
the parser, until an error code is taken for a length and drives the remaining size below zero
(`EntryTrace.accounted`). So do they where the loop runs out of bytes (`bytes_accounted`).
-/

namespace ExtDevMgr.Usb
open Records

/-! ## The bytes that a configuration accounts for -/

def UsbDdkEndpointDescriptor.accounted (endPoint : UsbDdkEndpointDescriptor) : Nat :=
  endPoint.endpointDescriptor.bLength.toNat + endPoint.extraLength

/-- The endpoints behind `bNumEndpoints` are not kept. -/
def UsbDdkInterfaceDescriptor.keptEndpoints (desc : UsbDdkInterfaceDescriptor) :
    List UsbDdkEndpointDescriptor :=
  (desc.endPoint.getD []).take desc.interfaceDescriptor.bNumEndpoints.toNat

def UsbDdkInterfaceDescriptor.accounted (desc : UsbDdkInterfaceDescriptor) : Nat :=
  desc.interfaceDescriptor.bLength.toNat + desc.extraLength +
    (desc.keptEndpoints.map UsbDdkEndpointDescriptor.accounted).sum

/-- The alternate settings behind `numAltsetting` are not filled. -/
def UsbDdkInterface.filledSettings (usbInterface : UsbDdkInterface) :
    List UsbDdkInterfaceDescriptor :=
  (usbInterface.altsetting.getD []).take usbInterface.numAltsetting.toNat

def UsbDdkInterface.accounted (usbInterface : UsbDdkInterface) : Nat :=
  (usbInterface.filledSettings.map UsbDdkInterfaceDescriptor.accounted).sum

def UsbDdkConfigDescriptor.accounted (config : UsbDdkConfigDescriptor) : Nat :=
  config.configDescriptor.bLength.toNat + config.extraLength +
    ((config.interface.getD []).map UsbDdkInterface.accounted).sum

/-- `ParseConfigurationDes` leaves its loop with `result`, not by an error return. -/
def LeavesLoop (configBuffer : List UInt8) (result : ConfigResult) : Prop :=
  ∃ st, Reached configBuffer st ∧ st.RunsOut ∧ configLoop configBuffer st = .inr result

/-! ## Endpoints -/

/-- A call of `ParseEndpoint` returns the bytes that the endpoint accounts for, or an error code. -/
theorem EndpointCall.accounted {c : Cursor} {result : Int × UsbDdkEndpointDescriptor}
    (h : c.InBounds) (hcall : EndpointCall c result) (hne : result.1 ≠ 0) :
    result.1 = result.2.accounted ∨ result.1 = usbDdkInvalidOperation := by
  cases hcall with
  | short => exact .inr rfl
  | stray => exact absurd rfl hne
  | malformed => exact .inr rfl
  | parsed rs hc htype hlen hrs =>
    obtain ⟨-, -, hle⟩ := (Cursor.complete_bytes h).mp hc
    have hlength : (UsbEndpointDescriptor.load c.head {}).bLength = byteAt c.buffer 0 :=
      Cursor.byteAt_head (by omega) hle
    refine .inl ?_
    rw [UsbDdkEndpointDescriptor.accounted, hlength, List.flatten_cons, List.length_append,
      Cursor.length_head h hle]

/-- What the endpoints in front of index `n` account for. -/
def EndpointLoop.accounted (st : EndpointLoop) (n : Nat) : Nat :=
  ((st.endPoint.take n).map UsbDdkEndpointDescriptor.accounted).sum

theorem parseEndpoints_accounted {n i : Nat} {st : EndpointLoop} (h : st.cursor.Valid)
    (hlen : st.endPoint.length = i + n) (hnum : st.bNumEndpoints.toNat = i + n)
    (fresh : ∀ j, i ≤ j → st.endPoint.getD j {} = {}) :
    (parseEndpoints n i st).cursor.size + usbDdkInvalidOperation ≤ st.cursor.size ∨
      ((parseEndpoints n i st).accounted (parseEndpoints n i st).bNumEndpoints.toNat : Int) =
        st.accounted i + (st.cursor.size - (parseEndpoints n i st).cursor.size) := by
  induction n generalizing i st with
  | zero =>
    refine .inr ?_
    rw [parseEndpoints, hnum]
    simp
  | succ n ih =>
    have hcall := parseEndpoint_call h
    obtain ⟨hnonneg, hpass⟩ := hcall.passes h
    simp only [parseEndpoints, fresh i (Nat.le_refl i)]
    split
    · -- the count is lowered to the endpoints found so far
      have hi : i < 256 := by
        have := st.bNumEndpoints.toNat_lt
        omega
      refine .inr ?_
      dsimp only
      rw [UInt8.toNat_ofNat', Nat.mod_eq_of_lt hi, EndpointLoop.accounted,
        List.take_set_of_le (Nat.le_refl i), Int.sub_self, Int.add_zero]
      rfl
    · rename_i hne
      split
      · rename_i hneg
        exact absurd hnonneg (Int.not_le.mpr hneg)
      · have fresh' := fresh_set (parseEndpoint {} st.cursor).2 fresh
        have hlength : (st.endPoint.set i (parseEndpoint {} st.cursor).2).length = i + 1 + n := by
          rw [List.length_set]
          omega
        have hle := (@parseEndpoints_passes n (i + 1) { st with
          ret := (parseEndpoint {} st.cursor).1
          endPoint := st.endPoint.set i (parseEndpoint {} st.cursor).2
          cursor := st.cursor.advance (parseEndpoint {} st.cursor).1 }
          (hpass.valid h) hnonneg fresh').2.size_le
        have hrest := @ih (i + 1) { st with
          ret := (parseEndpoint {} st.cursor).1
          endPoint := st.endPoint.set i (parseEndpoint {} st.cursor).2
          cursor := st.cursor.advance (parseEndpoint {} st.cursor).1 }
          (hpass.valid h) hlength (hnum.trans (by omega)) fresh'
        rcases hrest with hjump | hsum
        · exact .inl (Int.le_trans hjump hpass.size_le)
        · rcases hcall.accounted h.inBounds hne with hret | hret
          · refine .inr (hsum.trans ?_)
            rw [EndpointLoop.accounted, EndpointLoop.accounted,
              take_succ_set (by omega : i < st.endPoint.length), List.map_append, List.sum_append,
              List.map_singleton, List.sum_singleton]
            simp only [Cursor.advance]
            omega
          · refine .inl ?_
            simp only [Cursor.advance, hret] at hle ⊢
            omega

/-- The endpoints account for the bytes that `ParseInterfaceEndpoint` moves past. -/
theorem parseInterfaceEndpoint_accounted (desc : UsbDdkInterfaceDescriptor) {c : Cursor}
    (h : c.Valid) (hnone : desc.endPoint = none) :
    (parseInterfaceEndpoint desc c).2.2.size + usbDdkInvalidOperation ≤ c.size ∨
      ((parseInterfaceEndpoint desc c).2.1.accounted : Int) =
        desc.interfaceDescriptor.bLength.toNat + desc.extraLength +
          (c.size - (parseInterfaceEndpoint desc c).2.2.size) := by
  rw [parseInterfaceEndpoint]
  split
  · have hrun := @parseEndpoints_accounted desc.interfaceDescriptor.bNumEndpoints.toNat 0 {
      ret := usbDdkSuccess
      bNumEndpoints := desc.interfaceDescriptor.bNumEndpoints
      endPoint := List.replicate desc.interfaceDescriptor.bNumEndpoints.toNat {}
      cursor := c } h (by rw [List.length_replicate, Nat.zero_add]) (Nat.zero_add _).symm
      fun j _ => fresh_replicate _ j
    refine hrun.imp_right fun hsum => ?_
    rw [EndpointLoop.accounted, EndpointLoop.accounted, List.take_zero] at hsum
    rw [UsbDdkInterfaceDescriptor.accounted, UsbDdkInterfaceDescriptor.keptEndpoints]
    simp only [List.map_nil, List.sum_nil, Option.getD_some] at hsum ⊢
    omega
  · refine .inr ?_
    rw [UsbDdkInterfaceDescriptor.accounted, UsbDdkInterfaceDescriptor.keptEndpoints, hnone]
    simp

/-! ## Interfaces -/

/-- A record, the extra records behind it and its endpoints. -/
theorem InterfaceLoop.accounted_endpoints {t : InterfaceLoop} (h : t.cursor.Valid) :
    t.endpoints.2.2.size + usbDdkInvalidOperation ≤ t.cursor.size ∨
      (t.endpoints.2.1.accounted : Int) = t.cursor.size - t.endpoints.2.2.size := by
  have hafter : t.afterHeader.Valid := h.advance (Int.natCast_nonneg _)
  have hbehind : (t.afterHeader.advance (findNextDescriptor t.afterHeader)).size =
      t.cursor.size - (byteAt t.cursor.buffer 0).toNat - (extras t.afterHeader).flatten.length := by
    rw [findNextDescriptor_extras hafter.inBounds]
    rfl
  -- the setting that `ParseInterfaceEndpoint` is called with
  obtain ⟨desc, hend, hnone, hlength, hextra⟩ : ∃ desc : UsbDdkInterfaceDescriptor,
      t.endpoints =
        parseInterfaceEndpoint desc (t.afterHeader.advance (findNextDescriptor t.afterHeader)) ∧
      desc.endPoint = none ∧ desc.interfaceDescriptor.bLength = byteAt t.cursor.buffer 0 ∧
      desc.extraLength = (extras t.afterHeader).flatten.length := ⟨_, rfl, rfl, rfl, rfl⟩
  have hrun := parseInterfaceEndpoint_accounted desc
    (hafter.advance (findNextDescriptor_nonneg hafter.inBounds)) hnone
  rw [← hend, hbehind, hlength, hextra] at hrun
  rcases hrun with hjump | hsum
  · exact .inl (by omega)
  · exact .inr (by omega)

/-- A write to the slot behind the filled ones fills none of them. -/
theorem accounted_setSlot (u : UsbDdkInterface) (desc : UsbDdkInterfaceDescriptor) :
    (u.setSlot u.numAltsetting.toNat desc).accounted = u.accounted := by
  rw [UsbDdkInterface.accounted, UsbDdkInterface.filledSettings, Filled.altsetting_setSlot,
    numAltsetting_setSlot, List.take_set_of_le (Nat.le_refl _)]
  rfl

/-- A counted slot adds its setting. -/
theorem accounted_setSlot_succ {u : UsbDdkInterface} (hlt : u.numAltsetting.toNat < u.slots)
    (hmax : u.numAltsetting.toNat < usbMaxAltSetting) (desc : UsbDdkInterfaceDescriptor) :
    ({ u with numAltsetting := u.numAltsetting + 1 }.setSlot u.numAltsetting.toNat desc).accounted =
      u.accounted + desc.accounted := by
  rw [UsbDdkInterface.accounted, UsbDdkInterface.filledSettings, Filled.altsetting_setSlot,
    numAltsetting_setSlot, toNat_numAltsetting_succ hmax, take_succ_set hlt, List.map_append,
    List.sum_append, List.map_singleton, List.sum_singleton]
  rfl

/-! ## Runs -/

section
variable {origin : Cursor} {st : ConfigLoop}

theorem accounted_extra (config : UsbDdkConfigDescriptor) (extra : Option (List UInt8)) (n : Nat) :
    { config with extra, extraLength := config.extraLength + n }.accounted =
      config.accounted + n := by
  simp only [UsbDdkConfigDescriptor.accounted]
  omega

theorem accounted_skipped (h : st.cursor.InBounds) :
    (st.skipped.config.accounted : Int) =
      st.config.accounted + findNextDescriptor st.cursor := by
  rw [ConfigLoop.skipped]
  split
  · rename_i hzero
    rw [hzero, Int.add_zero]
  · rw [findNextDescriptor_extras h, ← Int.natCast_add]
    exact congrArg Nat.cast (accounted_extra st.config _ _)

/-- Replacing an element changes the sum by the difference. -/
theorem sum_map_set {α : Type} (f : α → Nat) {l : List α} {i : Nat} (hi : i < l.length) (b : α) :
    ((l.set i b).map f).sum + f l[i] = (l.map f).sum + f b := by
  induction l generalizing i with
  | nil => cases hi
  | cons a l ih =>
    cases i with
    | zero =>
      rw [List.set_cons_zero, List.map_cons, List.map_cons, List.sum_cons, List.sum_cons,
        List.getElem_cons_zero]
      omega
    | succ i =>
      have hrest := ih (Nat.lt_of_succ_lt_succ hi)
      rw [List.set_cons_succ, List.map_cons, List.map_cons, List.sum_cons, List.sum_cons,
        List.getElem_cons_succ]
      omega

/-- Storing a turn of interface `i` changes the sum by what the turn does to that interface. -/
theorem accounted_put (st : ConfigLoop) {i : Nat} (hi : i < (st.config.interface.getD []).length)
    (t : InterfaceLoop) :
    (st.put i t).config.accounted + (st.iface i).accounted =
      st.config.accounted + t.usbInterface.accounted := by
  have hset : (st.put i t).config.interface.getD [] =
      (st.config.interface.getD []).set i t.usbInterface := by
    cases h : st.config.interface with
    | none => simp [h] at hi
    | some us => simp [ConfigLoop.put, UsbDdkConfigDescriptor.setInterface, h]
  have hsum := sum_map_set UsbDdkInterface.accounted hi t.usbInterface
  rw [← List.getD_eq_getElem _ {} hi] at hsum
  rw [UsbDdkConfigDescriptor.accounted, UsbDdkConfigDescriptor.accounted, hset, ConfigLoop.iface]
  change st.config.configDescriptor.bLength.toNat + st.config.extraLength + _ + _ = _
  omega

/-- The lengths that the configuration holds add up to the bytes in front of the cursor. -/
def Accounted (origin : Cursor) (st : ConfigLoop) : Prop :=
  origin.size - st.cursor.size = st.config.accounted

theorem accounted_allocateInterfaces (alternateSetting : List UInt8) :
    ((allocateInterfaces alternateSetting).map UsbDdkInterface.accounted).sum = 0 := by
  induction alternateSetting with
  | nil => rfl
  | cons j js ih =>
    rw [allocateInterfaces, List.map_cons, List.map_cons, List.sum_cons]
    exact (Nat.zero_add _).trans ih

theorem accounted_entryState (origin : Cursor) : Accounted origin (entryState origin) := by
  rw [Accounted, UsbDdkConfigDescriptor.accounted]
  simp only [entryState, Option.getD_some, accounted_allocateInterfaces, Cursor.advance,
    Int.sub_sub_self]
  rfl

theorem Accounted.skipped (h : Accounted origin st) (hb : st.cursor.InBounds) :
    Accounted origin st.skipped := by
  rw [Accounted] at h ⊢
  rw [accounted_skipped hb, st.cursor_skipped]
  simp only [Cursor.advance]
  omega

theorem Accounted.reject (h : Accounted origin st) {i : Nat}
    (hi : i < (st.config.interface.getD []).length) :
    Accounted origin (st.put i (st.turn i).written) := by
  have hput := accounted_put st hi (st.turn i).written
  have hsame : (st.turn i).written.usbInterface.accounted = (st.iface i).accounted :=
    accounted_setSlot _ _
  have hcursor : (st.put i (st.turn i).written).cursor = st.cursor := rfl
  rw [Accounted] at h ⊢
  rw [hcursor]
  omega

theorem Accounted.accept (h : Accounted origin st) {i : Nat} (hv : st.cursor.Valid)
    (hi : i < (st.config.interface.getD []).length)
    (hlt : (st.iface i).numAltsetting.toNat < (st.iface i).slots)
    (hmax : (st.iface i).numAltsetting.toNat < usbMaxAltSetting) :
    (st.put i (st.turn i).accepted).cursor.size + usbDdkInvalidOperation ≤ st.cursor.size ∨
      Accounted origin (st.put i (st.turn i).accepted) := by
  have hput := accounted_put st hi (st.turn i).accepted
  have hadd : (st.turn i).accepted.usbInterface.accounted =
      (st.iface i).accounted + (st.turn i).endpoints.2.1.accounted :=
    accounted_setSlot_succ hlt hmax _
  have hcursor : (st.put i (st.turn i).accepted).cursor = (st.turn i).endpoints.2.2 := rfl
  have hturn : (st.turn i).cursor = st.cursor := rfl
  rw [hcursor]
  refine (InterfaceLoop.accounted_endpoints (t := st.turn i) hv).imp_right fun hsum => ?_
  rw [Accounted] at h ⊢
  rw [hcursor]
  rw [hturn] at hsum
  omega

/-- Each step keeps the bytes accounted for, until an error code is taken for a length. -/
theorem EntryTrace.accounted (ho : origin.Valid) (hsmall : origin.size < usbDdkInvalidOperation)
    (hcount : ∀ x, (records origin.bytes).countP (isInterface x) ≤ usbMaxAltSetting)
    (ha : AcceptsHeader origin) (h : EntryTrace origin st) :
    st.cursor.size < 0 ∨ Accounted origin st := by
  have hinv := Trace.invariant (P := fun st => EntryTrace origin st ∧
    (st.cursor.size < 0 ∨ Accounted origin st)) (fun {st st'} ⟨htrace, hst⟩ hstep => ?_) h
    ⟨.refl, .inr (accounted_entryState origin)⟩
  · exact hinv.2
  refine ⟨htrace.tail hstep, ?_⟩
  have hfrom := htrace.fromOrigin ho
  cases hstep with
  | extras hsize => exact .inr ((hst.resolve_left (by omega)).skipped (hfrom.valid ho).inBounds)
  | reject i hnum hsize =>
    exact .inr ((hst.resolve_left (by omega)).reject (htrace.lt_length ho hnum))
  | accept i hnum hacc =>
    have hsize : 9 ≤ st.cursor.size := hacc.size
    have hfilled := (htrace.allFilled ho hsmall hcount ha).resolve_left (by omega)
    obtain ⟨hlt, hmax⟩ := hfilled.room ho hcount htrace hnum hacc
    have hstored := (hst.resolve_left (by omega)).accept (hfrom.valid ho)
      (htrace.lt_length ho hnum) hlt hmax
    refine hstored.imp_left fun hjump => ?_
    have hle := hfrom.size_le
    omega
  | jump d hd =>
    refine .inl ?_
    change origin.size - d < 0
    omega

end

theorem leavesLoop_of_returns {configBuffer : List UInt8} {result : ConfigResult}
    (ha : AcceptsHeader (vectorCursor configBuffer))
    (h : Loop.Returns (configLoop configBuffer) (entryState (vectorCursor configBuffer)) result)
    (hnonneg : 0 ≤ result.ret) (hret : result.ret ≠ usbDdkInvalidParameter) :
    LeavesLoop configBuffer result := by
  obtain ⟨st, hreach, hexit⟩ := Loop.returns_iff.mp h
  have hreached : Reached configBuffer st := ⟨ha, hreach⟩
  rcases ReachedFrom.exit (valid_vectorCursor configBuffer) hreached hexit with ⟨hruns, -⟩ | ⟨-, herr⟩
  · exact ⟨st, hreached, hruns, hexit⟩
  · rcases herr with herr | hneg
    · exact absurd herr hret
    · exact absurd hnonneg (Int.not_le.mpr hneg)

/-- In vectors of at most 65535 bytes in which no number has more than 128 interface descriptors, no
byte is lost or counted twice where the loop leaves a size that is not negative. -/
theorem bytes_accounted (configBuffer : List UInt8) (result : ConfigResult)
    (hlength : configBuffer.length ≤ 65535)
    (hcount : ∀ x, (records configBuffer).countP (isInterface x) ≤ 128)
    (hleaves : LeavesLoop configBuffer result) (hsize : 0 ≤ result.size) :
    (configBuffer.length : Int) - result.size = result.config.accounted := by
  obtain ⟨st, hreached, hruns, hexit⟩ := hleaves
  have ho := valid_vectorCursor configBuffer
  have horigin : (vectorCursor configBuffer).size = configBuffer.length :=
    size_vectorCursor_of_lt (by omega)
  have hbytes : (vectorCursor configBuffer).bytes = configBuffer :=
    bytes_vectorCursor_of_lt (by omega)
  rcases ReachedFrom.exit ho hreached hexit with ⟨-, st', htrace, rfl⟩ | ⟨hgoes, -⟩
  · have hsum := (htrace.accounted ho
      (by rw [horigin]; simp only [usbDdkInvalidOperation]; omega)
      (hbytes.symm ▸ hcount) hreached.accepts).resolve_left (Int.not_lt.mpr hsize)
    rw [Accounted, horigin] at hsum
    exact hsum
  · exact absurd hruns hgoes

/-- A vector with extra records behind its header, an interface and an endpoint, two declared
endpoints of which one follows, and a byte behind the last record. -/
def extrasEverywhere : List UInt8 :=
  [[9, 2, 42, 0, 1, 1, 0, 128, 50], [2, 36], [9, 4, 0, 0, 2, 255, 0, 0, 0], [3, 33, 7],
    [7, 5, 129, 2, 64, 0, 0], [2, 48], [9, 4, 0, 1, 0, 255, 0, 0, 0], [7]].flatten

theorem countP_extrasEverywhere (x : UInt8) :
    (records extrasEverywhere).countP (isInterface x) ≤ 128 := by
  have hlength : (records extrasEverywhere).length ≤ 128 := by decide +kernel
  exact Nat.le_trans List.countP_le_length hlength

theorem accepts_extrasEverywhere : AcceptsHeader (vectorCursor extrasEverywhere) where
  size := by decide +kernel
  type := by decide +kernel
  length := by decide +kernel
  length_le := by decide +kernel
  interfaces := by decide +kernel
  counted := by decide +kernel

/-- One byte is left, and the other ones are accounted for. -/
theorem bytes_accounted_extrasEverywhere : ∃ result, LeavesLoop extrasEverywhere result ∧
    result.size = 1 ∧ (extrasEverywhere.length : Int) - result.size = result.config.accounted := by
  have hrun : (Loop.iter (configLoop extrasEverywhere) 10
      (entryState (vectorCursor extrasEverywhere))).map (fun b => (b.ret, b.size)) =
        some (1, 1) := by
    decide +kernel
  obtain ⟨result, hresult, hret⟩ := Option.map_eq_some_iff.mp hrun
  obtain ⟨hret, hsize⟩ := Prod.mk.inj hret
  have hleaves := leavesLoop_of_returns accepts_extrasEverywhere ⟨10, hresult⟩
    (by rw [hret]; decide) (by rw [hret]; decide)
  exact ⟨result, hleaves, hsize, bytes_accounted extrasEverywhere result (by decide)
    countP_extrasEverywhere hleaves (by rw [hsize]; decide)⟩

end ExtDevMgr.Usb
