import ExtDevMgr.Usb.Tree
import ExtDevMgr.Usb.Turns

/-!
# Decoding an encoded tree

Each parsing function on the encoding of a part of a tree with `rest` behind it yields that part and
stops at `rest`, provided that `rest` does not start with an extra descriptor (`NoExtra`) and, for an
interface, not with another of its settings (`Ends`).
-/

namespace ExtDevMgr.Usb
open Records

/-- The cursor at the start of the bytes. -/
def atBytes (bs : List UInt8) : Cursor where
  buffer := bs
  size := bs.length

theorem inBounds_atBytes (bs : List UInt8) : (atBytes bs).InBounds := Int.le_refl _

theorem valid_atBytes {bs : List UInt8} (h : bs.length < 2 ^ 31) : (atBytes bs).Valid where
  inBounds := inBounds_atBytes bs
  lt := by
    change (bs.length : Int) < 2 ^ 31
    omega

@[simp] theorem bytes_atBytes (bs : List UInt8) : (atBytes bs).bytes = bs := List.take_length

theorem advance_atBytes {xs ys : List UInt8} {n : Int} (hn : n = xs.length) :
    (atBytes (xs ++ ys)).advance n = atBytes ys := by
  subst hn
  simp only [Cursor.advance, atBytes, Int.toNat_natCast, List.drop_left, List.length_append,
    Cursor.mk.injEq, true_and]
  omega

/-! ## Extra descriptors -/

/-- The bytes do not start with a complete extra descriptor. -/
def NoExtra (bs : List UInt8) : Prop := (records bs).takeWhile isExtra = []

theorem noExtra_nil : NoExtra [] := by
  rw [NoExtra, records_nil, List.takeWhile_nil]

theorem noExtra_append {r : List UInt8} (hr : IsRecord r) (hx : isExtra r = false)
    (bs : List UInt8) : NoExtra (r ++ bs) := by
  rw [NoExtra, records_append hr, List.takeWhile_cons, hx]
  rfl

theorem noExtra_endpoints (es : List EndpointTree) {rest : List UInt8} (h : NoExtra rest) :
    NoExtra ((es.flatMap (·.records)).flatten ++ rest) := by
  cases es with
  | nil => exact h
  | cons e es =>
    rw [List.flatMap_cons, EndpointTree.records, List.cons_append, List.flatten_cons,
      List.append_assoc]
    exact noExtra_append e.isRecord_header rfl _

theorem noExtra_settings (number : UInt8) (ss : List SettingTree) {rest : List UInt8}
    (h : NoExtra rest) : NoExtra ((ss.flatMap (·.records number)).flatten ++ rest) := by
  cases ss with
  | nil => exact h
  | cons s ss =>
    rw [List.flatMap_cons, SettingTree.records, List.cons_append, List.flatten_cons,
      List.append_assoc]
    exact noExtra_append (s.isRecord_header number) rfl _

section
variable (ds : List ExtraDescriptor) {rest : List UInt8}

theorem extras_atBytes (h : NoExtra rest) :
    extras (atBytes ((ds.map (·.encode)).flatten ++ rest)) = ds.map (·.encode) := by
  rw [extras, bytes_atBytes, records_flatten_append fun r => isRecord_of_mem_extras,
    List.takeWhile_append_of_pos fun r => isExtra_of_mem_map, h, List.append_nil]

theorem findNextDescriptor_atBytes (h : NoExtra rest) :
    findNextDescriptor (atBytes ((ds.map (·.encode)).flatten ++ rest)) =
      (ds.map (·.encode)).flatten.length := by
  rw [findNextDescriptor_extras (inBounds_atBytes _), extras_atBytes ds h]

end

/-! ## Endpoints -/

section
variable (e : EndpointTree) (bs : List UInt8)

theorem EndpointTree.toNat_bLength :
    (byteAt (atBytes (e.header ++ bs)).buffer 0).toNat = e.header.length := by
  rw [e.length_header]
  refine (@len_record (usbDdkDtEndpoint :: _) ?_).trans ?_
  · have := e.length_le
    simp only [List.length_cons]
    omega
  · simp only [List.length_cons]
    omega

theorem EndpointTree.load_header :
    UsbEndpointDescriptor.load e.header {} = e.toDdk.endpointDescriptor := by
  rw [UsbEndpointDescriptor.load, toDdk]
  congr 1
  · simp only [header, record, byteAt, List.getD_cons_zero, List.length_cons]
    congr 1
    omega
  · exact le16ToHost_hostToLe16 e.wMaxPacketSize

end

theorem parseEndpoint_encode (e : EndpointTree) {rest : List UInt8} (hrest : NoExtra rest)
    (hlt : (e.records.flatten ++ rest).length < 2 ^ 31) :
    parseEndpoint {} (atBytes (e.records.flatten ++ rest)) =
      ((e.records.flatten.length : Int), e.toDdk) := by
  have hcall := parseEndpoint_call (valid_atBytes hlt)
  have hbytes : e.records.flatten ++ rest =
      e.header ++ ((e.extras.map (·.encode)).flatten ++ rest) := by
    rw [EndpointTree.records, List.flatten_cons, List.append_assoc]
  have hlen := e.toNat_bLength ((e.extras.map (·.encode)).flatten ++ rest)
  have h7 := e.length_header
  have hsize : (e.header.length : Int) ≤ (atBytes (e.records.flatten ++ rest)).size := by
    rw [hbytes]
    change (e.header.length : Int) ≤ (e.header ++ _).length
    rw [List.length_append]
    omega
  rw [← hbytes] at hlen
  generalize hr : parseEndpoint {} (atBytes (e.records.flatten ++ rest)) = result at hcall ⊢
  cases hcall with
  | short hshort =>
    simp only [descHeaderLength] at hshort
    omega
  | stray hheader hstray =>
    rcases hstray with htype | hlong
    · rw [hbytes] at htype
      exact absurd rfl htype
    · omega
  | malformed _ _ _ hmal =>
    simp only [usbDdkDtEndpointSize] at hmal
    omega
  | parsed rs hc htype h7' hrs =>
    have hhead : (atBytes (e.records.flatten ++ rest)).head = e.header := by
      rw [Cursor.head, hlen, bytes_atBytes, hbytes, List.take_left]
    rw [hlen, hbytes, advance_atBytes rfl, extras_atBytes _ hrest] at hrs
    rw [hhead, hrs, e.load_header]
    rfl

theorem parseEndpoints_encode (es : List EndpointTree) {done : List UsbDdkEndpointDescriptor}
    {rest : List UInt8} {st : EndpointLoop} (hrest : NoExtra rest)
    (hcursor : st.cursor = atBytes ((es.flatMap (·.records)).flatten ++ rest))
    (hlt : ((es.flatMap (·.records)).flatten ++ rest).length < 2 ^ 31) (hret : 0 ≤ st.ret)
    (hend : st.endPoint =
      done ++ List.replicate es.length ({} : UsbDdkEndpointDescriptor)) :
    ∃ ret, 0 ≤ ret ∧ parseEndpoints es.length done.length st =
      { st with ret, endPoint := done ++ es.map (·.toDdk), cursor := atBytes rest } := by
  induction es generalizing done st with
  | nil =>
    obtain ⟨ret, bNumEndpoints, endPoint, cursor⟩ := st
    obtain rfl : cursor = atBytes rest := hcursor
    obtain rfl : endPoint = done ++ [] := hend
    exact ⟨ret, hret, rfl⟩
  | cons e es ih =>
    have hbytes : ((e :: es).flatMap (·.records)).flatten ++ rest =
        e.records.flatten ++ ((es.flatMap (·.records)).flatten ++ rest) := by
      rw [List.flatMap_cons, List.flatten_append, List.append_assoc]
    rw [hbytes] at hcursor hlt
    have hparse := parseEndpoint_encode e (noExtra_endpoints es hrest) hlt
    have hslot : st.endPoint.getD done.length {} = {} := by
      rw [hend, List.getD_append_right _ _ _ _ (Nat.le_refl _), Nat.sub_self]
      rfl
    have hset : st.endPoint.set done.length e.toDdk =
        (done ++ [e.toDdk]) ++ List.replicate es.length ({} : UsbDdkEndpointDescriptor) := by
      rw [hend, List.set_append_right _ _ (Nat.le_refl _), Nat.sub_self, List.length_cons,
        List.replicate_succ, List.set_cons_zero, List.append_assoc, List.singleton_append]
    have hpos : 0 < (e.records.flatten.length : Int) := by
      have h7 := e.length_header
      rw [EndpointTree.records, List.flatten_cons, List.length_append]
      omega
    obtain ⟨ret, hret', hrun⟩ := @ih (done ++ [e.toDdk]) {
      st with
      ret := e.records.flatten.length
      endPoint := st.endPoint.set done.length e.toDdk
      cursor := atBytes ((es.flatMap (·.records)).flatten ++ rest) } rfl
      (by rw [List.length_append] at hlt; omega) (Int.le_of_lt hpos) hset
    refine ⟨ret, hret', ?_⟩
    rw [List.length_cons, parseEndpoints, hslot, hcursor, hparse]
    simp only
    rw [if_neg (by omega), if_neg (by omega), advance_atBytes rfl]
    rw [List.length_append, List.length_singleton] at hrun
    rw [hrun, List.map_cons, List.append_assoc, List.singleton_append]

theorem parseInterfaceEndpoint_encode (es : List EndpointTree) {rest : List UInt8}
    {desc : UsbDdkInterfaceDescriptor} (hrest : NoExtra rest)
    (hlt : ((es.flatMap (·.records)).flatten ++ rest).length < 2 ^ 31)
    (hnum : desc.interfaceDescriptor.bNumEndpoints.toNat = es.length)
    (hnull : desc.endPoint = none) :
    ∃ ret, 0 ≤ ret ∧
      parseInterfaceEndpoint desc (atBytes ((es.flatMap (·.records)).flatten ++ rest)) =
        (ret, { desc with endPoint := endpointBlock es }, atBytes rest) := by
  rw [parseInterfaceEndpoint]
  cases es with
  | nil =>
    rw [if_neg (by rw [hnum]; exact Nat.lt_irrefl 0)]
    refine ⟨0, Int.le_refl 0, ?_⟩
    obtain ⟨interfaceDescriptor, endPoint, extra, extraLength⟩ := desc
    obtain rfl : endPoint = none := hnull
    rfl
  | cons e es =>
    rw [if_pos (by rw [hnum]; exact Nat.succ_pos _)]
    obtain ⟨ret, hret, hrun⟩ := @parseEndpoints_encode (e :: es) [] rest {
      ret := usbDdkSuccess
      bNumEndpoints := desc.interfaceDescriptor.bNumEndpoints
      endPoint := List.replicate desc.interfaceDescriptor.bNumEndpoints.toNat {}
      cursor := atBytes (((e :: es).flatMap (·.records)).flatten ++ rest) } hrest rfl hlt
      (Int.le_refl 0) (by rw [hnum]; rfl)
    refine ⟨ret, hret, ?_⟩
    rw [List.length_nil, ← hnum] at hrun
    simp only [hrun]
    rfl

/-! ## Settings -/

section
variable (number : UInt8) (s : SettingTree) (bs : List UInt8)

theorem SettingTree.toNat_bLength :
    (byteAt (atBytes (s.header number ++ bs)).buffer 0).toNat = (s.header number).length := by
  rw [s.length_header]
  refine (@len_record (usbDdkDtInterface :: _) ?_).trans ?_
  · have := s.length_le
    simp only [List.length_cons]
    omega
  · simp only [List.length_cons]
    omega

theorem SettingTree.load_header (desc : UsbInterfaceDescriptor) :
    UsbInterfaceDescriptor.load (s.header number ++ bs) desc =
      (s.toDdk number).interfaceDescriptor := by
  rw [UsbInterfaceDescriptor.load, toDdk]
  congr 1
  simp only [header, record, byteAt, List.cons_append, List.getD_cons_zero, List.length_cons]
  congr 1
  omega

theorem SettingTree.toNat_bNumEndpoints :
    (UInt8.ofNat s.endpoints.length).toNat = s.endpoints.length :=
  Nat.mod_eq_of_lt (Nat.lt_of_le_of_lt s.endpoints_le (by decide))

theorem SettingTree.flatten_records : (s.records number).flatten ++ bs =
    s.header number ++ ((s.extras.map (·.encode)).flatten ++
      ((s.endpoints.flatMap (·.records)).flatten ++ bs)) := by
  rw [records, List.flatten_cons, List.flatten_append]
  simp only [List.append_assoc]

end

/-- A turn of `ParseInterface` at a setting. -/
theorem accepted_encode {number : UInt8} {s : SettingTree} {rest : List UInt8}
    {st : InterfaceLoop} (hrest : NoExtra rest)
    (hcursor : st.cursor = atBytes ((s.records number).flatten ++ rest))
    (hlt : ((s.records number).flatten ++ rest).length < 2 ^ 31) :
    st.Accepts ∧ byteAt st.cursor.buffer 2 = number ∧ st.accepted.cursor = atBytes rest ∧
      st.accepted.usbInterface =
        { st.usbInterface with numAltsetting := st.usbInterface.numAltsetting + 1 }.setSlot
          st.target (s.toDdk number) := by
  rw [s.flatten_records] at hcursor hlt
  have hlen := s.toNat_bLength number ((s.extras.map (·.encode)).flatten ++
    ((s.endpoints.flatMap (·.records)).flatten ++ rest))
  have h9 := s.length_header number
  rw [← hcursor] at hlen
  have hsize : ((s.header number).length : Int) ≤ st.cursor.size := by
    rw [hcursor]
    simp only [atBytes, List.length_append]
    omega
  have hends := noExtra_endpoints s.endpoints hrest
  have hafter : st.afterHeader = atBytes ((s.extras.map (·.encode)).flatten ++
      ((s.endpoints.flatMap (·.records)).flatten ++ rest)) := by
    rw [InterfaceLoop.afterHeader, hlen, hcursor, advance_atBytes rfl]
  have hload : st.desc.interfaceDescriptor = (s.toDdk number).interfaceDescriptor := by
    rw [InterfaceLoop.desc, hcursor]
    exact s.load_header number _ (st.usbInterface.slot st.target).interfaceDescriptor
  obtain ⟨ret, -, hrun⟩ := @parseInterfaceEndpoint_encode s.endpoints rest
    { s.toDdk number with endPoint := none } hrest
    (by simp only [List.length_append] at hlt ⊢; omega) s.toNat_bNumEndpoints rfl
  have hendpoints : st.endpoints = (ret, s.toDdk number, atBytes rest) := by
    rw [InterfaceLoop.endpoints]
    simp only [hafter, extras_atBytes _ hends, findNextDescriptor_atBytes _ hends,
      advance_atBytes, hload]
    exact hrun
  refine ⟨⟨by omega, ?_, by omega, by omega, ?_⟩, ?_, ?_, ?_⟩
  · rw [hcursor]
    rfl
  · have hnum := s.toNat_bNumEndpoints
    have hbyte : byteAt st.cursor.buffer 4 = UInt8.ofNat s.endpoints.length := by
      rw [hcursor]
      rfl
    rw [hbyte, hnum]
    exact s.endpoints_le
  · rw [hcursor]
    rfl
  · rw [InterfaceLoop.accepted, hendpoints]
  · rw [InterfaceLoop.accepted, hendpoints]

/-- What follows an interface does not belong to it. -/
structure Ends (number : UInt8) (rest : List UInt8) : Prop where
  noExtra : NoExtra rest
  next : ¬ (9 ≤ rest.length ∧ byteAt rest 1 = usbDdkDtInterface ∧ byteAt rest 2 = number)

/-- The loop of `ParseInterface`, entered with `size` bytes, has parsed `done` and stands at the
settings `ss`. -/
structure AtSettings (number : UInt8) (rest : List UInt8) (size : Int)
    (done : List UsbDdkInterfaceDescriptor) (ss : List SettingTree) (st : InterfaceLoop) :
    Prop where
  cursor : st.cursor = atBytes ((ss.flatMap (·.records number)).flatten ++ rest)
  offset : st.offset = size - st.cursor.size
  le : st.cursor.size ≤ size
  number : st.interfaceNumber = -1 ∨ st.interfaceNumber = number.toNat
  count : done.length + ss.length ≤ 128
  interface : st.usbInterface = {
    numAltsetting := UInt8.ofNat done.length
    altsetting := some (done ++ List.replicate ss.length ({} : UsbDdkInterfaceDescriptor)) }

section
variable {number : UInt8} {rest : List UInt8} {size : Int} {done : List UsbDdkInterfaceDescriptor}
  {s : SettingTree} {ss : List SettingTree} {st : InterfaceLoop}

theorem AtSettings.valid (h : AtSettings number rest size done ss st) (hlt : size < 2 ^ 31) :
    st.cursor.Valid := by
  have hle := h.le
  rw [h.cursor] at hle ⊢
  refine valid_atBytes ?_
  change ((_ : Nat) : Int) ≤ size at hle
  omega

theorem AtSettings.bytes_cons : ((s :: ss).flatMap (·.records number)).flatten ++ rest =
    (s.records number).flatten ++ ((ss.flatMap (·.records number)).flatten ++ rest) := by
  rw [List.flatMap_cons, List.flatten_append, List.append_assoc]

/-- A turn of `ParseInterface` parses one setting. -/
theorem AtSettings.accepted (h : AtSettings number rest size done (s :: ss) st)
    (hlt : size < 2 ^ 31) (hrest : NoExtra rest) :
    st.Accepts ∧ st.accepted.interfaceNumber = number.toNat ∧
      AtSettings number rest size (done ++ [s.toDdk number]) ss st.accepted := by
  have hvalid := h.valid hlt
  have hcursor := h.cursor
  rw [bytes_cons] at hcursor
  have hlen : ((s.records number).flatten ++
      ((ss.flatMap (·.records number)).flatten ++ rest)).length < 2 ^ 31 := by
    have hsize := hvalid.lt
    rw [hcursor] at hsize
    change ((_ : Nat) : Int) < 2 ^ 31 at hsize
    omega
  obtain ⟨ha, hbyte, hcur, hslot⟩ :=
    accepted_encode (noExtra_settings number ss hrest) hcursor hlen
  have hcount := h.count
  rw [List.length_cons] at hcount
  have htarget : st.target = done.length := by
    rw [InterfaceLoop.target, h.interface]
    exact Nat.mod_eq_of_lt (by omega)
  have hnumber : st.accepted.interfaceNumber = number.toNat := by
    rw [InterfaceLoop.accepted]
    simp only [hbyte]
    split
    · rfl
    · rename_i hne
      exact h.number.resolve_left hne
  refine ⟨ha, hnumber, hcur, ?_, ?_, .inr hnumber, ?_, ?_⟩
  · have hoffset := h.offset
    simp only [InterfaceLoop.accepted]
    omega
  · exact Int.le_trans (by have := ha.size_le hvalid; omega) h.le
  · rw [List.length_append, List.length_singleton]
    omega
  · rw [hslot, htarget, h.interface, List.length_append, List.length_singleton, UInt8.ofNat_add]
    simp only [UsbDdkInterface.setSlot, Option.map_some, List.length_cons, List.replicate_succ]
    rw [List.set_append_right _ _ (Nat.le_refl _), Nat.sub_self, List.set_cons_zero,
      List.append_assoc, List.singleton_append]
    rfl

/-- What a turn at an accepted record does. -/
theorem InterfaceLoop.Accepts.turn (ha : st.Accepts) (h : st.cursor.Valid) :
    (st.accepted.AtNext → parseInterfaceBody st = .inl st.accepted) ∧
      (¬ st.accepted.AtNext →
        parseInterfaceBody st = .inr (st.accepted.leave (toInt32 st.accepted.offset))) := by
  have hturn := parseInterfaceBody_turn h
  generalize parseInterfaceBody st = r at hturn
  cases hturn with
  | short hshort => exact absurd ha.size (Int.not_le.mpr hshort)
  | stray _ hstray =>
    rcases hstray with htype | hlong
    · exact absurd ha.type htype
    · exact absurd ha.length_le (Int.not_le.mpr hlong)
  | malformed _ _ _ hmal =>
    rcases hmal with hshort | hmany
    · exact absurd ha.length (Nat.not_le.mpr hshort)
    · exact absurd ha.endpoints (Nat.not_le.mpr hmany)
  | next _ hnext => exact ⟨fun _ => rfl, fun hlast => absurd hnext hlast⟩
  | last _ hlast => exact ⟨fun hnext => absurd hnext hlast, fun _ => rfl⟩

/-- The loop of `ParseInterface` over the remaining settings of an interface. -/
theorem AtSettings.returns (h : AtSettings number rest size done (s :: ss) st)
    (hlt : size < 2 ^ 31) (hrest : Ends number rest) :
    ∃ b, Loop.Returns parseInterfaceBody st b ∧ b.ret = size - rest.length ∧
      b.usbInterface = {
        numAltsetting := UInt8.ofNat (done.length + (s :: ss).length)
        altsetting := some (done ++ (s :: ss).map (·.toDdk number)) } := by
  induction ss generalizing s done st with
  | nil =>
    obtain ⟨ha, hnumber, hafter⟩ := h.accepted hlt hrest.noExtra
    have hcursor : st.accepted.cursor = atBytes rest := hafter.cursor
    have hlast : ¬ st.accepted.AtNext := by
      intro hnext
      have hsize := hnext.size
      have htype := hnext.type
      have hnum := hnext.number
      rw [hcursor] at hsize htype hnum
      refine hrest.next ⟨Int.ofNat_le.mp hsize, htype, UInt8.toNat_inj.mp (Int.ofNat_inj.mp ?_)⟩
      exact hnum.trans hnumber
    refine ⟨_, Loop.returns_of_inr ((ha.turn (h.valid hlt)).2 hlast), ?_, ?_⟩
    · have hoffset := hafter.offset
      have hle := hafter.le
      rw [hcursor] at hoffset hle
      change st.accepted.offset = size - rest.length at hoffset
      change (rest.length : Int) ≤ size at hle
      change toInt32 st.accepted.offset = _
      rw [hoffset]
      exact toInt32_of_bounds (by omega) (by omega)
    · change st.accepted.usbInterface = _
      rw [hafter.interface, List.length_append]
      simp only [List.length_nil, List.replicate_zero, List.append_nil, List.length_singleton,
        List.map_cons, List.map_nil]
  | cons s' ss ih =>
    obtain ⟨ha, hnumber, hafter⟩ := h.accepted hlt hrest.noExtra
    obtain ⟨b, hb, hret, hu⟩ := ih hafter
    have hnext : st.accepted.AtNext := by
      have hcursor := hafter.cursor
      rw [AtSettings.bytes_cons, s'.flatten_records] at hcursor
      have hlen := s'.length_header number
      constructor
      · rw [hcursor]
        simp only [atBytes, List.length_append]
        omega
      · rw [hcursor]
        rfl
      · rw [hcursor, hnumber]
        rfl
    refine ⟨b, hb.cons ((ha.turn (h.valid hlt)).1 hnext), hret, ?_⟩
    rw [hu, List.length_append, List.append_assoc]
    simp only [List.length_cons, List.length_nil, List.map_cons, List.singleton_append]
    congr 2
    omega

end

theorem parseInterface_encode (i : InterfaceTree) {rest : List UInt8}
    (hrest : Ends i.bInterfaceNumber rest)
    (hlt : (i.records.flatten ++ rest).length < 2 ^ 31) :
    (parseInterface { altsetting := some (List.replicate i.settings.length {}) }
        (atBytes (i.records.flatten ++ rest))).ret = i.records.flatten.length ∧
      (parseInterface { altsetting := some (List.replicate i.settings.length {}) }
        (atBytes (i.records.flatten ++ rest))).usbInterface = i.toDdk := by
  obtain ⟨number, settings, hpos, hle⟩ := i
  cases settings with
  | nil => exact absurd hpos (Nat.not_succ_le_zero 0)
  | cons s ss =>
    have hentry : AtSettings number rest
        (((s :: ss).flatMap (·.records number)).flatten ++ rest).length [] (s :: ss)
        (interfaceEntry { altsetting := some (List.replicate (s :: ss).length {}) }
          (atBytes (((s :: ss).flatMap (·.records number)).flatten ++ rest))) :=
      ⟨rfl, (Int.sub_self _).symm, Int.le_refl _, .inl rfl,
        by rw [List.length_nil, Nat.zero_add]; exact hle, rfl⟩
    obtain ⟨b, hb, hret, hu⟩ := hentry.returns (Int.ofNat_lt.mpr hlt) hrest
    have hunique := (parseInterface_returns (valid_atBytes hlt) (Nat.zero_le _)).unique hb
    rw [List.length_append] at hret
    constructor
    · refine (congrArg InterfaceResult.ret hunique).trans (hret.trans ?_)
      change (_ : Int) = ((((s :: ss).flatMap (·.records number)).flatten.length : Nat) : Int)
      omega
    · refine (congrArg InterfaceResult.usbInterface hunique).trans (hu.trans ?_)
      simp only [List.length_nil, Nat.zero_add, List.nil_append]
      rfl

end ExtDevMgr.Usb
