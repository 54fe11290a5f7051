import ExtDevMgr.Usb.Denotation

/-!
# The vectors that the parser accepts

On a vector of the grammar every call of `ParseEndpoint` finds an endpoint descriptor or stops in
front of the next interface descriptor, every turn of `ParseInterface` accepts a descriptor and reads
up to the next one, and the turns of `ParseConfigurationDes` end behind the last byte. Together with
`denotes_of_zero` this says which vectors the parser returns zero for, and with what.
-/

namespace ExtDevMgr.Usb
open Records

/-! ## The interface numbers -/

theorem length_interfaceNumbers_le (rs : List (List UInt8)) (r : List UInt8) :
    (interfaceNumbers rs).length ≤ (interfaceNumbers (rs ++ [r])).length := by
  rw [interfaceNumbers_concat]
  split
  · rw [List.length_append]
    exact Nat.le_add_right _ _
  · exact Nat.le_refl _

/-- The counting pass lists fewer than 32 numbers. -/
theorem foldl_countRecord_of_lt (rs : List (List UInt8))
    (h : (interfaceNumbers rs).length < usbMaxInterfaces) :
    (rs.foldl countRecord ([], [])).1 = interfaceNumbers rs := by
  induction rs using List.reverseRecOn with
  | nil => rfl
  | append_singleton rs r ih =>
    have hprev := Nat.lt_of_le_of_lt (length_interfaceNumbers_le rs r) h
    rw [List.foldl_concat, countRecord_fst, ih hprev, interfaceNumbers_concat]
    simp only [hprev, and_true]

/-! ## Endpoints -/

/-- The bytes at the cursor are whole records. -/
structure Whole (c : Cursor) : Prop where
  valid : c.Valid
  nonneg : 0 ≤ c.size
  whole : c.bytes = (records c.bytes).flatten

theorem Whole.skips {c c' : Cursor} {rs : List (List UInt8)} (h : Whole c) (hskip : c.Skips rs c') :
    Whole c' where
  valid := by
    rw [hskip.eq]
    exact h.valid.advance (Int.natCast_nonneg _)
  nonneg := hskip.size_nonneg h.valid.inBounds h.nonneg
  whole := by
    have hbytes := hskip.bytes.symm.trans (h.whole.trans (congrArg List.flatten hskip.records))
    rw [List.flatten_append] at hbytes
    exact List.append_cancel_left hbytes

theorem Whole.complete_iff {c : Cursor} (h : Whole c) : Complete c.bytes ↔ 0 < c.size := by
  refine ⟨fun hc => ?_, fun hpos => ?_⟩
  · obtain ⟨h1, -, -⟩ := (Cursor.complete_bytes h.valid.inBounds).mp hc
    omega
  · by_contra hc
    have hbytes := h.whole
    rw [records_of_not_complete hc, List.flatten_nil] at hbytes
    have hlen := Cursor.length_bytes h.valid.inBounds
    rw [hbytes, List.length_nil] at hlen
    omega

/-- Where the records are left, the cursor is at a complete record. -/
theorem Whole.cons {c : Cursor} (h : Whole c) {r : List UInt8} {rs : List (List UInt8)}
    (hrec : records c.bytes = r :: rs) : Complete c.bytes ∧ r = c.head ∧
      c.Skips [r] (c.advance (byteAt c.buffer 0).toNat) ∧
      records (c.advance (byteAt c.buffer 0).toNat).bytes = rs := by
  have hc : Complete c.bytes := by
    by_contra hc
    rw [records_of_not_complete hc] at hrec
    cases hrec
  obtain ⟨h1, -, -⟩ := (Cursor.complete_bytes h.valid.inBounds).mp hc
  have hskip := Cursor.skips_head h.valid.inBounds hc
  have hhead := hskip.records
  rw [hrec, List.singleton_append, List.cons.injEq] at hhead
  exact ⟨hc, hhead.1, hhead.1 ▸ hskip, hhead.2.symm⟩

theorem Whole.nil {c : Cursor} (h : Whole c) (hrec : records c.bytes = []) : c.size = 0 := by
  have hlen := Cursor.length_bytes h.valid.inBounds
  rw [h.whole, hrec, List.flatten_nil, List.length_nil] at hlen
  have := h.nonneg
  omega

/-- In front of an interface descriptor no endpoint is read. -/
theorem Whole.parseEndpoint_stop {c : Cursor} (h : Whole c) {r : List UInt8}
    {rs : List (List UInt8)} (hrec : records c.bytes = r :: rs)
    (hr : byteAt r 1 = usbDdkDtInterface) : parseEndpoint {} c = (0, {}) := by
  obtain ⟨hc, rfl, -, -⟩ := h.cons hrec
  obtain ⟨h1, h2, h3⟩ := (Cursor.complete_bytes h.valid.inBounds).mp hc
  rw [Cursor.byteAt_head (by omega) h3] at hr
  have hcall := parseEndpoint_call h.valid
  generalize parseEndpoint {} c = result at hcall ⊢
  cases hcall with
  | short hshort => exact absurd h1 (Int.not_le.mpr hshort)
  | stray => rfl
  | malformed _ htype => exact absurd (hr.symm.trans htype) (by decide)
  | parsed _ _ htype => exact absurd (hr.symm.trans htype) (by decide)

/-- At an endpoint descriptor it is read, together with the extra records behind it. -/
theorem Whole.parseEndpoint_parsed {c : Cursor} (h : Whole c) {r : List UInt8}
    {rs : List (List UInt8)} (hrec : records c.bytes = r :: rs) (hr : isEndpoint r = true)
    (hlen : 7 ≤ len r) : ∃ e, parseEndpoint {} c =
      (((r :: rs.takeWhile isExtra).flatten.length : Int), e) ∧
      c.Skips (r :: rs.takeWhile isExtra)
        (c.advance (r :: rs.takeWhile isExtra).flatten.length) := by
  obtain ⟨hc, rfl, -, hrest⟩ := h.cons hrec
  obtain ⟨h1, h2, h3⟩ := (Cursor.complete_bytes h.valid.inBounds).mp hc
  have htype : byteAt c.buffer 1 = usbDdkDtEndpoint := by
    rw [← Cursor.byteAt_head (by omega) h3]
    exact of_decide_eq_true hr
  have hbLength : len c.head = (byteAt c.buffer 0).toNat :=
    congrArg UInt8.toNat (Cursor.byteAt_head (by omega) h3)
  have hcall := parseEndpoint_call h.valid
  generalize parseEndpoint {} c = result at hcall ⊢
  cases hcall with
  | short hshort => exact absurd h1 (Int.not_le.mpr hshort)
  | stray _ hstray =>
    rcases hstray with hne | hlt
    · exact absurd htype hne
    · exact absurd h3 (Int.not_le.mpr hlt)
  | malformed _ _ _ hmal =>
    simp only [usbDdkDtEndpointSize] at hmal
    omega
  | parsed xs _ _ _ hxs =>
    have hskips := (skips_endpoint h.valid hc htype hxs).1
    rw [extras, hrest] at hxs
    exact ⟨_, by rw [hxs], hxs ▸ hskips⟩

theorem takeWhile_isExtra_append {bs rs : List (List UInt8)}
    (hrs : ∀ r, rs.head? = some r → byteAt r 1 = usbDdkDtInterface) :
    (bs ++ rs).takeWhile isExtra = bs.takeWhile isExtra := by
  cases rs with
  | nil => rw [List.append_nil]
  | cons r rs =>
    have hr : isExtra r = false := by simp [isExtra, hrs r rfl]
    exact takeWhile_append_of_not hr bs rs

/-- The loop of `ParseInterfaceEndpoint` reads all records up to the next interface descriptor. -/
theorem Whole.parseEndpoints {n : Nat} {st : EndpointLoop} {done : List UsbDdkEndpointDescriptor}
    (h : Whole st.cursor) (hst : st.Stored done n) {bs rs : List (List UInt8)}
    (hrec : records st.cursor.bytes = bs ++ rs) (hbs : ∀ r ∈ bs, byteAt r 1 ≠ usbDdkDtInterface)
    (hrs : ∀ r, rs.head? = some r → byteAt r 1 = usbDdkDtInterface)
    (hled : bs.takeWhile isExtra = []) (hfound : bs.countP isEndpoint ≤ n)
    (hlens : ∀ e ∈ bs, isEndpoint e = true → 7 ≤ len e)
    (hlast : rs = [] → bs.countP isEndpoint = n) :
    st.cursor.Skips bs (Usb.parseEndpoints n done.length st).cursor := by
  induction n generalizing done st bs with
  | zero =>
    have hnil : bs = [] := by
      cases bs with
      | nil => rfl
      | cons b bs =>
        have hend : isEndpoint b = false := by
          by_contra hend
          rw [List.countP_cons_of_pos (Bool.not_eq_false _ ▸ hend)] at hfound
          exact absurd hfound (Nat.not_succ_le_zero _)
        have hb := hbs b List.mem_cons_self
        have hx : isExtra b = true := by
          simp only [isEndpoint, decide_eq_false_iff_not] at hend
          simp [isExtra, hb, hend]
        rw [List.takeWhile_cons, hx] at hled
        cases hled
    rw [hnil]
    exact .refl h.valid.inBounds
  | succ n ih =>
    cases bs with
    | nil =>
      cases rs with
      | nil => exact absurd (hlast rfl) (by rw [List.countP_nil]; exact (Nat.succ_ne_zero n).symm)
      | cons r rs =>
        rw [hst.stop (h.parseEndpoint_stop hrec (hrs r rfl))]
        exact .refl h.valid.inBounds
    | cons b bs =>
      obtain ⟨hb, hbs'⟩ := List.forall_mem_cons.mp hbs
      rw [List.cons_append] at hrec
      have hend : isEndpoint b = true := by
        by_contra hend
        have hx : isExtra b = true := by
          simp only [isEndpoint, decide_eq_true_eq] at hend
          simp [isExtra, hb, hend]
        rw [List.takeWhile_cons, hx] at hled
        cases hled
      obtain ⟨e, hcall, hskips⟩ := h.parseEndpoint_parsed hrec hend (hlens b List.mem_cons_self hend)
      rw [takeWhile_isExtra_append hrs] at hcall hskips
      have hpos : 0 < (b :: bs.takeWhile isExtra).flatten.length := by
        have hrecord : IsRecord b := isRecord_of_mem (hrec ▸ List.mem_cons_self)
        have := hrecord.1
        rw [List.flatten_cons, List.length_append]
        omega
      rw [hst.go_on hcall (Int.natCast_pos.mpr hpos)]
      have hsplit : bs.takeWhile isExtra ++ bs.dropWhile isExtra = bs :=
        List.takeWhile_append_dropWhile
      have hzero : (bs.takeWhile isExtra).countP isEndpoint = 0 :=
        List.countP_eq_zero.mpr fun x hx => by
          simp [not_endpoint_of_isExtra (List.mem_takeWhile_imp hx)]
      have hcount : (b :: bs).countP isEndpoint = (bs.dropWhile isExtra).countP isEndpoint + 1 := by
        rw [List.countP_cons_of_pos hend, ← hsplit, List.countP_append, hzero, Nat.zero_add, hsplit]
      rw [hcount] at hfound hlast
      have hmem : ∀ x ∈ bs.dropWhile isExtra, x ∈ bs := fun x hx => List.dropWhile_subset _ hx
      have hrec' : records (st.cursor.advance (b :: bs.takeWhile isExtra).flatten.length).bytes =
          bs.dropWhile isExtra ++ rs := by
        have hcons : b :: (bs ++ rs) =
            (b :: bs.takeWhile isExtra) ++ (bs.dropWhile isExtra ++ rs) := by
          rw [List.cons_append, ← List.append_assoc, hsplit]
        exact (List.append_cancel_left ((hcons.symm.trans hrec.symm).trans hskips.records)).symm
      have hnext := ih (h.skips hskips) (hst.next (_, e)) hrec'
        (fun r hr => hbs' r (hmem r hr)) ?_ (Nat.le_of_succ_le_succ hfound)
        (fun r hr => hlens r (List.mem_cons_of_mem _ (hmem r hr)))
        (fun hnil => Nat.succ.inj (hlast hnil))
      · rw [List.length_append, List.length_singleton] at hnext
        have hall := hskips.trans hnext
        rwa [List.cons_append, hsplit] at hall
      · rw [List.takeWhile_eq_nil_iff]
        exact fun hl => List.dropWhile_get_zero_not _ _ hl

theorem Whole.parseInterfaceEndpoint {c : Cursor} (h : Whole c) (desc : UsbDdkInterfaceDescriptor)
    {bs rs : List (List UInt8)} (hrec : records c.bytes = bs ++ rs)
    (hbs : ∀ r ∈ bs, byteAt r 1 ≠ usbDdkDtInterface)
    (hrs : ∀ r, rs.head? = some r → byteAt r 1 = usbDdkDtInterface)
    (hled : bs.takeWhile isExtra = [])
    (hfound : bs.countP isEndpoint ≤ desc.interfaceDescriptor.bNumEndpoints.toNat)
    (hlens : ∀ e ∈ bs, isEndpoint e = true → 7 ≤ len e)
    (hlast : rs = [] → bs.countP isEndpoint = desc.interfaceDescriptor.bNumEndpoints.toNat) :
    c.Skips bs (Usb.parseInterfaceEndpoint desc c).2.2 := by
  have hst : EndpointLoop.Stored
      ⟨usbDdkSuccess, desc.interfaceDescriptor.bNumEndpoints,
        List.replicate desc.interfaceDescriptor.bNumEndpoints.toNat {}, c⟩
      [] desc.interfaceDescriptor.bNumEndpoints.toNat := {
    endPoint := rfl
    bNumEndpoints := by rw [List.length_nil, Nat.zero_add, UInt8.ofNat_toNat] }
  have hskips := h.parseEndpoints hst hrec hbs hrs hled hfound hlens hlast
  rw [Usb.parseInterfaceEndpoint]
  split
  · exact hskips
  · rename_i hzero
    rwa [Nat.le_zero.mp (Nat.not_lt.mp hzero)] at hskips

/-! ## Interfaces -/

theorem SettingsFit.of_append {bs rs : List (List UInt8)} (h : SettingsFit (bs ++ rs)) :
    SettingsFit rs := by
  induction bs with
  | nil => exact h
  | cons b bs ih => exact ih h.2

theorem LastSettled.of_append {bs rs : List (List UInt8)} (h : LastSettled (bs ++ rs)) :
    LastSettled rs := by
  induction bs with
  | nil => exact h
  | cons b bs ih => exact ih h.2

theorem head?_dropWhile_isBehind {rs : List (List UInt8)} {r : List UInt8}
    (h : (rs.dropWhile isBehind).head? = some r) : byteAt r 1 = usbDdkDtInterface := by
  have hnot := List.head?_dropWhile_not isBehind rs
  rw [h] at hnot
  exact not_not.mp (of_decide_eq_false hnot)

/-- The cursor is at an interface descriptor of a vector of the grammar, or behind the last byte. -/
structure Ready (c : Cursor) : Prop extends Whole c where
  starts : ∀ r, (records c.bytes).head? = some r → byteAt r 1 = usbDdkDtInterface
  fit : SettingsFit (records c.bytes)
  last : LastSettled (records c.bytes)

theorem Ready.no_extras {c : Cursor} (h : Ready c) : findNextDescriptor c = 0 := by
  have htake : ([] ++ records c.bytes).takeWhile isExtra = [].takeWhile isExtra :=
    takeWhile_isExtra_append h.starts
  rw [List.nil_append, List.takeWhile_nil] at htake
  rw [findNextDescriptor_extras h.valid.inBounds, extras, htake]
  rfl

section
variable {t : InterfaceLoop} {r : List UInt8} {rs : List (List UInt8)}

/-- The descriptor at the cursor is accepted. -/
theorem Ready.accepts (h : Ready t.cursor) (hrec : records t.cursor.bytes = r :: rs) :
    t.Accepts ∧ r = t.cursor.head := by
  obtain ⟨hc, rfl, -, -⟩ := h.cons hrec
  obtain ⟨h1, h2, h3⟩ := (Cursor.complete_bytes h.valid.inBounds).mp hc
  have hstart := h.starts _ (by rw [hrec]; rfl)
  have hfit := h.fit
  rw [hrec] at hfit
  have hfits := hfit.1 hstart
  have hlen : len t.cursor.head = (byteAt t.cursor.buffer 0).toNat :=
    congrArg UInt8.toNat (Cursor.byteAt_head (by omega) h3)
  have hlength := hfits.length
  rw [hlen] at hlength
  have hdeclared := hfits.declared
  rw [Cursor.byteAt_head (by omega) h3] at hdeclared hstart
  exact ⟨⟨by omega, hstart, hlength, h3, hdeclared⟩, rfl⟩

/-- Its turn moves past the records up to the next interface descriptor. -/
theorem Ready.skips (h : Ready t.cursor) (hrec : records t.cursor.bytes = r :: rs) :
    t.cursor.Skips (r :: rs.takeWhile isBehind) t.accepted.cursor := by
  obtain ⟨ha, -⟩ := h.accepts hrec
  obtain ⟨hc, rfl, hskip, hrest⟩ := h.cons hrec
  obtain ⟨h1, h2, h3⟩ := (Cursor.complete_bytes h.valid.inBounds).mp hc
  have hlen := ha.length
  have hdeclared : byteAt t.cursor.head 4 = t.desc.interfaceDescriptor.bNumEndpoints :=
    Cursor.byteAt_head (by omega) h3
  have hsplit : rs.takeWhile isBehind ++ rs.dropWhile isBehind = rs :=
    List.takeWhile_append_dropWhile
  have hhead : ∀ q, (rs.dropWhile isBehind).head? = some q → byteAt q 1 = usbDdkDtInterface :=
    fun q hq => head?_dropWhile_isBehind hq
  have hwhole := h.toWhole.skips hskip
  have hextras := skips_extras hwhole.valid.inBounds
  have htake : extras t.afterHeader = (rs.takeWhile isBehind).takeWhile isExtra := by
    rw [← takeWhile_isExtra_append hhead, hsplit, ← hrest]
    rfl
  generalize hbs : rs.takeWhile isBehind = bs at hsplit htake
  have hbehind : ∀ q ∈ bs, byteAt q 1 ≠ usbDdkDtInterface := by
    intro q hq
    exact of_decide_eq_true (List.mem_takeWhile_imp (hbs ▸ hq) : isBehind q = true)
  have hmem : ∀ q ∈ bs.dropWhile isExtra, q ∈ bs := fun q hq => List.dropWhile_subset _ hq
  have hsplit' : bs.takeWhile isExtra ++ bs.dropWhile isExtra = bs :=
    List.takeWhile_append_dropWhile
  have hzero : (bs.takeWhile isExtra).countP isEndpoint = 0 :=
    List.countP_eq_zero.mpr fun x hx => by
      simp [not_endpoint_of_isExtra (List.mem_takeWhile_imp hx)]
  have hcount : (bs.dropWhile isExtra).countP isEndpoint = bs.countP isEndpoint := by
    conv_rhs => rw [← hsplit', List.countP_append, hzero, Nat.zero_add]
  have hfit := h.fit
  have hlast := h.last
  rw [hrec] at hfit hlast
  have htype := h.starts _ (by rw [hrec]; rfl)
  have hfits := hfit.1 htype
  rw [hbs] at hfits
  have hrec' : records (t.afterHeader.advance (findNextDescriptor t.afterHeader)).bytes =
      bs.dropWhile isExtra ++ rs.dropWhile isBehind := by
    have hall := hextras.1.records
    rw [hrest, htake] at hall
    refine (List.append_cancel_left (hall.symm.trans ?_))
    rw [← List.append_assoc, hsplit', hsplit]
  have hend := (hwhole.skips hextras.1).parseInterfaceEndpoint { t.desc with
      endPoint := none
      extra := extraBlock (extras t.afterHeader)
      extraLength := (extras t.afterHeader).flatten.length } hrec'
    (fun q hq => hbehind q (hmem q hq)) hhead ?_ ?_ (fun q hq => hfits.endpoints q (hmem q hq)) ?_
  · have hall : t.cursor.Skips ([t.cursor.head] ++ (extras t.afterHeader ++ bs.dropWhile isExtra))
        t.accepted.cursor := hskip.trans (hextras.1.trans hend)
    rwa [htake, hsplit'] at hall
  · rw [List.takeWhile_eq_nil_iff]
    exact fun hl => List.dropWhile_get_zero_not _ _ hl
  · rw [hcount, ← hdeclared]
    exact hfits.found
  · intro hnil
    have hall := hlast.1 htype hnil
    rw [hnil, List.append_nil] at hsplit
    rw [hcount, ← hdeclared, hsplit]
    exact hall

theorem Ready.accepted (h : Ready t.cursor) (hrec : records t.cursor.bytes = r :: rs) :
    Ready t.accepted.cursor := by
  have hskips := h.skips hrec
  have hrest : records t.accepted.cursor.bytes = rs.dropWhile isBehind := by
    have hall := hskips.records
    rw [hrec, List.cons_append, List.cons.injEq] at hall
    have hsplit : rs.takeWhile isBehind ++ rs.dropWhile isBehind = rs :=
      List.takeWhile_append_dropWhile
    exact (List.append_cancel_left (hsplit.trans hall.2)).symm
  have hfit := h.fit
  have hlast := h.last
  rw [hskips.records] at hfit hlast
  refine ⟨h.toWhole.skips hskips, fun q hq => ?_, hfit.of_append, hlast.of_append⟩
  rw [hrest] at hq
  exact head?_dropWhile_isBehind hq

end

/-- `ParseInterface` reads the descriptors at the cursor up to one of another number. -/
theorem Ready.parseInterface {u : UsbDdkInterface} {c : Cursor} (h : Ready c)
    (hnum : u.numAltsetting.toNat ≤ usbMaxAltSetting) (hne : records c.bytes ≠ []) :
    0 ≤ (Usb.parseInterface u c).ret ∧ Ready (c.advance (Usb.parseInterface u c).ret) := by
  refine parseInterface_rule h.valid hnum
    (P := fun t => Ready t.cursor ∧ records t.cursor.bytes ≠ [] ∧ Cursor.From c t.cursor ∧
      t.offset = c.size - t.cursor.size)
    (Q := fun b => 0 ≤ b.ret ∧ Ready (c.advance b.ret))
    ⟨h, hne, .refl c, (Int.sub_self _).symm⟩ ?_ ?_
  · intro t _ ⟨hready, hrec, hfrom, hoffset⟩ ha hnext
    obtain ⟨r, rs, hrec⟩ := List.exists_cons_of_ne_nil hrec
    have hready' := hready.accepted hrec
    refine ⟨hready', fun hnil => ?_, ?_, ?_⟩
    · have hsize := hnext.size
      rw [hready'.nil hnil] at hsize
      exact absurd hsize (by decide)
    · rw [(hready.skips hrec).eq]
      exact hfrom.advance (Int.natCast_nonneg _)
    · simp only [InterfaceLoop.accepted]
      omega
  · intro t b _ ⟨hready, hrec, hfrom, hoffset⟩ hturn
    obtain ⟨r, rs, hrec⟩ := List.exists_cons_of_ne_nil hrec
    obtain ⟨ha, -⟩ := hready.accepts hrec
    cases hturn with
    | short hsize => exact absurd ha.size (Int.not_le.mpr hsize)
    | stray _ hstray =>
      rcases hstray with htype | hlt
      · exact absurd ha.type htype
      · exact absurd ha.length_le (Int.not_le.mpr hlt)
    | malformed _ _ _ hmal =>
      rcases hmal with hlt | hlt
      · exact absurd ha.length (Nat.not_le.mpr hlt)
      · exact absurd ha.endpoints (Nat.not_le.mpr hlt)
    | last =>
      have hready' := hready.accepted hrec
      have hfrom' : Cursor.From c t.accepted.cursor := by
        rw [(hready.skips hrec).eq]
        exact hfrom.advance (Int.natCast_nonneg _)
      have hoffset' : t.accepted.offset = c.size - t.accepted.cursor.size := by
        simp only [InterfaceLoop.accepted]
        omega
      have hnonneg := hready'.nonneg
      have hle := hfrom'.size_le
      have hlt := h.valid.lt
      have hret : toInt32 t.accepted.offset = c.size - t.accepted.cursor.size := by
        rw [hoffset']
        exact toInt32_of_bounds (by omega) (by omega)
      have hcursor : c.advance (toInt32 t.accepted.offset) = t.accepted.cursor := by
        refine ((Cursor.From.refl c).advance (by omega)).eq_of_size hfrom' ?_
        simp only [Cursor.advance]
        omega
      refine ⟨?_, ?_⟩
      · change 0 ≤ toInt32 t.accepted.offset
        omega
      · change Ready (c.advance (toInt32 t.accepted.offset))
        rwa [hcursor]

/-! ## Runs -/

/-- The turn that starts here finds whole records, and behind the extra ones an interface descriptor
or the end. -/
structure Proceeds (st : ConfigLoop) : Prop where
  whole : Whole st.cursor
  ready : Ready st.skipped.cursor

theorem Ready.proceeds {st : ConfigLoop} (h : Ready st.cursor) : Proceeds st where
  whole := h.toWhole
  ready := by rwa [skipped_of_zero h.no_extras]

/-- Where no endpoint comes first, the records that are skipped lead to an interface descriptor. -/
theorem dropWhile_isExtra_eq {rs : List (List UInt8)}
    (h : ∀ r ∈ rs.takeWhile isBehind, isEndpoint r = false) :
    rs.dropWhile isExtra = rs.dropWhile isBehind := by
  induction rs with
  | nil => rfl
  | cons r rs ih =>
    by_cases htype : byteAt r 1 = usbDdkDtInterface
    · have hb : isBehind r = false := decide_eq_false (not_not_intro htype)
      have hx : isExtra r = false := by simp [isExtra, htype]
      rw [List.dropWhile_cons, List.dropWhile_cons, hb, hx, if_neg Bool.false_ne_true,
        if_neg Bool.false_ne_true]
    · have hb : isBehind r = true := decide_eq_true htype
      rw [List.takeWhile_cons, hb] at h
      obtain ⟨hr, hrs⟩ := List.forall_mem_cons.mp h
      have hx : isExtra r = true := by
        simp only [isEndpoint, decide_eq_false_iff_not] at hr
        simp [isExtra, htype, hr]
      rw [List.dropWhile_cons, List.dropWhile_cons, hb, hx]
      exact ih hrs

section
variable {origin : Cursor} {st : ConfigLoop} {i : Nat} {b : ConfigResult}

/-- Behind the header the extra records lead to the first interface descriptor. -/
theorem proceeds_entryState (ho : origin.Valid) (ha : AcceptsHeader origin)
    (hwhole : Whole origin)
    (hstrays : ∀ r ∈ (records origin.bytes).tail.takeWhile isBehind, isEndpoint r = false)
    (hfit : SettingsFit (records origin.bytes).tail)
    (hlast : LastSettled (records origin.bytes).tail) : Proceeds (entryState origin) := by
  have hskip := (skips_entryState ho ha).1
  have hentry := hwhole.skips hskip
  have hrec := hskip.records
  rw [List.singleton_append] at hrec
  rw [hrec, List.tail_cons] at hstrays hfit hlast
  have hextras := skips_extras hentry.valid.inBounds
  have hsplit : extras (entryState origin).cursor ++
      (records (entryState origin).cursor.bytes).dropWhile isExtra =
        records (entryState origin).cursor.bytes := List.takeWhile_append_dropWhile
  rw [← hsplit] at hfit hlast
  have hsame := dropWhile_isExtra_eq hstrays
  refine ⟨hentry, ?_⟩
  rw [ConfigLoop.cursor_skipped]
  refine ⟨hentry.skips hextras.1, fun r hr => ?_, ?_, ?_⟩
  · rw [hextras.2, hsame] at hr
    exact head?_dropWhile_isBehind hr
  · rw [hextras.2]
    exact hfit.of_append
  · rw [hextras.2]
    exact hlast.of_append

/-- The interface descriptor at a place of the walk is one of the numbers listed. -/
theorem Ready.listed {c : Cursor} {before : List (List UInt8)} (h : Ready c)
    (hskip : origin.Skips before c) (hne : records c.bytes ≠ []) :
    byteAt c.buffer 2 ∈ interfaceNumbers (records origin.bytes) := by
  obtain ⟨r, rs, hrec⟩ := List.exists_cons_of_ne_nil hne
  have haccepts := Ready.accepts (t := interfaceEntry {} c) h hrec
  refine mem_interfaceNumbers.mpr ⟨c.head, ?_, haccepts.1.isInterface_head⟩
  rw [hskip.records, hrec, haccepts.2]
  exact List.mem_append_right _ List.mem_cons_self

theorem Proceeds.not_stalled (h : Proceeds st) :
    ¬ Stalled (getInterfaceNumber origin).1 st := by
  intro hstall
  obtain ⟨i, hsel, hstray⟩ := hstall.known
  have hready := h.ready
  rw [skipped_of_zero hstall.extra] at hready
  have hsize := hsel.size
  have hne : records st.cursor.bytes ≠ [] := fun hnil => by
    rw [hready.nil hnil] at hsize
    exact absurd hsize (by decide)
  obtain ⟨r, rs, hrec⟩ := List.exists_cons_of_ne_nil hne
  have haccepts := (Ready.accepts (t := interfaceEntry {} st.cursor) hready hrec).1
  exact hstray.not_complete haccepts.size haccepts.type haccepts.length_le

section
variable (ho : origin.Valid) (hsmall : origin.size < usbDdkInvalidOperation)
  (hcount : ∀ x, (records origin.bytes).countP (isInterface x) ≤ usbMaxAltSetting)
  (ha : AcceptsHeader origin)
include ho hsmall hcount ha

/-- What is parsed into a selected interface moves the cursor to the next number. -/
theorem Proceeds.parsed (h : Proceeds st) (htrace : EntryTrace origin st.skipped)
    (hsel : st.skipped.Selects (getInterfaceNumber origin).1 i) :
    0 ≤ (st.skipped.parsed i).ret ∧ Ready (st.skipped.cursor.advance (st.skipped.parsed i).ret) := by
  have hx := getElem?_of_interfaceIndex hsel.index
  have hsize := hsel.size
  obtain ⟨before, hskip, -, hfilled⟩ :=
    (htrace.allFilled ho hsmall hcount ha).resolve_left (by omega)
  refine h.ready.parseInterface ?_ fun hnil => ?_
  · have hbound := hcount (byteAt st.skipped.cursor.buffer 2)
    rw [hskip.records, List.countP_append] at hbound
    exact (hfilled i _ hx).num.trans_le (Nat.le_trans (Nat.le_add_right _ _) hbound)
  · rw [h.ready.nil hnil] at hsize
    exact absurd hsize (by decide)

theorem proceeds_of_reached (hentry : Proceeds (entryState origin)) (h : ReachedFrom origin st) :
    Proceeds st := by
  have hinv := h.reaches.invariant (P := fun st => ReachedFrom origin st ∧ Proceeds st)
    (fun {t t'} ⟨hreached, hp⟩ hturn => ?_) ⟨⟨ha, .refl⟩, hentry⟩
  · exact hinv.2
  · refine ⟨⟨ha, hreached.reaches.tail hturn⟩, ?_⟩
    obtain ⟨i, hsize, hsel, -, rfl⟩ := config_turn_inl (hreached.valid ho) hturn
    have htrace := (hreached.trace ho).1.tail (.extras hsize)
    exact (Proceeds.parsed ho hsmall hcount ha hp htrace hsel).2.proceeds

/-- A turn that leaves the loop leaves it behind the last byte. -/
theorem Proceeds.exit (h : Proceeds st) (hreached : ReachedFrom origin st)
    (hnums : (getInterfaceNumber origin).1 = interfaceNumbers (records origin.bytes))
    (hroom : (interfaceNumbers (records origin.bytes)).length < usbMaxInterfaces)
    (hturn : loopBody origin st = .inr b) : b.ret = 0 := by
  rcases config_turn_inr (hreached.valid ho) hturn with ⟨hshort, rfl⟩ | ⟨hsize, hcase⟩
  · have hnonneg := h.whole.nonneg
    change st.cursor.size = 0
    by_contra hne
    have hc := h.whole.complete_iff.mpr (by omega)
    have hle := ((Cursor.complete_bytes h.whole.valid.inBounds).mp hc).1
    exact absurd hle (Int.not_le.mpr hshort)
  have htrace : EntryTrace origin st.skipped := (hreached.trace ho).1.tail (.extras hsize)
  have hend : records st.skipped.cursor.bytes = [] ∨ 9 ≤ st.skipped.cursor.size := by
    by_cases hnil : records st.skipped.cursor.bytes = []
    · exact .inl hnil
    · obtain ⟨r, rs, hrec⟩ := List.exists_cons_of_ne_nil hnil
      exact .inr (Ready.accepts (t := interfaceEntry {} st.skipped.cursor) h.ready hrec).1.size
  cases hcase with
  | finished hle =>
    rcases hend with hnil | hlong
    · exact h.ready.nil hnil
    · exact absurd hle (Int.not_le.mpr (Int.lt_of_lt_of_le (by decide) hlong))
  | overlong _ hover =>
    rw [htrace.bNumInterfaces ho, hnums] at hover
    exact absurd hroom (Nat.not_lt.mpr hover)
  | unknown hlt _ hnone =>
    obtain ⟨before, hskip, -, -⟩ :=
      (htrace.allFilled ho hsmall hcount ha).resolve_left (by omega)
    have hne : records st.skipped.cursor.bytes ≠ [] := fun hnil => by
      rw [h.ready.nil hnil] at hlt
      exact absurd hlt (by decide)
    have hlisted := h.ready.listed hskip hne
    rw [← hnums] at hlisted
    exact absurd hlisted ((htrace.interfaceIndex_none ho).mp hnone)
  | failed i hsel hneg =>
    exact absurd (Proceeds.parsed ho hsmall hcount ha h htrace hsel).1 (Int.not_le.mpr hneg)

end

end

/-! ## The language of the parser -/

/-- The parser returns zero on every vector of the grammar. -/
theorem Grammatical.returns {configBuffer : List UInt8} (h : Grammatical configBuffer)
    (hlength : configBuffer.length ≤ 65535)
    (hcount : ∀ x, (records configBuffer).countP (isInterface x) ≤ 128) :
    ∃ outcome, ParserReturns configBuffer outcome ∧ outcome.ret = 0 := by
  have ho := valid_vectorCursor configBuffer
  have hsize : (vectorCursor configBuffer).size = configBuffer.length :=
    size_vectorCursor_of_lt (by omega)
  have hbytes : (vectorCursor configBuffer).bytes = configBuffer :=
    bytes_vectorCursor_of_lt (by omega)
  have hlen := h.length
  have hle := h.length_le
  have hnums : (getInterfaceNumber (vectorCursor configBuffer)).1 =
      interfaceNumbers (records configBuffer) := by
    rw [getInterfaceNumber_eq ho.inBounds, hbytes]
    exact foldl_countRecord_of_lt _ h.room
  have ha : AcceptsHeader (vectorCursor configBuffer) := by
    refine ⟨?_, h.type, hlen, ?_, h.interfaces, hnums ▸ h.numbered⟩
    · rw [hsize]
      omega
    · rw [hsize]
      change (len configBuffer : Int) ≤ _
      omega
  have hwhole : Whole (vectorCursor configBuffer) :=
    ⟨ho, by rw [hsize]; omega, by rw [hbytes, h.whole]⟩
  have hsmall : (vectorCursor configBuffer).size < usbDdkInvalidOperation := by
    rw [hsize]
    simp only [usbDdkInvalidOperation]
    omega
  have hcount' : ∀ x, (records (vectorCursor configBuffer).bytes).countP (isInterface x) ≤
      usbMaxAltSetting := hbytes.symm ▸ hcount
  have hentry : Proceeds (entryState (vectorCursor configBuffer)) := by
    refine proceeds_entryState ho ha hwhole ?_ ?_ ?_
    · rw [hbytes]
      exact h.strays
    · rw [hbytes]
      exact h.settings
    · rw [hbytes]
      exact h.last
  obtain ⟨result, hresult⟩ := terminates_of_not_stalled ha fun st hst =>
    (proceeds_of_reached ho hsmall hcount' ha hentry hst).not_stalled
  obtain ⟨st, hreach, hexit⟩ := Loop.returns_iff.mp hresult
  have hst : Reached configBuffer st := ⟨ha, hreach⟩
  refine ⟨_, (parserReturns_of_accepts ha).mpr ⟨result, hresult, rfl⟩, ?_⟩
  rw [ret_outcomeOf]
  refine (proceeds_of_reached ho hsmall hcount' ha hentry hst).exit ho hsmall hcount' ha hst ?_ ?_ hexit
  · rw [hbytes, hnums]
  · rw [hbytes]
    exact h.room

/-- Of the vectors of at most 65535 bytes in which no number has more than 128 interface descriptors,
the parser accepts exactly those of the grammar, and it assigns the configuration that their records
stand for. -/
theorem accepts_iff_grammatical (configBuffer : List UInt8) (config : UsbDdkConfigDescriptor)
    (hlength : configBuffer.length ≤ 65535)
    (hcount : ∀ x, (records configBuffer).countP (isInterface x) ≤ 128) :
    (∃ outcome, ParserReturns configBuffer outcome ∧ outcome.ret = 0 ∧
      outcome.config = some config) ↔
    Grammatical configBuffer ∧ config = denote (records configBuffer) := by
  constructor
  · rintro ⟨outcome, hreturns, hret, hconfig⟩
    obtain ⟨hgrammar, hdenote⟩ := denotes_of_zero hlength hcount hreturns hret
    exact ⟨hgrammar, Option.some.inj (hconfig.symm.trans hdenote)⟩
  · rintro ⟨hgrammar, rfl⟩
    obtain ⟨outcome, hreturns, hret⟩ := hgrammar.returns hlength hcount
    exact ⟨outcome, hreturns, hret, (denotes_of_zero hlength hcount hreturns hret).2⟩

/-- A vector with settings of two numbers in turn, the first with an endpoint and a class-specific
descriptor behind it, the second with an endpoint that is declared and not there. -/
def alternatingVector : List UInt8 :=
  [[9, 2, 48, 0, 2, 1, 0, 128, 50], [9, 4, 0, 0, 1, 255, 0, 0, 0], [7, 5, 129, 2, 64, 0, 0],
    [5, 36, 1, 2, 3], [9, 4, 1, 0, 1, 255, 0, 0, 0], [9, 4, 0, 1, 0, 255, 0, 0, 0]].flatten

theorem records_alternatingVector : records alternatingVector =
    [[9, 2, 48, 0, 2, 1, 0, 128, 50], [9, 4, 0, 0, 1, 255, 0, 0, 0], [7, 5, 129, 2, 64, 0, 0],
      [5, 36, 1, 2, 3], [9, 4, 1, 0, 1, 255, 0, 0, 0], [9, 4, 0, 1, 0, 255, 0, 0, 0]] := by
  refine records_flatten fun r hr => ?_
  simp only [List.mem_cons, List.not_mem_nil, or_false] at hr
  rcases hr with rfl | rfl | rfl | rfl | rfl | rfl <;> exact ⟨by decide, by decide⟩

theorem alternatingVector_accepted : Grammatical alternatingVector ∧
    ∃ outcome config, ParserReturns alternatingVector outcome ∧ outcome.ret = 0 ∧
      outcome.config = some config ∧ config = denote (records alternatingVector) := by
  have hrun : (parseUsbConfigDescriptor 10 alternatingVector).map
      (fun outcome => (outcome.ret, outcome.config.isSome)) = some (0, true) := by decide +kernel
  obtain ⟨outcome, hout, hpair⟩ := Option.map_eq_some_iff.mp hrun
  obtain ⟨hret, hsome⟩ := Prod.mk.inj hpair
  obtain ⟨config, hconfig⟩ := Option.isSome_iff_exists.mp hsome
  have hcount : ∀ x, (records alternatingVector).countP (isInterface x) ≤ 128 := fun x =>
    Nat.le_trans List.countP_le_length (by rw [records_alternatingVector]; decide)
  obtain ⟨hgrammar, hdenote⟩ := (accepts_iff_grammatical alternatingVector config (by decide)
    hcount).mp ⟨outcome, ⟨10, hout⟩, hret, hconfig⟩
  exact ⟨hgrammar, outcome, config, ⟨10, hout⟩, hret, hconfig, hdenote⟩

end ExtDevMgr.Usb
