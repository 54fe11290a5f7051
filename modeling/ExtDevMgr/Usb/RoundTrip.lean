import ExtDevMgr.Usb.Decode
import ExtDevMgr.Usb.Entry

/-!
# Parsing undoes encoding

The counting pass lists the interfaces of an encoded tree in order with the number of their settings
(`getInterfaceNumber_encode`), so every interface is parsed into an array of its size
(`AtInterfaces`). The tree comes back unless it has 32 interfaces, which the loop of
`ParseConfigurationDes` rejects, or its header is longer than the total length modulo 256, which
`ParseConfiguration` compares it with (`roundTrips_iff`).
-/

namespace ExtDevMgr.Usb
open Records

/-! ## The counting pass -/

theorem EndpointTree.not_interface {e : EndpointTree} {r : List UInt8} (h : r ∈ e.records) :
    byteAt r 1 ≠ usbDdkDtInterface := by
  rcases List.mem_cons.mp h with rfl | h
  · exact (by decide : usbDdkDtEndpoint ≠ usbDdkDtInterface)
  · exact not_interface_of_isExtra (isExtra_of_mem_map h)

section
variable {number : UInt8} {nums counts : List UInt8}

theorem SettingTree.foldl_records (s : SettingTree) (nums : List UInt8 × List UInt8) :
    (s.records number).foldl countRecord nums =
      getInterfaceNumberDes (s.header number) nums := by
  rw [records, List.foldl_cons, foldl_countRecord_of_ne]
  · exact if_pos rfl
  · intro r hr
    rcases List.mem_append.mp hr with hr | hr
    · exact not_interface_of_isExtra (isExtra_of_mem_map hr)
    · obtain ⟨e, -, he⟩ := List.mem_flatMap.mp hr
      exact e.not_interface he

theorem SettingTree.toNat_header (s : SettingTree) (number : UInt8) :
    ((byteAt (s.header number) 0).toNat : Int) = 9 + s.tail.length := by
  have hlen := s.toNat_bLength number []
  rw [List.append_nil, s.length_header] at hlen
  exact (congrArg (fun n : Nat => (n : Int)) hlen).trans (Int.natCast_add 9 _)

theorem findIdx?_not_mem {x : UInt8} (h : x ∉ nums) : nums.findIdx? (· = x) = none := by
  rw [List.findIdx?_eq_none_iff]
  intro y hy
  exact decide_eq_false fun hyx => h (hyx ▸ hy)

theorem findIdx?_append_cons {x : UInt8} (h : x ∉ nums) (ys : List UInt8) :
    (nums ++ x :: ys).findIdx? (· = x) = some nums.length := by
  rw [List.findIdx?_append, findIdx?_not_mem h, List.findIdx?_cons]
  simp

theorem modify_concat (f : UInt8 → UInt8) (xs : List UInt8) (y : UInt8) :
    (xs ++ [y]).modify xs.length f = xs ++ [f y] := by
  induction xs with
  | nil => rfl
  | cons x xs ih => rw [List.cons_append, List.length_cons, List.modify_succ_cons, ih,
      List.cons_append]

/-- The first setting of an interface lists its number. -/
theorem SettingTree.count_first (s : SettingTree) (hx : number ∉ nums) (hlt : nums.length < 32) :
    getInterfaceNumberDes (s.header number) (nums, counts) =
      (nums ++ [number], counts ++ [1]) := by
  have hlen := s.toNat_header number
  have hbyte : byteAt (s.header number) 2 = number := rfl
  rw [getInterfaceNumberDes]
  simp only [hbyte, findIdx?_not_mem hx, usbDdkDtInterfaceSize, usbMaxInterfaces]
  rw [if_neg (by omega), if_pos hlt]

/-- A later setting is counted. -/
theorem SettingTree.count_again (s : SettingTree) (hx : number ∉ nums)
    (hcounts : counts.length = nums.length) {k : Nat} (hk : k < 128) :
    getInterfaceNumberDes (s.header number) (nums ++ [number], counts ++ [UInt8.ofNat k]) =
      (nums ++ [number], counts ++ [UInt8.ofNat (k + 1)]) := by
  have hlen := s.toNat_header number
  have hbyte : byteAt (s.header number) 2 = number := rfl
  have hget : ((counts ++ [UInt8.ofNat k]).getD nums.length 0).toNat = k := by
    rw [← hcounts, List.getD_append_right _ _ _ _ (Nat.le_refl _), Nat.sub_self]
    exact Nat.mod_eq_of_lt (by omega)
  have hmodify : (counts ++ [UInt8.ofNat k]).modify nums.length (· + 1) =
      counts ++ [UInt8.ofNat (k + 1)] := by
    rw [← hcounts, modify_concat, UInt8.ofNat_add]
    rfl
  rw [getInterfaceNumberDes]
  simp only [hbyte, findIdx?_append_cons hx, hget, usbDdkDtInterfaceSize, usbMaxAltSetting]
  rw [if_neg (by omega), if_pos hk, hmodify]

theorem foldl_settings (ss : List SettingTree) (hx : number ∉ nums)
    (hcounts : counts.length = nums.length) {k : Nat} (hk : k + ss.length ≤ 128) :
    (ss.flatMap (·.records number)).foldl countRecord
        (nums ++ [number], counts ++ [UInt8.ofNat k]) =
      (nums ++ [number], counts ++ [UInt8.ofNat (k + ss.length)]) := by
  induction ss generalizing k with
  | nil => rfl
  | cons s ss ih =>
    rw [List.length_cons] at hk ⊢
    rw [List.flatMap_cons, List.foldl_append, s.foldl_records,
      s.count_again hx hcounts (by omega), ih (by omega), Nat.add_right_comm, Nat.add_assoc]

theorem InterfaceTree.foldl_records (i : InterfaceTree) (hx : i.bInterfaceNumber ∉ nums)
    (hcounts : counts.length = nums.length) (hlt : nums.length < 32) :
    i.records.foldl countRecord (nums, counts) =
      (nums ++ [i.bInterfaceNumber], counts ++ [UInt8.ofNat i.settings.length]) := by
  have hpos := i.settings_pos
  have hle := i.settings_le
  rw [records]
  cases hs : i.settings with
  | nil =>
    rw [hs] at hpos
    exact absurd hpos (Nat.not_succ_le_zero 0)
  | cons s ss =>
    rw [hs, List.length_cons] at hle
    have hfold := foldl_settings ss hx hcounts (k := 1) (by omega)
    rw [List.flatMap_cons, List.foldl_append, s.foldl_records, s.count_first hx hlt,
      List.length_cons, Nat.add_comm]
    exact hfold

end

theorem foldl_interfaces (is : List InterfaceTree) {done : List InterfaceTree}
    (hnodup : ((done ++ is).map (·.bInterfaceNumber)).Nodup) (hle : (done ++ is).length ≤ 32) :
    (is.flatMap (·.records)).foldl countRecord
        (done.map (·.bInterfaceNumber), done.map (UInt8.ofNat ·.settings.length)) =
      ((done ++ is).map (·.bInterfaceNumber),
        (done ++ is).map (UInt8.ofNat ·.settings.length)) := by
  induction is generalizing done with
  | nil => rw [List.append_nil, List.flatMap_nil, List.foldl_nil]
  | cons i is ih =>
    have happend : done ++ i :: is = (done ++ [i]) ++ is := by
      rw [List.append_assoc, List.singleton_append]
    have hx : i.bInterfaceNumber ∉ done.map (·.bInterfaceNumber) := by
      rw [List.map_append, List.nodup_append] at hnodup
      exact fun hmem => hnodup.2.2 _ hmem _ List.mem_cons_self rfl
    rw [List.flatMap_cons, List.foldl_append,
      i.foldl_records hx (by rw [List.length_map, List.length_map])
        (by rw [List.length_append, List.length_cons] at hle; rw [List.length_map]; omega)]
    rw [happend] at hnodup hle ⊢
    have hfold := ih hnodup hle
    rwa [List.map_append, List.map_append] at hfold

section
variable (t : ConfigTree)

theorem ConfigTree.encode_eq : t.encode = t.header ++ ((t.extras.map (·.encode)).flatten ++
    (t.interfaces.flatMap (·.records)).flatten) := by
  rw [encode, records, List.flatten_cons, List.flatten_append]

theorem records_encode : records t.encode = t.records :=
  records_flatten fun _ hr => t.isRecord_of_mem hr

theorem getInterfaceNumber_encode : getInterfaceNumber (atBytes t.encode) =
    (t.interfaces.map (·.bInterfaceNumber), t.interfaces.map (UInt8.ofNat ·.settings.length)) := by
  have hheader : countRecord ([], []) t.header = ([], []) :=
    if_neg (by exact (by decide : usbDdkDtConfig ≠ usbDdkDtInterface))
  have hextras : (t.extras.map (·.encode)).foldl countRecord ([], []) = ([], []) :=
    foldl_countRecord_of_ne _ fun r hr => not_interface_of_isExtra (isExtra_of_mem_map hr)
  rw [getInterfaceNumber_eq (inBounds_atBytes _), bytes_atBytes, records_encode,
    ConfigTree.records, List.foldl_cons, List.foldl_append, hheader, hextras]
  exact @foldl_interfaces t.interfaces [] t.distinct t.interfaces_le

end

/-! ## The parsing pass -/

/-- The zeroed interface that the settings of `i` are parsed into. -/
def InterfaceTree.zeroed (i : InterfaceTree) : UsbDdkInterface :=
  { altsetting := some (List.replicate i.settings.length {}) }

/-- The loop of `ParseConfigurationDes` has parsed `done` and stands at the interfaces `is`. -/
structure AtInterfaces (done is : List InterfaceTree) (st : ConfigLoop) : Prop where
  valid : st.Valid
  cursor : st.cursor = atBytes (is.flatMap (·.records)).flatten
  count : st.config.configDescriptor.bNumInterfaces = UInt8.ofNat (done ++ is).length
  room : (done ++ is).length < 32
  distinct : ((done ++ is).map (·.bInterfaceNumber)).Nodup
  interface : st.config.interface = some (done.map (·.toDdk) ++ is.map (·.zeroed))

/-- The bytes of an interface start with the header of one of its settings. -/
theorem InterfaceTree.flatten_records (i : InterfaceTree) (bs : List UInt8) :
    ∃ (s : SettingTree) (bs' : List UInt8),
      i.records.flatten ++ bs = s.header i.bInterfaceNumber ++ bs' := by
  have hpos := i.settings_pos
  rw [records]
  cases hs : i.settings with
  | nil =>
    rw [hs] at hpos
    exact absurd hpos (Nat.not_succ_le_zero 0)
  | cons s ss =>
    rw [AtSettings.bytes_cons, s.flatten_records]
    exact ⟨s, _, rfl⟩

theorem noExtra_interfaces (is : List InterfaceTree) :
    NoExtra (is.flatMap (·.records)).flatten := by
  cases is with
  | nil => exact noExtra_nil
  | cons i is =>
    obtain ⟨s, bs, hbs⟩ := i.flatten_records (is.flatMap (·.records)).flatten
    rw [List.flatMap_cons, List.flatten_append, hbs]
    exact noExtra_append (s.isRecord_header _) rfl _

theorem ends_interfaces {i : InterfaceTree} {is : List InterfaceTree}
    (h : i.bInterfaceNumber ∉ is.map (·.bInterfaceNumber)) :
    Ends i.bInterfaceNumber (is.flatMap (·.records)).flatten where
  noExtra := noExtra_interfaces is
  next := by
    cases is with
    | nil => exact fun hnext => absurd hnext.1 (by decide)
    | cons j is =>
      obtain ⟨s, bs, hbs⟩ := j.flatten_records (is.flatMap (·.records)).flatten
      rw [List.flatMap_cons, List.flatten_append, hbs]
      rintro ⟨-, -, hnum⟩
      rw [List.map_cons, List.mem_cons, not_or] at h
      exact h.1 hnum.symm

section
variable {done is : List InterfaceTree} {i : InterfaceTree} {st : ConfigLoop}

theorem AtInterfaces.skipped (h : AtInterfaces done is st) : st.skipped = st := by
  have hnext := findNextDescriptor_atBytes [] (noExtra_interfaces is)
  rw [List.map_nil, List.flatten_nil, List.nil_append] at hnext
  rw [ConfigLoop.skipped, if_pos (h.cursor ▸ hnext)]

/-- A turn of `ParseConfigurationDes` parses one interface. -/
theorem AtInterfaces.turn (h : AtInterfaces done (i :: is) st) :
    st.Selects ((done ++ i :: is).map (·.bInterfaceNumber)) done.length ∧
      0 ≤ (st.parsed done.length).ret ∧
      AtInterfaces (done ++ [i]) is (st.moved done.length) := by
  have happend : done ++ i :: is = (done ++ [i]) ++ is := by
    rw [List.append_assoc, List.singleton_append]
  have hdistinct := h.distinct
  rw [List.map_append, List.map_cons, List.nodup_append, List.nodup_cons] at hdistinct
  obtain ⟨-, ⟨hlater, -⟩, hbefore⟩ := hdistinct
  have hx : i.bInterfaceNumber ∉ done.map (·.bInterfaceNumber) :=
    fun hmem => hbefore _ hmem _ List.mem_cons_self rfl
  have hcursor := h.cursor
  rw [List.flatMap_cons, List.flatten_append] at hcursor
  obtain ⟨s, bs, hbs⟩ := i.flatten_records (is.flatMap (·.records)).flatten
  have hnum : byteAt st.cursor.buffer 2 = i.bInterfaceNumber := by
    rw [hcursor, hbs]
    rfl
  have hlt : (i.records.flatten ++ (is.flatMap (·.records)).flatten).length < 2 ^ 31 := by
    have hsize := h.valid.cursor.lt
    rw [hcursor] at hsize
    change ((_ : Nat) : Int) < 2 ^ 31 at hsize
    omega
  have hroom : st.config.configDescriptor.bNumInterfaces.toNat = (done ++ i :: is).length := by
    rw [h.count]
    exact Nat.mod_eq_of_lt (Nat.lt_trans h.room (by decide))
  have hslot : (st.config.interface.getD []).getD done.length {} = i.zeroed := by
    rw [h.interface, Option.getD_some, List.map_cons]
    have hget := List.getD_append_right (done.map (·.toDdk)) (i.zeroed :: is.map (·.zeroed))
      ({} : UsbDdkInterface) done.length (Nat.le_of_eq (List.length_map _))
    rw [hget, List.length_map, Nat.sub_self]
    rfl
  obtain ⟨hret, hu⟩ := parseInterface_encode i (ends_interfaces hlater) hlt
  have hparsed : st.parsed done.length = parseInterface i.zeroed
      (atBytes (i.records.flatten ++ (is.flatMap (·.records)).flatten)) := by
    rw [ConfigLoop.parsed, hslot, hcursor]
  have hnonneg : 0 ≤ (st.parsed done.length).ret := by
    rw [hparsed]
    exact Int.le_trans (Int.natCast_nonneg _) (Int.le_of_eq hret.symm)
  refine ⟨⟨?_, ?_, ?_⟩, hnonneg, h.valid.moved hnonneg, ?_, ?_, ?_, ?_, ?_⟩
  · have hlen := s.length_header i.bInterfaceNumber
    rw [hcursor, hbs]
    simp only [atBytes, List.length_append]
    omega
  · rw [hroom]
    exact h.room
  · rw [interfaceIndex, hroom, List.take_of_length_le (Nat.le_of_eq (List.length_map _)), hnum,
      List.map_append, List.map_cons, findIdx?_append_cons hx, List.length_map]
  · change st.cursor.advance (st.parsed done.length).ret = _
    rw [hparsed, hcursor]
    exact advance_atBytes hret
  · exact happend ▸ h.count
  · exact happend ▸ h.room
  · exact happend ▸ h.distinct
  · have hinterface : (st.moved done.length).config.interface =
        st.config.interface.map (·.set done.length (st.parsed done.length).usbInterface) := rfl
    have hset := List.set_append_right (s := done.map (·.toDdk)) (t := i.zeroed :: is.map (·.zeroed))
      done.length i.toDdk (Nat.le_of_eq (List.length_map _))
    rw [List.length_map, Nat.sub_self, List.set_cons_zero] at hset
    rw [hinterface, h.interface, Option.map_some, hparsed, List.map_cons]
    refine congrArg some ((congrArg (List.set _ done.length) hu).trans (hset.trans ?_))
    rw [List.map_append, List.map_singleton, List.append_assoc, List.singleton_append]

/-- The loop of `ParseConfigurationDes` over the remaining interfaces. -/
theorem AtInterfaces.returns (h : AtInterfaces done is st) :
    ∃ b, Loop.Returns (parseConfigurationDesBody ((done ++ is).map (·.bInterfaceNumber))) st b ∧
      b.ret = 0 ∧
      b.config = { st.config with interface := some ((done ++ is).map (·.toDdk)) } := by
  induction is generalizing done st with
  | nil =>
    have hzero : st.cursor.size = 0 := by
      rw [h.cursor]
      rfl
    have hbody : parseConfigurationDesBody ((done ++ ([] : List InterfaceTree)).map
        (·.bInterfaceNumber)) st = .inr (st.leave st.cursor.size) := by
      rw [parseConfigurationDesBody, if_pos (by rw [hzero]; decide)]
    refine ⟨_, Loop.returns_of_inr hbody, hzero, ?_⟩
    have hinterface := h.interface
    rw [List.map_nil, List.append_nil] at hinterface
    change st.config = _
    rw [List.append_nil, ← hinterface]
  | cons i is ih =>
    obtain ⟨hsel, hret, hafter⟩ := h.turn
    have happend : done ++ i :: is = (done ++ [i]) ++ is := by
      rw [List.append_assoc, List.singleton_append]
    obtain ⟨b, hb, hzero, hconfig⟩ := ih hafter
    rw [← happend] at hb hconfig
    have hbody : parseConfigurationDesBody ((done ++ i :: is).map (·.bInterfaceNumber)) st =
        .inl (st.moved done.length) := by
      rw [parseConfigurationDesBody_skipped _ h.valid (Int.le_of_lt hsel.size), h.skipped]
      exact hsel.next hret
    exact ⟨b, hb.cons hbody, hzero, hconfig⟩

end

/-! ## The entry -/

section
variable (t : ConfigTree)

theorem ConfigTree.toNat_bLength :
    (byteAt (atBytes t.encode).buffer 0).toNat = 9 + t.tail.length := by
  rw [t.encode_eq]
  refine (@len_record (usbDdkDtConfig :: _) ?_).trans ?_
  · have := t.length_le
    simp only [List.length_cons]
    omega
  · simp only [List.length_cons]
    omega

theorem ConfigTree.toNat_bNumInterfaces :
    (UInt8.ofNat t.interfaces.length).toNat = t.interfaces.length :=
  Nat.mod_eq_of_lt (Nat.lt_of_le_of_lt t.interfaces_le (by decide))

theorem ConfigTree.load_encode : UsbConfigDescriptor.load t.encode {} = t.toDdk.configDescriptor := by
  rw [t.encode_eq, UsbConfigDescriptor.load, toDdk]
  congr 1
  · simp only [header, record, byteAt, List.cons_append, List.getD_cons_zero, List.length_cons]
    congr 1
    omega
  · exact le16ToHost_hostToLe16 t.wTotalLength

theorem acceptsHeader_encode : AcceptsHeader (atBytes t.encode) ↔
    9 + t.tail.length ≤ t.encode.length % 256 := by
  have hlen := t.toNat_bLength
  have h9 := t.length_header
  constructor
  · intro ha
    have hle := ha.length_le
    rw [hlen] at hle
    change ((9 + t.tail.length : Nat) : Int) ≤ (t.encode.length : Int) % 256 at hle
    omega
  · intro hle
    refine ⟨?_, ?_, ?_, ?_, ?_, ?_⟩
    · have hsize := congrArg List.length t.encode_eq
      rw [List.length_append] at hsize
      change (9 : Int) ≤ (t.encode.length : Int)
      omega
    · rw [t.encode_eq]
      rfl
    · rw [hlen]
      omega
    · rw [hlen]
      change ((9 + t.tail.length : Nat) : Int) ≤ (t.encode.length : Int) % 256
      omega
    · have hbyte : byteAt (atBytes t.encode).buffer 4 = UInt8.ofNat t.interfaces.length := by
        rw [t.encode_eq]
        rfl
      rw [hbyte, t.toNat_bNumInterfaces]
      exact t.interfaces_le
    · rw [getInterfaceNumber_encode]
      intro hnil
      have hpos := t.interfaces_pos
      rw [List.map_eq_nil_iff] at hnil
      rw [hnil] at hpos
      exact absurd hpos (Nat.not_succ_le_zero 0)

theorem allocateInterfaces_encode :
    allocateInterfaces (t.interfaces.map (UInt8.ofNat ·.settings.length)) =
      t.interfaces.map (·.zeroed) := by
  rw [allocateInterfaces, List.map_map]
  refine List.map_congr_left fun i _ => ?_
  have hle := i.settings_le
  have hmod : (UInt8.ofNat i.settings.length).toNat = i.settings.length :=
    Nat.mod_eq_of_lt (by omega)
  simp only [Function.comp, InterfaceTree.zeroed, hmod, usbMaxAltSetting]
  rw [Nat.min_eq_left hle]

/-- The state behind the header and its extra descriptors. -/
def ConfigTree.start : ConfigLoop where
  config := { t.toDdk with interface := some (t.interfaces.map (·.zeroed)) }
  cursor := atBytes (t.interfaces.flatMap (·.records)).flatten
  events := []

theorem cursor_entryState : (entryState (atBytes t.encode)).cursor =
    atBytes ((t.extras.map (·.encode)).flatten ++
      (t.interfaces.flatMap (·.records)).flatten) := by
  have hlen := t.toNat_bLength
  have h9 := t.length_header
  simp only [entryState]
  rw [hlen, t.encode_eq]
  exact advance_atBytes (by omega)

theorem skipped_entryState : (entryState (atBytes t.encode)).skipped = t.start := by
  have hnext := noExtra_interfaces t.interfaces
  have hconfig : (entryState (atBytes t.encode)).config = {
      t.toDdk with
      interface := some (t.interfaces.map (·.zeroed))
      extra := none
      extraLength := 0 } := by
    simp only [entryState, getInterfaceNumber_encode, allocateInterfaces_encode]
    congr 1
    simp only [show (atBytes t.encode).buffer = t.encode from rfl, t.load_encode, List.length_map]
    rfl
  have hentry : entryState (atBytes t.encode) = {
      config := (entryState (atBytes t.encode)).config
      cursor := (entryState (atBytes t.encode)).cursor
      events := [] } := rfl
  rw [cursor_entryState, hconfig] at hentry
  rw [hentry, ConfigLoop.skipped]
  simp only [findNextDescriptor_atBytes _ hnext, extras_atBytes _ hnext, advance_atBytes]
  by_cases hnil : (t.extras.map (·.encode)).flatten = []
  · rw [if_pos (by rw [hnil]; rfl), hnil]
    simp only [ConfigTree.start, ConfigTree.toDdk, extraBlock, hnil, if_true, List.nil_append,
      List.length_nil]
  · have hne : ¬ ((t.extras.map (·.encode)).flatten.length : Int) = 0 :=
      fun hzero => hnil (List.length_eq_zero_iff.mp (Int.ofNat_eq_zero.mp hzero))
    rw [if_neg hne]
    simp only [ConfigTree.start, ConfigTree.toDdk, extraBlock, if_neg hnil, Option.getD_none,
      List.nil_append, Nat.zero_add]

theorem ConfigTree.length_interfaces :
    9 ≤ (t.interfaces.flatMap (·.records)).flatten.length := by
  have hpos := t.interfaces_pos
  cases his : t.interfaces with
  | nil =>
    rw [his] at hpos
    exact absurd hpos (Nat.not_succ_le_zero 0)
  | cons i is =>
    obtain ⟨s, bs, hbs⟩ := i.flatten_records (is.flatMap (·.records)).flatten
    rw [List.flatMap_cons, List.flatten_append, hbs, List.length_append, s.length_header]
    omega

end

/-! ## The round trip -/

/-- The parser returns zero and yields the tree. -/
def RoundTrips (t : WellFormedConfig) : Prop :=
  ∃ outcome, ParserReturns t.encode outcome ∧ outcome.ret = 0 ∧ outcome.config = some t.toDdk

section
variable (t : WellFormedConfig)

theorem vectorCursor_encode : vectorCursor t.encode = atBytes t.encode := by
  have hle := t.total_le
  rw [vectorCursor, toInt32_of_bounds (by omega) (by omega)]
  rfl

theorem WellFormedConfig.valid : (atBytes t.encode).Valid := by
  have hle := t.total_le
  exact valid_atBytes (by omega)

/-- The first turn of `ParseConfigurationDes` reaches the interfaces. -/
theorem loopBody_entryState : loopBody (atBytes t.encode) (entryState (atBytes t.encode)) =
    parseConfigurationInterface (t.interfaces.map (·.bInterfaceNumber)) t.start := by
  have h9 := t.length_interfaces
  have hsize : 2 ≤ (entryState (atBytes t.encode)).cursor.size := by
    rw [cursor_entryState]
    simp only [atBytes, List.length_append]
    omega
  rw [loopBody, getInterfaceNumber_encode,
    parseConfigurationDesBody_skipped _ (AcceptsHeader.valid t.valid) hsize, skipped_entryState]

theorem atInterfaces_start (hle : t.interfaces.length ≤ 31) :
    AtInterfaces [] t.interfaces t.start where
  valid := by
    have hvalid := AcceptsHeader.valid t.valid
    rw [← skipped_entryState]
    refine hvalid.skipped ?_
    rw [cursor_entryState]
    exact Int.natCast_nonneg _
  cursor := rfl
  count := rfl
  room := Nat.lt_succ_of_le hle
  distinct := t.distinct
  interface := rfl

theorem returns_of_le (hle : t.interfaces.length ≤ 31) :
    ∃ b, Loop.Returns (loopBody (atBytes t.encode)) (entryState (atBytes t.encode)) b ∧
      b.ret = 0 ∧ b.config = t.toDdk := by
  have hstart := atInterfaces_start t hle
  obtain ⟨b, hb, hret, hconfig⟩ := hstart.returns
  have h9 := t.length_interfaces
  have hsize : 2 ≤ t.start.cursor.size := by
    rw [ConfigTree.start]
    simp only [atBytes]
    omega
  refine ⟨b, .of_eq (t := t.start) ?_ ?_, hret, hconfig⟩
  · rw [loopBody_entryState, loopBody, getInterfaceNumber_encode,
      parseConfigurationDesBody_skipped _ hstart.valid hsize, hstart.skipped]
  · rw [loopBody, getInterfaceNumber_encode]
    exact hb

/-- With 32 interfaces the first turn leaves with an error code. -/
theorem returns_of_gt (hgt : 31 < t.interfaces.length) :
    ∃ b, Loop.Returns (loopBody (atBytes t.encode)) (entryState (atBytes t.encode)) b ∧
      b.ret = usbDdkInvalidParameter := by
  have h9 := t.length_interfaces
  have hsize : ¬ t.start.cursor.size ≤ descHeaderLength := by
    rw [ConfigTree.start]
    simp only [atBytes, descHeaderLength]
    omega
  have hroom : t.start.config.configDescriptor.bNumInterfaces.toNat ≥ usbMaxInterfaces := by
    have hnum := t.toNat_bNumInterfaces
    change (UInt8.ofNat t.interfaces.length).toNat ≥ usbMaxInterfaces
    rw [hnum]
    exact hgt
  refine ⟨t.start.leave usbDdkInvalidParameter, Loop.returns_of_inr ?_, rfl⟩
  rw [loopBody_entryState, parseConfigurationInterface, if_neg hsize, if_pos hroom]

theorem not_roundTrips_of_long (h : t.encode.length % 256 < 9 + t.tail.length) :
    ¬ RoundTrips t := by
  rintro ⟨outcome, hout, hret, -⟩
  have ha := accepts_of_zero hout hret
  rw [vectorCursor_encode, acceptsHeader_encode] at ha
  exact absurd ha (Nat.not_le.mpr h)

theorem not_roundTrips_of_many (h : 31 < t.interfaces.length) : ¬ RoundTrips t := by
  rintro ⟨outcome, hout, hret, -⟩
  obtain ⟨result, hresult, rfl⟩ := (parserReturns_of_accepts (accepts_of_zero hout hret)).mp hout
  obtain ⟨b, hb, hcode⟩ := returns_of_gt t h
  rw [← vectorCursor_encode] at hb
  rw [hresult.unique hb, ret_outcomeOf, hcode] at hret
  exact absurd hret (by decide)

/-- Parsing undoes encoding exactly for the trees with at most 31 interfaces whose header is not
longer than the total length modulo 256. -/
theorem roundTrips_iff : RoundTrips t ↔
    t.interfaces.length ≤ 31 ∧ 9 + t.tail.length ≤ t.encode.length % 256 := by
  constructor
  · intro h
    constructor
    · exact Nat.not_lt.mp fun hgt => not_roundTrips_of_many t hgt h
    · exact Nat.not_lt.mp fun hlt => not_roundTrips_of_long t hlt h
  · rintro ⟨hle, hlen⟩
    obtain ⟨b, hb, hret, hconfig⟩ := returns_of_le t hle
    have ha : AcceptsHeader (vectorCursor t.encode) := by
      rw [vectorCursor_encode]
      exact (acceptsHeader_encode _).mpr hlen
    rw [← vectorCursor_encode] at hb
    refine ⟨_, (parserReturns_of_accepts ha).mpr ⟨b, hb, rfl⟩, ?_, ?_⟩
    · rw [ret_outcomeOf, hret]
    · rw [outcomeOf, if_neg (by rw [hret]; decide), hconfig]

end

/-- An interface with one setting and no endpoints. -/
def plainInterface (number : UInt8) : InterfaceTree where
  bInterfaceNumber := number
  settings := [{
    bAlternateSetting := 0, bInterfaceClass := 255, bInterfaceSubClass := 0
    bInterfaceProtocol := 0, iInterface := 0, tail := [], extras := [], endpoints := []
    length_le := by decide, endpoints_le := by decide }]
  settings_pos := by decide
  settings_le := by decide

/-- 32 interfaces, 297 bytes. -/
def maximalTree : WellFormedConfig where
  wTotalLength := 297
  bConfigurationValue := 1
  iConfiguration := 0
  bmAttributes := 128
  bMaxPower := 50
  tail := []
  extras := []
  interfaces := (List.range 32).map fun i => plainInterface (UInt8.ofNat i)
  length_le := by decide
  interfaces_pos := by decide
  interfaces_le := by decide
  distinct := by decide
  total_le := by decide +kernel

/-- One interface behind a class-specific descriptor of 238 bytes, 256 bytes. -/
def alignedTree : WellFormedConfig where
  wTotalLength := 256
  bConfigurationValue := 1
  iConfiguration := 0
  bmAttributes := 128
  bMaxPower := 50
  tail := []
  extras := [{
    bDescriptorType := 36, payload := List.replicate 236 0
    not_interface := by decide, not_endpoint := by decide, length_le := by rw [List.length_replicate]; decide }]
  interfaces := [plainInterface 0]
  length_le := by decide
  interfaces_pos := by decide
  interfaces_le := by decide
  distinct := by decide
  total_le := by decide +kernel

theorem not_forall_roundTrips : ¬ RoundTrips maximalTree ∧ ¬ RoundTrips alignedTree ∧
    ¬ ∀ t, RoundTrips t := by
  have hmany := not_roundTrips_of_many maximalTree (by simp [maximalTree])
  have hlong := not_roundTrips_of_long alignedTree (by decide +kernel)
  exact ⟨hmany, hlong, fun hall => hmany (hall maximalTree)⟩

end ExtDevMgr.Usb
