import ExtDevMgr.Pkg.Manifest

/-!
# The ids that a manifest lists

The manifest of a driver lists vendor and product ids as hexadecimal numerals between commas.
`ParseCommaStrToVectorUint16` makes an id of every token, whether it is a numeral or not, so its list
is the one of the manifest exactly when all tokens are complete numerals of 16 bits.
-/

namespace ExtDevMgr.Pkg.UsbBusExtension
open Json Text

/-! ## The manifest -/

/-- A numeral without its optional `0x`. -/
def withoutPrefix : Text → Text
  | '0' :: 'x' :: s => s
  | '0' :: 'X' :: s => s
  | s => s

def hexValue (digits : Text) : Nat :=
  (digits.filterMap hexDigit).foldl (fun value digit => 16 * value + digit) 0

instance (digits : Text) : Decidable (∀ c ∈ digits, (hexDigit c).isSome) :=
  List.decidableBAll (fun c => (hexDigit c).isSome) digits

/-- The number of a token that is a complete hexadecimal numeral not above `FFFF`. -/
def hexNumeral (token : Text) : Option UInt16 :=
  let digits := withoutPrefix (trim isSpace token)
  if digits ≠ [] ∧ (∀ c ∈ digits, (hexDigit c).isSome) ∧ hexValue digits ≤ 0xFFFF then
    some (UInt16.ofNat (hexValue digits))
  else
    none

/-- The ids that a string of the manifest lists. -/
def listedIds (str : Text) : List UInt16 := (str.splitOn ',').filterMap hexNumeral

/-- The string consists of complete numerals; `std::getline` reads no empty token at the end. -/
def AllNumerals (str : Text) : Prop := ∀ token ∈ lines ',' str, (hexNumeral token).isSome

instance (str : Text) : Decidable (AllNumerals str) :=
  inferInstanceAs (Decidable (∀ token ∈ lines ',' str, (hexNumeral token).isSome))

/-- A driver with these strings in its manifest has the ids that they list, and is matched to the USB
devices whose two ids are listed. -/
structure FollowsManifest (stale : Int) (vid pid : Text) : Prop where
  vids : parseCommaStrToVectorUint16 stale vid = listedIds vid
  pids : parseCommaStrToVectorUint16 stale pid = listedIds pid
  matches_iff : ∀ (driver : DriverInfo) (device : UsbDeviceInfo),
    lowerStr driver.bus = "usb".toList → device.busType = busTypeUsb →
    driver.driverInfoExt =
      some (parseDriverInfo stale [("pid".toList, pid), ("vid".toList, vid)]) →
    (matchDriver driver device = true ↔
      device.idVendor ∈ listedIds vid ∧ device.idProduct ∈ listedIds pid)

/-! ## One token -/

theorem withoutPrefix_eq_self {s : Text} (hx : ∀ t, s ≠ '0' :: 'x' :: t)
    (hX : ∀ t, s ≠ '0' :: 'X' :: t) : withoutPrefix s = s := by
  unfold withoutPrefix
  split
  · exact absurd rfl (hx _)
  · exact absurd rfl (hX _)
  · rfl

/-- What stands behind a numeral does not complete its prefix. -/
theorem ne_prefix_append {s back : Text} {c : Char} (hs : s ≠ []) (hc : c ∉ back)
    (h : ∀ t, s ≠ '0' :: c :: t) (t : Text) : s ++ back ≠ '0' :: c :: t := by
  intro heq
  cases s with
  | nil => exact hs rfl
  | cons a s =>
    cases s with
    | nil =>
      obtain ⟨-, rfl⟩ := List.cons_eq_cons.mp heq
      exact hc List.mem_cons_self
    | cons b s =>
      obtain ⟨rfl, hrest⟩ := List.cons_eq_cons.mp heq
      obtain ⟨rfl, -⟩ := List.cons_eq_cons.mp hrest
      exact h s rfl

theorem withoutPrefix_append {s back : Text} (hs : s ≠ []) (hback : ∀ c ∈ back, isSpace c) :
    withoutPrefix (s ++ back) = withoutPrefix s ++ back := by
  by_cases hx : ∃ t, s = '0' :: 'x' :: t
  · obtain ⟨t, rfl⟩ := hx
    rfl
  by_cases hX : ∃ t, s = '0' :: 'X' :: t
  · obtain ⟨t, rfl⟩ := hX
    rfl
  have hx := not_exists.mp hx
  have hX := not_exists.mp hX
  have hxback : 'x' ∉ back := fun hmem => absurd (hback _ hmem) (by decide)
  have hXback : 'X' ∉ back := fun hmem => absurd (hback _ hmem) (by decide)
  rw [withoutPrefix_eq_self hx hX,
    withoutPrefix_eq_self (ne_prefix_append hs hxback hx) (ne_prefix_append hs hXback hX)]

theorem hexDigit_of_isSpace {c : Char} (h : isSpace c = true) : hexDigit c = none := by
  have hall : ∀ c ∈ [' ', '\t', '\n', '\r', '\x0c', '\x0b'], hexDigit c = none := by
    simp only [List.forall_mem_cons]
    exact ⟨rfl, rfl, rfl, rfl, rfl, rfl, List.forall_mem_nil _⟩
  exact hall c (of_decide_eq_true h)

theorem takeWhile_digits {digits back : Text} (hdigits : ∀ c ∈ digits, (hexDigit c).isSome)
    (hback : ∀ c ∈ back, isSpace c) :
    (digits ++ back).takeWhile (fun c => (hexDigit c).isSome) = digits := by
  rw [List.takeWhile_append_of_pos hdigits]
  cases back with
  | nil => exact List.append_nil digits
  | cons c back =>
    have hc := hexDigit_of_isSpace (hback c List.mem_cons_self)
    rw [List.takeWhile_cons_of_neg, List.append_nil]
    rw [hc]
    exact Bool.false_ne_true

/-- A numeral starts with a digit. -/
theorem isSome_hexDigit_head {c : Char} {s : Text}
    (hdigits : ∀ d ∈ withoutPrefix (c :: s), (hexDigit d).isSome) : (hexDigit c).isSome := by
  unfold withoutPrefix at hdigits
  split at hdigits
  · rename_i heq
    rw [(List.cons_eq_cons.mp heq).1]
    decide
  · rename_i heq
    rw [(List.cons_eq_cons.mp heq).1]
    decide
  · exact hdigits c List.mem_cons_self

theorem foldl_cast (digits : List Nat) (value : Nat) :
    (digits.flatMap fun digit : Nat => [(digit : Int)]).foldl (fun value digit => 16 * value + digit)
        (value : Int) =
      digits.foldl (fun value digit => 16 * value + digit) value := by
  induction digits generalizing value with
  | nil => rfl
  | cons digit digits ih =>
    rw [List.foldl_cons, ← ih, Nat.cast_add, Nat.cast_mul]
    rfl

/-- The `int` of a stream whose next characters are no sign. -/
theorem extractHex_eq {token s : Text} {c : Char} (h : token.dropWhile isSpace = c :: s)
    (hc : (hexDigit c).isSome) (num : Int) :
    extractHex token num = max (-2 ^ 31) (min
      (hexValue ((withoutPrefix (c :: s)).takeWhile fun c => (hexDigit c).isSome) : Int)
      (2 ^ 31 - 1)) := by
  have hminus : c ≠ '-' := by
    rintro rfl
    exact absurd hc (by decide)
  have hplus : c ≠ '+' := by
    rintro rfl
    exact absurd hc (by decide)
  simp only [extractHex, h, if_neg hminus, if_neg hplus, Int.one_mul]
  exact congrArg (fun value => max (-2 ^ 31) (min value (2 ^ 31 - 1))) (foldl_cast _ 0)

/-- A complete numeral is read to its end. -/
theorem extractHex_of_hexNumeral {token : Text} {id : UInt16} (h : hexNumeral token = some id)
    (num : Int) : extractHex token num = id.toNat := by
  rw [hexNumeral] at h
  split at h
  · rename_i hnumeral
    obtain ⟨hne, hdigits, hle⟩ := hnumeral
    cases h
    have hback : (token.dropWhile isSpace).rdropWhile isSpace ++
        (token.dropWhile isSpace).rtakeWhile isSpace = token.dropWhile isSpace :=
      List.rdropWhile_append_rtakeWhile
    have hspace : ∀ c ∈ (token.dropWhile isSpace).rtakeWhile isSpace, isSpace c :=
      fun c hc => List.mem_rtakeWhile_imp hc
    generalize (token.dropWhile isSpace).rtakeWhile isSpace = back at hback hspace
    cases hbody : trim isSpace token with
    | nil =>
      rw [hbody] at hne
      exact absurd rfl hne
    | cons c s =>
      have htoken : token.dropWhile isSpace = c :: (s ++ back) := by
        rw [← hback, ← List.cons_append, ← hbody]
        rfl
      rw [hbody] at hdigits hle
      rw [extractHex_eq htoken (isSome_hexDigit_head hdigits), ← List.cons_append,
        withoutPrefix_append (List.cons_ne_nil c s) hspace, takeWhile_digits hdigits hspace]
      have hlt : hexValue (withoutPrefix (c :: s)) < 2 ^ 16 := Nat.lt_succ_of_le hle
      rw [UInt16.toNat_ofNat_of_lt' hlt]
      omega
  · cases h

theorem matchDriver_iff {driver : DriverInfo} {device : UsbDeviceInfo} {ext : UsbDriverInfo}
    (hbus : lowerStr driver.bus = "usb".toList) (hdevice : device.busType = busTypeUsb)
    (hext : driver.driverInfoExt = some ext) :
    matchDriver driver device = true ↔ device.idVendor ∈ ext.vids ∧ device.idProduct ∈ ext.pids := by
  simp [matchDriver, hbus, hdevice, hext]

/-! ## The list -/

theorem length_parseItems (items : List Text) (num : Int) :
    (parseItems items num).length = items.length := by
  induction items generalizing num with
  | nil => rfl
  | cons token items ih => rw [parseItems, List.length_cons, List.length_cons, ih]

theorem parseItems_eq_iff (items : List Text) (num : Int) :
    parseItems items num = items.filterMap hexNumeral ↔
      ∀ token ∈ items, (hexNumeral token).isSome := by
  constructor
  · intro h
    rw [← List.filterMap_length_eq_length, ← h]
    exact length_parseItems items num
  · intro h
    induction items generalizing num with
    | nil => rfl
    | cons token items ih =>
      obtain ⟨htoken, hitems⟩ := List.forall_mem_cons.mp h
      obtain ⟨id, hid⟩ := Option.isSome_iff_exists.mp htoken
      have hlt : (id.toNat : Int) < 2 ^ 16 := Int.ofNat_lt.mpr id.toNat_lt
      have hnarrow : UInt16.ofInt id.toNat = id := by
        rw [UInt16.ofInt, Int.emod_eq_of_lt (Int.natCast_nonneg _) hlt, Int.toNat_natCast,
          UInt16.ofNat_toNat]
      rw [parseItems, List.filterMap_cons_some hid, ih _ hitems, extractHex_of_hexNumeral hid,
        hnarrow]

theorem parseCommaStrToVectorUint16_eq_iff (stale : Int) (str : Text) :
    parseCommaStrToVectorUint16 stale str = listedIds str ↔ AllNumerals str := by
  rw [listedIds, ← filterMap_lines (by rfl), parseCommaStrToVectorUint16, parseItems_eq_iff]
  rfl

/-- **The ids of a manifest.** A driver has the ids that its manifest lists exactly when the manifest
has nothing but complete numerals of 16 bits in its two strings. -/
theorem followsManifest_iff (stale : Int) (vid pid : Text) :
    FollowsManifest stale vid pid ↔ AllNumerals vid ∧ AllNumerals pid := by
  rw [← parseCommaStrToVectorUint16_eq_iff stale vid, ← parseCommaStrToVectorUint16_eq_iff stale pid]
  constructor
  · intro h
    exact ⟨h.vids, h.pids⟩
  · rintro ⟨hvids, hpids⟩
    refine ⟨hvids, hpids, ?_⟩
    intro driver device hbus hdevice hext
    have hinfo : parseDriverInfo stale [("pid".toList, pid), ("vid".toList, vid)] =
        { vids := listedIds vid, pids := listedIds pid } := by
      rw [← hvids, ← hpids]
      rfl
    rw [matchDriver_iff hbus hdevice hext, hinfo]

/-- The driver that the manifest makes of the vendor id `10001`, which is no id of 16 bits. -/
def narrowedDriver : DriverInfo where
  bus := "USB".toList
  driverUid := "Driver-5".toList
  bundleName := "com.usb.mouse".toList
  driverName := "Driver".toList
  driverInfoExt := some (parseDriverInfo 0 [("pid".toList, "1".toList), ("vid".toList, "10001".toList)])

/-- It is matched to a device of the vendor `0001`, which it does not list. -/
theorem not_forall_followsManifest : ¬ ∀ stale vid pid, FollowsManifest stale vid pid := by
  intro h
  have hmatch := (h 0 "10001".toList "1".toList).matches_iff narrowedDriver
    { busType := busTypeUsb, idVendor := 1, idProduct := 1 } rfl rfl rfl
  have haccepts : matchDriver narrowedDriver
      { busType := busTypeUsb, idVendor := 1, idProduct := 1 } = true := by decide +kernel
  have hlisted : (1 : UInt16) ∉ listedIds "10001".toList := by decide +kernel
  exact hlisted (hmatch.mp haccepts).1

end ExtDevMgr.Pkg.UsbBusExtension
