import ExtDevMgr.Usb.Agreement

/-!
# The grammar of configuration descriptors

`Grammatical` says of a vector, without reference to the parser, that it is a sequence of whole
records: the header, extra descriptors, and interface descriptors with what belongs to them. An
interface descriptor may declare more endpoints than follow it, except for the last one. `denote`
is the configuration that the records stand for, read off the list in one pass over it.
-/

namespace ExtDevMgr.Usb
open Records

/-! ## Endpoints -/

/-- The endpoint descriptor `r` with the extra records `rs` behind it. -/
def endpointOf (r : List UInt8) (rs : List (List UInt8)) : UsbDdkEndpointDescriptor where
  endpointDescriptor := .load r {}
  extra := extraBlock rs
  extraLength := rs.flatten.length

/-- The endpoint descriptors, each with the extra records up to the next record of another kind. -/
def endpointsOf : List (List UInt8) → List UsbDdkEndpointDescriptor
  | [] => []
  | r :: rs => if isEndpoint r then endpointOf r (rs.takeWhile isExtra) :: endpointsOf rs
      else endpointsOf rs

/-- Endpoints that have not been read. -/
def zeroedEndpoints (n : Nat) : List UsbDdkEndpointDescriptor := List.replicate n {}

/-- The endpoint array of an interface descriptor that declares `declared` endpoints: the elements
behind the endpoints found stay zeroed. -/
def endpointArray (declared : Nat) (rs : List (List UInt8)) :
    Option (List UsbDdkEndpointDescriptor) :=
  if declared = 0 then none
  else some (endpointsOf rs ++ zeroedEndpoints (declared - rs.countP isEndpoint))

theorem length_endpointsOf (rs : List (List UInt8)) :
    (endpointsOf rs).length = rs.countP isEndpoint := by
  induction rs with
  | nil => rfl
  | cons r rs ih =>
    rw [endpointsOf, List.countP_cons, ← ih]
    split
    · rfl
    · rfl

theorem takeWhile_append_of_not {α : Type} {p : α → Bool} {r : α} (hr : p r = false)
    (bs rs : List α) : (bs ++ r :: rs).takeWhile p = bs.takeWhile p := by
  induction bs with
  | nil => rw [List.nil_append, List.takeWhile_cons, hr]; rfl
  | cons b bs ih => rw [List.cons_append, List.takeWhile_cons, List.takeWhile_cons, ih]

/-- An endpoint descriptor and the extra records behind it, with further records behind these. -/
theorem endpointsOf_segment {r : List UInt8} (hr : isEndpoint r = true)
    {xs rs : List (List UInt8)} (hxs : ∀ x ∈ xs, isExtra x = true)
    (hrs : rs.takeWhile isExtra = []) :
    endpointsOf (r :: (xs ++ rs)) = endpointOf r xs :: endpointsOf rs := by
  rw [endpointsOf, if_pos hr, List.takeWhile_append_of_pos hxs, hrs, List.append_nil]
  congr 1
  induction xs with
  | nil => rfl
  | cons x xs ih =>
    obtain ⟨hx, hxs⟩ := List.forall_mem_cons.mp hxs
    rw [List.cons_append, endpointsOf, not_endpoint_of_isExtra hx, if_neg Bool.false_ne_true,
      ih hxs]

/-! ## Settings -/

/-- The interface descriptor `r` with the records `rs` behind it. -/
def settingOf (r : List UInt8) (rs : List (List UInt8)) : UsbDdkInterfaceDescriptor where
  interfaceDescriptor := lowered r rs
  endPoint := endpointArray (byteAt r 4).toNat rs
  extra := extraBlock (rs.takeWhile isExtra)
  extraLength := (rs.takeWhile isExtra).flatten.length

/-- The settings of number `x`, each with the records up to the next interface descriptor. -/
def settingsOf (x : UInt8) : List (List UInt8) → List UsbDdkInterfaceDescriptor
  | [] => []
  | r :: rs => if isInterface x r then settingOf r (rs.takeWhile isBehind) :: settingsOf x rs
      else settingsOf x rs

/-- What follows an interface descriptor belongs to it: it is long enough, declares at most 32
endpoints, and the endpoint descriptors `rs` has are long enough and no more than declared. -/
structure SettingFits (r : List UInt8) (rs : List (List UInt8)) : Prop where
  length : 9 ≤ len r
  declared : (byteAt r 4).toNat ≤ usbMaxEndpoints
  found : rs.countP isEndpoint ≤ (byteAt r 4).toNat
  endpoints : ∀ e ∈ rs, isEndpoint e = true → 7 ≤ len e

/-- Every interface descriptor fits with the records up to the next one. -/
def SettingsFit : List (List UInt8) → Prop
  | [] => True
  | r :: rs => (byteAt r 1 = usbDdkDtInterface → SettingFits r (rs.takeWhile isBehind)) ∧
      SettingsFit rs

/-- The last interface descriptor has all the endpoints behind it that it declares. -/
def LastSettled : List (List UInt8) → Prop
  | [] => True
  | r :: rs => (byteAt r 1 = usbDdkDtInterface → rs.dropWhile isBehind = [] →
      rs.countP isEndpoint = (byteAt r 4).toNat) ∧ LastSettled rs

section
variable {x : UInt8} {r : List UInt8} {rs bs : List (List UInt8)}

theorem settingsOf_append_interface (h : byteAt r 1 = usbDdkDtInterface) :
    settingsOf x (bs ++ r :: rs) = settingsOf x bs ++ settingsOf x (r :: rs) := by
  induction bs with
  | nil => rfl
  | cons b bs ih =>
    rw [List.cons_append, settingsOf, settingsOf, ih, takeWhile_append_interface h]
    split
    · rfl
    · rfl

theorem settingsOf_of_behind (h : ∀ r ∈ rs, byteAt r 1 ≠ usbDdkDtInterface) :
    settingsOf x rs = [] := by
  induction rs with
  | nil => rfl
  | cons r rs ih =>
    obtain ⟨hr, hrs⟩ := List.forall_mem_cons.mp h
    rw [settingsOf, isInterface_eq_false hr, if_neg Bool.false_ne_true, ih hrs]

theorem settingsOf_segment (h : ∀ r ∈ rs, byteAt r 1 ≠ usbDdkDtInterface) :
    settingsOf x (r :: rs) = if isInterface x r then [settingOf r rs] else [] := by
  rw [settingsOf, takeWhile_isBehind h, settingsOf_of_behind h]

theorem settingsFit_of_behind (h : ∀ r ∈ rs, byteAt r 1 ≠ usbDdkDtInterface) : SettingsFit rs := by
  induction rs with
  | nil => trivial
  | cons r rs ih =>
    obtain ⟨hr, hrs⟩ := List.forall_mem_cons.mp h
    exact ⟨fun htype => absurd htype hr, ih hrs⟩

/-- An interface descriptor that fits with the records up to the end can be appended. -/
theorem SettingsFit.append_segment (hbs : SettingsFit bs) (h : byteAt r 1 = usbDdkDtInterface)
    (hrs : ∀ r ∈ rs, byteAt r 1 ≠ usbDdkDtInterface) (hfits : SettingFits r rs) :
    SettingsFit (bs ++ r :: rs) := by
  induction bs with
  | nil => exact ⟨fun _ => by rwa [takeWhile_isBehind hrs], settingsFit_of_behind hrs⟩
  | cons b bs ih =>
    refine ⟨fun hb => ?_, ih hbs.2⟩
    have hfit := hbs.1 hb
    rwa [← takeWhile_append_interface h] at hfit

theorem lastSettled_of_behind (h : ∀ r ∈ rs, byteAt r 1 ≠ usbDdkDtInterface) :
    LastSettled rs := by
  induction rs with
  | nil => trivial
  | cons r rs ih =>
    obtain ⟨hr, hrs⟩ := List.forall_mem_cons.mp h
    exact ⟨fun htype => absurd htype hr, ih hrs⟩

/-- Only the last interface descriptor counts. -/
theorem lastSettled_append_segment (bs : List (List UInt8)) (h : byteAt r 1 = usbDdkDtInterface)
    (hrs : ∀ r ∈ rs, byteAt r 1 ≠ usbDdkDtInterface)
    (hall : rs.countP isEndpoint = (byteAt r 4).toNat) : LastSettled (bs ++ r :: rs) := by
  induction bs with
  | nil => exact ⟨fun _ _ => hall, lastSettled_of_behind hrs⟩
  | cons b bs ih =>
    refine ⟨fun _ hdrop => ?_, ih⟩
    have hr : isBehind r = true := List.dropWhile_eq_nil_iff.mp hdrop r
      (List.mem_append_right _ List.mem_cons_self)
    exact absurd h (of_decide_eq_true hr)

end

/-! ## Configurations -/

/-- The interface of number `x` that the records stand for. -/
def interfaceOf (rs : List (List UInt8)) (x : UInt8) : UsbDdkInterface where
  numAltsetting := UInt8.ofNat (rs.countP (isInterface x))
  altsetting := some (settingsOf x rs)

/-- The configuration that the records stand for. -/
def denote (rs : List (List UInt8)) : UsbDdkConfigDescriptor where
  configDescriptor :=
    { UsbConfigDescriptor.load (rs.headD []) {} with
      bNumInterfaces := UInt8.ofNat (interfaceNumbers rs).length }
  interface := some ((interfaceNumbers rs).map (interfaceOf rs))
  extra := extraBlock (rs.tail.takeWhile isExtra)
  extraLength := (rs.tail.takeWhile isExtra).flatten.length

/-- The vectors of the format. The bound on the header's length is the low byte of the length of the
vector, to which the parser compares it. -/
structure Grammatical (configBuffer : List UInt8) : Prop where
  type : byteAt configBuffer 1 = usbDdkDtConfig
  length : 9 ≤ len configBuffer
  length_le : len configBuffer ≤ configBuffer.length % 256
  interfaces : (byteAt configBuffer 4).toNat ≤ usbMaxInterfaces
  whole : (records configBuffer).flatten = configBuffer
  numbered : interfaceNumbers (records configBuffer) ≠ []
  room : (interfaceNumbers (records configBuffer)).length < usbMaxInterfaces
  strays : ∀ r ∈ (records configBuffer).tail.takeWhile isBehind, isEndpoint r = false
  settings : SettingsFit (records configBuffer).tail
  last : LastSettled (records configBuffer).tail

end ExtDevMgr.Usb
