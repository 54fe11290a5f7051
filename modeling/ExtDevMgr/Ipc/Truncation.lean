import ExtDevMgr.Ipc.Types

/-!
# Truncated parcels

A reader that finds the parcel at its end yields a default value. What is left of a written record
after a cut is refused only by the readers that look at what they have read.
-/

namespace ExtDevMgr.Ipc
open Codec

/-- What is left of the fields that marshalling has written, when some of them are lost. -/
structure Cut (marshalling : Accepts → Codec.Writer Value Unit) (cut : List Value) : Prop where
  intro ::
  written : ∃ accepts written, (marshalling accepts).run.run [] = (.ok (), written) ∧
    cut <+: written ∧ cut ≠ written

/-- Every cut of what marshalling writes is refused. -/
def RejectsCuts {α : Type} (marshalling : Accepts → Codec.Writer Value Unit)
    (unmarshalling : Reader Value (Option α)) : Prop :=
  ∀ cut, Cut marshalling cut → (unmarshalling.run cut).1 = none

variable {marshalling : Accepts → Codec.Writer Value Unit} {encoded cut : List Value}

theorem Cut.of_writeAll (hwrite : ∀ accepts, marshalling accepts = writeAll accepts encoded)
    (hcut : cut <+: encoded) (hne : cut ≠ encoded) : Cut marshalling cut := by
  refine ⟨fun _ _ => true, encoded, ?_, hcut, hne⟩
  rw [hwrite]
  exact writeAll_true encoded []

theorem Cut.isPrefix (h : Cut marshalling cut)
    (hwrite : ∀ accepts, marshalling accepts = writeAll accepts encoded) : cut <+: encoded := by
  obtain ⟨accepts, written, hok, hcut, -⟩ := h
  rw [hwrite] at hok
  rwa [writeAll_ok hok, List.nil_append] at hcut

/-- A cut keeps the first field or nothing. -/
theorem Cut.cases_head {v : Value} (h : cut <+: v :: encoded) :
    cut = [] ∨ ∃ rest, cut = v :: rest := by
  cases cut with
  | nil => exact .inl rfl
  | cons w rest =>
    obtain ⟨rfl, -⟩ := List.cons_prefix_cons.mp h
    exact .inr ⟨rest, rfl⟩

/-! ## Readers that do not look at what they have read -/

theorem ErrMsg.answers : Answers unmarshalling := by
  apply Answers.read_bind
  intro errCode
  apply Answers.read_bind
  intro msg
  exact .some _

theorem USBDevice.answers (busType : BusType) : Answers (unmarshalling busType) := by
  apply Answers.read_bind
  intro deviceId
  apply Answers.read_bind
  intro descripton
  apply Answers.read_bind
  intro productId
  apply Answers.read_bind
  intro vendorId
  exact .some _

theorem USBInterfaceDesc.answers : Answers unmarshalling := by
  apply Answers.read_bind
  intro bInterfaceNumber
  apply Answers.read_bind
  intro bClass
  apply Answers.read_bind
  intro bSubClass
  apply Answers.read_bind
  intro bProtocol
  exact .some _

theorem USBDriverInfoData.answers : Answers unmarshalling := by
  apply Answers.read_bind
  intro driverUid
  apply Answers.read_bind
  intro driverName
  apply Answers.read_bind
  intro bundleSize
  apply Answers.read_bind
  intro version
  apply Answers.read_bind
  intro description
  apply Answers.read_bind
  intro pids
  apply Answers.read_bind
  intro vids
  exact .some _

/-! ## Cuts of the records -/

/-- A null pointer in the list is not written. -/
theorem USBDeviceInfoData.descs_of_ok {accepts : Accepts} {l : List (Option USBInterfaceDesc)}
    {store written : List Value}
    (h : (l.forM fun
      | none => throw ()
      | some desc => desc.marshalling accepts : Codec.Writer Value Unit).run.run store =
        (.ok (), written)) : ∃ descs : List USBInterfaceDesc, l = descs.map some := by
  induction l generalizing store with
  | nil => exact ⟨[], rfl⟩
  | cons desc l ih =>
    obtain ⟨_, mid, hfirst, hrest⟩ := bind_run_ok h
    cases desc with
    | none => cases hfirst
    | some desc =>
      obtain ⟨descs, hdescs⟩ := ih hrest
      exact ⟨desc :: descs, by rw [hdescs, List.map_cons]⟩

theorem USBDeviceInfoData.descs_of_cut {d : USBDeviceInfoData}
    (h : Cut (USBDeviceInfoData.marshalling · d) cut) :
    ∃ descs : List USBInterfaceDesc, d.interfaceDescList = descs.map some := by
  obtain ⟨accepts, written, hok, -⟩ := h
  obtain ⟨_, _, _, hok⟩ := bind_run_ok hok
  obtain ⟨_, _, _, hok⟩ := bind_run_ok hok
  obtain ⟨_, _, _, hok⟩ := bind_run_ok hok
  obtain ⟨_, _, _, hok⟩ := bind_run_ok hok
  exact descs_of_ok hok

theorem ErrMsg.cut_ne_none (cut : List Value) : (ErrMsg.unmarshalling.run cut).1 ≠ none :=
  ErrMsg.answers.ne_none cut

theorem DeviceData.unmarshalling_usb (rest : List Value) :
    (unmarshalling.run (.uint32 busTypeUsb :: rest)).1 ≠ none :=
  (USBDevice.answers busTypeUsb).ne_none rest

theorem DriverInfoData.unmarshalling_usb (rest : List Value) :
    (unmarshalling.run (.uint32 busTypeUsb :: rest)).1 ≠ none :=
  USBDriverInfoData.answers.ne_none rest

/-- A record that starts with its bus, read by what accepts every record of the USB bus and no other,
is refused when not even the bus is left. -/
theorem eq_none_iff_of_bus {α : Type} {read : List Value → Option α} {busType : BusType}
    {fields : List Value} (hcut : cut <+: .uint32 busType :: fields) (hnil : read [] = none)
    (husb : ∀ rest, read (.uint32 busTypeUsb :: rest) ≠ none)
    (hother : busType ≠ busTypeUsb → ∀ rest, read (.uint32 busType :: rest) = none) :
    read cut = none ↔ cut = [] ∨ busType ≠ busTypeUsb := by
  rcases Cut.cases_head hcut with rfl | ⟨rest, rfl⟩
  · exact iff_of_true hnil (.inl rfl)
  · rw [or_iff_right (List.cons_ne_nil _ _)]
    constructor
    · intro hnone hbus
      rw [hbus] at hnone
      exact husb rest hnone
    · intro hbus
      exact hother hbus rest

/-- A cut device is refused when not even its bus is left. -/
theorem USBDevice.cut_eq_none_iff {d : USBDevice} (h : Cut (USBDevice.marshalling · d) cut) :
    (DeviceData.unmarshalling.run cut).1 = none ↔ cut = [] ∨ d.busType ≠ busTypeUsb := by
  apply @eq_none_iff_of_bus cut _ (fun cut => (DeviceData.unmarshalling.run cut).1) _ _
    (h.isPrefix fun accepts => d.marshalling_eq accepts) rfl DeviceData.unmarshalling_usb
  intro hbus rest
  exact congrArg Prod.fst (DeviceData.unmarshalling_other hbus rest)

theorem USBDriverInfoData.cut_eq_none_iff {d : USBDriverInfoData}
    (h : Cut (USBDriverInfoData.marshalling · d) cut) :
    (DriverInfoData.unmarshalling.run cut).1 = none ↔ cut = [] ∨ d.busType ≠ busTypeUsb := by
  apply @eq_none_iff_of_bus cut _ (fun cut => (DriverInfoData.unmarshalling.run cut).1) _ _
    (h.isPrefix fun accepts => d.marshalling_eq accepts) rfl DriverInfoData.unmarshalling_usb
  intro hbus rest
  exact congrArg Prod.fst (DriverInfoData.unmarshalling_other hbus rest)

/-! ### Device infos -/

/-- What is left of a device info: at most its first three fields, the fields before the number of its
descriptors, or the number as well. -/
inductive DeviceInfoCut (d : USBDeviceInfoData) : List Value → Prop
  | nil : DeviceInfoCut d []
  | deviceId : DeviceInfoCut d [.uint64 d.deviceId]
  | isDriverMatched : DeviceInfoCut d [.uint64 d.deviceId, .bool d.isDriverMatched]
  | unsized {rest : List Value} : rest <+: [.uint16 d.productId, .uint16 d.vendorId] →
      DeviceInfoCut d (.uint64 d.deviceId :: .bool d.isDriverMatched :: .string d.driverUid :: rest)
  | sized {rest : List Value} : DeviceInfoCut d (d.header ++ rest)

theorem deviceInfoCut {d : USBDeviceInfoData} {descs : List Value} (h : cut <+: d.header ++ descs) :
    DeviceInfoCut d cut := by
  obtain ⟨lost, hlost⟩ := h
  match cut, hlost with
  | [], _ => exact .nil
  | [v], h =>
    cases h
    exact .deviceId
  | [v₁, v₂], h =>
    cases h
    exact .isDriverMatched
  | [v₁, v₂, v₃], h =>
    cases h
    exact .unsized (List.nil_prefix)
  | [v₁, v₂, v₃, v₄], h =>
    cases h
    exact .unsized ⟨[.uint16 d.vendorId], rfl⟩
  | [v₁, v₂, v₃, v₄, v₅], h =>
    cases h
    exact .unsized (List.prefix_refl _)
  | v₁ :: v₂ :: v₃ :: v₄ :: v₅ :: v₆ :: rest, h =>
    cases h
    exact .sized

theorem DeviceInfoData.unmarshalling_cons (deviceId : UInt64) (rest : List Value) :
    unmarshalling.run (.uint64 deviceId :: rest) = StateT.run
      (if getBusTypeByDeviceId deviceId ≤ busTypeInvalid ∨
          getBusTypeByDeviceId deviceId ≥ busTypeMax then
        return none
      else do
        match ← tryRead Value.asBool with
        | none => return none
        | some isDriverMatched =>
          match ← tryRead Value.asString with
          | none => return none
          | some driverUid =>
            if getBusTypeByDeviceId deviceId = busTypeUsb then
              USBDeviceInfoData.unmarshalling { deviceId, isDriverMatched, driverUid }
            else
              return none : Reader Value (Option USBDeviceInfoData)) rest := rfl

theorem DeviceInfoData.unmarshalling_usb {deviceId : UInt64} (isDriverMatched : Bool)
    (driverUid : Str) (h : getBusTypeByDeviceId deviceId = busTypeUsb) (rest : List Value) :
    unmarshalling.run (.uint64 deviceId :: .bool isDriverMatched :: .string driverUid :: rest) =
      (USBDeviceInfoData.unmarshalling { deviceId, isDriverMatched, driverUid }).run rest := by
  rw [unmarshalling_cons, h, if_neg (by decide)]
  rfl

theorem DeviceInfoData.unmarshalling_other {deviceId : UInt64}
    (h : getBusTypeByDeviceId deviceId ≠ busTypeUsb) (rest : List Value) :
    (unmarshalling.run (.uint64 deviceId :: rest)).1 = none := by
  rw [unmarshalling_cons, if_pos]
  · rfl
  · apply Classical.byContradiction
    intro hbus
    obtain ⟨hlow, hhigh⟩ := not_or.mp hbus
    apply h
    apply UInt32.toNat_inj.mp
    rw [UInt32.le_iff_toNat_le] at hlow
    rw [ge_iff_le, UInt32.le_iff_toNat_le] at hhigh
    change ¬_ ≤ 0 at hlow
    change ¬2 ≤ _ at hhigh
    change _ = 1
    omega

/-- The number of the descriptors alone is looked at. -/
theorem USBDeviceInfoData.unmarshalling_sized (base : DeviceInfoData) (productId vendorId : UInt16)
    (size : UInt64) (rest : List Value) :
    ((unmarshalling base).run (.uint16 productId :: .uint16 vendorId :: .uint64 size :: rest)).1 =
      none ↔ maxInterfaceDescSize < size := by
  change ((if size > maxInterfaceDescSize then _ else _ :
    Reader Value (Option USBDeviceInfoData)).run rest).1 = none ↔ _
  split
  case isTrue hsize => exact iff_of_true rfl hsize
  case isFalse hsize =>
    refine iff_of_false ?_ hsize
    apply Answers.ne_none
    apply (USBInterfaceDesc.answers.readList size.toNat).bind
    intro descs
    exact .some _

theorem USBDeviceInfoData.unmarshalling_unsized (base : DeviceInfoData) {productId vendorId : UInt16}
    {rest : List Value} (h : rest <+: [.uint16 productId, .uint16 vendorId]) :
    ((unmarshalling base).run rest).1 ≠ none := by
  obtain ⟨lost, hlost⟩ := h
  match rest, hlost with
  | [], _ => nofun
  | [v], h =>
    cases h
    nofun
  | [v₁, v₂], h =>
    cases h
    nofun

/-- A cut device info is refused when one of its first three fields is lost, its device id names no USB
device, or the number of its descriptors is left and too large. -/
theorem USBDeviceInfoData.cut_eq_none_iff {d : USBDeviceInfoData}
    (h : Cut (USBDeviceInfoData.marshalling · d) cut) :
    (DeviceInfoData.unmarshalling.run cut).1 = none ↔
      cut.length < 3 ∨ DeviceInfoData.getBusTypeByDeviceId d.deviceId ≠ busTypeUsb ∨
        6 ≤ cut.length ∧ maxInterfaceDescSize < UInt64.ofNat d.interfaceDescList.length := by
  obtain ⟨descs, hdescs⟩ := descs_of_cut h
  by_cases hbus : DeviceInfoData.getBusTypeByDeviceId d.deviceId = busTypeUsb
  · cases deviceInfoCut (h.isPrefix fun accepts => d.marshalling_eq accepts hdescs) with
    | nil => exact iff_of_true rfl (.inl (Nat.lt_of_sub_eq_succ rfl))
    | deviceId =>
      refine iff_of_true ?_ (.inl (Nat.lt_of_sub_eq_succ rfl))
      rw [DeviceInfoData.unmarshalling_cons, hbus, if_neg (by decide)]
      rfl
    | isDriverMatched =>
      refine iff_of_true ?_ (.inl (Nat.lt_of_sub_eq_succ rfl))
      rw [DeviceInfoData.unmarshalling_cons, hbus, if_neg (by decide)]
      rfl
    | unsized hrest =>
      rw [DeviceInfoData.unmarshalling_usb _ _ hbus]
      refine iff_of_false (unmarshalling_unsized _ hrest) ?_
      have hlen := hrest.length_le
      simp only [List.length_cons, List.length_nil] at hlen ⊢
      rintro (hshort | hother | ⟨hlong, -⟩)
      · omega
      · exact hother hbus
      · omega
    | sized =>
      rw [header, List.cons_append, List.cons_append, List.cons_append,
        DeviceInfoData.unmarshalling_usb _ _ hbus]
      refine (unmarshalling_sized _ _ _ _ _).trans ?_
      simp only [List.length_cons, List.cons_append, List.nil_append]
      constructor
      · intro hsize
        exact .inr (.inr ⟨by omega, hsize⟩)
      · rintro (hshort | hother | ⟨-, hsize⟩)
        · omega
        · exact absurd hbus hother
        · exact hsize
  · refine iff_of_true ?_ (.inr (.inl hbus))
    rcases Cut.cases_head (h.isPrefix fun accepts => d.marshalling_eq accepts hdescs)
      with rfl | ⟨rest, rfl⟩
    · rfl
    · exact DeviceInfoData.unmarshalling_other hbus rest

/-- Which cuts are refused: no cut of an error message, a cut device or driver that has lost its bus or
names another one, and a cut device info that has lost one of the fields that are looked at, names
another bus or announces too many descriptors. -/
theorem cut_rejected_iff (cut : List Value) :
    (∀ m, Cut (ErrMsg.marshalling · m) cut → (ErrMsg.unmarshalling.run cut).1 ≠ none) ∧
    (∀ d, Cut (USBDevice.marshalling · d) cut →
      ((DeviceData.unmarshalling.run cut).1 = none ↔ cut = [] ∨ d.busType ≠ busTypeUsb)) ∧
    (∀ d, Cut (USBDeviceInfoData.marshalling · d) cut →
      ((DeviceInfoData.unmarshalling.run cut).1 = none ↔
        cut.length < 3 ∨ DeviceInfoData.getBusTypeByDeviceId d.deviceId ≠ busTypeUsb ∨
          6 ≤ cut.length ∧ maxInterfaceDescSize < UInt64.ofNat d.interfaceDescList.length)) ∧
    (∀ d, Cut (USBDriverInfoData.marshalling · d) cut →
      ((DriverInfoData.unmarshalling.run cut).1 = none ↔ cut = [] ∨ d.busType ≠ busTypeUsb)) := by
  refine ⟨?_, ?_, ?_, ?_⟩
  · intro m _
    exact ErrMsg.cut_ne_none cut
  · intro d hcut
    exact USBDevice.cut_eq_none_iff hcut
  · intro d hcut
    exact USBDeviceInfoData.cut_eq_none_iff hcut
  · intro d hcut
    exact USBDriverInfoData.cut_eq_none_iff hcut

/-- The keyboard without its last field is a keyboard. -/
theorem keyboard_cut :
    (DeviceInfoData.unmarshalling.run
      (keyboard.header ++ [.uint8 0, .uint8 3, .uint8 1])).1 ≠ none := by
  have hdescs : keyboard.interfaceDescList =
      List.map some [{ bInterfaceNumber := 0, bClass := 3, bSubClass := 1, bProtocol := 1 }] := rfl
  have hcut : Cut (USBDeviceInfoData.marshalling · keyboard)
      (keyboard.header ++ [.uint8 0, .uint8 3, .uint8 1]) :=
    .of_writeAll (fun accepts => keyboard.marshalling_eq accepts hdescs) ⟨[.uint8 1], rfl⟩
      (by decide)
  rw [ne_eq, (cut_rejected_iff _).2.2.1 keyboard hcut]
  decide

/-- A message of which nothing is left, a device and a driver of which the bus is left, and a device
info of which the fields that are looked at are left. -/
theorem not_rejectsCuts :
    (¬∀ m, RejectsCuts (ErrMsg.marshalling · m) ErrMsg.unmarshalling) ∧
    (¬∀ d : USBDevice, d.busType = busTypeUsb →
      RejectsCuts (USBDevice.marshalling · d) DeviceData.unmarshalling) ∧
    (¬∀ d : USBDeviceInfoData, DeviceInfoData.getBusTypeByDeviceId d.deviceId = busTypeUsb →
      RejectsCuts (USBDeviceInfoData.marshalling · d) DeviceInfoData.unmarshalling) ∧
    (¬∀ d : USBDriverInfoData, d.busType = busTypeUsb →
      RejectsCuts (USBDriverInfoData.marshalling · d) DriverInfoData.unmarshalling) := by
  refine ⟨?_, ?_, ?_, ?_⟩
  · intro h
    have hnone := h { errCode := 5, msg := [102] } []
      (.of_writeAll (fun accepts => ErrMsg.marshalling_eq accepts _) List.nil_prefix (by decide))
    exact absurd hnone (by decide)
  · intro h
    have hnone := h { busType := 1, deviceId := 7, descripton := [], productId := 2, vendorId := 3 }
      rfl [.uint32 1] (.of_writeAll (fun accepts => USBDevice.marshalling_eq accepts _) ⟨_, rfl⟩
        (by decide))
    exact absurd hnone (by decide)
  · intro h
    have hdescs : keyboard.interfaceDescList =
        List.map some [{ bInterfaceNumber := 0, bClass := 3, bSubClass := 1, bProtocol := 1 }] := rfl
    have hnone := h keyboard (by decide) (keyboard.header.take 3)
      (.of_writeAll (fun accepts => keyboard.marshalling_eq accepts hdescs) ⟨_, rfl⟩ (by decide))
    exact absurd hnone (by decide)
  · intro h
    have hnone := h
      { busType := 1, driverUid := [117], driverName := [], bundleSize := [], version := [],
        description := [], pids := [2], vids := [3] } rfl [.uint32 1]
      (.of_writeAll (fun accepts => USBDriverInfoData.marshalling_eq accepts _) ⟨_, rfl⟩ (by decide))
    exact absurd hnone (by decide)

end ExtDevMgr.Ipc
