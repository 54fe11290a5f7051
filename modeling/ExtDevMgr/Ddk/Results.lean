import ExtDevMgr.Ddk.HidRuns
import ExtDevMgr.Ddk.Reads

/-!
# Results that are a value or a code

`OH_Hid_CreateDevice` returns the id of the device or a code of failure in one `int32_t`, and so does
`OH_Usb_ControlTransfer` with the transferred length. Which values are returned in both ways
(`results_toldApart_iff`).
-/

namespace ExtDevMgr.Ddk

theorem toInt_toInt32 (n : UInt32) : n.toInt32.toInt =
    if n.toNat < 2 ^ 31 then (n.toNat : Int) else (n.toNat : Int) - 2 ^ 32 := by
  have hcond : n.toInt32.toInt = _ := BitVec.toInt_eq_toNat_cond n.toBitVec
  rw [hcond]
  exact if_congr (by rw [UInt32.toNat_toBitVec]; omega) rfl rfl

theorem toInt_toInt32_nonneg_iff (n : UInt32) : 0 ≤ n.toInt32.toInt ↔ n.toNat < 2 ^ 31 := by
  have hlt := n.toNat_lt
  rw [toInt_toInt32]
  split
  case isTrue hsmall => exact iff_of_true (Int.natCast_nonneg _) hsmall
  case isFalse hlarge => exact iff_of_false (by omega) hlarge

theorem toInt_toInt32_eq_zero_iff (n : UInt32) : n.toInt32.toInt = 0 ↔ n = 0 := by
  have hlt := n.toNat_lt
  have hzero : n = 0 ↔ n.toNat = 0 := UInt32.toNat_inj.symm
  rw [toInt_toInt32, hzero]
  split <;> omega

/-- A value above 0 is the same number signed and unsigned. -/
theorem toInt_toInt32_eq_iff (n : UInt32) {v : Int} (hpos : 0 ≤ v) (hlt : v < 2 ^ 31) :
    n.toInt32.toInt = v ↔ (n.toNat : Int) = v := by
  have hlt := n.toNat_lt
  rw [toInt_toInt32]
  split <;> omega

/-! ## HID -/

namespace Hid
open ExtDevMgr.Ddk.Hid.System

section
variable {s : System} {r : Replies} {hidDevice : Option HidDevice}
  {hidEventProperties : Option HidEventProperties} {hdfErrNoperm : HdfErrNoperm}

theorem createDevice_ret_creates (h : Creates s r hidDevice hidEventProperties) :
    (s.ohHidCreateDevice r hdfErrNoperm hidDevice hidEventProperties).ret =
      r.deviceId.toInt32.toInt := by
  obtain ⟨hproceeds, hparameters, hret⟩ := h
  obtain ⟨⟨tempDevice, tempProperties⟩, hparameters⟩ := Option.isSome_iff_exists.mp hparameters
  simp only [ohHidCreateDevice, hparameters]
  rw [if_neg (not_not_intro (connect_eq_success.mpr hproceeds)),
    if_neg (not_not_intro (hidCode_eq_success.mpr hret))]
  rfl

/-- What a call returns that creates no device. -/
inductive FailureCode (hdfErrNoperm : HdfErrNoperm) : Int → Prop
  | unconnected : FailureCode hdfErrNoperm hidDdkInvalidOperation
  | parameter : FailureCode hdfErrNoperm hidDdkInvalidParameter
  | refused {ret : Int} : ret ≠ hidDdkSuccess → FailureCode hdfErrNoperm (hidCode hdfErrNoperm ret)

section
variable (hdfErrNoperm : HdfErrNoperm)

theorem createDevice_ret_unconnected (h : ¬ Proceeds s r) :
    (s.ohHidCreateDevice r hdfErrNoperm hidDevice hidEventProperties).ret =
      hidDdkInvalidOperation := by
  simp only [ohHidCreateDevice]
  rw [if_pos (mt connect_eq_success.mp h)]

theorem createDevice_ret_parameter (h : Proceeds s r)
    (hparameters : parameters hidDevice hidEventProperties = none) :
    (s.ohHidCreateDevice r hdfErrNoperm hidDevice hidEventProperties).ret =
      hidDdkInvalidParameter := by
  simp only [ohHidCreateDevice, hparameters]
  rw [if_neg (not_not_intro (connect_eq_success.mpr h))]

theorem createDevice_ret_refused (h : Proceeds s r)
    (hparameters : (parameters hidDevice hidEventProperties).isSome) (hret : r.ret ≠ hidDdkSuccess) :
    (s.ohHidCreateDevice r hdfErrNoperm hidDevice hidEventProperties).ret =
      hidCode hdfErrNoperm r.ret := by
  obtain ⟨⟨tempDevice, tempProperties⟩, hparameters⟩ := Option.isSome_iff_exists.mp hparameters
  simp only [ohHidCreateDevice, hparameters]
  rw [if_neg (not_not_intro (connect_eq_success.mpr h)), if_pos (mt hidCode_eq_success.mp hret)]

end

theorem createDevice_ret_fails (h : ¬ Creates s r hidDevice hidEventProperties) :
    FailureCode hdfErrNoperm
      (s.ohHidCreateDevice r hdfErrNoperm hidDevice hidEventProperties).ret := by
  by_cases hproceeds : Proceeds s r
  · obtain hparameters | hparameters :=
      (parameters hidDevice hidEventProperties).eq_none_or_eq_some.imp_right
        Option.isSome_iff_exists.mpr
    · rw [createDevice_ret_parameter hdfErrNoperm hproceeds hparameters]
      exact .parameter
    · have hret : r.ret ≠ hidDdkSuccess := fun hret => h ⟨hproceeds, hparameters, hret⟩
      rw [createDevice_ret_refused hdfErrNoperm hproceeds hparameters hret]
      exact .refused hret
  · rw [createDevice_ret_unconnected hdfErrNoperm hproceeds]
    exact .unconnected

/-- A failure is negative only if it is the service's own. -/
theorem createDevice_ret_neg_iff (h : ¬ Creates s r hidDevice hidEventProperties) :
    (s.ohHidCreateDevice r hdfErrNoperm hidDevice hidEventProperties).ret < 0 ↔
      Proceeds s r ∧ (parameters hidDevice hidEventProperties).isSome ∧ r.ret < 0 ∧
        r.ret ≠ hdfErrNoperm := by
  by_cases hproceeds : Proceeds s r
  · obtain hparameters | hparameters :=
      (parameters hidDevice hidEventProperties).eq_none_or_eq_some.imp_right
        Option.isSome_iff_exists.mpr
    · rw [createDevice_ret_parameter hdfErrNoperm hproceeds hparameters, hparameters]
      exact iff_of_false (by decide) fun hall => Bool.false_ne_true hall.2.1
    · have hret : r.ret ≠ hidDdkSuccess := fun hret => h ⟨hproceeds, hparameters, hret⟩
      rw [createDevice_ret_refused hdfErrNoperm hproceeds hparameters hret,
        and_iff_right hproceeds, and_iff_right hparameters, hidCode]
      split
      case isTrue heq => exact iff_of_false (by decide) fun hall => hall.2 heq
      case isFalse hne => exact (and_iff_left hne).symm
  · rw [createDevice_ret_unconnected hdfErrNoperm hproceeds]
    exact iff_of_false (by decide) fun hall => hproceeds hall.1

end

/-- The client before its first call. -/
def start : System := ⟨∅, none, none, 0, ∅, [], 0⟩

/-- Each of the codes is returned by a call that creates no device. -/
theorem exists_failing {hdfErrNoperm : HdfErrNoperm} {v : Int} (h : FailureCode hdfErrNoperm v) :
    ∃ s r hidDevice hidEventProperties, ¬ Creates s r hidDevice hidEventProperties ∧
      (s.ohHidCreateDevice r hdfErrNoperm hidDevice hidEventProperties).ret = v := by
  cases h with
  | unconnected =>
    refine ⟨start, ⟨false, [], true, hidDdkSuccess, 0⟩, none, none, ?_, rfl⟩
    rintro ⟨-, hparameters, -⟩
    cases hparameters
  | parameter =>
    refine ⟨start, granted [] 0, none, none, ?_, rfl⟩
    rintro ⟨-, hparameters, -⟩
    cases hparameters
  | @refused ret hret =>
    refine ⟨start, ⟨true, [], true, ret, 0⟩, some keyboard, some noEvents,
      fun hcreates => hret hcreates.2.2, ?_⟩
    exact createDevice_ret_refused hdfErrNoperm (.inr ⟨rfl, rfl⟩) rfl hret

/-- Nearly every number is a code of failure. -/
theorem failureCode_iff (hdfErrNoperm : HdfErrNoperm) (v : Int) : FailureCode hdfErrNoperm v ↔
    v = hidDdkInvalidOperation ∨ v = hidDdkInvalidParameter ∨ v = hidDdkNoPerm ∨
      v ≠ hidDdkSuccess ∧ v ≠ hdfErrNoperm := by
  constructor
  · intro h
    cases h with
    | unconnected => exact .inl rfl
    | parameter => exact .inr (.inl rfl)
    | @refused ret hret =>
      rw [hidCode]
      split
      case isTrue => exact .inr (.inr (.inl rfl))
      case isFalse hne => exact .inr (.inr (.inr ⟨hret, hne⟩))
  · rintro (rfl | rfl | rfl | ⟨hne, hcode⟩)
    · exact .unconnected
    · exact .parameter
    · have hrefused : FailureCode hdfErrNoperm (hidCode hdfErrNoperm hdfErrNoperm) :=
        .refused hdfErrNoperm.2
      rwa [hidCode, if_pos rfl] at hrefused
    · have hrefused : FailureCode hdfErrNoperm (hidCode hdfErrNoperm v) := .refused hne
      rwa [hidCode, if_neg hcode] at hrefused

/-- No call that fails returns `v`. -/
def ToldApart (hdfErrNoperm : HdfErrNoperm) (v : Int) : Prop :=
  ∀ s r hidDevice hidEventProperties, ¬ Creates s r hidDevice hidEventProperties →
    (s.ohHidCreateDevice r hdfErrNoperm hidDevice hidEventProperties).ret ≠ v

theorem toldApart_iff_not_failureCode {hdfErrNoperm : HdfErrNoperm} {v : Int} :
    ToldApart hdfErrNoperm v ↔ ¬ FailureCode hdfErrNoperm v := by
  constructor
  · intro hapart hcode
    obtain ⟨s, r, hidDevice, hidEventProperties, hfails, hret⟩ := exists_failing hcode
    exact hapart s r hidDevice hidEventProperties hfails hret
  · intro hcode s r hidDevice hidEventProperties hfails hret
    exact hcode (hret ▸ createDevice_ret_fails hfails)

/-- The device's id is told apart from the codes only if it is 0, or the one number that no failure is
passed through as. -/
theorem createDevice_toldApart_iff {hdfErrNoperm : HdfErrNoperm} {s : System} {r : Replies}
    {hidDevice : Option HidDevice} {hidEventProperties : Option HidEventProperties}
    (h : Creates s r hidDevice hidEventProperties) :
    ToldApart hdfErrNoperm
        (s.ohHidCreateDevice r hdfErrNoperm hidDevice hidEventProperties).ret ↔
      r.deviceId = 0 ∨ r.deviceId.toInt32.toInt = hdfErrNoperm ∧
        hdfErrNoperm.1 ∉ [hidDdkInvalidOperation, hidDdkInvalidParameter, hidDdkNoPerm] := by
  rw [toldApart_iff_not_failureCode, failureCode_iff, createDevice_ret_creates h,
    ← toInt_toInt32_eq_zero_iff]
  simp only [List.mem_cons, List.not_mem_nil, or_false, hidDdkSuccess, hidDdkInvalidOperation,
    hidDdkInvalidParameter, hidDdkNoPerm]
  omega

end Hid

/-! ## USB -/

theorem lookup_of_mem {l : List (Int × Int)} {k v : Int} (hkeys : (l.map Prod.fst).Nodup)
    (h : (k, v) ∈ l) : l.lookup k = some v := by
  obtain ⟨before, behind, rfl⟩ := List.append_of_mem h
  refine List.lookup_eq_some_iff.mpr ⟨before, behind, rfl, fun p hp => ?_⟩
  rw [List.map_append, List.map_cons] at hkeys
  have hdisjoint := (List.nodup_append.mp hkeys).2.2 p.1 (List.mem_map_of_mem hp) k
    List.mem_cons_self
  exact bne_iff_ne.mpr hdisjoint.symm

/-- The codes that `OH_Usb_ControlTransfer` returns. -/
def usbErrorCodes : List Int :=
  [usbDdkNoPerm, usbDdkInvalidParameter, usbDdkMemoryError, usbDdkInvalidOperation, usbDdkIoFailed,
    usbDdkTimeout]

section
variable {P : Platform}

/-- The codes of the framework are different ones. -/
def Platform.Distinct (P : Platform) : Prop := ((errorMap P).map Prod.fst).Nodup

instance (P : Platform) : Decidable P.Distinct := inferInstanceAs (Decidable (List.Nodup _))

theorem transToUsbCode_of_mem (hP : P.Distinct) {ret code : Int} (h : (ret, code) ∈ errorMap P) :
    transToUsbCode P ret usbDdkIoFailed = code := by
  rw [transToUsbCode, lookup_of_mem hP h]

theorem transToUsbCode_mem {ret : Int} (h : transToUsbCode P ret usbDdkIoFailed ≠ usbDdkSuccess) :
    transToUsbCode P ret usbDdkIoFailed ∈ usbErrorCodes := by
  revert h
  rw [transToUsbCode]
  split
  case h_1 code hcode =>
    obtain ⟨before, behind, heq, -⟩ := List.lookup_eq_some_iff.mp hcode
    have hmem : code ∈ (errorMap P).map Prod.snd := by
      rw [heq, List.map_append, List.map_cons]
      exact List.mem_append_right _ List.mem_cons_self
    intro hne
    simp only [errorMap, List.map_cons, List.map_nil, List.mem_cons, List.not_mem_nil, or_false] at hmem
    simp only [usbErrorCodes, List.mem_cons, List.not_mem_nil, or_false]
    tauto
  case h_2 =>
    have hdefault : usbDdkIoFailed ∈ usbErrorCodes := by decide
    rw [if_pos (by decide)]
    exact fun _ => hdefault

/-- What a transfer returns that fails. -/
inductive UsbFailureCode (P : Platform) : Int → Prop
  | unconnected : UsbFailureCode P usbDdkInvalidOperation
  | parameter : UsbFailureCode P usbDdkInvalidParameter
  | refused {ret : Int} : transToUsbCode P ret usbDdkIoFailed ≠ usbDdkSuccess →
    UsbFailureCode P (transToUsbCode P ret usbDdkIoFailed)
  | copy : UsbFailureCode P usbDdkMemoryError

theorem usbFailureCode_iff (hP : P.Distinct) (v : Int) : UsbFailureCode P v ↔ v ∈ usbErrorCodes := by
  constructor
  · intro h
    cases h with
    | unconnected => decide
    | parameter => decide
    | refused hret => exact transToUsbCode_mem hret
    | copy => decide
  · have hrefused : ∀ ret code, (ret, code) ∈ errorMap P → code ≠ usbDdkSuccess →
        UsbFailureCode P code := by
      intro ret code hmem hne
      have hcode := transToUsbCode_of_mem hP hmem
      have hfailure : UsbFailureCode P (transToUsbCode P ret usbDdkIoFailed) :=
        .refused (by rw [hcode]; exact hne)
      rwa [hcode] at hfailure
    intro h
    simp only [usbErrorCodes, List.mem_cons, List.not_mem_nil, or_false] at h
    rcases h with rfl | rfl | rfl | rfl | rfl | rfl
    · exact hrefused P.hdfErrNoperm _ (by simp [errorMap]) (by decide)
    · exact .parameter
    · exact .copy
    · exact .unconnected
    · exact hrefused P.hdfErrIo _ (by simp [errorMap]) (by decide)
    · exact hrefused P.hdfErrTimeout _ (by simp [errorMap]) (by decide)

theorem memcpyS_ok {dest src : Memory} {destMax count : Nat}
    (hmax : destMax ≤ Scsi.securecMemMaxLen) (hpos : 0 < count) :
    (memcpyS dest destMax src count).value.1 = decide (count ≤ destMax) := by
  rw [memcpyS]
  split
  case isTrue hzero => exact (decide_eq_false (by omega)).symm
  case isFalse =>
    split
    case isTrue hlong => exact (decide_eq_false (Nat.not_le.mpr hlong)).symm
    case isFalse hfits => exact (decide_eq_true (Nat.not_lt.mp hfits)).symm

/-- The arguments of `OH_Usb_ControlTransfer`, the library and the service. -/
structure ControlTransfer where
  ddk : Bool
  setupPacket : Option UInt16
  data : Option Memory
  service : List UInt8 → Reply

namespace ControlTransfer
variable (P : Platform) (c : ControlTransfer)

def ret : Int := (ohUsbControlTransfer P c.ddk c.setupPacket c.data c.service).value.ret

/-- The service replies with success, and what it replies fits into the buffer. -/
def Transfers (reply : Reply) : Prop :=
  ∃ wLength data, c.ddk = true ∧ c.setupPacket = some wLength ∧ c.data = some data ∧
    c.service ((List.range wLength.toNat).map data) = reply ∧
    transToUsbCode P reply.ret usbDdkIoFailed = usbDdkSuccess ∧ reply.size ≤ wLength.toNat

/-- No transfer that fails returns `v`. -/
def ToldApart (v : Int) : Prop :=
  ∀ c : ControlTransfer, (∀ reply, ¬ c.Transfers P reply) → c.ret P ≠ v

variable {P c}

/-- A call that reaches the service. -/
theorem ret_served (wLength : UInt16) (data : Memory) (service : List UInt8 → Reply) {reply : Reply}
    (hreply : service ((List.range wLength.toNat).map data) = reply) :
    ret P ⟨true, some wLength, some data, service⟩ =
      if transToUsbCode P reply.ret usbDdkIoFailed ≠ usbDdkSuccess then
        transToUsbCode P reply.ret usbDdkIoFailed
      else if reply.size ≤ wLength.toNat then reply.count.toInt32.toInt else usbDdkMemoryError := by
  have hmax : wLength.toNat ≤ Scsi.securecMemMaxLen :=
    Nat.le_trans (Nat.le_of_lt wLength.toNat_lt) (by decide)
  subst hreply
  rw [ret, ohUsbControlTransfer, Access.touchAll]
  simp only [Bool.not_true, Bool.false_eq_true, if_false, Access.value_bind]
  split
  case isTrue => rfl
  case isFalse =>
    split
    case isTrue hpos =>
      simp only [Access.value_bind, Access.value_pure, memcpyS_ok hmax hpos, decide_eq_true_eq]
    case isFalse hempty =>
      rw [if_pos (by omega)]
      rfl

theorem ret_transfers {reply : Reply} (h : c.Transfers P reply) :
    c.ret P = reply.count.toInt32.toInt := by
  obtain ⟨ddk, setupPacket, data, service⟩ := c
  obtain ⟨wLength, mem, hddk, hsetup, hdata, hreply, hcode, hsize⟩ := h
  cases hddk
  cases hsetup
  cases hdata
  rw [ret_served wLength mem service hreply, if_neg (not_not_intro hcode), if_pos hsize]

theorem ret_fails (h : ∀ reply, ¬ c.Transfers P reply) : UsbFailureCode P (c.ret P) := by
  obtain ⟨_ | _, setupPacket, data, service⟩ := c
  · exact .unconnected
  obtain _ | wLength := setupPacket
  · exact .parameter
  obtain _ | data := data
  · exact .parameter
  rw [ret_served wLength data service rfl]
  split
  case isTrue hcode => exact .refused hcode
  case isFalse hcode =>
    split
    case isTrue hsize =>
      exact absurd ⟨wLength, data, rfl, rfl, rfl, rfl, not_not.mp hcode, hsize⟩ (h _)
    case isFalse => exact .copy

/-- A service that replies with the code `ret`, `size` bytes and the count `count`. -/
def replying (ret : Int) (size : Nat) (count : UInt32) (wLength : UInt16) : ControlTransfer where
  ddk := true
  setupPacket := some wLength
  data := some fun _ => 0
  service _ := ⟨ret, fun _ => 0, size, count⟩

theorem transToUsbCode_hdfSuccess (P : Platform) :
    transToUsbCode P P.hdfSuccess usbDdkIoFailed = usbDdkSuccess := by
  rw [transToUsbCode, errorMap, List.lookup_cons_self]

theorem exists_failing {v : Int} (h : UsbFailureCode P v) :
    ∃ c : ControlTransfer, (∀ reply, ¬ c.Transfers P reply) ∧ c.ret P = v := by
  cases h with
  | unconnected =>
    refine ⟨{ replying 0 0 0 0 with ddk := false }, ?_, rfl⟩
    rintro reply ⟨wLength, data, hddk, -⟩
    cases hddk
  | parameter =>
    refine ⟨{ replying 0 0 0 0 with data := none }, ?_, rfl⟩
    rintro reply ⟨wLength, data, -, -, hdata, -⟩
    cases hdata
  | @refused ret hcode =>
    refine ⟨replying ret 0 0 0, ?_, ?_⟩
    · rintro reply ⟨wLength, data, -, -, -, rfl, hsuccess, -⟩
      exact hcode hsuccess
    · rw [replying, ret_served _ _ _ rfl, if_pos hcode]
  | copy =>
    have hcode := transToUsbCode_hdfSuccess P
    refine ⟨replying P.hdfSuccess 1 0 0, ?_, ?_⟩
    · rintro reply ⟨wLength, data, -, hsetup, -, rfl, -, hsize⟩
      cases hsetup
      exact Nat.not_succ_le_zero 0 hsize
    · rw [replying, ret_served _ _ _ rfl, if_neg (not_not_intro hcode)]
      exact if_neg (Nat.not_succ_le_zero 0)

/-- The length is told apart from the codes exactly when it is none of them. -/
theorem toldApart_iff (hP : P.Distinct) {reply : Reply} (h : c.Transfers P reply) :
    ToldApart P (c.ret P) ↔ (reply.count.toNat : Int) ∉ usbErrorCodes := by
  have hcodes : reply.count.toInt32.toInt ∈ usbErrorCodes ↔
      (reply.count.toNat : Int) ∈ usbErrorCodes := by
    have hsame : ∀ code ∈ usbErrorCodes, 0 ≤ code ∧ code < 2 ^ 31 := by decide
    constructor
    · intro hmem
      obtain ⟨hpos, hlt⟩ := hsame _ hmem
      rwa [← (toInt_toInt32_eq_iff _ hpos hlt).mp rfl] at hmem
    · intro hmem
      obtain ⟨hpos, hlt⟩ := hsame _ hmem
      rwa [← (toInt_toInt32_eq_iff _ hpos hlt).mpr rfl] at hmem
  rw [ret_transfers h, ← hcodes, ← usbFailureCode_iff hP]
  constructor
  · intro hapart hcode
    obtain ⟨c', hfails, hret⟩ := exists_failing hcode
    exact hapart c' hfails hret
  · intro hcode c' hfails hret
    exact hcode (hret ▸ ret_fails hfails)

end ControlTransfer

end

/-! ## The theorem -/

open Hid in
/-- An id is told apart from the failures only if it is 0 or `HDF_ERR_NOPERM`, is not negative exactly
when it is below 2^31, and a failure is negative exactly when it is a negative code of the service
other than that. A transferred length is told apart exactly when it is no error code. -/
theorem results_toldApart_iff (hdfErrNoperm : System.HdfErrNoperm) {P : Platform}
    (hP : P.Distinct) :
    (∀ (s : System) (r : Replies) (hidDevice : Option HidDevice)
        (hidEventProperties : Option HidEventProperties),
      let ret := (s.ohHidCreateDevice r hdfErrNoperm hidDevice hidEventProperties).ret
      (Creates s r hidDevice hidEventProperties →
        (Hid.ToldApart hdfErrNoperm ret ↔ r.deviceId = 0 ∨ r.deviceId.toInt32.toInt = hdfErrNoperm ∧
          hdfErrNoperm.1 ∉ [hidDdkInvalidOperation, hidDdkInvalidParameter, hidDdkNoPerm]) ∧
        (0 ≤ ret ↔ r.deviceId.toNat < 2 ^ 31)) ∧
      (¬ Creates s r hidDevice hidEventProperties →
        (ret < 0 ↔ Proceeds s r ∧ (parameters hidDevice hidEventProperties).isSome ∧ r.ret < 0 ∧
          r.ret ≠ hdfErrNoperm))) ∧
    ∀ (c : ControlTransfer) (reply : Reply), c.Transfers P reply →
      (ControlTransfer.ToldApart P (c.ret P) ↔ (reply.count.toNat : Int) ∉ usbErrorCodes) := by
  refine ⟨fun s r hidDevice hidEventProperties => ⟨fun hcreates => ⟨?_, ?_⟩, ?_⟩, ?_⟩
  · exact createDevice_toldApart_iff hcreates
  · rw [createDevice_ret_creates hcreates]
    exact toInt_toInt32_nonneg_iff r.deviceId
  · exact createDevice_ret_neg_iff
  · exact fun c reply htransfers => ControlTransfer.toldApart_iff hP htransfers

/-- A device with the id 0, and a transfer of 18 bytes. -/
theorem results_toldApart_small :
    Hid.ToldApart ⟨-1, by decide⟩
      (Hid.start.ohHidCreateDevice (Hid.granted [] 0) ⟨-1, by decide⟩ (some Hid.keyboard)
        (some Hid.noEvents)).ret ∧
    ControlTransfer.ToldApart platform ((ControlTransfer.replying 0 18 18 18).ret platform) := by
  obtain ⟨hcreate, htransfer⟩ := results_toldApart_iff ⟨-1, by decide⟩
    (show platform.Distinct by decide)
  constructor
  · exact ((hcreate Hid.start (Hid.granted [] 0) (some Hid.keyboard)
      (some Hid.noEvents)).1 (by decide)).1.mpr (.inl rfl)
  · refine (htransfer (ControlTransfer.replying 0 18 18 18) _
      ⟨18, fun _ => 0, rfl, rfl, rfl, rfl, by decide, by decide⟩).mpr (by decide)

/-- A device with the id 401 is created, which is also the code of an invalid parameter; one with the
id 2^31 is given a negative handle; missing permission is not negative; and a transfer of 201 bytes
returns the code of missing permission. -/
theorem results_not_toldApart :
    (¬ ∀ (s : Hid.System) (r : Hid.Replies) (hidDevice : Option Hid.HidDevice)
        (hidEventProperties : Option Hid.HidEventProperties),
      Hid.Creates s r hidDevice hidEventProperties → Hid.ToldApart ⟨-1, by decide⟩
        (s.ohHidCreateDevice r ⟨-1, by decide⟩ hidDevice hidEventProperties).ret) ∧
    (Hid.start.ohHidCreateDevice (Hid.granted [] 401) ⟨-1, by decide⟩ (some Hid.keyboard)
        (some Hid.noEvents)).ret =
      (Hid.start.ohHidCreateDevice (Hid.granted [] 1) ⟨-1, by decide⟩ none none).ret ∧
    (Hid.start.ohHidCreateDevice (Hid.granted [] 0x80000000) ⟨-1, by decide⟩ (some Hid.keyboard)
        (some Hid.noEvents)).ret < 0 ∧
    ¬ ∀ (c : ControlTransfer) (reply : Reply), c.Transfers platform reply →
      ControlTransfer.ToldApart platform (c.ret platform) := by
  refine ⟨fun hall => ?_, by decide, by decide, fun hall => ?_⟩
  · have hapart := hall Hid.start (Hid.granted [] 401) (some Hid.keyboard) (some Hid.noEvents)
      (by decide)
    refine hapart Hid.start (Hid.granted [] 1) none none ?_ (by decide)
    rintro ⟨-, hparameters, -⟩
    cases hparameters
  · have hapart := hall (ControlTransfer.replying 0 201 201 256) _
      ⟨256, fun _ => 0, rfl, rfl, rfl, rfl, by decide, by decide⟩
    have hcode := (ControlTransfer.toldApart_iff (show platform.Distinct by decide)
      ⟨256, fun _ => 0, rfl, rfl, rfl, rfl, by decide, by decide⟩).mp hapart
    exact hcode (by decide)

end ExtDevMgr.Ddk
