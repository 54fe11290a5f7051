import ExtDevMgr.Scsi.Formats

/-!
# Fields that the sense data supplies

A decoder writes the fields that the buffer has and leaves the others as they were. Two results of one
buffer agree on the former, and are equal when what was there before agreed on the latter
(`parseBasicSenseInfo_supplied`).
-/

namespace ExtDevMgr.Scsi
open Access Bytes

inductive SenseField
  | valid
  | information
  | commandSpecific
  | sksv
  | senseKeySpecific

/-- The field as a number. -/
def SenseField.read (info : BasicSenseInfo) : SenseField → Nat
  | .valid => info.valid.toNat
  | .information => info.information.toNat
  | .commandSpecific => info.commandSpecific.toNat
  | .sksv => info.sksv.toNat
  | .senseKeySpecific => info.senseKeySpecific.toNat

/-- The descriptor describes the field. -/
def SenseDescriptor.Supplies (d : SenseDescriptor) : SenseField → Prop
  | .valid | .information => d.information ≠ none
  | .commandSpecific => d.commandSpecific ≠ none
  | .sksv | .senseKeySpecific => d.senseKeySpecific ≠ none

/-- In fixed format all fields are there, but for the information of data that is not valid. -/
def FixedSupplies (buf : Memory) (field : SenseField) : Prop :=
  field = .information → buf 0 &&& validBit ≠ 0

/-- The buffer supplies the field. -/
def Supplies (buf : Memory) (senseDataLen : Nat) (field : SenseField) : Prop :=
  if buf 0 &&& mastResponseCode = 0x70 ∨ buf 0 &&& mastResponseCode = 0x71 then
    FixedSupplies buf field
  else
    ∃ d ∈ descriptors buf senseDataLen, d.Supplies field

/-- The results agree on the field if it is supplied, and otherwise have kept it. -/
def AgreesOn (supplied : SenseField → Prop) (info info' result result' : BasicSenseInfo)
    (field : SenseField) : Prop :=
  (supplied field → field.read result = field.read result') ∧
    (¬ supplied field → field.read result = field.read info ∧ field.read result' = field.read info')

theorem eq_of_read {info info' : BasicSenseInfo} (hcode : info.responseCode = info'.responseCode)
    (h : ∀ field : SenseField, field.read info = field.read info') : info = info' := by
  have hbool : ∀ b b' : Bool, b.toNat = b'.toNat → b = b' := by decide
  have hvalid := hbool _ _ (h .valid)
  have hinformation := UInt64.toNat_inj.mp (h .information)
  have hcommand := UInt64.toNat_inj.mp (h .commandSpecific)
  have hsksv := hbool _ _ (h .sksv)
  have hkey := UInt32.toNat_inj.mp (h .senseKeySpecific)
  cases info
  cases info'
  cases hcode
  cases hvalid
  cases hinformation
  cases hcommand
  cases hsksv
  cases hkey
  rfl

/-- Where the supplied fields agree, the results differ in nothing but what was there before. -/
theorem eq_iff_of_agreesOn {supplied : SenseField → Prop}
    {info info' result result' : BasicSenseInfo}
    (hcode : result.responseCode = result'.responseCode)
    (h : ∀ field, AgreesOn supplied info info' result result' field) :
    result = result' ↔
      ∀ field : SenseField, ¬ supplied field → field.read info = field.read info' := by
  constructor
  · rintro rfl field hnot
    obtain ⟨hkept, hkept'⟩ := (h field).2 hnot
    exact hkept.symm.trans hkept'
  · intro hagree
    apply eq_of_read hcode
    intro field
    by_cases hsupplied : supplied field
    · exact (h field).1 hsupplied
    · obtain ⟨hkept, hkept'⟩ := (h field).2 hsupplied
      rw [hkept, hkept', hagree field hsupplied]

theorem read_responseCode (info : BasicSenseInfo) (responseCode : UInt8) (field : SenseField) :
    field.read { info with responseCode } = field.read info := by
  cases field <;> rfl

theorem fixedSense_agreesOn (buf : Memory) (info info' : BasicSenseInfo) (field : SenseField) :
    AgreesOn (FixedSupplies buf) info info' (fixedSense buf info) (fixedSense buf info') field := by
  cases field with
  | information =>
    constructor
    · intro hsupplied
      have hvalid : (buf 0 &&& validBit != 0) = true := bne_iff_ne.mpr (hsupplied rfl)
      simp only [SenseField.read, fixedSense, hvalid, if_true]
    · intro hnot
      have hvalid : ¬ (buf 0 &&& validBit != 0) = true :=
        fun h => hnot fun _ => bne_iff_ne.mp h
      simp only [SenseField.read, fixedSense, if_neg hvalid, and_self]
  | _ => exact ⟨fun _ => rfl, fun hnot => absurd (fun h => by cases h) hnot⟩

/-- A field that is taken from the last element that has one. -/
theorem lastSome_agrees {α β γ : Type*} {f : α → Option β} {l : List α} (num : γ → Nat) (g : β → γ)
    (c c' : γ) :
    ((∃ a ∈ l, f a ≠ none) →
      num (((lastSome f l).map g).getD c) = num (((lastSome f l).map g).getD c')) ∧
    ((¬ ∃ a ∈ l, f a ≠ none) →
      num (((lastSome f l).map g).getD c) = num c ∧
        num (((lastSome f l).map g).getD c') = num c') := by
  cases hlast : lastSome f l with
  | none =>
    have hnone : ∀ a ∈ l, f a = none := fun a ha =>
      List.findSome?_eq_none_iff.mp hlast a (List.mem_reverse.mpr ha)
    refine ⟨?_, fun _ => ⟨rfl, rfl⟩⟩
    rintro ⟨a, ha, hsome⟩
    exact absurd (hnone a ha) hsome
  | some b =>
    obtain ⟨a, ha, hb⟩ := List.exists_of_findSome?_eq_some hlast
    refine ⟨fun _ => rfl, fun hnot => ?_⟩
    exact absurd ⟨a, List.mem_reverse.mp ha, hb ▸ Option.some_ne_none b⟩ hnot

theorem described_agreesOn (ds : List SenseDescriptor) (info info' : BasicSenseInfo)
    (field : SenseField) :
    AgreesOn (fun field => ∃ d ∈ ds, d.Supplies field) info info' (described ds info)
      (described ds info') field := by
  cases field with
  | valid => exact lastSome_agrees Bool.toNat Prod.fst _ _
  | information =>
    exact lastSome_agrees UInt64.toNat (fun field : Bool × Nat => UInt64.ofNat field.2) _ _
  | commandSpecific => exact lastSome_agrees UInt64.toNat UInt64.ofNat _ _
  | sksv => exact lastSome_agrees Bool.toNat Prod.fst _ _
  | senseKeySpecific =>
    exact lastSome_agrees UInt32.toNat (fun field : Bool × Nat => UInt32.ofNat field.2) _ _

/-! ## Two runs -/

section
variable {buf : Memory} {senseDataLen : UInt8} {info : BasicSenseInfo}

/-- The response codes that are accepted, with the least length of their format. -/
theorem accepted_of_success (h : (parseBasicSenseInfo (some buf) senseDataLen (some info)).value.1 =
    scsiPeripheralDdkSuccess) :
    (buf 0 &&& mastResponseCode = 0x70 ∨ buf 0 &&& mastResponseCode = 0x71) ∧
        18 ≤ senseDataLen.toNat ∨
      (buf 0 &&& mastResponseCode = 0x72 ∨ buf 0 &&& mastResponseCode = 0x73) ∧
        8 ≤ senseDataLen.toNat := by
  rw [parseBasicSenseInfo, value_bind, byteAt, value_touch] at h
  dsimp only at h
  split at h
  · rename_i hcode
    refine .inl ⟨hcode, ?_⟩
    rw [value_bind, parseFixedFormatSense] at h
    split at h
    · cases h
    · rename_i hlen
      exact UInt8.le_iff_toNat_le.mp (UInt8.not_lt.mp hlen)
  · split at h
    · rename_i hcode
      refine .inr ⟨hcode, ?_⟩
      rw [value_bind, parseDescriptorFormatSense] at h
      split at h
      · cases h
      · rename_i hlen
        exact UInt8.le_iff_toNat_le.mp (UInt8.not_lt.mp hlen)
    · cases h

/-- The result for an accepted buffer, as a function of what was there before. -/
theorem exists_result (h : (parseBasicSenseInfo (some buf) senseDataLen (some info)).value.1 =
    scsiPeripheralDdkSuccess) :
    ∃ written : BasicSenseInfo → BasicSenseInfo,
      (∀ info, (parseBasicSenseInfo (some buf) senseDataLen (some info)).value =
        (scsiPeripheralDdkSuccess, some (written info))) ∧
      (∀ info, (written info).responseCode = buf 0 &&& mastResponseCode) ∧
      ∀ info info' field,
        AgreesOn (Supplies buf senseDataLen.toNat) info info' (written info) (written info') field := by
  rcases accepted_of_success h with ⟨hcode, hle⟩ | ⟨hcode, hle⟩
  · refine ⟨_, parseBasicSenseInfo_fixed hcode hle, fun _ => rfl, fun info info' field => ?_⟩
    have hagrees := fixedSense_agreesOn buf { info with responseCode := buf 0 &&& mastResponseCode }
      { info' with responseCode := buf 0 &&& mastResponseCode } field
    rw [AgreesOn, read_responseCode, read_responseCode] at hagrees
    rw [AgreesOn, Supplies, if_pos hcode]
    exact hagrees
  · refine ⟨_, parseBasicSenseInfo_descriptors hcode hle, fun _ => rfl, fun info info' field => ?_⟩
    have hagrees := described_agreesOn (descriptors buf senseDataLen.toNat)
      { info with responseCode := buf 0 &&& mastResponseCode }
      { info' with responseCode := buf 0 &&& mastResponseCode } field
    rw [AgreesOn, read_responseCode, read_responseCode] at hagrees
    rw [AgreesOn, Supplies, if_neg (not_fixed_of_descriptor hcode)]
    exact hagrees

end

/-- A buffer that parses does so whatever was there before. The two results agree on the fields that
it supplies and have kept the others, so that they are equal if and only if those agreed before. -/
theorem parseBasicSenseInfo_supplied {buf : Memory} {senseDataLen : UInt8}
    {info result : BasicSenseInfo}
    (h : (parseBasicSenseInfo (some buf) senseDataLen (some info)).value =
      (scsiPeripheralDdkSuccess, some result)) (info' : BasicSenseInfo) :
    ∃ result', (parseBasicSenseInfo (some buf) senseDataLen (some info')).value =
        (scsiPeripheralDdkSuccess, some result') ∧
      result.responseCode = result'.responseCode ∧
      (∀ field, AgreesOn (Supplies buf senseDataLen.toNat) info info' result result' field) ∧
      (result = result' ↔ ∀ field : SenseField, ¬ Supplies buf senseDataLen.toNat field →
        field.read info = field.read info') := by
  obtain ⟨written, hvalue, hcode, hagrees⟩ := exists_result (congrArg Prod.fst h)
  rw [hvalue info, Prod.mk.injEq, Option.some.injEq] at h
  obtain ⟨-, rfl⟩ := h
  have hcodes := (hcode info).trans (hcode info').symm
  exact ⟨written info', hvalue info', hcodes, hagrees info info',
    eq_iff_of_agreesOn hcodes (hagrees info info')⟩

theorem parseBasicSenseInfo_supplied_header :
    ∃ result', (parseBasicSenseInfo (some (memoryOf [0x72, 0, 0, 0, 0, 0, 0, 0])) 8
        (some ⟨0, true, 5, 0, false, 0⟩)).value = (scsiPeripheralDdkSuccess, some result') ∧
      ∀ field, AgreesOn (Supplies (memoryOf [0x72, 0, 0, 0, 0, 0, 0, 0]) 8) ⟨0, false, 0, 0, false, 0⟩
        ⟨0, true, 5, 0, false, 0⟩ ⟨0x72, false, 0, 0, false, 0⟩ result' field := by
  obtain ⟨result', hvalue, -, hagrees, -⟩ := @parseBasicSenseInfo_supplied
    (memoryOf [0x72, 0, 0, 0, 0, 0, 0, 0]) 8 ⟨0, false, 0, 0, false, 0⟩
    ⟨0x72, false, 0, 0, false, 0⟩ (by decide) ⟨0, true, 5, 0, false, 0⟩
  exact ⟨result', hvalue, hagrees⟩

/-- Without an information descriptor, the information of an earlier command is still there. -/
theorem not_forall_result_eq :
    ¬∀ (buf : Memory) (senseDataLen : UInt8) (info info' result result' : BasicSenseInfo),
      (parseBasicSenseInfo (some buf) senseDataLen (some info)).value =
        (scsiPeripheralDdkSuccess, some result) →
      (parseBasicSenseInfo (some buf) senseDataLen (some info')).value =
        (scsiPeripheralDdkSuccess, some result') → result = result' := by
  intro h
  have heq := h (memoryOf [0x72, 0, 0, 0, 0, 0, 0, 0]) 8 ⟨0, false, 0, 0, false, 0⟩
    ⟨0, true, 5, 0, false, 0⟩ ⟨0x72, false, 0, 0, false, 0⟩ ⟨0x72, true, 5, 0, false, 0⟩ (by decide)
    (by decide)
  exact absurd heq (by decide)

end ExtDevMgr.Scsi
