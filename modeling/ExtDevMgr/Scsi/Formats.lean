import Mathlib.Data.List.Nodup
import Mathlib.Data.Nat.Bitwise
import ExtDevMgr.Scsi.Encoding

/-!
# The two sense formats

The same sense information in fixed format (`HoldsFixed`) and as descriptors (`Describes`). Both
decoders come to the fields of the information, so that they agree (`formats_agree`).
-/

namespace ExtDevMgr.Scsi
open Access Bytes

/-- Valid sense information that both formats have room for. -/
structure SenseInformation where
  information : Nat
  commandSpecific : Nat
  sksv : Bool
  senseKeySpecific : Nat
  information_lt : information < 2 ^ 32
  commandSpecific_lt : commandSpecific < 2 ^ 32
  senseKeySpecific_lt : senseKeySpecific < 2 ^ 23

namespace SenseInformation
variable (sense : SenseInformation)

/-- The sense key specific bytes, with the SKSV bit in front. -/
def keyBytes : List UInt8 := be 3 (sense.sksv.toNat * 2 ^ 23 + sense.senseKeySpecific)

def informationDescriptor (flags reserved : UInt8) : SenseDescriptor :=
  ⟨descriptorTypeInformation, flags :: reserved :: be 8 sense.information⟩

def commandSpecificDescriptor (reserved reserved' : UInt8) : SenseDescriptor :=
  ⟨descriptorTypeCommandSpecificInformation, reserved :: reserved' :: be 8 sense.commandSpecific⟩

def senseKeySpecificDescriptor (reserved reserved' reserved'' : UInt8) : SenseDescriptor :=
  ⟨descriptorTypeSenseKeySpecific, reserved :: reserved' :: (sense.keyBytes ++ [reserved''])⟩

/-- The fields that a decoder is to come to. -/
def decoded (responseCode : UInt8) : BasicSenseInfo where
  responseCode
  valid := true
  information := UInt64.ofNat sense.information
  commandSpecific := UInt64.ofNat sense.commandSpecific
  sksv := sense.sksv
  senseKeySpecific := UInt32.ofNat sense.senseKeySpecific

end SenseInformation

/-- Sense data in fixed format; what the fields leave free is arbitrary. -/
structure HoldsFixed (buf : Memory) (n : Nat) (sense : SenseInformation) : Prop where
  responseCode : buf 0 = validBit ||| 0x70 ∨ buf 0 = validBit ||| 0x71
  information : Carries buf n 3 (be 4 sense.information)
  commandSpecific : Carries buf n 8 (be 4 sense.commandSpecific)
  senseKeySpecific : Carries buf n 15 sense.keyBytes

def SenseDescriptor.IsKnown (d : SenseDescriptor) : Prop :=
  d.type = descriptorTypeInformation ∨ d.type = descriptorTypeCommandSpecificInformation ∨
    d.type = descriptorTypeSenseKeySpecific

instance : DecidablePred SenseDescriptor.IsKnown :=
  fun d => inferInstanceAs (Decidable (d.type = _ ∨ d.type = _ ∨ d.type = _))

/-- The three descriptors of the information in any order, among descriptors of other types. -/
def Describes (ds : List SenseDescriptor) (sense : SenseInformation) : Prop :=
  ∃ flags r₁ r₂ r₃ r₄ r₅ r₆ : UInt8, flags &&& validBit ≠ 0 ∧
    (ds.filter (·.IsKnown)).Perm [sense.informationDescriptor flags r₁,
      sense.commandSpecificDescriptor r₂ r₃, sense.senseKeySpecificDescriptor r₄ r₅ r₆]

/-! ## Numbers and bits in the buffer -/

section
variable {buf : Memory} {n start m : Nat}

theorem Carries.ofBe_map_range {w : Nat} (h : Carries buf n start (be w m)) (hle : start + w ≤ n)
    (hlt : m < 256 ^ w) : ofBe ((List.range w).map fun i => buf (start + i)) = m := by
  have hbytes := h.map_range (by rwa [length_be])
  rw [length_be] at hbytes
  rw [hbytes, ofBe_be_of_lt hlt]

theorem getUint32_of_carries (h : Carries buf n start (be 4 m)) (hle : start + 4 ≤ n)
    (hlt : m < 2 ^ 32) : (getUint32 buf start).value.toUInt64 = UInt64.ofNat m := by
  apply UInt64.toNat_inj.mp
  rw [UInt32.toNat_toUInt64, getUint32_value,
    UInt64.toNat_ofNat_of_lt' (Nat.lt_trans hlt (by decide))]
  exact h.ofBe_map_range hle hlt

theorem and_validBit (b : UInt8) : (b &&& validBit != 0) = b.toNat.testBit 7 := by
  have hbit : b &&& validBit ≠ 0 ↔ b.toNat &&& 2 ^ 7 ≠ 0 := by
    rw [ne_eq, ← UInt8.toNat_inj, UInt8.toNat_and]
    rfl
  rw [Nat.and_two_pow] at hbit
  cases hb : b.toNat.testBit 7 with
  | false =>
    rw [hb] at hbit
    exact bne_eq_false_iff_eq.mpr (not_ne_iff.mp (mt hbit.mp (by decide)))
  | true =>
    rw [hb] at hbit
    exact bne_iff_ne.mpr (hbit.mpr (by decide))

/-- The highest of 24 bits, and the number of the others. -/
theorem highBit_of_ofBe {b b' b'' : UInt8} {bit : Bool} {key : Nat} (hkey : key < 2 ^ 23)
    (h : ofBe [b, b', b''] = bit.toNat * 2 ^ 23 + key) : (b &&& validBit != 0) = bit := by
  have hb' := b'.toNat_lt
  have hb'' := b''.toNat_lt
  simp only [ofBe_cons, ofBe_nil, List.length_cons, List.length_nil] at h
  rw [and_validBit, Nat.testBit_eq_decide_div_mod_eq]
  cases bit with
  | false =>
    rw [Bool.toNat_false] at h
    exact decide_eq_false (by omega)
  | true =>
    rw [Bool.toNat_true] at h
    exact decide_eq_true (by have := b.toNat_lt; omega)

end

section
variable {sense : SenseInformation}

theorem SenseInformation.keyField_lt :
    sense.sksv.toNat * 2 ^ 23 + sense.senseKeySpecific < 256 ^ 3 := by
  have hlt := sense.senseKeySpecific_lt
  have hbit : sense.sksv.toNat ≤ 1 := Bool.toNat_le _
  omega

theorem SenseInformation.keyField_mod :
    (sense.sksv.toNat * 2 ^ 23 + sense.senseKeySpecific) % 2 ^ 23 = sense.senseKeySpecific := by
  rw [Nat.mul_add_mod_self_right, Nat.mod_eq_of_lt sense.senseKeySpecific_lt]

theorem SenseInformation.ofBe_keyBytes :
    ofBe sense.keyBytes = sense.sksv.toNat * 2 ^ 23 + sense.senseKeySpecific :=
  ofBe_be_of_lt sense.keyField_lt

/-! ## The fixed format -/

/-- The information with what the fixed format says. -/
def fixedSense (buf : Memory) (info : BasicSenseInfo) : BasicSenseInfo where
  responseCode := info.responseCode
  valid := buf 0 &&& validBit != 0
  information :=
    if buf 0 &&& validBit != 0 then (getUint32 buf 3).value.toUInt64 else info.information
  commandSpecific := (getUint32 buf 8).value.toUInt64
  sksv := buf 15 &&& validBit != 0
  senseKeySpecific := UInt32.ofNat ((getUint24 buf 15).value.toNat % 2 ^ 23)

section
variable {buf : Memory} {senseDataLen : UInt8}

theorem parseFixedFormatSense_value (hle : 18 ≤ senseDataLen.toNat) (info : BasicSenseInfo) :
    (parseFixedFormatSense buf senseDataLen info).value =
      (scsiPeripheralDdkSuccess, fixedSense buf info) := by
  have hnot : ¬ senseDataLen < scsiPeripheralMinFixedFormatSense :=
    UInt8.not_lt.mpr (UInt8.le_iff_toNat_le.mpr hle)
  rw [parseFixedFormatSense, if_neg hnot]
  simp only [value_bind, value_pure, byteAt, value_touch, and_maskSenseKeySpecific]
  cases hvalid : buf 0 &&& validBit != 0 with
  | false =>
    rw [fixedSense, hvalid]
    rfl
  | true =>
    rw [fixedSense, hvalid]
    rfl

theorem parseBasicSenseInfo_fixed
    (hcode : buf 0 &&& mastResponseCode = 0x70 ∨ buf 0 &&& mastResponseCode = 0x71)
    (hle : 18 ≤ senseDataLen.toNat) (info : BasicSenseInfo) :
    (parseBasicSenseInfo (some buf) senseDataLen (some info)).value =
      (scsiPeripheralDdkSuccess,
        some (fixedSense buf { info with responseCode := buf 0 &&& mastResponseCode })) := by
  rw [parseBasicSenseInfo, value_bind, byteAt, value_touch]
  dsimp only
  rw [if_pos hcode, value_bind, parseFixedFormatSense_value hle]
  rfl

theorem HoldsFixed.fixedSense_eq {n : Nat} (h : HoldsFixed buf n sense) (hle : 18 ≤ n)
    (info : BasicSenseInfo) : fixedSense buf info = sense.decoded info.responseCode := by
  have hvalid : (buf 0 &&& validBit != 0) = true := by
    rcases h.responseCode with hcode | hcode
    · rw [hcode]
      rfl
    · rw [hcode]
      rfl
  have hinformation := getUint32_of_carries h.information (by omega) sense.information_lt
  have hcommand := getUint32_of_carries h.commandSpecific (by omega) sense.commandSpecific_lt
  have hkey : ofBe [buf 15, buf (15 + 1), buf (15 + 2)] = _ :=
    h.senseKeySpecific.ofBe_map_range (by omega) sense.keyField_lt
  have hsksv := highBit_of_ofBe sense.senseKeySpecific_lt hkey
  rw [fixedSense, hvalid, if_pos rfl, hinformation, hcommand, hsksv, getUint24_value, hkey,
    sense.keyField_mod]
  rfl

theorem HoldsFixed.code {n : Nat} (h : HoldsFixed buf n sense) :
    buf 0 &&& mastResponseCode = 0x70 ∨ buf 0 &&& mastResponseCode = 0x71 :=
  h.responseCode.imp (fun hcode => by rw [hcode]; rfl) fun hcode => by rw [hcode]; rfl

theorem HoldsFixed.parseBasicSenseInfo_spec (h : HoldsFixed buf senseDataLen.toNat sense)
    (hle : 18 ≤ senseDataLen.toNat) (info : BasicSenseInfo) :
    (parseBasicSenseInfo (some buf) senseDataLen (some info)).Spec (· < senseDataLen.toNat)
      (· = (scsiPeripheralDdkSuccess, some (sense.decoded (buf 0 &&& mastResponseCode)))) := by
  constructor
  · rw [parseBasicSenseInfo_within_iff]
    exact ⟨by omega, fun hother => absurd h.code (not_fixed_of_descriptor hother)⟩
  · rw [parseBasicSenseInfo_fixed h.code hle, h.fixedSense_eq hle]

end

/-! ## The descriptor format -/

theorem lastSome_eq_some {α β : Type*} {f : α → Option β} {l : List α} {b : β}
    (hmem : ∃ a ∈ l, f a = some b) (hall : ∀ a ∈ l, f a = none ∨ f a = some b) :
    lastSome f l = some b := by
  cases hlast : lastSome f l with
  | none =>
    obtain ⟨a, ha, hb⟩ := hmem
    have hnone := List.findSome?_eq_none_iff.mp hlast a (List.mem_reverse.mpr ha)
    cases hb.symm.trans hnone
  | some c =>
    obtain ⟨a, ha, hc⟩ := List.exists_of_findSome?_eq_some hlast
    rcases hall a (List.mem_reverse.mp ha) with hb | hb
    · cases hc.symm.trans hb
    · exact hc.symm.trans hb

/-- A field that the known descriptor of a type describes, and no other type does. -/
theorem lastSome_of_perm {β : Type*} {f : SenseDescriptor → Option β}
    {ds known : List SenseDescriptor} {d : SenseDescriptor} {b : β}
    (hperm : (ds.filter (·.IsKnown)).Perm known) (hnodup : (known.map SenseDescriptor.type).Nodup)
    (hd : d ∈ known) (hother : ∀ d', d'.type ≠ d.type → f d' = none) (hb : f d = some b) :
    lastSome f ds = some b := by
  obtain ⟨hmem, hknown⟩ := List.mem_filter.mp (hperm.mem_iff.mpr hd)
  apply lastSome_eq_some ⟨d, hmem, hb⟩
  intro a ha
  by_cases htype : a.type = d.type
  · have haknown : a.IsKnown := by
      rw [SenseDescriptor.IsKnown, htype]
      exact of_decide_eq_true hknown
    have ha' := hperm.mem_iff.mp (List.mem_filter.mpr ⟨ha, decide_eq_true haknown⟩)
    exact .inr (List.inj_on_of_nodup_map hnodup ha' hd htype ▸ hb)
  · exact .inl (hother a htype)

namespace SenseInformation

theorem information_informationDescriptor {flags : UInt8} (h : flags &&& validBit ≠ 0)
    (reserved : UInt8) : (sense.informationDescriptor flags reserved).information =
      some (true, sense.information) := by
  have hlen : (flags :: reserved :: be 8 sense.information).length = 10 := by
    rw [List.length_cons, List.length_cons, length_be]
  have hvalid : (flags &&& validBit != 0) = true := bne_iff_ne.mpr h
  have hvalue : ofBe (be 8 sense.information) = sense.information :=
    ofBe_be_of_lt (Nat.lt_trans sense.information_lt (by decide))
  rw [SenseDescriptor.information, informationDescriptor, if_pos ⟨rfl, hlen⟩, List.getD_cons_zero,
    hvalid]
  exact congrArg (fun n => some (true, n)) hvalue

theorem commandSpecific_commandSpecificDescriptor (reserved reserved' : UInt8) :
    (sense.commandSpecificDescriptor reserved reserved').commandSpecific =
      some sense.commandSpecific := by
  have hlen : (reserved :: reserved' :: be 8 sense.commandSpecific).length = 10 := by
    rw [List.length_cons, List.length_cons, length_be]
  have hvalue : ofBe (be 8 sense.commandSpecific) = sense.commandSpecific :=
    ofBe_be_of_lt (Nat.lt_trans sense.commandSpecific_lt (by decide))
  rw [SenseDescriptor.commandSpecific, commandSpecificDescriptor, if_pos ⟨rfl, hlen⟩]
  exact congrArg some hvalue

theorem exists_keyBytes : ∃ b b' b'', sense.keyBytes = [b, b', b''] :=
  List.length_eq_three.mp length_be

theorem senseKeySpecific_senseKeySpecificDescriptor (reserved reserved' reserved'' : UInt8) :
    (sense.senseKeySpecificDescriptor reserved reserved' reserved'').senseKeySpecific =
      some (sense.sksv, sense.senseKeySpecific) := by
  obtain ⟨b, b', b'', hbytes⟩ := sense.exists_keyBytes
  have hvalue := sense.ofBe_keyBytes
  rw [hbytes] at hvalue
  rw [SenseDescriptor.senseKeySpecific, senseKeySpecificDescriptor, hbytes, if_pos ⟨rfl, rfl⟩]
  change some (b &&& validBit != 0, ofBe [b, b', b''] % 2 ^ 23) = _
  rw [highBit_of_ofBe sense.senseKeySpecific_lt hvalue, hvalue, sense.keyField_mod]

end SenseInformation

theorem Describes.described_eq {ds : List SenseDescriptor} (h : Describes ds sense)
    (info : BasicSenseInfo) : described ds info = sense.decoded info.responseCode := by
  obtain ⟨flags, r₁, r₂, r₃, r₄, r₅, r₆, hvalid, hperm⟩ := h
  have hnodup : [descriptorTypeInformation, descriptorTypeCommandSpecificInformation,
    descriptorTypeSenseKeySpecific].Nodup := by decide
  have hinformation := lastSome_of_perm hperm hnodup (.head _)
    (fun _ => SenseDescriptor.information_of_ne)
    (sense.information_informationDescriptor hvalid r₁)
  have hcommand := lastSome_of_perm hperm hnodup (.tail _ (.head _))
    (fun _ => SenseDescriptor.commandSpecific_of_ne)
    (sense.commandSpecific_commandSpecificDescriptor r₂ r₃)
  have hkey := lastSome_of_perm hperm hnodup (.tail _ (.tail _ (.head _)))
    (fun _ => SenseDescriptor.senseKeySpecific_of_ne)
    (sense.senseKeySpecific_senseKeySpecificDescriptor r₄ r₅ r₆)
  rw [described, hinformation, hcommand, hkey]
  rfl

end

/-- Sense information parses to the same fields in either format, whatever was there before. -/
theorem formats_agree {sense : SenseInformation} {fixedBuf descBuf : Memory}
    {fixedLen descLen : UInt8} {ds : List SenseDescriptor}
    (hfixed : HoldsFixed fixedBuf fixedLen.toNat sense) (hfixedLen : 18 ≤ fixedLen.toNat)
    (hdesc : HoldsDescriptors descBuf descLen.toNat ds)
    (hdescLen : 8 + (encodeAll ds).length ≤ descLen.toNat) (hds : Describes ds sense)
    (fixedInfo descInfo : BasicSenseInfo) :
    ∃ fixed desc : BasicSenseInfo,
      (parseBasicSenseInfo (some fixedBuf) fixedLen (some fixedInfo)).Spec (· < fixedLen.toNat)
        (· = (scsiPeripheralDdkSuccess, some fixed)) ∧
      (parseBasicSenseInfo (some descBuf) descLen (some descInfo)).Spec (· < descLen.toNat)
        (· = (scsiPeripheralDdkSuccess, some desc)) ∧
      fixed.valid = desc.valid ∧ fixed.information = desc.information ∧
      fixed.commandSpecific = desc.commandSpecific ∧ fixed.sksv = desc.sksv ∧
      fixed.senseKeySpecific = desc.senseKeySpecific := by
  have hbound : (encodeAll ds).length ≤ descLen.toNat - 8 := by omega
  have hspec := hdesc.parseBasicSenseInfo_spec (by omega) (noLoneType_of_covers hdescLen) descInfo
  rw [complete_of_le hbound, hds.described_eq] at hspec
  exact ⟨_, _, hfixed.parseBasicSenseInfo_spec hfixedLen fixedInfo, hspec, rfl, rfl, rfl, rfl, rfl⟩

def sampleInformation : SenseInformation :=
  ⟨0x01020304, 0x05060708, true, 0x090A0B, by decide, by decide, by decide⟩

def fixedSample : List UInt8 :=
  [0xF0, 0, 5, 1, 2, 3, 4, 10, 5, 6, 7, 8, 0, 0, 0, 0x89, 0x0A, 0x0B]

/-- A vendor's descriptor stands between the others. -/
def descriptorSample : List UInt8 :=
  [0x72, 5, 0, 0, 0, 0, 0, 35, 1, 10, 0, 0, 0, 0, 0, 0, 5, 6, 7, 8, 0x80, 1, 9, 2, 6, 0, 0, 0x89,
    0x0A, 0x0B, 0, 0, 10, 0x80, 0, 0, 0, 0, 0, 1, 2, 3, 4]

theorem formats_agree_sample :
    ∃ fixed desc : BasicSenseInfo,
      (parseBasicSenseInfo (some (memoryOf fixedSample)) 18
        (some ⟨0, false, 0, 0, false, 0⟩)).Spec (· < 18)
        (· = (scsiPeripheralDdkSuccess, some fixed)) ∧
      (parseBasicSenseInfo (some (memoryOf descriptorSample)) 43
        (some ⟨0, false, 7, 0, false, 0⟩)).Spec (· < 43)
        (· = (scsiPeripheralDdkSuccess, some desc)) ∧
      fixed.valid = desc.valid ∧ fixed.information = desc.information ∧
      fixed.commandSpecific = desc.commandSpecific ∧ fixed.sksv = desc.sksv ∧
      fixed.senseKeySpecific = desc.senseKeySpecific := by
  have hinformation : Carries (memoryOf fixedSample) 18 3 (be 4 0x01020304) :=
    @Carries.append_left _ _ _ _ (fixedSample.drop 7)
      (@Carries.memoryOf _ 3 (fixedSample.take 3) _ rfl)
  have hcommand : Carries (memoryOf fixedSample) 18 8 (be 4 0x05060708) :=
    @Carries.append_left _ _ _ _ (fixedSample.drop 12)
      (@Carries.memoryOf _ 8 (fixedSample.take 8) _ rfl)
  have hkey : Carries (memoryOf fixedSample) 18 15 sampleInformation.keyBytes :=
    @Carries.memoryOf _ 15 (fixedSample.take 15) _ rfl
  have hdesc : HoldsDescriptors (memoryOf descriptorSample) 43
      [sampleInformation.commandSpecificDescriptor 0 0, ⟨0x80, [9]⟩,
        sampleInformation.senseKeySpecificDescriptor 0 0 0,
        sampleInformation.informationDescriptor 0x80 0] :=
    ⟨.inl rfl, rfl, @Carries.memoryOf _ 8 (descriptorSample.take 8) _ rfl⟩
  have hds : Describes [sampleInformation.commandSpecificDescriptor 0 0, ⟨0x80, [9]⟩,
      sampleInformation.senseKeySpecificDescriptor 0 0 0,
      sampleInformation.informationDescriptor 0x80 0] sampleInformation :=
    ⟨0x80, 0, 0, 0, 0, 0, 0, by decide, by decide⟩
  exact @formats_agree sampleInformation _ _ 18 43 _ ⟨.inl rfl, hinformation, hcommand, hkey⟩
    (by decide) hdesc (by decide) hds _ _

end ExtDevMgr.Scsi
