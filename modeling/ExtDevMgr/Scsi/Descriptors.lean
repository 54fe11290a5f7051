import Mathlib.Data.List.Induction
import ExtDevMgr.Base.Bytes
import ExtDevMgr.Scsi.Sense

/-!
# Sense data in descriptor format

Behind a header of eight bytes stand descriptors of a type byte, a length byte and a payload. The walk
of `ParseDescriptorFormatSense` comes upon the complete ones in order (`descriptors`), and each of the
fields that they describe is taken from the last of its kind (`parseBasicSenseInfo_descriptors`).
-/

namespace ExtDevMgr.Scsi
open Access Bytes

structure SenseDescriptor where
  type : UInt8
  payload : List UInt8
  deriving DecidableEq

namespace SenseDescriptor
variable (d : SenseDescriptor)

def encode : List UInt8 := d.type :: UInt8.ofNat d.payload.length :: d.payload

/-- The valid bit and the information of an information descriptor. -/
def information : Option (Bool × Nat) :=
  if d.type = descriptorTypeInformation ∧ d.payload.length = 10 then
    some (d.payload.getD 0 0 &&& validBit != 0, ofBe (d.payload.drop 2))
  else
    none

/-- The information of a command-specific information descriptor. -/
def commandSpecific : Option Nat :=
  if d.type = descriptorTypeCommandSpecificInformation ∧ d.payload.length = 10 then
    some (ofBe (d.payload.drop 2))
  else
    none

/-- The valid bit and the 23 bits of a sense key specific descriptor. -/
def senseKeySpecific : Option (Bool × Nat) :=
  if d.type = descriptorTypeSenseKeySpecific ∧ d.payload.length = 6 then
    some (d.payload.getD 2 0 &&& validBit != 0, ofBe ((d.payload.drop 2).take 3) % 2 ^ 23)
  else
    none

/-- The information with what the descriptor describes. -/
def apply (info : BasicSenseInfo) : BasicSenseInfo where
  responseCode := info.responseCode
  valid := (d.information.map Prod.fst).getD info.valid
  information := (d.information.map fun field => UInt64.ofNat field.2).getD info.information
  commandSpecific := (d.commandSpecific.map UInt64.ofNat).getD info.commandSpecific
  sksv := (d.senseKeySpecific.map Prod.fst).getD info.sksv
  senseKeySpecific :=
    (d.senseKeySpecific.map fun field => UInt32.ofNat field.2).getD info.senseKeySpecific

end SenseDescriptor

/-! ## The fields of a descriptor -/

namespace SenseDescriptor
variable {d : SenseDescriptor} {info : BasicSenseInfo}

theorem information_of_ne (h : d.type ≠ descriptorTypeInformation) : d.information = none :=
  if_neg fun hd => h hd.1

theorem commandSpecific_of_ne (h : d.type ≠ descriptorTypeCommandSpecificInformation) :
    d.commandSpecific = none := if_neg fun hd => h hd.1

theorem senseKeySpecific_of_ne (h : d.type ≠ descriptorTypeSenseKeySpecific) :
    d.senseKeySpecific = none := if_neg fun hd => h hd.1

theorem apply_of_information (h : d.type = descriptorTypeInformation) :
    d.apply info = d.information.elim info fun field =>
      { info with valid := field.1, information := UInt64.ofNat field.2 } := by
  have hcommand := @commandSpecific_of_ne d (by rw [h]; decide)
  have hkey := @senseKeySpecific_of_ne d (by rw [h]; decide)
  rw [apply, hcommand, hkey]
  cases d.information <;> rfl

theorem apply_of_commandSpecific (h : d.type = descriptorTypeCommandSpecificInformation) :
    d.apply info = d.commandSpecific.elim info fun field =>
      { info with commandSpecific := UInt64.ofNat field } := by
  have hinformation := @information_of_ne d (by rw [h]; decide)
  have hkey := @senseKeySpecific_of_ne d (by rw [h]; decide)
  rw [apply, hinformation, hkey]
  cases d.commandSpecific <;> rfl

theorem apply_of_senseKeySpecific (h : d.type = descriptorTypeSenseKeySpecific) :
    d.apply info = d.senseKeySpecific.elim info fun field =>
      { info with sksv := field.1, senseKeySpecific := UInt32.ofNat field.2 } := by
  have hinformation := @information_of_ne d (by rw [h]; decide)
  have hcommand := @commandSpecific_of_ne d (by rw [h]; decide)
  rw [apply, hinformation, hcommand]
  cases d.senseKeySpecific <;> rfl

end SenseDescriptor

/-! ## The descriptors of a buffer -/

def descriptorAt (buf : Memory) (idx : Nat) : SenseDescriptor where
  type := buf idx
  payload := (List.range (buf (idx + 1)).toNat).map fun i => buf (idx + 2 + i)

/-- At most `fuel` descriptors from `idx` on that end by `bound`. -/
def descriptorsFrom (buf : Memory) (bound : Nat) : Nat → Nat → List SenseDescriptor
  | 0, _ => []
  | fuel + 1, idx =>
    if idx + (buf (idx + 1)).toNat + 2 ≤ bound then
      descriptorAt buf idx :: descriptorsFrom buf bound fuel (idx + (buf (idx + 1)).toNat + 2)
    else
      []

/-- The complete descriptors of sense data of the given length. -/
def descriptors (buf : Memory) (senseDataLen : Nat) : List SenseDescriptor :=
  descriptorsFrom buf (min senseDataLen ((buf 7).toNat + 8)) senseDataLen 8

/-! ## Fields taken from the last descriptor -/

section
variable {α β : Type*} (f : α → Option β)

/-- The value of the last element that has one. -/
def lastSome (l : List α) : Option β := l.reverse.findSome? f

theorem lastSome_append_singleton (l : List α) (a : α) :
    lastSome f (l ++ [a]) = (f a).or (lastSome f l) := by
  rw [lastSome, List.reverse_append, List.reverse_singleton, List.singleton_append,
    List.findSome?_cons]
  cases f a <;> rfl

end

/-- The information with what the descriptors describe, each field as in the last of its kind. -/
def described (ds : List SenseDescriptor) (info : BasicSenseInfo) : BasicSenseInfo where
  responseCode := info.responseCode
  valid := ((lastSome SenseDescriptor.information ds).map Prod.fst).getD info.valid
  information := ((lastSome SenseDescriptor.information ds).map fun field =>
    UInt64.ofNat field.2).getD info.information
  commandSpecific :=
    ((lastSome SenseDescriptor.commandSpecific ds).map UInt64.ofNat).getD info.commandSpecific
  sksv := ((lastSome SenseDescriptor.senseKeySpecific ds).map Prod.fst).getD info.sksv
  senseKeySpecific := ((lastSome SenseDescriptor.senseKeySpecific ds).map fun field =>
    UInt32.ofNat field.2).getD info.senseKeySpecific

theorem getD_map_or {α β : Type*} (f : α → β) (x y : Option α) (b : β) :
    ((x.or y).map f).getD b = (x.map f).getD ((y.map f).getD b) := by
  cases x <;> rfl

theorem foldl_apply (ds : List SenseDescriptor) (info : BasicSenseInfo) :
    ds.foldl (fun info d => d.apply info) info = described ds info := by
  induction ds using List.reverseRecOn with
  | nil => rfl
  | append_singleton ds d ih =>
    rw [List.foldl_append, ih]
    simp only [List.foldl_cons, List.foldl_nil, SenseDescriptor.apply, described,
      lastSome_append_singleton, getD_map_or]

/-! ## Numbers in the buffer -/

section
variable (buf : Memory) (start : Nat)

theorem getUint24_value : (getUint24 buf start).value.toNat =
    ofBe [buf start, buf (start + 1), buf (start + 2)] := by
  simp only [getUint24, byteAt, value_bind, value_touch, value_pure, UInt32.toNat_or, ofBe_cons_or]
  rw [toNat_shiftLeft32 _ (by decide), toNat_shiftLeft32 _ (by decide)]
  simp only [Nat.or_assoc, ofBe_nil, Nat.or_zero, List.length_nil, Nat.mul_zero, Nat.shiftLeft_zero,
    UInt8.toNat_toUInt32]
  rfl

theorem getUint32_value : (getUint32 buf start).value.toNat =
    ofBe [buf start, buf (start + 1), buf (start + 2), buf (start + 3)] := by
  simp only [getUint32, byteAt, value_bind, value_touch, value_pure, UInt32.toNat_or, ofBe_cons_or]
  rw [toNat_shiftLeft32 _ (by decide), toNat_shiftLeft32 _ (by decide),
    toNat_shiftLeft32 _ (by decide)]
  simp only [Nat.or_assoc, ofBe_nil, Nat.or_zero, List.length_nil, Nat.mul_zero, Nat.shiftLeft_zero,
    UInt8.toNat_toUInt32]
  rfl

theorem getUint64_value : (getUint64 buf start).value.toNat =
    ofBe [buf start, buf (start + 1), buf (start + 2), buf (start + 3), buf (start + 4),
      buf (start + 5), buf (start + 6), buf (start + 7)] := by
  simp only [getUint64, byteAt, value_bind, value_touch, value_pure, UInt64.toNat_or, ofBe_cons_or]
  rw [toNat_shiftLeft64 _ (by decide), toNat_shiftLeft64 _ (by decide),
    toNat_shiftLeft64 _ (by decide), toNat_shiftLeft64 _ (by decide),
    toNat_shiftLeft64 _ (by decide), toNat_shiftLeft64 _ (by decide),
    toNat_shiftLeft64 _ (by decide)]
  simp only [Nat.or_assoc, ofBe_nil, Nat.or_zero, List.length_nil, Nat.mul_zero, Nat.shiftLeft_zero,
    UInt8.toNat_toUInt64]
  rfl

/-- Masking leaves the lowest 23 bits. -/
theorem and_maskSenseKeySpecific (key : UInt32) :
    key &&& maskSenseKeySpecific = UInt32.ofNat (key.toNat % 2 ^ 23) := by
  apply UInt32.toNat_inj.mp
  have hlt : key.toNat % 2 ^ 23 < 2 ^ 32 :=
    Nat.lt_trans (Nat.mod_lt _ (by decide)) (by decide)
  rw [UInt32.toNat_and, UInt32.toNat_ofNat_of_lt' hlt]
  exact Nat.and_two_pow_sub_one_eq_mod key.toNat 23

end

/-! ## The walk -/

section
variable {buf : Memory} {n : Nat}

theorem length_descriptorAt (idx : Nat) :
    (descriptorAt buf idx).payload.length = (buf (idx + 1)).toNat := by
  rw [descriptorAt, List.length_map, List.length_range]

theorem descriptorAt_ten {idx : Nat} (h : buf (idx + 1) = additionalLengthTen) :
    (descriptorAt buf idx).payload = [buf (idx + 2), buf (idx + 3), buf (idx + 4), buf (idx + 5),
      buf (idx + 6), buf (idx + 7), buf (idx + 8), buf (idx + 9), buf (idx + 10),
      buf (idx + 11)] := by
  rw [descriptorAt, h]
  rfl

theorem descriptorAt_six {idx : Nat} (h : buf (idx + 1) = additionalLengthSix) :
    (descriptorAt buf idx).payload = [buf (idx + 2), buf (idx + 3), buf (idx + 4), buf (idx + 5),
      buf (idx + 6), buf (idx + 7)] := by
  rw [descriptorAt, h]
  rfl

section
variable {idx : Nat} {info : BasicSenseInfo}

theorem information_descriptorAt (htype : buf idx = descriptorTypeInformation)
    (hlen : buf (idx + 1) = additionalLengthTen) :
    (descriptorAt buf idx).information =
      some (buf (idx + 2) &&& validBit != 0, (getUint64 buf (idx + 4)).value.toNat) := by
  rw [SenseDescriptor.information, descriptorAt_ten hlen, if_pos ⟨htype, rfl⟩, getUint64_value]
  rfl

theorem commandSpecific_descriptorAt
    (htype : buf idx = descriptorTypeCommandSpecificInformation)
    (hlen : buf (idx + 1) = additionalLengthTen) :
    (descriptorAt buf idx).commandSpecific = some (getUint64 buf (idx + 4)).value.toNat := by
  rw [SenseDescriptor.commandSpecific, descriptorAt_ten hlen, if_pos ⟨htype, rfl⟩, getUint64_value]
  rfl

theorem senseKeySpecific_descriptorAt (htype : buf idx = descriptorTypeSenseKeySpecific)
    (hlen : buf (idx + 1) = additionalLengthSix) :
    (descriptorAt buf idx).senseKeySpecific =
      some (buf (idx + 4) &&& validBit != 0, (getUint24 buf (idx + 4)).value.toNat % 2 ^ 23) := by
  rw [SenseDescriptor.senseKeySpecific, descriptorAt_six hlen, if_pos ⟨htype, rfl⟩, getUint24_value]
  rfl

theorem ten_of_length (h : (descriptorAt buf idx).payload.length = 10) :
    buf (idx + 1) = additionalLengthTen := by
  rw [length_descriptorAt] at h
  exact UInt8.toNat_inj.mp h

theorem six_of_length (h : (descriptorAt buf idx).payload.length = 6) :
    buf (idx + 1) = additionalLengthSix := by
  rw [length_descriptorAt] at h
  exact UInt8.toNat_inj.mp h

end

/-- The `switch` does what the descriptor says. -/
theorem parseDescriptor_value (idx : UInt8) (info : BasicSenseInfo) :
    (parseDescriptor buf idx (buf idx.toNat) (buf (idx.toNat + 1)) info).value =
      (descriptorAt buf idx.toNat).apply info := by
  unfold parseDescriptor
  split
  · rename_i htype
    rw [SenseDescriptor.apply_of_information htype]
    split
    · rename_i hlen
      rw [information_descriptorAt htype hlen, Option.elim_some, UInt64.ofNat_toNat]
      rfl
    · rename_i hlen
      rw [SenseDescriptor.information, if_neg fun hd => hlen (ten_of_length hd.2)]
      rfl
  · rename_i hinformation
    split
    · rename_i htype
      rw [SenseDescriptor.apply_of_commandSpecific htype]
      split
      · rename_i hlen
        rw [commandSpecific_descriptorAt htype hlen, Option.elim_some, UInt64.ofNat_toNat]
        rfl
      · rename_i hlen
        rw [SenseDescriptor.commandSpecific, if_neg fun hd => hlen (ten_of_length hd.2)]
        rfl
    · rename_i hcommand
      split
      · rename_i htype
        rw [SenseDescriptor.apply_of_senseKeySpecific htype]
        split
        · rename_i hlen
          rw [senseKeySpecific_descriptorAt htype hlen, Option.elim_some,
            ← and_maskSenseKeySpecific]
          rfl
        · rename_i hlen
          rw [SenseDescriptor.senseKeySpecific, if_neg fun hd => hlen (six_of_length hd.2)]
          rfl
      · rename_i hkey
        rw [SenseDescriptor.apply, SenseDescriptor.information_of_ne hinformation,
          SenseDescriptor.commandSpecific_of_ne hcommand,
          SenseDescriptor.senseKeySpecific_of_ne hkey]
        rfl

/-- A turn at a complete descriptor, and a turn where there is none. -/
theorem walkBody_value {senseDataLen : UInt8} (idx : UInt8) (info : BasicSenseInfo) :
    (walkBody buf senseDataLen (idx, info)).value =
      if idx.toNat + (buf (idx.toNat + 1)).toNat + 2 ≤ senseDataLen.toNat then
        .inl (UInt8.ofNat (idx.toNat + (buf (idx.toNat + 1)).toNat + 2),
          (descriptorAt buf idx.toNat).apply info)
      else
        .inr (scsiPeripheralDdkSuccess, info) := by
  unfold walkBody
  dsimp only
  by_cases hidx : idx < senseDataLen
  · rw [if_pos hidx, value_bind, value_bind]
    by_cases hfits : idx.toNat + (buf (idx.toNat + 1)).toNat + 2 ≤ senseDataLen.toNat
    · rw [if_pos hfits, ← parseDescriptor_value idx info]
      exact congrArg Access.value (if_neg (Nat.not_lt.mpr hfits))
    · rw [if_neg hfits]
      exact congrArg Access.value (if_pos (Nat.not_le.mp hfits))
  · have hle := UInt8.le_iff_toNat_le.mp (UInt8.not_lt.mp hidx)
    rw [if_neg hidx, if_neg (by omega)]
    rfl

/-- The walk applies the descriptors that it comes upon one by one. -/
theorem walk_returns {senseDataLen idx : UInt8} {fuel : Nat}
    (hfuel : senseDataLen.toNat ≤ idx.toNat + fuel) (info : BasicSenseInfo) :
    Loop.Returns (fun s => (walkBody buf senseDataLen s).value) (idx, info)
      (scsiPeripheralDdkSuccess,
        (descriptorsFrom buf senseDataLen.toNat fuel idx.toNat).foldl (fun info d => d.apply info)
          info) := by
  induction fuel generalizing idx info with
  | zero =>
    apply Loop.returns_of_inr
    rw [walkBody_value, if_neg (by omega)]
    rfl
  | succ fuel ih =>
    rw [descriptorsFrom]
    split
    · rename_i hfits
      have hlt := senseDataLen.toNat_lt
      have hidx : (UInt8.ofNat (idx.toNat + (buf (idx.toNat + 1)).toNat + 2)).toNat =
          idx.toNat + (buf (idx.toNat + 1)).toNat + 2 :=
        UInt8.toNat_ofNat_of_lt' (Nat.lt_of_le_of_lt hfits hlt)
      rw [List.foldl_cons, ← hidx]
      apply Loop.Returns.cons
      · exact (walkBody_value idx info).trans (if_pos hfits)
      · exact ih (by omega) _
    · rename_i hfits
      apply Loop.returns_of_inr
      rw [walkBody_value, if_neg hfits]
      rfl

/-- From eight bytes on, sense data in descriptor format is parsed, and gives what its complete
descriptors describe. -/
theorem parseDescriptorFormatSense_value {senseDataLen : UInt8} (hle : 8 ≤ senseDataLen.toNat)
    (info : BasicSenseInfo) :
    (parseDescriptorFormatSense buf senseDataLen info).value =
      (scsiPeripheralDdkSuccess, described (descriptors buf senseDataLen.toNat) info) := by
  have hlen := walkLen_toNat senseDataLen (buf 7)
  have hwalk := @walk_returns buf (walkLen senseDataLen (buf 7)) 8 senseDataLen.toNat
    (by rw [hlen]; omega) info
  rw [hlen, foldl_apply] at hwalk
  have hnot : ¬ senseDataLen < scsiPeripheralMinDescriptorFormatSense :=
    UInt8.not_lt.mpr (UInt8.le_iff_toNat_le.mpr hle)
  rw [parseDescriptorFormatSense, if_neg hnot, value_bind]
  refine (value_of_returns (Loop.run_returns _ ?_)).unique hwalk
  intro t u _ hturn
  obtain ⟨hfits, hnext⟩ := walkBody_inl (value_of_turn hturn)
  rw [byteAt, value_touch] at hfits ⊢
  dsimp only
  omega

theorem parseBasicSenseInfo_descriptors {senseDataLen : UInt8}
    (hcode : buf 0 &&& mastResponseCode = 0x72 ∨ buf 0 &&& mastResponseCode = 0x73)
    (hle : 8 ≤ senseDataLen.toNat) (info : BasicSenseInfo) :
    (parseBasicSenseInfo (some buf) senseDataLen (some info)).value =
      (scsiPeripheralDdkSuccess, some (described (descriptors buf senseDataLen.toNat)
        { info with responseCode := buf 0 &&& mastResponseCode })) := by
  rw [parseBasicSenseInfo, value_bind, byteAt, value_touch]
  dsimp only
  rw [if_neg (not_fixed_of_descriptor hcode), if_pos hcode, value_bind,
    parseDescriptorFormatSense_value hle]
  rfl

end

end ExtDevMgr.Scsi
