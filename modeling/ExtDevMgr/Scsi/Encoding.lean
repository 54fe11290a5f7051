import ExtDevMgr.Scsi.Descriptors

/-!
# Encoded descriptors

Descriptors are written one behind the other, and the sense buffer may end before they do. The walk
comes upon those that are in the buffer in full (`HoldsDescriptors.descriptors_eq`), and reads inside
of it unless it ends between a type and a length byte (`HoldsDescriptors.lengthBytesInside`).
-/

namespace ExtDevMgr.Scsi
open Access Bytes

def encodeAll (ds : List SenseDescriptor) : List UInt8 := ds.flatMap SenseDescriptor.encode

/-- The descriptors that the first `n` bytes of their encoding hold in full. -/
def complete : Nat → List SenseDescriptor → List SenseDescriptor
  | _, [] => []
  | n, d :: ds => if d.encode.length ≤ n then d :: complete (n - d.encode.length) ds else []

/-- From `idx` on stand the given bytes, as far as `n` bytes reach. -/
def Carries (buf : Memory) (n idx : Nat) (bytes : List UInt8) : Prop :=
  ∀ i b, bytes[i]? = some b → idx + i < n → buf (idx + i) = b

/-- The first `n` bytes of sense data in descriptor format, with a header that has the length of the
descriptors. -/
structure HoldsDescriptors (buf : Memory) (n : Nat) (ds : List SenseDescriptor) : Prop where
  responseCode : buf 0 &&& mastResponseCode = 0x72 ∨ buf 0 &&& mastResponseCode = 0x73
  additionalLength : (buf 7).toNat = (encodeAll ds).length
  carries : Carries buf n 8 (encodeAll ds)

/-- No descriptor is cut behind its type byte. -/
def NoLoneType (n : Nat) (ds : List SenseDescriptor) : Prop :=
  ∀ k < ds.length, n ≠ 8 + (encodeAll (ds.take k)).length + 1

@[simp] theorem SenseDescriptor.length_encode (d : SenseDescriptor) :
    d.encode.length = d.payload.length + 2 := rfl

@[simp] theorem encodeAll_nil : encodeAll [] = [] := rfl

@[simp] theorem encodeAll_cons (d : SenseDescriptor) (ds : List SenseDescriptor) :
    encodeAll (d :: ds) = d.encode ++ encodeAll ds := rfl

@[simp] theorem encodeAll_append (ds ds' : List SenseDescriptor) :
    encodeAll (ds ++ ds') = encodeAll ds ++ encodeAll ds' := List.flatMap_append

theorem noLoneType_of_covers {n : Nat} {ds : List SenseDescriptor}
    (h : 8 + (encodeAll ds).length ≤ n) : NoLoneType n ds := by
  intro k hk heq
  have hsplit : encodeAll ds = encodeAll (ds.take k) ++ encodeAll (ds.drop k) := by
    rw [← encodeAll_append, List.take_append_drop]
  rw [hsplit, List.drop_eq_getElem_cons hk, encodeAll_cons, List.length_append, List.length_append,
    SenseDescriptor.length_encode] at h
  omega

/-! ## Bytes in the buffer -/

section
variable {buf : Memory} {n idx : Nat} {bytes bytes' : List UInt8} {b : UInt8}

theorem Carries.head (h : Carries buf n idx (b :: bytes)) (hidx : idx < n) : buf idx = b :=
  h 0 b rfl hidx

theorem Carries.tail (h : Carries buf n idx (b :: bytes)) : Carries buf n (idx + 1) bytes := by
  intro i c hi hlt
  have heq : idx + 1 + i = idx + (i + 1) := by omega
  rw [heq] at hlt ⊢
  exact h (i + 1) c hi hlt

theorem Carries.append_left (h : Carries buf n idx (bytes ++ bytes')) : Carries buf n idx bytes := by
  intro i c hi hlt
  obtain ⟨hlen, -⟩ := List.getElem?_eq_some_iff.mp hi
  exact h i c ((List.getElem?_append_left hlen).trans hi) hlt

theorem Carries.append_right (h : Carries buf n idx (bytes ++ bytes')) :
    Carries buf n (idx + bytes.length) bytes' := by
  induction bytes generalizing idx with
  | nil => exact h
  | cons b bytes ih =>
    have htail := ih h.tail
    rwa [Nat.add_assoc, Nat.add_comm 1] at htail

theorem Carries.map_range (h : Carries buf n idx bytes) (hle : idx + bytes.length ≤ n) :
    ((List.range bytes.length).map fun i => buf (idx + i)) = bytes := by
  apply List.ext_getElem
  · rw [List.length_map, List.length_range]
  · intro i _ hi
    rw [List.getElem_map, List.getElem_range]
    exact h i _ (List.getElem?_eq_getElem hi) (by omega)

section
variable {d : SenseDescriptor} (h : Carries buf n idx d.encode) (hlen : d.payload.length < 256)
include h hlen

/-- The length byte of a descriptor, if the buffer has it. -/
theorem Carries.lengthByte (hidx : idx + 1 < n) : (buf (idx + 1)).toNat = d.payload.length := by
  rw [h.tail.head hidx]
  exact UInt8.toNat_ofNat_of_lt' hlen

theorem Carries.descriptorAt_eq (hle : idx + d.encode.length ≤ n) : descriptorAt buf idx = d := by
  rw [SenseDescriptor.length_encode] at hle
  have htype := h.head (by omega)
  have hpayload := h.tail.tail.map_range (by omega)
  rw [descriptorAt, h.lengthByte hlen (by omega), htype, hpayload]

end
end

/-! ## The descriptors that are there -/

section
variable {buf : Memory} {n idx : Nat} {ds : List SenseDescriptor}

theorem descriptorsFrom_eq_complete {fuel : Nat} (hcarries : Carries buf n idx (encodeAll ds))
    (hlen : (encodeAll ds).length < 256) (hfuel : n ≤ idx + fuel) :
    descriptorsFrom buf (min n (idx + (encodeAll ds).length)) fuel idx = complete (n - idx) ds := by
  induction ds generalizing idx fuel with
  | nil =>
    cases fuel with
    | zero => rfl
    | succ fuel =>
      rw [encodeAll_nil, List.length_nil, descriptorsFrom, if_neg (by omega), complete]
  | cons d ds ih =>
    rw [encodeAll_cons] at hcarries hlen ⊢
    rw [List.length_append, SenseDescriptor.length_encode] at hlen ⊢
    rw [complete, SenseDescriptor.length_encode]
    have hdesc := hcarries.append_left
    have hpayload : d.payload.length < 256 := by omega
    cases fuel with
    | zero => rw [descriptorsFrom, if_neg (by omega)]
    | succ fuel =>
      rw [descriptorsFrom]
      by_cases hfits : d.payload.length + 2 ≤ n - idx
      · have hrest : Carries buf n (idx + d.payload.length + 2) (encodeAll ds) :=
          hcarries.append_right
        have hbound : idx + (d.payload.length + 2 + (encodeAll ds).length) =
          idx + d.payload.length + 2 + (encodeAll ds).length := by omega
        rw [hdesc.lengthByte hpayload (by omega), if_pos hfits, if_pos (by omega),
          hdesc.descriptorAt_eq hpayload (by rw [SenseDescriptor.length_encode]; omega), hbound,
          Nat.sub_sub, ← Nat.add_assoc,
          ih hrest (by omega) (by omega)]
      · rw [if_neg hfits, if_neg]
        intro hend
        -- The length byte is in the buffer, so that the whole descriptor would be.
        rw [hdesc.lengthByte hpayload (by omega)] at hend
        omega

theorem HoldsDescriptors.descriptors_eq (h : HoldsDescriptors buf n ds) :
    descriptors buf n = complete (n - 8) ds := by
  have hlen : (encodeAll ds).length < 256 := h.additionalLength ▸ (buf 7).toNat_lt
  rw [descriptors, h.additionalLength, Nat.add_comm _ 8]
  exact descriptorsFrom_eq_complete h.carries hlen (by omega)

/-- Where the walk starts a turn, one of the descriptors starts, or the last has ended. -/
theorem HoldsDescriptors.exists_append (h : HoldsDescriptors buf n ds)
    (hstart : DescriptorStart buf (min n ((buf 7).toNat + 8)) idx) :
    ∃ front back, ds = front ++ back ∧ idx = 8 + (encodeAll front).length := by
  have hlen : (encodeAll ds).length < 256 := h.additionalLength ▸ (buf 7).toNat_lt
  rw [h.additionalLength] at hstart
  induction hstart with
  | first => exact ⟨[], ds, rfl, rfl⟩
  | @next idx _ hle ih =>
    obtain ⟨front, back, rfl, rfl⟩ := ih
    have hrest := h.carries
    rw [encodeAll_append] at hrest hle hlen
    rw [List.length_append] at hle hlen
    cases back with
    | nil =>
      rw [encodeAll_nil, List.length_nil] at hle
      omega
    | cons d back =>
      rw [encodeAll_cons, List.length_append, SenseDescriptor.length_encode] at hlen
      have hdesc := hrest.append_right.append_left
      refine ⟨front ++ [d], back, by rw [List.append_assoc, List.singleton_append], ?_⟩
      rw [hdesc.lengthByte (by omega) (by omega), encodeAll_append, List.length_append,
        encodeAll_cons, encodeAll_nil, List.append_nil, SenseDescriptor.length_encode]
      omega

theorem HoldsDescriptors.lengthBytesInside (h : HoldsDescriptors buf n ds)
    (hcut : NoLoneType n ds) : LengthBytesInside buf n := by
  intro idx hstart hidx
  obtain ⟨front, back, rfl, rfl⟩ := h.exists_append hstart
  rw [h.additionalLength] at hidx
  cases back with
  | nil =>
    rw [List.append_nil] at hidx
    omega
  | cons d back =>
    have hne := hcut front.length (by rw [List.length_append, List.length_cons]; omega)
    rw [List.take_left] at hne
    omega

theorem HoldsDescriptors.parseBasicSenseInfo_spec {senseDataLen : UInt8}
    (h : HoldsDescriptors buf senseDataLen.toNat ds) (hle : 8 ≤ senseDataLen.toNat)
    (hcut : NoLoneType senseDataLen.toNat ds) (info : BasicSenseInfo) :
    (parseBasicSenseInfo (some buf) senseDataLen (some info)).Spec (· < senseDataLen.toNat)
      (· = (scsiPeripheralDdkSuccess,
        some (described (complete (senseDataLen.toNat - 8) ds)
          { info with responseCode := buf 0 &&& mastResponseCode }))) := by
  constructor
  · rw [parseBasicSenseInfo_within_iff]
    exact ⟨by omega, fun _ _ => h.lengthBytesInside hcut⟩
  · rw [parseBasicSenseInfo_descriptors h.responseCode hle, h.descriptors_eq]

theorem complete_of_le (h : (encodeAll ds).length ≤ n) : complete n ds = ds := by
  induction ds generalizing n with
  | nil => rfl
  | cons d ds ih =>
    rw [encodeAll_cons, List.length_append] at h
    rw [complete, if_pos (by omega), ih (by omega)]

theorem Carries.memoryOf {front bytes : List UInt8} (h : front.length = idx) :
    Carries (memoryOf (front ++ bytes)) n idx bytes := by
  intro i b hi _
  rw [Scsi.memoryOf, List.getD_eq_getElem?_getD, List.getElem?_append_right (by omega), h,
    Nat.add_sub_cancel_left, hi, Option.getD_some]

end

/-- Sense data in descriptor format is parsed whatever descriptors it has and wherever it ends, unless
a type byte stands alone; the fields are those of the last complete descriptor of their kind. -/
theorem parseBasicSenseInfo_complete {buf : Memory} {senseDataLen : UInt8}
    {ds : List SenseDescriptor} (h : HoldsDescriptors buf senseDataLen.toNat ds)
    (hle : 8 ≤ senseDataLen.toNat)
    (hcut : 8 + (encodeAll ds).length ≤ senseDataLen.toNat ∨ NoLoneType senseDataLen.toNat ds)
    (info : BasicSenseInfo) :
    Loop.Terminates (fun s => (walkBody buf (walkLen senseDataLen (buf 7)) s).value)
        (8, { info with responseCode := buf 0 &&& mastResponseCode }) ∧
      (parseBasicSenseInfo (some buf) senseDataLen (some info)).Spec (· < senseDataLen.toNat)
        (· = (scsiPeripheralDdkSuccess,
          some (described (complete (senseDataLen.toNat - 8) ds)
            { info with responseCode := buf 0 &&& mastResponseCode }))) := by
  have hwhole : NoLoneType senseDataLen.toNat ds := hcut.elim noLoneType_of_covers id
  have hlen := walkLen_toNat senseDataLen (buf 7)
  refine ⟨⟨_, @walk_returns _ _ 8 senseDataLen.toNat ?_ _⟩,
    h.parseBasicSenseInfo_spec hle hwhole info⟩
  rw [hlen]
  omega

/-- A vendor's descriptor, an information descriptor, one of a wrong length, a sense key specific
descriptor and a command-specific one. -/
def mixedDescriptors : List SenseDescriptor :=
  [⟨0x80, [1, 2]⟩, ⟨0, [0x80, 0, 0, 0, 0, 0, 0, 0, 1, 2]⟩, ⟨0, [3, 4]⟩, ⟨2, [0, 0, 0xFF, 0, 7, 0]⟩,
    ⟨1, [0, 0, 0, 0, 0, 0, 0, 0, 0, 9]⟩]

/-- The last descriptor is cut. -/
theorem parseBasicSenseInfo_complete_mixed :
    (parseBasicSenseInfo (some (memoryOf ([0x72, 0, 0, 0, 0, 0, 0, 40] ++ encodeAll
        mixedDescriptors))) 40 (some ⟨0, false, 0, 0, false, 0⟩)).Spec (· < 40)
      (· = (scsiPeripheralDdkSuccess, some ⟨0x72, true, 0x102, 0, true, 0x7F0007⟩)) := by
  have hholds : HoldsDescriptors (memoryOf ([0x72, 0, 0, 0, 0, 0, 0, 40] ++ encodeAll
      mixedDescriptors)) (40 : UInt8).toNat mixedDescriptors :=
    ⟨.inl rfl, rfl, .memoryOf rfl⟩
  have hcut : NoLoneType (40 : UInt8).toNat mixedDescriptors := by
    unfold NoLoneType
    decide
  obtain ⟨-, hspec⟩ := parseBasicSenseInfo_complete hholds (by decide) (.inr hcut)
    ⟨0, false, 0, 0, false, 0⟩
  exact hspec.mono fun result hresult => hresult.trans (by decide)

end ExtDevMgr.Scsi
