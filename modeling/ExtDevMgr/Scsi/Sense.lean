import ExtDevMgr.Base.Access
import ExtDevMgr.Scsi.MemMap

/-!
# Sense data

`OH_ScsiPeripheral_ParseBasicSenseInfo` with the offsets that it reads. The sense buffer is the memory
from `senseData` on; its real length is `senseDataLen`, so that an offset from there on is outside.
-/

namespace ExtDevMgr.Scsi
open Access

abbrev scsiPeripheralMinDescriptorFormatSense : UInt8 := 8
abbrev scsiPeripheralMinFixedFormatSense : UInt8 := 18

abbrev descriptorTypeInformation : UInt8 := 0x00
abbrev descriptorTypeCommandSpecificInformation : UInt8 := 0x01
abbrev descriptorTypeSenseKeySpecific : UInt8 := 0x02
abbrev additionalLengthTen : UInt8 := 0x0A
abbrev additionalLengthSix : UInt8 := 0x06
abbrev validBit : UInt8 := 0x80
abbrev mastResponseCode : UInt8 := 0x7F
abbrev maskSenseKeySpecific : UInt32 := 0x007FFFFF

structure BasicSenseInfo where
  responseCode : UInt8
  valid : Bool
  information : UInt64
  commandSpecific : UInt64
  sksv : Bool
  senseKeySpecific : UInt32
  deriving DecidableEq

/-! ## Parsing -/

/-- `buf[i]`. -/
def byteAt (buf : Memory) (i : Nat) : Access Nat UInt8 := touch i (buf i)

def getUint24 (buf : Memory) (start : Nat) : Access Nat UInt32 := do
  let b0 ← byteAt buf start
  let b1 ← byteAt buf (start + 1)
  let b2 ← byteAt buf (start + 2)
  return (b0.toUInt32 <<< 16) ||| (b1.toUInt32 <<< 8) ||| b2.toUInt32

def getUint32 (buf : Memory) (start : Nat) : Access Nat UInt32 := do
  let b0 ← byteAt buf start
  let b1 ← byteAt buf (start + 1)
  let b2 ← byteAt buf (start + 2)
  let b3 ← byteAt buf (start + 3)
  return (b0.toUInt32 <<< 24) ||| (b1.toUInt32 <<< 16) ||| (b2.toUInt32 <<< 8) ||| b3.toUInt32

def getUint64 (buf : Memory) (start : Nat) : Access Nat UInt64 := do
  let b0 ← byteAt buf start
  let b1 ← byteAt buf (start + 1)
  let b2 ← byteAt buf (start + 2)
  let b3 ← byteAt buf (start + 3)
  let b4 ← byteAt buf (start + 4)
  let b5 ← byteAt buf (start + 5)
  let b6 ← byteAt buf (start + 6)
  let b7 ← byteAt buf (start + 7)
  return (b0.toUInt64 <<< 56) ||| (b1.toUInt64 <<< 48) ||| (b2.toUInt64 <<< 40) |||
    (b3.toUInt64 <<< 32) ||| (b4.toUInt64 <<< 24) ||| (b5.toUInt64 <<< 16) |||
    (b6.toUInt64 <<< 8) ||| b7.toUInt64

/-- The `switch` over the type of the descriptor at `idx`. -/
def parseDescriptor (senseData : Memory) (idx descType descLen : UInt8)
    (senseInfo : BasicSenseInfo) : Access Nat BasicSenseInfo :=
  if descType = descriptorTypeInformation then
    if descLen = additionalLengthTen then do
      let flags ← byteAt senseData (idx.toNat + 2)
      let information ← getUint64 senseData (idx.toNat + 4)
      return { senseInfo with valid := flags &&& validBit != 0, information }
    else
      return senseInfo
  else if descType = descriptorTypeCommandSpecificInformation then
    if descLen = additionalLengthTen then do
      let commandSpecific ← getUint64 senseData (idx.toNat + 4)
      return { senseInfo with commandSpecific }
    else
      return senseInfo
  else if descType = descriptorTypeSenseKeySpecific then
    if descLen = additionalLengthSix then do
      let flags ← byteAt senseData (idx.toNat + 4)
      let key ← getUint24 senseData (idx.toNat + 4)
      return { senseInfo with
        sksv := flags &&& validBit != 0, senseKeySpecific := key &&& maskSenseKeySpecific }
    else
      return senseInfo
  else
    return senseInfo

/-- One turn of the walk over the descriptors. The index is an 8-bit counter. -/
def walkBody (senseData : Memory) (senseDataLen : UInt8) (s : UInt8 × BasicSenseInfo) :
    Access Nat ((UInt8 × BasicSenseInfo) ⊕ (Int × BasicSenseInfo)) :=
  let (idx, senseInfo) := s
  if idx < senseDataLen then do
    let descType ← byteAt senseData idx.toNat
    let descLen ← byteAt senseData (idx.toNat + 1)
    if idx.toNat + descLen.toNat + 2 > senseDataLen.toNat then
      return .inr (scsiPeripheralDdkSuccess, senseInfo)
    else
      let senseInfo ← parseDescriptor senseData idx descType descLen senseInfo
      return .inl (UInt8.ofNat (idx.toNat + descLen.toNat + 2), senseInfo)
  else
    return .inr (scsiPeripheralDdkSuccess, senseInfo)

/-- The bound of the walk. -/
def walkLen (senseDataLen additionalSenseLen : UInt8) : UInt8 :=
  if senseDataLen.toNat > additionalSenseLen.toNat + 8 then additionalSenseLen + 8 else senseDataLen

def parseDescriptorFormatSense (senseData : Memory) (senseDataLen : UInt8)
    (senseInfo : BasicSenseInfo) : Access Nat (Int × BasicSenseInfo) :=
  if senseDataLen < scsiPeripheralMinDescriptorFormatSense then
    return (scsiPeripheralDdkInvalidParameter, senseInfo)
  else do
    let additionalSenseLen ← byteAt senseData 7
    let senseDataLen := walkLen senseDataLen additionalSenseLen
    loop (walkBody senseData senseDataLen) (fun s => senseDataLen.toNat - s.1.toNat)
      (scsiPeripheralDdkSuccess, senseInfo) (8, senseInfo)

/-- The information of the fixed format, which is read where it is valid. -/
def fixedInformation (senseData : Memory) (valid : Bool) (information : UInt64) :
    Access Nat UInt64 :=
  if valid then do
    let information ← getUint32 senseData 3
    return information.toUInt64
  else
    return information

def parseFixedFormatSense (senseData : Memory) (senseDataLen : UInt8) (senseInfo : BasicSenseInfo) :
    Access Nat (Int × BasicSenseInfo) :=
  if senseDataLen < scsiPeripheralMinFixedFormatSense then
    return (scsiPeripheralDdkInvalidParameter, senseInfo)
  else do
    let flags ← byteAt senseData 0
    let valid := flags &&& validBit != 0
    let information ← fixedInformation senseData valid senseInfo.information
    let commandSpecific ← getUint32 senseData 8
    let keyFlags ← byteAt senseData 15
    let key ← getUint24 senseData 15
    return (scsiPeripheralDdkSuccess,
      { senseInfo with
        valid, information, commandSpecific := commandSpecific.toUInt64
        sksv := keyFlags &&& validBit != 0, senseKeySpecific := key &&& maskSenseKeySpecific })

/-- `OH_ScsiPeripheral_ParseBasicSenseInfo`; a null pointer is `none`. -/
def parseBasicSenseInfo (senseData : Option Memory) (senseDataLen : UInt8)
    (senseInfo : Option BasicSenseInfo) : Access Nat (Int × Option BasicSenseInfo) :=
  match senseData, senseInfo with
  | some senseData, some senseInfo => do
    let b0 ← byteAt senseData 0
    let responseCode := b0 &&& mastResponseCode
    let senseInfo := { senseInfo with responseCode }
    if responseCode = 0x70 ∨ responseCode = 0x71 then
      let (ret, senseInfo) ← parseFixedFormatSense senseData senseDataLen senseInfo
      return (ret, some senseInfo)
    else if responseCode = 0x72 ∨ responseCode = 0x73 then
      let (ret, senseInfo) ← parseDescriptorFormatSense senseData senseDataLen senseInfo
      return (ret, some senseInfo)
    else
      return (scsiPeripheralDdkInvalidParameter, some senseInfo)
  | _, senseInfo => return (scsiPeripheralDdkInvalidParameter, senseInfo)

/-! ## The offsets that are read -/

section
variable {buf : Memory} {n start : Nat}

theorem getUint24_within (h : start + 3 ≤ n) : (getUint24 buf start).Within (· < n) := by
  simp only [getUint24, byteAt, within_bind, within_touch, within_pure, and_true]
  omega

theorem getUint32_within (h : start + 4 ≤ n) : (getUint32 buf start).Within (· < n) := by
  simp only [getUint32, byteAt, within_bind, within_touch, within_pure, and_true]
  omega

theorem getUint64_within (h : start + 8 ≤ n) : (getUint64 buf start).Within (· < n) := by
  simp only [getUint64, byteAt, within_bind, within_touch, within_pure, and_true]
  omega

end

variable {senseData : Memory} {n : Nat}

/-- A descriptor that fits is read inside itself. -/
theorem parseDescriptor_within {idx descType descLen : UInt8} {senseInfo : BasicSenseInfo}
    (h : idx.toNat + descLen.toNat + 2 ≤ n) :
    (parseDescriptor senseData idx descType descLen senseInfo).Within (· < n) := by
  unfold parseDescriptor
  split
  · split
    case isTrue hlen =>
      subst hlen
      have hle : idx.toNat + 10 + 2 ≤ n := h
      rw [within_bind, within_bind, byteAt, within_touch]
      exact ⟨by omega, getUint64_within (by omega), within_pure _⟩
    case isFalse => exact within_pure _
  · split
    · split
      case isTrue hlen =>
        subst hlen
        have hle : idx.toNat + 10 + 2 ≤ n := h
        rw [within_bind]
        exact ⟨getUint64_within (by omega), within_pure _⟩
      case isFalse => exact within_pure _
    · split
      · split
        case isTrue hlen =>
          subst hlen
          have hle : idx.toNat + 6 + 2 ≤ n := h
          rw [within_bind, within_bind, byteAt, within_touch]
          exact ⟨by omega, getUint24_within (by omega), within_pure _⟩
        case isFalse => exact within_pure _
      · exact within_pure _

/-- A turn reads the type and the length byte of its descriptor, and the descriptor if it fits. -/
theorem walkBody_within {senseDataLen : UInt8} (hn : senseDataLen.toNat ≤ n)
    (s : UInt8 × BasicSenseInfo) :
    (walkBody senseData senseDataLen s).Within (· < n) ↔
      (s.1 < senseDataLen → s.1.toNat + 1 < n) := by
  unfold walkBody
  dsimp only
  split
  case isTrue hidx =>
    rw [within_bind, within_bind, byteAt, byteAt, within_touch, within_touch, forall_prop_of_true hidx]
    constructor
    · rintro ⟨-, hlen, -⟩
      exact hlen
    · intro hlen
      refine ⟨by omega, hlen, ?_⟩
      split
      · exact within_pure _
      · rw [within_bind]
        exact ⟨parseDescriptor_within (by omega), within_pure _⟩
  case isFalse hidx => exact iff_of_true (within_pure _) fun h => absurd h hidx

theorem walkBody_inl {senseDataLen : UInt8} {s t : UInt8 × BasicSenseInfo}
    (h : (walkBody senseData senseDataLen s).value = .inl t) :
    s.1.toNat + (senseData (s.1.toNat + 1)).toNat + 2 ≤ senseDataLen.toNat ∧
      t.1.toNat = s.1.toNat + (senseData (s.1.toNat + 1)).toNat + 2 := by
  unfold walkBody at h
  dsimp only at h
  split at h
  · rw [value_bind, value_bind] at h
    split at h
    case isTrue => cases h
    case isFalse hfits =>
      have hfits : ¬s.1.toNat + (senseData (s.1.toNat + 1)).toNat + 2 > senseDataLen.toNat := hfits
      have hbound := senseDataLen.toNat_lt
      cases h
      refine ⟨Nat.not_lt.mp hfits, ?_⟩
      change (UInt8.ofNat (s.1.toNat + (senseData (s.1.toNat + 1)).toNat + 2)).toNat = _
      rw [UInt8.toNat_ofNat']
      omega
  · cases h

theorem walkBody_fits {senseDataLen : UInt8} {s : UInt8 × BasicSenseInfo}
    (h : s.1.toNat + (senseData (s.1.toNat + 1)).toNat + 2 ≤ senseDataLen.toNat) :
    ∃ t, (walkBody senseData senseDataLen s).value = .inl t := by
  have hidx : s.1 < senseDataLen := UInt8.lt_iff_toNat_lt.mpr (by omega)
  unfold walkBody
  dsimp only
  have hfits : ¬s.1.toNat + (byteAt senseData (s.1.toNat + 1)).value.toNat + 2 >
      senseDataLen.toNat := Nat.not_lt.mpr h
  rw [if_pos hidx, value_bind, value_bind, if_neg hfits]
  exact ⟨_, rfl⟩

/-! ## Where the descriptors start -/

/-- The offsets at which descriptors start, one behind the other, as long as they end by `bound`. -/
inductive DescriptorStart (senseData : Memory) (bound : Nat) : Nat → Prop
  | first : DescriptorStart senseData bound 8
  | next {idx : Nat} : DescriptorStart senseData bound idx →
      idx + (senseData (idx + 1)).toNat + 2 ≤ bound →
      DescriptorStart senseData bound (idx + (senseData (idx + 1)).toNat + 2)

theorem descriptorStart_of_reaches {senseDataLen : UInt8} {senseInfo : BasicSenseInfo}
    {t : UInt8 × BasicSenseInfo}
    (h : Loop.Reaches (fun s => (walkBody senseData senseDataLen s).value) (8, senseInfo) t) :
    DescriptorStart senseData senseDataLen.toNat t.1.toNat := by
  apply h.invariant (P := fun t => DescriptorStart senseData senseDataLen.toNat t.1.toNat)
  · intro t u ht hturn
    obtain ⟨hle, heq⟩ := walkBody_inl hturn
    rw [heq]
    exact .next ht hle
  · exact .first

theorem reaches_of_descriptorStart {senseDataLen : UInt8} (senseInfo : BasicSenseInfo) {idx : Nat}
    (h : DescriptorStart senseData senseDataLen.toNat idx) :
    ∃ t, Loop.Reaches (fun s => (walkBody senseData senseDataLen s).value) (8, senseInfo) t ∧
      t.1.toNat = idx := by
  induction h with
  | first => exact ⟨(8, senseInfo), .refl, rfl⟩
  | next _ hle ih =>
    obtain ⟨t, hreach, rfl⟩ := ih
    obtain ⟨u, hu⟩ := walkBody_fits hle
    exact ⟨u, hreach.tail hu, (walkBody_inl hu).2⟩

/-- Every descriptor that starts before the additional sense length ends has its length byte in the
buffer. -/
def LengthBytesInside (senseData : Memory) (senseDataLen : Nat) : Prop :=
  ∀ idx, DescriptorStart senseData (min senseDataLen ((senseData 7).toNat + 8)) idx →
    idx < min senseDataLen ((senseData 7).toNat + 8) → idx + 1 < senseDataLen

theorem walkLen_toNat (senseDataLen additionalSenseLen : UInt8) :
    (walkLen senseDataLen additionalSenseLen).toNat =
      min senseDataLen.toNat (additionalSenseLen.toNat + 8) := by
  have hlt := senseDataLen.toNat_lt
  unfold walkLen
  split
  · rw [UInt8.toNat_add]
    change (_ + 8) % 256 = _
    omega
  · omega

theorem parseDescriptorFormatSense_within {senseDataLen : UInt8} (senseInfo : BasicSenseInfo) :
    (parseDescriptorFormatSense senseData senseDataLen senseInfo).Within (· < senseDataLen.toNat) ↔
      (8 ≤ senseDataLen.toNat → LengthBytesInside senseData senseDataLen.toNat) := by
  unfold parseDescriptorFormatSense
  split
  case isTrue hlt =>
    rw [UInt8.lt_iff_toNat_lt] at hlt
    exact iff_of_true (within_pure _) fun hle => absurd hlt (Nat.not_lt.mpr hle)
  case isFalse hle =>
    rw [UInt8.lt_iff_toNat_lt] at hle
    have hle : 8 ≤ senseDataLen.toNat := Nat.not_lt.mp hle
    have hlen := walkLen_toNat senseDataLen (senseData 7)
    rw [within_bind, byteAt, within_touch, value_touch, and_iff_right (by omega),
      forall_prop_of_true hle, within_loop]
    · constructor
      · intro hwithin idx hstart hidx
        rw [← hlen] at hstart hidx
        obtain ⟨t, hreach, rfl⟩ := reaches_of_descriptorStart senseInfo hstart
        exact (walkBody_within (by omega) t).mp (hwithin t hreach) (UInt8.lt_iff_toNat_lt.mpr hidx)
      · intro hinside t hreach
        apply (walkBody_within (by omega) t).mpr
        intro hidx
        have hstart := descriptorStart_of_reaches hreach
        rw [hlen] at hstart
        apply hinside _ hstart
        rw [← hlen]
        exact UInt8.lt_iff_toNat_lt.mp hidx
    · intro t u hturn
      obtain ⟨hle', heq⟩ := walkBody_inl hturn
      omega

theorem fixedInformation_within (valid : Bool) (information : UInt64) (h : 7 ≤ n) :
    (fixedInformation senseData valid information).Within (· < n) := by
  unfold fixedInformation
  split
  · rw [within_bind]
    exact ⟨getUint32_within h, within_pure _⟩
  · exact within_pure _

theorem parseFixedFormatSense_within {senseDataLen : UInt8} (senseInfo : BasicSenseInfo) :
    (parseFixedFormatSense senseData senseDataLen senseInfo).Within (· < senseDataLen.toNat) := by
  unfold parseFixedFormatSense
  split
  case isTrue => exact within_pure _
  case isFalse hle =>
    rw [UInt8.lt_iff_toNat_lt] at hle
    have hle : 18 ≤ senseDataLen.toNat := Nat.not_lt.mp hle
    rw [within_bind, within_bind, within_bind, within_bind, within_bind, byteAt, byteAt, within_touch,
      within_touch]
    exact ⟨by omega, fixedInformation_within _ _ (by omega), getUint32_within (by omega), by omega,
      getUint24_within (by omega), within_pure _⟩

theorem not_fixed_of_descriptor {responseCode : UInt8}
    (h : responseCode = 0x72 ∨ responseCode = 0x73) :
    ¬ (responseCode = 0x70 ∨ responseCode = 0x71) := by
  rcases h with rfl | rfl
  · decide
  · decide

/-- The parser reads inside the buffer exactly when the buffer has a byte and, in the descriptor
format, every descriptor in it has its length byte in it. -/
theorem parseBasicSenseInfo_within_iff (senseData : Memory) (senseDataLen : UInt8)
    (senseInfo : BasicSenseInfo) :
    (parseBasicSenseInfo (some senseData) senseDataLen (some senseInfo)).Within
        (· < senseDataLen.toNat) ↔
      0 < senseDataLen.toNat ∧
        (senseData 0 &&& mastResponseCode = 0x72 ∨ senseData 0 &&& mastResponseCode = 0x73 →
          8 ≤ senseDataLen.toNat → LengthBytesInside senseData senseDataLen.toNat) := by
  rw [parseBasicSenseInfo, within_bind, byteAt, within_touch]
  refine and_congr_right fun _ => ?_
  rw [value_touch]
  dsimp only
  split
  case isTrue hfixed =>
    refine iff_of_true ?_ ?_
    · rw [within_bind]
      exact ⟨parseFixedFormatSense_within _, within_pure _⟩
    · exact fun hdescriptor => absurd hfixed (not_fixed_of_descriptor hdescriptor)
  case isFalse =>
    split
    case isTrue hdescriptor =>
      rw [within_bind, forall_prop_of_true hdescriptor, parseDescriptorFormatSense_within]
      exact and_iff_left (within_pure _)
    case isFalse hother => exact iff_of_true (within_pure _) fun h => absurd h hother

/-- The bytes of a buffer, and zeros behind it. -/
def memoryOf (bytes : List UInt8) : Memory := fun i => bytes.getD i 0

/-- A descriptor that starts with the last byte of the buffer. -/
theorem not_forall_within :
    ¬∀ (senseData : Memory) (senseDataLen : UInt8) (senseInfo : BasicSenseInfo),
      (parseBasicSenseInfo (some senseData) senseDataLen (some senseInfo)).Within
        (· < senseDataLen.toNat) := by
  intro h
  have hwithin := h (memoryOf [0x72, 0, 0, 0, 0, 0, 0, 1, 0]) 9 ⟨0, false, 0, 0, false, 0⟩
  exact absurd (hwithin 9 (by decide)) (by decide)

end ExtDevMgr.Scsi
