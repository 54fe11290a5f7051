import Mathlib.Algebra.Group.Int.Defs
import Mathlib.Algebra.Group.Nat.Defs
import Mathlib.Data.List.GetD
import ExtDevMgr.Base.Loop

/-!
# USB descriptors

The packed descriptor structures of `usb_ddk_types.h`, the owning structures that the parser builds
from them, and the functions of `usb_config_desc_parser.cpp` that copy one descriptor. A pointer
member is an `Option`: `none` is the null pointer, `some` the array it owns.
-/

namespace ExtDevMgr.Usb

@[simp] abbrev usbDdkSuccess : Int := 0
@[simp] abbrev usbDdkInvalidParameter : Int := 401
@[simp] abbrev usbDdkMemoryError : Int := 27400001
@[simp] abbrev usbDdkInvalidOperation : Int := 27400002

@[simp] abbrev usbMaxEndpoints : Nat := 32
@[simp] abbrev usbMaxAltSetting : Nat := 128
@[simp] abbrev usbMaxInterfaces : Nat := 32
@[simp] abbrev descHeaderLength : Int := 2
@[simp] abbrev usbDdkDtConfigSize : Int := 9
@[simp] abbrev usbDdkDtInterfaceSize : Int := 9
@[simp] abbrev usbDdkDtEndpointSize : Int := 7
@[simp] abbrev usbDdkDtConfig : UInt8 := 2
@[simp] abbrev usbDdkDtInterface : UInt8 := 4
@[simp] abbrev usbDdkDtEndpoint : UInt8 := 5
@[simp] abbrev int32Max : Int := 2147483647

/-- The conversion to `int32_t`, of a `size_t` or of a pointer difference. -/
def toInt32 (n : Int) : Int := n.bmod (2 ^ 32)

theorem toInt32_of_bounds {n : Int} (hlo : -2 ^ 31 ≤ n) (hhi : n < 2 ^ 31) : toInt32 n = n :=
  Int.bmod_eq_of_le (by omega) (by omega)

theorem toInt32_lt (n : Int) : toInt32 n < 2 ^ 31 :=
  Int.bmod_lt (by decide)

theorem toInt32_ne_zero {n : Int} (hpos : 0 < n) (hlt : n < 2 ^ 32) : toInt32 n ≠ 0 := by
  intro h
  have hdvd := Int.dvd_of_bmod_eq_zero h
  omega

theorem toInt32_of_nonneg {n : Int} (hn : 0 ≤ n) (hlt : n < 2 ^ 32) (h : 0 ≤ toInt32 n) :
    toInt32 n = n := by
  rw [toInt32, Int.bmod_def] at h ⊢
  have hmod : n % ((2 ^ 32 : Nat) : Int) = n := Int.emod_eq_of_lt hn hlt
  rw [hmod] at h ⊢
  split at h
  · rename_i hhalf
    rw [if_pos hhalf]
  · omega

@[simp] theorem toInt32_zero : toInt32 0 = 0 := toInt32_of_bounds (by decide) (by decide)

attribute [irreducible] toInt32

/-- Whether `memcpy_s` copies: the destination size is positive and at most `SECUREC_MEM_MAX_LEN`,
and the count fits it. Otherwise it returns an error. -/
def memcpyS (destMax count : Nat) : Bool :=
  decide (0 < destMax) && decide (destMax ≤ 0x7fffffff) && decide (count ≤ destMax)

/-- The byte at an offset from a cursor. -/
def byteAt (buffer : List UInt8) (i : Nat) : UInt8 := buffer.getD i 0

structure UsbDescriptorHeader where
  bLength : UInt8
  bDescriptorType : UInt8
  deriving DecidableEq

/-- The cursor seen through a `UsbDescriptorHeader` pointer. -/
abbrev descriptorHeader (buffer : List UInt8) : UsbDescriptorHeader :=
  { bLength := byteAt buffer 0, bDescriptorType := byteAt buffer 1 }

structure UsbConfigDescriptor where
  bLength : UInt8 := 0
  bDescriptorType : UInt8 := 0
  wTotalLength : UInt16 := 0
  bNumInterfaces : UInt8 := 0
  bConfigurationValue : UInt8 := 0
  iConfiguration : UInt8 := 0
  bmAttributes : UInt8 := 0
  bMaxPower : UInt8 := 0
  deriving DecidableEq

structure UsbInterfaceDescriptor where
  bLength : UInt8 := 0
  bDescriptorType : UInt8 := 0
  bInterfaceNumber : UInt8 := 0
  bAlternateSetting : UInt8 := 0
  bNumEndpoints : UInt8 := 0
  bInterfaceClass : UInt8 := 0
  bInterfaceSubClass : UInt8 := 0
  bInterfaceProtocol : UInt8 := 0
  iInterface : UInt8 := 0
  deriving DecidableEq

structure UsbEndpointDescriptor where
  bLength : UInt8 := 0
  bDescriptorType : UInt8 := 0
  bEndpointAddress : UInt8 := 0
  bmAttributes : UInt8 := 0
  wMaxPacketSize : UInt16 := 0
  bInterval : UInt8 := 0
  bRefresh : UInt8 := 0
  bSynchAddress : UInt8 := 0
  deriving DecidableEq

/-- The default value of this and the next structures is the zeroed memory the parser starts from. -/
structure UsbDdkEndpointDescriptor where
  endpointDescriptor : UsbEndpointDescriptor := {}
  extra : Option (List UInt8) := none
  extraLength : Nat := 0
  deriving DecidableEq

structure UsbDdkInterfaceDescriptor where
  interfaceDescriptor : UsbInterfaceDescriptor := {}
  endPoint : Option (List UsbDdkEndpointDescriptor) := none
  extra : Option (List UInt8) := none
  extraLength : Nat := 0
  deriving DecidableEq

structure UsbDdkInterface where
  numAltsetting : UInt8 := 0
  altsetting : Option (List UsbDdkInterfaceDescriptor) := none
  deriving DecidableEq

structure UsbDdkConfigDescriptor where
  configDescriptor : UsbConfigDescriptor := {}
  interface : Option (List UsbDdkInterface) := none
  extra : Option (List UInt8) := none
  extraLength : Nat := 0
  deriving DecidableEq

inductive UsbDdkDescriptorType where
  | config
  | interface
  | endpoint
  | audioEndpoint
  deriving DecidableEq

/-- The two bytes of a 16-bit field, low byte first. -/
def le16ToHost (lo hi : UInt8) : UInt16 := hi.toUInt16 <<< 8 ||| lo.toUInt16

/-- `memcpy` of the first nine bytes onto the structure, with the 16-bit field converted. -/
def UsbConfigDescriptor.load (bytes : List UInt8) (_ : UsbConfigDescriptor) :
    UsbConfigDescriptor where
  bLength := byteAt bytes 0
  bDescriptorType := byteAt bytes 1
  wTotalLength := le16ToHost (byteAt bytes 2) (byteAt bytes 3)
  bNumInterfaces := byteAt bytes 4
  bConfigurationValue := byteAt bytes 5
  iConfiguration := byteAt bytes 6
  bmAttributes := byteAt bytes 7
  bMaxPower := byteAt bytes 8

def UsbInterfaceDescriptor.load (bytes : List UInt8) (_ : UsbInterfaceDescriptor) :
    UsbInterfaceDescriptor where
  bLength := byteAt bytes 0
  bDescriptorType := byteAt bytes 1
  bInterfaceNumber := byteAt bytes 2
  bAlternateSetting := byteAt bytes 3
  bNumEndpoints := byteAt bytes 4
  bInterfaceClass := byteAt bytes 5
  bInterfaceSubClass := byteAt bytes 6
  bInterfaceProtocol := byteAt bytes 7
  iInterface := byteAt bytes 8

/-- Only seven bytes are copied: `bRefresh` and `bSynchAddress` keep what they were. -/
def UsbEndpointDescriptor.load (bytes : List UInt8) (dest : UsbEndpointDescriptor) :
    UsbEndpointDescriptor where
  bLength := byteAt bytes 0
  bDescriptorType := byteAt bytes 1
  bEndpointAddress := byteAt bytes 2
  bmAttributes := byteAt bytes 3
  wMaxPacketSize := le16ToHost (byteAt bytes 4) (byteAt bytes 5)
  bInterval := byteAt bytes 6
  bRefresh := dest.bRefresh
  bSynchAddress := dest.bSynchAddress

def getDescriptorLength : UsbDdkDescriptorType → Int
  | .config => usbDdkDtConfigSize
  | .interface => usbDdkDtInterfaceSize
  | .endpoint => usbDdkDtEndpointSize
  | .audioEndpoint => int32Max

/-- Copy one descriptor onto `dest` with `load`, the `memcpy_s` and byte-order conversion of its
type. The null-pointer checks of the source are left out: no caller passes a null pointer once the
size has been checked. -/
def parseDescriptor {α : Type} (descriptorType : UsbDdkDescriptorType)
    (load : List UInt8 → α → α) (dest : α) (destLen : Nat) (source : List UInt8)
    (sourceLen : Int) : Int × α :=
  let descriptorLen := getDescriptorLength descriptorType
  if descriptorLen = int32Max then
    (usbDdkInvalidOperation, dest)
  else if sourceLen < descriptorLen then
    (usbDdkInvalidOperation, dest)
  else if memcpyS destLen descriptorLen.toNat = false then
    (usbDdkMemoryError, dest)
  else
    (usbDdkSuccess, load (source.take descriptorLen.toNat) dest)

theorem parseDescriptor_of_le {α : Type} {t : UsbDdkDescriptorType} {load : List UInt8 → α → α}
    {dest : α} {destLen : Nat} {source : List UInt8} {sourceLen : Int}
    (hlen : getDescriptorLength t ≤ sourceLen) (ht : getDescriptorLength t ≠ int32Max)
    (hdest : memcpyS destLen (getDescriptorLength t).toNat = true) :
    parseDescriptor t load dest destLen source sourceLen =
      (usbDdkSuccess, load (source.take (getDescriptorLength t).toNat) dest) := by
  simp only [parseDescriptor, if_neg ht, if_neg (Int.not_lt.mpr hlen), hdest, Bool.true_eq_false,
    if_false]

theorem byteAt_take {xs : List UInt8} {i n : Nat} (h : i < n) :
    byteAt (xs.take n) i = byteAt xs i := by
  simp [byteAt, h]

end ExtDevMgr.Usb
