import Mathlib.Order.Nat
import ExtDevMgr.Base.Access
import ExtDevMgr.Scsi.MemMap

/-!
# Read functions of the DDK clients

The client functions that copy the reply of a service into a buffer of their caller, with the places
that they touch. A reply is a vector and a count that is reported beside it; neither need fit the
other, or the buffer.
-/

namespace ExtDevMgr.Ddk
open Access
open Scsi (securecMemMaxLen)

/-- A byte of the caller's buffer that is written or read, or a byte from the first byte of the reply
vector on. -/
inductive Place
  | written (i : Nat)
  | fetched (i : Nat)
  | reply (i : Nat)

/-- The place is in the buffer of `bufSize` bytes or in the vector of `size` bytes. -/
def Place.Inside (bufSize size : Nat) : Place → Prop
  | written i | fetched i => i < bufSize
  | reply i => i < size

/-- What a service answers. The vector is the memory from its first byte on and its size. -/
structure Reply where
  ret : Int
  data : Memory
  size : Nat
  count : UInt32

/-- What a function leaves to its caller: the bytes of the buffer, and the count if it stores one. -/
structure Result where
  ret : Int
  data : Option Memory
  count : Option UInt32

/-- The codes of the frameworks outside the repository. -/
structure Platform where
  ohIpcErrorCodeBase : Int
  ohIpcErrorCodeMax : Int
  hdfSuccess : Int
  hdfErrNotSupport : Int
  hdfFailure : Int
  hdfErrInvalidParam : Int
  hdfErrBadFd : Int
  hdfErrNoperm : Int
  hdfDevErrNoMemory : Int
  hdfErrOutOfRange : Int
  hdfErrIo : Int
  hdfErrTimeout : Int

/-- `memcpy_s` copies nothing when the count exceeds `destMax`. -/
def memcpyS (dest : Memory) (destMax : Nat) (src : Memory) (count : Nat) :
    Access Place (Bool × Memory) :=
  if destMax = 0 ∨ destMax > securecMemMaxLen then
    return (false, dest)
  else if count > destMax then
    return (false, dest)
  else
    touchAll ((List.range count).map .reply ++ (List.range count).map .written)
      (true, fun i => if i < count then src i else dest i)

/-! ## HID -/

abbrev hidDdkSuccess : Int := 0
abbrev hidDdkInvalidParameter : Int := 401
abbrev hidDdkInitError : Int := 27300005
abbrev hidDdkServiceError : Int := 27300006
abbrev hidDdkMemoryError : Int := 27300007

abbrev hidMaxReportBufferSize : UInt32 := 16 * 1024 - 1

def transToHidCode (P : Platform) (ret : Int) : Int :=
  if ret ≥ P.ohIpcErrorCodeBase ∧ ret ≤ P.ohIpcErrorCodeMax then hidDdkServiceError else ret

structure HidDeviceHandle where
  nonBlock : UInt8

/-- Whether the library is connected, and what the caller passes; a null pointer is `none`. -/
structure HidCall where
  ddk : Bool
  dev : Option HidDeviceHandle
  data : Option Memory
  bufSize : UInt32

/-- Tests the parameters, calls the service and copies `count` bytes of its reply into the buffer, of
which `destMax` are taken to be there. `bytesRead` tells whether the pointer of that name is not null,
for the functions that have it. -/
def hidRead (P : Platform) (c : HidCall) (bytesRead : Bool)
    (call : HidDeviceHandle → Memory → Access Place Reply) (destMax count : Reply → Nat) :
    Access Place Result :=
  if !c.ddk then
    return ⟨hidDdkInitError, c.data, none⟩
  else
    match c.dev, c.data with
    | some dev, some data =>
      if c.bufSize = 0 ∨ c.bufSize > hidMaxReportBufferSize ∨ !bytesRead then
        return ⟨hidDdkInvalidParameter, some data, none⟩
      else do
        let reply ← call dev data
        let ret := transToHidCode P reply.ret
        if ret ≠ hidDdkSuccess then
          return ⟨ret, some data, some reply.count⟩
        else
          let (ok, data) ← memcpyS data (destMax reply) reply.data (count reply)
          return ⟨if ok then hidDdkSuccess else hidDdkMemoryError, some data, some reply.count⟩
    | _, data => return ⟨hidDdkInvalidParameter, data, none⟩

section
variable (P : Platform) (c : HidCall)

def ohHidReadTimeout (timeout : Int) (bytesRead : Bool) (service : Int → Reply) :
    Access Place Result :=
  hidRead P c bytesRead (fun _ _ => return service timeout) (fun _ => c.bufSize.toNat) fun reply =>
    reply.count.toNat

def ohHidRead (bytesRead : Bool) (service : Int → Reply) : Access Place Result :=
  hidRead P c bytesRead (fun dev _ => return service (if dev.nonBlock ≠ 0 then 0 else -1))
    (fun _ => c.bufSize.toNat) fun reply => reply.count.toNat

def ohHidGetRawName (reply : Reply) : Access Place Result :=
  hidRead P c true (fun _ _ => return reply) (fun _ => c.bufSize.toNat) fun reply => reply.size

def ohHidGetPhysicalAddress (reply : Reply) : Access Place Result :=
  hidRead P c true (fun _ _ => return reply) (fun _ => c.bufSize.toNat) fun reply => reply.size

/-- The size of the vector is taken for the size of the buffer. -/
def ohHidGetRawUniqueId (reply : Reply) : Access Place Result :=
  hidRead P c true (fun _ _ => return reply) (fun reply => reply.size) fun reply => reply.size

/-- The report number is the first byte of the buffer. -/
def ohHidGetReport (service : UInt8 → Reply) : Access Place Result :=
  hidRead P c true (fun _ data => do
    let reportNumber ← touch (.fetched 0) (data 0)
    return service reportNumber) (fun _ => c.bufSize.toNat) fun reply => reply.size

def ohHidGetReportDescriptor (bytesRead : Bool) (reply : Reply) : Access Place Result :=
  hidRead P c bytesRead (fun _ _ => return reply) (fun _ => c.bufSize.toNat) fun reply => reply.count.toNat

end

/-! ## USB serial -/

abbrev usbSerialDdkInvalidParameter : Int := 401
abbrev usbSerialDdkSuccess : Int := 31600000
abbrev usbSerialDdkInitError : Int := 31600002
abbrev usbSerialDdkServiceError : Int := 31600003
abbrev usbSerialDdkMemoryError : Int := 31600004

abbrev maxBufferSize : UInt32 := 4096

def transToUsbSerialCode (P : Platform) (ret : Int) : Int :=
  if ret = P.hdfSuccess then
    usbSerialDdkSuccess
  else if ret ≥ P.ohIpcErrorCodeBase ∧ ret ≤ P.ohIpcErrorCodeMax then
    usbSerialDdkServiceError
  else
    ret

/-- `ddk`, `dev` and `bytesRead` tell whether the pointers of these names are not null. -/
def ohUsbSerialRead (P : Platform) (ddk dev : Bool) (buff : Option Memory) (bufferSize : UInt32)
    (bytesRead : Bool) (service : UInt32 → Reply) : Access Place Result :=
  if !ddk then
    return ⟨usbSerialDdkInitError, buff, none⟩
  else
    match buff with
    | none => return ⟨usbSerialDdkInvalidParameter, none, none⟩
    | some buff =>
      if !dev ∨ bufferSize = 0 ∨ !bytesRead then
        return ⟨usbSerialDdkInvalidParameter, some buff, none⟩
      else
        let readBufferSize := if bufferSize > maxBufferSize then maxBufferSize else bufferSize
        let reply := service readBufferSize
        if reply.ret ≠ P.hdfSuccess then
          return ⟨transToUsbSerialCode P reply.ret, some buff, none⟩
        else
          let count := UInt32.ofNat reply.size
          if reply.size = 0 then
            return ⟨usbSerialDdkSuccess, some buff, some count⟩
          else do
            let (ok, buff) ← memcpyS buff bufferSize.toNat reply.data reply.size
            return ⟨if ok then usbSerialDdkSuccess else usbSerialDdkMemoryError, some buff,
              some count⟩

/-! ## USB -/

abbrev usbDdkSuccess : Int := 0
abbrev usbDdkNoPerm : Int := 201
abbrev usbDdkInvalidParameter : Int := 401
abbrev usbDdkMemoryError : Int := 27400001
abbrev usbDdkInvalidOperation : Int := 27400002
abbrev usbDdkIoFailed : Int := 27400003
abbrev usbDdkTimeout : Int := 27400004

def errorMap (P : Platform) : List (Int × Int) :=
  [(P.hdfSuccess, usbDdkSuccess), (P.hdfErrNotSupport, usbDdkInvalidOperation),
    (P.hdfFailure, usbDdkInvalidOperation), (P.hdfErrInvalidParam, usbDdkInvalidParameter),
    (P.hdfErrBadFd, usbDdkInvalidParameter), (P.hdfErrNoperm, usbDdkNoPerm),
    (P.hdfDevErrNoMemory, usbDdkMemoryError), (P.hdfErrOutOfRange, usbDdkMemoryError),
    (P.hdfErrIo, usbDdkIoFailed), (P.hdfErrTimeout, usbDdkTimeout)]

def transToUsbCode (P : Platform) (ret : Int) (defaultCode : Int := usbDdkSuccess) : Int :=
  match (errorMap P).lookup ret with
  | some code => code
  | none => if defaultCode ≠ usbDdkSuccess then defaultCode else ret

/-- `ddk` and `setup` tell whether the pointers of these names are not null. -/
def ohUsbSendControlReadRequest (P : Platform) (ddk setup : Bool) (data : Option Memory)
    (dataLen : Option UInt32) (reply : Reply) : Access Place Result :=
  if !ddk then
    return ⟨usbDdkInvalidOperation, data, dataLen⟩
  else
    match data, dataLen with
    | some data, some dataLen =>
      if !setup then
        return ⟨usbDdkInvalidParameter, some data, some dataLen⟩
      else
        let ret := transToUsbCode P reply.ret
        if ret ≠ 0 then
          return ⟨ret, some data, some dataLen⟩
        else if dataLen.toNat < reply.size then
          return ⟨usbDdkInvalidParameter, some data, some dataLen⟩
        else do
          let (ok, data) ← memcpyS data dataLen.toNat reply.data reply.size
          if ok then
            return ⟨usbDdkSuccess, some data, some (UInt32.ofNat reply.size)⟩
          else
            return ⟨usbDdkMemoryError, some data, some dataLen⟩
    | data, dataLen => return ⟨usbDdkInvalidParameter, data, dataLen⟩

/-- The setup packet is given by its `wLength`; the service is handed that many bytes of the buffer,
and the count of its reply is the transferred length. -/
def ohUsbControlTransfer (P : Platform) (ddk : Bool) (setupPacket : Option UInt16)
    (data : Option Memory) (service : List UInt8 → Reply) : Access Place Result :=
  if !ddk then
    return ⟨usbDdkInvalidOperation, data, none⟩
  else
    match setupPacket, data with
    | some wLength, some data => do
      let dataTmp ← touchAll ((List.range wLength.toNat).map .fetched)
        ((List.range wLength.toNat).map data)
      let reply := service dataTmp
      let ret := transToUsbCode P reply.ret usbDdkIoFailed
      if ret ≠ usbDdkSuccess then
        return ⟨ret, some data, none⟩
      else if reply.size > 0 then
        let (ok, data) ← memcpyS data wLength.toNat reply.data reply.size
        return ⟨if ok then reply.count.toInt32.toInt else usbDdkMemoryError, some data, none⟩
      else
        return ⟨reply.count.toInt32.toInt, some data, none⟩
    | _, data => return ⟨usbDdkInvalidParameter, data, none⟩

/-! ## The places that are touched -/

/-- Nothing outside the buffer of `bufSize` bytes and outside the reply vector is touched. -/
abbrev InBounds (bufSize : Nat) (reply : Reply) (x : Access Place Result) : Prop :=
  x.Within (Place.Inside bufSize reply.size)

theorem memcpyS_within {dest src : Memory} {destMax count bufSize size : Nat} :
    (memcpyS dest destMax src count).Within (Place.Inside bufSize size) ↔
      (0 < destMax → destMax ≤ securecMemMaxLen → count ≤ destMax → count ≤ bufSize ∧ count ≤ size) := by
  unfold memcpyS
  split
  case isTrue hmax =>
    refine iff_of_true (within_pure _) ?_
    intro hpos hle
    omega
  case isFalse hmax =>
    split
    case isTrue hcount =>
      refine iff_of_true (within_pure _) ?_
      intro _ _ hle
      omega
    case isFalse hcount =>
      rw [within_touchAll, List.forall_mem_append, List.forall_mem_map, List.forall_mem_map]
      simp only [List.mem_range, Place.Inside]
      constructor
      · rintro ⟨hsize, hbuf⟩ _ _ _
        exact ⟨le_of_forall_lt hbuf, le_of_forall_lt hsize⟩
      · intro hle
        obtain ⟨hbuf, hsize⟩ := hle (by omega) (by omega) (by omega)
        exact ⟨fun i hi => by omega, fun i hi => by omega⟩

/-- The parameters of a HID function pass its tests. -/
structure HidCall.Accepted (c : HidCall) (bytesRead : Bool) : Prop where
  ddk : c.ddk = true
  dev : c.dev.isSome = true
  data : c.data.isSome = true
  bufSize : c.bufSize ≠ 0 ∧ c.bufSize ≤ hidMaxReportBufferSize
  bytesRead : bytesRead = true

variable {P : Platform} {c : HidCall} {reply : Reply}

/-- A HID function touches what its call touches, and copies where the call succeeds. -/
theorem hidRead_inBounds {bytesRead : Bool} {call : HidDeviceHandle → Memory → Access Place Reply}
    {destMax count : Reply → Nat} (hreply : ∀ dev data, (call dev data).value = reply)
    (hcall : c.Accepted bytesRead → ∀ dev data,
      (call dev data).Within (Place.Inside c.bufSize.toNat reply.size)) :
    InBounds c.bufSize.toNat reply (hidRead P c bytesRead call destMax count) ↔
      (c.Accepted bytesRead → transToHidCode P reply.ret = hidDdkSuccess → 0 < destMax reply →
        destMax reply ≤ securecMemMaxLen → count reply ≤ destMax reply →
        count reply ≤ c.bufSize.toNat ∧ count reply ≤ reply.size) := by
  unfold hidRead
  split
  case isTrue hddk =>
    refine iff_of_true (within_pure _) ?_
    intro haccepted
    rw [haccepted.ddk] at hddk
    cases hddk
  case isFalse hddk =>
    split
    · rename_i dev data hdev hdata
      split
      case isTrue hbuf =>
        refine iff_of_true (within_pure _) ?_
        intro haccepted
        rcases hbuf with hzero | hlarge | hnull
        · exact absurd hzero haccepted.bufSize.1
        · exact absurd hlarge (UInt32.not_lt.mpr haccepted.bufSize.2)
        · rw [haccepted.bytesRead] at hnull
          cases hnull
      case isFalse hbuf =>
        rw [not_or, not_or] at hbuf
        have haccepted : c.Accepted bytesRead := by
          refine ⟨by simpa using hddk, by rw [hdev]; rfl, by rw [hdata]; rfl,
            ⟨hbuf.1, UInt32.not_lt.mp hbuf.2.1⟩, by simpa using hbuf.2.2⟩
        rw [InBounds, within_bind, hreply, forall_prop_of_true haccepted,
          and_iff_right (hcall haccepted dev data)]
        dsimp only
        split
        case isTrue hret => exact iff_of_true (within_pure _) fun h => absurd h hret
        case isFalse hret =>
          rw [within_bind, forall_prop_of_true (Classical.not_not.mp hret), memcpyS_within]
          exact and_iff_left (within_pure _)
    · rename_i hnull
      refine iff_of_true (within_pure _) ?_
      intro haccepted
      obtain ⟨dev, hdev⟩ := Option.isSome_iff_exists.mp haccepted.dev
      obtain ⟨data, hdata⟩ := Option.isSome_iff_exists.mp haccepted.data
      exact absurd hdata (hnull dev data hdev)

theorem HidCall.Accepted.bufSize_pos {bytesRead : Bool} (h : c.Accepted bytesRead) :
    0 < c.bufSize.toNat := by
  apply Nat.pos_of_ne_zero
  intro hzero
  exact h.bufSize.1 (UInt32.toNat_inj.mp hzero)

theorem HidCall.Accepted.bufSize_le {bytesRead : Bool} (h : c.Accepted bytesRead) :
    c.bufSize.toNat ≤ securecMemMaxLen := by
  have hle := UInt32.le_iff_toNat_le.mp h.bufSize.2
  exact Nat.le_trans hle (by decide)

/-- The functions that copy a reported count. -/
theorem hidRead_counted_inBounds {bytesRead : Bool}
    {call : HidDeviceHandle → Memory → Access Place Reply} (hcall : ∀ dev data, call dev data = pure reply) :
    InBounds c.bufSize.toNat reply (hidRead P c bytesRead call (fun _ => c.bufSize.toNat)
        fun reply => reply.count.toNat) ↔
      (c.Accepted bytesRead → transToHidCode P reply.ret = hidDdkSuccess →
        reply.count.toNat ≤ c.bufSize.toNat → reply.count.toNat ≤ reply.size) := by
  rw [hidRead_inBounds (fun dev data => by rw [hcall]; rfl)
    (fun _ dev data => by rw [hcall]; exact within_pure _)]
  constructor
  · intro h haccepted hret hle
    exact (h haccepted hret haccepted.bufSize_pos haccepted.bufSize_le hle).2
  · intro h haccepted hret _ _ hle
    exact ⟨hle, h haccepted hret hle⟩

/-- The functions that copy the whole vector into a buffer of the size they know. -/
theorem hidRead_whole_inBounds {call : HidDeviceHandle → Memory → Access Place Reply}
    (hreply : ∀ dev data, (call dev data).value = reply)
    (hcall : c.Accepted true → ∀ dev data,
      (call dev data).Within (Place.Inside c.bufSize.toNat reply.size)) :
    InBounds c.bufSize.toNat reply (hidRead P c true call (fun _ => c.bufSize.toNat)
      fun reply => reply.size) := by
  rw [hidRead_inBounds hreply hcall]
  intro _ _ _ _ hle
  exact ⟨hle, Nat.le_refl _⟩

theorem ohHidGetReport_inBounds :
    InBounds c.bufSize.toNat reply (ohHidGetReport P c fun _ => reply) := by
  apply hidRead_whole_inBounds
  · intro dev data
    rfl
  · intro haccepted dev data
    rw [within_bind, within_touch]
    exact ⟨haccepted.bufSize_pos, within_pure _⟩

theorem ohHidGetRawUniqueId_inBounds :
    InBounds c.bufSize.toNat reply (ohHidGetRawUniqueId P c reply) ↔
      (c.Accepted true → transToHidCode P reply.ret = hidDdkSuccess →
        reply.size ≤ securecMemMaxLen → reply.size ≤ c.bufSize.toNat) := by
  have hcall : ∀ (dev : HidDeviceHandle) (data : Memory),
      (pure reply : Access Place Reply).Within (Place.Inside c.bufSize.toNat reply.size) :=
    fun _ _ => within_pure _
  refine (hidRead_inBounds (fun _ _ => value_pure reply) fun _ => hcall).trans ?_
  constructor
  · intro h haccepted hret hmax
    rcases Nat.eq_zero_or_pos reply.size with hzero | hpos
    · rw [hzero]
      exact Nat.zero_le _
    · exact (h haccepted hret hpos hmax (Nat.le_refl _)).1
  · intro h haccepted hret _ hmax _
    exact ⟨h haccepted hret hmax, Nat.le_refl _⟩

theorem ohUsbSerialRead_inBounds (ddk dev : Bool) (buff : Option Memory) (bufferSize : UInt32)
    (bytesRead : Bool) :
    InBounds bufferSize.toNat reply
      (ohUsbSerialRead P ddk dev buff bufferSize bytesRead fun _ => reply) := by
  unfold ohUsbSerialRead
  split
  · exact within_pure _
  · split
    · exact within_pure _
    · split
      · exact within_pure _
      · dsimp only
        split
        · exact within_pure _
        · split
          · exact within_pure _
          · rw [InBounds, within_bind, memcpyS_within]
            exact ⟨fun _ _ hle => ⟨hle, Nat.le_refl _⟩, within_pure _⟩

theorem ohUsbSendControlReadRequest_inBounds (ddk setup : Bool) (data : Option Memory)
    (dataLen : Option UInt32) :
    InBounds (dataLen.getD 0).toNat reply
      (ohUsbSendControlReadRequest P ddk setup data dataLen reply) := by
  unfold ohUsbSendControlReadRequest
  split
  · exact within_pure _
  · split
    · split
      · exact within_pure _
      · dsimp only
        split
        · exact within_pure _
        · split
          · exact within_pure _
          · rw [InBounds, within_bind, memcpyS_within]
            refine ⟨fun _ _ hle => ⟨hle, Nat.le_refl _⟩, ?_⟩
            split <;> exact within_pure _
    · exact within_pure _

theorem ohUsbControlTransfer_inBounds (ddk : Bool) (setupPacket : Option UInt16)
    (data : Option Memory) :
    InBounds (setupPacket.getD 0).toNat reply
      (ohUsbControlTransfer P ddk setupPacket data fun _ => reply) := by
  unfold ohUsbControlTransfer
  split
  · exact within_pure _
  · split
    · rw [InBounds, within_bind, within_touchAll, List.forall_mem_map]
      refine ⟨fun i hi => List.mem_range.mp hi, ?_⟩
      dsimp only
      split
      · exact within_pure _
      · split
        · rw [within_bind, memcpyS_within]
          exact ⟨fun _ _ hle => ⟨hle, Nat.le_refl _⟩, within_pure _⟩
        · exact within_pure _
    · exact within_pure _

/-- Seven functions stay in the buffer and in the reply whatever the service answers. The ones that
copy a reported count read inside the reply exactly when a count that fits the buffer fits the vector,
and `OH_Hid_GetRawUniqueId` stays in the buffer exactly when the vector is no longer. -/
theorem inBounds_iff (P : Platform) (reply : Reply) :
    (∀ c timeout bytesRead, InBounds c.bufSize.toNat reply
        (ohHidReadTimeout P c timeout bytesRead fun _ => reply) ↔
      (c.Accepted bytesRead → transToHidCode P reply.ret = hidDdkSuccess →
        reply.count.toNat ≤ c.bufSize.toNat → reply.count.toNat ≤ reply.size)) ∧
    (∀ c bytesRead, InBounds c.bufSize.toNat reply (ohHidRead P c bytesRead fun _ => reply) ↔
      (c.Accepted bytesRead → transToHidCode P reply.ret = hidDdkSuccess →
        reply.count.toNat ≤ c.bufSize.toNat → reply.count.toNat ≤ reply.size)) ∧
    (∀ c bytesRead, InBounds c.bufSize.toNat reply (ohHidGetReportDescriptor P c bytesRead reply) ↔
      (c.Accepted bytesRead → transToHidCode P reply.ret = hidDdkSuccess →
        reply.count.toNat ≤ c.bufSize.toNat → reply.count.toNat ≤ reply.size)) ∧
    (∀ c, InBounds c.bufSize.toNat reply (ohHidGetRawUniqueId P c reply) ↔
      (c.Accepted true → transToHidCode P reply.ret = hidDdkSuccess →
        reply.size ≤ securecMemMaxLen → reply.size ≤ c.bufSize.toNat)) ∧
    (∀ c, InBounds c.bufSize.toNat reply (ohHidGetRawName P c reply)) ∧
    (∀ c, InBounds c.bufSize.toNat reply (ohHidGetPhysicalAddress P c reply)) ∧
    (∀ c, InBounds c.bufSize.toNat reply (ohHidGetReport P c fun _ => reply)) ∧
    (∀ ddk dev buff bufferSize bytesRead, InBounds bufferSize.toNat reply
      (ohUsbSerialRead P ddk dev buff bufferSize bytesRead fun _ => reply)) ∧
    (∀ ddk setup data dataLen, InBounds (dataLen.getD 0).toNat reply
      (ohUsbSendControlReadRequest P ddk setup data dataLen reply)) ∧
    (∀ ddk setupPacket data, InBounds (setupPacket.getD 0).toNat reply
      (ohUsbControlTransfer P ddk setupPacket data fun _ => reply)) := by
  refine ⟨?_, ?_, ?_, fun c => ohHidGetRawUniqueId_inBounds, ?_, ?_,
    fun c => ohHidGetReport_inBounds, ohUsbSerialRead_inBounds, ohUsbSendControlReadRequest_inBounds,
    ohUsbControlTransfer_inBounds⟩
  · intro c timeout bytesRead
    exact hidRead_counted_inBounds fun _ _ => rfl
  · intro c bytesRead
    exact hidRead_counted_inBounds fun _ _ => rfl
  · intro c bytesRead
    exact hidRead_counted_inBounds fun _ _ => rfl
  · intro c
    exact hidRead_whole_inBounds (fun _ _ => rfl) fun _ _ _ => within_pure _
  · intro c
    exact hidRead_whole_inBounds (fun _ _ => rfl) fun _ _ _ => within_pure _

/-- The codes of the frameworks. -/
def platform : Platform where
  ohIpcErrorCodeBase := 1900000
  ohIpcErrorCodeMax := 1909999
  hdfSuccess := 0
  hdfErrNotSupport := -2
  hdfFailure := -1
  hdfErrInvalidParam := -3
  hdfErrBadFd := -8
  hdfErrNoperm := -10
  hdfDevErrNoMemory := -206
  hdfErrOutOfRange := -207
  hdfErrIo := -4
  hdfErrTimeout := -16

/-- A reply whose vector is empty beside a count of one byte, and one whose vector has a byte more than
the buffer. -/
theorem not_forall_inBounds :
    (¬∀ c timeout bytesRead reply, InBounds c.bufSize.toNat reply
      (ohHidReadTimeout platform c timeout bytesRead fun _ => reply)) ∧
    (¬∀ c bytesRead reply, InBounds c.bufSize.toNat reply
      (ohHidRead platform c bytesRead fun _ => reply)) ∧
    (¬∀ c bytesRead reply, InBounds c.bufSize.toNat reply
      (ohHidGetReportDescriptor platform c bytesRead reply)) ∧
    (¬∀ c reply, InBounds c.bufSize.toNat reply (ohHidGetRawUniqueId platform c reply)) := by
  have hcount : ∀ x : Access Place Result, Place.reply 0 ∈ x.places →
      ¬InBounds 1 ⟨0, fun _ => 0, 0, 1⟩ x := fun x hx h => absurd (h _ hx) (Nat.lt_irrefl 0)
  refine ⟨?_, ?_, ?_, ?_⟩
  · intro h
    exact hcount _ (.head _) (h ⟨true, some ⟨0⟩, some fun _ => 0, 1⟩ 10 true ⟨0, fun _ => 0, 0, 1⟩)
  · intro h
    exact hcount _ (.head _) (h ⟨true, some ⟨0⟩, some fun _ => 0, 1⟩ true ⟨0, fun _ => 0, 0, 1⟩)
  · intro h
    exact hcount _ (.head _) (h ⟨true, some ⟨0⟩, some fun _ => 0, 1⟩ true ⟨0, fun _ => 0, 0, 1⟩)
  · intro h
    have hwritten := h ⟨true, some ⟨0⟩, some fun _ => 0, 1⟩ ⟨0, fun _ => 0, 2, 0⟩
    exact absurd (hwritten (.written 1) (.tail _ (.tail _ (.tail _ (.head _))))) (Nat.lt_irrefl 1)

end ExtDevMgr.Ddk
