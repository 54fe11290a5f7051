import ExtDevMgr.Base.Text
import ExtDevMgr.EdmErrors
import ExtDevMgr.Manager.DeviceIds
import ExtDevMgr.Usb.ReadsInside
import ExtDevMgr.Usb.StringDescriptor

/-!
# Attaching a device

`UsbDevSubscriber::OnDeviceConnect` opens a device, decodes its descriptors and hands it to the
callback. The device descriptor is cast from the reply without a look at the length, so the law of an
attach holds exactly as long as a reply is empty or holds a whole descriptor, and the serial number is
no longer than 32 bits count (`onDeviceConnect_iff`).
-/

namespace ExtDevMgr.Usb
open Access Manager

abbrev usbDevDescSize : UInt8 := 0x12
abbrev usbClassHub : UInt8 := 0x09
abbrev rootHubDevAddr : UInt8 := 0x01

/-- The packed structure of 18 bytes. -/
structure UsbDevDescLite where
  bLength : UInt8
  bDescriptorType : UInt8
  bcdUSB : UInt16
  bDeviceClass : UInt8
  bDeviceSubClass : UInt8
  bDeviceProtocol : UInt8
  bMaxPacketSize0 : UInt8
  idVendor : UInt16
  idProduct : UInt16
  bcdDevice : UInt16
  iManufacturer : UInt8
  iProduct : UInt8
  iSerialNumber : UInt8
  bNumConfigurations : UInt8

/-- The structure at the start of the bytes, on a little-endian host. -/
def UsbDevDescLite.load (bytes : Memory) : UsbDevDescLite where
  bLength := bytes 0
  bDescriptorType := bytes 1
  bcdUSB := UInt16.ofNat (Bytes.ofLe [bytes 2, bytes 3])
  bDeviceClass := bytes 4
  bDeviceSubClass := bytes 5
  bDeviceProtocol := bytes 6
  bMaxPacketSize0 := bytes 7
  idVendor := UInt16.ofNat (Bytes.ofLe [bytes 8, bytes 9])
  idProduct := UInt16.ofNat (Bytes.ofLe [bytes 10, bytes 11])
  bcdDevice := UInt16.ofNat (Bytes.ofLe [bytes 12, bytes 13])
  iManufacturer := bytes 14
  iProduct := bytes 15
  iSerialNumber := bytes 16
  bNumConfigurations := bytes 17

structure UsbDeviceInfo where
  busDeviceId : UInt32
  description : Name
  bcdUSB : UInt16
  deviceClass : UInt8
  idVendor : UInt16
  idProduct : UInt16
  deviceSubClass : UInt8
  deviceProtocol : UInt8
  snNum : List UInt8
  interfaceDescList : List UsbInterfaceDescriptor

inductive EventErrCode
  | success
  | openDeviceFailed
  | getDeviceDescriptorFailed
  | deviceDescriptorLengthInvalid
  | getInterfaceDescriptorFailed

/-- What happens in an attach, with the reads of the replies. -/
inductive AttachEvent
  | openDevice
  | closeDevice
  | onDeviceAdd (usbDevInfo : UsbDeviceInfo)
  /-- `AppLaunchManager::OnDeviceConnected`. -/
  | onDeviceConnected (idVendor idProduct : UInt16)
  | report (errCode : EventErrCode)
  /-- A byte from `descData.data()` on. -/
  | descData (i : Nat)
  | serial (place : StringPlace)
  | descriptor (event : Reads.InputEvent)

/-- What `GetDeviceDescriptor` returns and writes, and the memory behind the vector. -/
structure DescriptorReply where
  ret : Int
  descData : List UInt8
  behind : Memory

structure AttachReplies where
  openDevice : Int
  getDeviceDescriptor : DescriptorReply
  getStringDescriptor : StringReply
  /-- What `new (std::nothrow)` gives to `GetDevStringVal`. -/
  tbuf : Option (Nat → UInt16)
  getConfig : Int
  getConfigDescriptor : ServiceReply

/-- Which of the pointers are not null, and whether there is an app launch manager in the build. -/
structure UsbDevSubscriber where
  iusb : Bool
  iUsbDdk : Bool
  callback : Bool
  enableAppLaunchManager : Bool

/-! ## The subscriber -/

/-- `%0wX`. -/
def hexUpper (w n : Nat) : Name :=
  let digits := (Nat.toDigits 16 n).map Char.toUpper
  List.replicate (w - digits.length) '0' ++ digits

def toDeviceDesc (usbDev : UsbDev) (desc : UsbDevDescLite) : Name :=
  "USB&BUS_".toList ++ hexUpper 2 usbDev.busNum.toNat ++ "&DEV_".toList ++
    hexUpper 2 usbDev.devAddr.toNat ++ "&PID_".toList ++ hexUpper 4 desc.idProduct.toNat ++
    "&VID_".toList ++ hexUpper 4 desc.idVendor.toNat ++ "&CLASS_".toList ++
    hexUpper 2 desc.bDeviceClass.toNat

/-- The constructor and `SetUsbDevInfoValue`. -/
def newUsbDeviceInfo (usbDev : UsbDev) (deviceDescriptor : UsbDevDescLite) (snNum : List UInt8)
    (interfaceDescList : List UsbInterfaceDescriptor) : UsbDeviceInfo where
  busDeviceId := toBusDeivceId usbDev
  description := toDeviceDesc usbDev deviceDescriptor
  bcdUSB := deviceDescriptor.bcdUSB
  deviceClass := deviceDescriptor.bDeviceClass
  idVendor := deviceDescriptor.idVendor
  idProduct := deviceDescriptor.idProduct
  deviceSubClass := deviceDescriptor.bDeviceSubClass
  deviceProtocol := deviceDescriptor.bDeviceProtocol
  snNum
  interfaceDescList

/-- `GetInterfaceDescriptor` with the reads of the parser. -/
def getInterfaceDescriptorReads (fuel : Nat) (edmErrOffset : Int) (iusb : Option Int)
    (iUsbDdk : Option ServiceReply) (interfaceList : List UsbInterfaceDescriptor) :
    Reads.Run (Option (Int × List UsbInterfaceDescriptor)) :=
  match iusb, iUsbDdk with
  | some ret, some reply =>
    if ret ≠ edmOk then
      return some (ret, interfaceList)
    else if reply.ret ≠ edmOk then
      return some (reply.ret, interfaceList)
    else do
      let outcome ← Reads.parseUsbConfigDescriptor fuel reply.descriptor
      return outcome.map fun outcome => interfacesOf edmErrOffset outcome interfaceList
  | _, _ => return some (edmErrInvalidObject edmErrOffset, interfaceList)

/-- The bytes from `descData.data()` on. -/
def DescriptorReply.bytes (reply : DescriptorReply) (i : Nat) : UInt8 :=
  if i < reply.descData.length then reply.descData.getD i 0 else reply.behind i

/-- The cast reads the whole structure, whatever the length of the vector. -/
def castDescriptor (reply : DescriptorReply) : Access AttachEvent UsbDevDescLite :=
  touchAll ((List.range 18).map .descData) (.load reply.bytes)

def getUsbDeviceDescriptor (err : EdmErrors) (reply : DescriptorReply) :
    Access AttachEvent (Except Int UsbDevDescLite) :=
  if reply.ret ≠ edmOk ∨ reply.descData = [] then
    return .error err.edmErrIo
  else do
    let deviceDescriptor ← castDescriptor reply
    return if deviceDescriptor.bLength ≠ usbDevDescSize then
      .error err.edmErrUsbErr
    else
      .ok deviceDescriptor

def happen (events : List AttachEvent) : Access AttachEvent Unit := touchAll events ()

/-- From `GetInterfaceDescriptor` on. -/
def reportInterfaces (s : UsbDevSubscriber) (usbDev : UsbDev) (deviceDescriptor : UsbDevDescLite)
    (snNum : List UInt8) (interfaces : Int × List UsbInterfaceDescriptor) :
    Access AttachEvent (Option Int) :=
  if interfaces.1 ≠ edmOk then do
    happen [.closeDevice, .report .getInterfaceDescriptorFailed]
    return some interfaces.1
  else do
    happen [.report .success, .closeDevice]
    let usbDevInfo := newUsbDeviceInfo usbDev deviceDescriptor snNum interfaces.2
    happen (if s.callback then [.onDeviceAdd usbDevInfo] else [])
    return some edmOk

/-- From `GetDevStringVal` on. -/
def readDevice (fuel : Nat) (err : EdmErrors) (s : UsbDevSubscriber) (usbDev : UsbDev)
    (r : AttachReplies) (deviceDescriptor : UsbDevDescLite) : Access AttachEvent (Option Int) := do
  let snNum ← (getDevStringVal fuel deviceDescriptor.iSerialNumber r.getStringDescriptor
    r.tbuf).relabel .serial
  match snNum with
  | none => return none
  | some snNum =>
    happen (if s.enableAppLaunchManager then
      [.onDeviceConnected deviceDescriptor.idVendor deviceDescriptor.idProduct] else [])
    let interfaces ← (getInterfaceDescriptorReads fuel err.edmErrOffset (some r.getConfig)
      (if s.iUsbDdk then some r.getConfigDescriptor else none) []).relabel .descriptor
    match interfaces with
    | none => return none
    | some interfaces => reportInterfaces s usbDev deviceDescriptor snNum interfaces

/-- From the device descriptor on. -/
def identify (fuel : Nat) (err : EdmErrors) (s : UsbDevSubscriber) (usbDev : UsbDev)
    (r : AttachReplies) : Except Int UsbDevDescLite → Access AttachEvent (Option Int)
  | .error ret => do
    happen [.closeDevice, .report (if ret = err.edmErrUsbErr then .deviceDescriptorLengthInvalid
      else .getDeviceDescriptorFailed)]
    return some ret
  | .ok deviceDescriptor =>
    if deviceDescriptor.bDeviceClass = usbClassHub ∧ usbDev.devAddr = rootHubDevAddr then do
      happen [.closeDevice]
      return some edmOk
    else
      readDevice fuel err s usbDev r deviceDescriptor

/-- The return value, `none` when the fuel runs out, and what happens. -/
def onDeviceConnect (fuel : Nat) (err : EdmErrors) (s : UsbDevSubscriber) (usbDev : UsbDev)
    (r : AttachReplies) : Access AttachEvent (Option Int) :=
  if !s.iusb then
    return some err.edmErrInvalidObject
  else if r.openDevice ≠ edmOk then do
    happen [.openDevice, .report .openDeviceFailed]
    return some err.edmErrIo
  else do
    happen [.openDevice]
    let deviceDescriptor ← getUsbDeviceDescriptor err r.getDeviceDescriptor
    identify fuel err s usbDev r deviceDescriptor

/-! ## The law of an attach -/

namespace AttachEvent

def isDeviceCall : AttachEvent → Bool
  | openDevice | closeDevice => true
  | _ => false

def isOnDeviceAdd : AttachEvent → Bool
  | onDeviceAdd _ => true
  | _ => false

end AttachEvent

/-- A read of a reply is inside its vector. -/
def AttachReplies.Inside (r : AttachReplies) : AttachEvent → Prop
  | .descData i => i < r.getDeviceDescriptor.descData.length
  | .serial (.serial i) => i < r.getStringDescriptor.serial.length
  | .descriptor (.read offset) => 0 ≤ offset ∧ offset < r.getConfigDescriptor.descriptor.length
  | _ => True

/-- The descriptor is that of a hub, and the address that of the root. -/
def IsRootHub (usbDev : UsbDev) (r : AttachReplies) : Prop :=
  r.getDeviceDescriptor.descData.getD 4 0 = usbClassHub ∧ usbDev.devAddr = rootHubDevAddr

/-- A run that returns `ret` has read inside the replies only, has closed the device once when it has
opened it and never otherwise, and has added the device once when it says so and is no root hub. -/
structure Lawful (s : UsbDevSubscriber) (usbDev : UsbDev) (r : AttachReplies) (ret : Int)
    (run : Access AttachEvent (Option Int)) : Prop where
  returns : run.value = some ret
  reads : run.Within r.Inside
  closed : s.iusb = true → r.openDevice = edmOk →
    run.observed AttachEvent.isDeviceCall = [.openDevice, .closeDevice]
  notClosed : ¬ (s.iusb = true ∧ r.openDevice = edmOk) → .closeDevice ∉ run.places
  added : ret = edmOk → ¬ IsRootHub usbDev r →
    (run.observed AttachEvent.isOnDeviceAdd).length = 1
  notAdded : ret ≠ edmOk → run.observed AttachEvent.isOnDeviceAdd = []

/-- The serial number is taken from the reply. -/
structure Decodes (idx : UInt8) (reply : StringReply) (tbuf : Option (Nat → UInt16)) : Prop where
  idx_ne : idx ≠ 0
  ret : reply.ret = edmOk
  serial : IsStringDescriptor reply.serial
  tbuf : tbuf.isSome

/-- The device is opened and its descriptor is taken for that of a device. -/
structure Identified (s : UsbDevSubscriber) (usbDev : UsbDev) (r : AttachReplies) : Prop where
  iusb : s.iusb = true
  openDevice : r.openDevice = edmOk
  ret : r.getDeviceDescriptor.ret = edmOk
  bLength : r.getDeviceDescriptor.descData.getD 0 0 = usbDevDescSize
  notRootHub : ¬ IsRootHub usbDev r

/-- A descriptor that is cast is complete. The bytes of a serial number that is decoded can be counted,
which is so for all that a control transfer carries. -/
structure Covered (s : UsbDevSubscriber) (usbDev : UsbDev) (r : AttachReplies) : Prop where
  complete : s.iusb = true → r.openDevice = edmOk → r.getDeviceDescriptor.ret = edmOk →
    r.getDeviceDescriptor.descData = [] ∨ 18 ≤ r.getDeviceDescriptor.descData.length
  countable : Identified s usbDev r →
    Decodes (r.getDeviceDescriptor.descData.getD 16 0) r.getStringDescriptor r.tbuf →
    Countable r.getStringDescriptor.serial

/-! ## The parts -/

section
variable {idx : UInt8} {reply : StringReply} {tbuf : Option (Nat → UInt16)}

theorem getDevStringVal_spec (h : Decodes idx reply tbuf → Countable reply.serial)
    {fuel : Nat} (hfuel : reply.serial.length < fuel) :
    (getDevStringVal fuel idx reply tbuf).Spec (StringPlace.Inside reply.serial.length)
      fun snNum => ∃ bytes, snNum = some bytes := by
  unfold getDevStringVal
  split
  case isTrue => exact spec_pure ⟨_, rfl⟩
  case isFalse hidx =>
  split
  case isTrue => exact spec_pure ⟨_, rfl⟩
  case isFalse hret =>
  split
  case isTrue => exact spec_pure ⟨_, rfl⟩
  case isFalse hlen =>
  have hlen : 2 ≤ reply.serial.length := Nat.not_lt.mp hlen
  have hplace : (StringPlace.serial 1).Inside reply.serial.length := hlen
  refine (spec_touch (Q := (· = reply.serial.getD 1 0)) hplace rfl).bind fun type htype => ?_
  split
  case isTrue => exact spec_pure ⟨_, rfl⟩
  case isFalse hthree =>
  cases tbuf with
  | none => exact spec_pure ⟨_, rfl⟩
  | some memory =>
    have hserial : IsStringDescriptor reply.serial := ⟨hlen, htype ▸ not_not.mp hthree⟩
    have hcount := h ⟨hidx, not_not.mp hret, hserial, rfl⟩
    exact (decodeReply_spec hlen hcount memory hfuel).mono fun snNum hval => ⟨_, hval⟩

theorem getDevStringVal_none (h : Decodes idx reply tbuf)
    (hlen : 2 ^ 32 ≤ reply.serial.length - 2) (fuel : Nat) :
    (getDevStringVal fuel idx reply tbuf).value = none := by
  obtain ⟨hidx, hret, hserial, htbuf⟩ := h
  obtain ⟨memory, rfl⟩ := Option.isSome_iff_exists.mp htbuf
  obtain ⟨ret, serial⟩ := reply
  cases hret
  have heq := congrArg Access.value (getDevStringVal_eq fuel hidx hserial memory)
  rw [value_bind, decodeReply_none hlen] at heq
  exact heq

end

/-- More fuel gives the same outcome. -/
theorem parseUsbConfigDescriptor_mono {configBuffer : List UInt8} {outcome : ParseOutcome}
    {n m : Nat} (h : parseUsbConfigDescriptor n configBuffer = some outcome) (hle : n ≤ m) :
    parseUsbConfigDescriptor m configBuffer = some outcome := by
  rw [parseUsbConfigDescriptor_eq] at h ⊢
  cases hentry : parseConfigurationEntry {} (vectorCursor configBuffer) with
  | inl t =>
    obtain ⟨result, hresult, rfl⟩ := Option.map_eq_some_iff.mp h
    rw [parseConfiguration_inl hentry] at hresult ⊢
    rw [parseConfigurationDes] at hresult ⊢
    rw [Loop.iter_mono hresult hle]
    rfl
  | inr result =>
    rw [parseConfiguration_inr hentry] at h ⊢
    exact h

theorem getInterfaceDescriptorReads_spec (fuel : Nat) (edmErrOffset ret : Int) (iUsbDdk : Bool)
    (reply : ServiceReply) (interfaceList : List UsbInterfaceDescriptor) :
    (getInterfaceDescriptorReads fuel edmErrOffset (some ret) (if iUsbDdk then some reply else none)
      interfaceList).Spec (Reads.InputEvent.Safe reply.descriptor.length)
      (· = getInterfaceDescriptor fuel edmErrOffset (some ret)
        (if iUsbDdk then some reply else none) interfaceList) := by
  cases iUsbDdk with
  | false => exact spec_pure rfl
  | true =>
    simp only [getInterfaceDescriptorReads, getInterfaceDescriptor, if_true]
    split
    case isTrue => exact spec_pure rfl
    case isFalse =>
      split
      case isTrue => exact spec_pure rfl
      case isFalse =>
        refine (Reads.parseUsbConfigDescriptor_spec fuel reply.descriptor).bind fun outcome h => ?_
        exact spec_pure (congrArg _ h)

theorem getInterfaceDescriptor_isSome (edmErrOffset : Int) (iusb : Option Int) (iUsbDdk : Bool)
    (interfaceList : List UsbInterfaceDescriptor) {fuel : Nat} {reply : ServiceReply}
    {outcome : ParseOutcome} (h : parseUsbConfigDescriptor fuel reply.descriptor = some outcome) :
    ∃ interfaces, getInterfaceDescriptor fuel edmErrOffset iusb
      (if iUsbDdk then some reply else none) interfaceList = some interfaces := by
  cases iUsbDdk with
  | false => cases iusb <;> exact ⟨_, rfl⟩
  | true =>
    cases iusb with
    | none => exact ⟨_, rfl⟩
    | some ret =>
      simp only [getInterfaceDescriptor, if_true, h]
      split
      · exact ⟨_, rfl⟩
      · split <;> exact ⟨_, rfl⟩

/-- Not a call, and no read outside. -/
def AttachReplies.Quiet (r : AttachReplies) (event : AttachEvent) : Prop :=
  r.Inside event ∧ event.isDeviceCall = false ∧ event.isOnDeviceAdd = false

/-- A run behind `OpenDevice` closes the device, and adds it when it returns `EDM_OK` for what is no
root hub. -/
structure Finishes (r : AttachReplies) (hub : Prop) (ret : Int)
    (run : Access AttachEvent (Option Int)) : Prop where
  returns : run.value = some ret
  reads : run.Within r.Inside
  closed : run.observed AttachEvent.isDeviceCall = [.closeDevice]
  added : ret = edmOk → ¬ hub → (run.observed AttachEvent.isOnDeviceAdd).length = 1
  notAdded : ret ≠ edmOk → run.observed AttachEvent.isOnDeviceAdd = []

section
variable {r : AttachReplies} {hub : Prop} {ret : Int} {fuel : Nat} {err : EdmErrors}
  {s : UsbDevSubscriber} {usbDev : UsbDev}

theorem Finishes.bind {α : Type} {x : Access AttachEvent α}
    {f : α → Access AttachEvent (Option Int)} (h : Finishes r hub ret (f x.value))
    (hx : x.Within r.Quiet) : Finishes r hub ret (x >>= f) := by
  have hcalls : x.observed AttachEvent.isDeviceCall = [] :=
    observed_eq_nil fun event hevent => (hx event hevent).2.1
  have hadds : x.observed AttachEvent.isOnDeviceAdd = [] :=
    observed_eq_nil fun event hevent => (hx event hevent).2.2
  refine ⟨h.returns, (within_bind _ _).mpr ⟨fun event hevent => (hx event hevent).1, h.reads⟩,
    ?_, ?_, ?_⟩
  · rw [observed_bind, hcalls, List.nil_append, h.closed]
  · rw [observed_bind, hadds, List.nil_append]
    exact h.added
  · rw [observed_bind, hadds, List.nil_append]
    exact h.notAdded

theorem Finishes.of_spec {α : Type} {Q : α → Prop} {x : Access AttachEvent α}
    {f : α → Access AttachEvent (Option Int)} (hx : x.Spec r.Quiet Q)
    (h : ∀ a, Q a → ∃ ret, Finishes r hub ret (f a)) : ∃ ret, Finishes r hub ret (x >>= f) := by
  obtain ⟨ret, hf⟩ := h x.value hx.2
  exact ⟨ret, hf.bind hx.1⟩

theorem quiet_serial {place : StringPlace} (h : place.Inside r.getStringDescriptor.serial.length) :
    r.Quiet (.serial place) := by
  cases place with
  | serial i => exact ⟨h, rfl, rfl⟩
  | tbuf i => exact ⟨trivial, rfl, rfl⟩

theorem quiet_descriptor {event : Reads.InputEvent}
    (h : event.Safe r.getConfigDescriptor.descriptor.length) : r.Quiet (.descriptor event) := by
  cases event with
  | read offset => exact ⟨h, rfl, rfl⟩
  | size value => exact ⟨trivial, rfl, rfl⟩

theorem reportInterfaces_finishes (hcallback : s.callback = true) (deviceDescriptor : UsbDevDescLite)
    (snNum : List UInt8) (interfaces : Int × List UsbInterfaceDescriptor) :
    Finishes r hub interfaces.1 (reportInterfaces s usbDev deviceDescriptor snNum interfaces) := by
  unfold reportInterfaces
  split
  case isTrue hret =>
    refine ⟨rfl, ?_, rfl, fun hok => absurd hok hret, fun _ => rfl⟩
    simp [happen, AttachReplies.Inside]
  case isFalse hret =>
    have hret := not_not.mp hret
    refine ⟨congrArg some hret.symm, ?_, rfl, fun _ _ => rfl, fun hne => absurd hret hne⟩
    simp [happen, AttachReplies.Inside]

theorem readDevice_finishes (hcallback : s.callback = true) {deviceDescriptor : UsbDevDescLite}
    (hcount : Decodes deviceDescriptor.iSerialNumber r.getStringDescriptor r.tbuf →
      Countable r.getStringDescriptor.serial)
    (hfuel : r.getStringDescriptor.serial.length < fuel) {outcome : ParseOutcome}
    (hparse : parseUsbConfigDescriptor fuel r.getConfigDescriptor.descriptor = some outcome) :
    ∃ ret, Finishes r hub ret (readDevice fuel err s usbDev r deviceDescriptor) := by
  have hserial := (getDevStringVal_spec hcount hfuel).relabel fun _ => quiet_serial (r := r)
  refine Finishes.of_spec hserial fun _ hsome => ?_
  obtain ⟨snNum, rfl⟩ := hsome
  have hlaunch : (happen (if s.enableAppLaunchManager then
      [.onDeviceConnected deviceDescriptor.idVendor deviceDescriptor.idProduct] else [])).Spec
      r.Quiet fun _ => True := by
    refine ⟨?_, trivial⟩
    cases s.enableAppLaunchManager with
    | false => exact fun event hevent => absurd hevent List.not_mem_nil
    | true => exact List.forall_mem_singleton.mpr ⟨trivial, rfl, rfl⟩
  refine Finishes.of_spec hlaunch fun _ _ => ?_
  have hreads := (getInterfaceDescriptorReads_spec fuel err.edmErrOffset r.getConfig s.iUsbDdk
    r.getConfigDescriptor []).relabel fun _ => quiet_descriptor (r := r)
  refine Finishes.of_spec hreads fun _ heq => ?_
  obtain ⟨interfaces, hsome⟩ := getInterfaceDescriptor_isSome err.edmErrOffset (some r.getConfig)
    s.iUsbDdk [] hparse
  rw [heq, hsome]
  exact ⟨interfaces.1, reportInterfaces_finishes hcallback _ _ _⟩

/-! ## The device descriptor -/

section
variable (h : 18 ≤ r.getDeviceDescriptor.descData.length)
include h

/-- Of a vector that holds the whole structure only its own bytes are seen. -/
theorem bytes_of_complete {i : Nat} (hi : i < 18) :
    r.getDeviceDescriptor.bytes i = r.getDeviceDescriptor.descData.getD i 0 :=
  if_pos (Nat.lt_of_lt_of_le hi h)

theorem isRootHub_iff : IsRootHub usbDev r ↔
    (UsbDevDescLite.load r.getDeviceDescriptor.bytes).bDeviceClass = usbClassHub ∧
      usbDev.devAddr = rootHubDevAddr := by
  rw [IsRootHub, ← bytes_of_complete h (by omega)]
  rfl

theorem bLength_load : (UsbDevDescLite.load r.getDeviceDescriptor.bytes).bLength =
    r.getDeviceDescriptor.descData.getD 0 0 := bytes_of_complete h (by omega)

theorem iSerialNumber_load : (UsbDevDescLite.load r.getDeviceDescriptor.bytes).iSerialNumber =
    r.getDeviceDescriptor.descData.getD 16 0 := bytes_of_complete h (by omega)

theorem castDescriptor_within :
    (castDescriptor r.getDeviceDescriptor).Within r.Quiet := by
  intro event hevent
  obtain ⟨i, hi, rfl⟩ := List.mem_map.mp hevent
  rw [List.mem_range] at hi
  exact ⟨Nat.lt_of_lt_of_le hi h, rfl, rfl⟩

end

/-- The last byte of the structure is read. -/
theorem length_of_castDescriptor_within
    (h : (castDescriptor r.getDeviceDescriptor).Within r.Inside) :
    18 ≤ r.getDeviceDescriptor.descData.length :=
  h (.descData 17) (List.mem_map.mpr ⟨17, List.mem_range.mpr (Nat.lt_succ_self 17), rfl⟩)

/-- The code of a failure, or the structure at the start of the reply. -/
def Described (r : AttachReplies) : Except Int UsbDevDescLite → Prop
  | .error code => code ≠ edmOk
  | .ok deviceDescriptor =>
    r.getDeviceDescriptor.ret = edmOk ∧ 18 ≤ r.getDeviceDescriptor.descData.length ∧
      deviceDescriptor.bLength = usbDevDescSize ∧
      deviceDescriptor = .load r.getDeviceDescriptor.bytes

theorem getUsbDeviceDescriptor_spec (h : r.getDeviceDescriptor.ret = edmOk →
      r.getDeviceDescriptor.descData = [] ∨ 18 ≤ r.getDeviceDescriptor.descData.length) :
    (getUsbDeviceDescriptor err r.getDeviceDescriptor).Spec r.Quiet (Described r) := by
  unfold getUsbDeviceDescriptor
  split
  case isTrue => exact spec_pure (err.code_ne_edmOk 10)
  case isFalse hfail =>
    obtain ⟨hret, hne⟩ := not_or.mp hfail
    have hret := not_not.mp hret
    have hlen := (h hret).resolve_left hne
    have hcast : (castDescriptor r.getDeviceDescriptor).Spec r.Quiet
        (· = .load r.getDeviceDescriptor.bytes) := ⟨castDescriptor_within hlen, rfl⟩
    refine hcast.bind fun deviceDescriptor heq => spec_pure ?_
    split
    case isTrue => exact err.code_ne_edmOk 15
    case isFalse hlength => exact ⟨hret, hlen, not_not.mp hlength, heq⟩

theorem identify_error_finishes {code : Int} (hcode : code ≠ edmOk) :
    Finishes r hub code (identify fuel err s usbDev r (.error code)) := by
  unfold identify
  refine ⟨rfl, ?_, rfl, fun hok => absurd hok hcode, fun _ => rfl⟩
  simp [happen, AttachReplies.Inside]

theorem identify_ok_finishes (hcallback : s.callback = true) {deviceDescriptor : UsbDevDescLite}
    (hhub : IsRootHub usbDev r ↔
      deviceDescriptor.bDeviceClass = usbClassHub ∧ usbDev.devAddr = rootHubDevAddr)
    (hcount : ¬ IsRootHub usbDev r →
      Decodes deviceDescriptor.iSerialNumber r.getStringDescriptor r.tbuf →
      Countable r.getStringDescriptor.serial)
    (hfuel : r.getStringDescriptor.serial.length < fuel) {outcome : ParseOutcome}
    (hparse : parseUsbConfigDescriptor fuel r.getConfigDescriptor.descriptor = some outcome) :
    ∃ ret, Finishes r (IsRootHub usbDev r) ret
      (identify fuel err s usbDev r (.ok deviceDescriptor)) := by
  rw [identify]
  split
  case isTrue hroot =>
    refine ⟨edmOk, rfl, ?_, rfl, fun _ hnot => absurd (hhub.mpr hroot) hnot, fun _ => rfl⟩
    simp [happen, AttachReplies.Inside]
  case isFalse hroot =>
    have hnot : ¬ IsRootHub usbDev r := fun h => hroot (hhub.mp h)
    exact readDevice_finishes hcallback (hcount hnot) hfuel hparse

theorem describe_finishes (err : EdmErrors) (hcallback : s.callback = true) (h : Covered s usbDev r)
    (hiusb : s.iusb = true) (hopen : r.openDevice = edmOk)
    (hfuel : r.getStringDescriptor.serial.length < fuel) {outcome : ParseOutcome}
    (hparse : parseUsbConfigDescriptor fuel r.getConfigDescriptor.descriptor = some outcome) :
    ∃ ret, Finishes r (IsRootHub usbDev r) ret
      (getUsbDeviceDescriptor err r.getDeviceDescriptor >>= identify fuel err s usbDev r) := by
  apply Finishes.of_spec (getUsbDeviceDescriptor_spec (h.complete hiusb hopen))
  intro result hresult
  cases result with
  | error code => exact ⟨code, identify_error_finishes hresult⟩
  | ok deviceDescriptor =>
    obtain ⟨hret, hlen, hlength, rfl⟩ := hresult
    rw [bLength_load hlen] at hlength
    apply identify_ok_finishes hcallback (isRootHub_iff hlen) ?_ hfuel hparse
    intro hnot hdecodes
    rw [iSerialNumber_load hlen] at hdecodes
    exact h.countable ⟨hiusb, hopen, hret, hlength, hnot⟩ hdecodes

/-! ## The attach -/

theorem onDeviceConnect_opened (hiusb : s.iusb = true) (hopen : r.openDevice = edmOk) :
    onDeviceConnect fuel err s usbDev r = happen [.openDevice] >>= fun _ =>
      getUsbDeviceDescriptor err r.getDeviceDescriptor >>= identify fuel err s usbDev r := by
  rw [onDeviceConnect, hiusb, Bool.not_true, if_neg Bool.false_ne_true,
    if_neg (not_not_intro hopen)]

theorem lawful_of_not_opened (h : ¬ (s.iusb = true ∧ r.openDevice = edmOk)) :
    ∃ ret, Lawful s usbDev r ret (onDeviceConnect fuel err s usbDev r) := by
  cases hiusb : s.iusb with
  | false =>
    have heq : onDeviceConnect fuel err s usbDev r = pure (some err.edmErrInvalidObject) := by
      rw [onDeviceConnect, hiusb, Bool.not_false, if_pos rfl]
    rw [heq]
    exact ⟨_, rfl, within_pure _, fun hiusb hopen => absurd ⟨hiusb, hopen⟩ h,
      fun _ => List.not_mem_nil, fun hok => absurd hok (err.code_ne_edmOk 6), fun _ => rfl⟩
  | true =>
    have hopen : r.openDevice ≠ edmOk := fun hopen => h ⟨hiusb, hopen⟩
    have heq : onDeviceConnect fuel err s usbDev r =
        happen [.openDevice, .report .openDeviceFailed] >>= fun _ =>
          pure (some err.edmErrIo) := by
      rw [onDeviceConnect, hiusb, Bool.not_true, if_neg Bool.false_ne_true, if_pos hopen]
    rw [heq]
    refine ⟨_, rfl, ?_, fun _ hok => absurd hok hopen, fun _ => ?_,
      fun hok => absurd hok (err.code_ne_edmOk 10), fun _ => rfl⟩
    · simp [happen, AttachReplies.Inside]
    · change AttachEvent.closeDevice ∉ [.openDevice, .report .openDeviceFailed]
      simp

theorem Finishes.lawful {run : Unit → Access AttachEvent (Option Int)}
    (h : Finishes r (IsRootHub usbDev r) ret (run ())) (hiusb : s.iusb = true)
    (hopen : r.openDevice = edmOk) :
    Lawful s usbDev r ret (happen [.openDevice] >>= run) := by
  refine ⟨h.returns, ?_, fun _ _ => ?_, fun hnot => absurd ⟨hiusb, hopen⟩ hnot, ?_, ?_⟩
  · exact (within_bind _ _).mpr ⟨List.forall_mem_singleton.mpr trivial, h.reads⟩
  · rw [observed_bind]
    exact congrArg ([AttachEvent.openDevice] ++ ·) h.closed
  · exact h.added
  · exact h.notAdded

/-- A run that is lawful has cast a complete descriptor. -/
theorem Lawful.complete (h : Lawful s usbDev r ret (onDeviceConnect fuel err s usbDev r))
    (hiusb : s.iusb = true) (hopen : r.openDevice = edmOk)
    (hret : r.getDeviceDescriptor.ret = edmOk) (hne : r.getDeviceDescriptor.descData ≠ []) :
    18 ≤ r.getDeviceDescriptor.descData.length := by
  have hreads := h.reads
  rw [onDeviceConnect_opened hiusb hopen, within_bind, within_bind, getUsbDeviceDescriptor,
    if_neg (not_or.mpr ⟨not_not_intro hret, hne⟩), within_bind] at hreads
  obtain ⟨-, ⟨hcast, -⟩, -⟩ := hreads
  exact length_of_castDescriptor_within hcast

/-- A serial number that cannot be counted is never decoded. -/
theorem value_of_uncountable (h : Identified s usbDev r)
    (hlen : 18 ≤ r.getDeviceDescriptor.descData.length)
    (hdecodes : Decodes (r.getDeviceDescriptor.descData.getD 16 0) r.getStringDescriptor r.tbuf)
    (hcount : 2 ^ 32 ≤ r.getStringDescriptor.serial.length - 2) :
    (onDeviceConnect fuel err s usbDev r).value = none := by
  have hdescriptor : (getUsbDeviceDescriptor err r.getDeviceDescriptor).value =
      .ok (.load r.getDeviceDescriptor.bytes) := by
    have hne : r.getDeviceDescriptor.descData ≠ [] := List.ne_nil_of_length_pos (by omega)
    rw [getUsbDeviceDescriptor, if_neg (not_or.mpr ⟨not_not_intro h.ret, hne⟩)]
    exact if_neg (not_not_intro ((bLength_load hlen).trans h.bLength))
  rw [← iSerialNumber_load hlen] at hdecodes
  rw [onDeviceConnect_opened h.iusb h.openDevice, value_bind, value_bind, hdescriptor, identify,
    if_neg (mt (isRootHub_iff hlen).mpr h.notRootHub), readDevice, value_bind, value_relabel,
    getDevStringVal_none hdecodes hcount]
  rfl

end

/-- Given a parser that returns, an attach is lawful exactly for the replies that are covered. -/
theorem onDeviceConnect_iff (err : EdmErrors) {s : UsbDevSubscriber} (usbDev : UsbDev)
    {r : AttachReplies} (hcallback : s.callback = true)
    (hparse : ∃ outcome, ParserReturns r.getConfigDescriptor.descriptor outcome) :
    (∃ fuel ret, Lawful s usbDev r ret (onDeviceConnect fuel err s usbDev r)) ↔
      Covered s usbDev r := by
  constructor
  · rintro ⟨fuel, ret, h⟩
    have hcomplete : s.iusb = true → r.openDevice = edmOk → r.getDeviceDescriptor.ret = edmOk →
        r.getDeviceDescriptor.descData = [] ∨ 18 ≤ r.getDeviceDescriptor.descData.length := by
      intro hiusb hopen hret
      exact or_iff_not_imp_left.mpr (h.complete hiusb hopen hret)
    refine ⟨hcomplete, fun hid hdecodes => ?_⟩
    by_contra hcount
    have hne : r.getDeviceDescriptor.descData ≠ [] := by
      intro hnil
      have hlength := hid.bLength
      rw [hnil] at hlength
      cases hlength
    have hlen := (hcomplete hid.iusb hid.openDevice hid.ret).resolve_left hne
    have hvalue := h.returns
    rw [value_of_uncountable hid hlen hdecodes (Nat.not_lt.mp hcount)] at hvalue
    cases hvalue
  · intro h
    by_cases hopened : s.iusb = true ∧ r.openDevice = edmOk
    · obtain ⟨hiusb, hopen⟩ := hopened
      obtain ⟨outcome, n, hn⟩ := hparse
      refine ⟨max n (r.getStringDescriptor.serial.length + 1), ?_⟩
      obtain ⟨ret, hfinishes⟩ := describe_finishes err hcallback h hiusb hopen
        (Nat.le_max_right _ _) (parseUsbConfigDescriptor_mono hn (Nat.le_max_left _ _))
      rw [onDeviceConnect_opened hiusb hopen]
      exact ⟨ret, hfinishes.lawful hiusb hopen⟩
    · exact ⟨0, lawful_of_not_opened hopened⟩

/-- A configuration with one interface. -/
def mouseConfig : List UInt8 :=
  [9, 2, 18, 0, 1, 1, 0, 128, 50] ++ [9, 4, 0, 0, 0, 3, 1, 2, 0]

/-- A mouse without a serial number. -/
def mouseReplies (descData : List UInt8) : AttachReplies where
  openDevice := 0
  getDeviceDescriptor := ⟨0, descData, fun _ => 0⟩
  getStringDescriptor := ⟨0, []⟩
  tbuf := none
  getConfig := 0
  getConfigDescriptor := ⟨0, mouseConfig⟩

def readySubscriber : UsbDevSubscriber where
  iusb := true
  iUsbDdk := true
  callback := true
  enableAppLaunchManager := true

theorem mouseConfig_returns : ∃ outcome, ParserReturns mouseConfig outcome := by
  have hsome : (parseUsbConfigDescriptor 2 mouseConfig).isSome = true := by decide +kernel
  obtain ⟨outcome, houtcome⟩ := Option.isSome_iff_exists.mp hsome
  exact ⟨outcome, 2, houtcome⟩

theorem onDeviceConnect_mouse :
    ∃ fuel ret, Lawful readySubscriber ⟨1, 2⟩
      (mouseReplies [18, 1, 0, 2, 0, 0, 0, 8, 109, 4, 119, 192, 0, 114, 1, 2, 0, 1]) ret
      (onDeviceConnect fuel ⟨1, Int.one_pos⟩ readySubscriber ⟨1, 2⟩
        (mouseReplies [18, 1, 0, 2, 0, 0, 0, 8, 109, 4, 119, 192, 0, 114, 1, 2, 0, 1])) := by
  refine (onDeviceConnect_iff _ _ ?_ ?_).mpr ⟨fun _ _ _ => .inr ?_, ?_⟩
  · rfl
  · exact mouseConfig_returns
  · exact Nat.le_refl 18
  · intro _ hdecodes
    exact absurd rfl hdecodes.idx_ne

/-- The reply is the first byte of a descriptor, and the cast reads the 17 bytes behind it. -/
theorem not_forall_lawful :
    ¬ ∀ (err : EdmErrors) (s : UsbDevSubscriber) (usbDev : UsbDev) (r : AttachReplies),
      s.callback = true → (∃ outcome, ParserReturns r.getConfigDescriptor.descriptor outcome) →
      ∃ fuel ret, Lawful s usbDev r ret (onDeviceConnect fuel err s usbDev r) := by
  intro h
  obtain ⟨fuel, ret, hlawful⟩ := h ⟨1, Int.one_pos⟩ readySubscriber ⟨1, 2⟩ (mouseReplies [18]) rfl
    mouseConfig_returns
  have hlen := hlawful.complete rfl rfl rfl (List.cons_ne_nil _ _)
  exact absurd hlen (by decide)

end ExtDevMgr.Usb
