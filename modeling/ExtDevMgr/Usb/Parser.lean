import ExtDevMgr.Usb.Descriptor

/-!
# The configuration descriptor parser

`usb_config_desc_parser.cpp`, function by function. A `Cursor` is the pair of the read pointer and
the remaining size that the functions pass around; the size is an `int32_t` that error codes may
drive below zero, and the pointer is the list of bytes from it to the end of the vector.

A write past the end of an `altsetting` array has no effect on the array here, but it is recorded
in the events of the run together with the index and the number of slots, and so is an owning
pointer that is overwritten without being deleted. `ParseConfigurationDes` may run forever, so it
and its callers take a bound on the number of turns of its loop.
-/

namespace ExtDevMgr.Usb

structure Cursor where
  buffer : List UInt8
  size : Int
  deriving DecidableEq

/-- `buffer += n; size -= n`. -/
def Cursor.advance (c : Cursor) (n : Int) : Cursor where
  buffer := c.buffer.drop n.toNat
  size := c.size - n

def findNextDescriptorBody : Cursor × Int → (Cursor × Int) ⊕ Int
  | (c, len) =>
    if c.size < descHeaderLength then
      .inr len
    else
      let header := descriptorHeader c.buffer
      if header.bDescriptorType = usbDdkDtInterface ∨
          header.bDescriptorType = usbDdkDtEndpoint then
        .inr len
      else if (header.bLength.toNat : Int) < descHeaderLength ∨
          (header.bLength.toNat : Int) > c.size then
        .inr len
      else
        .inl (c.advance header.bLength.toNat, len + header.bLength.toNat)

/-- The number of bytes before the next interface or endpoint descriptor. -/
def findNextDescriptor (c : Cursor) : Int :=
  Loop.run findNextDescriptorBody (fun s => s.1.size.toNat) 0 (c, 0)

/-- Append `bufferLen` bytes to an extra block: the code, and the new pointer and length. -/
def fillExtraDescriptor (extra : Option (List UInt8)) (extraLength : Nat) (buffer : List UInt8)
    (bufferLen : Int) : Int × Option (List UInt8) × Nat :=
  if bufferLen = 0 then
    (usbDdkInvalidOperation, extra, extraLength)
  else
    let extraLenTmp := (extraLength + bufferLen.toNat) % 2 ^ 32
    let old := if extraLength = 0 then none else extra
    if old.isSome && !memcpyS extraLenTmp extraLength then
      (usbDdkMemoryError, extra, extraLength)
    else if !memcpyS ((2 ^ 32 + extraLenTmp - extraLength) % 2 ^ 32) bufferLen.toNat then
      (usbDdkMemoryError, extra, extraLength)
    else
      let kept := (old.getD []).take extraLength
      let zeros := List.replicate (extraLength - kept.length) 0
      (usbDdkSuccess, some (kept ++ zeros ++ buffer.take bufferLen.toNat), extraLenTmp)

def parseEndpoint (endPoint : UsbDdkEndpointDescriptor) (c : Cursor) :
    Int × UsbDdkEndpointDescriptor :=
  if c.size < descHeaderLength then
    (usbDdkInvalidOperation, endPoint)
  else
    let header := descriptorHeader c.buffer
    if header.bDescriptorType ≠ usbDdkDtEndpoint ∨ (header.bLength.toNat : Int) > c.size then
      (0, endPoint)
    else if (header.bLength.toNat : Int) < usbDdkDtEndpointSize then
      (usbDdkInvalidOperation, endPoint)
    else
      let desc := (parseDescriptor .endpoint UsbEndpointDescriptor.load
        endPoint.endpointDescriptor 9 c.buffer c.size).2
      let endPoint := { endPoint with endpointDescriptor := desc }
      let c := c.advance header.bLength.toNat
      let len := findNextDescriptor c
      if len = 0 then
        (header.bLength.toNat, endPoint)
      else
        let (ret, extra, extraLength) :=
          fillExtraDescriptor endPoint.extra endPoint.extraLength c.buffer len
        if ret ≠ usbDdkSuccess then
          (ret, endPoint)
        else
          (header.bLength.toNat + len, { endPoint with extra, extraLength })

def rawParseDescriptor (c : Cursor) (descriptorType : UsbDdkDescriptorType)
    (ddkIntfDesc : UsbDdkInterfaceDescriptor) : Int × UsbDdkInterfaceDescriptor :=
  let (ret, desc) := parseDescriptor descriptorType UsbInterfaceDescriptor.load
    ddkIntfDesc.interfaceDescriptor 9 c.buffer c.size
  let ddkIntfDesc := { ddkIntfDesc with interfaceDescriptor := desc }
  if ret ≠ usbDdkSuccess then
    (ret, ddkIntfDesc)
  else if desc.bDescriptorType ≠ usbDdkDtInterface ∨ (desc.bLength.toNat : Int) > c.size then
    (usbDdkInvalidParameter, ddkIntfDesc)
  else if (desc.bLength.toNat : Int) < usbDdkDtInterfaceSize ∨
      desc.bNumEndpoints.toNat > usbMaxEndpoints then
    (usbDdkInvalidOperation, ddkIntfDesc)
  else
    (ret, ddkIntfDesc)

/-- The variables of the `for` loop of `ParseInterfaceEndpoint`. -/
structure EndpointLoop where
  ret : Int
  bNumEndpoints : UInt8
  endPoint : List UsbDdkEndpointDescriptor
  cursor : Cursor
  deriving DecidableEq

/-- The loop from index `i` on, with `n` turns left. -/
def parseEndpoints : Nat → Nat → EndpointLoop → EndpointLoop
  | 0, _, st => st
  | n + 1, i, st =>
    let (ret, endPoint) := parseEndpoint (st.endPoint.getD i {}) st.cursor
    let st := { st with ret, endPoint := st.endPoint.set i endPoint }
    if ret = 0 then
      { st with bNumEndpoints := UInt8.ofNat i }
    else if ret < 0 then
      st
    else
      parseEndpoints n (i + 1) { st with cursor := st.cursor.advance ret }

def parseInterfaceEndpoint (ddkIntfDesc : UsbDdkInterfaceDescriptor) (c : Cursor) :
    Int × UsbDdkInterfaceDescriptor × Cursor :=
  let desc := ddkIntfDesc.interfaceDescriptor
  if 0 < desc.bNumEndpoints.toNat then
    let st := parseEndpoints desc.bNumEndpoints.toNat 0 {
      ret := usbDdkSuccess
      bNumEndpoints := desc.bNumEndpoints
      endPoint := List.replicate desc.bNumEndpoints.toNat {}
      cursor := c }
    (st.ret, { ddkIntfDesc with
      interfaceDescriptor := { desc with bNumEndpoints := st.bNumEndpoints }
      endPoint := some st.endPoint }, st.cursor)
  else
    (usbDdkSuccess, ddkIntfDesc, c)

/-! ## The counting pass -/

def getInterfaceNumberDes (buffer : List UInt8) (nums : List UInt8 × List UInt8) :
    List UInt8 × List UInt8 :=
  let (interfaceNums, alternateSetting) := nums
  if ((byteAt buffer 0).toNat : Int) < usbDdkDtInterfaceSize then
    nums
  else
    let intfNum := byteAt buffer 2
    match interfaceNums.findIdx? (· = intfNum) with
    | some i =>
      if (alternateSetting.getD i 0).toNat < usbMaxAltSetting then
        (interfaceNums, alternateSetting.modify i (· + 1))
      else
        nums
    | none =>
      if interfaceNums.length < usbMaxInterfaces then
        (interfaceNums ++ [intfNum], alternateSetting ++ [1])
      else
        nums

def getInterfaceNumberBody : Cursor × (List UInt8 × List UInt8) →
    (Cursor × (List UInt8 × List UInt8)) ⊕ (List UInt8 × List UInt8)
  | (c, nums) =>
    if c.size ≤ 0 then
      .inr nums
    else if c.size < descHeaderLength then
      .inr nums
    else
      let header := descriptorHeader c.buffer
      if (header.bLength.toNat : Int) > c.size ∨ (header.bLength.toNat : Int) < descHeaderLength then
        .inr nums
      else
        let nums := if header.bDescriptorType = usbDdkDtInterface then
          getInterfaceNumberDes c.buffer nums else nums
        .inl (c.advance header.bLength.toNat, nums)

/-- The interface numbers in order of first appearance, and the number of alternate settings
counted for each of them. -/
def getInterfaceNumber (c : Cursor) : List UInt8 × List UInt8 :=
  Loop.run getInterfaceNumberBody (fun s => s.1.size.toNat) ([], []) (c, ([], []))

/-! ## The parsing pass -/

inductive MemEvent where
  /-- A write to `altsetting[k]` of an array of `slots` elements, with `remaining` bytes of the
  vector at and after the cursor. -/
  | altWrite (k slots : Nat) (remaining : Int)
  /-- An owning pointer of `altsetting[k]` is set to null without having been deleted. -/
  | lost (k : Nat)
  deriving DecidableEq

structure InterfaceResult where
  ret : Int
  usbInterface : UsbDdkInterface
  events : List MemEvent
  deriving DecidableEq

/-- The variables of the loop of `ParseInterface`; `offset` is `buffer - buffer0`. -/
structure InterfaceLoop where
  usbInterface : UsbDdkInterface
  cursor : Cursor
  offset : Int
  interfaceNumber : Int
  events : List MemEvent
  deriving DecidableEq

def InterfaceLoop.leave (st : InterfaceLoop) (ret : Int) : InterfaceResult where
  ret := ret
  usbInterface := st.usbInterface
  events := st.events

/-- The number of slots allocated for an interface. -/
def UsbDdkInterface.slots (usbInterface : UsbDdkInterface) : Nat :=
  (usbInterface.altsetting.getD []).length

/-- `altsetting[k] = desc`, where the array has such an element. -/
def UsbDdkInterface.setSlot (usbInterface : UsbDdkInterface) (k : Nat)
    (desc : UsbDdkInterfaceDescriptor) : UsbDdkInterface :=
  { usbInterface with altsetting := usbInterface.altsetting.map (·.set k desc) }

def UsbDdkInterface.slot (usbInterface : UsbDdkInterface) (k : Nat) : UsbDdkInterfaceDescriptor :=
  (usbInterface.altsetting.getD []).getD k {}

/-- The part of a turn after the descriptor has been accepted: count the slot, reset its pointers,
and read the extra bytes and the endpoints. -/
def parseAltSetting (st : InterfaceLoop) (k : Nat) (desc : UsbDdkInterfaceDescriptor) :
    InterfaceLoop ⊕ InterfaceResult :=
  let lost := if desc.extra.isSome || desc.endPoint.isSome then [MemEvent.lost k] else []
  let usbInterface :=
    { st.usbInterface with numAltsetting := st.usbInterface.numAltsetting + 1 }
  let desc := { desc with extra := none, extraLength := 0, endPoint := none }
  let interfaceNumber := if st.interfaceNumber = -1 then
    (desc.interfaceDescriptor.bInterfaceNumber.toNat : Int) else st.interfaceNumber
  let bLength : Int := desc.interfaceDescriptor.bLength.toNat
  let c := st.cursor.advance bLength
  let offset := st.offset + bLength
  let len := findNextDescriptor c
  let (fill, extra, extraLength) :=
    if len ≠ 0 then fillExtraDescriptor desc.extra desc.extraLength c.buffer len
    else (usbDdkSuccess, desc.extra, desc.extraLength)
  let desc := { desc with extra, extraLength }
  let st := { st with usbInterface, interfaceNumber, events := st.events ++ lost }
  if fill ≠ usbDdkSuccess then
    .inr ({ st with usbInterface := usbInterface.setSlot k desc }.leave usbDdkInvalidParameter)
  else
    let c := c.advance len
    let offset := offset + len
    let (ret, desc, c') := parseInterfaceEndpoint desc c
    let offset := offset + (c.size - c'.size)
    let st := { st with usbInterface := usbInterface.setSlot k desc, cursor := c', offset }
    if ret < usbDdkSuccess then
      .inr (st.leave ret)
    else if c'.size < usbDdkDtInterfaceSize ∨ byteAt c'.buffer 1 ≠ usbDdkDtInterface ∨
        ((byteAt c'.buffer 2).toNat : Int) ≠ interfaceNumber then
      .inr (st.leave (toInt32 offset))
    else
      .inl st

def parseInterfaceBody (st : InterfaceLoop) : InterfaceLoop ⊕ InterfaceResult :=
  if st.cursor.size < usbDdkDtInterfaceSize then
    .inr (st.leave (toInt32 st.offset))
  else
    let k := st.usbInterface.numAltsetting.toNat
    let (ret, desc) := rawParseDescriptor st.cursor .interface (st.usbInterface.slot k)
    let st := { st with
      usbInterface := st.usbInterface.setSlot k desc
      events := st.events ++ [.altWrite k st.usbInterface.slots st.cursor.size] }
    if ret = usbDdkInvalidParameter then
      .inr (st.leave (toInt32 st.offset))
    else if ret = usbDdkInvalidOperation then
      .inr (st.leave ret)
    else
      parseAltSetting st k desc

def parseInterface (usbInterface : UsbDdkInterface) (c : Cursor) : InterfaceResult :=
  if usbInterface.numAltsetting.toNat > usbMaxAltSetting then
    { ret := usbDdkInvalidOperation, usbInterface, events := [] }
  else
    Loop.run parseInterfaceBody (fun st => st.cursor.size.toNat)
      { ret := 0, usbInterface, events := [] }
      { usbInterface, cursor := c, offset := 0, interfaceNumber := -1, events := [] }

structure ConfigResult where
  ret : Int
  config : UsbDdkConfigDescriptor
  /-- The remaining size at the return. -/
  size : Int
  events : List MemEvent
  deriving DecidableEq

/-- The variables of the loop of `ParseConfigurationDes`. -/
structure ConfigLoop where
  config : UsbDdkConfigDescriptor
  cursor : Cursor
  events : List MemEvent
  deriving DecidableEq

def ConfigLoop.leave (st : ConfigLoop) (ret : Int) : ConfigResult where
  ret := ret
  config := st.config
  size := st.cursor.size
  events := st.events

def UsbDdkConfigDescriptor.setInterface (config : UsbDdkConfigDescriptor) (i : Nat)
    (usbInterface : UsbDdkInterface) : UsbDdkConfigDescriptor :=
  { config with interface := config.interface.map (·.set i usbInterface) }

/-- The index of an interface number among the first `bNumInterfaces` numbers. -/
def interfaceIndex (config : UsbDdkConfigDescriptor) (interfaceNums : List UInt8) (number : UInt8) :
    Option Nat :=
  (interfaceNums.take config.configDescriptor.bNumInterfaces.toNat).findIdx? (· = number)

/-- The part of a turn after the extra descriptors: choose the interface and parse into it. -/
def parseConfigurationInterface (interfaceNums : List UInt8) (st : ConfigLoop) :
    ConfigLoop ⊕ ConfigResult :=
  if st.cursor.size ≤ descHeaderLength then
    .inr (st.leave st.cursor.size)
  else if st.config.configDescriptor.bNumInterfaces.toNat ≥ usbMaxInterfaces then
    .inr (st.leave usbDdkInvalidParameter)
  else
    match interfaceIndex st.config interfaceNums (byteAt st.cursor.buffer 2) with
    | none => .inr (st.leave usbDdkInvalidParameter)
    | some i =>
      let result := parseInterface ((st.config.interface.getD []).getD i {}) st.cursor
      let st := { st with
        config := st.config.setInterface i result.usbInterface
        events := st.events ++ result.events }
      if result.ret < 0 then
        .inr (st.leave result.ret)
      else
        .inl { st with cursor := st.cursor.advance result.ret }

def parseConfigurationDesBody (interfaceNums : List UInt8) (st : ConfigLoop) :
    ConfigLoop ⊕ ConfigResult :=
  if st.cursor.size < descHeaderLength then
    .inr (st.leave st.cursor.size)
  else
    let len := findNextDescriptor st.cursor
    if len = 0 then
      parseConfigurationInterface interfaceNums st
    else
      let (ret, extra, extraLength) :=
        fillExtraDescriptor st.config.extra st.config.extraLength st.cursor.buffer len
      let st := { st with config := { st.config with extra, extraLength } }
      if ret ≠ usbDdkSuccess then
        .inr (st.leave ret)
      else
        parseConfigurationInterface interfaceNums { st with cursor := st.cursor.advance len }

/-- The loop of `ParseConfigurationDes`, for at most `fuel` turns. -/
def parseConfigurationDes (fuel : Nat) (interfaceNums : List UInt8) (st : ConfigLoop) :
    Option ConfigResult :=
  Loop.iter (parseConfigurationDesBody interfaceNums) fuel st

/-- The zeroed interface array with one zeroed `altsetting` array for each count. -/
def allocateInterfaces (alternateSetting : List UInt8) : List UsbDdkInterface :=
  alternateSetting.map fun j =>
    { altsetting := some (List.replicate (min j.toNat usbMaxAltSetting) {}) }

/-- `ParseConfiguration` up to its call of `ParseConfigurationDes`: the early returns, or the
interface numbers and the state at the entry of the loop. -/
def parseConfigurationEntry (config : UsbDdkConfigDescriptor) (c : Cursor) :
    (List UInt8 × ConfigLoop) ⊕ ConfigResult :=
  if c.size < usbDdkDtConfigSize then
    .inr { ret := usbDdkInvalidOperation, config, size := c.size, events := [] }
  else
    let desc := (parseDescriptor .config UsbConfigDescriptor.load config.configDescriptor 9
      c.buffer c.size).2
    let config := { config with configDescriptor := desc }
    if desc.bDescriptorType ≠ usbDdkDtConfig ∨ (desc.bLength.toNat : Int) < usbDdkDtConfigSize ∨
        (desc.bLength.toNat : Int) > c.size % 2 ^ 8 ∨
        desc.bNumInterfaces.toNat > usbMaxInterfaces then
      .inr { ret := usbDdkInvalidOperation, config, size := c.size, events := [] }
    else
      let (interfaceNums, alternateSetting) := getInterfaceNumber c
      let intfNum := interfaceNums.length
      if intfNum = 0 ∨ intfNum > usbMaxAltSetting then
        .inr { ret := usbDdkInvalidOperation, config, size := c.size, events := [] }
      else
        .inl (interfaceNums, {
          config := { config with
            configDescriptor := { desc with bNumInterfaces := UInt8.ofNat intfNum }
            interface := some (allocateInterfaces alternateSetting) }
          cursor := c.advance desc.bLength.toNat
          events := [] })

def parseConfiguration (fuel : Nat) (config : UsbDdkConfigDescriptor) (c : Cursor) :
    Option ConfigResult :=
  match parseConfigurationEntry config c with
  | .inl (interfaceNums, st) => parseConfigurationDes fuel interfaceNums st
  | .inr result => some result

/-! ## Freeing a configuration -/

/-- The heap blocks of a configuration, named by the pointers that own them. -/
inductive Block where
  | config
  | interfaces
  | configExtra
  | altsetting (i : Nat)
  | extra (i k : Nat)
  | endPoint (i k : Nat)
  | endpointExtra (i k j : Nat)
  deriving DecidableEq

def clearEndpoint (i k j : Nat) (endPoint : UsbDdkEndpointDescriptor) : List Block :=
  if endPoint.extra.isSome then [.endpointExtra i k j] else []

/-- The blocks deleted for `altsetting[k]` of interface `i`. -/
def clearAltSetting (i k : Nat) (infPtr : UsbDdkInterfaceDescriptor) : List Block :=
  (if infPtr.extra.isSome then [Block.extra i k] else []) ++
    match infPtr.endPoint with
    | some endPoint =>
      (List.range infPtr.interfaceDescriptor.bNumEndpoints.toNat).flatMap
        (fun j => clearEndpoint i k j (endPoint.getD j {})) ++ [Block.endPoint i k]
    | none => []

/-- The indices of `altsetting` that `ClearInterface` reads. -/
def clearInterfaceReads (usbInterface : UsbDdkInterface) : List Nat :=
  if usbInterface.numAltsetting.toNat > usbMaxAltSetting then []
  else List.range usbInterface.numAltsetting.toNat

def clearInterface (i : Nat) (usbInterface : UsbDdkInterface) : List Block :=
  if usbInterface.numAltsetting.toNat > usbMaxAltSetting then
    []
  else
    (clearInterfaceReads usbInterface).flatMap
      (fun k => clearAltSetting i k (usbInterface.slot k)) ++
        if usbInterface.altsetting.isSome then [.altsetting i] else []

def rawClearConfiguration (config : UsbDdkConfigDescriptor) : List Block :=
  (match config.interface with
  | some interface =>
    (List.range config.configDescriptor.bNumInterfaces.toNat).flatMap
      (fun i => clearInterface i (interface.getD i {})) ++ [Block.interfaces]
  | none => []) ++ if config.extra.isSome then [Block.configExtra] else []

/-- The blocks deleted by `FreeUsbConfigDescriptor`. -/
def freeUsbConfigDescriptor (config : UsbDdkConfigDescriptor) : List Block :=
  rawClearConfiguration config ++ [.config]

/-! ## The entry point -/

structure ParseOutcome where
  ret : Int
  /-- What `*config` is assigned, `none` when it is left alone. -/
  config : Option UsbDdkConfigDescriptor
  /-- The configuration the run allocated. -/
  tmpConfig : UsbDdkConfigDescriptor
  /-- The blocks the run deleted. -/
  freed : List Block
  /-- The bytes of the vector that were not resolved. -/
  unresolved : Int
  events : List MemEvent
  deriving DecidableEq

/-- `configBuffer.data()` and `configBuffer.size()`, the latter converted to `int32_t`. -/
def vectorCursor (configBuffer : List UInt8) : Cursor where
  buffer := configBuffer
  size := toInt32 configBuffer.length

def parseUsbConfigDescriptor (fuel : Nat) (configBuffer : List UInt8) : Option ParseOutcome :=
  (parseConfiguration fuel {} (vectorCursor configBuffer)).map fun result =>
    if result.ret < 0 then
      { ret := result.ret, config := none, tmpConfig := result.config
        freed := freeUsbConfigDescriptor result.config
        unresolved := result.size, events := result.events }
    else
      { ret := result.ret, config := some result.config, tmpConfig := result.config
        freed := [], unresolved := result.size, events := result.events }

end ExtDevMgr.Usb
