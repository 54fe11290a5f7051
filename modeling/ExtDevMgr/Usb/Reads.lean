import ExtDevMgr.Base.Access
import ExtDevMgr.Usb.Parser

/-!
# The parser with its reads

The functions of the parser once more, with the offsets in the vector that they read and the
remaining sizes that they compute. A `Pointer` is a cursor together with its offset from the first
byte of the vector; the values are computed from the cursor alone.
-/

namespace ExtDevMgr.Usb.Reads
open Access

inductive InputEvent where
  /-- A read of the byte at an offset from the first byte of the vector. -/
  | read (offset : Int)
  /-- A remaining size, an `int32_t`, after a subtraction. -/
  | size (value : Int)
  deriving DecidableEq

abbrev Run := Access InputEvent

structure Pointer where
  cursor : Cursor
  offset : Int

namespace Pointer
variable (p : Pointer)

def byteAt (i : Nat) : Run UInt8 := touch (.read (p.offset + i)) (Usb.byteAt p.cursor.buffer i)

def descriptorHeader : Run UsbDescriptorHeader := do
  let bLength ← p.byteAt 0
  let bDescriptorType ← p.byteAt 1
  return { bLength, bDescriptorType }

def take (n : Nat) : Run (List UInt8) :=
  touchAll ((List.range n).map fun i : Nat => .read (p.offset + i)) (p.cursor.buffer.take n)

/-- `buffer += n; size -= n`. -/
def advance (n : Int) : Run Pointer :=
  touch (.size (p.cursor.size - n)) { cursor := p.cursor.advance n, offset := p.offset + n }

end Pointer

def parseDescriptor {α : Type} (descriptorType : UsbDdkDescriptorType)
    (load : List UInt8 → α → α) (dest : α) (destLen : Nat) (source : Pointer) (sourceLen : Int) :
    Run (Int × α) :=
  let descriptorLen := getDescriptorLength descriptorType
  if descriptorLen = int32Max then
    return (usbDdkInvalidOperation, dest)
  else if sourceLen < descriptorLen then
    return (usbDdkInvalidOperation, dest)
  else if memcpyS destLen descriptorLen.toNat = false then
    return (usbDdkMemoryError, dest)
  else do
    let bytes ← source.take descriptorLen.toNat
    return (usbDdkSuccess, load bytes dest)

def findNextDescriptorBody (s : Pointer × Int) : Run ((Pointer × Int) ⊕ Int) :=
  let (p, len) := s
  if p.cursor.size < descHeaderLength then
    return .inr len
  else do
    let header ← p.descriptorHeader
    if header.bDescriptorType = usbDdkDtInterface ∨
        header.bDescriptorType = usbDdkDtEndpoint then
      return .inr len
    else if (header.bLength.toNat : Int) < descHeaderLength ∨
        (header.bLength.toNat : Int) > p.cursor.size then
      return .inr len
    else
      let p ← p.advance header.bLength.toNat
      return .inl (p, len + header.bLength.toNat)

def findNextDescriptor (p : Pointer) : Run Int :=
  loop findNextDescriptorBody (fun s => s.1.cursor.size.toNat) 0 (p, 0)

def fillExtraDescriptor (extra : Option (List UInt8)) (extraLength : Nat) (buffer : Pointer)
    (bufferLen : Int) : Run (Int × Option (List UInt8) × Nat) :=
  if bufferLen = 0 then
    return (usbDdkInvalidOperation, extra, extraLength)
  else
    let extraLenTmp := (extraLength + bufferLen.toNat) % 2 ^ 32
    let old := if extraLength = 0 then none else extra
    if old.isSome && !memcpyS extraLenTmp extraLength then
      return (usbDdkMemoryError, extra, extraLength)
    else if !memcpyS ((2 ^ 32 + extraLenTmp - extraLength) % 2 ^ 32) bufferLen.toNat then
      return (usbDdkMemoryError, extra, extraLength)
    else do
      let kept := (old.getD []).take extraLength
      let zeros := List.replicate (extraLength - kept.length) 0
      let bytes ← buffer.take bufferLen.toNat
      return (usbDdkSuccess, some (kept ++ zeros ++ bytes), extraLenTmp)

def parseEndpoint (endPoint : UsbDdkEndpointDescriptor) (p : Pointer) :
    Run (Int × UsbDdkEndpointDescriptor) :=
  if p.cursor.size < descHeaderLength then
    return (usbDdkInvalidOperation, endPoint)
  else do
    let header ← p.descriptorHeader
    if header.bDescriptorType ≠ usbDdkDtEndpoint ∨
        (header.bLength.toNat : Int) > p.cursor.size then
      return (0, endPoint)
    else if (header.bLength.toNat : Int) < usbDdkDtEndpointSize then
      return (usbDdkInvalidOperation, endPoint)
    else
      let (_, desc) ← parseDescriptor .endpoint UsbEndpointDescriptor.load
        endPoint.endpointDescriptor 9 p p.cursor.size
      let endPoint := { endPoint with endpointDescriptor := desc }
      let p ← p.advance header.bLength.toNat
      let len ← findNextDescriptor p
      if len = 0 then
        return (header.bLength.toNat, endPoint)
      else
        let (ret, extra, extraLength) ←
          fillExtraDescriptor endPoint.extra endPoint.extraLength p len
        if ret ≠ usbDdkSuccess then
          return (ret, endPoint)
        else
          return (header.bLength.toNat + len, { endPoint with extra, extraLength })

def rawParseDescriptor (p : Pointer) (descriptorType : UsbDdkDescriptorType)
    (ddkIntfDesc : UsbDdkInterfaceDescriptor) : Run (Int × UsbDdkInterfaceDescriptor) := do
  let (ret, desc) ← parseDescriptor descriptorType UsbInterfaceDescriptor.load
    ddkIntfDesc.interfaceDescriptor 9 p p.cursor.size
  let ddkIntfDesc := { ddkIntfDesc with interfaceDescriptor := desc }
  if ret ≠ usbDdkSuccess then
    return (ret, ddkIntfDesc)
  else if desc.bDescriptorType ≠ usbDdkDtInterface ∨
      (desc.bLength.toNat : Int) > p.cursor.size then
    return (usbDdkInvalidParameter, ddkIntfDesc)
  else if (desc.bLength.toNat : Int) < usbDdkDtInterfaceSize ∨
      desc.bNumEndpoints.toNat > usbMaxEndpoints then
    return (usbDdkInvalidOperation, ddkIntfDesc)
  else
    return (ret, ddkIntfDesc)

/-- The loop of `ParseInterfaceEndpoint`, with the offset of its cursor. -/
def parseEndpoints : Nat → Nat → EndpointLoop × Int → Run (EndpointLoop × Int)
  | 0, _, s => return s
  | n + 1, i, (st, offset) => do
    let (ret, endPoint) ← parseEndpoint (st.endPoint.getD i {}) ⟨st.cursor, offset⟩
    let st := { st with ret, endPoint := st.endPoint.set i endPoint }
    if ret = 0 then
      return ({ st with bNumEndpoints := UInt8.ofNat i }, offset)
    else if ret < 0 then
      return (st, offset)
    else
      let p ← Pointer.advance ⟨st.cursor, offset⟩ ret
      parseEndpoints n (i + 1) ({ st with cursor := p.cursor }, p.offset)

def parseInterfaceEndpoint (ddkIntfDesc : UsbDdkInterfaceDescriptor) (p : Pointer) :
    Run (Int × UsbDdkInterfaceDescriptor × Pointer) :=
  let desc := ddkIntfDesc.interfaceDescriptor
  if 0 < desc.bNumEndpoints.toNat then do
    let (st, offset) ← parseEndpoints desc.bNumEndpoints.toNat 0 ({
      ret := usbDdkSuccess
      bNumEndpoints := desc.bNumEndpoints
      endPoint := List.replicate desc.bNumEndpoints.toNat {}
      cursor := p.cursor }, p.offset)
    return (st.ret, { ddkIntfDesc with
      interfaceDescriptor := { desc with bNumEndpoints := st.bNumEndpoints }
      endPoint := some st.endPoint }, ⟨st.cursor, offset⟩)
  else
    return (usbDdkSuccess, ddkIntfDesc, p)

/-! ## The counting pass -/

def getInterfaceNumberDes (p : Pointer) (nums : List UInt8 × List UInt8) :
    Run (List UInt8 × List UInt8) := do
  let bLength ← p.byteAt 0
  if (bLength.toNat : Int) < usbDdkDtInterfaceSize then
    return nums
  else
    let _ ← p.byteAt 2
    return Usb.getInterfaceNumberDes p.cursor.buffer nums

def countHeader (p : Pointer) (header : UsbDescriptorHeader) (nums : List UInt8 × List UInt8) :
    Run (List UInt8 × List UInt8) :=
  if header.bDescriptorType = usbDdkDtInterface then
    getInterfaceNumberDes p nums
  else
    return nums

def getInterfaceNumberBody (s : Pointer × (List UInt8 × List UInt8)) :
    Run ((Pointer × (List UInt8 × List UInt8)) ⊕ (List UInt8 × List UInt8)) :=
  let (p, nums) := s
  if p.cursor.size ≤ 0 then
    return .inr nums
  else if p.cursor.size < descHeaderLength then
    return .inr nums
  else do
    let header ← p.descriptorHeader
    if (header.bLength.toNat : Int) > p.cursor.size ∨
        (header.bLength.toNat : Int) < descHeaderLength then
      return .inr nums
    else
      let nums ← countHeader p header nums
      let p ← p.advance header.bLength.toNat
      return .inl (p, nums)

def getInterfaceNumber (p : Pointer) : Run (List UInt8 × List UInt8) :=
  loop getInterfaceNumberBody (fun s => s.1.cursor.size.toNat) ([], []) (p, ([], []))

/-! ## The parsing pass -/

/-- The extra bytes behind an interface descriptor. -/
def fillExtras (p : Pointer) (extra : Option (List UInt8)) (extraLength : Nat) (len : Int) :
    Run (Int × Option (List UInt8) × Nat) :=
  if len ≠ 0 then
    fillExtraDescriptor extra extraLength p len
  else
    return (usbDdkSuccess, extra, extraLength)

/-- Whether `ParseInterface` leaves its loop behind the endpoints. -/
def atLast (p : Pointer) (interfaceNumber : Int) : Run Bool :=
  if p.cursor.size < usbDdkDtInterfaceSize then
    return true
  else do
    let bDescriptorType ← p.byteAt 1
    let bInterfaceNumber ← p.byteAt 2
    return bDescriptorType ≠ usbDdkDtInterface ∨ (bInterfaceNumber.toNat : Int) ≠ interfaceNumber

def parseAltSetting (s : InterfaceLoop × Int) (k : Nat) (desc : UsbDdkInterfaceDescriptor) :
    Run ((InterfaceLoop × Int) ⊕ InterfaceResult) := do
  let (st, position) := s
  let lost := if desc.extra.isSome || desc.endPoint.isSome then [MemEvent.lost k] else []
  let usbInterface :=
    { st.usbInterface with numAltsetting := st.usbInterface.numAltsetting + 1 }
  let desc := { desc with extra := none, extraLength := 0, endPoint := none }
  let interfaceNumber := if st.interfaceNumber = -1 then
    (desc.interfaceDescriptor.bInterfaceNumber.toNat : Int) else st.interfaceNumber
  let bLength : Int := desc.interfaceDescriptor.bLength.toNat
  let p ← Pointer.advance ⟨st.cursor, position⟩ bLength
  let offset := st.offset + bLength
  let len ← findNextDescriptor p
  let (fill, extra, extraLength) ← fillExtras p desc.extra desc.extraLength len
  let desc := { desc with extra, extraLength }
  let st := { st with usbInterface, interfaceNumber, events := st.events ++ lost }
  if fill ≠ usbDdkSuccess then
    return .inr ({ st with usbInterface := usbInterface.setSlot k desc }.leave usbDdkInvalidParameter)
  else
    let p ← p.advance len
    let offset := offset + len
    let (ret, desc, p') ← parseInterfaceEndpoint desc p
    let offset := offset + (p.cursor.size - p'.cursor.size)
    let st := { st with usbInterface := usbInterface.setSlot k desc, cursor := p'.cursor, offset }
    if ret < usbDdkSuccess then
      return .inr (st.leave ret)
    else
      let last ← atLast p' interfaceNumber
      if last then
        return .inr (st.leave (toInt32 offset))
      else
        return .inl (st, p'.offset)

def parseInterfaceBody (s : InterfaceLoop × Int) :
    Run ((InterfaceLoop × Int) ⊕ InterfaceResult) :=
  let (st, position) := s
  if st.cursor.size < usbDdkDtInterfaceSize then
    return .inr (st.leave (toInt32 st.offset))
  else do
    let k := st.usbInterface.numAltsetting.toNat
    let (ret, desc) ←
      rawParseDescriptor ⟨st.cursor, position⟩ .interface (st.usbInterface.slot k)
    let st := { st with
      usbInterface := st.usbInterface.setSlot k desc
      events := st.events ++ [.altWrite k st.usbInterface.slots st.cursor.size] }
    if ret = usbDdkInvalidParameter then
      return .inr (st.leave (toInt32 st.offset))
    else if ret = usbDdkInvalidOperation then
      return .inr (st.leave ret)
    else
      parseAltSetting (st, position) k desc

def parseInterface (usbInterface : UsbDdkInterface) (p : Pointer) : Run InterfaceResult :=
  if usbInterface.numAltsetting.toNat > usbMaxAltSetting then
    return { ret := usbDdkInvalidOperation, usbInterface, events := [] }
  else
    loop parseInterfaceBody (fun s => s.1.cursor.size.toNat)
      { ret := 0, usbInterface, events := [] }
      ({ usbInterface, cursor := p.cursor, offset := 0, interfaceNumber := -1, events := [] },
        p.offset)

def parseConfigurationInterface (interfaceNums : List UInt8) (s : ConfigLoop × Int) :
    Run ((ConfigLoop × Int) ⊕ ConfigResult) :=
  let (st, position) := s
  if st.cursor.size ≤ descHeaderLength then
    return .inr (st.leave st.cursor.size)
  else if st.config.configDescriptor.bNumInterfaces.toNat ≥ usbMaxInterfaces then
    return .inr (st.leave usbDdkInvalidParameter)
  else do
    let bInterfaceNumber ← Pointer.byteAt ⟨st.cursor, position⟩ 2
    match interfaceIndex st.config interfaceNums bInterfaceNumber with
    | none => return .inr (st.leave usbDdkInvalidParameter)
    | some i =>
      let result ←
        parseInterface ((st.config.interface.getD []).getD i {}) ⟨st.cursor, position⟩
      let st := { st with
        config := st.config.setInterface i result.usbInterface
        events := st.events ++ result.events }
      if result.ret < 0 then
        return .inr (st.leave result.ret)
      else
        let p ← Pointer.advance ⟨st.cursor, position⟩ result.ret
        return .inl ({ st with cursor := p.cursor }, p.offset)

def parseConfigurationDesBody (interfaceNums : List UInt8) (s : ConfigLoop × Int) :
    Run ((ConfigLoop × Int) ⊕ ConfigResult) :=
  let (st, position) := s
  if st.cursor.size < descHeaderLength then
    return .inr (st.leave st.cursor.size)
  else do
    let len ← findNextDescriptor ⟨st.cursor, position⟩
    if len = 0 then
      parseConfigurationInterface interfaceNums (st, position)
    else
      let (ret, extra, extraLength) ←
        fillExtraDescriptor st.config.extra st.config.extraLength ⟨st.cursor, position⟩ len
      let st := { st with config := { st.config with extra, extraLength } }
      if ret ≠ usbDdkSuccess then
        return .inr (st.leave ret)
      else
        let p ← Pointer.advance ⟨st.cursor, position⟩ len
        parseConfigurationInterface interfaceNums ({ st with cursor := p.cursor }, p.offset)

/-- The loop of `ParseConfigurationDes`, for at most `fuel` turns. -/
def parseConfigurationDes (fuel : Nat) (interfaceNums : List UInt8) (s : ConfigLoop × Int) :
    Run (Option ConfigResult) :=
  iterate (parseConfigurationDesBody interfaceNums) fuel s

def parseConfigurationEntry (config : UsbDdkConfigDescriptor) (p : Pointer) :
    Run ((List UInt8 × (ConfigLoop × Int)) ⊕ ConfigResult) :=
  if p.cursor.size < usbDdkDtConfigSize then
    return .inr { ret := usbDdkInvalidOperation, config, size := p.cursor.size, events := [] }
  else do
    let (_, desc) ← parseDescriptor .config UsbConfigDescriptor.load config.configDescriptor 9
      p p.cursor.size
    let config := { config with configDescriptor := desc }
    if desc.bDescriptorType ≠ usbDdkDtConfig ∨ (desc.bLength.toNat : Int) < usbDdkDtConfigSize ∨
        (desc.bLength.toNat : Int) > p.cursor.size % 2 ^ 8 ∨
        desc.bNumInterfaces.toNat > usbMaxInterfaces then
      return .inr { ret := usbDdkInvalidOperation, config, size := p.cursor.size, events := [] }
    else
      let (interfaceNums, alternateSetting) ← getInterfaceNumber p
      let intfNum := interfaceNums.length
      if intfNum = 0 ∨ intfNum > usbMaxAltSetting then
        return .inr { ret := usbDdkInvalidOperation, config, size := p.cursor.size, events := [] }
      else
        let p ← p.advance desc.bLength.toNat
        return .inl (interfaceNums, {
          config := { config with
            configDescriptor := { desc with bNumInterfaces := UInt8.ofNat intfNum }
            interface := some (allocateInterfaces alternateSetting) }
          cursor := p.cursor
          events := [] }, p.offset)

def parseConfiguration (fuel : Nat) (config : UsbDdkConfigDescriptor) (p : Pointer) :
    Run (Option ConfigResult) := do
  match ← parseConfigurationEntry config p with
  | .inl (interfaceNums, s) => parseConfigurationDes fuel interfaceNums s
  | .inr result => return some result

def parseUsbConfigDescriptor (fuel : Nat) (configBuffer : List UInt8) :
    Run (Option ParseOutcome) := do
  let result ← parseConfiguration fuel {} ⟨vectorCursor configBuffer, 0⟩
  return result.map fun result =>
    if result.ret < 0 then
      { ret := result.ret, config := none, tmpConfig := result.config
        freed := freeUsbConfigDescriptor result.config
        unresolved := result.size, events := result.events }
    else
      { ret := result.ret, config := some result.config, tmpConfig := result.config
        freed := [], unresolved := result.size, events := result.events }

end ExtDevMgr.Usb.Reads
