import ExtDevMgr.Usb.Parser

/-!
# The callers of the parser

`OH_Usb_GetConfigDescriptor` of the DDK and `UsbDevSubscriber::GetInterfaceDescriptor` of the
service. Both ask the USB service for the vector; its reply, and the codes of the HDF framework that
the DDK translates, are parameters.
-/

namespace ExtDevMgr.Usb

@[simp] abbrev usbDdkNoPerm : Int := 201
@[simp] abbrev usbDdkIoFailed : Int := 27400003
@[simp] abbrev usbDdkTimeout : Int := 27400004

@[simp] abbrev edmOk : Int := 0

/-- `EDM_ERR_INVALID_OBJECT`, the seventh code from `EDM_ERR_OFFSET` on. -/
abbrev edmErrInvalidObject (edmErrOffset : Int) : Int := edmErrOffset + 6

/-- The codes of the HDF framework. -/
structure HdfCodes where
  hdfSuccess : Int
  hdfErrNotSupport : Int
  hdfFailure : Int
  hdfErrInvalidParam : Int
  hdfErrBadFd : Int
  hdfErrNoperm : Int
  hdfDevErrNoMemory : Int
  hdfErrOutOfRange : Int
  hdfErrIo : Int
  hdfErrTimeout : Int

/-- `g_errorMap`; of two entries with one key the first stays. -/
def errorMap (hdf : HdfCodes) : List (Int × Int) :=
  [(hdf.hdfSuccess, usbDdkSuccess),
    (hdf.hdfErrNotSupport, usbDdkInvalidOperation),
    (hdf.hdfFailure, usbDdkInvalidOperation),
    (hdf.hdfErrInvalidParam, usbDdkInvalidParameter),
    (hdf.hdfErrBadFd, usbDdkInvalidParameter),
    (hdf.hdfErrNoperm, usbDdkNoPerm),
    (hdf.hdfDevErrNoMemory, usbDdkMemoryError),
    (hdf.hdfErrOutOfRange, usbDdkMemoryError),
    (hdf.hdfErrIo, usbDdkIoFailed),
    (hdf.hdfErrTimeout, usbDdkTimeout)]

def transToUsbCode (hdf : HdfCodes) (ret : Int) (defaultCode : Int) : Int :=
  match (errorMap hdf).lookup ret with
  | some code => code
  | none => if defaultCode ≠ usbDdkSuccess then defaultCode else ret

/-- What a call of `GetConfigDescriptor` of the USB service returns and writes. -/
structure ServiceReply where
  ret : Int
  descriptor : List UInt8

/-- The return value, and what `*config` is assigned. `ddk` is the reply of `g_ddk`, `none` for a
null `g_ddk`, and `configValid` tells whether `config` is not null. -/
def ohUsbGetConfigDescriptor (fuel : Nat) (hdf : HdfCodes) (ddk : Option ServiceReply)
    (configValid : Bool) : Option (Int × Option UsbDdkConfigDescriptor) :=
  match ddk with
  | none => some (usbDdkInvalidOperation, none)
  | some reply =>
    if configValid = false then
      some (usbDdkInvalidParameter, none)
    else
      let ret := transToUsbCode hdf reply.ret usbDdkSuccess
      if ret ≠ usbDdkSuccess then
        some (ret, none)
      else
        (parseUsbConfigDescriptor fuel reply.descriptor).map fun outcome =>
          (outcome.ret, outcome.config)

/-- The loop that copies the first setting of each interface. -/
def copyInterfaces (edmErrOffset : Int) : List UsbDdkInterface → List UsbInterfaceDescriptor →
    Int × List UsbInterfaceDescriptor
  | [], interfaceList => (edmOk, interfaceList)
  | usbInterface :: rest, interfaceList =>
    match usbInterface.altsetting with
    | none => (edmErrInvalidObject edmErrOffset, interfaceList)
    | some _ => copyInterfaces edmErrOffset rest
        (interfaceList ++ [(usbInterface.slot 0).interfaceDescriptor])

/-- What `GetInterfaceDescriptor` does with the outcome of the parser. -/
def interfacesOf (edmErrOffset : Int) (outcome : ParseOutcome)
    (interfaceList : List UsbInterfaceDescriptor) : Int × List UsbInterfaceDescriptor :=
  match outcome.config with
  | none => (outcome.ret, interfaceList)
  | some config =>
    if outcome.ret ≠ edmOk then
      (outcome.ret, interfaceList)
    else
      match config.interface with
      | none => (edmErrInvalidObject edmErrOffset, interfaceList)
      | some interface => copyInterfaces edmErrOffset
          ((List.range config.configDescriptor.bNumInterfaces.toNat).map (interface.getD · {}))
          interfaceList

/-- The return value and the interface list. `iusb` is the code that `GetConfig` returns and
`iUsbDdk` the reply of the USB service, `none` for a null pointer. -/
def getInterfaceDescriptor (fuel : Nat) (edmErrOffset : Int) (iusb : Option Int)
    (iUsbDdk : Option ServiceReply) (interfaceList : List UsbInterfaceDescriptor) :
    Option (Int × List UsbInterfaceDescriptor) :=
  match iusb, iUsbDdk with
  | some ret, some reply =>
    if ret ≠ edmOk then
      some (ret, interfaceList)
    else if reply.ret ≠ edmOk then
      some (reply.ret, interfaceList)
    else
      (parseUsbConfigDescriptor fuel reply.descriptor).map fun outcome =>
        interfacesOf edmErrOffset outcome interfaceList
  | _, _ => some (edmErrInvalidObject edmErrOffset, interfaceList)

end ExtDevMgr.Usb
