import Mathlib.Order.Basic
import ExtDevMgr.Base.Machine
import ExtDevMgr.Base.Table
import ExtDevMgr.Manager.Controller

/-!
# The JavaScript side of the device manager

`device_manager_middle.cpp`: the calls that bind and unbind a device or its driver, and the callbacks of
the service, which answer the calls by tasks posted to the JavaScript thread. A call releases the lock of
the callback map while it waits for the service, so callbacks may come between its halves, and so may
the calls of other threads. A thread that waits in a call runs no tasks.
-/

namespace ExtDevMgr.Js
open Manager (DeviceId UsbErrCode)

/-! ## Device ids -/

def maxJsNumber : Nat := 9007199254740991

/-- The numbers of JavaScript with `napi_create_int64` and `napi_get_value_int64`, which are exact on the
safe integers. -/
structure Numbers (N : Type) where
  createInt64 : Int → N
  getValueInt64 : N → Int
  exact : ∀ i : Nat, i ≤ maxJsNumber → getValueInt64 (createInt64 i) = i

/-- Numbers that hold every integer. -/
def Numbers.integers : Numbers Int where
  createInt64 := id
  getValueInt64 := id
  exact _ _ := rfl

inductive JsValue (N : Type)
  | number (n : N)
  | bigint (i : Int)
  | function (f : Nat)
  | other
  deriving DecidableEq

variable {N : Type}

def JsValue.isFunction : JsValue N → Bool
  | .function _ => true
  | _ => false

def convertToJsDeviceId (num : Numbers N) (deviceId : DeviceId) : JsValue N :=
  if deviceId.toNat > maxJsNumber then
    .bigint deviceId.toNat
  else
    .number (num.createInt64 deviceId.toNat)

/-- A big integer that does not fit is cut to its low 64 bits. -/
def parseDeviceId (num : Numbers N) : JsValue N → Option DeviceId
  | .bigint i => some (UInt64.ofInt i)
  | .number n => some (UInt64.ofInt (num.getValueInt64 n))
  | _ => none

/-- An id that JavaScript was given is the same id when it comes back. -/
theorem parseDeviceId_convertToJsDeviceId (num : Numbers N) (deviceId : DeviceId) :
    parseDeviceId num (convertToJsDeviceId num deviceId) = some deviceId := by
  have hofInt : UInt64.ofInt (deviceId.toNat : Int) = deviceId := by
    rw [UInt64.ofInt, Int.emod_eq_of_lt (by omega) (by have := deviceId.toNat_lt; omega),
      Int.toNat_natCast]
    exact UInt64.ofNat_toNat
  unfold convertToJsDeviceId
  split
  case isTrue => rw [parseDeviceId, hofInt]
  case isFalse h => rw [parseDeviceId, num.exact _ (Nat.le_of_not_lt h), hofInt]

/-! ## Errors -/

abbrev permissionDenied : Int := 201
abbrev permissionNotSystemApp : Int := 202
abbrev parameterError : Int := 401
abbrev serviceException : Int := 22900001
abbrev serviceExceptionNew : Int := 26300001
abbrev serviceNotAllowAccess : Int := 26300002
abbrev serviceNotBound : Int := 26300003

/-- `ERROR_MESSAGES`. -/
def errorMessages : List (Int × String) := [
  (serviceException, "ExternalDeviceManager service exception."),
  (permissionDenied, "Permission verification failed. The application does not have the permission " ++
    "required to call the API."),
  (permissionNotSystemApp, "Permission denied. A non-system application cannot call a system API."),
  (parameterError, "Parameter error. Possible causes: 1. Mandatory parameters are left unspecified; " ++
    "2. Incorrect parameter types; 3. Parameter verification failed."),
  (serviceExceptionNew, "ExternalDeviceManager service exception."),
  (serviceNotAllowAccess, "Driver does not allow application access."),
  (serviceNotBound, "There is no binding relationship between the application and the driver.")]

def getNapiError (errorCode : Int) : Option String := errorMessages.lookup errorCode

structure BusinessError where
  code : Int
  message : String
  deriving DecidableEq

/-- Whatever the error is, it is shown as an exception of the service. -/
def convertToBusinessError (errMsg : UsbErrCode) : Option BusinessError :=
  if errMsg = .edmOk then
    none
  else
    (getNapiError serviceException).map fun msg => ⟨serviceException, msg⟩

/-! ## The state -/

/-- The calls of the two interfaces. -/
inductive Api
  | device
  | driver
  deriving DecidableEq

/-- References and deferreds are numbers that are given out once. -/
structure AsyncData where
  deviceId : DeviceId
  env : Nat
  bindCallback : Option Nat := none
  onDisconnect : Option Nat := none
  unbindCallback : Option Nat := none
  bindDeferred : Option Nat := none
  unbindDeferred : Option Nat := none
  unBindErrMsg : UsbErrCode := .edmNok

/-- What a thread keeps while it waits for the answer of the service. `callback` tells whether the call
was given a function to call back. -/
inductive Frame
  | bind (api : Api) (data : Nat) (callback : Bool)
  | unbind (api : Api) (deviceId : DeviceId) (callback : Bool)
  deriving DecidableEq

inductive Task
  | onConnect (data : Nat) (drvExtObj : Option Nat) (errMsg : UsbErrCode)
  | onDisconnect (data : Nat) (errMsg : UsbErrCode)
  deriving DecidableEq

def Task.data : Task → Nat
  | .onConnect data .. => data
  | .onDisconnect data _ => data

/-- What JavaScript sees: the calls that were given a reference or a deferred, and what is done with
these. -/
inductive Event (N : Type)
  | throwErr (err : BusinessError)
  | bindDevice (deviceId : JsValue N) (onDisconnect : Nat)
  | awaitBind (deviceId : DeviceId) (handle : Nat)
  | awaitUnbind (deviceId : DeviceId) (handle : Nat)
  | bound (handle : Nat) (err : Option BusinessError) (deviceId : JsValue N) (remote : Option Nat)
  | disconnected (onDisconnect : Nat) (err : Option BusinessError) (deviceId : JsValue N)
  | unbound (handle : Nat) (err : Option BusinessError) (deviceId : JsValue N)
  deriving DecidableEq

/-- `datas` holds every `AsyncData` ever made, so that an index stays what it is. The log has the newest
event first, each with the thread it belongs to. -/
structure Middle (N : Type) where
  datas : List AsyncData := []
  callbackMap : Table DeviceId Nat := ∅
  handles : Nat := 0
  frames : Table Nat Frame := ∅
  tasks : List Task := []
  log : List (Nat × Event N) := []

namespace Middle
variable (num : Numbers N) (s : Middle N)

def emit (env : Nat) (e : Event N) : Middle N := { s with log := (env, e) :: s.log }

def throwErr (env : Nat) (errCode : Int) : Middle N :=
  match getNapiError errCode with
  | none => s
  | some msg => s.emit env (.throwErr ⟨errCode, msg⟩)

def modifyData (data : Nat) (f : AsyncData → AsyncData) : Middle N :=
  { s with datas := s.datas.modify data f }

def returned (env : Nat) : Middle N := { s with frames := s.frames.erase env }

/-- Takes the entry out of the map if it is still the own one. -/
def eraseOwn (deviceId : DeviceId) (data : Nat) : Middle N :=
  if s.callbackMap.lookup deviceId = some data then
    { s with callbackMap := s.callbackMap.erase deviceId }
  else
    s

/-! ## Binding -/

/-- New data takes the entry of the device, and the thread goes on to wait for the service. -/
def enterBind (api : Api) (env : Nat) (id : JsValue N) (deviceId : DeviceId) (callback : Bool) :
    Middle N :=
  { s with
    datas := s.datas ++ [{ deviceId, env, onDisconnect := some s.handles }]
    callbackMap := s.callbackMap.insert deviceId s.datas.length
    handles := s.handles + 1
    frames := s.frames.insert env (.bind api s.datas.length callback)
    log := (env, .bindDevice id s.handles) :: s.log }

/-- `BindDevice` and `BindDriverWithDeviceId` up to the call of the service. -/
def bindCall (api : Api) (env : Nat) (argv : List (JsValue N)) : Middle N :=
  match argv with
  | id :: onDisconnect :: more =>
    match parseDeviceId num id with
    | none => s.throwErr env parameterError
    | some deviceId =>
      if !onDisconnect.isFunction then
        s.throwErr env parameterError
      else
        s.enterBind api env id deviceId (more.head?.any (·.isFunction))
  | _ => s.throwErr env parameterError

def bindDevice (env : Nat) (argv : List (JsValue N)) : Middle N := bindCall num s .device env argv

def bindDriverWithDeviceId (env : Nat) (argv : List (JsValue N)) : Middle N :=
  bindCall num s .driver env argv

/-- The error that is thrown for the code of the service. -/
def bindError : Api → UsbErrCode → Int
  | .device, retCode => if retCode = .edmErrNoPerm then permissionDenied else serviceException
  | .driver, retCode =>
    if retCode = .edmErrNoPerm then permissionDenied
    else if retCode = .edmErrServiceNotAllowAccess then serviceNotAllowAccess
    else serviceExceptionNew

/-- The error that is thrown if no reference or promise can be made. -/
def createError : Api → Int
  | .device => serviceException
  | .driver => serviceExceptionNew

def setBindHandle (callback : Bool) (handle : Nat) (data : AsyncData) : AsyncData :=
  if callback then
    { data with bindCallback := some handle }
  else
    { data with bindDeferred := some handle }

/-- The entry is given up together with the reference to `onDisconnect`. -/
def abandon (data : Nat) : Middle N :=
  match s.datas[data]? with
  | none => s
  | some d => (s.eraseOwn d.deviceId data).modifyData data fun d => { d with onDisconnect := none }

/-- The call of the service has returned `retCode`; `status` tells whether the reference or the promise
could be made. -/
def bindReturned (api : Api) (env data : Nat) (callback : Bool) (retCode : UsbErrCode)
    (status : Bool) : Middle N :=
  if retCode ≠ .edmOk then
    ((s.abandon data).throwErr env (bindError api retCode)).returned env
  else if !status then
    ((s.abandon data).throwErr env (createError api)).returned env
  else
    match s.datas[data]? with
    | none => s
    | some d =>
      let s := s.modifyData data (setBindHandle callback s.handles)
      ({ s with handles := s.handles + 1 }.emit env (.awaitBind d.deviceId s.handles)).returned env

/-! ## Unbinding -/

/-- `UnbindDevice` and `UnbindDriverWithDeviceId` up to the call of the service. -/
def unbindCall (api : Api) (env : Nat) (argv : List (JsValue N)) : Middle N :=
  match argv with
  | id :: more =>
    match parseDeviceId num id with
    | none => s.throwErr env parameterError
    | some deviceId =>
      { s with frames := s.frames.insert env (.unbind api deviceId (more.head?.any (·.isFunction))) }
  | _ => s.throwErr env parameterError

def unbindDevice (env : Nat) (argv : List (JsValue N)) : Middle N := unbindCall num s .device env argv

def unbindDriverWithDeviceId (env : Nat) (argv : List (JsValue N)) : Middle N :=
  unbindCall num s .driver env argv

def unbindError : Api → UsbErrCode → Int
  | .device, retCode => if retCode = .edmErrNoPerm then permissionDenied else serviceException
  | .driver, retCode =>
    if retCode = .edmErrNoPerm then permissionDenied
    else if retCode = .edmErrServiceNotBound then serviceNotBound
    else serviceExceptionNew

def setUnbindHandle (callback : Bool) (handle : Nat) (data : AsyncData) : AsyncData :=
  if callback then
    { data with unbindCallback := some handle }
  else
    { data with unbindDeferred := some handle }

/-- The handle goes to the entry that the map has now. -/
def unbindReturned (api : Api) (env : Nat) (deviceId : DeviceId) (callback : Bool)
    (retCode : UsbErrCode) : Middle N :=
  if retCode ≠ .edmOk then
    (s.throwErr env (unbindError api retCode)).returned env
  else
    match s.callbackMap.lookup deviceId with
    | none => (s.throwErr env serviceException).returned env
    | some data =>
      let s := s.modifyData data (setUnbindHandle callback s.handles)
      ({ s with handles := s.handles + 1 }.emit env (.awaitUnbind deviceId s.handles)).returned env

/-! ## The callbacks of the service -/

/-- `napi_send_event`, which takes the task where `sent` is set. -/
def sendEvent (task : Task) (sent : Bool) : Middle N :=
  if sent then { s with tasks := s.tasks ++ [task] } else s

def onConnect (deviceId : DeviceId) (drvExtObj : Option Nat) (errMsg : UsbErrCode) (sent : Bool) :
    Middle N :=
  match s.callbackMap.lookup deviceId with
  | none => s
  | some data =>
    let s := if errMsg ≠ .edmOk then { s with callbackMap := s.callbackMap.erase deviceId } else s
    s.sendEvent (.onConnect data drvExtObj errMsg) sent

def hasNoCallback (d : AsyncData) : Bool :=
  d.onDisconnect.isNone && d.unbindCallback.isNone && d.unbindDeferred.isNone

def onDisconnect (deviceId : DeviceId) (errMsg : UsbErrCode) (sent : Bool) : Middle N :=
  match s.callbackMap.lookup deviceId with
  | none => s
  | some data =>
    let s := { s with callbackMap := s.callbackMap.erase deviceId }
    if (s.datas[data]?).any hasNoCallback then s else s.sendEvent (.onDisconnect data errMsg) sent

def onUnBind (deviceId : DeviceId) (errMsg : UsbErrCode) : Middle N :=
  match s.callbackMap.lookup deviceId with
  | none => s
  | some data =>
    s.modifyData data fun d =>
      if d.unbindCallback.isNone && d.unbindDeferred.isNone then d
      else { d with unBindErrMsg := errMsg }

/-! ## The tasks -/

/-- The bind callback or promise is given the driver; without either nobody is told. -/
def runOnConnect (d : AsyncData) (drvExtObj : Option Nat) (errMsg : UsbErrCode) : Middle N :=
  match d.bindCallback.or d.bindDeferred with
  | none => s
  | some handle =>
    s.emit d.env (.bound handle (convertToBusinessError errMsg) (convertToJsDeviceId num d.deviceId)
      drvExtObj)

def callOnDisconnect (d : AsyncData) (errMsg : UsbErrCode) : Middle N :=
  match d.onDisconnect with
  | none => s
  | some handle =>
    s.emit d.env (.disconnected handle (convertToBusinessError errMsg)
      (convertToJsDeviceId num d.deviceId))

/-- The unbind callback or promise gets the error that was kept for it. -/
def answerUnbind (d : AsyncData) : Middle N :=
  match d.unbindCallback.or d.unbindDeferred with
  | none => s
  | some handle =>
    s.emit d.env (.unbound handle (convertToBusinessError d.unBindErrMsg)
      (convertToJsDeviceId num d.deviceId))

/-- What JavaScript does in the first callback cannot reach the data of the task, which has left the
map. -/
def runOnDisconnect (d : AsyncData) (errMsg : UsbErrCode) : Middle N :=
  (s.callOnDisconnect num d errMsg).answerUnbind num d

def runTaskOf (d : AsyncData) : Task → Middle N
  | .onConnect _ drvExtObj errMsg => s.runOnConnect num d drvExtObj errMsg
  | .onDisconnect _ errMsg => s.runOnDisconnect num d errMsg

/-- The task is one of the thread `env`. -/
def isTaskOf (env : Nat) (task : Task) : Bool := (s.datas[task.data]?).any (·.env = env)

/-- The thread `env` runs the first of its tasks. -/
def runTask (env : Nat) : Middle N :=
  match s.tasks.find? (s.isTaskOf env) with
  | none => s
  | some task =>
    match s.datas[task.data]? with
    | none => s
    | some d => { s with tasks := s.tasks.erase task }.runTaskOf num d task

end Middle

/-! ## Runs -/

inductive Action (N : Type)
  | bindDevice (env : Nat) (argv : List (JsValue N))
  | bindDriverWithDeviceId (env : Nat) (argv : List (JsValue N))
  | unbindDevice (env : Nat) (argv : List (JsValue N))
  | unbindDriverWithDeviceId (env : Nat) (argv : List (JsValue N))
  | returned (env : Nat) (retCode : UsbErrCode) (status : Bool)
  | onConnect (deviceId : DeviceId) (drvExtObj : Option Nat) (errMsg : UsbErrCode) (sent : Bool)
  | onDisconnect (deviceId : DeviceId) (errMsg : UsbErrCode) (sent : Bool)
  | onUnBind (deviceId : DeviceId) (errMsg : UsbErrCode)
  | runTask (env : Nat)

namespace Middle
variable (num : Numbers N) (s : Middle N)

/-- The call that the thread waits in goes on. -/
def resume (env : Nat) (retCode : UsbErrCode) (status : Bool) : Middle N :=
  match s.frames.lookup env with
  | none => s
  | some (.bind api data callback) => s.bindReturned api env data callback retCode status
  | some (.unbind api deviceId callback) => s.unbindReturned api env deviceId callback retCode

def step : Action N → Middle N
  | .bindDevice env argv => bindDevice num s env argv
  | .bindDriverWithDeviceId env argv => bindDriverWithDeviceId num s env argv
  | .unbindDevice env argv => unbindDevice num s env argv
  | .unbindDriverWithDeviceId env argv => unbindDriverWithDeviceId num s env argv
  | .returned env retCode status => s.resume env retCode status
  | .onConnect deviceId drvExtObj errMsg sent => s.onConnect deviceId drvExtObj errMsg sent
  | .onDisconnect deviceId errMsg sent => s.onDisconnect deviceId errMsg sent
  | .onUnBind deviceId errMsg => s.onUnBind deviceId errMsg
  | .runTask env => runTask num s env

/-- A thread calls and runs tasks only where it does not wait. -/
def Enabled : Action N → Prop
  | .bindDevice env _ | .bindDriverWithDeviceId env _ | .unbindDevice env _
  | .unbindDriverWithDeviceId env _ | .runTask env => env ∉ s.frames
  | .returned env _ _ => env ∈ s.frames
  | _ => True

instance : DecidablePred s.Enabled := fun action => by
  cases action <;> unfold Enabled <;> infer_instance

def machine : Machine (Middle N) (Action N) where
  init := {}
  enabled := Enabled
  step := step num

end Middle
end ExtDevMgr.Js
