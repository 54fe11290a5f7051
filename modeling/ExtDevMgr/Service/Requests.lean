import ExtDevMgr.Base.History
import ExtDevMgr.Service.DriverExtMgr

/-!
# Runs of the service

Requests of clients come between the operations that no client asks for. Every run of the service is a
run of the device manager in which the refused requests do not occur (`simulates`), so they are never
noticed by anybody else (`refused_unnoticed`).
-/

namespace ExtDevMgr.Service
open Manager Manager.ExtPermissionManager

inductive Request
  | queryDevice (busType : UInt32)
  | queryDeviceInfo (deviceId : Option DeviceId)
  | bindDevice (r : Replies) (deviceId : DeviceId) (connectCallback : Option DriverExtMgrCallback)
  | unBindDevice (r : Replies) (deviceId : DeviceId)
  | bindDriverWithDeviceId (r : Replies) (access : AccessReplies) (deviceId : DeviceId)
      (connectCallback : Option DriverExtMgrCallback)
  | unBindDriverWithDeviceId (r : Replies) (deviceId : DeviceId)

inductive Reply
  | errorCode (errorCode : ErrorCode)
  | devices (reply : ErrorCode × List Ipc.USBDevice)
  | deviceInfos (reply : ErrorCode × List Ipc.USBDeviceInfoData)

/-- What a request is answered, and the state after it. -/
def serve (records : DeviceRecords) (t : TokenReplies) (c : Caller) (m : ExtDeviceManager) :
    Request → Reply × ExtDeviceManager
  | .queryDevice busType => (.devices (queryDevice t records c busType m), m)
  | .queryDeviceInfo deviceId => (.deviceInfos (queryDeviceInfo t records c deviceId m), m)
  | .bindDevice r deviceId connectCallback =>
    (bindDevice t r c deviceId connectCallback m).map .errorCode id
  | .unBindDevice r deviceId => (unBindDevice t r c deviceId m).map .errorCode id
  | .bindDriverWithDeviceId r access deviceId connectCallback =>
    (bindDriverWithDeviceId t r c deviceId connectCallback m access).map .errorCode id
  | .unBindDriverWithDeviceId r deviceId =>
    (unBindDriverWithDeviceId t r c deviceId m).map .errorCode id

/-- The permission that a request needs. -/
def Request.permission : Request → Name
  | .queryDevice _ | .queryDeviceInfo _ | .bindDevice .. | .unBindDevice .. => permissionName
  | .bindDriverWithDeviceId .. | .unBindDriverWithDeviceId .. => accessDdkDriversPermission

inductive Action
  /-- `t` tells what the token service says of the caller. -/
  | request (t : TokenReplies) (c : Caller) (q : Request)
  /-- An operation that no client asks for. -/
  | internal (a : Manager.Action)

def isInternal : Manager.Action → Bool
  | .connectDevice .. | .connectDriverWithDeviceId .. | .disConnectDevice ..
  | .disConnectDriverWithDeviceId .. => false
  | _ => true

def Enabled (s : System) : Action → Prop
  | .request .. => True
  | .internal a => isInternal a ∧ s.Enabled a

instance (s : System) : DecidablePred (Enabled s) := fun a => by
  cases a <;> unfold Enabled <;> infer_instance

def step (records : DeviceRecords) (s : System) : Action → System
  | .request t c q => { s with manager := (serve records t c s.manager q).2 }
  | .internal a => s.step a

/-- `driverChangeCallback` tells whether a listener for driver changes has been set. -/
def machine (records : DeviceRecords) (driverChangeCallback : Bool) : Machine System Action where
  init := (System.machine driverChangeCallback).init
  enabled := Enabled
  step := step records

instance (records : DeviceRecords) (driverChangeCallback : Bool) (s : System) :
    DecidablePred ((machine records driverChangeCallback).enabled s) :=
  inferInstanceAs (DecidablePred (Enabled s))

/-! ## The device manager below -/

/-- The operation that a request with the permission comes to. -/
def Request.operation (t : TokenReplies) (c : Caller) : Request → Option Manager.Action
  | .queryDevice _ | .queryDeviceInfo _ => none
  | .bindDevice r deviceId connectCallback =>
    some (.connectDevice r deviceId c.tokenId connectCallback)
  | .unBindDevice r deviceId => some (.disConnectDevice r deviceId c.tokenId)
  | .bindDriverWithDeviceId r access deviceId connectCallback =>
    some (.connectDriverWithDeviceId r access deviceId c.tokenId (accessibleAppIds t c.tokenId)
      connectCallback)
  | .unBindDriverWithDeviceId r deviceId => some (.disConnectDriverWithDeviceId r deviceId c.tokenId)

/-- A request without the permission is refused. -/
def granted : Action → Bool
  | .request t c q => verifyPermission t c.tokenId q.permission
  | .internal _ => true

def operation : Action → Option Manager.Action
  | .request t c q =>
    if verifyPermission t c.tokenId q.permission then q.operation t c else none
  | .internal a => some a

variable {records : DeviceRecords} {driverChangeCallback : Bool} {s : System} {t : TokenReplies}
  {c : Caller} {q : Request}

/-- A refused request is answered alike in every state, which it does not change. -/
theorem serve_of_not_verified (h : verifyPermission t c.tokenId q.permission = false)
    (m : ExtDeviceManager) : serve records t c m q = ((serve records t c {} q).1, m) := by
  cases q with
  | queryDevice busType =>
    have hperm : verifyPermission t c.tokenId permissionName = false := h
    simp only [serve, queryDevice, hperm, Bool.not_false, if_true]
  | queryDeviceInfo deviceId =>
    have hperm : verifyPermission t c.tokenId permissionName = false := h
    simp only [serve, queryDeviceInfo, hperm, Bool.not_false, if_true]
  | bindDevice r deviceId connectCallback =>
    have hperm : verifyPermission t c.tokenId permissionName = false := h
    simp only [serve, bindDevice, hperm, Bool.not_false, if_true, Prod.map_apply, id_eq]
  | unBindDevice r deviceId =>
    have hperm : verifyPermission t c.tokenId permissionName = false := h
    simp only [serve, unBindDevice, hperm, Bool.not_false, if_true, Prod.map_apply, id_eq]
  | bindDriverWithDeviceId r access deviceId connectCallback =>
    have hperm : verifyPermission t c.tokenId accessDdkDriversPermission = false := h
    simp only [serve, bindDriverWithDeviceId, Manager.bindDriverWithDeviceId, hperm, Bool.not_false,
      if_true, Prod.map_apply, id_eq]
  | unBindDriverWithDeviceId r deviceId =>
    have hperm : verifyPermission t c.tokenId accessDdkDriversPermission = false := h
    simp only [serve, unBindDriverWithDeviceId, hperm, Bool.not_false, if_true, Prod.map_apply, id_eq]

theorem serve_of_verified (h : verifyPermission t c.tokenId q.permission = true) (s : System) :
    { s with manager := (serve records t c s.manager q).2 } =
      (q.operation t c).elim s s.step := by
  cases q with
  | queryDevice busType => rfl
  | queryDeviceInfo deviceId => rfl
  | bindDevice r deviceId connectCallback =>
    have hperm : verifyPermission t c.tokenId permissionName = true := h
    simp only [serve, bindDevice, hperm, Bool.not_true, Bool.false_eq_true, if_false, Prod.map_apply,
      id_eq, Request.operation, Option.elim_some, System.step]
  | unBindDevice r deviceId =>
    have hperm : verifyPermission t c.tokenId permissionName = true := h
    simp only [serve, unBindDevice, hperm, Bool.not_true, Bool.false_eq_true, if_false,
      Prod.map_apply, id_eq, Request.operation, Option.elim_some, System.step]
  | bindDriverWithDeviceId r access deviceId connectCallback =>
    have hperm : verifyPermission t c.tokenId accessDdkDriversPermission = true := h
    simp only [serve, bindDriverWithDeviceId, Manager.bindDriverWithDeviceId, hperm, Bool.not_true,
      Bool.false_eq_true, if_false, Prod.map_apply, id_eq, Request.operation, Option.elim_some,
      System.step]
  | unBindDriverWithDeviceId r deviceId =>
    have hperm : verifyPermission t c.tokenId accessDdkDriversPermission = true := h
    simp only [serve, unBindDriverWithDeviceId, hperm, Bool.not_true, Bool.false_eq_true, if_false,
      Prod.map_apply, id_eq, Request.operation, Option.elim_some, System.step]

theorem step_eq (records : DeviceRecords) (s : System) (a : Action) :
    step records s a = (operation a).elim s s.step := by
  cases a with
  | internal a => rfl
  | request t c q =>
    rw [operation, step]
    split
    case isTrue h => exact serve_of_verified h s
    case isFalse h => rw [serve_of_not_verified (Bool.eq_false_of_not_eq_true h), Option.elim_none]

/-- The device manager does the operations of the run. -/
theorem simulates (records : DeviceRecords) (driverChangeCallback : Bool) :
    Machine.Simulates (machine records driverChangeCallback) (System.machine driverChangeCallback) id
      operation where
  init := rfl
  enabled s a b ha hb := by
    cases a with
    | internal a =>
      cases hb
      exact ha.2
    | request t c q =>
      rw [operation] at hb
      split at hb
      · cases q with
        | queryDevice => cases hb
        | queryDeviceInfo => cases hb
        | bindDevice => exact Option.some.inj hb ▸ trivial
        | unBindDevice => exact Option.some.inj hb ▸ trivial
        | bindDriverWithDeviceId => exact Option.some.inj hb ▸ trivial
        | unBindDriverWithDeviceId => exact Option.some.inj hb ▸ trivial
      · cases hb
  step s a b hb := by
    have hstep := step_eq records s a
    rwa [hb] at hstep
  stutter s a hnone := by
    have hstep := step_eq records s a
    rwa [hnone] at hstep

theorem run_wellFormed {as : List Action} (hrun : (machine records driverChangeCallback).Runs as) :
    ((machine records driverChangeCallback).run
      (machine records driverChangeCallback).init as).WellFormed := by
  have hsim := simulates records driverChangeCallback
  have hrun' := hsim.runs hrun
  have hmanager := (Machine.throughout_of_along (I := System.WellFormed)
    (fun _ _ h ha => System.step_wellFormed h ha) (System.init_wellFormed driverChangeCallback)
    hrun').last
  have heq : (machine records driverChangeCallback).run
      (machine records driverChangeCallback).init as =
        (System.machine driverChangeCallback).run (System.machine driverChangeCallback).init
          (as.filterMap operation) := hsim.run _ as
  rw [heq]
  exact hmanager

/-! ## Refused requests -/

theorem step_of_not_granted (s : System) {a : Action} (h : granted a = false) :
    step records s a = s := by
  cases a with
  | internal a => cases h
  | request t c q => rw [step, serve_of_not_verified h]

/-- **Refused requests go unnoticed.** A run without the requests that it refuses for want of the
permission is a run to the same state, with the same reply to every other request, and what a refused
request is answered does not depend on the state. -/
theorem refused_unnoticed (records : DeviceRecords) (driverChangeCallback : Bool) (as : List Action)
    (hrun : (machine records driverChangeCallback).Runs as) :
    let M := machine records driverChangeCallback
    M.Runs (as.filter granted) ∧ M.run M.init (as.filter granted) = M.run M.init as ∧
      (∀ before t c q after, as = before ++ .request t c q :: after →
        granted (.request t c q) = true →
        ∃ after', as.filter granted = before.filter granted ++ .request t c q :: after' ∧
          serve records t c (M.run M.init (before.filter granted)).manager q =
            serve records t c (M.run M.init before).manager q) ∧
      ∀ t c q, granted (.request t c q) = false → ∀ m m',
        (serve records t c m q).1 = (serve records t c m' q).1 := by
  intro M
  have hp : ∀ s a, granted a = false → M.step s a = s := fun s a => step_of_not_granted s
  refine ⟨hrun.filter hp, Machine.run_filter hp _ as, ?_, fun t c q hrefused m m' => ?_⟩
  · rintro before t c q after rfl hgranted
    refine ⟨after.filter granted, ?_, by rw [Machine.run_filter hp]⟩
    rw [List.filter_append, List.filter_cons_of_pos hgranted]
  · rw [serve_of_not_verified hrefused m, serve_of_not_verified hrefused m']

/-- The permissions are those of the system application alone. -/
def onlySystemApp : TokenReplies := { allowing with verifyAccessToken := fun token _ => token = 7 }

def otherApp : Caller where
  tokenId := 8
  isSystemAppByFullTokenId := false
  isTokenNative := false

/-- Another application tries to bind a device before the system application does. -/
def twoBinds : List Action :=
  [.internal (.registerDevice System.replies 1),
    .request onlySystemApp otherApp (.bindDevice System.replies 1 (some ⟨5⟩)),
    .request onlySystemApp systemApp (.bindDevice System.replies 1 (some ⟨6⟩)),
    .internal (.onConnect 0 (some 9) 0)]

theorem twoBinds_unnoticed :
    let M := machine mice true
    M.Runs (twoBinds.filter granted) ∧
      M.run M.init (twoBinds.filter granted) = M.run M.init twoBinds ∧
      (∀ before t c q after, twoBinds = before ++ .request t c q :: after →
        granted (.request t c q) = true →
        ∃ after', twoBinds.filter granted = before.filter granted ++ .request t c q :: after' ∧
          serve mice t c (M.run M.init (before.filter granted)).manager q =
            serve mice t c (M.run M.init before).manager q) ∧
      ∀ t c q, granted (.request t c q) = false → ∀ m m',
        (serve mice t c m q).1 = (serve mice t c m' q).1 :=
  refused_unnoticed mice true twoBinds (by decide)

end ExtDevMgr.Service
