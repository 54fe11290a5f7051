import ExtDevMgr.Base.Text
import ExtDevMgr.Json.CJson
import ExtDevMgr.Manager.ExtDeviceMgr

/-!
# Access to drivers by device id

`ExtPermissionManager::GetPermissionValues` and `DriverExtMgr::BindDriverWithDeviceId` over the access
check of the device manager. The check grants what it should except to empty app identifiers
(`enforces_iff`).
-/

namespace ExtDevMgr.Manager
open ExtDeviceManager Text Json

/-- `ACCESS_DDK_DRIVERS_PERMISSION`. -/
def accessDdkDriversPermission : Name := "ohos.permission.ACCESS_DDK_DRIVERS".toList

/-- What the token service answers, and the JSON parser. -/
structure TokenReplies where
  verifyAccessToken : UInt32 → Name → Bool
  getReqPermissionByName : UInt32 → Name → Option Name
  cJsonParse : Name → Option CJson

namespace ExtPermissionManager

def isSpace (c : Char) : Bool := c ∈ [' ', '\t', '\n', '\r', '\x0c', '\x0b']

/-- `Trim`. -/
def trim (str : Name) : Name := Text.trim isSpace str

def verifyPermission (t : TokenReplies) (callerToken : UInt32) (permissionName : Name) : Bool :=
  t.verifyAccessToken callerToken permissionName

/-- The string under `appIds`. -/
def appIdsValue (t : TokenReplies) (callerToken : UInt32) (permissionName : Name) : Option Name :=
  match t.getReqPermissionByName callerToken permissionName with
  | none => none
  | some appIds =>
    if appIds = [] then
      none
    else
      match t.cJsonParse (cStr appIds) with
      | none => none
      | some jsonObj => (jsonObj.getObjectItem "appIds".toList).bind (·.valuestring)

/-- Inserts into `permissionValues`. -/
def getPermissionValues (t : TokenReplies) (callerToken : UInt32) (permissionName : Name)
    (permissionValues : Finset Name) : Bool × Finset Name :=
  match appIdsValue t callerToken permissionName with
  | none => (false, permissionValues)
  | some valuestring =>
    let permissionValues := permissionValues ∪ ((lines ',' valuestring).map trim).toFinset
    (decide (permissionValues ≠ ∅), permissionValues)

end ExtPermissionManager

open ExtPermissionManager

/-- The app ids that `BindDriverWithDeviceId` hands on. -/
def accessibleAppIds (t : TokenReplies) (callingTokenId : UInt32) : Finset Name :=
  (getPermissionValues t callingTokenId accessDdkDriversPermission ∅).2

def bindDriverWithDeviceId (t : TokenReplies) (r : Replies) (access : AccessReplies)
    (callingTokenId : UInt32) (deviceId : DeviceId) (connectCallback : Option DriverExtMgrCallback)
    (m : ExtDeviceManager) : UsbErrCode × ExtDeviceManager :=
  if !verifyPermission t callingTokenId accessDdkDriversPermission then
    (.edmErrNoPerm, m)
  else
    m.connectDriverWithDeviceId r access deviceId callingTokenId (accessibleAppIds t callingTokenId)
      connectCallback

/-! ## What the check should grant -/

/-- The app identifier of a driver, as far as it is obtained. -/
def driverAppIdentifier (access : AccessReplies) (driverInfo : DriverInfo) : Option Name :=
  if access.bundleManager then
    access.getAppProvisionInfo driverInfo.bundleName driverInfo.userId
  else
    none

def callerAppIdentifier (access : AccessReplies) (callingTokenId : UInt32) : Option Name :=
  (access.getHapTokenInfo callingTokenId).bind fun info =>
    access.getAppProvisionInfo info.1 info.2

/-- `entry` is a piece between the commas of `value`, trimmed. -/
def IsEntry (value entry : Name) : Prop :=
  ∃ piece ∈ value.splitOn ',', IsTrimmed (isSpace ·) piece entry

section
variable (t : TokenReplies) (access : AccessReplies) (callingTokenId : UInt32)

/-- The caller may bind the driver. -/
def Granted (driverInfo : Option DriverInfo) : Prop :=
  ∃ info id, driverInfo = some info ∧ info.accessAllowed = true ∧
    driverAppIdentifier access info = some id ∧ id ≠ [] ∧
    (callerAppIdentifier access callingTokenId = some id ∨
      ∃ value, appIdsValue t callingTokenId accessDdkDriversPermission = some value ∧
        IsEntry value id)

/-- The app identifier of an accessible driver is empty, and so is the caller's, or a line of blanks
stands in the caller's list. -/
def EmptyAdmitted (driverInfo : Option DriverInfo) : Prop :=
  ∃ info, driverInfo = some info ∧ info.accessAllowed = true ∧
    driverAppIdentifier access info = some [] ∧
    (callerAppIdentifier access callingTokenId = some [] ∨
      ∃ value, appIdsValue t callingTokenId accessDdkDriversPermission = some value ∧
        ∃ line ∈ lines ',' value, ∀ c ∈ line, isSpace c)

end

/-! ## The check -/

theorem isCallerMatchDriverApp_iff {access : AccessReplies} {id : Name} {callingTokenId : UInt32} :
    isCallerMatchDriverApp access id callingTokenId = true ↔
      callerAppIdentifier access callingTokenId = some id := by
  unfold isCallerMatchDriverApp callerAppIdentifier
  cases access.getHapTokenInfo callingTokenId with
  | none => simp
  | some info =>
    cases hid : access.getAppProvisionInfo info.1 info.2 with
    | none => simp [hid]
    | some appIdentifier => simp [hid, @eq_comm _ id]

theorem mem_accessibleAppIds {t : TokenReplies} {callingTokenId : UInt32} {id : Name} :
    id ∈ accessibleAppIds t callingTokenId ↔
      ∃ value, appIdsValue t callingTokenId accessDdkDriversPermission = some value ∧
        ∃ line ∈ lines ',' value, trim line = id := by
  rw [accessibleAppIds, getPermissionValues]
  cases appIdsValue t callingTokenId accessDdkDriversPermission with
  | none => simp
  | some value => simp

/-- The check, as a condition on what it looks up. -/
theorem checkAccessPermission_iff {access : AccessReplies} {driverInfo : Option DriverInfo}
    {ids : Finset Name} {callingTokenId : UInt32} :
    checkAccessPermission access driverInfo ids callingTokenId = .edmOk ↔
      ∃ info id, driverInfo = some info ∧ info.accessAllowed = true ∧
        driverAppIdentifier access info = some id ∧
        (callerAppIdentifier access callingTokenId = some id ∨ id ∈ ids) := by
  cases driverInfo with
  | none => simp [checkAccessPermission]
  | some info =>
    rw [checkAccessPermission]
    cases hallowed : info.accessAllowed with
    | false => simp [hallowed]
    | true =>
      cases hbundle : access.bundleManager with
      | false => simp [driverAppIdentifier, hbundle]
      | true =>
        cases hid : access.getAppProvisionInfo info.bundleName info.userId with
        | none => simp [driverAppIdentifier, hbundle, hid]
        | some id =>
          simp only [← isCallerMatchDriverApp_iff]
          cases hcaller : isCallerMatchDriverApp access id callingTokenId with
          | true => simp [driverAppIdentifier, hbundle, hid, hcaller, hallowed]
          | false => simp [driverAppIdentifier, hbundle, hid, hcaller, hallowed]

theorem mem_accessibleAppIds_iff_isEntry {t : TokenReplies} {callingTokenId : UInt32} {id : Name}
    (hne : id ≠ []) : id ∈ accessibleAppIds t callingTokenId ↔
      ∃ value, appIdsValue t callingTokenId accessDdkDriversPermission = some value ∧
        IsEntry value id := by
  rw [mem_accessibleAppIds]
  apply exists_congr
  intro value
  apply and_congr_right
  intro _
  have hline : ∀ {line : Name}, trim line = id → line ≠ [] := by
    rintro line htrim rfl
    exact hne htrim.symm
  constructor
  · rintro ⟨line, hmem, htrim⟩
    exact ⟨line, (mem_lines_iff (hline htrim) value).mp hmem, trim_eq_iff.mp htrim⟩
  · rintro ⟨piece, hmem, htrimmed⟩
    have htrim : trim piece = id := htrimmed.trim_eq
    exact ⟨piece, (mem_lines_iff (hline htrim) value).mpr hmem, htrim⟩

theorem nil_mem_accessibleAppIds {t : TokenReplies} {callingTokenId : UInt32} :
    [] ∈ accessibleAppIds t callingTokenId ↔
      ∃ value, appIdsValue t callingTokenId accessDdkDriversPermission = some value ∧
        ∃ line ∈ lines ',' value, ∀ c ∈ line, isSpace c := by
  rw [mem_accessibleAppIds]
  simp only [ExtPermissionManager.trim, trim_eq_nil_iff]

section
variable {t : TokenReplies} {access : AccessReplies} {callingTokenId : UInt32}
  {driverInfo : Option DriverInfo}

/-- The check passes for what is granted and for empty identifiers that it admits. -/
theorem checkAccessPermission_iff_granted :
    checkAccessPermission access driverInfo (accessibleAppIds t callingTokenId) callingTokenId =
        .edmOk ↔
      Granted t access callingTokenId driverInfo ∨
        EmptyAdmitted t access callingTokenId driverInfo := by
  rw [checkAccessPermission_iff]
  constructor
  · rintro ⟨info, id, hinfo, hallowed, hid, hgrant⟩
    by_cases hne : id = []
    · subst hne
      rw [nil_mem_accessibleAppIds] at hgrant
      exact .inr ⟨info, hinfo, hallowed, hid, hgrant⟩
    · rw [mem_accessibleAppIds_iff_isEntry hne] at hgrant
      exact .inl ⟨info, id, hinfo, hallowed, hid, hne, hgrant⟩
  · rintro (⟨info, id, hinfo, hallowed, hid, hne, hgrant⟩ | ⟨info, hinfo, hallowed, hid, hgrant⟩)
    · rw [← mem_accessibleAppIds_iff_isEntry hne] at hgrant
      exact ⟨info, id, hinfo, hallowed, hid, hgrant⟩
    · rw [← nil_mem_accessibleAppIds] at hgrant
      exact ⟨info, [], hinfo, hallowed, hid, hgrant⟩

theorem not_granted_of_emptyAdmitted (h : EmptyAdmitted t access callingTokenId driverInfo) :
    ¬ Granted t access callingTokenId driverInfo := by
  obtain ⟨info, hinfo, _, hid, _⟩ := h
  rintro ⟨info', id, hinfo', _, hid', hne, _⟩
  cases Option.some.inj (hinfo.symm.trans hinfo')
  exact hne (Option.some.inj (hid'.symm.trans hid))

end

/-! ## The theorem -/

/-- A call of `ConnectDriverWithDeviceId` as `BindDriverWithDeviceId` makes it. -/
structure BindCall where
  t : TokenReplies
  r : Replies
  access : AccessReplies
  callingTokenId : UInt32
  deviceId : DeviceId
  connectCallback : Option DriverExtMgrCallback
  m : ExtDeviceManager

namespace BindCall
variable (call : BindCall)

/-- The driver info of the device, if the manager knows the device and it has one. -/
def driverInfo : Option DriverInfo :=
  (call.m.queryDeviceByDeviceID call.deviceId).bind fun obj => (call.m.objects obj).driverInfo

def result : UsbErrCode × ExtDeviceManager :=
  call.m.connectDriverWithDeviceId call.r call.access call.deviceId call.callingTokenId
    (accessibleAppIds call.t call.callingTokenId) call.connectCallback

/-- `Device::Connect` is reached if the caller may bind the driver, and an error is returned with
nothing done otherwise. -/
structure Enforces : Prop where
  check : checkAccessPermission call.access call.driverInfo
      (accessibleAppIds call.t call.callingTokenId) call.callingTokenId = .edmOk ↔
    Granted call.t call.access call.callingTokenId call.driverInfo
  granted : Granted call.t call.access call.callingTokenId call.driverInfo →
    ∃ obj, call.m.queryDeviceByDeviceID call.deviceId = some obj ∧
      call.result = call.m.runDevice obj
        (Device.connectWith (call.r.device call.deviceId) call.connectCallback call.callingTokenId)
  denied : ¬ Granted call.t call.access call.callingTokenId call.driverInfo →
    ∃ err, err ≠ .edmOk ∧ call.result = (err, call.m)

theorem result_of_passes (h : checkAccessPermission call.access call.driverInfo
      (accessibleAppIds call.t call.callingTokenId) call.callingTokenId = .edmOk) :
    ∃ obj, call.m.queryDeviceByDeviceID call.deviceId = some obj ∧
      call.result = call.m.runDevice obj (Device.connectWith (call.r.device call.deviceId)
        call.connectCallback call.callingTokenId) := by
  rw [driverInfo] at h
  rw [result, connectDriverWithDeviceId]
  cases hobj : call.m.queryDeviceByDeviceID call.deviceId with
  | none =>
    rw [hobj] at h
    cases h
  | some obj =>
    rw [hobj] at h
    exact ⟨obj, rfl, if_neg (not_not.mpr h)⟩

theorem result_of_not_passes (h : checkAccessPermission call.access call.driverInfo
      (accessibleAppIds call.t call.callingTokenId) call.callingTokenId ≠ .edmOk) :
    ∃ err, err ≠ .edmOk ∧ call.result = (err, call.m) := by
  rw [driverInfo] at h
  rw [result, connectDriverWithDeviceId]
  cases hobj : call.m.queryDeviceByDeviceID call.deviceId with
  | none => exact ⟨.edmNok, nofun, rfl⟩
  | some obj =>
    rw [hobj] at h
    exact ⟨_, h, if_pos h⟩

end BindCall

/-- The check passes exactly for the callers that may bind the driver, unless the driver's app
identifier is empty and admitted. -/
theorem enforces_iff (call : BindCall) :
    call.Enforces ↔ ¬ EmptyAdmitted call.t call.access call.callingTokenId call.driverInfo := by
  have hiff : checkAccessPermission call.access call.driverInfo
      (accessibleAppIds call.t call.callingTokenId) call.callingTokenId = .edmOk ↔ _ :=
    checkAccessPermission_iff_granted
  constructor
  · intro h hempty
    exact not_granted_of_emptyAdmitted hempty (h.check.mp (hiff.mpr (.inr hempty)))
  · intro hempty
    have hcheck := hiff.trans (or_iff_left hempty)
    refine ⟨hcheck, fun hgranted => ?_, fun hdenied => ?_⟩
    · exact call.result_of_passes (hcheck.mpr hgranted)
    · exact call.result_of_not_passes fun hpass => hdenied (hcheck.mp hpass)

/-- Without the permission nothing is bound. -/
theorem bindDriverWithDeviceId_of_not_verified {call : BindCall}
    (h : verifyPermission call.t call.callingTokenId accessDdkDriversPermission = false) :
    bindDriverWithDeviceId call.t call.r call.access call.callingTokenId call.deviceId
      call.connectCallback call.m = (.edmErrNoPerm, call.m) := by
  rw [bindDriverWithDeviceId, h]
  rfl

/-- Two different apps without an app identifier: the one has a driver that allows access, the other
binds it without any app ids. -/
def unidentified : BindCall where
  t := {
    verifyAccessToken := fun _ _ => true
    getReqPermissionByName := fun _ _ => none
    cJsonParse := fun _ => none }
  r := {
    device := fun _ => ⟨fun _ => some 0, some 0, some 0, true⟩
    queryMatchDriver := fun _ => none
    timerSetup := 0
    timerRegister := 1 }
  access := {
    bundleManager := true
    getAppProvisionInfo := fun _ _ => some []
    getHapTokenInfo := fun _ => some (['c'], 100) }
  callingTokenId := 7
  deviceId := 1
  connectCallback := some ⟨1⟩
  m := (registerDevice {
      device := fun _ => ⟨fun _ => some 0, some 0, some 0, true⟩
      queryMatchDriver := fun _ => some {
        bundleName := ['b'], driverName := ['d'], driverUid := ['u'], userId := 100
        launchOnBind := true, accessAllowed := true }
      timerSetup := 0
      timerRegister := 1 } 1 {}).2

/-- The bind succeeds although neither app has an identifier. -/
theorem unidentified_bound :
    unidentified.result.1 = .edmOk ∧
      ¬ Granted unidentified.t unidentified.access 7 unidentified.driverInfo ∧
      ¬ ∀ call : BindCall, call.Enforces := by
  have hinfo : unidentified.driverInfo = some {
      bundleName := ['b'], driverName := ['d'], driverUid := ['u'], userId := 100
      launchOnBind := true, accessAllowed := true } := by decide +kernel
  have hempty : EmptyAdmitted unidentified.t unidentified.access 7 unidentified.driverInfo :=
    ⟨_, hinfo, rfl, rfl, .inl rfl⟩
  refine ⟨by decide +kernel, not_granted_of_emptyAdmitted hempty, fun hall => ?_⟩
  exact (not_granted_of_emptyAdmitted hempty)
    ((hall unidentified).check.mp (checkAccessPermission_iff_granted.mpr (.inr hempty)))

end ExtDevMgr.Manager
