import ExtDevMgr.Manager.Notifiers

/-!
# Failed binds

What a bind leaves behind that returns an error. It can fail at the registration of the callback, at
that of its death recipient and at the call of the ability manager; only the last is undone, and not
all of it.
-/

namespace ExtDevMgr.Manager

/-- A call of `OnConnect` of a callback, also through a null pointer. -/
def Event.isConnectNotice : Event → Bool
  | .onConnect .. => true
  | _ => false

def Outside.notices (o : Outside) : List Event := o.log.filter Event.isConnectNotice

/-- A call of `Device::Connect(connectCallback, callingTokenId)`. The notifier of the device is one
that has been made already. -/
structure Bind where
  device : Device
  out : Outside
  replies : DeviceReplies
  callback : Option DriverExtMgrCallback
  callingTokenId : UInt32
  notifyId_lt : ∀ n, device.notifyId = some n → n < out.nextId

/-- The callbacks, the callers, the remote object and the notifier with its connection are as before,
and no callback has been told of a connection. -/
structure NoTrace (d d' : Device) (o o' : Outside) : Prop where
  callbacks : d'.callbacks = d.callbacks
  boundCallerInfos : ∀ token, d'.boundCallerInfos.lookup token = d.boundCallerInfos.lookup token
  drvExtRemote : d'.drvExtRemote = d.drvExtRemote
  connectNofitier : d'.connectNofitier = d.connectNofitier
  notices : o'.notices = o.notices

namespace Device
variable {d : Device} {r : DeviceReplies} {o : Outside} {callback : Option DriverExtMgrCallback}

theorem connectWith_ok_iff (callback : Option DriverExtMgrCallback) (token : UInt32) :
    (d.connectWith r callback token o).1 = .edmOk ↔
      callback ≠ none ∧ r.addDeathRecipient = true ∧ d.Connects r := by
  cases callback with
  | none => exact iff_of_false (by rw [(connectWith_none o token).1]; decide) fun h => h.1 rfl
  | some cb =>
    cases hdeath : r.addDeathRecipient with
    | false =>
      refine iff_of_false ?_ fun h => Bool.false_ne_true h.2.1
      rw [(connectWith_refused o cb token hdeath).1]
      decide
    | true =>
      by_cases hc : d.Connects r
      · exact iff_of_true (connectWith_connects o cb token hdeath hc).1 ⟨by simp, rfl, hc⟩
      · exact iff_of_false (connectWith_undone o cb token hdeath hc).1 fun h => hc h.2.2

/-- A device that is connected tells the callback so before it registers it. -/
theorem connectWith_notices (token : UInt32) (h : d.drvExtRemote.isSome = true) :
    (d.connectWith r callback token o).2.2.notices =
      .onConnect callback d.info d.drvExtRemote 0 :: o.notices := by
  rw [connectWith, if_pos h]
  cases callback with
  | none => rfl
  | some cb =>
    simp only [registerDrvExtMgrCallback_some]
    split
    case isTrue => rfl
    case isFalse => rfl

/-- A callback whose death recipient is refused stays registered. -/
theorem connectWith_unregistered (cb : DriverExtMgrCallback) (token : UInt32)
    (h : d.drvExtRemote = none) (hdeath : r.addDeathRecipient = false) :
    d.connectWith r (some cb) token o =
      (.edmNok, { d with callbacks := d.inserted cb },
        o.emit (.addDeathRecipient cb.asObject false)) := by
  have hremote : ¬d.drvExtRemote.isSome = true := by rw [h]; decide
  rw [connectWith, if_neg hremote, registerDrvExtMgrCallback_some, hdeath]
  rfl

/-- A bind whose connection is refused has replaced the notifier. -/
theorem connectWith_notifyId (cb : DriverExtMgrCallback) (token : UInt32)
    (hdeath : r.addDeathRecipient = true) (hc : ¬d.Connects r) :
    (d.connectWith r (some cb) token o).2.1.notifyId = some o.nextId := by
  have hret := (connectWith_undone o cb token hdeath hc).1
  have hbind := connectWith_outcome r (some cb) token d o
  generalize d.connectWith r (some cb) token o = result at hbind hret
  cases hbind with
  | refused _ _ _ hrefused =>
    rcases hrefused with h | h
    · cases h
    · exact absurd (hdeath.symm.trans h) (by decide)
  | joined => exact absurd rfl hret
  | connected => exact absurd rfl hret
  | failed => rfl

end Device

namespace Bind
variable (b : Bind)

def result : UsbErrCode × Device × Outside :=
  b.device.connectWith b.replies b.callback b.callingTokenId b.out

/-- If the bind fails, it leaves no trace. -/
def Undone : Prop :=
  b.result.1 ≠ .edmOk → NoTrace b.device b.result.2.1 b.out b.result.2.2

/-- The bind succeeds; or the device is not connected and either the callback is null, or its death
recipient is refused while the device has a callback already. -/
def Harmless : Prop :=
  (b.callback ≠ none ∧ b.replies.addDeathRecipient = true ∧ b.device.Connects b.replies) ∨
    b.device.drvExtRemote = none ∧
      (b.callback = none ∨
        b.replies.addDeathRecipient = false ∧ b.device.callbacks ≠ [])

variable {b}

theorem not_undone_of_connected (hfails : b.result.1 ≠ .edmOk)
    (hremote : b.device.drvExtRemote.isSome = true) : ¬b.Undone := by
  intro h
  have hnotices := (h hfails).notices
  rw [result, Device.connectWith_notices b.callingTokenId hremote] at hnotices
  exact List.cons_ne_self _ _ hnotices

theorem undone_of_null (hcallback : b.callback = none) (hremote : b.device.drvExtRemote = none) :
    b.Undone := by
  have hnot : ¬b.device.drvExtRemote.isSome = true := by rw [hremote]; decide
  have hresult : b.result = (.edmErrInvalidObject, b.device, b.out) := by
    rw [result, hcallback, Device.connectWith, if_neg hnot]
    rfl
  intro _
  rw [hresult]
  exact ⟨rfl, fun _ => rfl, rfl, rfl, rfl⟩

theorem undone_iff_of_refused {cb : DriverExtMgrCallback} (hcallback : b.callback = some cb)
    (hremote : b.device.drvExtRemote = none) (hdeath : b.replies.addDeathRecipient = false) :
    b.Undone ↔ b.device.callbacks ≠ [] := by
  have hresult : b.result = (.edmNok, { b.device with callbacks := b.device.inserted cb },
      b.out.emit (.addDeathRecipient cb.asObject false)) := by
    rw [result, hcallback]
    exact Device.connectWith_unregistered cb b.callingTokenId hremote hdeath
  have hfails : UsbErrCode.edmNok ≠ .edmOk := by decide
  rw [Undone, hresult]
  constructor
  · intro h hempty
    have hcallbacks : b.device.inserted cb = b.device.callbacks := (h hfails).callbacks
    rw [Device.inserted, if_pos hempty, hempty] at hcallbacks
    cases hcallbacks
  · intro hne _
    exact ⟨if_neg hne, fun _ => rfl, rfl, rfl, rfl⟩

theorem not_undone_of_unconnected {cb : DriverExtMgrCallback} (hcallback : b.callback = some cb)
    (hdeath : b.replies.addDeathRecipient = true) (hc : ¬b.device.Connects b.replies) :
    ¬b.Undone := by
  intro h
  have hfails : b.result.1 ≠ .edmOk := by
    rw [result, hcallback]
    exact (Device.connectWith_undone b.out cb b.callingTokenId hdeath hc).1
  have hnew : b.result.2.1.notifyId = some b.out.nextId := by
    rw [result, hcallback]
    exact Device.connectWith_notifyId cb b.callingTokenId hdeath hc
  have hsame : b.result.2.1.notifyId = b.device.notifyId :=
    congrArg (Option.map DrvExtConnNotify.id) (h hfails).connectNofitier
  exact absurd (b.notifyId_lt _ (hsame.symm.trans hnew)) (Nat.lt_irrefl _)

theorem undone_iff_harmless (b : Bind) : b.Undone ↔ b.Harmless := by
  by_cases hok : b.result.1 = .edmOk
  · refine iff_of_true (fun hfails => absurd hok hfails) (.inl ?_)
    exact (Device.connectWith_ok_iff b.callback b.callingTokenId).mp hok
  have hsucceeds : ¬(b.callback ≠ none ∧ b.replies.addDeathRecipient = true ∧
      b.device.Connects b.replies) :=
    fun h => hok ((Device.connectWith_ok_iff b.callback b.callingTokenId).mpr h)
  rw [Harmless, or_iff_right hsucceeds]
  cases hremote : b.device.drvExtRemote with
  | some remote =>
    have hsome : b.device.drvExtRemote.isSome = true := by rw [hremote]; rfl
    exact iff_of_false (not_undone_of_connected hok hsome) fun h => by cases h.1
  | none =>
    rw [and_iff_right rfl]
    cases hcallback : b.callback with
    | none => exact iff_of_true (undone_of_null hcallback hremote) (.inl rfl)
    | some cb =>
      cases hdeath : b.replies.addDeathRecipient with
      | false =>
        rw [undone_iff_of_refused hcallback hremote hdeath]
        exact ⟨fun hne => .inr ⟨rfl, hne⟩, fun h => (h.resolve_left (by simp)).2⟩
      | true =>
        have hc : ¬b.device.Connects b.replies := by
          intro hc
          exact hsucceeds ⟨by rw [hcallback]; simp, hdeath, hc⟩
        refine iff_of_false (not_undone_of_unconnected hcallback hdeath hc) ?_
        rintro (h | h)
        · cases h
        · cases h.1

/-- The death recipient of the first callback of a device is refused. -/
def firstRefused : Bind where
  device := { info := 1 }
  out := {}
  replies := { connect := fun _ => some 0, disconnect := some 0, stop := some 0
               addDeathRecipient := false }
  callback := some ⟨5⟩
  callingTokenId := 9
  notifyId_lt := by intro n hn; cases hn

theorem not_forall_undone : ¬∀ b : Bind, b.Undone := by
  intro h
  have hcallbacks := (h firstRefused (by decide)).callbacks
  exact absurd hcallbacks (by decide)

end Bind
end ExtDevMgr.Manager
