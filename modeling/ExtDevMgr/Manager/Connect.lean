import ExtDevMgr.Manager.Callbacks

/-!
# Calls of the ability manager

What the operations of a device ask of the ability manager: a bind, an automatic connect and a
disconnect, each with all its outcomes.
-/

namespace ExtDevMgr.Manager

/-- The calls that make and end connections. -/
def Event.isAbilityCall : Event → Bool
  | .connectAbility .. | .disconnectAbility .. => true
  | _ => false

/-- A call for a connection that the ability manager refuses. -/
def Event.isRefused : Event → Bool
  | .connectAbility _ _ _ _ _ ret => ret ≠ 0
  | _ => false

/-- A connection that the ability manager has accepted: the device that asked for it, the notifier
that its completions go to and its `connectInner_`. -/
structure Connection where
  obj : Nat
  notify : Nat
  connectInner : Nat
  deriving DecidableEq

/-- The calls of the ability manager that make and end connections, the newest first. -/
def Outside.calls (o : Outside) : List Event := o.log.filter Event.isAbilityCall

namespace Outside

/-- The calls that `o'` has more than `o`, which it follows. -/
def newCalls (o o' : Outside) : List Event := o'.calls.take (o'.calls.length - o.calls.length)

variable {o o' : Outside} {e : Event}

theorem newCalls_eq {es : List Event} (h : o'.calls = es ++ o.calls) : o.newCalls o' = es := by
  rw [newCalls, h, List.length_append, Nat.add_sub_cancel]
  exact List.take_left

theorem newCalls_nil (h : o'.calls = o.calls) : o.newCalls o' = [] :=
  newCalls_eq (h.trans (List.nil_append _).symm)

theorem calls_emit (h : e.isAbilityCall = true) : (o.emit e).calls = e :: o.calls :=
  List.filter_cons_of_pos h

theorem calls_emit_other (h : e.isAbilityCall = false) : (o.emit e).calls = o.calls :=
  List.filter_cons_of_neg (Bool.eq_false_iff.mp h)

end Outside

namespace Device

/-- The connection that the notifier of the device knows. -/
def connection (d : Device) : Option DrvExtConnectionInfo := d.connectNofitier.bind (·.info)

/-- A connection to the driver of the device. -/
def connectionInfo (d : Device) (connectInner : Nat) : DrvExtConnectionInfo where
  bundleName := getBundleName d.bundleInfo
  abilityName := getAbilityName d.bundleInfo
  deviceId := d.info.busDevId
  connectInner

/-- The call that asks for it. -/
def connectCall (d : Device) (connectInner callback : Nat) (ret : Int) : Event :=
  .connectAbility connectInner callback (getBundleName d.bundleInfo) (getAbilityName d.bundleInfo)
    d.info.busDevId ret

/-- A new notifier that knows a new connection. -/
def newNotify (d : Device) (o : Outside) : DrvExtConnNotify where
  id := o.nextId
  info := some (d.connectionInfo (o.nextId + 1))

variable {d : Device} {r : DeviceReplies} {o : Outside}

@[simp] theorem clearConnection_connection : d.clearConnection.connection = none := by
  rw [connection, clearConnection]
  cases d.connectNofitier with
  | none => rfl
  | some notify => rfl

/-! ## Disconnects -/

/-- A connection to the driver of the device is asked to disconnect, if there is a client. -/
theorem disconnect_of_connection {connectInner : Nat}
    (h : d.connection = some (d.connectionInfo connectInner)) : d.disconnect r o =
      match r.disconnect with
      | none => (.edmErrInvalidObject, o)
      | some ret => (if ret ≠ 0 then .reply ret else .edmOk,
          o.emit (.disconnectAbility connectInner ret)) := by
  obtain ⟨notify, hnotify, hinfo⟩ := Option.bind_eq_some_iff.mp h
  have hvalid : ¬(d.connectNofitier.any (·.isInvalidDrvExtConnectionInfo)) = true := by
    simp [hnotify, DrvExtConnNotify.isInvalidDrvExtConnectionInfo, hinfo]
  rw [disconnect, if_neg hvalid, hnotify]
  simp only [disconnectDriverExtension, hinfo, connectionInfo]
  rw [if_neg (by simp)]
  cases r.disconnect with
  | none => rfl
  | some ret =>
    dsimp only
    split
    case isTrue => rfl
    case isFalse => rfl

/-- Without a connection nothing is asked. -/
theorem disconnect_of_none (h : d.connection = none) : (d.disconnect r o).2 = o := by
  cases hnotify : d.connectNofitier with
  | none => simp [disconnect, hnotify, disconnectDriverExtension]
  | some notify =>
    have hinfo : notify.info = none := by
      rw [connection, hnotify] at h
      exact h
    simp [disconnect, hnotify, DrvExtConnNotify.isInvalidDrvExtConnectionInfo, hinfo]

/-- A connection to another driver or device is not asked to disconnect. -/
theorem disconnect_of_other {info : DrvExtConnectionInfo} (h : d.connection = some info)
    (hother : ∀ connectInner, info ≠ d.connectionInfo connectInner) : (d.disconnect r o).2 = o := by
  obtain ⟨notify, hnotify, hinfo⟩ := Option.bind_eq_some_iff.mp h
  have hne : info.bundleName ≠ getBundleName d.bundleInfo ∨
      info.abilityName ≠ getAbilityName d.bundleInfo ∨ info.deviceId ≠ d.info.busDevId := by
    by_contra hall
    push Not at hall
    obtain ⟨hbundle, hability, hdev⟩ := hall
    exact hother info.connectInner (by rw [connectionInfo, ← hbundle, ← hability, ← hdev])
  simp [disconnect, hnotify, DrvExtConnNotify.isInvalidDrvExtConnectionInfo, hinfo,
    disconnectDriverExtension, hne]

/-- A disconnect asks for at most one connection: the one to the driver of the device. -/
theorem disconnect_out :
    (∃ connectInner ret, d.connection = some (d.connectionInfo connectInner) ∧
      r.disconnect = some ret ∧ (d.disconnect r o).2 = o.emit (.disconnectAbility connectInner ret)) ∨
    ((∀ connectInner ret, d.connection = some (d.connectionInfo connectInner) →
      r.disconnect ≠ some ret) ∧ (d.disconnect r o).2 = o) := by
  cases hd : d.connection with
  | none => exact .inr ⟨nofun, disconnect_of_none hd⟩
  | some info =>
    by_cases hown : ∃ connectInner, info = d.connectionInfo connectInner
    · obtain ⟨connectInner, rfl⟩ := hown
      rw [disconnect_of_connection hd]
      cases r.disconnect with
      | none => exact .inr ⟨fun _ _ _ => nofun, rfl⟩
      | some ret => exact .inl ⟨connectInner, ret, rfl, rfl, rfl⟩
    · have hother : ∀ connectInner, info ≠ d.connectionInfo connectInner := by
        intro connectInner heq
        exact hown ⟨connectInner, heq⟩
      refine .inr ⟨?_, disconnect_of_other hd hother⟩
      intro connectInner _ heq
      exact absurd (Option.some.inj heq) (hother connectInner)

theorem disconnect_nextId : (d.disconnect r o).2.nextId = o.nextId := by
  rcases disconnect_out (d := d) (r := r) (o := o) with ⟨_, _, _, _, hout⟩ | ⟨_, hout⟩
  · rw [hout, Outside.emit_nextId]
  · rw [hout]

/-! ## Binds -/

/-- With a new notifier the ability manager is asked for a connection, if there is a client. -/
theorem connectExtension_new {id : Nat} (reply : Option Int)
    (hd : d.connectNofitier = some { id }) :
    d.connectExtension reply o =
      (match reply with
        | none => .edmErrInvalidObject
        | some ret => if ret ≠ 0 then .reply ret else .edmOk,
      { d with connectNofitier := some { id, info := some (d.connectionInfo o.nextId) } },
      match reply with
        | none => o.alloc
        | some ret => o.alloc.emit (d.connectCall o.nextId id ret)) := by
  simp only [connectExtension, hd, connectDriverExtension]
  cases reply with
  | none => rfl
  | some ret =>
    dsimp only [Option.isSome_none, Bool.false_eq_true]
    rw [if_neg Bool.false_ne_true]
    split
    case isTrue => rfl
    case isFalse => rfl

/-- The callbacks are ones that the device had, or the new one. -/
def CallbacksFrom (d : Device) (callback : Option DriverExtMgrCallback)
    (callbacks : List DriverExtMgrCallback) : Prop :=
  ∀ c ∈ callbacks, c ∈ d.callbacks ∨ callback = some c

theorem inserted_from (cb : DriverExtMgrCallback) : CallbacksFrom d (some cb) (d.inserted cb) := by
  intro c hc
  unfold inserted at hc
  split at hc
  case isTrue => exact .inr (congrArg some (List.mem_singleton.mp hc).symm)
  case isFalse => exact .inl hc

/-- The outcomes of a bind: it is not registered; there is a connection already; a connection is made;
a connection is refused. -/
inductive BindOutcome (r : DeviceReplies) (callback : Option DriverExtMgrCallback)
    (token : UInt32) (d : Device) (o : Outside) : UsbErrCode × Device × Outside → Prop
  | refused {ret callbacks o'} : ret ≠ .edmOk → o'.calls = o.calls → o'.nextId = o.nextId →
      callback = none ∨ r.addDeathRecipient = false → CallbacksFrom d callback callbacks →
      BindOutcome r callback token d o (ret, { d with callbacks }, o')
  | joined {cb callbacks o'} : callback = some cb → r.addDeathRecipient = true →
      d.drvExtRemote.isSome = true → o'.calls = o.calls → o'.nextId = o.nextId →
      CallbacksFrom d callback callbacks →
      BindOutcome r callback token d o (.edmOk,
        { d with callbacks, boundCallerInfos := d.boundCallerInfos.insert token ⟨true⟩ }, o')
  | connected {cb callbacks o'} : callback = some cb → r.addDeathRecipient = true →
      d.drvExtRemote = none → r.connect 0 = some 0 →
      o'.calls = d.connectCall (o.nextId + 1) o.nextId 0 :: o.calls → o'.nextId = o.nextId + 2 →
      CallbacksFrom d callback callbacks →
      BindOutcome r callback token d o (.edmOk,
        { d with
          callbacks
          connectNofitier := some (d.newNotify o)
          boundCallerInfos := d.boundCallerInfos.insert token ⟨false⟩ }, o')
  | failed {cb ret callbacks o'} : callback = some cb → r.addDeathRecipient = true →
      d.drvExtRemote = none → r.connect 0 ≠ some 0 → ret ≠ .edmOk →
      o'.calls = o.calls ∨
        (∃ code, code ≠ 0 ∧ o'.calls = d.connectCall (o.nextId + 1) o.nextId code :: o.calls) →
      o'.nextId = o.nextId + 2 → CallbacksFrom d callback callbacks →
      BindOutcome r callback token d o (ret,
        { d with
          callbacks
          connectNofitier := some (d.newNotify o)
          boundCallerInfos := (d.boundCallerInfos.insert token ⟨false⟩).erase token }, o')

theorem connectWith_outcome (r : DeviceReplies) (callback : Option DriverExtMgrCallback)
    (token : UInt32) (d : Device) (o : Outside) :
    BindOutcome r callback token d o (d.connectWith r callback token o) := by
  unfold connectWith
  cases callback with
  | none =>
    split
    · refine .refused (by decide) ?_ rfl (.inl rfl) (fun _ hc => .inl hc)
      exact Outside.calls_emit_other rfl
    · exact .refused (by decide) rfl rfl (.inl rfl) (fun _ hc => .inl hc)
  | some cb =>
    have hret : (if r.addDeathRecipient then UsbErrCode.edmOk else .edmNok) = .edmOk ↔
        r.addDeathRecipient = true := by
      cases r.addDeathRecipient with
      | false => exact iff_of_false (by decide) (by decide)
      | true => exact iff_of_true rfl rfl
    simp only [registerDrvExtMgrCallback_some, ne_eq, hret]
    cases hdeath : r.addDeathRecipient with
    | false =>
      split
      · exact .refused (by decide) rfl rfl (.inr hdeath) (inserted_from cb)
      · exact .refused (by decide) rfl rfl (.inr hdeath) (inserted_from cb)
    | true =>
      split
      case isTrue hremote => exact .joined rfl hdeath hremote rfl rfl (inserted_from cb)
      case isFalse hremote =>
        have hremote : d.drvExtRemote = none := Option.not_isSome_iff_eq_none.mp hremote
        have herased : CallbacksFrom d (some cb)
            ((d.inserted cb).eraseP fun element => element.asObject = cb.asObject) := by
          intro c hc
          exact inserted_from cb c (List.mem_of_mem_eraseP hc)
        have hconnect := connectExtension_new (o := (o.emit (.addDeathRecipient cb.asObject true)).alloc)
          (d := { d with
            callbacks := d.inserted cb
            connectNofitier := some { id := o.nextId }
            boundCallerInfos := d.boundCallerInfos.insert token ⟨false⟩ }) (r.connect 0) rfl
        simp only [updateDrvExtConnNotify, addDrvExtConnNotify, Option.isNone_some, if_neg,
          Bool.false_eq_true, not_false_eq_true, Outside.emit_nextId, hconnect]
        cases hreply : r.connect 0 with
        | none =>
          exact .failed rfl hdeath hremote (by simp [hreply]) (by decide) (.inl rfl) rfl herased
        | some code =>
          by_cases hcode : code = 0
          · subst hcode
            exact .connected rfl hdeath hremote hreply rfl rfl (inserted_from cb)
          · simp only [ne_eq, hcode, not_false_eq_true, if_true]
            refine .failed rfl hdeath hremote ?_ ?_ (.inr ⟨code, hcode, rfl⟩) rfl herased
            · simpa [hreply] using hcode
            · intro hok
              cases hok

/-! ## Automatic connects -/

/-- The device with a connection that its notifier `id` knows. -/
def attempted (d : Device) (remote : Option Nat) (id connectInner : Nat) : Device :=
  { d with
    drvExtRemote := remote
    connectNofitier := some { id, info := some (d.connectionInfo connectInner) } }

/-- The outcomes of some attempts for a connection: the last one is accepted, or none is. -/
inductive AttemptOutcome (d : Device) (id : Nat) (o : Outside) : UsbErrCode × Device × Outside → Prop
  | made {remote connectInner o'} (es : List Event) : remote = none ∨ remote = d.drvExtRemote →
      o.nextId ≤ connectInner → connectInner < o'.nextId → (∀ e ∈ es, e.isRefused = true) →
      o'.calls = d.connectCall connectInner id 0 :: (es ++ o.calls) →
      AttemptOutcome d id o (.edmOk, d.attempted remote id connectInner, o')
  | failed {ret remote connectInner o'} (es : List Event) : ret ≠ .edmOk → remote = none ∨ remote = d.drvExtRemote →
      o.nextId ≤ connectInner → connectInner < o'.nextId → (∀ e ∈ es, e.isRefused = true) →
      o'.calls = es ++ o.calls →
      AttemptOutcome d id o (ret, d.attempted remote id connectInner, o')

theorem reconnect_ok (n : Nat) : reconnect r n .edmOk d o = (.edmOk, d, o) := by
  cases n with
  | zero => rfl
  | succ n => rw [reconnect, if_pos rfl]

/-- One attempt with a notifier that knows no connection. -/
theorem connectExtension_outcome {id : Nat} (reply : Option Int)
    (hd : d.connectNofitier = some { id }) :
    AttemptOutcome d id o (d.connectExtension reply o) := by
  have hnone : ∀ e ∈ ([] : List Event), e.isRefused = true := fun _ he => nomatch he
  rw [connectExtension_new reply hd]
  cases reply with
  | none => exact .failed [] nofun (.inr rfl) le_rfl (Nat.lt_succ_self _) hnone rfl
  | some ret =>
    by_cases hret : ret = 0
    · subst hret
      exact .made [] (.inr rfl) le_rfl (Nat.lt_succ_self _) hnone rfl
    · dsimp only
      rw [if_pos hret]
      refine .failed [d.connectCall o.nextId id ret] nofun (.inr rfl) le_rfl (Nat.lt_succ_self _) ?_ rfl
      intro e he
      rw [List.mem_singleton.mp he]
      exact decide_eq_true hret

/-- The attempts of a device that has already made some, all of them refused. -/
theorem AttemptOutcome.after {id : Nat} {remote : Option Nat} {connectNofitier : Option DrvExtConnNotify}
    {es : List Event} {o₁ : Outside} {result : UsbErrCode × Device × Outside}
    (h : AttemptOutcome { d with drvExtRemote := remote, connectNofitier } id o₁ result)
    (hremote : remote = none ∨ remote = d.drvExtRemote) (hnext : o.nextId ≤ o₁.nextId)
    (hes : ∀ e ∈ es, e.isRefused = true) (hcalls : o₁.calls = es ++ o.calls) :
    AttemptOutcome d id o result := by
  have hall {es' : List Event} (hes' : ∀ e ∈ es', e.isRefused = true) :
      ∀ e ∈ es' ++ es, e.isRefused = true := by
    intro e he
    rcases List.mem_append.mp he with he | he
    · exact hes' e he
    · exact hes e he
  have hremote' {remote' : Option Nat} (h : remote' = none ∨ remote' = remote) :
      remote' = none ∨ remote' = d.drvExtRemote := by
    rcases h with h | rfl
    · exact .inl h
    · exact hremote
  cases h with
  | made es' hr hle hlt hes' hcalls' =>
    refine .made (es' ++ es) (hremote' hr) (hnext.trans hle) hlt (hall hes') ?_
    rw [hcalls', hcalls, List.append_assoc]
    rfl
  | failed es' hret hr hle hlt hes' hcalls' =>
    refine .failed (es' ++ es) hret (hremote' hr) (hnext.trans hle) hlt (hall hes') ?_
    rw [hcalls', hcalls, List.append_assoc]

theorem clear_connectNofitier {id : Nat} (hid : d.connectNofitier.map (·.id) = some id) :
    d.clearDrvExtRemote.clearConnection.connectNofitier = some { id } := by
  obtain ⟨notify, hnotify, rfl⟩ := Option.map_eq_some_iff.mp hid
  change d.connectNofitier.map (·.clearDrvExtConnectionInfo) = _
  rw [hnotify]
  rfl

/-- A retry forgets the connection that the notifier knows. -/
theorem retry_outcome {id : Nat} (reply : Option Int)
    (hid : d.connectNofitier.map (·.id) = some id) :
    AttemptOutcome d id o (d.clearDrvExtRemote.clearConnection.connectExtension reply o) := by
  have hfirst := connectExtension_outcome (o := o) reply (clear_connectNofitier hid)
  have hnone : ∀ e ∈ ([] : List Event), e.isRefused = true := fun _ he => nomatch he
  exact AttemptOutcome.after (d := d) (o := o) hfirst (.inl rfl) le_rfl hnone rfl

/-- The retries go on until an attempt is accepted. -/
theorem reconnect_outcome {id : Nat} (n : Nat) {result : UsbErrCode × Device × Outside}
    (h : AttemptOutcome d id o result) :
    AttemptOutcome d id o (reconnect r n result.1 result.2.1 result.2.2) := by
  induction n generalizing result with
  | zero => exact h
  | succ n ih =>
    cases h with
    | made es hr hle hlt hes hcalls =>
      rw [reconnect_ok]
      exact .made es hr hle hlt hes hcalls
    | @failed ret remote connectInner o' es hret hr hle hlt hes hcalls =>
      rw [reconnect, if_neg hret]
      have hretry : AttemptOutcome (d.attempted remote id connectInner) id o' _ :=
        retry_outcome (r.connect (retryTimes - n)) rfl
      exact ih (AttemptOutcome.after hretry hr (hle.trans hlt.le) hes hcalls)

/-- An automatic connect keeps the notifier of the device where it has one. Its first attempt is not
made where the notifier knows a connection, and the retries forget that connection. -/
theorem connect_outcome (r : DeviceReplies) (d : Device) (o : Outside) :
    ∃ id, (d.connectNofitier.map (·.id) = some id ∨
        (d.connectNofitier = none ∧ o.nextId ≤ id)) ∧
      AttemptOutcome d id o (connect r d o) := by
  have hnone : ∀ e ∈ ([] : List Event), e.isRefused = true := fun _ he => nomatch he
  cases hd : d.connectNofitier with
  | none =>
    have hadd : d.addDrvExtConnNotify o =
        ({ d with connectNofitier := some { id := o.nextId } }, o.alloc) := if_pos (by simp [hd])
    have hfirst := connectExtension_outcome (o := o.alloc)
      (d := { d with connectNofitier := some { id := o.nextId } }) (r.connect 0) rfl
    refine ⟨o.nextId, .inr ⟨rfl, le_rfl⟩, ?_⟩
    rw [connect, hadd]
    exact reconnect_outcome _ (AttemptOutcome.after (d := d) (o := o) hfirst (.inr rfl)
      (Nat.le_succ _) hnone rfl)
  | some notify =>
    have hadd : d.addDrvExtConnNotify o = (d, o) := if_neg (by simp [hd])
    refine ⟨notify.id, .inl rfl, ?_⟩
    rw [connect, hadd]
    obtain ⟨id, info⟩ := notify
    cases info with
    | none => exact reconnect_outcome _ (connectExtension_outcome (r.connect 0) hd)
    | some info =>
      have hfirst : d.connectExtension (r.connect 0) o = (.edmErrInvalidObject, d, o) := by
        simp only [connectExtension, hd, connectDriverExtension]
        rw [if_pos (by rfl), ← hd]
      have hretry : AttemptOutcome d id o _ :=
        retry_outcome (r.connect (retryTimes - 29)) (by rw [hd]; rfl)
      have hloop : AttemptOutcome d id o (reconnect r (29 + 1) .edmErrInvalidObject d o) := by
        rw [reconnect, if_neg (by decide)]
        exact reconnect_outcome 29 hretry
      dsimp only
      rw [hfirst]
      exact hloop

end Device
end ExtDevMgr.Manager
