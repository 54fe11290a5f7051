import ExtDevMgr.Manager.Connect
import ExtDevMgr.Manager.System

/-!
# Drivers launched by a bind

One device whose driver is launched by a bind, over the runs of the binds, the unbinds and the deaths
of its clients and of the completions of its connections. The device knows a client by its callback and
by its token; the death of a client only reaches the first.
-/

namespace ExtDevMgr.Manager.LaunchOnBind
open ExtDeviceManager

/-! ## Runs of one device -/

structure Client where
  callingTokenId : UInt32
  /-- The remote object of its callback. -/
  asObject : Nat
  deriving DecidableEq

structure State where
  manager : ExtDeviceManager
  /-- The live clients that have bound and not unbound. -/
  bound : Finset Client := ∅
  /-- Some client has bound since the driver extension was disconnected. -/
  used : Bool := false
  /-- A disconnect has been requested since the last connection was made. -/
  asked : Bool := false
  /-- An unbind has requested a disconnect while another client was bound. -/
  early : Bool := false

inductive Action
  | connectDevice (r : Replies) (callingTokenId : UInt32)
      (connectCallback : Option DriverExtMgrCallback)
  | connectDriverWithDeviceId (r : Replies) (access : AccessReplies) (callingTokenId : UInt32)
      (accessibleAppIds : Finset Name) (connectCallback : Option DriverExtMgrCallback)
  | disConnectDevice (r : Replies) (callingTokenId : UInt32)
  | disConnectDriverWithDeviceId (r : Replies) (callingTokenId : UInt32)
  | remoteDied (object : Nat)
  | onConnect (remote : Option Nat) (resultCode : Int)
  | onDisconnect (r : Replies) (resultCode : Int)

/-- A connection that the ability manager has accepted. -/
def isConnected : Event → Bool
  | .connectAbility _ _ _ _ _ ret => ret = 0
  | _ => false

def isDisconnect : Event → Bool
  | .disconnectAbility .. => true
  | _ => false

/-- A disconnect that the ability manager has accepted. -/
def isDisconnected : Event → Bool
  | .disconnectAbility _ ret => ret = 0
  | _ => false

namespace State

/-- The calls of the ability manager on the way from `s` to the manager `m`. -/
def newCalls (s : State) (m : ExtDeviceManager) : List Event := s.manager.out.newCalls m.out

/-- After a bind with the result `ret` that leaves the manager `m`. -/
def bind (s : State) (callingTokenId : UInt32) (connectCallback : Option DriverExtMgrCallback)
    (ret : UsbErrCode) (m : ExtDeviceManager) : State :=
  { s with
    manager := m
    bound := match connectCallback with
      | none => s.bound
      | some callback =>
        if ret = .edmOk then insert ⟨callingTokenId, callback.asObject⟩ s.bound else s.bound
    used := s.used || decide (ret = .edmOk)
    asked := s.asked && !(s.newCalls m).any isConnected }

/-- After an unbind with the result `ret` that leaves the manager `m`. -/
def unbind (s : State) (callingTokenId : UInt32) (ret : UsbErrCode) (m : ExtDeviceManager) :
    State :=
  { s with
    manager := m
    bound := if ret = .edmOk then s.bound.filter (·.callingTokenId ≠ callingTokenId) else s.bound
    asked := s.asked || (s.newCalls m).any isDisconnected
    early := s.early || ((s.newCalls m).any isDisconnect &&
      decide (∃ c ∈ s.bound, c.callingTokenId ≠ callingTokenId)) }

end State

/-- The steps of the device `id` at `obj`. -/
def step (id : DeviceId) (obj : Nat) (s : State) : Action → State
  | .connectDevice r token callback =>
    let (ret, m) := s.manager.connectDevice r id token callback
    s.bind token callback ret m
  | .connectDriverWithDeviceId r access token appIds callback =>
    let (ret, m) := s.manager.connectDriverWithDeviceId r access id token appIds callback
    s.bind token callback ret m
  | .disConnectDevice r token =>
    let (ret, m) := s.manager.disConnectDevice r id token
    s.unbind token ret m
  | .disConnectDriverWithDeviceId r token =>
    let (ret, m) := s.manager.disConnectDriverWithDeviceId r id token
    s.unbind token ret m
  | .remoteDied object =>
    { s with
      manager := s.manager.remoteDied obj object
      bound := s.bound.filter (·.asObject ≠ object) }
  | .onConnect remote resultCode => { s with manager := s.manager.onConnect obj remote resultCode }
  | .onDisconnect r resultCode =>
    { s with
      manager := (s.manager.onDisconnect obj resultCode).stopExtension r obj
      bound := ∅
      used := false
      asked := false }

/-- The device is the one that `RegisterDevice` makes for `id`. -/
def machine (m : ExtDeviceManager) (r : Replies) (id : DeviceId) : Machine State Action where
  init := { manager := (m.registerDevice r id).2 }
  enabled _ _ := True
  step := step id m.nextObject

/-! ## What is to hold -/

/-- Once no client is left a disconnect has been requested, and none was requested by an unbind while
another client was bound. -/
structure OnTime (s : State) : Prop where
  requested : s.used = true → s.bound = ∅ → s.asked = true
  notEarly : s.early = false

/-- A client that joins a connection finds one that the notifier of the device knows, one that makes
a connection finds only bound clients among the callers, and one that is refused is not bound
already. -/
def BindKept (s : State) (d : Device) (r : DeviceReplies) (callingTokenId : UInt32)
    (connectCallback : Option DriverExtMgrCallback) : Prop :=
  connectCallback.isSome = true → r.addDeathRecipient = true →
    if d.drvExtRemote.isSome then
      d.connection.isSome = true
    else if r.connect 0 = some 0 then
      ∀ token ∈ d.boundCallerInfos.keys, ∃ c ∈ s.bound, c.callingTokenId = token
    else
      ∀ c ∈ s.bound, c.callingTokenId ≠ callingTokenId

instance (s : State) (d : Device) (r : DeviceReplies) (token : UInt32)
    (callback : Option DriverExtMgrCallback) : Decidable (BindKept s d r token callback) := by
  have (tokens : List UInt32) :
      Decidable (∀ t ∈ tokens, ∃ c ∈ s.bound, c.callingTokenId = t) := List.decidableBAll _ tokens
  unfold BindKept
  infer_instance

/-- A client that dies has another callback, unless a disconnect has been requested. -/
def DeathKept (s : State) (object : Nat) : Prop :=
  s.asked = true ∨
    ∀ c ∈ s.bound, ∃ c' ∈ s.bound, c'.callingTokenId = c.callingTokenId ∧ c'.asObject ≠ object

instance (s : State) (object : Nat) : Decidable (DeathKept s object) :=
  inferInstanceAs (Decidable (_ ∨ _))

def Kept (id : DeviceId) (obj : Nat) (s : State) : Action → Prop
  | .connectDevice r token callback =>
    BindKept s (s.manager.objects obj) (r.device id) token callback
  | .connectDriverWithDeviceId r access token appIds callback =>
    checkAccessPermission access (s.manager.objects obj).driverInfo appIds token = .edmOk →
      BindKept s (s.manager.objects obj) (r.device id) token callback
  | .remoteDied object => DeathKept s object
  | _ => True

instance (id : DeviceId) (obj : Nat) (s : State) : DecidablePred (Kept id obj s) := fun a => by
  cases a <;> unfold Kept <;> infer_instance

/-! ## What a run keeps -/

/-- The clients of the device `d` and its callers are the same, as far as its disconnect depends on
them. -/
structure Counted (d : Device) (s : State) : Prop where
  connection : ∀ info, d.connection = some info → ∃ connectInner, info = d.connectionInfo connectInner
  caller : ∀ c ∈ s.bound, c.callingTokenId ∈ d.boundCallerInfos
  unused : s.used = false → ∀ token, token ∉ d.boundCallerInfos
  connected : s.used = true → s.asked = false → d.connection.isSome = true
  client : s.used = true → s.asked = false →
    ∀ token ∈ d.boundCallerInfos, ∃ c ∈ s.bound, c.callingTokenId = token

structure Inv (id : DeviceId) (obj : Nat) (s : State) : Prop where
  lookup : s.manager.deviceMap.lookup id = some obj
  launchOnBind : ∃ driverInfo, (s.manager.objects obj).driverInfo = some driverInfo ∧
    driverInfo.launchOnBind = true
  counted : Counted (s.manager.objects obj) s
  onTime : OnTime s

/-- Nobody is the last caller but the only one. -/
theorem isLastCaller_iff {d : Device} {token : UInt32} : d.isLastCaller token = true ↔
    token ∈ d.boundCallerInfos ∧ ∀ t ∈ d.boundCallerInfos, t = token := by
  have hlength : d.boundCallerInfos.entries.length = d.boundCallerInfos.keys.length :=
    (List.length_map ..).symm
  have hnodup : d.boundCallerInfos.keys.Nodup := d.boundCallerInfos.keys_nodup
  have hmem (t : UInt32) : t ∈ d.boundCallerInfos ↔ t ∈ d.boundCallerInfos.keys := Iff.rfl
  simp only [Device.isLastCaller, hlength, hmem]
  generalize d.boundCallerInfos.keys = keys at hnodup ⊢
  match keys, hnodup with
  | [], _ => simp
  | [t], _ => simp [eq_comm]
  | t :: t' :: rest, hnodup =>
    have hne : t ≠ t' := by
      intro heq
      exact (List.nodup_cons.mp hnodup).1 (heq ▸ List.mem_cons_self)
    refine iff_of_false (by simp) ?_
    rintro ⟨-, hall⟩
    exact hne ((hall t (by simp)).trans (hall t' (by simp)).symm)

variable {id : DeviceId} {obj : Nat} {s s' : State} {m : ExtDeviceManager} {token : UInt32}
  {ret : UsbErrCode}

theorem newCalls_nil (h : m.out.calls = s.manager.out.calls) : s.newCalls m = [] :=
  Outside.newCalls_nil h

/-- The step of one device leaves the map and the driver of the device. -/
theorem Inv.of_counted (h : Inv id obj s) {d : Device}
    (hmap : s'.manager.deviceMap = s.manager.deviceMap) (hd : s'.manager.objects obj = d)
    (hdriver : d.driverInfo = (s.manager.objects obj).driverInfo) (hcounted : Counted d s')
    (htime : OnTime s') : Inv id obj s' where
  lookup := hmap ▸ h.lookup
  launchOnBind := by
    rw [hd, hdriver]
    exact h.launchOnBind
  counted := hd ▸ hcounted
  onTime := htime

/-! ## Binds -/

theorem bind_fails {callback : Option DriverExtMgrCallback} (hret : ret ≠ .edmOk)
    (h : (s.newCalls m).any isConnected = false) :
    s.bind token callback ret m = { s with manager := m } := by
  cases callback with
  | none => simp [State.bind, hret, h]
  | some callback => simp [State.bind, hret, h]

theorem bind_succeeds (callback : DriverExtMgrCallback) :
    s.bind token (some callback) .edmOk m =
      { s with
        manager := m
        bound := insert ⟨token, callback.asObject⟩ s.bound
        used := true
        asked := s.asked && !(s.newCalls m).any isConnected } := by
  simp [State.bind]

/-- A connection that is refused is not made. -/
theorem not_connected {d : Device} {connectInner callback : Nat}
    (h : m.out.calls = s.manager.out.calls ∨ ∃ code, code ≠ 0 ∧
      m.out.calls = d.connectCall connectInner callback code :: s.manager.out.calls) :
    (s.newCalls m).any isConnected = false := by
  rcases h with h | ⟨code, hcode, h⟩
  · rw [newCalls_nil h]
    rfl
  · have hnew : s.newCalls m = [d.connectCall connectInner callback code] := Outside.newCalls_eq h
    simp [hnew, Device.connectCall, isConnected, hcode]

/-- Before a new client binds, a caller is a bound client. -/
theorem Counted.client_of_asked {d : Device} (h : Counted d s) (hasked : s.asked = false) :
    ∀ t ∈ d.boundCallerInfos, ∃ c ∈ s.bound, c.callingTokenId = t := by
  intro t ht
  cases hused : s.used with
  | false => exact absurd ht (h.unused hused t)
  | true => exact h.client hused hasked t ht

/-- A new client is a new caller. -/
theorem Counted.insert {d d' : Device} {callerInfo : CallerInfo} {object : Nat} {asked : Bool}
    (h : Counted d s) (hcallers : d'.boundCallerInfos = d.boundCallerInfos.insert token callerInfo)
    (hconnection : ∀ info, d'.connection = some info →
      ∃ connectInner, info = d'.connectionInfo connectInner)
    (hsome : d'.connection.isSome = true)
    (hclient : asked = false → ∀ t ∈ d.boundCallerInfos, ∃ c ∈ s.bound, c.callingTokenId = t) :
    Counted d' { s with
      manager := m, bound := insert ⟨token, object⟩ s.bound, used := true, asked } where
  connection := hconnection
  caller c hc := by
    rw [hcallers, AList.mem_insert]
    rcases Finset.mem_insert.mp hc with rfl | hc
    · exact .inl rfl
    · exact .inr (h.caller c hc)
  unused hused := absurd hused nofun
  connected _ _ := hsome
  client _ hasked t ht := by
    rw [hcallers, AList.mem_insert] at ht
    rcases ht with rfl | ht
    · exact ⟨_, Finset.mem_insert_self _ _, rfl⟩
    · obtain ⟨c, hc, heq⟩ := hclient hasked t ht
      exact ⟨c, Finset.mem_insert_of_mem hc, heq⟩

theorem bind_inv (h : Inv id obj s) {r : DeviceReplies} {callback : Option DriverExtMgrCallback}
    (hkept : BindKept s (s.manager.objects obj) r token callback) :
    Inv id obj (s.bind token callback
      (s.manager.runDevice obj (Device.connectWith r callback token)).1
      (s.manager.runDevice obj (Device.connectWith r callback token)).2) := by
  have hbind := Device.connectWith_outcome r callback token (s.manager.objects obj) s.manager.out
  have hcounted := h.counted
  unfold runDevice
  generalize Device.connectWith r callback token (s.manager.objects obj) s.manager.out = result
    at hbind ⊢
  cases hbind with
  | refused hret hcalls =>
    rw [bind_fails hret (by rw [newCalls_nil hcalls]; rfl)]
    exact h.of_counted rfl (setDevice_self _) rfl
      ⟨hcounted.connection, hcounted.caller, hcounted.unused, hcounted.connected, hcounted.client⟩
      ⟨h.onTime.requested, h.onTime.notEarly⟩
  | joined hcb hdeath hremote hcalls =>
    subst hcb
    have hconnection : (s.manager.objects obj).connection.isSome = true := by
      have hjoin := hkept rfl hdeath
      rwa [if_pos hremote] at hjoin
    rw [bind_succeeds, newCalls_nil hcalls]
    refine h.of_counted rfl (setDevice_self _) rfl ?_ ⟨?_, h.onTime.notEarly⟩
    · refine hcounted.insert rfl hcounted.connection hconnection ?_
      intro hasked
      exact hcounted.client_of_asked (by simpa using hasked)
    · intro _ hempty
      exact absurd hempty (Finset.insert_ne_empty _ _)
  | connected hcb hdeath hremote hreply hcalls =>
    subst hcb
    have hnew := hkept rfl hdeath
    rw [if_neg (by simp [hremote]), if_pos hreply] at hnew
    rw [bind_succeeds]
    refine h.of_counted rfl (setDevice_self _) rfl ?_ ⟨?_, h.onTime.notEarly⟩
    · refine hcounted.insert rfl ?_ rfl fun _ => hnew
      intro info hinfo
      exact ⟨_, (Option.some.inj hinfo).symm⟩
    · intro _ hempty
      exact absurd hempty (Finset.insert_ne_empty _ _)
  | failed hcb hdeath hremote hreply hret hcalls =>
    subst hcb
    have hother := hkept rfl hdeath
    rw [if_neg (by simp [hremote]), if_neg hreply] at hother
    rw [bind_fails hret (not_connected hcalls)]
    refine h.of_counted rfl (setDevice_self _) rfl ?_ ⟨h.onTime.requested, h.onTime.notEarly⟩
    have hmem (t : UInt32) :
        t ∈ ((s.manager.objects obj).boundCallerInfos.insert token ⟨false⟩).erase token ↔
          t ≠ token ∧ t ∈ (s.manager.objects obj).boundCallerInfos := by
      rw [AList.mem_erase, AList.mem_insert]
      constructor
      · rintro ⟨hne, ht⟩
        exact ⟨hne, ht.resolve_left hne⟩
      · rintro ⟨hne, ht⟩
        exact ⟨hne, .inr ht⟩
    refine ⟨?_, ?_, ?_, fun _ _ => rfl, ?_⟩
    · intro info hinfo
      exact ⟨_, (Option.some.inj hinfo).symm⟩
    · intro c hc
      exact (hmem _).mpr ⟨hother c hc, hcounted.caller c hc⟩
    · intro hused t ht
      exact hcounted.unused hused t ((hmem t).mp ht).2
    · intro hused hasked t ht
      exact hcounted.client hused hasked t ((hmem t).mp ht).2

/-! ## Unbinds -/

/-- An unbind that is not the last one removes the client. -/
theorem remove_inv (h : Inv id obj s)
    (hlast : (s.manager.objects obj).isLastCaller token = false) :
    Inv id obj (s.unbind token .edmOk
      (s.manager.setDevice obj ((s.manager.objects obj).removeCaller token))) := by
  have hcounted := h.counted
  have hnew : s.newCalls (s.manager.setDevice obj ((s.manager.objects obj).removeCaller token)) =
      [] := newCalls_nil rfl
  have hunbind : s.unbind token .edmOk
      (s.manager.setDevice obj ((s.manager.objects obj).removeCaller token)) =
        { s with
          manager := s.manager.setDevice obj ((s.manager.objects obj).removeCaller token)
          bound := s.bound.filter (·.callingTokenId ≠ token) } := by
    simp [State.unbind, hnew]
  rw [hunbind]
  refine h.of_counted rfl (setDevice_self _) rfl ⟨hcounted.connection, ?_, ?_, hcounted.connected, ?_⟩
    ⟨?_, h.onTime.notEarly⟩
  · intro c hc
    obtain ⟨hc, hne⟩ := Finset.mem_filter.mp hc
    exact AList.mem_erase.mpr ⟨hne, hcounted.caller c hc⟩
  · intro hused t ht
    exact hcounted.unused hused t (AList.mem_erase.mp ht).2
  · intro hused hasked t ht
    obtain ⟨hne, ht⟩ := AList.mem_erase.mp ht
    obtain ⟨c, hc, rfl⟩ := hcounted.client hused hasked t ht
    exact ⟨c, Finset.mem_filter.mpr ⟨hc, hne⟩, rfl⟩
  · intro hused hempty
    by_contra hasked
    have hasked := Bool.eq_false_iff.mpr hasked
    have honly : ∀ c ∈ s.bound, c.callingTokenId = token := by
      intro c hc
      exact Decidable.not_not.mp (Finset.filter_eq_empty_iff.mp hempty hc)
    have hcaller : token ∉ (s.manager.objects obj).boundCallerInfos := by
      intro htoken
      refine Bool.eq_false_iff.mp hlast (isLastCaller_iff.mpr ⟨htoken, ?_⟩)
      intro t ht
      obtain ⟨c, hc, rfl⟩ := hcounted.client hused hasked t ht
      exact honly c hc
    have hbound : s.bound = ∅ := by
      apply Finset.eq_empty_of_forall_notMem
      intro c hc
      exact hcaller (honly c hc ▸ hcounted.caller c hc)
    exact Bool.eq_false_iff.mp hasked (h.onTime.requested hused hbound)

/-- An unbind by the last client removes it once a disconnect has been requested. -/
theorem last_inv (h : Inv id obj s) (hmap : m.deviceMap = s.manager.deviceMap)
    (hobj : m.objects obj = s.manager.objects obj)
    (honly : ∀ c ∈ s.bound, c.callingTokenId = token)
    (hrequest : ret = .edmOk → s.used = true →
      (s.asked || (s.newCalls m).any isDisconnected) = true) :
    Inv id obj (s.unbind token ret m) := by
  have hcounted := h.counted
  have hbound : ∀ c ∈ (s.unbind token ret m).bound, c ∈ s.bound := by
    intro c hc
    simp only [State.unbind] at hc
    split at hc
    case isTrue => exact (Finset.mem_filter.mp hc).1
    case isFalse => exact hc
  have hkeep : s.used = true → (s.unbind token ret m).asked = false →
      s.asked = false ∧ (s.unbind token ret m).bound = s.bound := by
    intro hused hasked
    have hret : ret ≠ .edmOk := by
      intro hret
      exact Bool.eq_false_iff.mp hasked (hrequest hret hused)
    exact ⟨(Bool.or_eq_false_iff.mp hasked).1, if_neg hret⟩
  refine h.of_counted hmap hobj rfl ⟨hcounted.connection, ?_, hcounted.unused, ?_, ?_⟩ ⟨?_, ?_⟩
  · intro c hc
    exact hcounted.caller c (hbound c hc)
  · intro hused hasked
    exact hcounted.connected hused (hkeep hused hasked).1
  · intro hused hasked
    obtain ⟨hasked, heq⟩ := hkeep hused hasked
    rw [heq]
    exact hcounted.client hused hasked
  · intro hused hempty
    by_contra hasked
    obtain ⟨hasked, heq⟩ := hkeep hused (Bool.eq_false_iff.mpr hasked)
    exact Bool.eq_false_iff.mp hasked (h.onTime.requested hused (heq ▸ hempty))
  · have hnobody : ¬∃ c ∈ s.bound, c.callingTokenId ≠ token := by
      rintro ⟨c, hc, hne⟩
      exact hne (honly c hc)
    simp [State.unbind, h.onTime.notEarly, hnobody]

theorem unbind_inv (h : Inv id obj s) (r : Replies) (token : UInt32) :
    Inv id obj (s.unbind token (s.manager.unbind r obj token).1
      (s.manager.unbind r obj token).2) := by
  obtain ⟨driverInfo, hdriver, hlaunch⟩ := h.launchOnBind
  have hcounted := h.counted
  simp only [ExtDeviceManager.unbind, hdriver, hlaunch, Bool.not_true, Bool.false_or]
  cases hlast : (s.manager.objects obj).isLastCaller token with
  | false => exact remove_inv h hlast
  | true =>
    simp only [Bool.not_true, Bool.false_eq_true, if_false]
    obtain ⟨-, hall⟩ := isLastCaller_iff.mp hlast
    have honly : ∀ c ∈ s.bound, c.callingTokenId = token := by
      intro c hc
      exact hall _ (hcounted.caller c hc)
    refine last_inv h rfl rfl honly ?_
    intro hret hused
    cases hasked : s.asked with
    | true => rfl
    | false =>
      obtain ⟨info, hinfo⟩ := Option.isSome_iff_exists.mp (hcounted.connected hused hasked)
      obtain ⟨connectInner, rfl⟩ := hcounted.connection info hinfo
      rw [Device.disconnect_of_connection hinfo] at hret ⊢
      cases hreply : (r.device (s.manager.objects obj).info).disconnect with
      | none => simp [hreply] at hret
      | some code =>
        obtain rfl : code = 0 := by
          by_contra hcode
          simp [hreply, hcode] at hret
        have hnew : s.newCalls { s.manager with
            out := s.manager.out.emit (.disconnectAbility connectInner 0) } =
              [.disconnectAbility connectInner 0] :=
          Outside.newCalls_eq (Outside.calls_emit rfl)
        rw [Bool.false_or]
        simp only [hnew]
        rfl

/-! ## Runs -/

theorem remoteDied_inv (h : Inv id obj s) {object : Nat} (hkept : DeathKept s object) :
    Inv id obj (step id obj s (.remoteDied object)) := by
  have hcounted := h.counted
  have hrest : s.asked = false → ∀ c ∈ s.bound, ∃ c' ∈ s.bound.filter (·.asObject ≠ object),
      c'.callingTokenId = c.callingTokenId := by
    intro hasked c hc
    obtain ⟨c', hc', heq, hne⟩ := hkept.resolve_left (by simp [hasked]) c hc
    exact ⟨c', Finset.mem_filter.mpr ⟨hc', hne⟩, heq⟩
  refine h.of_counted rfl (setDevice_self _) rfl
    ⟨hcounted.connection, ?_, hcounted.unused, hcounted.connected, ?_⟩ ⟨?_, h.onTime.notEarly⟩
  · intro c hc
    exact hcounted.caller c (Finset.mem_filter.mp hc).1
  · intro hused hasked t ht
    obtain ⟨c, hc, rfl⟩ := hcounted.client hused hasked t ht
    exact hrest hasked c hc
  · intro hused hempty
    by_contra hasked
    have hbound : s.bound = ∅ := by
      apply Finset.eq_empty_of_forall_notMem
      intro c hc
      obtain ⟨c', hc', -⟩ := hrest (Bool.eq_false_iff.mpr hasked) c hc
      exact Finset.eq_empty_iff_forall_notMem.mp hempty c' hc'
    exact hasked (h.onTime.requested hused hbound)

/-- An unbind that does not reach the device changes nothing. -/
theorem unbind_refused (hret : ret ≠ .edmOk) : s.unbind token ret s.manager = s := by
  have hnew : s.newCalls s.manager = [] := newCalls_nil rfl
  simp [State.unbind, hnew, hret]

theorem step_inv (h : Inv id obj s) {a : Action} (hkept : Kept id obj s a) :
    Inv id obj (step id obj s a) := by
  cases a with
  | connectDevice r token callback =>
    simp only [step, connectDevice, queryDeviceByDeviceID, h.lookup]
    exact bind_inv h hkept
  | connectDriverWithDeviceId r access token appIds callback =>
    simp only [step, connectDriverWithDeviceId, queryDeviceByDeviceID, h.lookup]
    split
    case isTrue hret =>
      rw [bind_fails hret (by rw [newCalls_nil rfl]; rfl)]
      exact h
    case isFalse hret => exact bind_inv h (hkept (Decidable.not_not.mp hret))
  | disConnectDevice r token =>
    simp only [step, disConnectDevice, queryDeviceByDeviceID, h.lookup]
    exact unbind_inv h r token
  | disConnectDriverWithDeviceId r token =>
    simp only [step, disConnectDriverWithDeviceId, queryDeviceByDeviceID, h.lookup]
    split
    case isTrue =>
      have hrefused : s.unbind token .edmErrServiceNotBound s.manager = s :=
        unbind_refused (by decide)
      exact hrefused.symm ▸ h
    case isFalse => exact unbind_inv h r token
  | remoteDied object => exact remoteDied_inv h hkept
  | onConnect remote resultCode =>
    have hcounted := h.counted
    refine h.of_counted rfl (setDevice_self _) rfl ⟨hcounted.connection, ?_, ?_, hcounted.connected, ?_⟩
      ⟨h.onTime.requested, h.onTime.notEarly⟩
    · intro c hc
      exact Table.mem_mapValues.mpr (hcounted.caller c hc)
    · intro hused t ht
      exact hcounted.unused hused t (Table.mem_mapValues.mp ht)
    · intro hused hasked t ht
      exact hcounted.client hused hasked t (Table.mem_mapValues.mp ht)
  | onDisconnect r resultCode =>
    refine h.of_counted rfl (setDevice_self _) rfl ⟨?_, nofun, ?_, nofun, nofun⟩
      ⟨nofun, h.onTime.notEarly⟩
    · intro info hinfo
      exact absurd ((Device.clearConnection_connection (d := s.manager.objects obj)).symm.trans hinfo)
        nofun
    · intro _ t
      exact AList.notMem_empty t

theorem launchDriver_of_launchOnBind {r : Replies} {driverInfo : DriverInfo}
    (hdriver : (m.objects obj).driverInfo = some driverInfo)
    (hlaunch : driverInfo.launchOnBind = true) :
    (m.launchDriver r obj).2 = m.updateDriverInfo obj := by
  simp only [launchDriver, hdriver, hlaunch, if_true]

/-- A new device whose driver is launched by a bind is not connected when it comes. -/
theorem startDevice_launchOnBind {r : Replies} {driverInfo : DriverInfo}
    (hobj : m.objects obj = { info := id }) (hmatch : r.queryMatchDriver id = some driverInfo)
    (hlaunch : driverInfo.launchOnBind = true) :
    (m.startDevice r id obj).2.objects obj =
      Device.addBundleInfo { info := id } driverInfo.bundleInfo driverInfo := by
  have hmatched : m.matchDevice r id obj =
      m.setDevice obj (Device.addBundleInfo { info := id } driverInfo.bundleInfo driverInfo) := by
    simp [matchDevice, hobj, hmatch]
  generalize hd : Device.addBundleInfo { info := id } driverInfo.bundleInfo driverInfo = d
    at hmatched ⊢
  have hbundle : d.bundleInfo ≠ [] := by
    rw [← hd]
    exact driverInfo.bundleInfo_ne_nil
  have hself : ((m.setDevice obj d).stopUnloadTimer.emplaceDevId d.bundleInfo
      ((m.setDevice obj d).stopUnloadTimer.objects obj).info).objects obj = d := setDevice_self d
  have hdriver := congrArg Device.driverInfo (hself.trans hd.symm)
  rw [startDevice_snd, hmatched, setDevice_self, if_neg hbundle, addDevIdOfBundleInfoMap,
    if_neg hbundle, launchDriver_of_launchOnBind hdriver hlaunch, updateDriverInfo_objects, hself]

theorem init_inv {r : Replies} {driverInfo : DriverInfo} (hnew : m.deviceMap.lookup id = none)
    (hmatch : r.queryMatchDriver id = some driverInfo) (hlaunch : driverInfo.launchOnBind = true) :
    Inv id m.nextObject (machine m r id).init := by
  have hreg : (m.registerDevice r id).2 = ((m.makeDevice id).startDevice r id m.nextObject).2 := by
    simp only [registerDevice, hnew]
  have hdevice := startDevice_launchOnBind (m := m.makeDevice id) makeDevice_self hmatch hlaunch
  rw [← hreg] at hdevice
  have hmap : (m.registerDevice r id).2.deviceMap.lookup id = some m.nextObject := by
    rw [hreg, startDevice_touches.deviceMap, lookup_makeDevice_self]
  have hcounted : Counted (Device.addBundleInfo { info := id } driverInfo.bundleInfo driverInfo)
      (machine m r id).init := by
    refine ⟨fun _ hinfo => ?_, fun c hc => ?_, fun _ => AList.notMem_empty, fun hused => ?_,
      fun hused => ?_⟩
    · cases hinfo
    · exact absurd hc (Finset.notMem_empty c)
    · cases hused
    · cases hused
  refine ⟨hmap, ⟨driverInfo, congrArg Device.driverInfo hdevice, hlaunch⟩, hdevice.symm ▸ hcounted,
    fun hused => ?_, rfl⟩
  cases hused

/-- In the runs whose steps are all kept, a driver launched by a bind is asked to disconnect when its
last client leaves, and not before. -/
theorem onTime_of_kept (m : ExtDeviceManager) (r : Replies) (id : DeviceId) (driverInfo : DriverInfo)
    (hnew : m.deviceMap.lookup id = none) (hmatch : r.queryMatchDriver id = some driverInfo)
    (hlaunch : driverInfo.launchOnBind = true) (as : List Action)
    (h : (machine m r id).Along (Kept id m.nextObject) (machine m r id).init as) :
    (machine m r id).Throughout OnTime (machine m r id).init as := by
  have hinv : (machine m r id).Throughout (Inv id m.nextObject) (machine m r id).init as :=
    Machine.throughout_of_along (fun _ _ hs ha => step_inv hs ha) (init_inv hnew hmatch hlaunch) h
  exact hinv.mono fun s hs => hs.onTime

/-- A driver that is launched by a bind, and an ability manager that accepts. -/
def replies : Replies := { System.replies with
  queryMatchDriver := fun _ => some
    { bundleName := ['b'], driverName := ['d'], driverUid := ['u'], launchOnBind := true } }

/-- Two clients share a connection; the second one to leave ends it. -/
theorem onTime_of_two_clients :
    (machine {} replies 1).Throughout OnTime (machine {} replies 1).init
      [.connectDevice replies 101 (some ⟨1⟩), .onConnect (some 7) 0,
        .connectDevice replies 102 (some ⟨2⟩), .disConnectDevice replies 101, .remoteDied 1,
        .disConnectDriverWithDeviceId replies 102, .onDisconnect replies 0] :=
  onTime_of_kept {} replies 1 _ rfl rfl rfl _ (by decide +kernel)

/-- A client binds, its connection completes, and it dies: the driver extension stays. -/
theorem not_forall_onTime :
    ¬∀ m r id driverInfo, m.deviceMap.lookup id = none → r.queryMatchDriver id = some driverInfo →
      driverInfo.launchOnBind = true → ∀ as,
        (machine m r id).Throughout OnTime (machine m r id).init as := by
  intro h
  have hlast := (h {} replies 1 _ rfl rfl rfl
    [.connectDevice replies 101 (some ⟨1⟩), .onConnect (some 7) 0, .remoteDied 1]).last
  exact absurd (hlast.requested (by decide) (by decide)) (by decide)

end ExtDevMgr.Manager.LaunchOnBind
