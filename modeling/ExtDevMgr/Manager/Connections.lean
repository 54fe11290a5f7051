import ExtDevMgr.Manager.Detached

/-!
# Connections of one device

The ability manager answers a connection that it has accepted by a connect completion and a disconnect
completion, each as late as it likes. A completion goes to the notifier that the connection was made
with, so it reaches the device only as long as the device has that notifier. The device has one
notifier, and its notifier one connection.
-/

namespace ExtDevMgr.Manager.Connections
open ExtDeviceManager

/-! ## Runs -/

/-- What a connection establishes on its device. -/
inductive Item
  | remote
  | caller (callingTokenId : UInt32)
  | callback (asObject : Nat)
  deriving DecidableEq

def Has (d : Device) : Item → Prop
  | .remote => d.drvExtRemote.isSome = true
  | .caller token => token ∈ d.boundCallerInfos
  | .callback x => x ∈ d.callbacks.map (·.asObject)

instance (d : Device) : DecidablePred (Has d) := fun item => by
  cases item <;> unfold Has <;> infer_instance

structure State where
  sys : System := {}
  accepted : Finset Connection := ∅
  /-- The connections that the ability manager has been asked to disconnect. -/
  asked : Finset Nat := ∅
  /-- The connections whose disconnect has completed. -/
  closed : Finset Connection := ∅
  /-- The connection that has established an item of a device. -/
  owner : Nat → Item → Option Nat := fun _ _ => none

inductive Action
  | operation (a : Manager.Action)
  /-- The loop of `MatchDriverInfos` comes to the device. -/
  | matchDriverInfo (r : Replies) (deviceIds : Finset DeviceId)
  | connectDone (connection : Connection) (remote : Option Nat) (resultCode : Int)
  | disconnectDone (r : Replies) (connection : Connection) (resultCode : Int)

/-- The operations on the device `id`. -/
def OnDevice (id : DeviceId) : Manager.Action → Prop
  | .registerDevice _ devInfo => devInfo = id
  | .unRegisterDevice _ devInfo => devInfo = id
  | .connectDevice _ deviceId _ _ => deviceId = id
  | .connectDriverWithDeviceId _ _ deviceId _ _ _ => deviceId = id
  | .disConnectDevice _ deviceId _ => deviceId = id
  | .disConnectDriverWithDeviceId _ deviceId _ => deviceId = id
  | .removeDeviceOfDeviceMap .. => True
  | _ => False

instance (id : DeviceId) : DecidablePred (OnDevice id)
  | .registerDevice _ devInfo => inferInstanceAs (Decidable (devInfo = id))
  | .unRegisterDevice _ devInfo => inferInstanceAs (Decidable (devInfo = id))
  | .connectDevice _ deviceId _ _ => inferInstanceAs (Decidable (deviceId = id))
  | .connectDriverWithDeviceId _ _ deviceId _ _ _ => inferInstanceAs (Decidable (deviceId = id))
  | .disConnectDevice _ deviceId _ => inferInstanceAs (Decidable (deviceId = id))
  | .disConnectDriverWithDeviceId _ deviceId _ => inferInstanceAs (Decidable (deviceId = id))
  | .removeDeviceOfDeviceMap .. => inferInstanceAs (Decidable True)
  | .onBundlesUpdated .. | .clearMatchedDrivers .. | .onConnect .. | .onDisconnect ..
  | .remoteDied .. => inferInstanceAs (Decidable False)

/-- The notifier and the `connectInner_` of a connection that the ability manager accepts. -/
def connected : Event → Option (Nat × Nat)
  | .connectAbility connectInner callback _ _ _ ret =>
    if ret = 0 then some (callback, connectInner) else none
  | _ => none

def asks : Event → Option Nat
  | .disconnectAbility connectInner _ => some connectInner
  | _ => none

/-- The connections of the device at `obj` that are made by `calls`. -/
def made (obj : Nat) (calls : List Event) : Finset Connection :=
  ((calls.filterMap connected).map fun p => { obj, notify := p.1, connectInner := p.2 }).toFinset

namespace State

def device (s : State) (obj : Nat) : Device := s.sys.manager.objects obj

/-- The completions of the connection reach its device. -/
def Reaches (s : State) (connection : Connection) : Prop :=
  (s.device connection.obj).notifyId = some connection.notify

instance (s : State) : DecidablePred s.Reaches := fun _ => inferInstanceAs (Decidable (_ = _))

/-- The connection that serves a bind with the result `ret` that makes `calls`: the one of the remote,
or else the one that it makes. -/
def source (s : State) (obj : Nat) (ret : UsbErrCode) (calls : List Event) : Option Nat :=
  if ret ≠ .edmOk then none
  else if (s.device obj).drvExtRemote.isSome then s.owner obj .remote
  else (calls.filterMap connected).head?.map (·.2)

def ownerAfter (s : State) (deviceId : DeviceId) (callingTokenId : UInt32)
    (connectCallback : Option DriverExtMgrCallback) (ret : UsbErrCode) (calls : List Event) :
    Nat → Item → Option Nat :=
  match s.sys.manager.deviceMap.lookup deviceId with
  | none => s.owner
  | some obj =>
    Function.update s.owner obj fun
      | .remote => s.owner obj .remote
      | .caller token =>
        if token = callingTokenId ∧ ret = .edmOk then s.source obj ret calls
        else s.owner obj (.caller token)
      | .callback x =>
        if connectCallback.any (·.asObject = x) ∧ ¬Has (s.device obj) (.callback x) then
          s.source obj ret calls
        else
          s.owner obj (.callback x)

/-- The owners after an operation that makes `calls`. -/
def ownerOf (s : State) (a : Manager.Action) (calls : List Event) : Nat → Item → Option Nat :=
  match a with
  | .connectDevice r deviceId token callback =>
    s.ownerAfter deviceId token callback
      (s.sys.manager.connectDevice r deviceId token callback).1 calls
  | .connectDriverWithDeviceId r access deviceId token appIds callback =>
    s.ownerAfter deviceId token callback
      (s.sys.manager.connectDriverWithDeviceId r access deviceId token appIds callback).1 calls
  | _ => s.owner

/-- The state after an operation on the device `id` that leads to `sys`. -/
def advance (id : DeviceId) (s : State) (sys : System) : State :=
  let calls := s.sys.manager.out.newCalls sys.manager.out
  { s with
    sys
    accepted := match sys.manager.deviceMap.lookup id with
      | none => s.accepted
      | some obj => s.accepted ∪ made obj calls
    asked := s.asked ∪ (calls.filterMap asks).toFinset }

end State

def step (id : DeviceId) (s : State) : Action → State
  | .operation a =>
    { s.advance id (s.sys.step a) with
      owner := s.ownerOf a (s.sys.manager.out.newCalls (s.sys.step a).manager.out) }
  | .matchDriverInfo r deviceIds =>
    s.advance id { s.sys with manager := s.sys.manager.matchDriverInfo r deviceIds id }
  | .connectDone connection remote resultCode =>
    if s.Reaches connection then
      { s with
        sys := s.sys.step (.onConnect connection.obj remote resultCode)
        owner := Function.update s.owner connection.obj
          (Function.update (s.owner connection.obj) .remote (some connection.connectInner)) }
    else
      s
  | .disconnectDone r connection resultCode =>
    { s with
      sys := if s.Reaches connection then s.sys.step (.onDisconnect r connection.obj resultCode)
        else s.sys
      closed := insert connection s.closed }

/-- The completions of different connections come in any order. Of the ability manager it is assumed
that it sends completions of accepted connections only, and none of a connection after its own
disconnect completion. -/
def Enabled (id : DeviceId) (s : State) : Action → Prop
  | .operation a => OnDevice id a ∧ s.sys.Enabled a
  | .matchDriverInfo .. => True
  | .connectDone connection _ _ => connection ∈ s.accepted ∧ connection ∉ s.closed
  | .disconnectDone _ connection _ => connection ∈ s.accepted ∧ connection ∉ s.closed

instance (id : DeviceId) (s : State) : DecidablePred (Enabled id s) := fun a => by
  cases a <;> unfold Enabled <;> infer_instance

def machine (driverChangeCallback : Bool) (id : DeviceId) : Machine State Action where
  init := { sys := (System.machine driverChangeCallback).init }
  enabled := Enabled id
  step := step id

instance (driverChangeCallback : Bool) (id : DeviceId) (s : State) :
    DecidablePred ((machine driverChangeCallback id).enabled s) :=
  inferInstanceAs (DecidablePred (Enabled id s))

/-! ## What is to hold -/

/-- The connection that the notifier of the device knows. -/
def known (d : Device) : Option Nat := d.connection.map (·.connectInner)

/-- No accepted connection is lost, and the disconnect completion of a connection clears nothing that
another one has established. -/
structure Sound (id : DeviceId) (s : State) : Prop where
  referenced : ∀ connection ∈ s.accepted, connection.connectInner ∈ s.asked ∨
    (s.sys.manager.deviceMap.lookup id = some connection.obj ∧
      known (s.device connection.obj) = some connection.connectInner)
  own : ∀ connection ∈ s.accepted, connection ∉ s.closed → s.Reaches connection →
    ∀ resultCode item connectInner, s.owner connection.obj item = some connectInner →
      Has (s.device connection.obj) item →
        ¬Has ((s.device connection.obj).onDisconnect resultCode s.sys.manager.out).1 item →
          connectInner = connection.connectInner

/-- The notifier of the device knows no accepted connection. -/
def Idle (s : State) (obj : Nat) : Prop :=
  ∀ connection ∈ s.accepted, connection.obj = obj → known (s.device obj) ≠ some connection.connectInner

instance (s : State) (obj : Nat) : Decidable (Idle s obj) :=
  inferInstanceAs (Decidable (∀ connection ∈ s.accepted, _))

/-- An accepted connection that the notifier of the device knows has been asked to disconnect. -/
def Released (s : State) (obj : Nat) : Prop :=
  ∀ connection ∈ s.accepted, connection.obj = obj →
    known (s.device obj) = some connection.connectInner → connection.connectInner ∈ s.asked

instance (s : State) (obj : Nat) : Decidable (Released s obj) :=
  inferInstanceAs (Decidable (∀ connection ∈ s.accepted, _))

/-- Attaching the device connects it. -/
def Launches (r : Replies) (devInfo : DeviceId) (obj : Nat) (m : ExtDeviceManager) : Prop :=
  ((m.matchDevice r devInfo obj).objects obj).bundleInfo ≠ [] ∧
    ((m.matchDevice r devInfo obj).objects obj).driverInfo.any (!·.launchOnBind) = true

instance (r : Replies) (devInfo : DeviceId) (obj : Nat) (m : ExtDeviceManager) :
    Decidable (Launches r devInfo obj m) := inferInstanceAs (Decidable (_ ∧ _))

/-- The device before the loop of `MatchDriverInfos` matches it again. -/
def unmatched (deviceIds : Finset DeviceId) (id : DeviceId) (obj : Nat) (m : ExtDeviceManager) :
    ExtDeviceManager :=
  if id ∈ deviceIds then m.forgetDriver obj else m

/-- Matching the device again connects it. -/
def Relaunches (r : Replies) (obj : Nat) (m : ExtDeviceManager) : Prop :=
  ¬((m.objects obj).isUnRegisted = true ∨ (m.objects obj).drvExtRemote.isSome = true) ∧
    (r.queryMatchDriver (m.objects obj).info).any (!·.launchOnBind) = true

instance (r : Replies) (obj : Nat) (m : ExtDeviceManager) : Decidable (Relaunches r obj m) :=
  inferInstanceAs (Decidable (_ ∧ _))

/-- Detaching the device asks for the disconnect of the connection that its notifier knows. -/
def Asks (m : ExtDeviceManager) (r : DeviceReplies) (d : Device) : Prop :=
  Detached.Alone m d ∧
    d.connection.any (fun info => info = d.connectionInfo info.connectInner) = true ∧
      r.disconnect.isSome = true

instance (m : ExtDeviceManager) (r : DeviceReplies) (d : Device) : Decidable (Asks m r d) :=
  inferInstanceAs (Decidable (_ ∧ _))

/-- A new connection is only asked for where no accepted one is known, a device only leaves the map
once its connection has been asked to disconnect, and only such a connection disconnects. -/
def Kept (id : DeviceId) (s : State) : Action → Prop
  | .operation (.registerDevice r devInfo) =>
    ∀ obj ∈ s.sys.manager.deviceMap.lookup devInfo, (s.device obj).drvExtRemote = none →
      Launches r devInfo obj s.sys.manager → Idle s obj
  | .operation (.unRegisterDevice r devInfo) =>
    ∀ obj ∈ s.sys.manager.deviceMap.lookup devInfo, (s.device obj).drvExtRemote = none →
      Released s obj ∨ Asks s.sys.manager (r.device devInfo) (s.device obj)
  | .operation (.connectDevice r deviceId _ callback) =>
    ∀ obj ∈ s.sys.manager.deviceMap.lookup deviceId,
      Detached.Renews (r.device deviceId) callback (s.device obj) → Idle s obj
  | .operation (.connectDriverWithDeviceId r access deviceId token appIds callback) =>
    ∀ obj ∈ s.sys.manager.deviceMap.lookup deviceId,
      checkAccessPermission access (s.device obj).driverInfo appIds token = .edmOk →
        Detached.Renews (r.device deviceId) callback (s.device obj) → Idle s obj
  | .operation (.removeDeviceOfDeviceMap _ obj) =>
    ∀ obj' ∈ s.sys.manager.deviceMap.lookup (s.device obj).info, Released s obj'
  | .matchDriverInfo r deviceIds =>
    ∀ obj ∈ s.sys.manager.deviceMap.lookup id,
      Relaunches r obj (unmatched deviceIds id obj s.sys.manager) → Idle s obj
  | .disconnectDone _ connection _ =>
    s.Reaches connection → connection.connectInner ∈ s.asked
  | _ => True

instance (id : DeviceId) (s : State) : DecidablePred (Kept id s) := fun a => by
  unfold Kept
  split <;> infer_instance

/-! ## What a run keeps -/

/-- What is established on the device at `o` is established by the connection that its notifier
knows, and so is an accepted connection whose completions still reach it. -/
structure Settled (s : State) (o : Nat) : Prop where
  owned : ∀ item connectInner, Has (s.device o) item → s.owner o item = some connectInner →
    known (s.device o) = some connectInner ∧
      ∃ k ∈ s.accepted, k.obj = o ∧ k.connectInner = connectInner
  live : ∀ k ∈ s.accepted, k.obj = o → k ∉ s.closed → s.Reaches k →
    known (s.device o) = some k.connectInner

structure Inv (id : DeviceId) (s : State) : Prop where
  wellFormed : s.sys.WellFormed
  notify : ∀ o n, (s.device o).notifyId = some n → n < s.sys.manager.out.nextId
  fresh : ∀ k ∈ s.accepted, k.obj < s.sys.manager.nextObject ∧
    k.notify < s.sys.manager.out.nextId ∧ k.connectInner < s.sys.manager.out.nextId
  settled : ∀ o < s.sys.manager.nextObject, Settled s o
  referenced : ∀ k ∈ s.accepted, k.connectInner ∈ s.asked ∨
    (s.sys.manager.deviceMap.lookup id = some k.obj ∧ known (s.device k.obj) = some k.connectInner)

variable {id : DeviceId} {s s' : State} {m m' m'' : ExtDeviceManager} {obj : Nat} {r : Replies}

theorem Inv.sound (h : Inv id s) : Sound id s where
  referenced := h.referenced
  own k hk hclosed hreach _ item c howner hhas _ := by
    have hsettled := h.settled k.obj (h.fresh k hk).1
    obtain ⟨hknown, -⟩ := hsettled.owned item c hhas howner
    exact Option.some.inj (hknown.symm.trans (hsettled.live k hk rfl hclosed hreach))

/-- A step that makes no connection and leaves the notifiers as they are. -/
theorem inv_of_nofitier (h : Inv id s) (hw : s'.sys.WellFormed)
    (hobject : s'.sys.manager.nextObject = s.sys.manager.nextObject)
    (hnext : s.sys.manager.out.nextId ≤ s'.sys.manager.out.nextId)
    (hnofitier : ∀ o, (s'.device o).connectNofitier = (s.device o).connectNofitier)
    (haccepted : s'.accepted = s.accepted) (hclosed : s.closed ⊆ s'.closed)
    (howned : ∀ o item c, o < s.sys.manager.nextObject → Has (s'.device o) item →
      s'.owner o item = some c →
        known (s.device o) = some c ∧ ∃ k ∈ s.accepted, k.obj = o ∧ k.connectInner = c)
    (hreferenced : ∀ k ∈ s.accepted, k.connectInner ∈ s'.asked ∨
      (s'.sys.manager.deviceMap.lookup id = some k.obj ∧
        known (s.device k.obj) = some k.connectInner)) : Inv id s' := by
  have hnotify (o : Nat) : (s'.device o).notifyId = (s.device o).notifyId := by
    rw [Device.notifyId, hnofitier, ← Device.notifyId]
  have hknown (o : Nat) : known (s'.device o) = known (s.device o) := by
    rw [known, Device.connection, hnofitier, ← Device.connection, ← known]
  refine ⟨hw, ?_, ?_, ?_, ?_⟩
  · intro o n hn
    exact lt_of_lt_of_le (h.notify o n (hnotify o ▸ hn)) hnext
  · intro k hk
    obtain ⟨hobj, hn, hc⟩ := h.fresh k (haccepted ▸ hk)
    exact ⟨hobject.symm ▸ hobj, lt_of_lt_of_le hn hnext, lt_of_lt_of_le hc hnext⟩
  · intro o ho
    rw [hobject] at ho
    refine ⟨?_, ?_⟩
    · intro item c hhas howner
      rw [hknown, haccepted]
      exact howned o item c ho hhas howner
    · intro k hk hobj hk' hreach
      rw [hknown]
      refine (h.settled o ho).live k (haccepted ▸ hk) hobj (fun hk => hk' (hclosed hk)) ?_
      exact (hnotify k.obj).symm.trans hreach
  · intro k hk
    rw [hknown]
    exact hreferenced k (haccepted ▸ hk)

/-- A step that gives the device at `obj` a new connection `c`, accepted or not, with the notifier
`n`. -/
theorem inv_of_attempt (h : Inv id s) (hw : s'.sys.WellFormed) (hidle : Idle s obj)
    (hlook : s.sys.manager.deviceMap.lookup id = some obj)
    (hsame : SameDevices s.sys.manager s'.sys.manager)
    (hfresh : FreshNotifiers s.sys.manager s'.sys.manager)
    (hother : ∀ o, o ≠ obj → s'.device o = s.device o) {n c : Nat}
    (hnotify : (s'.device obj).notifyId = some n)
    (hn : (s.device obj).notifyId = some n ∨ s.sys.manager.out.nextId ≤ n)
    (hknown : known (s'.device obj) = some c) (hc : s.sys.manager.out.nextId ≤ c)
    (hc' : c < s'.sys.manager.out.nextId)
    (haccepted : s'.accepted = s.accepted ∨ s'.accepted = s.accepted ∪ {⟨obj, n, c⟩})
    (hclosed : s'.closed = s.closed) (hasked : s.asked ⊆ s'.asked)
    (howner : ∀ o, o ≠ obj → s'.owner o = s.owner o)
    (howned : ∀ item c', Has (s'.device obj) item → s'.owner obj item = some c' →
      (Has (s.device obj) item ∧ s.owner obj item = some c') ∨ (c' = c ∧ ⟨obj, n, c⟩ ∈ s'.accepted)) :
    Inv id s' := by
  have hobj : obj < s.sys.manager.nextObject := h.wellFormed.allocated hlook
  have hbound (o x : Nat) (hx : (s'.device o).notifyId = some x) :
      x < s'.sys.manager.out.nextId := by
    rcases hfresh.fresh o x hx with hx | hx
    · exact lt_of_lt_of_le (h.notify o x hx) hfresh.nextId
    · exact hx
  have hold {k : Connection} (hk : k ∈ s'.accepted) : k ∈ s.accepted ∨ k = ⟨obj, n, c⟩ := by
    rcases haccepted with heq | heq
    · exact .inl (heq ▸ hk)
    · rw [heq] at hk
      exact (Finset.mem_union.mp hk).imp_right Finset.mem_singleton.mp
  have hkeep {k : Connection} (hk : k ∈ s.accepted) : k ∈ s'.accepted := by
    rcases haccepted with heq | heq
    · exact heq ▸ hk
    · exact heq ▸ Finset.mem_union_left _ hk
  refine ⟨hw, hbound, ?_, ?_, ?_⟩
  · intro k hk
    rcases hold hk with hk | rfl
    · obtain ⟨h₁, h₂, h₃⟩ := h.fresh k hk
      exact ⟨hsame.nextObject.symm ▸ h₁, lt_of_lt_of_le h₂ hfresh.nextId,
        lt_of_lt_of_le h₃ hfresh.nextId⟩
    · exact ⟨hsame.nextObject.symm ▸ hobj, hbound obj n hnotify, hc'⟩
  · intro o ho
    rw [hsame.nextObject] at ho
    by_cases heq : o = obj
    · subst heq
      refine ⟨?_, ?_⟩
      · intro item c' hhas howner'
        rcases howned item c' hhas howner' with ⟨hhas, howner'⟩ | ⟨rfl, hk⟩
        · obtain ⟨hknown', k, hk, hobj', rfl⟩ := (h.settled o ho).owned item c' hhas howner'
          exact absurd hknown' (hidle k hk hobj')
        · exact ⟨hknown, _, hk, rfl, rfl⟩
      · intro k hk hobj' hopen hreach
        rcases hold hk with hk | rfl
        · have hkn : k.notify = n := by
            have hreach' : (s'.device k.obj).notifyId = some k.notify := hreach
            rw [hobj', hnotify] at hreach'
            exact (Option.some.inj hreach').symm
          rcases hn with hn | hn
          · have hreach' : s.Reaches k := by rw [State.Reaches, hobj', hkn, hn]
            exact absurd ((h.settled o ho).live k hk hobj' (hclosed ▸ hopen) hreach')
              (hidle k hk hobj')
          · have hlt := (h.fresh k hk).2.1
            omega
        · exact hknown
    · refine ⟨?_, ?_⟩
      · intro item c' hhas howner'
        rw [hother o heq] at hhas ⊢
        rw [howner o heq] at howner'
        obtain ⟨hknown', k, hk, hobj', rfl⟩ := (h.settled o ho).owned item c' hhas howner'
        exact ⟨hknown', k, hkeep hk, hobj', rfl⟩
      · intro k hk hobj' hopen hreach
        rcases hold hk with hk | rfl
        · rw [hother o heq]
          refine (h.settled o ho).live k hk hobj' (hclosed ▸ hopen) ?_
          have hreach' : (s'.device k.obj).notifyId = some k.notify := hreach
          rwa [hobj', hother o heq, ← hobj'] at hreach'
        · exact absurd hobj'.symm heq
  · intro k hk
    rcases hold hk with hk | rfl
    · rcases h.referenced k hk with hk' | ⟨hlook', hknown'⟩
      · exact .inl (hasked hk')
      · by_cases heq : k.obj = obj
        · exact absurd (heq ▸ hknown') (hidle k hk heq)
        · refine .inr ⟨hsame.deviceMap.symm ▸ hlook', ?_⟩
          rw [hother _ heq]
          exact hknown'
    · exact .inr ⟨hsame.deviceMap.symm ▸ hlook, hknown⟩

theorem made_nil : made obj [] = ∅ := rfl

theorem made_of_none {es : List Event} (h : ∀ e ∈ es, connected e = none) : made obj es = ∅ := by
  rw [made, List.filterMap_eq_nil_iff.mpr h]
  rfl

theorem made_connected {d : Device} {c n : Nat} {es : List Event}
    (h : ∀ e ∈ es, connected e = none) :
    made obj (d.connectCall c n 0 :: es) = {⟨obj, n, c⟩} := by
  have hcons : (d.connectCall c n 0 :: es).filterMap connected = (n, c) :: es.filterMap connected :=
    rfl
  rw [made, hcons, List.filterMap_eq_nil_iff.mpr h]
  rfl

theorem connected_of_isRefused {e : Event} (h : e.isRefused = true) : connected e = none := by
  cases e with
  | connectAbility c n _ _ _ ret => exact if_neg (of_decide_eq_true h)
  | _ => rfl

end ExtDevMgr.Manager.Connections
