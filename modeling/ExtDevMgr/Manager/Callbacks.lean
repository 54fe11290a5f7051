import Mathlib.Data.Finset.Insert
import ExtDevMgr.Base.Machine
import ExtDevMgr.Manager.Device

/-!
# Registered clients

The clients of one device over the runs of its registrations, unregistrations, client deaths and
completions. The comparator of `callbacks_` calls all callbacks equivalent, so a registration made
while another client is registered is lost.
-/

namespace ExtDevMgr.Manager

namespace Device
variable {d : Device} {r : DeviceReplies} (o : Outside)

/-- The callbacks once `callback` has been inserted. -/
def inserted (d : Device) (callback : DriverExtMgrCallback) : List DriverExtMgrCallback :=
  if d.callbacks = [] then [callback] else d.callbacks

/-- A connection is asked for and made, or there is one already. -/
def Connects (d : Device) (r : DeviceReplies) : Prop :=
  d.drvExtRemote.isSome ∨ r.connect 0 = some 0

instance : Decidable (d.Connects r) := inferInstanceAs (Decidable (_ ∨ _))

theorem registerDrvExtMgrCallback_some (callback : DriverExtMgrCallback) :
    d.registerDrvExtMgrCallback r (some callback) o =
      (if r.addDeathRecipient then .edmOk else .edmNok,
        { d with callbacks := d.inserted callback },
        o.emit (.addDeathRecipient callback.asObject r.addDeathRecipient)) := by
  have h : (setInsert drvExtMgrCallbackCompare callback d.callbacks).2 = d.inserted callback := by
    rw [setInsert_callback, inserted]
    split <;> rfl
  rw [registerDrvExtMgrCallback, h]
  split <;> rfl

/-- A null callback changes neither the callbacks nor the result of the other clients. -/
theorem connectWith_none (token : UInt32) :
    (d.connectWith r none token o).1 = .edmErrInvalidObject ∧
      (d.connectWith r none token o).2.1 = d := by
  unfold connectWith
  split
  case isTrue => exact ⟨rfl, rfl⟩
  case isFalse => exact ⟨rfl, rfl⟩

/-- A registration without a death recipient fails and leaves the callback behind. -/
theorem connectWith_refused (callback : DriverExtMgrCallback) (token : UInt32)
    (h : r.addDeathRecipient = false) :
    (d.connectWith r (some callback) token o).1 = .edmNok ∧
      (d.connectWith r (some callback) token o).2.1.callbacks = d.inserted callback := by
  simp only [connectWith, registerDrvExtMgrCallback_some, h]
  split
  case isTrue => exact ⟨rfl, rfl⟩
  case isFalse => exact ⟨rfl, rfl⟩

theorem connectWith_connects (callback : DriverExtMgrCallback) (token : UInt32)
    (h : r.addDeathRecipient = true) (hc : d.Connects r) :
    (d.connectWith r (some callback) token o).1 = .edmOk ∧
      (d.connectWith r (some callback) token o).2.1.callbacks = d.inserted callback := by
  unfold connectWith
  split
  case isTrue => simp [registerDrvExtMgrCallback_some, h]
  case isFalse hremote =>
    have hreply : r.connect 0 = some 0 := hc.resolve_left hremote
    simp [registerDrvExtMgrCallback_some, h, updateDrvExtConnNotify, addDrvExtConnNotify,
      connectExtension, connectDriverExtension, hreply]

theorem connectWith_undone (callback : DriverExtMgrCallback) (token : UInt32)
    (h : r.addDeathRecipient = true) (hc : ¬d.Connects r) :
    (d.connectWith r (some callback) token o).1 ≠ .edmOk ∧
      (d.connectWith r (some callback) token o).2.1.callbacks =
        (d.inserted callback).eraseP fun element => element.asObject = callback.asObject := by
  obtain ⟨hremote, hreply⟩ := not_or.1 hc
  unfold connectWith
  rw [if_neg hremote]
  cases hr : r.connect 0 with
  | none =>
    simp [registerDrvExtMgrCallback_some, h, updateDrvExtConnNotify, addDrvExtConnNotify,
      connectExtension, connectDriverExtension, unregisterDrvExtMgrCallback, removeCaller]
  | some ret =>
    have hret : ret ≠ 0 := fun h0 => hreply (h0 ▸ hr)
    simp [registerDrvExtMgrCallback_some, h, updateDrvExtConnNotify, addDrvExtConnNotify,
      connectExtension, connectDriverExtension, hret, unregisterDrvExtMgrCallback, removeCaller]

end Device

namespace Callbacks

/-! ## Runs of one device -/

structure State where
  device : Device
  out : Outside
  /-- The remote objects registered and not yet removed. -/
  registered : Finset Nat

inductive Action
  | connect (r : DeviceReplies) (callback : Option DriverExtMgrCallback) (callingTokenId : UInt32)
  | unregister (callback : DriverExtMgrCallback)
  | remoteDied (object : Nat)
  | onConnect (remote : Option Nat) (resultCode : Int)
  | onDisconnect (resultCode : Int)

/-- A client is registered by a `Connect` that succeeds. One that fails after the registration has
unregistered it; one whose registration fails leaves the registered clients as they are. -/
def registeredAfter (s : State) : Action → Finset Nat
  | .connect _ none _ => s.registered
  | .connect r (some callback) token =>
    if (s.device.connectWith r (some callback) token s.out).1 = .edmOk then
      insert callback.asObject s.registered
    else if r.addDeathRecipient then
      s.registered.erase callback.asObject
    else
      s.registered
  | .unregister callback => s.registered.erase callback.asObject
  | .remoteDied object => s.registered.erase object
  | .onConnect _ _ => s.registered
  | .onDisconnect _ => ∅

def deviceAfter (s : State) : Action → Device × Outside
  | .connect r callback token => (s.device.connectWith r callback token s.out).2
  | .unregister callback => (s.device.unregisterDrvExtMgrCallback callback.asObject, s.out)
  | .remoteDied object => (s.device.unregisterDrvExtMgrCallback object, s.out)
  | .onConnect remote resultCode => s.device.onConnect remote resultCode s.out
  | .onDisconnect resultCode => s.device.onDisconnect resultCode s.out

def machine (info : DeviceId) : Machine State Action where
  init := { device := { info }, out := {}, registered := ∅ }
  enabled _ _ := True
  step s a :=
    { device := (deviceAfter s a).1, out := (deviceAfter s a).2, registered := registeredAfter s a }

/-! ## What the clients are told -/

def toldOnConnect (x : Nat) : Event → Bool
  | .onConnect (some callback) _ _ _ => callback.asObject = x
  | _ => false

def toldOnUnBind (x : Nat) : Event → Bool
  | .onUnBind callback _ _ => callback.asObject = x
  | _ => false

def toldOnDisconnect (x : Nat) : Event → Bool
  | .onDisconnect callback _ _ => callback.asObject = x
  | _ => false

/-- `callbacks_` is the set of the registered clients, and the completions tell each of them once. -/
structure Faithful (s : State) : Prop where
  nodup : (s.device.callbacks.map (·.asObject)).Nodup
  mem_iff : ∀ x, x ∈ s.device.callbacks.map (·.asObject) ↔ x ∈ s.registered
  onConnect : ∀ remote resultCode x,
    (s.device.onConnect remote resultCode s.out).2.log.countP (toldOnConnect x) =
      (if x ∈ s.registered then 1 else 0) + s.out.log.countP (toldOnConnect x)
  onUnBind : ∀ resultCode x,
    (s.device.onDisconnect resultCode s.out).2.log.countP (toldOnUnBind x) =
      (if x ∈ s.registered then 1 else 0) + s.out.log.countP (toldOnUnBind x)
  onDisconnect : ∀ resultCode x,
    (s.device.onDisconnect resultCode s.out).2.log.countP (toldOnDisconnect x) =
      (if x ∈ s.registered then 1 else 0) + s.out.log.countP (toldOnDisconnect x)
  onDisconnect_callbacks : ∀ resultCode, (s.device.onDisconnect resultCode s.out).1.callbacks = []

theorem countP_onConnect (callbacks : List DriverExtMgrCallback) (info : DeviceId)
    (remote : Option Nat) (resultCode : Int) (x : Nat) :
    (callbacks.map fun callback => Event.onConnect (some callback) info remote resultCode).countP
      (toldOnConnect x) = (callbacks.map (·.asObject)).count x := by
  induction callbacks with
  | nil => rfl
  | cons c l ih => simp [List.countP_cons, List.count_cons, ih, toldOnConnect]

theorem countP_onUnBind (callbacks : List DriverExtMgrCallback) (info : DeviceId)
    (resultCode : Int) (x : Nat) :
    (callbacks.flatMap fun callback =>
      [Event.onUnBind callback info resultCode, .onDisconnect callback info resultCode]).countP
      (toldOnUnBind x) = (callbacks.map (·.asObject)).count x := by
  induction callbacks with
  | nil => rfl
  | cons c l ih => simp [List.countP_cons, List.count_cons, ih, toldOnUnBind]

theorem countP_onDisconnect (callbacks : List DriverExtMgrCallback) (info : DeviceId)
    (resultCode : Int) (x : Nat) :
    (callbacks.flatMap fun callback =>
      [Event.onUnBind callback info resultCode, .onDisconnect callback info resultCode]).countP
      (toldOnDisconnect x) = (callbacks.map (·.asObject)).count x := by
  induction callbacks with
  | nil => rfl
  | cons c l ih => simp [List.countP_cons, List.count_cons, ih, toldOnDisconnect]

/-- What the completions tell follows from `callbacks_` being the set of the registered clients. -/
theorem Faithful.of_callbacks {s : State} (hnodup : (s.device.callbacks.map (·.asObject)).Nodup)
    (hmem : ∀ x, x ∈ s.device.callbacks.map (·.asObject) ↔ x ∈ s.registered) : Faithful s := by
  have hcount (x : Nat) :
      (s.device.callbacks.map (·.asObject)).count x = if x ∈ s.registered then 1 else 0 := by
    rw [hnodup.count]
    exact if_congr (hmem x) rfl rfl
  refine ⟨hnodup, hmem, ?_, ?_, ?_, fun _ => rfl⟩
  · intro remote resultCode x
    simp only [Device.onConnect, Outside.emitAll_log, List.countP_append, List.countP_reverse,
      countP_onConnect, hcount]
  · intro resultCode x
    simp only [Device.onDisconnect, Outside.emitAll_log, List.countP_append, List.countP_reverse,
      countP_onUnBind, hcount]
  · intro resultCode x
    simp only [Device.onDisconnect, Outside.emitAll_log, List.countP_append, List.countP_reverse,
      countP_onDisconnect, hcount]

theorem faithful_nil {s : State} (h : s.device.callbacks = []) :
    Faithful s ↔ s.registered = ∅ := by
  constructor
  · intro hs
    exact Finset.eq_empty_of_forall_notMem fun x hx => by simpa [h] using (hs.mem_iff x).2 hx
  · intro hs
    exact .of_callbacks (by simp [h]) (by simp [h, hs])

theorem faithful_singleton {s : State} {c : DriverExtMgrCallback} (h : s.device.callbacks = [c]) :
    Faithful s ↔ s.registered = {c.asObject} := by
  constructor
  · intro hs
    ext x
    simpa [h] using (hs.mem_iff x).symm
  · intro hs
    exact .of_callbacks (by simp [h]) (by simp [h, hs])

/-! ## One step -/

/-- The comparator lets at most one callback in. -/
def AtMostOne (s : State) : Prop := s.device.callbacks = [] ∨ ∃ c, s.device.callbacks = [c]

/-- A registration that is to last is made while no other client is in `callbacks_`, and one that
fails for want of a death recipient while some client is. -/
def Kept (s : State) : Action → Prop
  | .connect r (some callback) _ =>
    if r.addDeathRecipient then
      s.device.Connects r → ∀ c ∈ s.device.callbacks, c.asObject = callback.asObject
    else
      s.device.callbacks ≠ []
  | _ => True

theorem inserted_atMostOne {d : Device} (callback : DriverExtMgrCallback)
    (h : d.callbacks = [] ∨ ∃ c, d.callbacks = [c]) : ∃ c, d.inserted callback = [c] := by
  rcases h with h | ⟨c, h⟩
  · exact ⟨callback, by simp [Device.inserted, h]⟩
  · exact ⟨c, by simp [Device.inserted, h]⟩

theorem eraseP_atMostOne {p : DriverExtMgrCallback → Bool} {l : List DriverExtMgrCallback}
    (h : l = [] ∨ ∃ c, l = [c]) : l.eraseP p = [] ∨ ∃ c, l.eraseP p = [c] := by
  rcases h with rfl | ⟨c, rfl⟩
  · exact .inl rfl
  · cases hp : p c
    · exact .inr ⟨c, by simp [hp]⟩
    · exact .inl (by simp [hp])

variable {info : DeviceId} {s : State}

theorem step_atMostOne (h : AtMostOne s) (a : Action) : AtMostOne ((machine info).step s a) := by
  cases a with
  | connect r callback token =>
    cases callback with
    | none =>
      have heq := (Device.connectWith_none (d := s.device) (r := r) s.out token).2
      simpa only [AtMostOne, machine, deviceAfter, heq] using h
    | some callback =>
      obtain ⟨c, hc⟩ := inserted_atMostOne callback h
      cases hdeath : r.addDeathRecipient with
      | false => exact .inr ⟨c, (Device.connectWith_refused s.out callback token hdeath).2.trans hc⟩
      | true =>
        by_cases hconn : s.device.Connects r
        · exact .inr ⟨c, (Device.connectWith_connects s.out callback token hdeath hconn).2.trans hc⟩
        · have heq := (Device.connectWith_undone s.out callback token hdeath hconn).2
          simp only [AtMostOne, machine, deviceAfter, heq]
          exact eraseP_atMostOne (.inr ⟨c, hc⟩)
  | unregister callback => exact eraseP_atMostOne h
  | remoteDied object => exact eraseP_atMostOne h
  | onConnect remote resultCode => exact h
  | onDisconnect resultCode => exact .inl rfl

/-- Removing a client from the set and from the registered ones keeps them the same. -/
theorem faithful_erase {s' : State} (hone : AtMostOne s) (hs : Faithful s) (object : Nat)
    (hcb : s'.device.callbacks =
      s.device.callbacks.eraseP fun element => element.asObject = object)
    (hreg : s'.registered = s.registered.erase object) : Faithful s' := by
  rcases hone with h | ⟨c, h⟩
  · rw [faithful_nil (by rw [hcb, h]; rfl), hreg, (faithful_nil h).1 hs, Finset.erase_empty]
  · have hreg' := (faithful_singleton h).1 hs
    by_cases hc : c.asObject = object
    · rw [faithful_nil (by simp [hcb, h, hc]), hreg, hreg', hc, Finset.erase_singleton]
    · rw [faithful_singleton (c := c) (by simp [hcb, h, hc]), hreg, hreg',
        Finset.erase_eq_of_notMem (by simpa using Ne.symm hc)]

theorem connect_faithful_iff (hone : AtMostOne s) (hs : Faithful s) (r : DeviceReplies)
    (callback : DriverExtMgrCallback) (token : UInt32) :
    Faithful ((machine info).step s (.connect r (some callback) token)) ↔
      Kept s (.connect r (some callback) token) := by
  set s' := (machine info).step s (.connect r (some callback) token) with hs'
  cases hdeath : r.addDeathRecipient with
  | false =>
    have hd := Device.connectWith_refused (d := s.device) s.out callback token hdeath
    have hcb : s'.device.callbacks = s.device.inserted callback := hd.2
    have hreg : s'.registered = s.registered := by
      simp [hs', machine, registeredAfter, hd.1, hdeath]
    rcases hone with h | ⟨c, h⟩
    · rw [faithful_singleton (c := callback) (by rw [hcb, Device.inserted, if_pos h]), hreg,
        (faithful_nil h).1 hs]
      simp [Kept, hdeath, h]
    · rw [faithful_singleton (c := c) (by rw [hcb, Device.inserted, if_neg (by simp [h]), h]), hreg,
        (faithful_singleton h).1 hs]
      simp [Kept, hdeath, h]
  | true =>
    by_cases hconn : s.device.Connects r
    · have hd := Device.connectWith_connects s.out callback token hdeath hconn
      have hcb : s'.device.callbacks = s.device.inserted callback := hd.2
      have hreg : s'.registered = insert callback.asObject s.registered := by
        simp [hs', machine, registeredAfter, hd.1]
      rcases hone with h | ⟨c, h⟩
      · rw [faithful_singleton (c := callback) (by rw [hcb, Device.inserted, if_pos h]), hreg,
          (faithful_nil h).1 hs]
        simp [Kept, hdeath, h]
      · rw [faithful_singleton (c := c) (by rw [hcb, Device.inserted, if_neg (by simp [h]), h]),
          hreg, (faithful_singleton h).1 hs]
        simp only [Kept, hdeath, hconn, h, if_true, List.mem_singleton, forall_const, forall_eq]
        constructor
        · intro heq
          exact (Finset.mem_singleton.1 (heq ▸ Finset.mem_insert_self _ _)).symm
        · intro heq
          rw [heq, Finset.pair_eq_singleton]
    · have hd := Device.connectWith_undone s.out callback token hdeath hconn
      have hreg : s'.registered = s.registered.erase callback.asObject := by
        simp [hs', machine, registeredAfter, hd.1, hdeath]
      refine iff_of_true ?_ (by simp [Kept, hdeath, hconn])
      rcases hone with h | ⟨c, h⟩
      · have hcb : s'.device.callbacks = [] :=
          hd.2.trans (by simp [Device.inserted, h])
        rw [faithful_nil hcb, hreg, (faithful_nil h).1 hs, Finset.erase_empty]
      · have hins : s.device.inserted callback = s.device.callbacks := by simp [Device.inserted, h]
        exact faithful_erase (.inr ⟨c, h⟩) hs _ (hd.2.trans (by rw [hins])) hreg

theorem step_faithful_iff (hone : AtMostOne s) (hs : Faithful s) (a : Action) :
    Faithful ((machine info).step s a) ↔ Kept s a := by
  cases a with
  | connect r callback token =>
    cases callback with
    | none =>
      have heq := (Device.connectWith_none (d := s.device) (r := r) s.out token).2
      refine iff_of_true ?_ trivial
      refine .of_callbacks ?_ ?_
      · simpa only [machine, deviceAfter, heq] using hs.nodup
      · simpa only [machine, deviceAfter, heq, registeredAfter] using hs.mem_iff
    | some callback => exact connect_faithful_iff hone hs r callback token
  | unregister callback => exact iff_of_true (faithful_erase hone hs _ rfl rfl) trivial
  | remoteDied object => exact iff_of_true (faithful_erase hone hs _ rfl rfl) trivial
  | onConnect remote resultCode =>
    exact iff_of_true (.of_callbacks hs.nodup hs.mem_iff) trivial
  | onDisconnect resultCode => exact iff_of_true ((faithful_nil rfl).2 rfl) trivial

/-- `callbacks_` is the set of the registered clients in every state of a run exactly when every
registration of the run was made at a time the comparator could keep it. -/
theorem faithful_iff_kept (info : DeviceId) (as : List Action) :
    (machine info).Throughout Faithful (machine info).init as ↔
      (machine info).Along Kept (machine info).init as :=
  Machine.throughout_iff_along (I := AtMostOne) (fun _ a h _ => step_atMostOne h a)
    (fun _ a hone hs _ => step_faithful_iff hone hs a) (.inl rfl) ((faithful_nil rfl).2 rfl)
    (Machine.along_of_forall (fun _ _ => trivial) _ _)

/-- Two clients that bind while the driver extension is not connected yet: the second one is not in
`callbacks_`, and is not told of the connection. -/
theorem not_forall_faithful :
    ¬∀ info as, (machine info).Throughout Faithful (machine info).init as := by
  intro h
  let r : DeviceReplies := ⟨fun _ => some 0, some 0, some 0, true⟩
  have hlast := (h 1 [.connect r (some ⟨1⟩) 101, .connect r (some ⟨2⟩) 102]).last
  exact absurd ((hlast.mem_iff 2).2 (by decide)) (by decide)

end Callbacks
end ExtDevMgr.Manager
