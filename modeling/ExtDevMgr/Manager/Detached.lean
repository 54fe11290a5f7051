import ExtDevMgr.Manager.Notifiers
import ExtDevMgr.Manager.System

/-!
# Detached devices

A device that is detached while it is connected stays in the map, flagged, until its disconnect
completes. Whether it is asked to disconnect at all is decided on the match map.
-/

namespace ExtDevMgr.Manager.Detached
open ExtDeviceManager

/-! ## Runs -/

structure State where
  sys : System := {}
  /-- The connections whose disconnect the ability manager has accepted and that have not completed. -/
  awaited : Finset Connection := ∅

inductive Action
  | operation (a : Manager.Action)
  /-- `OnDisconnect` of a connection that was asked to disconnect. -/
  | completed (r : Replies) (obj : Nat) (resultCode : Int) (connectInner : Nat)

/-- The device that an operation may ask to disconnect. -/
def target (m : ExtDeviceManager) : Manager.Action → Option Nat
  | .unRegisterDevice _ devInfo => m.deviceMap.lookup devInfo
  | .disConnectDevice _ deviceId _ => m.deviceMap.lookup deviceId
  | .disConnectDriverWithDeviceId _ deviceId _ => m.deviceMap.lookup deviceId
  | _ => none

/-- The connection of a disconnect that the ability manager accepts. -/
def disconnected : Event → Option Nat
  | .disconnectAbility connectInner ret => if ret = 0 then some connectInner else none
  | _ => none

/-- The disconnects of the device at `obj` on the way from `m` to `m'`. -/
def requests (m m' : ExtDeviceManager) (obj : Nat) : Finset Connection :=
  match (m.objects obj).notifyId with
  | none => ∅
  | some notify =>
    ((m.out.newCalls m'.out).filterMap disconnected).toFinset.image fun connectInner =>
      { obj, notify, connectInner }

def step (s : State) : Action → State
  | .operation a =>
    { sys := s.sys.step a
      awaited := match target s.sys.manager a with
        | none => s.awaited
        | some obj => s.awaited ∪ requests s.sys.manager (s.sys.step a).manager obj }
  | .completed r obj resultCode connectInner =>
    { sys := s.sys.step (.onDisconnect r obj resultCode)
      awaited := s.awaited.filter fun q => ¬(q.obj = obj ∧ q.connectInner = connectInner) }

def Enabled (s : State) : Action → Prop
  | .operation a => s.sys.Enabled a
  | .completed _ obj _ _ => obj < s.sys.manager.nextObject

instance (s : State) : DecidablePred (Enabled s) := fun a => by
  cases a <;> unfold Enabled <;> infer_instance

def machine (driverChangeCallback : Bool) : Machine State Action where
  init := { sys := (System.machine driverChangeCallback).init }
  enabled := Enabled
  step := step

instance (driverChangeCallback : Bool) (s : State) :
    DecidablePred ((machine driverChangeCallback).enabled s) :=
  inferInstanceAs (DecidablePred (Enabled s))

/-! ## What is to hold -/

/-- The completion of a disconnect will reach the device. -/
def Outstanding (s : State) (obj : Nat) : Prop :=
  ∃ q ∈ s.awaited, q.obj = obj ∧ (s.sys.manager.objects obj).notifyId = some q.notify

instance (s : State) (obj : Nat) : Decidable (Outstanding s obj) :=
  inferInstanceAs (Decidable (∃ q ∈ _, _))

/-- The disconnect of the device has completed or will. -/
def IsLeaving (s : State) (obj : Nat) : Prop := obj ∈ s.sys.pending ∨ Outstanding s obj

instance (s : State) (obj : Nat) : Decidable (IsLeaving s obj) :=
  inferInstanceAs (Decidable (_ ∨ _))

def NoZombie (s : State) : Prop :=
  ∀ id obj, s.sys.manager.deviceMap.lookup id = some obj →
    (s.sys.manager.objects obj).isUnRegisted = true → IsLeaving s obj

/-- No other device is in the match map with the driver of `d`, and `d` is. -/
def Alone (m : ExtDeviceManager) (d : Device) : Prop :=
  d.bundleInfo ≠ [] ∧ (m.bundleMatchMap.lookup d.bundleInfo).any (fun ids => ids.card ≤ 1) = true

instance (m : ExtDeviceManager) (d : Device) : Decidable (Alone m d) :=
  inferInstanceAs (Decidable (_ ∧ _))

/-- The notifier of `d` knows a connection to its driver, and the ability manager disconnects it. -/
def Disconnects (r : DeviceReplies) (d : Device) : Prop :=
  d.connection.any (fun info => info = d.connectionInfo info.connectInner) = true ∧
    r.disconnect = some 0

instance (r : DeviceReplies) (d : Device) : Decidable (Disconnects r d) :=
  inferInstanceAs (Decidable (_ ∧ _))

/-- A bind gives the device a new notifier. -/
def Renews (r : DeviceReplies) (callback : Option DriverExtMgrCallback) (d : Device) : Prop :=
  d.drvExtRemote = none ∧ callback.isSome = true ∧ r.addDeathRecipient = true

instance (r : DeviceReplies) (callback : Option DriverExtMgrCallback) (d : Device) :
    Decidable (Renews r callback d) :=
  inferInstanceAs (Decidable (_ ∧ _))

/-- A detach leaves a connected device on its way out, and no bind takes the notifier of a device
that is. -/
def Kept (s : State) : Action → Prop
  | .operation (.unRegisterDevice r devInfo) =>
    ∀ obj ∈ s.sys.manager.deviceMap.lookup devInfo,
      (s.sys.manager.objects obj).drvExtRemote.isSome = true → IsLeaving s obj ∨
        (Alone s.sys.manager (s.sys.manager.objects obj) ∧
          Disconnects (r.device devInfo) (s.sys.manager.objects obj))
  | .operation (.connectDevice r deviceId _ callback) =>
    ∀ obj ∈ s.sys.manager.deviceMap.lookup deviceId,
      (s.sys.manager.objects obj).isUnRegisted = true →
        Renews (r.device deviceId) callback (s.sys.manager.objects obj) → obj ∈ s.sys.pending
  | .operation (.connectDriverWithDeviceId r access deviceId token appIds callback) =>
    ∀ obj ∈ s.sys.manager.deviceMap.lookup deviceId,
      (s.sys.manager.objects obj).isUnRegisted = true →
        checkAccessPermission access (s.sys.manager.objects obj).driverInfo appIds token = .edmOk →
          Renews (r.device deviceId) callback (s.sys.manager.objects obj) → obj ∈ s.sys.pending
  | _ => True

instance (s : State) : DecidablePred (Kept s) := fun a => by
  unfold Kept
  split <;> infer_instance

variable {s s' : State} {m m' : ExtDeviceManager} {id : DeviceId} {obj : Nat} {r : Replies}

/-! ## What a detach asks for -/

theorem disconnected_eq_some_iff {e : Event} {connectInner : Nat} :
    disconnected e = some connectInner ↔ e = .disconnectAbility connectInner 0 := by
  cases e with
  | disconnectAbility c ret =>
    simp only [disconnected, Event.disconnectAbility.injEq]
    split
    case isTrue hret => simp [hret]
    case isFalse hret => simp [hret]
  | _ => exact iff_of_false nofun nofun

theorem mem_requests {q : Connection} : q ∈ requests m m' obj ↔ q.obj = obj ∧
    (m.objects obj).notifyId = some q.notify ∧
      .disconnectAbility q.connectInner 0 ∈ m.out.newCalls m'.out := by
  unfold requests
  cases hn : (m.objects obj).notifyId with
  | none => simp
  | some notify =>
    simp only [Finset.mem_image, List.mem_toFinset, List.mem_filterMap, disconnected_eq_some_iff]
    constructor
    · rintro ⟨c, ⟨e, he, rfl⟩, rfl⟩
      exact ⟨rfl, rfl, he⟩
    · rintro ⟨rfl, heq, he⟩
      cases heq
      exact ⟨q.connectInner, ⟨_, he, rfl⟩, rfl⟩

theorem removeDriverInfo_calls : (m.removeDriverInfo obj).out.calls = m.out.calls := by
  unfold removeDriverInfo
  split
  · rfl
  · split
    case isTrue => exact Outside.calls_emit_other rfl
    case isFalse => rfl

theorem disconnectDriver_calls : (m.disconnectDriver r obj).2.out.calls =
    ((m.objects obj).disconnect (r.device (m.objects obj).info) m.out).2.calls := by
  unfold disconnectDriver
  dsimp only
  split
  case isTrue => rfl
  case isFalse => exact removeDriverInfo_calls

theorem unLoadSelf_frame : (m.unLoadSelf r).bundleMatchMap = m.bundleMatchMap ∧
    (m.unLoadSelf r).out.calls = m.out.calls := by
  unfold unLoadSelf
  dsimp only
  split
  case isTrue => exact ⟨rfl, rfl⟩
  case isFalse =>
    split
    case isTrue => exact ⟨rfl, rfl⟩
    case isFalse => exact ⟨rfl, rfl⟩

/-- A detach keeps what decides on the disconnect. -/
theorem detachDevice_frame (id : DeviceId) (obj : Nat) :
    ((m.detachDevice id obj).objects obj).info = (m.objects obj).info ∧
      (∀ r o, ((m.detachDevice id obj).objects obj).disconnect r o =
        (m.objects obj).disconnect r o) ∧
      (m.detachDevice id obj).bundleMatchMap = m.bundleMatchMap ∧
      (m.detachDevice id obj).out = m.out := by
  unfold detachDevice
  split
  case isTrue => 
    rw [setDevice_self]
    exact ⟨rfl, fun _ _ => rfl, rfl, rfl⟩
  case isFalse => exact ⟨rfl, fun _ _ => rfl, rfl, rfl⟩

/-- A detach asks for the disconnect of a device that is alone with its driver, and for no other. -/
theorem unRegisterDevice_calls (hid : m.deviceMap.lookup id = some obj)
    (hinfo : (m.objects obj).info = id) :
    (Alone m (m.objects obj) ∧ ∃ o : Outside, o.calls = m.out.calls ∧
      (m.unRegisterDevice r id).2.out.calls =
        ((m.objects obj).disconnect (r.device id) o).2.calls) ∨
    (¬Alone m (m.objects obj) ∧ (m.unRegisterDevice r id).2.out.calls = m.out.calls) := by
  have hobjects := @unLoadSelf_objects (m.detachDevice id obj) r
  obtain ⟨hmap, hcalls⟩ := unLoadSelf_frame (m := m.detachDevice id obj) (r := r)
  obtain ⟨hinfo', hdisconnect, hmap', hout⟩ := detachDevice_frame (m := m) id obj
  rw [hmap'] at hmap
  rw [hout] at hcalls
  simp only [unRegisterDevice, hid]
  split
  case isTrue hb => exact .inr ⟨fun h => h.1 hb, hcalls⟩
  case isFalse hb =>
    rw [removeDevIdOfBundleInfoMap, if_neg hb, hmap]
    cases hlook : m.bundleMatchMap.lookup (m.objects obj).bundleInfo with
    | none =>
      refine .inr ⟨?_, hcalls⟩
      rintro ⟨-, hany⟩
      simp [hlook] at hany
    | some ids =>
      dsimp only
      split
      case isTrue hcard =>
        refine .inr ⟨?_, hcalls⟩
        rintro ⟨-, hany⟩
        simp only [hlook, Option.any_some, decide_eq_true_eq] at hany
        omega
      case isFalse hcard =>
        refine .inl ⟨⟨hb, ?_⟩, _, hcalls, ?_⟩
        · simpa [hlook] using hcard
        · refine disconnectDriver_calls.trans ?_
          change ((((m.detachDevice id obj).unLoadSelf r).objects obj).disconnect
            (r.device (((m.detachDevice id obj).unLoadSelf r).objects obj).info) _).2.calls = _
          rw [hobjects, hinfo', hinfo, hdisconnect]
          rfl

theorem disconnects_iff {r : DeviceReplies} {d : Device} : Disconnects r d ↔
    (∃ connectInner, d.connection = some (d.connectionInfo connectInner)) ∧
      r.disconnect = some 0 := by
  refine and_congr_left fun _ => ?_
  cases d.connection with
  | none => simp
  | some info =>
    simp only [Option.any_some, decide_eq_true_eq, Option.some.injEq]
    constructor
    · intro h
      exact ⟨_, h⟩
    · rintro ⟨connectInner, rfl⟩
      rfl

theorem exists_requests_iff (hid : m.deviceMap.lookup id = some obj)
    (hinfo : (m.objects obj).info = id) :
    (∃ q, q ∈ requests m (m.unRegisterDevice r id).2 obj) ↔
      Alone m (m.objects obj) ∧ Disconnects (r.device id) (m.objects obj) := by
  simp only [mem_requests, disconnects_iff]
  rcases unRegisterDevice_calls (r := r) hid hinfo with ⟨halone, o, ho, hcalls⟩ | ⟨halone, hcalls⟩
  · rw [and_iff_right halone]
    rcases Device.disconnect_out (d := m.objects obj) (r := r.device id) (o := o) with
      ⟨c, ret, hconn, hret, hout⟩ | ⟨hnone, hout⟩
    · have hnew : m.out.newCalls (m.unRegisterDevice r id).2.out = [.disconnectAbility c ret] := by
        apply Outside.newCalls_eq
        rw [hcalls, hout, Outside.calls_emit rfl, ho]
        rfl
      obtain ⟨notify, hnotify, -⟩ := Option.bind_eq_some_iff.mp hconn
      rw [hnew, hret]
      constructor
      · rintro ⟨q, -, -, hmem⟩
        cases List.mem_singleton.mp hmem
        exact ⟨⟨_, hconn⟩, rfl⟩
      · rintro ⟨-, hret⟩
        cases hret
        refine ⟨⟨obj, notify.id, c⟩, rfl, ?_, List.mem_singleton.mpr rfl⟩
        simp [Device.notifyId, hnotify]
    · rw [Outside.newCalls_nil (hcalls.trans ((congrArg Outside.calls hout).trans ho))]
      refine iff_of_false ?_ ?_
      · rintro ⟨q, -, -, hmem⟩
        cases hmem
      · rintro ⟨⟨c, hconn⟩, hret⟩
        exact hnone c 0 hconn hret
  · rw [Outside.newCalls_nil hcalls]
    refine iff_of_false ?_ ?_
    · rintro ⟨q, -, -, hmem⟩
      cases hmem
    · rintro ⟨h, -⟩
      exact halone h

/-! ## One step -/

/-- Besides, every notifier has an id that is taken. -/
structure Inv (s : State) : Prop where
  wellFormed : s.sys.WellFormed
  notify : ∀ o n, (s.sys.manager.objects o).notifyId = some n → n < s.sys.manager.out.nextId
  awaited : ∀ q ∈ s.awaited, q.notify < s.sys.manager.out.nextId

/-- A step that keeps the notifiers and flags no device leaves no zombie. -/
theorem noZombie_of_keeps (h : s.sys.WellFormed) (hs : NoZombie s)
    (hkeep : KeepsNotifiers s.sys.manager s'.sys.manager)
    (hmap : ∀ id o, s'.sys.manager.deviceMap.lookup id = some o →
      (s'.sys.manager.objects o).isUnRegisted = true →
        s.sys.manager.deviceMap.lookup id = some o ∧ (s.sys.manager.objects o).isUnRegisted = true)
    (hpending : ∀ id o, s'.sys.manager.deviceMap.lookup id = some o → o ∈ s.sys.pending →
      o ∈ s'.sys.pending)
    (hawaited : s.awaited ⊆ s'.awaited) : NoZombie s' := by
  intro id o hid hflag
  obtain ⟨hid', hflag'⟩ := hmap id o hid hflag
  rcases hs id o hid' hflag' with hpend | ⟨q, hq, ho, hn⟩
  · exact .inl (hpending id o hid hpend)
  · exact .inr ⟨q, hawaited hq, ho, hkeep.keep o _ (h.allocated hid') hn⟩

theorem noZombie_of_sameDevices (h : s.sys.WellFormed) (hs : NoZombie s)
    (hkeep : KeepsNotifiers s.sys.manager s'.sys.manager)
    (hsame : SameDevices s.sys.manager s'.sys.manager)
    (hpending : ∀ o ∈ s.sys.pending, o ∈ s'.sys.pending) (hawaited : s.awaited ⊆ s'.awaited) :
    NoZombie s' := by
  refine noZombie_of_keeps h hs hkeep ?_ (fun _ o _ ho => hpending o ho) hawaited
  intro id o hid hflag
  exact ⟨hsame.deviceMap ▸ hid, (hsame.isUnRegisted o).symm.trans hflag⟩

/-! ### Attach and detach -/

theorem register_noZombie (h : s.sys.WellFormed) (hs : NoZombie s) (r : Replies) (devInfo : DeviceId) :
    NoZombie (step s (.operation (.registerDevice r devInfo))) := by
  have hkeep : KeepsNotifiers s.sys.manager (s.sys.manager.registerDevice r devInfo).2 :=
    registerDevice_keepsNotifiers devInfo
  cases hid : s.sys.manager.deviceMap.lookup devInfo with
  | some obj =>
    exact noZombie_of_sameDevices h hs hkeep (System.registerDevice_found r hid) (fun _ ho => ho) subset_rfl
  | none =>
    have hsame := System.registerDevice_new r hid
    refine noZombie_of_keeps h hs hkeep ?_ (fun _ _ _ ho => ho) subset_rfl
    intro id o hlook hflag
    have hlook' : (s.sys.manager.makeDevice devInfo).deviceMap.lookup id = some o :=
      hsame.deviceMap ▸ hlook
    have hflag' : ((s.sys.manager.makeDevice devInfo).objects o).isUnRegisted = true :=
      (hsame.isUnRegisted o).symm.trans hflag
    by_cases hne : id = devInfo
    · subst hne
      rw [lookup_makeDevice_self] at hlook'
      cases hlook'
      rw [makeDevice_self] at hflag'
      cases hflag'
    · rw [lookup_makeDevice hne] at hlook'
      rw [makeDevice_of_lt (h.allocated hlook')] at hflag'
      exact ⟨hlook', hflag'⟩

theorem awaited_subset (s : State) (a : Manager.Action) :
    s.awaited ⊆ (step s (.operation a)).awaited := by
  unfold step
  cases htarget : target s.sys.manager a with
  | none => simp only [htarget, subset_rfl]
  | some obj =>
    simp only [htarget]
    exact Finset.subset_union_left

/-- A detach leaves no zombie exactly when it leaves a connected device on its way out. -/
theorem unRegister_noZombie_iff (h : s.sys.WellFormed) (hs : NoZombie s) (r : Replies)
    (devInfo : DeviceId) :
    NoZombie (step s (.operation (.unRegisterDevice r devInfo))) ↔
      Kept s (.operation (.unRegisterDevice r devInfo)) := by
  have hsameNotifiers : SameNotifiers s.sys.manager (s.sys.manager.unRegisterDevice r devInfo).2 :=
    unRegisterDevice_sameNotifiers devInfo
  have hsubset := awaited_subset s (.unRegisterDevice r devInfo)
  cases hid : s.sys.manager.deviceMap.lookup devInfo with
  | none =>
    have hsame : SameDevices s.sys.manager (s.sys.manager.unRegisterDevice r devInfo).2 := by
      rw [System.unRegisterDevice_absent r hid]
      exact .refl _
    refine iff_of_true ?_ ?_
    · exact noZombie_of_sameDevices h hs hsameNotifiers.keeps hsame (fun _ ho => ho) hsubset
    · intro obj hobj
      cases hid.symm.trans hobj
  | some obj =>
    have hsame := System.unRegisterDevice_found r hid
    cases hremote : (s.sys.manager.objects obj).drvExtRemote with
    | none =>
      have hnone : ¬(s.sys.manager.objects obj).drvExtRemote.isSome = true := by simp [hremote]
      rw [detachDevice, if_neg hnone] at hsame
      refine iff_of_true ?_ ?_
      · refine noZombie_of_keeps h hs hsameNotifiers.keeps ?_ (fun _ _ _ ho => ho) hsubset
        intro id o hlook hflag
        exact ⟨(System.lookup_of_erase (hsame.deviceMap ▸ hlook)).2,
          (hsame.isUnRegisted o).symm.trans hflag⟩
      · intro obj' hobj' hsome
        cases hid.symm.trans hobj'
        exact absurd hsome hnone
    | some remote =>
      have hsome : (s.sys.manager.objects obj).drvExtRemote.isSome = true := by simp [hremote]
      rw [detachDevice, if_pos hsome] at hsame
      have hawaited (q : Connection) : q ∈ (step s (.operation (.unRegisterDevice r devInfo))).awaited ↔
          q ∈ s.awaited ∨ q ∈ requests s.sys.manager
            (s.sys.manager.unRegisterDevice r devInfo).2 obj := by
        simp [step, target, hid, System.step]
      constructor
      · intro hz obj' hobj' _
        cases hid.symm.trans hobj'
        have hflag := hsame.isUnRegisted obj
        rw [setDevice_self] at hflag
        rcases hz devInfo obj (hsame.deviceMap.symm ▸ hid) hflag with hp | ⟨q, hq, ho, hn⟩
        · exact .inl (.inl hp)
        · rcases (hawaited q).mp hq with hq | hq
          · exact .inl (.inr ⟨q, hq, ho, (hsameNotifiers.notifyId obj).symm.trans hn⟩)
          · exact .inr ((exists_requests_iff hid (h.info hid)).mp ⟨q, hq⟩)
      · intro hkept id o hlook hflag
        have hleave : IsLeaving s o ∨ ∃ q, q ∈ requests s.sys.manager
            (s.sys.manager.unRegisterDevice r devInfo).2 obj ∧ o = obj := by
          by_cases heq : o = obj
          · subst heq
            refine (hkept o hid hsome).imp_right ?_
            intro hreq
            obtain ⟨q, hq⟩ := (exists_requests_iff hid (h.info hid)).mpr hreq
            exact ⟨q, hq, rfl⟩
          · have hflag' := (hsame.isUnRegisted o).symm.trans hflag
            rw [setDevice_ne _ heq] at hflag'
            exact .inl (hs id o (hsame.deviceMap ▸ hlook) hflag')
        rcases hleave with (hp | ⟨q, hq, ho, hn⟩) | ⟨q, hq, rfl⟩
        · exact .inl hp
        · exact .inr ⟨q, (hawaited q).mpr (.inl hq), ho, (hsameNotifiers.notifyId o).trans hn⟩
        · obtain ⟨ho, hn, -⟩ := mem_requests.mp hq
          exact .inr ⟨q, (hawaited q).mpr (.inr hq), ho, (hsameNotifiers.notifyId o).trans hn⟩

/-! ### Binds -/

theorem connectWith_notifyId (r : DeviceReplies) (callback : Option DriverExtMgrCallback)
    (token : UInt32) (d : Device) (o : Outside) :
    (d.connectWith r callback token o).2.1.notifyId =
      if Renews r callback d then some o.nextId else d.notifyId := by
  have hbind := Device.connectWith_outcome r callback token d o
  generalize d.connectWith r callback token o = result at hbind ⊢
  cases hbind with
  | refused _ _ _ hrefused =>
    rw [if_neg]
    · rfl
    · rintro ⟨-, hsome, hdeath⟩
      rcases hrefused with rfl | hrefused
      · cases hsome
      · cases hrefused.symm.trans hdeath
  | joined _ _ hremote =>
    rw [if_neg]
    · rfl
    · rintro ⟨hnone, -⟩
      rw [hnone] at hremote
      cases hremote
  | connected hcb hdeath hremote => rw [if_pos ⟨hremote, hcb ▸ rfl, hdeath⟩]; rfl
  | failed hcb hdeath hremote => rw [if_pos ⟨hremote, hcb ▸ rfl, hdeath⟩]; rfl

theorem bind_noZombie_iff (h : Inv s) (hs : NoZombie s)
    (hid : s.sys.manager.deviceMap.lookup id = some obj) {r : DeviceReplies}
    {callback : Option DriverExtMgrCallback} {token : UInt32}
    (hmanager : s'.sys.manager =
      (s.sys.manager.runDevice obj (Device.connectWith r callback token)).2)
    (hpending : s'.sys.pending = s.sys.pending) (hawaited : s'.awaited = s.awaited) :
    NoZombie s' ↔ ((s.sys.manager.objects obj).isUnRegisted = true →
      Renews r callback (s.sys.manager.objects obj) → obj ∈ s.sys.pending) := by
  have hkeeps : KeepsDriver obj s.sys.manager s'.sys.manager := by
    rw [hmanager]
    exact runDevice_keepsDriver (Device.connectWith_sameDriver callback token)
  have hsame := hkeeps.toTouches.sameDevices
  have hself : (s'.sys.manager.objects obj).notifyId =
      if Renews r callback (s.sys.manager.objects obj) then some s.sys.manager.out.nextId
      else (s.sys.manager.objects obj).notifyId := by
    rw [hmanager, ← connectWith_notifyId r callback token]
    exact congrArg Device.notifyId (setDevice_self _)
  constructor
  · intro hz hflag hrenews
    rcases hz id obj (hsame.deviceMap.symm ▸ hid) ((hsame.isUnRegisted obj).trans hflag) with
      hp | ⟨q, hq, -, hn⟩
    · exact hpending ▸ hp
    · rw [hself, if_pos hrenews] at hn
      have hlt := h.awaited q (hawaited ▸ hq)
      rw [Option.some.inj hn] at hlt
      exact absurd hlt (lt_irrefl _)
  · intro hkept id' o hlook hflag
    have hlook' : s.sys.manager.deviceMap.lookup id' = some o := hsame.deviceMap ▸ hlook
    have hflag' := (hsame.isUnRegisted o).symm.trans hflag
    rcases hs id' o hlook' hflag' with hp | ⟨q, hq, ho, hn⟩
    · exact .inl (hpending ▸ hp)
    · by_cases heq : o = obj
      · subst heq
        by_cases hrenews : Renews r callback (s.sys.manager.objects o)
        · exact .inl (hpending ▸ hkept hflag' hrenews)
        · exact .inr ⟨q, hawaited ▸ hq, ho, hself.trans ((if_neg hrenews).trans hn)⟩
      · exact .inr ⟨q, hawaited ▸ hq, ho, (congrArg Device.notifyId (hkeeps.objects o heq)).trans hn⟩

/-! ### All operations -/

/-- The operations other than the two binds. -/
def KeepsNotifier : Manager.Action → Prop
  | .connectDevice .. | .connectDriverWithDeviceId .. => False
  | _ => True

theorem step_keepsNotifiers {sys : System} {a : Manager.Action} (ha : KeepsNotifier a) :
    KeepsNotifiers sys.manager (sys.step a).manager := by
  cases a with
  | connectDevice => exact ha.elim
  | connectDriverWithDeviceId => exact ha.elim
  | registerDevice r devInfo => exact registerDevice_keepsNotifiers devInfo
  | unRegisterDevice r devInfo => exact (unRegisterDevice_sameNotifiers devInfo).keeps
  | onBundlesUpdated r bundleName order => exact onBundlesUpdated_keepsNotifiers bundleName order
  | clearMatchedDrivers r userId order => exact (clearMatchedDrivers_sameNotifiers userId order).keeps
  | disConnectDevice r id token => exact (disConnectDevice_sameNotifiers id token).keeps
  | disConnectDriverWithDeviceId r id token =>
    exact (disConnectDriverWithDeviceId_sameNotifiers id token).keeps
  | onConnect obj remote code => exact (onConnect_sameNotifiers remote code).keeps
  | remoteDied obj object => exact (remoteDied_sameNotifiers object).keeps
  | removeDeviceOfDeviceMap r obj =>
    have herase : SameNotifiers sys.manager (sys.manager.removeDeviceOfDeviceMap obj) :=
      .of_objects rfl rfl rfl
    exact (herase.trans stopExtension_sameNotifiers).keeps
  | onDisconnect r obj code =>
    have hdisc : SameNotifiers sys.manager (sys.manager.onDisconnect obj code) :=
      onDisconnect_sameNotifiers code
    simp only [System.step, System.onDisconnect]
    split
    case isTrue => exact hdisc.keeps
    case isFalse => exact (hdisc.trans stopExtension_sameNotifiers).keeps

theorem step_freshNotifiers (sys : System) (a : Manager.Action) :
    FreshNotifiers sys.manager (sys.step a).manager := by
  cases a with
  | connectDevice r id token callback => exact connectDevice_freshNotifiers id token callback
  | connectDriverWithDeviceId r access id token appIds callback =>
    exact connectDriverWithDeviceId_freshNotifiers access id token appIds callback
  | _ => exact KeepsNotifiers.toFreshNotifiers (step_keepsNotifiers trivial)

/-- The operation that a step runs. -/
def Action.run : Action → Manager.Action
  | .operation a => a
  | .completed r obj resultCode _ => .onDisconnect r obj resultCode

theorem step_sys (s : State) (a : Action) : (step s a).sys = s.sys.step a.run := by
  cases a with
  | operation => rfl
  | completed => rfl

theorem mem_awaited_step {a : Action} {q : Connection} (hq : q ∈ (step s a).awaited) :
    q ∈ s.awaited ∨ (s.sys.manager.objects q.obj).notifyId = some q.notify := by
  cases a with
  | operation a =>
    simp only [step] at hq
    split at hq
    · exact .inl hq
    · rcases Finset.mem_union.mp hq with hq | hq
      · exact .inl hq
      · obtain ⟨rfl, hn, -⟩ := mem_requests.mp hq
        exact .inr hn
  | completed r obj code c => exact .inl (Finset.mem_filter.mp hq).1

theorem step_inv (h : Inv s) {a : Action} (ha : Enabled s a) : Inv (step s a) := by
  have hfresh := step_freshNotifiers s.sys a.run
  rw [← step_sys] at hfresh
  refine ⟨?_, ?_, ?_⟩
  · rw [step_sys]
    cases a with
    | operation a => exact System.step_wellFormed h.wellFormed ha
    | completed r obj code c =>
      exact System.step_wellFormed (a := .onDisconnect r obj code) h.wellFormed ha
  · intro o n hn
    rcases hfresh.fresh o n hn with hn | hlt
    · exact lt_of_lt_of_le (h.notify o n hn) hfresh.nextId
    · exact hlt
  · intro q hq
    rcases mem_awaited_step hq with hq | hn
    · exact lt_of_lt_of_le (h.awaited q hq) hfresh.nextId
    · exact lt_of_lt_of_le (h.notify _ _ hn) hfresh.nextId

theorem onDisconnect_pending (sys : System) (r : Replies) (obj : Nat) (resultCode : Int) :
    (sys.step (.onDisconnect r obj resultCode)).pending =
      if (sys.manager.objects obj).isUnRegisted then obj :: sys.pending else sys.pending := by
  have hdisc : KeepsDriver obj sys.manager (sys.manager.onDisconnect obj resultCode) :=
    onDisconnect_keepsDriver resultCode
  simp only [System.step, System.onDisconnect, hdisc.isUnRegisted]
  split
  case isTrue => rfl
  case isFalse => rfl

/-- A completion takes a request away, and starts the removal of a device that waited for it. -/
theorem completed_noZombie (h : s.sys.WellFormed) (hs : NoZombie s) (r : Replies) (obj : Nat)
    (resultCode : Int) (connectInner : Nat) :
    NoZombie (step s (.completed r obj resultCode connectInner)) := by
  have hkeep : KeepsNotifiers s.sys.manager (s.sys.step (.onDisconnect r obj resultCode)).manager :=
    step_keepsNotifiers trivial
  have hsame : SameDevices s.sys.manager (s.sys.step (.onDisconnect r obj resultCode)).manager :=
    System.step_sameDevices trivial
  have hpending := onDisconnect_pending s.sys r obj resultCode
  intro id o hlook hflag
  have hlook' : s.sys.manager.deviceMap.lookup id = some o := hsame.deviceMap ▸ hlook
  have hflag' := (hsame.isUnRegisted o).symm.trans hflag
  by_cases heq : o = obj
  · subst heq
    rw [if_pos hflag'] at hpending
    exact .inl (hpending ▸ List.mem_cons_self)
  · rcases hs id o hlook' hflag' with hp | ⟨q, hq, ho, hn⟩
    · refine .inl (hpending ▸ ?_)
      split
      case isTrue => exact List.mem_cons_of_mem _ hp
      case isFalse => exact hp
    · have hother : ¬(q.obj = obj ∧ q.connectInner = connectInner) := by
        rintro ⟨hobj, -⟩
        exact heq (ho.symm.trans hobj)
      exact .inr ⟨q, Finset.mem_filter.mpr ⟨hq, hother⟩, ho,
        hkeep.keep o _ (h.allocated hlook') hn⟩

theorem remove_noZombie (h : s.sys.WellFormed) (hs : NoZombie s) (r : Replies) (obj : Nat) :
    NoZombie (step s (.operation (.removeDeviceOfDeviceMap r obj))) := by
  have hkeep : KeepsNotifiers s.sys.manager
      (s.sys.step (.removeDeviceOfDeviceMap r obj)).manager := step_keepsNotifiers trivial
  refine noZombie_of_keeps h hs hkeep ?_ ?_ subset_rfl
  · intro id o hlook hflag
    exact ⟨(System.lookup_of_erase hlook).2, hflag⟩
  · intro id o hlook ho
    obtain ⟨hne, hlook'⟩ := System.lookup_of_erase hlook
    have hobj : o ≠ obj := by
      rintro rfl
      exact hne (h.info hlook').symm
    exact (List.mem_erase_of_ne hobj).mpr ho

theorem step_noZombie_iff (h : Inv s) (hs : NoZombie s) (a : Action) :
    NoZombie (step s a) ↔ Kept s a := by
  have hw := h.wellFormed
  cases a with
  | completed r obj code c => exact iff_of_true (completed_noZombie hw hs r obj code c) trivial
  | operation a =>
    have hsubset := awaited_subset s a
    have hquiet (ha : KeepsNotifier a) (hmap : a.KeepsMap)
        (hpending : ∀ o ∈ s.sys.pending, o ∈ (s.sys.step a).pending) :
        NoZombie (step s (.operation a)) :=
      noZombie_of_sameDevices hw hs (step_keepsNotifiers ha) (System.step_sameDevices hmap) hpending
        hsubset
    cases a with
    | registerDevice r devInfo => exact iff_of_true (register_noZombie hw hs r devInfo) trivial
    | unRegisterDevice r devInfo => exact unRegister_noZombie_iff hw hs r devInfo
    | removeDeviceOfDeviceMap r obj => exact iff_of_true (remove_noZombie hw hs r obj) trivial
    | connectDevice r id token callback =>
      cases hid : s.sys.manager.deviceMap.lookup id with
      | none =>
        have hm : (s.sys.manager.connectDevice r id token callback).2 = s.sys.manager := by
          simp only [connectDevice, queryDeviceByDeviceID, hid]
        refine iff_of_true ?_ ?_
        · simp only [step, System.step, hm]
          exact hs
        · simp [Kept, hid]
      | some obj =>
        have hm : (s.sys.manager.connectDevice r id token callback).2 =
            (s.sys.manager.runDevice obj
              (Device.connectWith (r.device id) callback token)).2 := by
          simp only [connectDevice, queryDeviceByDeviceID, hid]
        have hiff : NoZombie (step s (.operation (.connectDevice r id token callback))) ↔ _ :=
          bind_noZombie_iff h hs hid hm rfl rfl
        simpa [Kept, hid] using hiff
    | connectDriverWithDeviceId r access id token appIds callback =>
      cases hid : s.sys.manager.deviceMap.lookup id with
      | none =>
        have hm : (s.sys.manager.connectDriverWithDeviceId r access id token appIds callback).2 =
            s.sys.manager := by
          simp only [connectDriverWithDeviceId, queryDeviceByDeviceID, hid]
        refine iff_of_true ?_ ?_
        · simp only [step, System.step, hm]
          exact hs
        · simp [Kept, hid]
      | some obj =>
        by_cases hret : checkAccessPermission access (s.sys.manager.objects obj).driverInfo appIds
            token = .edmOk
        · have hm : (s.sys.manager.connectDriverWithDeviceId r access id token appIds callback).2 =
              (s.sys.manager.runDevice obj
                (Device.connectWith (r.device id) callback token)).2 := by
            simp [connectDriverWithDeviceId, queryDeviceByDeviceID, hid, hret]
          have hiff : NoZombie (step s (.operation
              (.connectDriverWithDeviceId r access id token appIds callback))) ↔ _ :=
            bind_noZombie_iff h hs hid hm rfl rfl
          simpa [Kept, hid, hret] using hiff
        · have hm : (s.sys.manager.connectDriverWithDeviceId r access id token appIds callback).2 =
              s.sys.manager := by
            simp [connectDriverWithDeviceId, queryDeviceByDeviceID, hid, hret]
          refine iff_of_true ?_ ?_
          · simp only [step, System.step, hm]
            exact hs
          · simp [Kept, hid, hret]
    | onDisconnect r obj code =>
      refine iff_of_true (hquiet trivial trivial ?_) trivial
      intro o ho
      rw [onDisconnect_pending]
      split
      case isTrue => exact List.mem_cons_of_mem _ ho
      case isFalse => exact ho
    | onBundlesUpdated => exact iff_of_true (hquiet trivial trivial fun _ ho => ho) trivial
    | clearMatchedDrivers => exact iff_of_true (hquiet trivial trivial fun _ ho => ho) trivial
    | disConnectDevice => exact iff_of_true (hquiet trivial trivial fun _ ho => ho) trivial
    | disConnectDriverWithDeviceId =>
      exact iff_of_true (hquiet trivial trivial fun _ ho => ho) trivial
    | onConnect => exact iff_of_true (hquiet trivial trivial fun _ ho => ho) trivial
    | remoteDied => exact iff_of_true (hquiet trivial trivial fun _ ho => ho) trivial

theorem init_inv (driverChangeCallback : Bool) : Inv (machine driverChangeCallback).init where
  wellFormed := System.init_wellFormed driverChangeCallback
  notify _ _ hn := nomatch hn
  awaited _ hq := absurd hq (Finset.notMem_empty _)

/-- Every flagged device in the map is on its way out, in every state of a run, exactly when every
detach of the run sends a connected device on its way and no bind takes it off. -/
theorem noZombie_iff_kept (driverChangeCallback : Bool) (as : List Action)
    (h : (machine driverChangeCallback).Runs as) :
    (machine driverChangeCallback).Throughout NoZombie (machine driverChangeCallback).init as ↔
      (machine driverChangeCallback).Along Kept (machine driverChangeCallback).init as := by
  refine Machine.throughout_iff_along (I := Inv) (fun _ _ hs ha => step_inv hs ha)
    (fun _ a hs hz _ => step_noZombie_iff hs hz a) (init_inv driverChangeCallback) ?_ h
  intro id obj hid
  simp [machine, System.machine] at hid

/-- A device that is alone with its driver is detached, disconnects and leaves the map. -/
theorem noZombie_of_one_device :
    (machine true).Throughout NoZombie (machine true).init
      [.operation (.registerDevice System.replies 1), .operation (.onConnect 0 (some 7) 0),
        .operation (.unRegisterDevice System.replies 1), .completed System.replies 0 0 1,
        .operation (.removeDeviceOfDeviceMap System.replies 0)] :=
  (noZombie_iff_kept true _ (by decide)).mpr (by decide)

/-- Two devices share a driver; the one that is detached is not asked to disconnect. -/
theorem not_forall_noZombie :
    ¬∀ driverChangeCallback as, (machine driverChangeCallback).Runs as →
      (machine driverChangeCallback).Throughout NoZombie (machine driverChangeCallback).init as := by
  intro h
  have hlast := (h true [.operation (.registerDevice System.replies 1),
    .operation (.registerDevice System.replies 2), .operation (.onConnect 0 (some 7) 0),
    .operation (.onConnect 1 (some 8) 0), .operation (.unRegisterDevice System.replies 1)]
    (by decide)).last
  exact absurd (hlast 1 0 (by decide) (by decide)) (by decide)

end ExtDevMgr.Manager.Detached
