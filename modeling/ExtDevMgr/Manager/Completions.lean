import ExtDevMgr.Manager.Connect

/-!
# The state of a connection

The remote object and the callers of one device over the runs of its binds and completions. A
completion stores the remote that it is given, whatever its result, and sets all callers bound.
-/

namespace ExtDevMgr.Manager.Completions

inductive Completion
  | connect (remote : Option Nat) (resultCode : Int)
  | disconnect (resultCode : Int)
  deriving DecidableEq

structure State where
  device : Device
  out : Outside
  /-- The latest completion. -/
  latest : Option Completion

inductive Action
  | connect (r : DeviceReplies) (callback : Option DriverExtMgrCallback) (callingTokenId : UInt32)
  | onConnect (remote : Option Nat) (resultCode : Int)
  | onDisconnect (resultCode : Int)

def deviceAfter (s : State) : Action → Device × Outside
  | .connect r callback token => (s.device.connectWith r callback token s.out).2
  | .onConnect remote resultCode => s.device.onConnect remote resultCode s.out
  | .onDisconnect resultCode => s.device.onDisconnect resultCode s.out

def latestAfter (s : State) : Action → Option Completion
  | .connect .. => s.latest
  | .onConnect remote resultCode => some (.connect remote resultCode)
  | .onDisconnect resultCode => some (.disconnect resultCode)

/-- A device that has been made, with or without a driver. -/
def newDevice (info : DeviceId) (driverInfo : Option DriverInfo) : Device :=
  match driverInfo with
  | none => { info }
  | some driverInfo => Device.addBundleInfo { info } driverInfo.bundleInfo driverInfo

def machine (info : DeviceId) (driverInfo : Option DriverInfo) : Machine State Action where
  init := { device := newDevice info driverInfo, out := {}, latest := none }
  enabled _ _ := True
  step s a :=
    { device := (deviceAfter s a).1, out := (deviceAfter s a).2, latest := latestAfter s a }

/-- There is a remote only where the latest completion has connected the device, and a caller is bound
only while there is one. -/
structure Connected (s : State) : Prop where
  remote : s.device.drvExtRemote.isSome = true →
    ∃ remote, s.latest = some (.connect (some remote) 0)
  bound : ∀ token info, s.device.boundCallerInfos.lookup token = some info → info.isBound = true →
    s.device.drvExtRemote.isSome = true

/-- A completion that brings a remote is a successful one, and one that brings none finds no caller. -/
def Kept (s : State) : Action → Prop
  | .onConnect (some _) resultCode => resultCode = 0
  | .onConnect none _ => s.device.boundCallerInfos.entries = []
  | _ => True

instance (s : State) : DecidablePred (Kept s) := fun a => by
  unfold Kept
  split <;> infer_instance

variable {info : DeviceId} {driverInfo : Option DriverInfo} {s : State}

/-! ## One step -/

/-- A bind leaves the remote, and a caller that it sets bound joins a connection. -/
theorem connect_connected (h : Connected s) (r : DeviceReplies)
    (callback : Option DriverExtMgrCallback) (token : UInt32) :
    Connected ((machine info driverInfo).step s (.connect r callback token)) := by
  have hout := Device.connectWith_outcome r callback token s.device s.out
  generalize hafter : s.device.connectWith r callback token s.out = after at hout
  have hdevice : ((machine info driverInfo).step s (.connect r callback token)).device =
      after.2.1 := congrArg (·.2.1) hafter
  constructor
  · rw [hdevice]
    intro hremote
    apply h.remote
    cases hout <;> exact hremote
  · rw [hdevice]
    intro caller callerInfo hlookup hbound
    cases hout with
    | refused => exact h.bound caller callerInfo hlookup hbound
    | joined _ _ hremote => exact hremote
    | connected =>
      by_cases hcaller : caller = token
      · rw [hcaller, AList.lookup_insert] at hlookup
        cases hlookup
        cases hbound
      · rw [AList.lookup_insert_ne hcaller] at hlookup
        exact h.bound caller callerInfo hlookup hbound
    | failed =>
      by_cases hcaller : caller = token
      · rw [hcaller, AList.lookup_erase] at hlookup
        cases hlookup
      · rw [AList.lookup_erase_ne hcaller, AList.lookup_insert_ne hcaller] at hlookup
        exact h.bound caller callerInfo hlookup hbound

theorem onConnect_connected_iff (remote : Option Nat) (resultCode : Int) :
    Connected ((machine info driverInfo).step s (.onConnect remote resultCode)) ↔
      Kept s (.onConnect remote resultCode) := by
  cases remote with
  | some remote =>
    constructor
    · intro h
      obtain ⟨remote', hlatest⟩ := h.remote rfl
      cases hlatest
      rfl
    · intro hcode
      cases hcode
      exact ⟨fun _ => ⟨remote, rfl⟩, fun _ _ _ _ => rfl⟩
  | none =>
    constructor
    · intro h
      change s.device.boundCallerInfos.entries = []
      apply List.eq_nil_iff_forall_not_mem.mpr
      rintro ⟨token, callerInfo⟩ hmem
      have hlookup := Table.lookup_mapValues (fun _ : CallerInfo => (⟨true⟩ : CallerInfo))
        s.device.boundCallerInfos token
      rw [Table.lookup_eq_some_iff.mpr hmem] at hlookup
      cases h.bound token ⟨true⟩ hlookup rfl
    · intro hnil
      refine ⟨nofun, ?_⟩
      intro token callerInfo hlookup
      change (Table.mapValues _ s.device.boundCallerInfos).lookup token = _ at hlookup
      rw [Table.lookup_eq_some_iff] at hlookup
      change _ ∈ s.device.boundCallerInfos.entries.map _ at hlookup
      rw [show s.device.boundCallerInfos.entries = [] from hnil] at hlookup
      cases hlookup

theorem onDisconnect_connected (resultCode : Int) :
    Connected ((machine info driverInfo).step s (.onDisconnect resultCode)) := by
  refine ⟨nofun, ?_⟩
  intro token callerInfo hlookup
  cases hlookup

theorem step_connected_iff (h : Connected s) (a : Action) :
    Connected ((machine info driverInfo).step s a) ↔ Kept s a := by
  cases a with
  | connect r callback token => exact iff_of_true (connect_connected h r callback token) trivial
  | onConnect remote resultCode => exact onConnect_connected_iff remote resultCode
  | onDisconnect resultCode => exact iff_of_true (onDisconnect_connected resultCode) trivial

theorem init_connected : Connected (machine info driverInfo).init := by
  cases driverInfo with
  | none => exact ⟨nofun, fun _ _ hlookup => nomatch hlookup⟩
  | some driverInfo => exact ⟨nofun, fun _ _ hlookup => nomatch hlookup⟩

/-- Connected means connected in every state of a run exactly when no completion of the run brings a
remote with an error, or no remote while there are callers. -/
theorem connected_iff_kept (info : DeviceId) (driverInfo : Option DriverInfo) (as : List Action) :
    (machine info driverInfo).Throughout Connected (machine info driverInfo).init as ↔
      (machine info driverInfo).Along Kept (machine info driverInfo).init as :=
  Machine.throughout_iff_along (I := fun _ => True) (fun _ _ _ _ => trivial)
    (fun _ a _ h _ => step_connected_iff h a) trivial init_connected
    (Machine.along_of_forall (fun _ _ => trivial) _ _)

/-- A completion with a remote and an error, and one without a remote for a waiting caller. -/
theorem not_forall_connected :
    (¬∀ info driverInfo as remote,
      ((machine info driverInfo).run (machine info driverInfo).init as).device.drvExtRemote =
        some remote →
      ((machine info driverInfo).run (machine info driverInfo).init as).latest =
        some (.connect (some remote) 0)) ∧
    ¬∀ info driverInfo as token,
      ((machine info driverInfo).run (machine info driverInfo).init as).device.boundCallerInfos.lookup
        token = some ⟨true⟩ →
      ((machine info driverInfo).run (machine info driverInfo).init as).device.drvExtRemote.isSome =
        true := by
  constructor
  · intro h
    exact absurd (h 1 none [.onConnect (some 7) (-1)] 7 rfl) (by decide)
  · intro h
    let r : DeviceReplies := ⟨fun _ => some 0, some 0, some 0, true⟩
    have hremote := h 1 none [.connect r (some ⟨1⟩) 101, .onConnect none 0] 101 (by decide)
    exact absurd hremote (by decide)

end ExtDevMgr.Manager.Completions
