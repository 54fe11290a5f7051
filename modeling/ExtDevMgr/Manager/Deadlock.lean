import ExtDevMgr.Base.Machine
import ExtDevMgr.Manager.Locking

/-!
# Deadlocks

All operations take the mutexes in one order, that of the device map before that of the match map and
that of a device last. The one exception is the disconnect completion of an unregistered device, which
takes the mutex of the device map with that of its device.
-/

namespace ExtDevMgr.Manager.Locking
open ExtDeviceManager
open Prog (withLock call forEach)

/-! ## Runs -/

inductive Operation
  | registerDevice (r : Replies) (devInfo : DeviceId)
  | unRegisterDevice (r : Replies) (devInfo : DeviceId)
  | connectDevice (r : Replies) (deviceId : DeviceId) (callingTokenId : UInt32)
      (connectCallback : Option DriverExtMgrCallback)
  | disConnectDevice (r : Replies) (deviceId : DeviceId) (callingTokenId : UInt32)
  | matchDriverInfos (r : Replies) (deviceIds : Finset DeviceId)
      (order : List DeviceId → List DeviceId)
  | clearMatchedDrivers (r : Replies) (userId : Int) (order : List DeviceId → List DeviceId)
  | onConnect (obj : Nat) (remote : Option Nat) (resultCode : Int)
  | onDisconnect (r : Replies) (obj : Nat) (resultCode : Int)

def Operation.code : Operation → Code Unit
  | .registerDevice r devInfo => do
    let _ ← Locking.registerDevice r devInfo
  | .unRegisterDevice r devInfo => do
    let _ ← Locking.unRegisterDevice r devInfo
  | .connectDevice r deviceId token callback => do
    let _ ← Locking.connectDevice r deviceId token callback
  | .disConnectDevice r deviceId token => do
    let _ ← Locking.disConnectDevice r deviceId token
  | .matchDriverInfos r deviceIds order => Locking.matchDriverInfos r deviceIds order
  | .clearMatchedDrivers r userId order => Locking.clearMatchedDrivers r userId order
  | .onConnect obj remote resultCode => Locking.onConnect obj remote resultCode
  | .onDisconnect r obj resultCode => Locking.onDisconnect r obj resultCode

abbrev State := Threads Mutex ExtDeviceManager

inductive Action
  | start (t : Nat) (operation : Operation)
  | advance (t : Nat)

def step (s : State) : Action → State
  | .start t operation => s.start t operation.code
  | .advance t => s.advance t

/-- A thread that is done can run any operation. -/
def Enabled (s : State) : Action → Prop
  | .start t _ => (s.prog t).isDone = true
  | .advance t => s.CanAdvance Mutex.recursive t

instance (s : State) : DecidablePred (Enabled s) := fun a => by
  cases a <;> unfold Enabled <;> infer_instance

def machine (driverChangeCallback : Bool) : Machine State Action where
  init := { shared := { driverChangeCallback } }
  enabled := Enabled
  step := step

instance (driverChangeCallback : Bool) (s : State) :
    DecidablePred ((machine driverChangeCallback).enabled s) :=
  inferInstanceAs (DecidablePred (Enabled s))

/-- A thread that holds the mutex of the device map only goes for that of a device while no thread that
holds it goes for the mutex of the device map, and the other way round. -/
def Kept (s : State) : Action → Prop
  | .start .. => True
  | .advance t =>
    match (s.next t).1.wanted with
    | some (.device obj) => .deviceMap ∈ (s.next t).2 → ∀ u ∈ s.owner (.device obj), u ≠ t →
        (s.prog u).wanted ≠ some .deviceMap
    | some .deviceMap => ∀ l ∈ (s.next t).2, ∀ u ∈ s.owner .deviceMap, u ≠ t →
        (s.prog u).wanted ≠ some l
    | _ => True

instance (s : State) : DecidablePred (Kept s) := fun a => by
  cases a with
  | start => exact .isTrue trivial
  | advance t =>
    unfold Kept
    dsimp only
    split <;> infer_instance

/-! ## The order of the mutexes -/

/-- Which mutex is taken with which ones. -/
inductive Takes : List Mutex → Mutex → Prop
  | deviceMap : Takes [] .deviceMap
  | bundleMatchMap : Takes [.deviceMap] .bundleMatchMap
  | completion (obj : Nat) : Takes [] (.device obj)
  | mapped (obj : Nat) : Takes [.deviceMap] (.device obj)
  | matched (obj : Nat) : Takes [.bundleMatchMap, .deviceMap] (.device obj)
  | again {obj : Nat} {held : List Mutex} : .device obj ∈ held → Takes held (.device obj)
  /-- An unregistered device leaves the map. -/
  | removal (obj : Nat) : Takes [.device obj] .deviceMap

variable {r : Replies} {obj : Nat} {held : List Mutex}

theorem keeps_connect (h : Takes held (.device obj)) : (connect r obj).Keeps Takes held :=
  Prog.keeps_withLock h (Prog.keeps_call _)

theorem keeps_disconnect (h : Takes held (.device obj)) : (disconnect r obj).Keeps Takes held :=
  Prog.keeps_withLock h (Prog.keeps_call _)

theorem keeps_onDevice {α : Type} (f : Device → Outside → α × Device × Outside) :
    (onDevice obj f).Keeps Takes held := Prog.keeps_call _

theorem keeps_registerDrvExtMgrCallback (rd : DeviceReplies) (callback : Option DriverExtMgrCallback)
    (h : Takes held (.device obj)) : (registerDrvExtMgrCallback rd callback obj).Keeps Takes held := by
  cases callback with
  | none => exact Prog.keeps_pure _
  | some callback => exact Prog.keeps_withLock h (keeps_onDevice _)

theorem keeps_unregisterDrvExtMgrCallback (callback : Option DriverExtMgrCallback)
    (h : Takes held (.device obj)) : (unregisterDrvExtMgrCallback callback obj).Keeps Takes held := by
  cases callback with
  | none => exact Prog.keeps_pure _
  | some callback => exact Prog.keeps_withLock h (keeps_onDevice _)

theorem keeps_connectWith (rd : DeviceReplies) (callback : Option DriverExtMgrCallback)
    (token : UInt32) (h : Takes held (.device obj)) :
    (connectWith rd callback token obj).Keeps Takes held := by
  have hagain : Takes (.device obj :: held) (.device obj) := .again List.mem_cons_self
  apply Prog.keeps_withLock h
  apply Prog.keeps_get.bind
  intro m
  split
  case isTrue =>
    apply (keeps_onDevice _).bind
    intro _
    apply (keeps_registerDrvExtMgrCallback rd callback hagain).bind
    intro ret
    split
    case isTrue => exact Prog.keeps_pure ret
    case isFalse => exact (keeps_onDevice _).bind fun _ => Prog.keeps_pure ret
  case isFalse =>
    apply (keeps_registerDrvExtMgrCallback rd callback hagain).bind
    intro ret
    split
    case isTrue => exact Prog.keeps_pure ret
    case isFalse =>
      apply (keeps_onDevice _).bind
      intro _
      apply (keeps_onDevice _).bind
      intro ret
      split
      case isTrue =>
        apply (keeps_unregisterDrvExtMgrCallback callback hagain).bind
        intro _
        exact (keeps_onDevice _).bind fun _ => Prog.keeps_pure ret
      case isFalse => exact Prog.keeps_pure ret

theorem keeps_addDevIdOfBundleInfoMap (bundleInfo : Name) :
    (addDevIdOfBundleInfoMap r obj bundleInfo).Keeps Takes [.deviceMap] := by
  unfold addDevIdOfBundleInfoMap
  split
  case isTrue => exact Prog.keeps_pure _
  case isFalse =>
    apply Prog.keeps_withLock .bundleMatchMap
    apply (Prog.keeps_modify _).bind
    intro _
    apply Prog.keeps_get.bind
    intro m
    split
    · exact Prog.keeps_pure _
    · apply (Prog.keeps_modify _).bind
      intro _
      split
      case isTrue => exact Prog.keeps_pure _
      case isFalse => exact (keeps_connect (.matched obj)).bind fun _ => Prog.keeps_pure _

theorem keeps_removeDevIdOfBundleInfoMap (bundleInfo : Name) :
    (removeDevIdOfBundleInfoMap r obj bundleInfo).Keeps Takes [.deviceMap] := by
  unfold removeDevIdOfBundleInfoMap
  split
  case isTrue => exact Prog.keeps_pure _
  case isFalse =>
    apply Prog.keeps_withLock .bundleMatchMap
    apply Prog.keeps_get.bind
    intro m
    split
    · exact Prog.keeps_pure _
    · split
      case isTrue => exact (Prog.keeps_modify _).bind fun _ => Prog.keeps_pure _
      case isFalse =>
        apply (Prog.keeps_modify _).bind
        intro _
        apply (keeps_disconnect (.matched obj)).bind
        intro ret
        split
        case isTrue => exact Prog.keeps_pure _
        case isFalse => exact (Prog.keeps_modify _).bind fun _ => Prog.keeps_pure _

theorem keeps_startDevice (devInfo : DeviceId) :
    (startDevice r devInfo obj).Keeps Takes [.deviceMap] := by
  apply (Prog.keeps_modify _).bind
  intro _
  apply (Prog.keeps_modify _).bind
  intro _
  apply Prog.keeps_get.bind
  intro m
  split
  case isTrue => exact Prog.keeps_pure _
  case isFalse => exact (keeps_addDevIdOfBundleInfoMap _).bind fun _ => Prog.keeps_pure _

theorem keeps_registerDevice (devInfo : DeviceId) : (registerDevice r devInfo).Keeps Takes [] := by
  apply Prog.keeps_withLock .deviceMap
  apply Prog.keeps_get.bind
  intro m
  split
  · split
    case isTrue => exact Prog.keeps_pure _
    case isFalse => exact keeps_startDevice devInfo
  · exact (Prog.keeps_modify _).bind fun _ => keeps_startDevice devInfo

theorem keeps_unRegisterDevice (devInfo : DeviceId) : (unRegisterDevice r devInfo).Keeps Takes [] := by
  apply Prog.keeps_withLock .deviceMap
  apply Prog.keeps_get.bind
  intro m
  split
  · exact Prog.keeps_pure _
  · apply (Prog.keeps_modify _).bind
    intro _
    apply (Prog.keeps_modify _).bind
    intro _
    split
    case isTrue => exact Prog.keeps_pure _
    case isFalse => exact keeps_removeDevIdOfBundleInfoMap _

theorem keeps_connectDevice (deviceId : DeviceId) (token : UInt32)
    (callback : Option DriverExtMgrCallback) :
    (connectDevice r deviceId token callback).Keeps Takes [] := by
  apply Prog.keeps_withLock .deviceMap
  apply Prog.keeps_get.bind
  intro m
  split
  · exact Prog.keeps_pure _
  · exact keeps_connectWith _ callback token (.mapped _)

theorem keeps_disConnectDevice (deviceId : DeviceId) (token : UInt32) :
    (disConnectDevice r deviceId token).Keeps Takes [] := by
  apply Prog.keeps_withLock .deviceMap
  apply Prog.keeps_get.bind
  intro m
  split
  · exact Prog.keeps_pure _
  · split
    · exact Prog.keeps_pure _
    · split
      case isTrue => exact (Prog.keeps_modify _).bind fun _ => Prog.keeps_pure _
      case isFalse => exact keeps_disconnect (.mapped _)

theorem keeps_matchDriverInfo (deviceIds : Finset DeviceId) (id : DeviceId) :
    (matchDriverInfo r deviceIds id).Keeps Takes [.deviceMap] := by
  apply Prog.keeps_get.bind
  intro m
  split
  · exact Prog.keeps_pure _
  · apply (Prog.keeps_modify _).bind
    intro _
    apply Prog.keeps_get.bind
    intro m
    split
    case isTrue => exact Prog.keeps_pure _
    case isFalse =>
      split
      · exact Prog.keeps_pure _
      · apply (Prog.keeps_modify _).bind
        intro _
        exact (keeps_addDevIdOfBundleInfoMap _).bind fun _ => Prog.keeps_pure _

theorem keeps_clearMatchedDriver (userId : Int) (id : DeviceId) :
    (clearMatchedDriver r userId id).Keeps Takes [.deviceMap] := by
  apply Prog.keeps_get.bind
  intro m
  split
  · exact Prog.keeps_pure _
  · dsimp only
    split
    case isTrue =>
      apply Prog.keeps_withLock .bundleMatchMap
      apply Prog.keeps_get.bind
      intro m
      split
      · apply (Prog.keeps_modify _).bind
        intro _
        exact (Prog.keeps_modify _).bind fun _ => Prog.keeps_modify _
      · exact Prog.keeps_pure _
    case isFalse => exact Prog.keeps_pure _

theorem keeps_onDisconnect (resultCode : Int) : (onDisconnect r obj resultCode).Keeps Takes [] := by
  apply Prog.keeps_withLock (.completion obj)
  apply (Prog.keeps_modify _).bind
  intro _
  apply Prog.keeps_get.bind
  intro m
  dsimp only
  split
  case isTrue =>
    have hremove : (removeDeviceOfDeviceMap obj).Keeps Takes [.device obj] :=
      Prog.keeps_withLock (.removal obj) (Prog.keeps_modify _)
    exact hremove.bind fun _ => Prog.keeps_modify _
  case isFalse => exact Prog.keeps_modify _

/-- An operation takes the mutexes in the order and gives all of them back. -/
theorem Operation.keeps (operation : Operation) : operation.code.Keeps Takes [] := by
  cases operation with
  | registerDevice r devInfo => exact (keeps_registerDevice devInfo).bind fun _ => Prog.keeps_pure _
  | unRegisterDevice r devInfo =>
    exact (keeps_unRegisterDevice devInfo).bind fun _ => Prog.keeps_pure _
  | connectDevice r deviceId token callback =>
    exact (keeps_connectDevice deviceId token callback).bind fun _ => Prog.keeps_pure _
  | disConnectDevice r deviceId token =>
    exact (keeps_disConnectDevice deviceId token).bind fun _ => Prog.keeps_pure _
  | matchDriverInfos r deviceIds order =>
    apply Prog.keeps_withLock .deviceMap
    apply Prog.keeps_get.bind
    intro m
    exact Prog.keeps_forEach (keeps_matchDriverInfo deviceIds) _
  | clearMatchedDrivers r userId order =>
    apply Prog.keeps_withLock .deviceMap
    apply Prog.keeps_get.bind
    intro m
    apply (Prog.keeps_forEach (keeps_clearMatchedDriver userId) _).bind
    intro _
    exact Prog.keeps_withLock .bundleMatchMap (Prog.keeps_modify _)
  | onConnect obj remote resultCode =>
    exact Prog.keeps_withLock (.completion obj) (Prog.keeps_modify _)
  | onDisconnect r obj resultCode => exact keeps_onDisconnect resultCode

/-! ## Deadlocks -/

variable {s : State} {t u : Nat}

abbrev DeadlockFree (s : State) : Prop := s.DeadlockFree Mutex.recursive

/-- The holder of the device map goes for the mutex of a device whose completion goes for the map. -/
structure Meets (s : State) (obj t u : Nat) : Prop where
  device : .device obj ∈ s.held t
  map : (s.prog t).wanted = some .deviceMap
  holder : .deviceMap ∈ s.held u
  wanted : (s.prog u).wanted = some (.device obj)

theorem Meets.ne (h : Meets s obj t u) : t ≠ u := by
  rintro rfl
  cases h.map.symm.trans h.wanted

theorem Takes.deviceMap_cases (h : Takes held .deviceMap) : held = [] ∨ ∃ obj, held = [.device obj] := by
  cases h with
  | deviceMap => exact .inl rfl
  | removal obj => exact .inr ⟨obj, rfl⟩

/-- The mutex of the match map is taken under that of the device map. -/
theorem deviceMap_mem (h : Threads.Stack Takes held) (hm : .bundleMatchMap ∈ held) :
    Mutex.deviceMap ∈ held := by
  induction h with
  | nil => cases hm
  | cons htakes _ ih =>
    rcases List.mem_cons.mp hm with heq | hm
    · subst heq
      cases htakes
      exact List.mem_cons_of_mem _ List.mem_cons_self
    · exact List.mem_cons_of_mem _ (ih hm)

/-- How a thread waits: for the holder of the device map, or for a thread at work on a device, with
the mutex of the device map or with none. -/
inductive WaitsFor (s : State) (t u : Nat) : Prop
  | map : (s.prog t).wanted = some .deviceMap → .deviceMap ∉ s.held t → .deviceMap ∈ s.held u →
      WaitsFor s t u
  | holder (obj : Nat) : .deviceMap ∈ s.held t → (s.prog t).wanted = some (.device obj) →
      .device obj ∈ s.held u → u ≠ t → WaitsFor s t u
  | idle (obj : Nat) : s.held t = [] → .device obj ∈ s.held u → WaitsFor s t u

theorem waitsFor (h : s.Disciplined Takes) (hw : s.Waits Mutex.recursive t u) : WaitsFor s t u := by
  obtain ⟨l, hl, howner, hself⟩ := hw
  have hu := (h.owner l u).mp howner
  have htakes := (h.leads t).allowed hl
  cases l with
  | deviceMap =>
    refine .map hl ?_ hu
    intro hmem
    rcases htakes.deviceMap_cases with hheld | ⟨obj, hheld⟩
    · rw [hheld] at hmem
      cases hmem
    · rw [hheld] at hmem
      cases List.mem_singleton.mp hmem
  | bundleMatchMap =>
    have hheld : s.held t = [.deviceMap] := by
      generalize s.held t = held at htakes
      cases htakes
      rfl
    -- The holder of the match map holds the device map as well, so it is this thread.
    have hmap := deviceMap_mem (h.stack u) hu
    obtain rfl := h.holder (hheld ▸ List.mem_cons_self) hmap
    rw [hheld] at hu
    cases List.mem_singleton.mp hu
  | device obj =>
    have hne : u ≠ t := fun heq => absurd (hself heq) Bool.noConfusion
    have hkeep : ∀ l, l = .device obj → l ∉ s.held t := fun l hl hmem =>
      hne (h.holder hu (hl ▸ hmem))
    generalize hheld : s.held t = held at htakes
    cases htakes with
    | completion => exact .idle obj hheld hu
    | mapped => exact .holder obj (hheld ▸ List.mem_cons_self) hl hu hne
    | matched => exact .holder obj (hheld ▸ List.mem_cons_of_mem _ List.mem_cons_self) hl hu hne
    | again hmem => exact absurd (hheld ▸ hmem) (hkeep _ rfl)

theorem Meets.deadlocked (h : Meets s obj t u) (hs : s.Disciplined Takes) :
    s.Deadlocked Mutex.recursive {t, u} := by
  refine ⟨⟨t, .inl rfl⟩, ?_⟩
  rintro v (rfl | rfl)
  · exact ⟨u, .inr rfl, _, h.map, (hs.owner _ _).mpr h.holder, fun heq => absurd heq.symm h.ne⟩
  · exact ⟨t, .inl rfl, _, h.wanted, (hs.owner _ _).mpr h.device, fun heq => absurd heq h.ne⟩

/-- Some thread of a deadlock holds the mutex of the device map. -/
theorem exists_holder (h : s.Disciplined Takes) {S : Set Nat}
    (hS : s.Deadlocked Mutex.recursive S) : ∃ u ∈ S, .deviceMap ∈ s.held u := by
  obtain ⟨⟨t, ht⟩, hwaits⟩ := hS
  obtain ⟨v, hv, hw⟩ := hwaits t ht
  cases waitsFor h hw with
  | map _ _ hmem => exact ⟨v, hv, hmem⟩
  | holder obj hmem => exact ⟨t, ht, hmem⟩
  | idle obj _ hdevice =>
    obtain ⟨w, hw', hw⟩ := hwaits v hv
    cases waitsFor h hw with
    | map _ _ hmem => exact ⟨w, hw', hmem⟩
    | holder _ hmem => exact ⟨v, hv, hmem⟩
    | idle _ hnil =>
      rw [hnil] at hdevice
      cases hdevice

/-- Nothing but a completion that meets the holder of the device map is a deadlock. -/
theorem deadlockFree_iff (h : s.Disciplined Takes) :
    DeadlockFree s ↔ ∀ obj t u, ¬Meets s obj t u := by
  constructor
  · intro hfree obj t u hmeets
    exact hfree _ (hmeets.deadlocked h)
  · intro hmeets S hS
    obtain ⟨u, hu, hmap⟩ := exists_holder h hS
    obtain ⟨v, hv, hw⟩ := hS.2 u hu
    cases waitsFor h hw with
    | map _ hnot => exact hnot hmap
    | idle _ hnil =>
      rw [hnil] at hmap
      cases hmap
    | holder obj _ hwanted hdevice hne =>
      obtain ⟨w, _, hw⟩ := hS.2 v hv
      cases waitsFor h hw with
      | map hmapWanted => exact hmeets obj v u ⟨hdevice, hmapWanted, hmap, hwanted⟩
      | holder _ hmap' => exact hne (h.holder hmap' hmap)
      | idle _ hnil =>
        rw [hnil] at hdevice
        cases hdevice

/-! ## Steps -/

theorem step_disciplined (h : s.Disciplined Takes) {a : Action} (ha : Enabled s a) :
    (step s a).Disciplined Takes := by
  cases a with
  | start t operation => exact h.start ha operation.keeps
  | advance t => exact h.advance ha

theorem init_disciplined (m : ExtDeviceManager) :
    Threads.Disciplined Takes ({ shared := m } : State) where
  owner _ _ := iff_of_false nofun nofun
  leads _ := rfl
  stack _ := .nil

/-- A thread that starts holds no mutex. -/
theorem start_meets (h : s.Disciplined Takes) (hdone : (s.prog t).isDone = true)
    {p : Code Unit} {v : Nat} (hmeets : Meets (s.start t p) obj u v) : Meets s obj u v := by
  have hnil : s.held t = [] := h.held_of_isDone hdone
  have hne : ∀ w l, l ∈ s.held w → w ≠ t := by
    rintro w l hmem rfl
    rw [hnil] at hmem
    cases hmem
  have hu := hne u _ hmeets.device
  have hv := hne v _ hmeets.holder
  refine ⟨hmeets.device, ?_, hmeets.holder, ?_⟩
  · rw [← hmeets.map, Threads.start_prog_ne hu]
  · rw [← hmeets.wanted, Threads.start_prog_ne hv]

/-- A step keeps the threads from meeting exactly where it is kept. -/
theorem advance_meets_iff (h : s.Disciplined Takes) (ht : s.CanAdvance Mutex.recursive t)
    (hs : ∀ obj u v, ¬Meets s obj u v) :
    (∀ obj u v, ¬Meets (s.advance t) obj u v) ↔ Kept s (.advance t) := by
  have hnext := h.next ht
  constructor
  · intro hmeets
    unfold Kept
    dsimp only
    split
    · rename_i obj hwanted
      intro hmap u hu hne hother
      have hdevice := (h.owner _ _).mp hu
      refine hmeets obj u t ⟨?_, ?_, ?_, ?_⟩
      · rwa [Threads.advance_held_ne hne]
      · rwa [Threads.advance_prog_ne hne]
      · rwa [Threads.advance_held_self]
      · rwa [Threads.advance_prog_self]
    · rename_i hwanted
      intro l hl u hu hne hother
      have hmap := (h.owner _ _).mp hu
      rcases (hnext.1.allowed hwanted).deviceMap_cases with hnil | ⟨obj, hheld⟩
      · rw [hnil] at hl
        cases hl
      · obtain rfl := List.mem_singleton.mp (hheld ▸ hl)
        refine hmeets obj t u ⟨?_, ?_, ?_, ?_⟩
        · rwa [Threads.advance_held_self]
        · rwa [Threads.advance_prog_self]
        · rwa [Threads.advance_held_ne hne]
        · rwa [Threads.advance_prog_ne hne]
    · trivial
  · intro hkept obj u v hmeets
    obtain ⟨hdevice, hmap, hholder, hwanted⟩ := hmeets
    by_cases hu : u = t
    · subst hu
      have hv : v ≠ u := (Meets.mk hdevice hmap hholder hwanted).ne.symm
      rw [Threads.advance_held_self] at hdevice
      rw [Threads.advance_prog_self] at hmap
      rw [Threads.advance_held_ne hv] at hholder
      rw [Threads.advance_prog_ne hv] at hwanted
      dsimp only [Kept] at hkept
      rw [hmap] at hkept
      exact hkept _ hdevice v ((h.owner _ _).mpr hholder) hv hwanted
    · rw [Threads.advance_held_ne hu] at hdevice
      rw [Threads.advance_prog_ne hu] at hmap
      by_cases hv : v = t
      · subst hv
        rw [Threads.advance_held_self] at hholder
        rw [Threads.advance_prog_self] at hwanted
        dsimp only [Kept] at hkept
        rw [hwanted] at hkept
        exact hkept hholder u ((h.owner _ _).mpr hdevice) hu hmap
      · rw [Threads.advance_held_ne hv] at hholder
        rw [Threads.advance_prog_ne hv] at hwanted
        exact hs obj u v ⟨hdevice, hmap, hholder, hwanted⟩

theorem step_deadlockFree_iff (h : s.Disciplined Takes) (hs : DeadlockFree s) {a : Action}
    (ha : Enabled s a) : DeadlockFree (step s a) ↔ Kept s a := by
  have hmeets := (deadlockFree_iff h).mp hs
  rw [deadlockFree_iff (step_disciplined h ha)]
  cases a with
  | start t operation =>
    refine iff_of_true ?_ trivial
    intro obj u v hmeets'
    exact hmeets obj u v (start_meets h ha hmeets')
  | advance t => exact advance_meets_iff h ha hmeets

/-- A run has no deadlock exactly when no thread ever goes for the mutex of the device map, or with it
for that of a device, while another thread goes the other way. -/
theorem deadlockFree_iff_kept (driverChangeCallback : Bool) (as : List Action)
    (h : (machine driverChangeCallback).Runs as) :
    (machine driverChangeCallback).Throughout DeadlockFree (machine driverChangeCallback).init as ↔
      (machine driverChangeCallback).Along Kept (machine driverChangeCallback).init as := by
  have hinit : (machine driverChangeCallback).init.Disciplined Takes := init_disciplined _
  refine Machine.throughout_iff_along (fun _ _ hs ha => step_disciplined hs ha)
    (fun _ _ hs hfree ha => step_deadlockFree_iff hs hfree ha) hinit ?_ h
  refine (deadlockFree_iff hinit).mpr ?_
  intro obj t u hmeets
  cases hmeets.device

/-- `n` steps of the thread `t`. -/
def advances (t n : Nat) : List Action := List.replicate n (.advance t)

/-- A device that is in use is unregistered by one thread, and its completion runs on another. -/
theorem deadlockFree_of_one_device :
    (machine true).Throughout DeadlockFree (machine true).init
      (.start 0 (.registerDevice System.replies 1) :: advances 0 15 ++
        .start 1 (.onConnect 0 (some 7) 0) :: advances 1 3 ++
        .start 0 (.unRegisterDevice System.replies 1) :: advances 0 13 ++
        .start 1 (.onDisconnect System.replies 0 0) :: advances 1 8) :=
  (deadlockFree_iff_kept true _ (by decide)).mpr (by decide)

/-- A client binds while the completion of the unregistered device is on its way to the device map. -/
theorem not_forall_deadlockFree :
    ¬∀ driverChangeCallback as, (machine driverChangeCallback).Runs as →
      (machine driverChangeCallback).Throughout DeadlockFree (machine driverChangeCallback).init
        as := by
  intro h
  have hlast := (h true (.start 0 (.registerDevice System.replies 1) :: advances 0 15 ++
    .start 0 (.onConnect 0 (some 7) 0) :: advances 0 3 ++
    .start 0 (.unRegisterDevice System.replies 1) :: advances 0 13 ++
    .start 1 (.onDisconnect System.replies 0 0) :: advances 1 3 ++
    .start 0 (.connectDevice System.replies 1 101 (some ⟨1⟩)) :: advances 0 2) (by decide)).last
  apply hlast {0, 1}
  refine ⟨⟨0, .inl rfl⟩, ?_⟩
  rintro t (rfl | rfl)
  · exact ⟨1, .inr rfl, .device 0, by decide, by decide, nofun⟩
  · exact ⟨0, .inl rfl, .deviceMap, by decide, by decide, nofun⟩

end ExtDevMgr.Manager.Locking
