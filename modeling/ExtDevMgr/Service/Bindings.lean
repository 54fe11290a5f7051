import ExtDevMgr.Manager.Clients
import ExtDevMgr.Service.Requests

/-!
# Bindings

A client is told about a device, and given its driver, only while a binding is open: it has bound the
device with a permission, its driver admitting it where it has asked for the driver, and since then
neither has a connection of the device been closed nor has the client died (`told_bound`).
-/

namespace ExtDevMgr.Service
open Manager Manager.ExtDeviceManager Manager.ExtPermissionManager Outside

/-- The request binds the callback to the device `id`, which is the object `obj`. -/
def Binds (callback : DriverExtMgrCallback) (id : DeviceId) (obj : Nat) (s : System) : Action → Prop
  | .request t c (.bindDevice _ deviceId connectCallback) =>
    verifyPermission t c.tokenId permissionName = true ∧ deviceId = id ∧
      connectCallback = some callback ∧ s.manager.deviceMap.lookup id = some obj
  | .request t c (.bindDriverWithDeviceId _ access deviceId connectCallback) =>
    verifyPermission t c.tokenId accessDdkDriversPermission = true ∧ deviceId = id ∧
      connectCallback = some callback ∧ s.manager.deviceMap.lookup id = some obj ∧
      checkAccessPermission access (s.manager.objects obj).driverInfo (accessibleAppIds t c.tokenId)
        c.tokenId = .edmOk
  | _ => False

/-- A connection of the device is closed, or the client dies. -/
def Closes (callback : DriverExtMgrCallback) (obj : Nat) : Action → Prop
  | .internal (.onDisconnect _ o _) => o = obj
  | .internal (.remoteDied o object) => o = obj ∧ object = callback.asObject
  | _ => False

/-- A completion of the device tells its callbacks. -/
def Completes (obj : Nat) : Action → Prop
  | .internal (.onConnect o _ _) => o = obj
  | .internal (.onDisconnect _ o _) => o = obj
  | _ => False

section
variable (records : DeviceRecords) (driverChangeCallback : Bool)

/-- The callback has a binding that has not been closed. -/
def Open (callback : DriverExtMgrCallback) (id : DeviceId) (obj : Nat) (as : List Action) : Prop :=
  (machine records driverChangeCallback).Since (Binds callback id obj) (Closes callback obj) as

/-- Every callback of a device has an open binding. -/
structure Bound (as : List Action) (m : ExtDeviceManager) : Prop where
  one : ∀ obj, (m.objects obj).callbacks.length ≤ 1
  isOpen : ∀ obj, ∀ callback ∈ (m.objects obj).callbacks,
    Open records driverChangeCallback callback (m.objects obj).info obj as

end

variable {records : DeviceRecords} {driverChangeCallback : Bool} {as : List Action} {a : Action}
  {m m' : ExtDeviceManager} {s : System} {obj : Nat}

theorem Bound.withOut (h : Bound records driverChangeCallback as m) (out : Outside) :
    Bound records driverChangeCallback as { m with out } := ⟨h.one, h.isOpen⟩

/-! ## Operations that bind nobody -/

theorem Bound.silent (h : Bound records driverChangeCallback as m) (hm : Silent m m')
    (ha : ∀ callback obj, ¬ Closes callback obj a) :
    Bound records driverChangeCallback (as ++ [a]) m' := by
  refine ⟨fun obj => ?_, fun obj callback hmem => ?_⟩
  · rcases hm.objects obj with hnone | hsame
    · rw [hnone]
      exact Nat.zero_le 1
    · rw [hsame.callbacks]
      exact h.one obj
  · rcases hm.objects obj with hnone | hsame
    · rw [hnone] at hmem
      cases hmem
    · rw [hsame.callbacks] at hmem
      rw [hsame.info]
      exact (h.isOpen obj callback hmem).step (ha callback obj)

/-- Where one device loses callbacks and the others keep theirs. -/
theorem Bound.setDevice (h : Bound records driverChangeCallback as m) {d : Device}
    (hinfo : d.info = (m.objects obj).info)
    (hsub : d.callbacks.Sublist (m.objects obj).callbacks)
    (ha : ∀ callback o, Closes callback o a → o = obj ∧ callback ∉ d.callbacks) :
    Bound records driverChangeCallback (as ++ [a]) (m.setDevice obj d) := by
  refine ⟨fun o => ?_, fun o callback hmem => ?_⟩
  · by_cases ho : o = obj
    · rw [ho, setDevice_self]
      exact hsub.length_le.trans (h.one obj)
    · rw [setDevice_ne d ho]
      exact h.one o
  · by_cases ho : o = obj
    · subst ho
      rw [setDevice_self] at hmem ⊢
      rw [hinfo]
      exact (h.isOpen o callback (hsub.subset hmem)).step fun hcloses => (ha callback o hcloses).2 hmem
    · rw [setDevice_ne d ho] at hmem ⊢
      exact (h.isOpen o callback hmem).step fun hcloses => ho (ha callback o hcloses).1

theorem not_closes_request {t : TokenReplies} {c : Caller} {q : Request}
    (callback : DriverExtMgrCallback) (obj : Nat) : ¬ Closes callback obj (.request t c q) := id

theorem Bound.onConnect (h : Bound records driverChangeCallback as m) (remote : Option Nat)
    (code : Int) :
    Bound records driverChangeCallback (as ++ [.internal (.onConnect obj remote code)])
      (m.onConnect obj remote code) := by
  refine (h.setDevice (d := ((m.objects obj).onConnect remote code m.out).1) rfl (.refl _)
    ?_).withOut _
  intro callback o hcloses
  exact hcloses.elim

theorem Bound.onDisconnect (h : Bound records driverChangeCallback as m) (r : Replies) (code : Int) :
    Bound records driverChangeCallback (as ++ [.internal (.onDisconnect r obj code)])
      (m.onDisconnect obj code) := by
  refine (h.setDevice (d := ((m.objects obj).onDisconnect code m.out).1) rfl (List.nil_sublist _)
    ?_).withOut _
  rintro callback o rfl
  exact ⟨rfl, List.not_mem_nil⟩

/-- The one callback of the device is that of the client. -/
theorem Bound.remoteDied (h : Bound records driverChangeCallback as m) (object : Nat) :
    Bound records driverChangeCallback (as ++ [.internal (.remoteDied obj object)])
      (m.remoteDied obj object) := by
  refine h.setDevice rfl List.eraseP_sublist ?_
  rintro callback o ⟨rfl, rfl⟩
  refine ⟨rfl, fun hmem => ?_⟩
  have hone := h.one obj
  have hmem : callback ∈ (m.objects obj).callbacks.eraseP fun element =>
    element.asObject = callback.asObject := hmem
  cases hcallbacks : (m.objects obj).callbacks with
  | nil =>
    rw [hcallbacks] at hmem
    cases hmem
  | cons element rest =>
    rw [hcallbacks, List.length_cons] at hone
    have hrest : rest = [] := List.eq_nil_of_length_eq_zero (by omega)
    rw [hcallbacks, hrest] at hmem
    have heq : callback = element := List.mem_singleton.1 (List.mem_of_mem_eraseP hmem)
    have hnone : [element].eraseP (fun element => element.asObject = callback.asObject) = [] :=
      List.eraseP_cons_of_pos (decide_eq_true (heq ▸ rfl))
    rw [hnone] at hmem
    cases hmem

/-! ## Binds -/

theorem Bound.bind (h : Bound records driverChangeCallback as m) {d : Device}
    {connectCallback : Option DriverExtMgrCallback} (hinfo : d.info = (m.objects obj).info)
    (hsub : d.callbacks.Sublist
      (connectCallback.elim (m.objects obj).callbacks (m.objects obj).inserted))
    (hbinds : ∀ callback, connectCallback = some callback →
      Open records driverChangeCallback callback (m.objects obj).info obj (as ++ [a]))
    (ha : ∀ callback obj, ¬ Closes callback obj a) :
    Bound records driverChangeCallback (as ++ [a]) (m.setDevice obj d) := by
  have hkept (hsub : d.callbacks.Sublist (m.objects obj).callbacks) :
      Bound records driverChangeCallback (as ++ [a]) (m.setDevice obj d) :=
    h.setDevice hinfo hsub fun callback o hcloses => (ha callback o hcloses).elim
  cases connectCallback with
  | none => exact hkept hsub
  | some callback =>
    rw [Option.elim_some, Device.inserted] at hsub
    split at hsub
    · refine ⟨fun o => ?_, fun o callback' hmem => ?_⟩
      · by_cases ho : o = obj
        · rw [ho, setDevice_self]
          exact hsub.length_le
        · rw [setDevice_ne d ho]
          exact h.one o
      · by_cases ho : o = obj
        · subst ho
          rw [setDevice_self] at hmem ⊢
          rw [hinfo, List.mem_singleton.1 (hsub.subset hmem)]
          exact hbinds callback rfl
        · rw [setDevice_ne d ho] at hmem ⊢
          exact (h.isOpen o callback' hmem).step (ha callback' o)
    · exact hkept hsub

/-- The state that the run leads to. -/
abbrev stateAfter (records : DeviceRecords) (driverChangeCallback : Bool) (as : List Action) : System :=
  (machine records driverChangeCallback).run (machine records driverChangeCallback).init as

theorem Bound.connectWith {id : DeviceId} {connectCallback : Option DriverExtMgrCallback}
    (h : Bound records driverChangeCallback as (stateAfter records driverChangeCallback as).manager)
    (hinfo : ((stateAfter records driverChangeCallback as).manager.objects obj).info = id)
    (hbinds : ∀ callback, connectCallback = some callback →
      Binds callback id obj (stateAfter records driverChangeCallback as) a)
    (ha : ∀ callback obj, ¬ Closes callback obj a) (r : DeviceReplies) (token : UInt32) :
    Bound records driverChangeCallback (as ++ [a])
      ((stateAfter records driverChangeCallback as).manager.runDevice obj
        (Device.connectWith r connectCallback token)).2 := by
  refine (h.bind (Device.connectWith_sameDriver _ _).info (Device.connectWith_callbacks _ _)
    (fun callback hcallback => ?_) ha).withOut _
  rw [hinfo]
  exact Machine.since_last (hbinds callback hcallback)

/-- A request binds the callback that it gives, or nobody. -/
theorem Bound.request
    (h : Bound records driverChangeCallback as (stateAfter records driverChangeCallback as).manager)
    (hs : (stateAfter records driverChangeCallback as).WellFormed) (t : TokenReplies) (c : Caller)
    (q : Request) :
    Bound records driverChangeCallback (as ++ [.request t c q])
      (serve records t c (stateAfter records driverChangeCallback as).manager q).2 := by
  have hsilent {m' : ExtDeviceManager}
      (hm : Silent (stateAfter records driverChangeCallback as).manager m') :
      Bound records driverChangeCallback (as ++ [.request t c q]) m' :=
    h.silent hm not_closes_request
  cases q with
  | queryDevice busType => exact hsilent (.refl _)
  | queryDeviceInfo deviceId => exact hsilent (.refl _)
  | bindDevice r deviceId connectCallback =>
    rw [serve, bindDevice]
    cases hperm : verifyPermission t c.tokenId permissionName with
    | false => exact hsilent (.refl _)
    | true =>
      rw [if_neg (by decide), ExtDeviceManager.connectDevice, queryDeviceByDeviceID]
      cases hid : (stateAfter records driverChangeCallback as).manager.deviceMap.lookup deviceId with
      | none => exact hsilent (.refl _)
      | some obj =>
        refine h.connectWith (hs.info hid) ?_ not_closes_request _ _
        exact fun callback hcallback => ⟨hperm, rfl, hcallback, hid⟩
  | unBindDevice r deviceId =>
    rw [serve, unBindDevice]
    split
    case isTrue => exact hsilent (.refl _)
    case isFalse => exact hsilent (disConnectDevice_silent _ _)
  | bindDriverWithDeviceId r access deviceId connectCallback =>
    rw [serve, bindDriverWithDeviceId, Manager.bindDriverWithDeviceId]
    cases hperm : verifyPermission t c.tokenId accessDdkDriversPermission with
    | false => exact hsilent (.refl _)
    | true =>
      rw [if_neg (by decide), connectDriverWithDeviceId, queryDeviceByDeviceID]
      cases hid : (stateAfter records driverChangeCallback as).manager.deviceMap.lookup deviceId with
      | none => exact hsilent (.refl _)
      | some obj =>
        dsimp only
        split
        case isTrue => exact hsilent (.refl _)
        case isFalse haccess =>
          refine h.connectWith (hs.info hid) ?_ not_closes_request _ _
          exact fun callback hcallback => ⟨hperm, rfl, hcallback, hid, not_not.1 haccess⟩
  | unBindDriverWithDeviceId r deviceId =>
    rw [serve, unBindDriverWithDeviceId]
    split
    case isTrue => exact hsilent (.refl _)
    case isFalse => exact hsilent (disConnectDriverWithDeviceId_silent _ _)

/-! ## Runs -/

theorem Bound.internal (h : Bound records driverChangeCallback as s.manager) (a : Manager.Action)
    (ha : isInternal a = true) :
    Bound records driverChangeCallback (as ++ [.internal a]) (s.step a).manager := by
  have hsilent (hclose : ∀ callback obj, ¬ Closes callback obj (.internal a)) (hs : a.IsSilent) :
      Bound records driverChangeCallback (as ++ [.internal a]) (s.step a).manager :=
    h.silent (s.step_silent hs) hclose
  cases a with
  | onConnect obj remote code => exact h.onConnect remote code
  | remoteDied obj object => exact h.remoteDied object
  | onDisconnect r obj code =>
    have hdone : Bound records driverChangeCallback (as ++ [.internal (.onDisconnect r obj code)])
        (s.manager.onDisconnect obj code) := h.onDisconnect r code
    rw [System.step, System.onDisconnect]
    split
    · exact hdone
    · exact hdone.withOut _
  | registerDevice => exact hsilent (fun _ _ => id) trivial
  | unRegisterDevice => exact hsilent (fun _ _ => id) trivial
  | onBundlesUpdated => exact hsilent (fun _ _ => id) trivial
  | clearMatchedDrivers => exact hsilent (fun _ _ => id) trivial
  | removeDeviceOfDeviceMap => exact hsilent (fun _ _ => id) trivial
  | connectDevice => cases ha
  | connectDriverWithDeviceId => cases ha
  | disConnectDevice => cases ha
  | disConnectDriverWithDeviceId => cases ha

theorem stateAfter_append (as : List Action) (a : Action) :
    stateAfter records driverChangeCallback (as ++ [a]) =
      step records (stateAfter records driverChangeCallback as) a := Machine.run_append _ as [a]

theorem run_bound (hrun : (machine records driverChangeCallback).Runs as) :
    Bound records driverChangeCallback as (stateAfter records driverChangeCallback as).manager := by
  refine Machine.run_induction (P := fun as => Bound records driverChangeCallback as
    (stateAfter records driverChangeCallback as).manager) ?_ ?_ hrun
  · exact ⟨fun _ => Nat.zero_le 1, fun _ _ hmem => absurd hmem List.not_mem_nil⟩
  · intro as a has h ha
    rw [stateAfter_append]
    cases a with
    | request t c q => exact h.request (run_wellFormed has) t c q
    | internal a => exact h.internal a ha.1

/-! ## What clients are told -/

/-- What a step adds to the log tells only those clients whom the added events may tell. -/
theorem tells_of_newEvents {p : DriverExtMgrCallback → DeviceId → Bool} {o o' : Outside}
    (h : Emits (Event.tells p) o o') {e : Event} (he : e ∈ newEvents o o')
    {callback : DriverExtMgrCallback} {id : DeviceId} (hclient : e.client = some (callback, id)) :
    p callback id = true := by
  obtain ⟨es, hlog, hes⟩ := h
  rw [newEvents_eq hlog] at he
  have htells := hes e he
  rwa [Event.tells, hclient, Option.all_some] at htells

theorem not_tells_of_silent {o o' : Outside} (h : Emits Event.silent o o') {e : Event}
    (he : e ∈ newEvents o o') {callback : DriverExtMgrCallback} {id : DeviceId}
    (hclient : e.client = some (callback, id)) : False := by
  have hfalse := tells_of_newEvents (p := fun _ _ => false) (h.mono Event.tells_of_silent) he hclient
  cases hfalse

/-- A request tells its own callback, once it is bound. -/
theorem request_told (hs : s.WellFormed) {t : TokenReplies} {c : Caller} {q : Request} {e : Event}
    (he : e ∈ newEvents s.manager.out (serve records t c s.manager q).2.out)
    {callback : DriverExtMgrCallback} {id : DeviceId} (hclient : e.client = some (callback, id)) :
    ∃ obj, Binds callback id obj s (.request t c q) := by
  have hsilent {m' : ExtDeviceManager} (hm : Emits Event.silent s.manager.out m'.out)
      (he : e ∈ newEvents s.manager.out m'.out) : ∃ obj, Binds callback id obj s (.request t c q) :=
    (not_tells_of_silent hm he hclient).elim
  cases q with
  | queryDevice busType => exact hsilent (.refl _) he
  | queryDeviceInfo deviceId => exact hsilent (.refl _) he
  | bindDevice r deviceId connectCallback =>
    rw [serve, bindDevice] at he
    cases hperm : verifyPermission t c.tokenId permissionName with
    | false =>
      rw [hperm] at he
      exact hsilent (.refl s.manager.out) he
    | true =>
      rw [hperm, if_neg (by decide), ExtDeviceManager.connectDevice, queryDeviceByDeviceID] at he
      cases hid : s.manager.deviceMap.lookup deviceId with
      | none =>
        rw [hid] at he
        exact hsilent (.refl s.manager.out) he
      | some obj =>
        rw [hid] at he
        obtain ⟨hcallback, hinfo⟩ := of_decide_eq_true
          (tells_of_newEvents (Device.connectWith_tells connectCallback c.tokenId) he hclient)
        rw [hs.info hid] at hinfo
        subst hinfo
        exact ⟨obj, hperm, rfl, hcallback, hid⟩
  | unBindDevice r deviceId =>
    rw [serve, unBindDevice] at he
    split at he
    case isTrue => exact hsilent (.refl s.manager.out) he
    case isFalse => exact hsilent (disConnectDevice_silent _ _).out he
  | bindDriverWithDeviceId r access deviceId connectCallback =>
    rw [serve, bindDriverWithDeviceId, Manager.bindDriverWithDeviceId] at he
    cases hperm : verifyPermission t c.tokenId accessDdkDriversPermission with
    | false =>
      rw [hperm] at he
      exact hsilent (.refl s.manager.out) he
    | true =>
      rw [hperm, if_neg (by decide), connectDriverWithDeviceId, queryDeviceByDeviceID] at he
      cases hid : s.manager.deviceMap.lookup deviceId with
      | none =>
        rw [hid] at he
        exact hsilent (.refl s.manager.out) he
      | some obj =>
        rw [hid] at he
        dsimp only at he
        split at he
        case isTrue => exact hsilent (.refl s.manager.out) he
        case isFalse haccess =>
          obtain ⟨hcallback, hinfo⟩ := of_decide_eq_true
            (tells_of_newEvents (Device.connectWith_tells connectCallback c.tokenId) he hclient)
          rw [hs.info hid] at hinfo
          subst hinfo
          exact ⟨obj, hperm, rfl, hcallback, hid, not_not.1 haccess⟩
  | unBindDriverWithDeviceId r deviceId =>
    rw [serve, unBindDriverWithDeviceId] at he
    split at he
    case isTrue => exact hsilent (.refl s.manager.out) he
    case isFalse => exact hsilent (disConnectDriverWithDeviceId_silent _ _).out he

/-- Any other operation that tells somebody is a completion, and tells the callbacks of its device. -/
theorem internal_told {a : Manager.Action} (ha : isInternal a = true) {e : Event}
    (he : e ∈ newEvents s.manager.out (s.step a).manager.out) {callback : DriverExtMgrCallback}
    {id : DeviceId} (hclient : e.client = some (callback, id)) :
    ∃ obj, Completes obj (.internal a) ∧ callback ∈ (s.manager.objects obj).callbacks ∧
      id = (s.manager.objects obj).info := by
  have hsilent (hs : a.IsSilent) : ∃ obj, Completes obj (.internal a) ∧
      callback ∈ (s.manager.objects obj).callbacks ∧ id = (s.manager.objects obj).info :=
    (not_tells_of_silent (s.step_silent hs).out he hclient).elim
  cases a with
  | onConnect obj remote code =>
    exact ⟨obj, rfl, of_decide_eq_true
      (tells_of_newEvents (Device.onConnect_tells remote code) he hclient)⟩
  | remoteDied obj object => exact (not_tells_of_silent (.refl s.manager.out) he hclient).elim
  | onDisconnect r obj code =>
    have hdisc := Device.onDisconnect_tells (d := s.manager.objects obj) (o := s.manager.out) code
    have htells : Emits (Event.tells fun callback id =>
        callback ∈ (s.manager.objects obj).callbacks ∧ id = (s.manager.objects obj).info)
        s.manager.out (s.step (.onDisconnect r obj code)).manager.out := by
      rw [System.step, System.onDisconnect]
      split
      · exact hdisc
      · exact hdisc.trans (stopExtension_silent.out.mono Event.tells_of_silent)
    exact ⟨obj, rfl, of_decide_eq_true (tells_of_newEvents htells he hclient)⟩
  | registerDevice => exact hsilent trivial
  | unRegisterDevice => exact hsilent trivial
  | onBundlesUpdated => exact hsilent trivial
  | clearMatchedDrivers => exact hsilent trivial
  | removeDeviceOfDeviceMap => exact hsilent trivial
  | connectDevice => cases ha
  | connectDriverWithDeviceId => cases ha
  | disConnectDevice => cases ha
  | disConnectDriverWithDeviceId => cases ha

/-- **Clients are told while a binding is open.** Whatever a step of a run tells a client about a
device, the step is a bind of that client that is granted, or a completion of a device that the client
has bound before by a granted request, without a close since then. -/
theorem told_bound (records : DeviceRecords) (driverChangeCallback : Bool) (as : List Action)
    (a : Action) (hrun : (machine records driverChangeCallback).Runs (as ++ [a])) (e : Event)
    (he : e ∈ newEvents (stateAfter records driverChangeCallback as).manager.out
      (stateAfter records driverChangeCallback (as ++ [a])).manager.out)
    (callback : DriverExtMgrCallback) (id : DeviceId) (hclient : e.client = some (callback, id)) :
    ∃ obj, Binds callback id obj (stateAfter records driverChangeCallback as) a ∨
      Completes obj a ∧ Open records driverChangeCallback callback id obj as := by
  obtain ⟨has, ha, -⟩ := Machine.along_append.1 hrun
  rw [stateAfter_append] at he
  cases a with
  | request t c q =>
    obtain ⟨obj, hbinds⟩ := request_told (run_wellFormed has) he hclient
    exact ⟨obj, .inl hbinds⟩
  | internal a =>
    obtain ⟨obj, hcompletes, hmem, rfl⟩ := internal_told ha.1 he hclient
    exact ⟨obj, .inr ⟨hcompletes, (run_bound has).isOpen obj callback hmem⟩⟩

/-- The system application has bound the device, and is given its driver by the completion. -/
theorem twoBinds_told :
    ∃ obj, Binds ⟨6⟩ 1 obj (stateAfter mice true (twoBinds.take 3))
        (.internal (.onConnect 0 (some 9) 0)) ∨
      Completes obj (.internal (.onConnect 0 (some 9) 0)) ∧
        Open mice true ⟨6⟩ 1 obj (twoBinds.take 3) :=
  told_bound mice true (twoBinds.take 3) (.internal (.onConnect 0 (some 9) 0)) (by decide)
    (.onConnect (some ⟨6⟩) 1 (some 9) 0) (by decide) ⟨6⟩ 1 rfl

end ExtDevMgr.Service
