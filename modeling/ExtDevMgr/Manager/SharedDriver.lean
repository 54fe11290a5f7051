import ExtDevMgr.Manager.Connections.Launches
import ExtDevMgr.Manager.Drivers
import ExtDevMgr.Manager.Emits

/-!
# A driver that several devices share

A detach keeps a driver running while other devices use it. The end of `OnDisconnect` does not look at
the other devices: it stops the driver extension of its device whoever else is connected to it.
-/

namespace ExtDevMgr.Manager.SharedDriver
open ExtDeviceManager ExtDevMgr.Manager.System Cleanup

/-- The step calls `StopDriverExtension` for the driver. -/
def Stops (s : System) (a : Action) (bundleInfo : Name) : Prop :=
  ∃ ret, Event.stopExtensionAbility (getBundleName bundleInfo) (getAbilityName bundleInfo) (-1) ret ∈
    s.manager.out.newEvents (s.step a).manager.out

/-- The registered devices with a driver and its remote. -/
def holders (m : ExtDeviceManager) : List Nat :=
  m.queryAllDevices.filter fun obj =>
    (m.objects obj).hasDriver && (m.objects obj).drvExtRemote.isSome

/-- No disconnect completion that can reach a device in the map, nor the rest of one, stops the driver of
another registered device that holds its remote. -/
structure KeepsRunning (s : System) : Prop where
  onDisconnect : ∀ obj ∈ holders s.manager, ∀ obj', obj' ≠ obj →
    (s.manager.objects obj').hasNotifier = true →
    (s.manager.objects obj').bundleInfo = (s.manager.objects obj).bundleInfo →
    ∀ id r resultCode, s.manager.deviceMap.lookup id = some obj' →
      ¬Stops s (.onDisconnect r obj' resultCode) (s.manager.objects obj).bundleInfo
  removeDeviceOfDeviceMap : ∀ obj ∈ holders s.manager, ∀ obj', obj' ≠ obj →
    (s.manager.objects obj').bundleInfo = (s.manager.objects obj).bundleInfo →
    ∀ r, obj' ∈ s.pending →
      ¬Stops s (.removeDeviceOfDeviceMap r obj') (s.manager.objects obj).bundleInfo

/-- The devices whose completion ends with `StopDriverExtension`: the registered ones that it can reach,
and those that wait to leave the map. -/
def stoppers (s : System) : List Nat :=
  (s.manager.queryAllDevices.filter fun obj => (s.manager.objects obj).hasNotifier) ++ s.pending

/-- None of them has the driver of another device that holds its remote. -/
def Apart (s : System) : Prop :=
  ∀ obj ∈ holders s.manager, ∀ obj' ∈ stoppers s, obj' ≠ obj →
    (s.manager.objects obj').bundleInfo ≠ (s.manager.objects obj).bundleInfo

/-- No device holds the remote of the driver. -/
def Unheld (m : ExtDeviceManager) (bundleInfo : Name) : Prop :=
  ∀ o ∈ holders m, (m.objects o).bundleInfo ≠ bundleInfo

instance (m : ExtDeviceManager) (bundleInfo : Name) : Decidable (Unheld m bundleInfo) :=
  inferInstanceAs (Decidable (∀ o ∈ _, _))

variable {s s' : System} {m m' : ExtDeviceManager} {id : DeviceId} {obj : Nat} {r : Replies}

theorem mem_holders : obj ∈ holders m ↔ obj ∈ m.queryAllDevices ∧
    (m.objects obj).bundleInfo ≠ [] ∧ (m.objects obj).drvExtRemote.isSome = true := by
  rw [holders, List.mem_filter, Bool.and_eq_true, Device.hasDriver, decide_eq_true_eq]

theorem mem_stoppers : obj ∈ stoppers s ↔
    (obj ∈ s.manager.queryAllDevices ∧ (s.manager.objects obj).hasNotifier = true) ∨
      obj ∈ s.pending := by
  rw [stoppers, List.mem_append, List.mem_filter]

/-! ## Completions -/

theorem stopExtension_log : (m.stopExtension System.replies obj).out.log =
    .stopExtensionAbility (getBundleName (m.objects obj).bundleInfo)
      (getAbilityName (m.objects obj).bundleInfo) (-1) 0 :: m.out.log := rfl

theorem stops_remove : Stops s (.removeDeviceOfDeviceMap System.replies obj)
    (s.manager.objects obj).bundleInfo := by
  have hnew : s.manager.out.newEvents
      (s.step (.removeDeviceOfDeviceMap System.replies obj)).manager.out =
        [.stopExtensionAbility (getBundleName (s.manager.objects obj).bundleInfo)
          (getAbilityName (s.manager.objects obj).bundleInfo) (-1) 0] :=
    Outside.newEvents_eq stopExtension_log
  refine ⟨0, ?_⟩
  rw [hnew]
  exact List.mem_singleton_self _

theorem stops_onDisconnect (hflag : (s.manager.objects obj).isUnRegisted = false) :
    Stops s (.onDisconnect System.replies obj 0) (s.manager.objects obj).bundleInfo := by
  have hdriver : Device.SameDriver (s.manager.objects obj)
      ((s.manager.onDisconnect obj 0).objects obj) := (onDisconnect_keepsDriver 0).sameDriver
  have hstep : s.step (.onDisconnect System.replies obj 0) =
      { s with manager := (s.manager.onDisconnect obj 0).stopExtension System.replies obj } := by
    refine if_neg ?_
    rw [hdriver.isUnRegisted, hflag]
    exact Bool.false_ne_true
  obtain ⟨es, hlog, -⟩ : Outside.Emits Event.ofDevice s.manager.out
      (s.manager.onDisconnect obj 0).out := Device.onDisconnect_emits 0
  have hstop : ((s.manager.onDisconnect obj 0).stopExtension System.replies obj).out.log = _ :: _ :=
    stopExtension_log
  rw [hlog, ← List.cons_append] at hstop
  refine ⟨0, ?_⟩
  rw [hstep, ← hdriver.bundleInfo, Outside.newEvents_eq hstop]
  exact List.mem_cons_self

/-- The completion of a flagged device only takes it out of the map later. -/
theorem not_stops_flagged (hflag : (s.manager.objects obj).isUnRegisted = true) (r : Replies)
    (resultCode : Int) (bundleInfo : Name) :
    ¬Stops s (.onDisconnect r obj resultCode) bundleInfo := by
  have hstep : (s.step (.onDisconnect r obj resultCode)).manager =
      s.manager.onDisconnect obj resultCode := by
    refine congrArg System.manager (if_pos ?_)
    exact (onDisconnect_keepsDriver resultCode).isUnRegisted.trans hflag
  rintro ⟨ret, hmem⟩
  rw [hstep, Outside.newEvents_eq rfl, List.mem_reverse] at hmem
  obtain ⟨callback, -, hmem⟩ := List.mem_flatMap.mp hmem
  rcases List.mem_pair.mp hmem with heq | heq
  · cases heq
  · cases heq

theorem keepsRunning_iff : KeepsRunning s ↔ Apart s := by
  constructor
  · intro h obj hobj obj' hstop hne heq
    rcases mem_stoppers.mp hstop with ⟨hquery, hnotifier⟩ | hpending
    · obtain ⟨id, hid, hflag⟩ := mem_queryAllDevices.mp hquery
      exact h.onDisconnect obj hobj obj' hne hnotifier heq id _ _ hid
        (heq ▸ stops_onDisconnect hflag)
    · exact h.removeDeviceOfDeviceMap obj hobj obj' hne heq _ hpending (heq ▸ stops_remove)
  · intro h
    constructor
    · intro obj hobj obj' hne hnotifier heq id r resultCode hid
      cases hflag : (s.manager.objects obj').isUnRegisted with
      | true => exact not_stops_flagged hflag r resultCode _
      | false =>
        have hquery : obj' ∈ s.manager.queryAllDevices := mem_queryAllDevices.mpr ⟨id, hid, hflag⟩
        exact absurd heq (h obj hobj obj' (mem_stoppers.mpr (.inl ⟨hquery, hnotifier⟩)) hne)
    · intro obj hobj obj' hne heq r hpending
      exact absurd heq (h obj hobj obj' (mem_stoppers.mpr (.inr hpending)) hne)

/-! ## Steps that let drivers and devices go -/

/-- A device keeps its driver and at most loses the remote, or loses the driver. -/
def Fades (d d' : Device) : Prop :=
  d'.bundleInfo ≠ [] → d'.bundleInfo = d.bundleInfo ∧
    (d'.drvExtRemote.isSome = true → d.drvExtRemote.isSome = true)

theorem Fades.of_eq {d d' : Device} (hbundle : d'.bundleInfo = d.bundleInfo)
    (hremote : d'.drvExtRemote.isSome = true → d.drvExtRemote.isSome = true) : Fades d d' :=
  fun _ => ⟨hbundle, hremote⟩

theorem Fades.refl (d : Device) : Fades d d := .of_eq rfl id

theorem Apart.of_fades (h : Apart s)
    (hquery : ∀ obj ∈ s'.manager.queryAllDevices, obj ∈ s.manager.queryAllDevices)
    (hpending : ∀ obj ∈ s'.pending, obj ∈ s.pending)
    (hnotifiers : SameNotifiers s.manager s'.manager)
    (hfades : ∀ obj, Fades (s.manager.objects obj) (s'.manager.objects obj)) : Apart s' := by
  intro obj hobj obj' hstop hne heq
  obtain ⟨hreg, hdriver, hremote⟩ := mem_holders.mp hobj
  obtain ⟨hbundle, hsome⟩ := hfades obj hdriver
  obtain ⟨hbundle', -⟩ := hfades obj' (heq ▸ hdriver)
  have hold : obj ∈ holders s.manager :=
    mem_holders.mpr ⟨hquery obj hreg, hbundle ▸ hdriver, hsome hremote⟩
  have hstopper : obj' ∈ stoppers s := by
    rw [mem_stoppers, hnotifiers.hasNotifier] at hstop
    exact mem_stoppers.mpr (hstop.imp (And.imp_left (hquery obj')) (hpending obj'))
  exact h obj hold obj' hstopper hne (by rw [← hbundle', heq, hbundle])

/-- A step on one connection that brings no remote. -/
theorem Apart.of_connection (h : Apart s) (hs : AtMostConnects s.manager m)
    (hnotifiers : SameNotifiers s.manager m)
    (hremote : ∀ o, (m.objects o).drvExtRemote.isSome = true →
      (s.manager.objects o).drvExtRemote.isSome = true) :
    Apart { s with manager := m } := by
  obtain ⟨obj, hkeep⟩ := hs
  refine h.of_fades (fun o ho => ?_) (fun _ => id) hnotifiers fun o =>
    .of_eq (keepsDriver_bundleInfo hkeep o) (hremote o)
  rwa [queryAllDevices_of_sameDevices hkeep.sameDevices] at ho

theorem unRegisterDevice_apart (h : Apart s) (hwf : s.WellFormed) (r : Replies) (devInfo : DeviceId) :
    Apart { s with manager := (s.manager.unRegisterDevice r devInfo).2 } := by
  cases hid : s.manager.deviceMap.lookup devInfo with
  | none =>
    rw [unRegisterDevice_absent r hid]
    exact h
  | some obj =>
    have hkeyed : s.manager.Keyed := fun _ _ => hwf.info
    obtain ⟨hbundle, -⟩ := MatchMap.unRegisterDevice_spec (r := r) hkeyed hid
    refine h.of_fades ?_ (fun _ => id) (unRegisterDevice_sameNotifiers devInfo) fun o =>
      .of_eq ?_ ?_
    · intro o ho
      rw [queryAllDevices_of_sameDevices (unRegisterDevice_found r hid)] at ho
      exact ((mem_queryAllDevices_detachDevice hkeyed hid).mp ho).2
    · rw [hbundle, detachDevice_bundleInfo]
    · rw [unRegisterDevice_drvExtRemote]
      exact id

theorem removeDeviceOfDeviceMap_apart (h : Apart s) (r : Replies) (obj : Nat) :
    Apart (s.step (.removeDeviceOfDeviceMap r obj)) := by
  have herase : SameNotifiers s.manager (s.manager.removeDeviceOfDeviceMap obj) :=
    .of_objects rfl rfl rfl
  refine h.of_fades (fun o ho => ?_) (fun _ => List.mem_of_mem_erase)
    (herase.trans stopExtension_sameNotifiers) fun _ => .refl _
  change o ∈ (s.manager.removeDeviceOfDeviceMap obj).queryAllDevices at ho
  exact erase_queryAllDevices ho

theorem clearMatchedDrivers_apart (h : Apart s) (hwf : s.WellFormed) (r : Replies) (userId : Int)
    {order : List DeviceId} (horder : order.Perm s.manager.deviceMap.keys) :
    Apart { s with manager := s.manager.clearMatchedDrivers r userId order } := by
  refine h.of_fades ?_ (fun _ => id) (clearMatchedDrivers_sameNotifiers userId order) ?_
  · intro o ho
    rwa [queryAllDevices_of_sameDevices (clearMatchedDrivers_sameDevices userId order)] at ho
  · intro o
    rcases clearMatchedDrivers_objects (r := r) userId (fun _ _ => hwf.info) horder o with heq | heq
    · exact heq ▸ .refl _
    · intro hdriver
      change ((s.manager.clearMatchedDrivers r userId order).objects o).bundleInfo ≠ [] at hdriver
      rw [heq, forgotten_bundleInfo] at hdriver
      exact absurd rfl hdriver

/-! ## Completions of a connection -/

theorem onConnect_apart_iff (h : Apart s) (obj remote : Nat) (resultCode : Int) :
    Apart { s with manager := s.manager.onConnect obj (some remote) resultCode } ↔
      (obj ∈ s.manager.queryAllDevices → (s.manager.objects obj).bundleInfo ≠ [] →
        ∀ obj' ∈ stoppers s, obj' ≠ obj →
          (s.manager.objects obj').bundleInfo ≠ (s.manager.objects obj).bundleInfo) := by
  have hkeep : KeepsDriver obj s.manager (s.manager.onConnect obj (some remote) resultCode) :=
    onConnect_keepsDriver (some remote) resultCode
  have hquery := queryAllDevices_of_sameDevices hkeep.sameDevices
  have hbundle := keepsDriver_bundleInfo hkeep
  have hstoppers (o : Nat) :
      o ∈ stoppers { s with manager := s.manager.onConnect obj (some remote) resultCode } ↔
        o ∈ stoppers s := by
    rw [mem_stoppers, mem_stoppers, hquery, (onConnect_sameNotifiers _ _).hasNotifier]
  have hremote : ((s.manager.onConnect obj (some remote) resultCode).objects obj).drvExtRemote =
      some remote := congrArg Device.drvExtRemote (setDevice_self _)
  unfold Apart
  simp only [hstoppers, hbundle]
  constructor
  · intro hall hreg hdriver
    apply hall obj
    rw [mem_holders, hquery, hbundle, hremote]
    exact ⟨hreg, hdriver, rfl⟩
  · intro hkept o ho obj' hstop hne
    obtain ⟨hreg, hdriver, hsome⟩ := mem_holders.mp ho
    rw [hquery] at hreg
    rw [hbundle] at hdriver
    by_cases heq : o = obj
    · subst heq
      exact hkept hreg hdriver obj' hstop hne
    · rw [hkeep.objects o heq] at hsome
      exact h o (mem_holders.mpr ⟨hreg, hdriver, hsome⟩) obj' hstop hne

theorem setDevice_isSome {d : Device}
    (hd : d.drvExtRemote.isSome = true → (m.objects obj).drvExtRemote.isSome = true) (o : Nat)
    (h : ((m.setDevice obj d).objects o).drvExtRemote.isSome = true) :
    (m.objects o).drvExtRemote.isSome = true := by
  by_cases ho : o = obj
  · rw [ho, setDevice_self] at h
    exact ho ▸ hd h
  · rwa [setDevice_ne _ ho] at h

theorem onConnect_none_drvExtRemote (obj : Nat) (resultCode : Int) (o : Nat)
    (h : ((m.onConnect obj none resultCode).objects o).drvExtRemote.isSome = true) :
    (m.objects o).drvExtRemote.isSome = true :=
  setDevice_isSome (d := ((m.objects obj).onConnect none resultCode m.out).1) Bool.noConfusion o h

theorem remoteDied_drvExtRemote (obj object : Nat) (o : Nat)
    (h : ((m.remoteDied obj object).objects o).drvExtRemote.isSome = true) :
    (m.objects o).drvExtRemote.isSome = true :=
  setDevice_isSome (d := (m.objects obj).unregisterDrvExtMgrCallback object) id o h

theorem onDisconnect_atMostConnects (obj : Nat) (resultCode : Int) :
    AtMostConnects m (m.onDisconnect obj resultCode) :=
  ⟨obj, onDisconnect_keepsDriver resultCode⟩

theorem onDisconnect_drvExtRemote (obj : Nat) (resultCode : Int) (o : Nat)
    (h : ((m.onDisconnect obj resultCode).objects o).drvExtRemote.isSome = true) :
    (m.objects o).drvExtRemote.isSome = true :=
  setDevice_isSome (d := ((m.objects obj).onDisconnect resultCode m.out).1) Bool.noConfusion o h

/-- A flagged device joins the devices that wait to leave the map. -/
theorem onDisconnect_apart_iff (h : Apart s) (r : Replies) (obj : Nat) (resultCode : Int) :
    Apart (s.step (.onDisconnect r obj resultCode)) ↔
      ((s.manager.objects obj).isUnRegisted = true →
        Unheld s.manager (s.manager.objects obj).bundleInfo) := by
  have hdisc : Apart { s with manager := s.manager.onDisconnect obj resultCode } :=
    h.of_connection (onDisconnect_atMostConnects obj resultCode)
      (onDisconnect_sameNotifiers resultCode) (onDisconnect_drvExtRemote obj resultCode)
  have hkeep : KeepsDriver obj s.manager (s.manager.onDisconnect obj resultCode) :=
    onDisconnect_keepsDriver resultCode
  have hflag' : ((s.manager.onDisconnect obj resultCode).objects obj).isUnRegisted =
      (s.manager.objects obj).isUnRegisted := hkeep.sameDriver.isUnRegisted
  simp only [step, System.onDisconnect, hflag']
  cases hflag : (s.manager.objects obj).isUnRegisted with
  | false =>
    apply iff_of_true
    · exact hdisc
    · intro hfalse
      cases hfalse
  | true =>
    have hbundle := keepsDriver_bundleInfo hkeep
    have hnot {m : ExtDeviceManager} (hflag : (m.objects obj).isUnRegisted = true) {o : Nat}
        (ho : o ∈ holders m) : o ≠ obj := by
      rintro rfl
      obtain ⟨id, -, hfalse⟩ := mem_queryAllDevices.mp (mem_holders.mp ho).1
      rw [hflag] at hfalse
      cases hfalse
    constructor
    · intro hall _ o ho
      have hne := hnot hflag ho
      have ho' : o ∈ holders (s.manager.onDisconnect obj resultCode) := by
        rw [mem_holders] at ho ⊢
        rwa [queryAllDevices_of_sameDevices hkeep.sameDevices, hkeep.objects o hne]
      have hshare := hall o ho' obj (mem_stoppers.mpr (.inr List.mem_cons_self)) hne.symm
      rw [if_pos rfl, hbundle, hbundle] at hshare
      exact hshare.symm
    · intro hkept o ho obj' hstop hne
      have hneq := hnot (hflag'.trans hflag) ho
      by_cases heq : obj' = obj
      · have ho' : o ∈ holders s.manager := by
          rw [mem_holders] at ho ⊢
          rwa [if_pos rfl, queryAllDevices_of_sameDevices hkeep.sameDevices,
            hkeep.objects o hneq] at ho
        rw [if_pos rfl, heq, hbundle, hbundle]
        exact (hkept rfl o ho').symm
      · refine hdisc o ho obj' ?_ hne
        rw [mem_stoppers] at hstop ⊢
        exact hstop.imp_right fun hmem => (List.mem_cons.mp hmem).resolve_left heq

/-! ## Steps that connect a device -/

theorem ne_of_mem_holders (hremote : (m.objects obj).drvExtRemote = none) {o : Nat}
    (ho : o ∈ holders m) : o ≠ obj := by
  rintro rfl
  rw [mem_holders, hremote] at ho
  cases ho.2.2

/-- A step on one device that gives it no remote, and no other driver if it holds one. -/
theorem Apart.touch_iff (h : Apart s) (htouches : Touches obj s.manager m)
    (hremote : (m.objects obj).drvExtRemote = (s.manager.objects obj).drvExtRemote)
    (hdriver : (s.manager.objects obj).drvExtRemote.isSome = true →
      (m.objects obj).bundleInfo = (s.manager.objects obj).bundleInfo) :
    Apart { s with manager := m } ↔ (obj ∈ stoppers { s with manager := m } →
      ∀ o ∈ holders s.manager, o ≠ obj →
        (s.manager.objects o).bundleInfo ≠ (m.objects obj).bundleInfo) := by
  have hquery := queryAllDevices_of_sameDevices htouches.sameDevices
  have hbundle {o : Nat} (hsome : (s.manager.objects o).drvExtRemote.isSome = true) :
      (m.objects o).bundleInfo = (s.manager.objects o).bundleInfo := by
    by_cases heq : o = obj
    · subst heq
      exact hdriver hsome
    · rw [htouches.objects o heq]
  have hholders {o : Nat} : o ∈ holders m ↔ o ∈ holders s.manager := by
    rw [mem_holders, mem_holders, hquery, htouches.field Device.drvExtRemote hremote]
    refine and_congr_right fun _ => and_congr_left fun hsome => ?_
    rw [hbundle hsome]
  constructor
  · intro hall hstop o ho hne heq
    refine hall o (hholders.mpr ho) obj hstop hne.symm ?_
    rw [htouches.objects o hne, heq]
  · intro hkept o ho obj' hstop hne
    have hold : o ∈ holders s.manager := hholders.mp ho
    change (m.objects obj').bundleInfo ≠ (m.objects o).bundleInfo
    rw [hbundle (mem_holders.mp hold).2.2]
    by_cases heq : obj' = obj
    · subst heq
      exact (hkept hstop o hold hne.symm).symm
    · rw [mem_stoppers, hquery, htouches.objects obj' heq] at hstop
      rw [htouches.objects obj' heq]
      exact h o hold obj' (mem_stoppers.mpr hstop) hne

theorem runDevice_hasNotifier (r : DeviceReplies) (callback : Option DriverExtMgrCallback)
    (token : UInt32) :
    ((m.runDevice obj (Device.connectWith r callback token)).2.objects obj).hasNotifier = true ↔
      (m.objects obj).hasNotifier = true ∨ Detached.Renews r callback (m.objects obj) := by
  have hself : ((m.runDevice obj (Device.connectWith r callback token)).2.objects obj).notifyId =
      if Detached.Renews r callback (m.objects obj) then some m.out.nextId
      else (m.objects obj).notifyId := by
    rw [← Detached.connectWith_notifyId r callback token]
    exact congrArg Device.notifyId (setDevice_self _)
  rw [Device.hasNotifier_eq, hself, Device.hasNotifier_eq]
  split
  case isTrue hrenews => exact iff_of_true rfl (.inr hrenews)
  case isFalse hrenews => exact (or_iff_left hrenews).symm

/-- A bind that gives a registered device a notifier: no device holds the remote of its driver. -/
def BindsAlone (s : System) (r : DeviceReplies) (callback : Option DriverExtMgrCallback) (obj : Nat) :
    Prop :=
  Detached.Renews r callback (s.manager.objects obj) → obj ∈ s.manager.queryAllDevices →
    Unheld s.manager (s.manager.objects obj).bundleInfo

instance (r : DeviceReplies) (callback : Option DriverExtMgrCallback) (obj : Nat) :
    Decidable (BindsAlone s r callback obj) :=
  inferInstanceAs (Decidable (_ → _ → _))

theorem bind_apart_iff (h : Apart s) (r : DeviceReplies) (callback : Option DriverExtMgrCallback)
    (token : UInt32) :
    Apart { s with manager := (s.manager.runDevice obj (Device.connectWith r callback token)).2 } ↔
      BindsAlone s r callback obj := by
  have hkeep : KeepsDriver obj s.manager
      (s.manager.runDevice obj (Device.connectWith r callback token)).2 :=
    runDevice_keepsDriver (Device.connectWith_sameDriver callback token)
  have hquery := queryAllDevices_of_sameDevices hkeep.sameDevices
  have hremote : ((s.manager.runDevice obj (Device.connectWith r callback token)).2.objects
      obj).drvExtRemote = (s.manager.objects obj).drvExtRemote :=
    runDevice_drvExtRemote (Device.connectWith_drvExtRemote r callback token _ _) obj
  rw [h.touch_iff hkeep.toTouches hremote fun _ => hkeep.sameDriver.bundleInfo, mem_stoppers, hquery,
    runDevice_hasNotifier, hkeep.sameDriver.bundleInfo]
  constructor
  · intro hall hrenews hreg o ho
    exact hall (.inl ⟨hreg, .inr hrenews⟩) o ho (ne_of_mem_holders hrenews.1 ho)
  · rintro hkept (⟨hreg, hnotifier | hrenews⟩ | hpending) o ho hne
    · exact (h o ho obj (mem_stoppers.mpr (.inl ⟨hreg, hnotifier⟩)) hne.symm).symm
    · exact hkept hrenews hreg o ho
    · exact (h o ho obj (mem_stoppers.mpr (.inr hpending)) hne.symm).symm

theorem connectDevice_apart_iff (h : Apart s) (r : Replies) (deviceId : DeviceId) (token : UInt32)
    (callback : Option DriverExtMgrCallback) :
    Apart { s with manager := (s.manager.connectDevice r deviceId token callback).2 } ↔
      ∀ obj ∈ s.manager.deviceMap.lookup deviceId,
        BindsAlone s (r.device deviceId) callback obj := by
  unfold connectDevice queryDeviceByDeviceID
  cases s.manager.deviceMap.lookup deviceId with
  | none => exact iff_of_true h nofun
  | some obj => simpa using bind_apart_iff h (r.device deviceId) callback token

theorem connectDriverWithDeviceId_apart_iff (h : Apart s) (r : Replies) (access : AccessReplies)
    (deviceId : DeviceId) (token : UInt32) (appIds : Finset Name)
    (callback : Option DriverExtMgrCallback) :
    Apart { s with manager :=
        (s.manager.connectDriverWithDeviceId r access deviceId token appIds callback).2 } ↔
      ∀ obj ∈ s.manager.deviceMap.lookup deviceId,
        checkAccessPermission access (s.manager.objects obj).driverInfo appIds token = .edmOk →
        BindsAlone s (r.device deviceId) callback obj := by
  unfold connectDriverWithDeviceId queryDeviceByDeviceID
  cases s.manager.deviceMap.lookup deviceId with
  | none => exact iff_of_true h nofun
  | some obj =>
    dsimp only
    simp only [Option.mem_def, Option.some.injEq, forall_eq']
    split
    case isTrue hret => exact iff_of_true h fun hok => absurd hok hret
    case isFalse hret =>
      rw [forall_prop_of_true (not_not.mp hret)]
      exact bind_apart_iff h (r.device deviceId) callback token

/-! ## Steps that match drivers -/

/-- Where its driver is not launched on bind, a device is connected when it is matched. -/
def launches (d : Device) : Bool := d.hasDriver && d.driverInfo.any (!·.launchOnBind)

theorem AttemptOutcome.hasNotifier {d : Device} {n : Nat} {o : Outside}
    {result : UsbErrCode × Device × Outside} (h : Device.AttemptOutcome d n o result) :
    result.2.1.hasNotifier = true := by
  cases h with
  | made => rfl
  | failed => rfl

theorem launchDriver_hasNotifier : ((m.launchDriver r obj).2.objects obj).hasNotifier =
    ((m.objects obj).hasNotifier || (m.objects obj).driverInfo.any (!·.launchOnBind)) := by
  rcases Connections.launchDriver_outcome m r obj with
    ⟨hany, hobjects, -, -⟩ | ⟨hany, ret, n, -, hattempt⟩
  · rw [hobjects, hany, Bool.or_false]
  · rw [hany, Bool.or_true]
    exact AttemptOutcome.hasNotifier hattempt

theorem matched_hasNotifier (d : Device) : (matched r id d).hasNotifier = d.hasNotifier := by
  unfold matched
  split
  case isTrue =>
    cases r.queryMatchDriver id with
    | none => rfl
    | some driverInfo => rfl
  case isFalse => rfl

theorem startDevice_hasNotifier : ((m.startDevice r id obj).2.objects obj).hasNotifier =
    ((m.objects obj).hasNotifier || launches (matched r id (m.objects obj))) := by
  have hself : (m.matchDevice r id obj).stopUnloadTimer.objects obj = matched r id (m.objects obj) :=
    matchDevice_self
  have hself' : (m.matchDevice r id obj).objects obj = matched r id (m.objects obj) :=
    matchDevice_self
  rw [startDevice_snd, hself']
  split
  case isTrue hnil =>
    rw [hself, matched_hasNotifier, launches, Device.hasDriver, hnil,
      decide_eq_false (not_not_intro rfl), Bool.false_and, Bool.or_false]
  case isFalse hne =>
    rw [addDevIdOfBundleInfoMap, if_neg hne, launchDriver_hasNotifier]
    change (((m.matchDevice r id obj).stopUnloadTimer.objects obj).hasNotifier ||
      ((m.matchDevice r id obj).stopUnloadTimer.objects obj).driverInfo.any _) = _
    rw [hself, matched_hasNotifier, launches, Device.hasDriver, decide_eq_true hne, Bool.true_and]

theorem startDevice_apart_iff (h : Apart s) (hremote : (s.manager.objects obj).drvExtRemote = none) :
    Apart { s with manager := (s.manager.startDevice r id obj).2 } ↔
      (obj ∈ stoppers s ∨ (obj ∈ s.manager.queryAllDevices ∧
          launches (matched r id (s.manager.objects obj)) = true) →
        Unheld s.manager (matched r id (s.manager.objects obj)).bundleInfo) := by
  have htouches : Touches obj s.manager (s.manager.startDevice r id obj).2 := startDevice_touches
  have hquery := queryAllDevices_of_sameDevices htouches.sameDevices
  have hafter : ((s.manager.startDevice r id obj).2.objects obj).drvExtRemote = none :=
    startDevice_drvExtRemote hremote
  have hdriver : ((s.manager.startDevice r id obj).2.objects obj).bundleInfo =
      (matched r id (s.manager.objects obj)).bundleInfo := startDevice_sameDriver.bundleInfo
  have hstop : obj ∈ stoppers { s with manager := (s.manager.startDevice r id obj).2 } ↔
      obj ∈ stoppers s ∨ (obj ∈ s.manager.queryAllDevices ∧
        launches (matched r id (s.manager.objects obj)) = true) := by
    rw [mem_stoppers, mem_stoppers, hquery, startDevice_hasNotifier, Bool.or_eq_true, and_or_left,
      or_right_comm]
  rw [h.touch_iff htouches (hafter.trans hremote.symm) (by rw [hremote]; nofun), hstop, hdriver]
  refine imp_congr_right fun _ => forall₂_congr fun o ho => ?_
  exact forall_prop_of_true (ne_of_mem_holders hremote ho)

theorem mem_holders_makeDevice (hwf : s.WellFormed) (hid : s.manager.deviceMap.lookup id = none)
    {o : Nat} : o ∈ holders (s.manager.makeDevice id) ↔ o ∈ holders s.manager := by
  rw [mem_holders, mem_holders, mem_queryAllDevices_makeDevice hwf hid]
  constructor
  · rintro ⟨rfl | hreg, hdriver, hsome⟩
    · rw [makeDevice_self] at hdriver
      exact absurd rfl hdriver
    · rw [makeDevice_of_lt (queryAllDevices_lt hwf hreg)] at hdriver hsome
      exact ⟨hreg, hdriver, hsome⟩
  · rintro ⟨hreg, hdriver, hsome⟩
    rw [makeDevice_of_lt (queryAllDevices_lt hwf hreg)]
    exact ⟨.inr hreg, hdriver, hsome⟩

theorem makeDevice_apart (h : Apart s) (hwf : s.WellFormed)
    (hid : s.manager.deviceMap.lookup id = none) :
    Apart { s with manager := s.manager.makeDevice id } := by
  intro o ho obj' hstop hne
  rw [mem_holders_makeDevice hwf hid] at ho
  rw [mem_stoppers, mem_queryAllDevices_makeDevice hwf hid] at hstop
  have hreg := (mem_holders.mp ho).1
  rw [makeDevice_of_lt (queryAllDevices_lt hwf hreg)]
  rcases hstop with ⟨rfl | hreg', hnotifier⟩ | hpending
  · rw [makeDevice_self] at hnotifier
    cases hnotifier
  · rw [makeDevice_of_lt (queryAllDevices_lt hwf hreg')] at hnotifier ⊢
    exact h o ho obj' (mem_stoppers.mpr (.inl ⟨hreg', hnotifier⟩)) hne
  · rw [makeDevice_of_lt (hwf.pending_lt hpending)]
    exact h o ho obj' (mem_stoppers.mpr (.inr hpending)) hne

/-- An attach that matches a device which a completion can reach, or can from then on: no device holds
the remote of its driver. -/
def RegistersAlone (s : System) (r : Replies) (devInfo : DeviceId) : Prop :=
  match s.manager.deviceMap.lookup devInfo with
  | some obj => (s.manager.objects obj).drvExtRemote = none →
    (obj ∈ stoppers s ∨ (obj ∈ s.manager.queryAllDevices ∧
      launches (matched r devInfo (s.manager.objects obj)) = true)) →
    Unheld s.manager (matched r devInfo (s.manager.objects obj)).bundleInfo
  | none => launches (matched r devInfo { info := devInfo }) = true →
    Unheld s.manager (matched r devInfo { info := devInfo }).bundleInfo

instance (s : System) (r : Replies) (devInfo : DeviceId) : Decidable (RegistersAlone s r devInfo) := by
  unfold RegistersAlone
  split <;> infer_instance

theorem registerDevice_apart_iff (h : Apart s) (hwf : s.WellFormed) (r : Replies) (id : DeviceId) :
    Apart { s with manager := (s.manager.registerDevice r id).2 } ↔ RegistersAlone s r id := by
  unfold RegistersAlone
  cases hid : s.manager.deviceMap.lookup id with
  | some obj =>
    simp only [registerDevice, hid]
    cases hremote : (s.manager.objects obj).drvExtRemote with
    | some remote => exact iff_of_true h fun hnone => absurd hnone (Option.some_ne_none remote)
    | none =>
      rw [forall_prop_of_true rfl]
      exact startDevice_apart_iff h hremote
  | none =>
    simp only [registerDevice, hid]
    have hself : (s.manager.makeDevice id).objects s.manager.nextObject = { info := id } :=
      makeDevice_self
    have hnew : s.manager.nextObject ∈ (s.manager.makeDevice id).queryAllDevices :=
      (mem_queryAllDevices_makeDevice hwf hid).mpr (.inl rfl)
    have hstop : s.manager.nextObject ∉ stoppers { s with manager := s.manager.makeDevice id } := by
      rw [mem_stoppers, hself]
      rintro (⟨-, hnotifier⟩ | hpending)
      · cases hnotifier
      · exact lt_irrefl _ (hwf.pending_lt hpending)
    refine (startDevice_apart_iff (makeDevice_apart h hwf hid)
      (congrArg Device.drvExtRemote hself)).trans ?_
    rw [or_iff_right hstop, and_iff_right hnew, hself]
    refine imp_congr_right fun _ => forall_congr' fun o => ?_
    rw [mem_holders_makeDevice hwf hid]
    refine imp_congr_right fun ho => ?_
    rw [makeDevice_of_lt (queryAllDevices_lt hwf (mem_holders.mp ho).1)]

/-- A registered device that is connected stays as it is in an update if its id stood in no entry of
the bundle. -/
theorem onBundlesUpdated_holder {bundleName : Name} {order : List DeviceId} (hm : m.Keyed)
    (horder : order.Perm m.deviceMap.keys) {o : Nat} :
    o ∈ holders (m.onBundlesUpdated r bundleName order) ↔ o ∈ holders m ∧
      (m.objects o).info ∉ (m.deleteBundlesOfBundleInfoMap bundleName).1 ∧
      (m.onBundlesUpdated r bundleName order).objects o = m.objects o := by
  have hquery := queryAllDevices_of_sameDevices
    (onBundlesUpdated_sameDevices (r := r) (m := m) bundleName order)
  constructor
  · intro ho
    obtain ⟨hreg, hdriver, hsome⟩ := mem_holders.mp ho
    rw [hquery] at hreg
    obtain ⟨id, hid, -⟩ := mem_queryAllDevices.mp hreg
    cases hnew : newDriver r (m.lookedAt bundleName (m.objects o)) with
    | some driverInfo =>
      rw [(onBundlesUpdated_some hm horder hid hnew).2] at hsome
      cases hsome
    | none =>
      have hself := onBundlesUpdated_none hm horder hid hnew
      by_cases hmem : (m.objects o).info ∈ (m.deleteBundlesOfBundleInfoMap bundleName).1
      · rw [lookedAt_of_mem hmem] at hself
        rw [hself, forgotten_drvExtRemote] at hsome
        cases hsome
      · rw [lookedAt_of_notMem hmem] at hself
        rw [hself] at hdriver hsome
        exact ⟨mem_holders.mpr ⟨hreg, hdriver, hsome⟩, hmem, hself⟩
  · rintro ⟨ho, -, hself⟩
    rwa [mem_holders, hquery, hself, ← mem_holders]

theorem onBundlesUpdated_kept {bundleName : Name} {order : List DeviceId} (hm : m.Keyed)
    (horder : order.Perm m.deviceMap.keys) {o : Nat} (ho : o ∈ holders m)
    (hmem : (m.objects o).info ∉ (m.deleteBundlesOfBundleInfoMap bundleName).1) :
    (m.onBundlesUpdated r bundleName order).objects o = m.objects o := by
  obtain ⟨hreg, -, hsome⟩ := mem_holders.mp ho
  obtain ⟨id, hid, -⟩ := mem_queryAllDevices.mp hreg
  have hlooked : m.lookedAt bundleName (m.objects o) = m.objects o := lookedAt_of_notMem hmem
  have hnew : newDriver r (m.lookedAt bundleName (m.objects o)) = none := by
    rw [hlooked, newDriver, if_pos (.inr hsome)]
  rw [onBundlesUpdated_none hm horder hid hnew, hlooked]

theorem cleaned_hasNotifier (deviceIds : Finset DeviceId) (d : Device) :
    (m.cleaned deviceIds d).hasNotifier = d.hasNotifier := by
  unfold cleaned forgotten
  split
  case isTrue =>
    split
    case isTrue => rfl
    case isFalse => rfl
  case isFalse => rfl

theorem rematchDevice_hasNotifier : ((m.rematchDevice r obj).objects obj).hasNotifier =
    ((m.objects obj).hasNotifier ||
      (newDriver r (m.objects obj)).any (!·.launchOnBind)) := by
  cases hnew : newDriver r (m.objects obj) with
  | none => rw [rematchDevice_none hnew, Option.any_none, Bool.or_false]
  | some driverInfo =>
    rw [rematchDevice_some hnew, addDevIdOfBundleInfoMap, if_neg driverInfo.bundleInfo_ne_nil,
      launchDriver_hasNotifier]
    generalize hd : (m.objects obj).addBundleInfo driverInfo.bundleInfo driverInfo = d
    have hself : (m.setDevice obj d).objects obj = d := setDevice_self d
    change (((m.setDevice obj d).objects obj).hasNotifier ||
      ((m.setDevice obj d).objects obj).driverInfo.any _) = _
    rw [hself, ← hd]
    rfl

theorem matchDriverInfo_hasNotifier (deviceIds : Finset DeviceId) (hm : m.Keyed)
    (hid : m.deviceMap.lookup id = some obj) :
    ((matchDriverInfo r deviceIds m id).objects obj).hasNotifier =
      ((m.objects obj).hasNotifier ||
        (newDriver r (m.cleaned deviceIds (m.objects obj))).any (!·.launchOnBind)) := by
  obtain ⟨m₁, heq, hobj, -⟩ := matchDriverInfo_eq r deviceIds hm hid
  rw [heq, rematchDevice_hasNotifier, hobj, cleaned_hasNotifier]

/-- An update gives a notifier to the devices that it connects at once. -/
theorem onBundlesUpdated_hasNotifier {bundleName : Name} {order : List DeviceId} (hm : m.Keyed)
    (horder : order.Perm m.deviceMap.keys) (hid : m.deviceMap.lookup id = some obj) :
    ((m.onBundlesUpdated r bundleName order).objects obj).hasNotifier =
      ((m.objects obj).hasNotifier ||
        (newDriver r (m.lookedAt bundleName (m.objects obj))).any (!·.launchOnBind)) := by
  have hdelete : SameDevices m (m.deleteBundlesOfBundleInfoMap bundleName).2 :=
    deleteBundles_sameDevices bundleName
  obtain ⟨m', hsame, hbefore, hloop⟩ :=
    (matchDriverInfo_isTurn (r := r) (m.deleteBundlesOfBundleInfoMap bundleName).1).foldl_at
      (hm.of_sameDevices hdelete) (nodup_order horder) (mem_order horder hid)
      (hdelete.deviceMap ▸ hid)
  have hsame' := hdelete.trans hsame
  rw [deleteBundles_objects] at hbefore
  refine (congrArg Device.hasNotifier hloop).trans ?_
  rw [matchDriverInfo_hasNotifier _ (hm.of_sameDevices hsame') (hsame'.deviceMap ▸ hid), hbefore,
    cleaned_congr hsame']
  rfl

/-- A device that an update matches to no driver comes to share none. -/
theorem onBundlesUpdated_unmatched {bundleName n : Name} {order : List DeviceId} (hm : m.Keyed)
    (horder : order.Perm m.deviceMap.keys)
    (hnew : ∀ id, m.deviceMap.lookup id = some obj →
      newDriver r (m.lookedAt bundleName (m.objects obj)) = none) (hn : n ≠ [])
    (hne : (m.objects obj).bundleInfo ≠ n) :
    ((m.onBundlesUpdated r bundleName order).objects obj).bundleInfo ≠ n := by
  by_cases hmap : ∃ id, m.deviceMap.lookup id = some obj
  · obtain ⟨id, hid⟩ := hmap
    rw [onBundlesUpdated_none hm horder hid (hnew id hid), lookedAt, cleaned]
    split
    case isTrue =>
      rw [forgotten_bundleInfo]
      exact hn.symm
    case isFalse => exact hne
  · rwa [onBundlesUpdated_unmapped bundleName order (not_exists.mp hmap)]

theorem mem_stoppers_onBundlesUpdated (hwf : s.WellFormed) (bundleName : Name)
    {order : List DeviceId} (horder : order.Perm s.manager.deviceMap.keys)
    (hreg : obj ∈ s.manager.queryAllDevices) :
    obj ∈ stoppers { s with manager := s.manager.onBundlesUpdated r bundleName order } ↔
      (s.manager.objects obj).hasNotifier = true ∨
        ∃ driverInfo ∈ newDriver r (s.manager.lookedAt bundleName (s.manager.objects obj)),
          driverInfo.launchOnBind = false := by
  have hquery := queryAllDevices_of_sameDevices
    (onBundlesUpdated_sameDevices (r := r) (m := s.manager) bundleName order)
  obtain ⟨id, hid, hflag⟩ := mem_queryAllDevices.mp hreg
  have hpending : obj ∉ s.pending := fun hmem => by
    rw [hwf.flagged hmem] at hflag
    cases hflag
  rw [mem_stoppers, or_iff_left hpending, hquery, and_iff_right hreg,
    onBundlesUpdated_hasNotifier (fun _ _ => hwf.info) horder hid, Bool.or_eq_true,
    Option.any_eq_true]
  simp only [Bool.not_eq_true', Option.mem_def]

/-- The devices that an update matches to a driver and that a completion can reach afterwards have
another driver than those that stay connected. -/
theorem onBundlesUpdated_apart_iff (h : Apart s) (hwf : s.WellFormed) {bundleName : Name}
    {order : List DeviceId} (horder : order.Perm s.manager.deviceMap.keys) :
    Apart { s with manager := s.manager.onBundlesUpdated r bundleName order } ↔
      ∀ obj ∈ s.manager.queryAllDevices, ∀ driverInfo ∈
        newDriver r (s.manager.lookedAt bundleName (s.manager.objects obj)),
        (s.manager.objects obj).hasNotifier = true ∨ driverInfo.launchOnBind = false →
        ∀ o ∈ holders s.manager,
          (s.manager.objects o).info ∉ (s.manager.deleteBundlesOfBundleInfoMap bundleName).1 →
          (s.manager.objects o).bundleInfo ≠ driverInfo.bundleInfo := by
  have hm : s.manager.Keyed := fun _ _ => hwf.info
  have hquery := queryAllDevices_of_sameDevices
    (onBundlesUpdated_sameDevices (r := r) (m := s.manager) bundleName order)
  have hstop {o : Nat} (hreg : o ∈ s.manager.queryAllDevices) :=
    mem_stoppers_onBundlesUpdated (r := r) hwf bundleName horder hreg
  constructor
  · intro hall obj hreg driverInfo hnew hreach o ho hmem heq
    obtain ⟨id, hid, -⟩ := mem_queryAllDevices.mp hreg
    obtain ⟨hdriver, hremote⟩ := onBundlesUpdated_some hm horder hid hnew
    have hself := onBundlesUpdated_kept (r := r) hm horder ho hmem
    have hne : obj ≠ o := by
      rintro rfl
      have hsome := (mem_holders.mp ho).2.2
      rw [← hself, hremote] at hsome
      cases hsome
    apply hall o ((onBundlesUpdated_holder hm horder).mpr ⟨ho, hmem, hself⟩) obj
      ((hstop hreg).mpr (hreach.imp_right fun hlaunch => ⟨driverInfo, hnew, hlaunch⟩)) hne
    rw [hself, heq]
    exact hdriver.bundleInfo
  · intro hkept o ho obj' hstop' hne
    obtain ⟨hold, hmem, hself⟩ := (onBundlesUpdated_holder hm horder).mp ho
    change ((s.manager.onBundlesUpdated r bundleName order).objects obj').bundleInfo ≠
      ((s.manager.onBundlesUpdated r bundleName order).objects o).bundleInfo
    rw [hself]
    have hdriver : (s.manager.objects o).bundleInfo ≠ [] := (mem_holders.mp hold).2.1
    by_cases hreg : obj' ∈ s.manager.queryAllDevices
    · obtain ⟨id, hid, -⟩ := mem_queryAllDevices.mp hreg
      cases hnew : newDriver r (s.manager.lookedAt bundleName (s.manager.objects obj')) with
      | some driverInfo =>
        rw [(onBundlesUpdated_some hm horder hid hnew).1.bundleInfo]
        refine (hkept obj' hreg driverInfo hnew ?_ o hold hmem).symm
        refine ((hstop hreg).mp hstop').imp_right ?_
        rintro ⟨driverInfo', hnew', hlaunch⟩
        cases hnew.symm.trans hnew'
        exact hlaunch
      | none =>
        have hnotifier := ((hstop hreg).mp hstop').resolve_right (by rw [hnew]; nofun)
        refine onBundlesUpdated_unmatched hm horder (fun _ _ => hnew) hdriver ?_
        exact h o hold obj' (mem_stoppers.mpr (.inl ⟨hreg, hnotifier⟩)) hne
    · have hpending : obj' ∈ s.pending :=
        (mem_stoppers.mp hstop').resolve_left fun hreg' => hreg (hquery ▸ hreg'.1)
      refine onBundlesUpdated_unmatched hm horder (fun _ _ => ?_) hdriver ?_
      · cases hnew : newDriver r (s.manager.lookedAt bundleName (s.manager.objects obj')) with
        | none => rfl
        | some driverInfo => cases (newDriver_cleaned hnew).symm.trans (hwf.flagged hpending)
      · exact h o hold obj' (mem_stoppers.mpr (.inr hpending)) hne

/-! ## Runs -/

/-- No connected device shares its driver with a device that a completion can reach: none gets the
remote while such a device has the driver, no bind and no match lets one in while a device stays
connected to the driver, and no flagged device that has it starts to wait for the map. -/
def Kept (s : System) : Action → Prop
  | .registerDevice r devInfo => RegistersAlone s r devInfo
  | .onBundlesUpdated r bundleName _ =>
    ∀ obj ∈ s.manager.queryAllDevices, ∀ driverInfo ∈
      newDriver r (s.manager.lookedAt bundleName (s.manager.objects obj)),
      (s.manager.objects obj).hasNotifier = true ∨ driverInfo.launchOnBind = false →
      ∀ o ∈ holders s.manager,
        (s.manager.objects o).info ∉ (s.manager.deleteBundlesOfBundleInfoMap bundleName).1 →
        (s.manager.objects o).bundleInfo ≠ driverInfo.bundleInfo
  | .connectDevice r deviceId _ callback =>
    ∀ obj ∈ s.manager.deviceMap.lookup deviceId, BindsAlone s (r.device deviceId) callback obj
  | .connectDriverWithDeviceId r access deviceId token appIds callback =>
    ∀ obj ∈ s.manager.deviceMap.lookup deviceId,
      checkAccessPermission access (s.manager.objects obj).driverInfo appIds token = .edmOk →
      BindsAlone s (r.device deviceId) callback obj
  | .onConnect obj (some _) _ =>
    obj ∈ s.manager.queryAllDevices → (s.manager.objects obj).bundleInfo ≠ [] →
      ∀ obj' ∈ stoppers s, obj' ≠ obj →
        (s.manager.objects obj').bundleInfo ≠ (s.manager.objects obj).bundleInfo
  | .onDisconnect _ obj _ => (s.manager.objects obj).isUnRegisted = true →
      Unheld s.manager (s.manager.objects obj).bundleInfo
  | _ => True

instance (s : System) : DecidablePred (Kept s)
  | .registerDevice .. => inferInstanceAs (Decidable (RegistersAlone ..))
  | .onBundlesUpdated .. => inferInstanceAs (Decidable (∀ _ ∈ _, ∀ _ ∈ _, _ → ∀ _ ∈ _, _ → _))
  | .connectDevice .. => inferInstanceAs (Decidable (∀ _ ∈ _, BindsAlone ..))
  | .connectDriverWithDeviceId .. => inferInstanceAs (Decidable (∀ _ ∈ _, _ → BindsAlone ..))
  | .onConnect _ (some _) _ => inferInstanceAs (Decidable (_ → _ → ∀ _ ∈ _, _ → _))
  | .onDisconnect .. => inferInstanceAs (Decidable (_ → Unheld ..))
  | .onConnect _ none _ | .unRegisterDevice .. | .clearMatchedDrivers .. | .disConnectDevice ..
  | .disConnectDriverWithDeviceId .. | .remoteDied .. | .removeDeviceOfDeviceMap .. => .isTrue trivial

theorem step_keepsRunning_iff (hwf : s.WellFormed) (h : KeepsRunning s) {a : Action}
    (ha : s.Enabled a) : KeepsRunning (s.step a) ↔ Kept s a := by
  rw [keepsRunning_iff] at h ⊢
  cases a with
  | registerDevice r devInfo => exact registerDevice_apart_iff h hwf r devInfo
  | unRegisterDevice r devInfo => exact iff_of_true (unRegisterDevice_apart h hwf r devInfo) trivial
  | onBundlesUpdated r bundleName order => exact onBundlesUpdated_apart_iff h hwf ha
  | clearMatchedDrivers r userId order =>
    exact iff_of_true (clearMatchedDrivers_apart h hwf r userId ha) trivial
  | connectDevice r id token callback => exact connectDevice_apart_iff h r id token callback
  | connectDriverWithDeviceId r access id token appIds callback =>
    exact connectDriverWithDeviceId_apart_iff h r access id token appIds callback
  | disConnectDevice r id token =>
    apply iff_of_true _ trivial
    apply h.of_connection (disConnectDevice_atMostConnects id token)
      (disConnectDevice_sameNotifiers id token)
    intro o ho
    rwa [disConnectDevice_drvExtRemote] at ho
  | disConnectDriverWithDeviceId r id token =>
    apply iff_of_true _ trivial
    apply h.of_connection (disConnectDriverWithDeviceId_atMostConnects id token)
      (disConnectDriverWithDeviceId_sameNotifiers id token)
    intro o ho
    rwa [disConnectDriverWithDeviceId_drvExtRemote] at ho
  | onConnect obj remote resultCode =>
    cases remote with
    | some remote => exact onConnect_apart_iff h obj remote resultCode
    | none =>
      apply iff_of_true _ trivial
      exact h.of_connection ⟨obj, onConnect_keepsDriver none resultCode⟩
        (onConnect_sameNotifiers none resultCode) (onConnect_none_drvExtRemote obj resultCode)
  | onDisconnect r obj resultCode => exact onDisconnect_apart_iff h r obj resultCode
  | remoteDied obj object =>
    apply iff_of_true _ trivial
    exact h.of_connection ⟨obj, remoteDied_keepsDriver object⟩ (remoteDied_sameNotifiers object)
      (remoteDied_drvExtRemote obj object)
  | removeDeviceOfDeviceMap r obj =>
    exact iff_of_true (removeDeviceOfDeviceMap_apart h r obj) trivial

theorem init_keepsRunning (driverChangeCallback : Bool) :
    KeepsRunning (machine driverChangeCallback).init := by
  rw [keepsRunning_iff]
  intro obj hobj
  cases hobj

/-- No completion stops the driver of another connected device in any state of a run exactly when no
step of the run makes a connected device share its driver. -/
theorem keepsRunning_iff_kept (driverChangeCallback : Bool) (as : List Action)
    (hrun : (machine driverChangeCallback).Runs as) :
    (machine driverChangeCallback).Throughout KeepsRunning (machine driverChangeCallback).init as ↔
      (machine driverChangeCallback).Along Kept (machine driverChangeCallback).init as :=
  Machine.throughout_iff_along (I := WellFormed) (fun _ _ h ha => step_wellFormed h ha)
    (fun _ _ hwf h ha => step_keepsRunning_iff hwf h ha) (init_wellFormed driverChangeCallback)
    (init_keepsRunning driverChangeCallback) hrun

/-- Two devices have the driver one after the other. -/
theorem keepsRunning_one_by_one :
    (machine true).Throughout KeepsRunning (machine true).init
      [.registerDevice replies 1, .onConnect 0 (some 7) 0, .unRegisterDevice replies 1,
        .onDisconnect replies 0 0, .removeDeviceOfDeviceMap replies 0, .registerDevice replies 2,
        .onConnect 1 (some 8) 0] :=
  (keepsRunning_iff_kept true _ (by decide)).mpr (by decide)

/-- Two devices share a driver: the completion of the first stops it under the second. -/
theorem not_forall_keepsRunning :
    ¬∀ driverChangeCallback as, (machine driverChangeCallback).Runs as →
      (machine driverChangeCallback).Throughout KeepsRunning
        (machine driverChangeCallback).init as := by
  intro h
  have hlast := (h true [.registerDevice replies 1, .registerDevice replies 2,
    .onConnect 0 (some 7) 0, .onConnect 1 (some 8) 0] (by decide)).last
  exact hlast.onDisconnect 1 (by decide) 0 (by decide) (by decide) (by decide) 1 replies 0
    (by decide) ⟨0, by decide⟩

end ExtDevMgr.Manager.SharedDriver
