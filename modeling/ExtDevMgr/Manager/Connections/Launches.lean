import ExtDevMgr.Manager.Connections.Releases

/-!
# Automatic connects

A device is connected when it comes or when it is matched again, if its driver does not wait for a
client. All attempts of one automatic connect go through one notifier.
-/

namespace ExtDevMgr.Manager.Connections
open ExtDeviceManager

variable {id : DeviceId} {s s' : State} {m : ExtDeviceManager} {obj : Nat} {r : Replies}

theorem updateDriverInfo_calls : (m.updateDriverInfo obj).out.calls = m.out.calls := by
  unfold updateDriverInfo
  split
  · rfl
  · split
    case isTrue => exact Outside.calls_emit_other rfl
    case isFalse => rfl

theorem updateDriverInfo_nextId : (m.updateDriverInfo obj).out.nextId = m.out.nextId :=
  updateDriverInfo_sameNotifiers.nextId

theorem matchDevice_out {devInfo : DeviceId} : (m.matchDevice r devInfo obj).out = m.out := by
  unfold matchDevice
  split
  case isTrue => split <;> rfl
  case isFalse => rfl

theorem runDevice_self (f : Device → Outside → UsbErrCode × Device × Outside) :
    (m.runDevice obj f).2.objects obj = (f (m.objects obj) m.out).2.1 := setDevice_self _

theorem runDevice_out (f : Device → Outside → UsbErrCode × Device × Outside) :
    (m.runDevice obj f).2.out = (f (m.objects obj) m.out).2.2 := rfl

theorem launchDriver_snd (m : ExtDeviceManager) (r : Replies) (obj : Nat) :
    (m.launchDriver r obj).2 =
      match (m.objects obj).driverInfo with
      | none => m
      | some driverInfo =>
        if driverInfo.launchOnBind then m.updateDriverInfo obj
        else ((m.updateDriverInfo obj).runDevice obj
          (Device.connect (r.device (m.objects obj).info))).2 := by
  unfold launchDriver
  cases (m.objects obj).driverInfo with
  | none => rfl
  | some driverInfo =>
    simp only [updateDriverInfo_objects]
    split
    case isTrue => rfl
    case isFalse =>
      split
      case isTrue => rfl
      case isFalse => rfl

/-- An automatic connect is all that attaching a device does to its connection. -/
theorem launchDriver_outcome (m : ExtDeviceManager) (r : Replies) (obj : Nat) :
    ((m.objects obj).driverInfo.any (!·.launchOnBind) = false ∧
      (m.launchDriver r obj).2.objects = m.objects ∧
        (m.launchDriver r obj).2.out.calls = m.out.calls ∧
          (m.launchDriver r obj).2.out.nextId = m.out.nextId) ∨
    ((m.objects obj).driverInfo.any (!·.launchOnBind) = true ∧ ∃ ret n,
      ((m.objects obj).notifyId = some n ∨ m.out.nextId ≤ n) ∧
        Device.AttemptOutcome (m.objects obj) n m.out
          (ret, (m.launchDriver r obj).2.objects obj, (m.launchDriver r obj).2.out)) := by
  rw [launchDriver_snd]
  cases (m.objects obj).driverInfo with
  | none => exact .inl ⟨rfl, rfl, rfl, rfl⟩
  | some driverInfo =>
    simp only [Option.any_some, Bool.not_eq_true']
    cases driverInfo.launchOnBind with
    | true =>
      exact .inl ⟨rfl, updateDriverInfo_objects, updateDriverInfo_calls, updateDriverInfo_nextId⟩
    | false =>
      refine .inr ⟨rfl, ?_⟩
      have hobjects : (m.updateDriverInfo obj).objects = m.objects := updateDriverInfo_objects
      have hnext : (m.updateDriverInfo obj).out.nextId = m.out.nextId := updateDriverInfo_nextId
      have hcalls : (m.updateDriverInfo obj).out.calls = [] ++ m.out.calls := updateDriverInfo_calls
      obtain ⟨n, hn, hattempt⟩ := Device.connect_outcome (r.device (m.objects obj).info)
        (m.objects obj) (m.updateDriverInfo obj).out
      have hnone : ∀ e ∈ ([] : List Event), e.isRefused = true := fun _ he => nomatch he
      have hafter := Device.AttemptOutcome.after (d := m.objects obj) (o := m.out) hattempt (.inr rfl)
        hnext.ge hnone hcalls
      refine ⟨(Device.connect (r.device (m.objects obj).info) (m.objects obj)
        (m.updateDriverInfo obj).out).1, n, ?_, ?_⟩
      · rcases hn with hn | ⟨-, hn⟩
        · exact .inl hn
        · exact .inr (hnext ▸ hn)
      · rw [if_neg Bool.false_ne_true, runDevice_self, runDevice_out, hobjects]
        exact hafter

/-- The device gets a connection from an operation that does nothing else to the connections. -/
theorem attempt_inv (h : Inv id s) (hw : s'.sys.WellFormed) (hidle : Idle s obj)
    (hlook : s.sys.manager.deviceMap.lookup id = some obj)
    (hsame : SameDevices s.sys.manager s'.sys.manager)
    (hfresh : FreshNotifiers s.sys.manager s'.sys.manager)
    (hother : ∀ o, o ≠ obj → s'.device o = s.device o) (hq : Quiet s.sys.manager m)
    (hcalls : m.out.calls = s.sys.manager.out.calls) {ret : UsbErrCode} {n : Nat}
    (hn : (m.objects obj).notifyId = some n ∨ m.out.nextId ≤ n)
    (hattempt : Device.AttemptOutcome (m.objects obj) n m.out
      (ret, s'.device obj, s'.sys.manager.out))
    (hs : Follows obj s s') : Inv id s' := by
  have haccepted := hs.accepted
  have hn' : (s.device obj).notifyId = some n ∨ s.sys.manager.out.nextId ≤ n := by
    rcases hn with hn | hn
    · left
      rw [Device.notifyId, hq.nofitier] at hn
      exact hn
    · exact .inr (hq.nextId ▸ hn)
  have hrefused {es : List Event} (hes : ∀ e ∈ es, e.isRefused = true) :
      ∀ e ∈ es, connected e = none := by
    intro e he
    exact connected_of_isRefused (hes e he)
  have hhas {d : Device} {remote : Option Nat} {connectNofitier : Option DrvExtConnNotify}
      (hd : d = { m.objects obj with drvExtRemote := remote, connectNofitier })
      (hremote : remote = none ∨ remote = (m.objects obj).drvExtRemote) {item : Item}
      (hitem : Has d item) : Has (s.device obj) item := by
    subst hd
    apply hq.has
    cases item with
    | remote =>
      rcases hremote with rfl | rfl
      · cases hitem
      · exact hitem
    | caller t => exact hitem
    | callback x => exact hitem
  generalize hresult : (ret, s'.device obj, s'.sys.manager.out) = result at hattempt
  cases hattempt with
  | @made remote c o' es hremote hc hc' hes hcalls' =>
    have hd : s'.device obj = (m.objects obj).attempted remote n c :=
      congrArg (fun result => result.2.1) hresult
    have hout : s'.sys.manager.out = o' := congrArg (fun result => result.2.2) hresult
    have hnew : s.sys.manager.out.newCalls s'.sys.manager.out =
        (m.objects obj).connectCall c n 0 :: es := by
      apply Outside.newCalls_eq
      rw [hout, hcalls', hcalls]
      rfl
    rw [hnew, made_connected (hrefused hes)] at haccepted
    refine inv_of_attempt h hw hidle hlook hsame hfresh hother (congrArg Device.notifyId hd) hn'
      (congrArg known hd) (hq.nextId ▸ hc) (hout ▸ hc') (.inr haccepted) hs.closed hs.asked
      (fun _ _ => by rw [hs.owner]) ?_
    intro item c' hitem hown
    rw [hs.owner] at hown
    exact .inl ⟨hhas hd hremote hitem, hown⟩
  | @failed _ remote c o' es hret hremote hc hc' hes hcalls' =>
    have hd : s'.device obj = (m.objects obj).attempted remote n c :=
      congrArg (fun result => result.2.1) hresult
    have hout : s'.sys.manager.out = o' := congrArg (fun result => result.2.2) hresult
    have hnew : s.sys.manager.out.newCalls s'.sys.manager.out = es := by
      apply Outside.newCalls_eq
      rw [hout, hcalls', hcalls]
    rw [hnew, made_of_none (hrefused hes), Finset.union_empty] at haccepted
    refine inv_of_attempt h hw hidle hlook hsame hfresh hother (congrArg Device.notifyId hd) hn'
      (congrArg known hd) (hq.nextId ▸ hc) (hout ▸ hc') (.inl haccepted) hs.closed hs.asked
      (fun _ _ => by rw [hs.owner]) ?_
    intro item c' hitem hown
    rw [hs.owner] at hown
    exact .inl ⟨hhas hd hremote hitem, hown⟩

/-- What the launch of a driver does to the connections, whatever has come before it. -/
theorem launch_inv (h : Inv id s) (hw : s'.sys.WellFormed)
    (hlook : s.sys.manager.deviceMap.lookup id = some obj) (htouch : Touches obj s.sys.manager m)
    (hq : Quiet s.sys.manager m) (hcalls : m.out.calls = s.sys.manager.out.calls)
    (hm : s'.sys.manager = (m.launchDriver r obj).2) (hs : Follows obj s s')
    (hkept : (m.objects obj).driverInfo.any (!·.launchOnBind) = true → Idle s obj) : Inv id s' := by
  have hlaunch : KeepsDriver obj m (m.launchDriver r obj).2 := launchDriver_keepsDriver
  have hall : Touches obj s.sys.manager s'.sys.manager := hm ▸ htouch.trans hlaunch.toTouches
  rcases launchDriver_outcome m r obj with
    ⟨-, hobjects, hcalls', hnext⟩ | ⟨hconnects, ret, n, hn, hattempt⟩
  · have hquiet : Quiet m s'.sys.manager := by
      rw [hm]
      exact .of_objects hlaunch.nextObject hnext hobjects
    refine inv_of_calls h hw (hq.trans hquiet) hall.deviceMap ?_ hs
    rw [hm, hcalls', hcalls]
  · have hkeeps : KeepsNotifiers s.sys.manager (m.launchDriver r obj).2 :=
      hq.sameNotifiers.keeps.trans launchDriver_keepsNotifiers
    have hattempt' : Device.AttemptOutcome (m.objects obj) n m.out
        (ret, s'.device obj, s'.sys.manager.out) := by
      rw [State.device, hm]
      exact hattempt
    exact attempt_inv h hw (hkept hconnects) hlook hall.sameDevices (hm ▸ hkeeps.toFreshNotifiers)
      hall.objects hq hcalls hn hattempt' hs

theorem start_inv (h : Inv id s) (hw : s'.sys.WellFormed)
    (hlook : s.sys.manager.deviceMap.lookup id = some obj)
    (hm : s'.sys.manager = (s.sys.manager.startDevice r id obj).2) (hs : Follows obj s s')
    (hkept : Launches r id obj s.sys.manager → Idle s obj) : Inv id s' := by
  have htouch : Touches obj s.sys.manager (s.sys.manager.matchDevice r id obj) := matchDevice_touches
  have hquiet : Quiet s.sys.manager (s.sys.manager.matchDevice r id obj) := matchDevice_quiet
  have hcalls : ((s.sys.manager.matchDevice r id obj).stopUnloadTimer).out.calls =
      s.sys.manager.out.calls := by
    have hout : (s.sys.manager.matchDevice r id obj).out = s.sys.manager.out := matchDevice_out
    rw [← hout]
    exact Outside.calls_emit_other rfl
  rw [startDevice_snd] at hm
  by_cases hb : ((s.sys.manager.matchDevice r id obj).objects obj).bundleInfo = []
  · rw [if_pos hb] at hm
    refine inv_of_calls h hw ?_ ?_ (hm ▸ hcalls) hs
    · rw [hm]
      exact hquiet.trans (.of_objects rfl rfl rfl)
    · rw [hm]
      exact htouch.deviceMap
  · rw [if_neg hb, addDevIdOfBundleInfoMap, if_neg hb] at hm
    refine launch_inv h hw hlook ?_ ?_ ?_ hm hs ?_
    · exact htouch.trans (.of_objects rfl rfl rfl rfl)
    · exact hquiet.trans (.of_objects rfl rfl rfl)
    · exact hcalls
    · intro hlaunch
      exact hkept ⟨hb, hlaunch⟩

theorem forgetDriver_quiet : Quiet m (m.forgetDriver obj) := by
  have hset : Quiet m (m.setDevice obj (m.objects obj).removeBundleInfo.clearDrvExtRemote) := by
    refine setDevice_quiet rfl ?_
    intro item h
    cases item with
    | remote => cases h
    | caller t => exact h
    | callback x => exact h
  exact hset.trans removeDriverInfo_quiet

theorem forgetDriver_calls : (m.forgetDriver obj).out.calls = m.out.calls :=
  Detached.removeDriverInfo_calls

/-- What the loop of `MatchDriverInfos` does to the connections of the device. -/
theorem rematch_inv (h : Inv id s) (hw : s'.sys.WellFormed)
    (hlook : s.sys.manager.deviceMap.lookup id = some obj) (htouch : Touches obj s.sys.manager m)
    (hq : Quiet s.sys.manager m) (hcalls : m.out.calls = s.sys.manager.out.calls)
    (hm : s'.sys.manager = m.rematchDevice r obj) (hs : Follows obj s s')
    (hkept : Relaunches r obj m → Idle s obj) : Inv id s' := by
  have hsame (hm : s'.sys.manager = m) : Inv id s' := by
    refine inv_of_calls h hw ?_ ?_ ?_ hs
    · exact hm ▸ hq
    · rw [hm, htouch.deviceMap]
    · rw [hm, hcalls]
  unfold rematchDevice at hm
  split at hm
  case isTrue => exact hsame hm
  case isFalse hfree =>
    cases hquery : r.queryMatchDriver (m.objects obj).info with
    | none =>
      rw [hquery] at hm
      exact hsame hm
    | some driverInfo =>
      rw [hquery] at hm
      dsimp only at hm
      rw [addDevIdOfBundleInfoMap, if_neg driverInfo.bundleInfo_ne_nil] at hm
      have hset : Touches obj m
          (m.setDevice obj ((m.objects obj).addBundleInfo driverInfo.bundleInfo driverInfo)) :=
        setDevice_touches rfl rfl
      have hset' : Quiet m
          (m.setDevice obj ((m.objects obj).addBundleInfo driverInfo.bundleInfo driverInfo)) :=
        setDevice_quiet rfl fun _ h => has_of_items (d := m.objects obj) rfl rfl rfl h
      refine launch_inv h hw hlook ?_ ?_ ?_ hm hs ?_
      · exact (htouch.trans hset).trans (.of_objects rfl rfl rfl rfl)
      · exact (hq.trans hset').trans (.of_objects rfl rfl rfl)
      · exact hcalls
      · intro hlaunch
        have hlaunch : ((m.setDevice obj ((m.objects obj).addBundleInfo driverInfo.bundleInfo
            driverInfo)).objects obj).driverInfo.any (!·.launchOnBind) = true := hlaunch
        rw [setDevice_self] at hlaunch
        refine hkept ⟨hfree, ?_⟩
        rw [hquery]
        exact hlaunch

/-- A new device has no item and no connection, and the id was free only if every accepted connection
has been asked to disconnect. -/
theorem make_inv (h : Inv id s) (hnew : s.sys.manager.deviceMap.lookup id = none) :
    Inv id { s with sys := { s.sys with manager := s.sys.manager.makeDevice id } } := by
  have hold {o : Nat} (ho : o < s.sys.manager.nextObject) :
      (s.sys.manager.makeDevice id).objects o = s.device o := makeDevice_of_lt ho
  have hself : (s.sys.manager.makeDevice id).objects s.sys.manager.nextObject = { info := id } :=
    makeDevice_self
  refine ⟨h.wellFormed.makeDevice id, ?_, ?_, ?_, ?_⟩
  · intro o n hn
    have hkeeps : KeepsNotifiers s.sys.manager (s.sys.manager.makeDevice id) :=
      makeDevice_keepsNotifiers
    rcases hkeeps.fresh o n hn with hn | hn
    · exact h.notify o n hn
    · exact hn
  · intro k hk
    obtain ⟨hobj, hn, hc⟩ := h.fresh k hk
    exact ⟨Nat.lt_succ_of_lt hobj, hn, hc⟩
  · intro o ho
    rcases Nat.lt_succ_iff_lt_or_eq.mp ho with ho | rfl
    · obtain ⟨howned, hlive⟩ := h.settled o ho
      refine ⟨?_, ?_⟩
      · intro item c hhas hown
        rw [State.device, hold ho] at hhas ⊢
        exact howned item c hhas hown
      · intro k hk hobj hk' hreach
        rw [State.device, hold ho]
        refine hlive k hk hobj hk' ?_
        rwa [State.Reaches, State.device, hold (hobj ▸ ho)] at hreach
    · refine ⟨?_, ?_⟩
      · intro item c hhas _
        rw [State.device, hself] at hhas
        cases item with
        | remote => cases hhas
        | caller t => cases hhas
        | callback x => cases hhas
      · intro k hk hobj
        exact absurd (hobj ▸ (h.fresh k hk).1) (lt_irrefl _)
  · intro k hk
    rcases h.referenced k hk with hk | ⟨hlook, -⟩
    · exact .inl hk
    · cases hnew.symm.trans hlook

theorem register_inv (h : Inv id s) (r : Replies)
    (hkept : Kept id s (.operation (.registerDevice r id))) :
    Inv id (step id s (.operation (.registerDevice r id))) := by
  have hw := System.step_wellFormed (a := .registerDevice r id) h.wellFormed trivial
  cases hlook : s.sys.manager.deviceMap.lookup id with
  | none =>
    have hm : (s.sys.manager.registerDevice r id).2 =
        ((s.sys.manager.makeDevice id).startDevice r id s.sys.manager.nextObject).2 := by
      simp only [registerDevice, hlook]
    have hlook' : (s.sys.manager.registerDevice r id).2.deviceMap.lookup id =
        some s.sys.manager.nextObject := by
      rw [(System.registerDevice_new r hlook).deviceMap, lookup_makeDevice_self]
    have hs : Follows s.sys.manager.nextObject s (step id s (.operation (.registerDevice r id))) :=
      advance_follows hlook'
    refine start_inv (make_inv h hlook) hw lookup_makeDevice_self hm
      ⟨hs.accepted, hs.closed, hs.asked, hs.owner⟩ ?_
    intro _ k hk hobj
    exact absurd (hobj ▸ (h.fresh k hk).1) (lt_irrefl _)
  | some obj =>
    have hlook' : (s.sys.manager.registerDevice r id).2.deviceMap.lookup id = some obj := by
      rw [(System.registerDevice_found r hlook).deviceMap, hlook]
    have hs : Follows obj s (step id s (.operation (.registerDevice r id))) := advance_follows hlook'
    cases hremote : (s.device obj).drvExtRemote with
    | none =>
      have hm : (s.sys.manager.registerDevice r id).2 = (s.sys.manager.startDevice r id obj).2 := by
        have hnone : ¬(s.sys.manager.objects obj).drvExtRemote.isSome = true := by
          simpa [State.device] using hremote
        simp only [registerDevice, hlook, if_neg hnone]
      exact start_inv h hw hlook hm hs (hkept obj hlook hremote)
    | some remote =>
      have hm : (s.sys.manager.registerDevice r id).2 = s.sys.manager := by
        have hsome : (s.sys.manager.objects obj).drvExtRemote.isSome = true :=
          (congrArg Option.isSome hremote).trans rfl
        simp only [registerDevice, hlook, if_pos hsome]
      refine inv_of_calls h hw ?_ ?_ ?_ hs
      · change Quiet _ (s.sys.manager.registerDevice r id).2
        exact hm.symm ▸ .refl _
      · exact congrArg ExtDeviceManager.deviceMap hm
      · exact congrArg (fun m : ExtDeviceManager => m.out.calls) hm

theorem match_inv (h : Inv id s) (r : Replies) (deviceIds : Finset DeviceId)
    (hkept : Kept id s (.matchDriverInfo r deviceIds)) :
    Inv id (step id s (.matchDriverInfo r deviceIds)) := by
  have hsame := matchDriverInfo_sameDevices (m := s.sys.manager) (r := r) deviceIds id
  have hw : (step id s (.matchDriverInfo r deviceIds)).sys.WellFormed :=
    h.wellFormed.of_sameDevices hsame
  cases hlook : s.sys.manager.deviceMap.lookup id with
  | none =>
    have hm : s.sys.manager.matchDriverInfo r deviceIds id = s.sys.manager := by
      simp only [matchDriverInfo, hlook]
    exact advance_inv h hw hm
  | some obj =>
    have hlook' : (s.sys.manager.matchDriverInfo r deviceIds id).deviceMap.lookup id = some obj := by
      rw [hsame.deviceMap, hlook]
    have hm : s.sys.manager.matchDriverInfo r deviceIds id =
        (unmatched deviceIds id obj s.sys.manager).rematchDevice r obj := by
      simp only [matchDriverInfo, hlook, unmatched]
    have hpre : Touches obj s.sys.manager (unmatched deviceIds id obj s.sys.manager) ∧
        Quiet s.sys.manager (unmatched deviceIds id obj s.sys.manager) ∧
          (unmatched deviceIds id obj s.sys.manager).out.calls = s.sys.manager.out.calls := by
      unfold unmatched
      split
      case isTrue => exact ⟨forgetDriver_touches, forgetDriver_quiet, forgetDriver_calls⟩
      case isFalse => exact ⟨.refl _, .refl _, rfl⟩
    obtain ⟨htouch, hquiet, hcalls⟩ := hpre
    exact rematch_inv h hw hlook htouch hquiet hcalls hm (advance_follows hlook') (hkept obj hlook)

end ExtDevMgr.Manager.Connections
