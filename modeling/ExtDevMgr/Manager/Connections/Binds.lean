import ExtDevMgr.Manager.Connections.Releases

/-!
# Binds

A client joins the connection that has given the device its remote, or else it is served by a new one.
-/

namespace ExtDevMgr.Manager.Connections
open ExtDeviceManager

variable {id : DeviceId} {s s' : State} {obj : Nat}

theorem ownerAfter_ne {token : UInt32} {callback : Option DriverExtMgrCallback} {ret : UsbErrCode}
    {calls : List Event} (hlook : s.sys.manager.deviceMap.lookup id = some obj) {o : Nat}
    (ho : o ≠ obj) : s.ownerAfter id token callback ret calls o = s.owner o := by
  simp only [State.ownerAfter, hlook]
  exact Function.update_of_ne ho ..

/-- An item that a device has after a bind was there with its owner, or is owned by the connection
that serves the bind. -/
theorem owned_after {d' : Device} {token : UInt32} {callback : Option DriverExtMgrCallback}
    {ret : UsbErrCode} {calls : List Event} {item : Item} {c : Nat} (hhas : Has d' item)
    (howner : s.ownerAfter id token callback ret calls obj item = some c)
    (hlook : s.sys.manager.deviceMap.lookup id = some obj)
    (hremote : d'.drvExtRemote = (s.device obj).drvExtRemote)
    (hcaller : ∀ t ∈ d'.boundCallerInfos, t ∈ (s.device obj).boundCallerInfos ∨
      (t = token ∧ ret = .edmOk))
    (hcallback : Device.CallbacksFrom (s.device obj) callback d'.callbacks) :
    (Has (s.device obj) item ∧ s.owner obj item = some c) ∨ s.source obj ret calls = some c := by
  simp only [State.ownerAfter, hlook, Function.update_self] at howner
  cases item with
  | remote =>
    have hsome : d'.drvExtRemote.isSome = true := hhas
    rw [hremote] at hsome
    exact .inl ⟨hsome, howner⟩
  | caller t =>
    dsimp only at howner
    split at howner
    case isTrue => exact .inr howner
    case isFalse hnew => exact .inl ⟨(hcaller t hhas).resolve_right hnew, howner⟩
  | callback x =>
    dsimp only at howner
    split at howner
    case isTrue => exact .inr howner
    case isFalse hnew =>
      refine .inl ⟨?_, howner⟩
      obtain ⟨cb, hcb, rfl⟩ := List.mem_map.mp hhas
      rcases hcallback cb hcb with hcb | rfl
      · exact List.mem_map_of_mem hcb
      · by_contra hhas'
        exact hnew ⟨by simp, hhas'⟩

theorem caller_of_insert {d : Device} {token t : UInt32} {callerInfo : CallerInfo}
    (ht : t ∈ d.boundCallerInfos.insert token callerInfo) :
    t ∈ d.boundCallerInfos ∨ (t = token ∧ UsbErrCode.edmOk = .edmOk) := by
  rcases (AList.mem_insert _).mp ht with ht | ht
  · exact .inr ⟨ht, rfl⟩
  · exact .inl ht

theorem caller_of_erase {d : Device} {token t : UInt32} {callerInfo : CallerInfo}
    (ht : t ∈ (d.boundCallerInfos.insert token callerInfo).erase token) :
    t ∈ d.boundCallerInfos := by
  obtain ⟨hne, ht⟩ := AList.mem_erase.mp ht
  exact ((AList.mem_insert _).mp ht).resolve_left hne

section
variable {d' : Device} {o' : Outside}

/-- A call that is refused makes no connection. -/
theorem made_failed {d : Device} {o o' : Outside} {connect : Nat}
    (hcalls : o'.calls = o.calls ∨
      ∃ code, code ≠ 0 ∧ o'.calls = [d.connectCall connect o.nextId code] ++ o.calls) :
    made obj (o.newCalls o') = ∅ := by
  rcases hcalls with hcalls | ⟨code, hcode, hcalls⟩
  · rw [Outside.newCalls_nil hcalls, made_nil]
  · rw [Outside.newCalls_eq hcalls]
    apply made_of_none
    intro e he
    rw [List.mem_singleton.mp he]
    exact if_neg hcode

section
variable (hm : s'.sys.manager = { s.sys.manager.setDevice obj d' with out := o' })
include hm

theorem device_bound : s'.device obj = d' := by
  rw [State.device, hm]
  exact setDevice_self d'

theorem device_bound_ne {o : Nat} (ho : o ≠ obj) : s'.device o = s.device o := by
  rw [State.device, hm]
  exact setDevice_ne d' ho

end

/-- A bind that makes no connection and keeps the notifier. -/
theorem inv_of_nothing_made (h : Inv id s) (hw : s'.sys.WellFormed)
    (hm : s'.sys.manager = { s.sys.manager.setDevice obj d' with out := o' })
    (hsame : SameDevices s.sys.manager s'.sys.manager) (haccepted : s'.accepted = s.accepted)
    (hasked : s.asked ⊆ s'.asked) (hclosed : s'.closed = s.closed)
    (howner : ∀ o ≠ obj, s'.owner o = s.owner o)
    (hnofitier : d'.connectNofitier = (s.device obj).connectNofitier)
    (hnext : s.sys.manager.out.nextId ≤ o'.nextId)
    (howned : ∀ item c, Has d' item → s'.owner obj item = some c →
      known (s.device obj) = some c ∧ ∃ k ∈ s.accepted, k.obj = obj ∧ k.connectInner = c) :
    Inv id s' := by
  refine inv_of_nofitier h hw hsame.nextObject ?_ ?_ haccepted (hclosed ▸ subset_rfl) ?_ ?_
  · rw [hm]
    exact hnext
  · intro o
    by_cases ho : o = obj
    · rw [ho, device_bound hm, hnofitier]
    · rw [device_bound_ne hm ho]
  · intro o item c hlt hhas howner'
    by_cases ho : o = obj
    · subst ho
      rw [device_bound hm] at hhas
      exact howned item c hhas howner'
    · rw [device_bound_ne hm ho] at hhas
      rw [howner o ho] at howner'
      exact (h.settled o hlt).owned item c hhas howner'
  · intro k hk
    rcases h.referenced k hk with hk' | ⟨hlook', hknown⟩
    · exact .inl (hasked hk')
    · exact .inr ⟨hsame.deviceMap.symm ▸ hlook', hknown⟩

end

theorem bind_inv (h : Inv id s) (hw : s'.sys.WellFormed)
    (hlook : s.sys.manager.deviceMap.lookup id = some obj) {rd : DeviceReplies}
    {callback : Option DriverExtMgrCallback} {token : UInt32} {ret : UsbErrCode} {d' : Device}
    {o' : Outside} (hbind : Device.BindOutcome rd callback token (s.device obj) s.sys.manager.out
      (ret, d', o'))
    (hm : s'.sys.manager = { s.sys.manager.setDevice obj d' with out := o' })
    (hsame : SameDevices s.sys.manager s'.sys.manager)
    (hfresh : FreshNotifiers s.sys.manager s'.sys.manager)
    (haccepted : s'.accepted = s.accepted ∪ made obj (s.sys.manager.out.newCalls o'))
    (hasked : s.asked ⊆ s'.asked) (hclosed : s'.closed = s.closed)
    (howner : s'.owner = s.ownerAfter id token callback ret (s.sys.manager.out.newCalls o'))
    (hkept : Detached.Renews rd callback (s.device obj) → Idle s obj) : Inv id s' := by
  have hself := device_bound hm
  have hother (o : Nat) (ho : o ≠ obj) : s'.device o = s.device o := device_bound_ne hm ho
  have howner₀ (o : Nat) (ho : o ≠ obj) : s'.owner o = s.owner o := by
    rw [howner]
    exact ownerAfter_ne hlook ho
  have hsettled := h.settled obj (h.wellFormed.allocated hlook)
  cases hbind with
  | refused hret hcalls hnext _ hfrom =>
    have haccepted₀ : s'.accepted = s.accepted := by
      rw [haccepted, Outside.newCalls_nil hcalls, made_nil, Finset.union_empty]
    refine inv_of_nothing_made h hw hm hsame haccepted₀ hasked hclosed howner₀ rfl hnext.ge ?_
    intro item c hhas hown
    rw [howner] at hown
    rcases owned_after hhas hown hlook rfl (fun _ ht => .inl ht) hfrom with ⟨hhas, hown⟩ | hsource
    · exact hsettled.owned item c hhas hown
    · rw [State.source, if_pos hret] at hsource
      cases hsource
  | joined hcb hdeath hremote hcalls hnext hfrom =>
    have haccepted₀ : s'.accepted = s.accepted := by
      rw [haccepted, Outside.newCalls_nil hcalls, made_nil, Finset.union_empty]
    refine inv_of_nothing_made h hw hm hsame haccepted₀ hasked hclosed howner₀ rfl hnext.ge ?_
    intro item c hhas hown
    rw [howner] at hown
    rcases owned_after hhas hown hlook rfl (fun _ ht => caller_of_insert ht) hfrom with
      ⟨hhas, hown⟩ | hsource
    · exact hsettled.owned item c hhas hown
    · rw [State.source, if_neg (by simp), if_pos hremote] at hsource
      exact hsettled.owned .remote c hremote hsource
  | connected hcb hdeath hremote hreply hcalls hnext hfrom =>
    have hcall : s.sys.manager.out.newCalls o' = [(s.device obj).connectCall
        (s.sys.manager.out.nextId + 1) s.sys.manager.out.nextId 0] := Outside.newCalls_eq hcalls
    rw [hcall, made_connected fun _ he => absurd he List.not_mem_nil] at haccepted
    refine inv_of_attempt h hw (hkept ⟨hremote, hcb ▸ rfl, hdeath⟩) hlook hsame hfresh hother
      (congrArg Device.notifyId hself) (.inr le_rfl) (congrArg known hself) (Nat.le_succ _) ?_
      (.inr haccepted) hclosed hasked howner₀ ?_
    · rw [hm]
      change s.sys.manager.out.nextId + 1 < o'.nextId
      omega
    · intro item c hhas hown
      rw [hself] at hhas
      rw [howner, hcall] at hown
      rcases owned_after hhas hown hlook rfl (fun _ ht => caller_of_insert ht) hfrom with hold | hsource
      · exact .inl hold
      · rw [State.source, if_neg (by simp), if_neg (by simp [hremote])] at hsource
        refine .inr ⟨(Option.some.inj hsource).symm, ?_⟩
        rw [haccepted]
        exact Finset.mem_union_right _ (Finset.mem_singleton_self _)
  | failed hcb hdeath hremote hreply hret hcalls hnext hfrom =>
    rw [made_failed hcalls, Finset.union_empty] at haccepted
    refine inv_of_attempt h hw (hkept ⟨hremote, hcb ▸ rfl, hdeath⟩) hlook hsame hfresh hother
      (congrArg Device.notifyId hself) (.inr le_rfl) (congrArg known hself) (Nat.le_succ _) ?_
      (.inl haccepted) hclosed hasked howner₀ ?_
    · rw [hm]
      change s.sys.manager.out.nextId + 1 < o'.nextId
      omega
    · intro item c hhas hown
      rw [hself] at hhas
      rw [howner] at hown
      rcases owned_after hhas hown hlook rfl (fun _ ht => .inl (caller_of_erase ht)) hfrom with
        hold | hsource
      · exact .inl hold
      · rw [State.source, if_pos hret] at hsource
        cases hsource

theorem run_inv (h : Inv id s) {sys : System} (hw : sys.WellFormed)
    (hlook : s.sys.manager.deviceMap.lookup id = some obj) {rd : DeviceReplies} {token : UInt32}
    {callback : Option DriverExtMgrCallback} {ret : UsbErrCode}
    (hrun : s.sys.manager.runDevice obj (Device.connectWith rd callback token) = (ret, sys.manager))
    (hkept : Detached.Renews rd callback (s.device obj) → Idle s obj) :
    Inv id { s.advance id sys with
      owner := s.ownerAfter id token callback ret (s.sys.manager.out.newCalls sys.manager.out) } := by
  have hm : (s.sys.manager.runDevice obj (Device.connectWith rd callback token)).2 = sys.manager :=
    congrArg Prod.snd hrun
  have hsame : SameDevices s.sys.manager sys.manager := by
    have hkeeps : KeepsDriver obj s.sys.manager
        (s.sys.manager.runDevice obj (Device.connectWith rd callback token)).2 :=
      runDevice_keepsDriver (Device.connectWith_sameDriver callback token)
    exact hm ▸ hkeeps.sameDevices
  have hfresh : FreshNotifiers s.sys.manager sys.manager :=
    hm ▸ runDevice_freshNotifiers (Device.connectWith_fresh callback token)
  have hlook' : sys.manager.deviceMap.lookup id = some obj := hsame.deviceMap.symm ▸ hlook
  have hbind := Device.connectWith_outcome rd callback token (s.sys.manager.objects obj)
    s.sys.manager.out
  rcases hresult : Device.connectWith rd callback token (s.sys.manager.objects obj)
    s.sys.manager.out with ⟨ret', d', o'⟩
  rw [hresult] at hbind
  rw [runDevice, hresult] at hrun
  obtain ⟨rfl, hm⟩ := Prod.mk.inj hrun
  have hout : sys.manager.out = o' := by rw [← hm]
  refine bind_inv h hw hlook hbind hm.symm hsame hfresh ?_ Finset.subset_union_left rfl ?_ hkept
  · rw [← hout]
    exact (advance_follows hlook').accepted
  · rw [hout]

/-- A bind that is refused before it comes to the device. -/
theorem refused_inv (h : Inv id s) {sys : System} (hw : sys.WellFormed)
    (hm : sys.manager = s.sys.manager) {token : UInt32} {callback : Option DriverExtMgrCallback}
    {ret : UsbErrCode} (hret : ret ≠ .edmOk) :
    Inv id { s.advance id sys with
      owner := s.ownerAfter id token callback ret (s.sys.manager.out.newCalls sys.manager.out) } := by
  have hdevice (o : Nat) : sys.manager.objects o = s.device o := by rw [hm]; rfl
  have hcalls : sys.manager.out.calls = s.sys.manager.out.calls := by rw [hm]
  refine inv_of_nofitier h hw ?_ ?_ ?_ (advance_accepted (connected_of_sameCalls hcalls))
    subset_rfl ?_ ?_
  · exact congrArg nextObject hm
  · exact (congrArg (fun m => m.out.nextId) hm).ge
  · intro o
    exact congrArg Device.connectNofitier (hdevice o)
  · intro o item c ho hhas hown
    have hhas : Has (sys.manager.objects o) item := hhas
    rw [hdevice] at hhas
    cases hlook : s.sys.manager.deviceMap.lookup id with
    | none =>
      simp only [State.ownerAfter, hlook] at hown
      exact (h.settled o ho).owned item c hhas hown
    | some obj =>
      by_cases heq : o = obj
      · subst heq
        rcases owned_after hhas hown hlook rfl (fun _ ht => .inl ht) (fun _ hc => .inl hc) with
          ⟨hhas, hown⟩ | hsource
        · exact (h.settled o ho).owned item c hhas hown
        · rw [State.source, if_pos hret] at hsource
          cases hsource
      · dsimp only at hown
        rw [ownerAfter_ne hlook heq] at hown
        exact (h.settled o ho).owned item c hhas hown
  · intro k hk
    rcases h.referenced k hk with hk | ⟨hlook, hknown⟩
    · exact .inl (Finset.mem_union_left _ hk)
    · exact .inr ⟨(congrArg (fun m => m.deviceMap.lookup id) hm).trans hlook, hknown⟩

theorem connectDevice_inv (h : Inv id s) (r : Replies) (token : UInt32)
    (callback : Option DriverExtMgrCallback)
    (hkept : Kept id s (.operation (.connectDevice r id token callback))) :
    Inv id (step id s (.operation (.connectDevice r id token callback))) := by
  have hw := System.step_wellFormed (a := .connectDevice r id token callback) h.wellFormed trivial
  cases hlook : s.sys.manager.deviceMap.lookup id with
  | none =>
    have hm : s.sys.manager.connectDevice r id token callback = (.edmNok, s.sys.manager) := by
      simp only [connectDevice, queryDeviceByDeviceID, hlook]
    refine refused_inv h hw (congrArg Prod.snd hm) ?_
    rw [hm]
    exact (by decide : UsbErrCode.edmNok ≠ .edmOk)
  | some obj =>
    have hrun : s.sys.manager.runDevice obj (Device.connectWith (r.device id) callback token) =
        s.sys.manager.connectDevice r id token callback := by
      simp only [connectDevice, queryDeviceByDeviceID, hlook]
    exact run_inv h hw hlook hrun (hkept obj hlook)

theorem connectDriverWithDeviceId_inv (h : Inv id s) (r : Replies) (access : AccessReplies)
    (token : UInt32) (appIds : Finset Name) (callback : Option DriverExtMgrCallback)
    (hkept : Kept id s (.operation
      (.connectDriverWithDeviceId r access id token appIds callback))) :
    Inv id (step id s (.operation
      (.connectDriverWithDeviceId r access id token appIds callback))) := by
  have hw := System.step_wellFormed
    (a := .connectDriverWithDeviceId r access id token appIds callback) h.wellFormed trivial
  cases hlook : s.sys.manager.deviceMap.lookup id with
  | none =>
    have hm : s.sys.manager.connectDriverWithDeviceId r access id token appIds callback =
        (.edmNok, s.sys.manager) := by
      simp only [connectDriverWithDeviceId, queryDeviceByDeviceID, hlook]
    refine refused_inv h hw (congrArg Prod.snd hm) ?_
    rw [hm]
    exact (by decide : UsbErrCode.edmNok ≠ .edmOk)
  | some obj =>
    by_cases hret : checkAccessPermission access (s.device obj).driverInfo appIds token = .edmOk
    · have hrun : s.sys.manager.runDevice obj (Device.connectWith (r.device id) callback token) =
          s.sys.manager.connectDriverWithDeviceId r access id token appIds callback := by
        have hret' : ¬checkAccessPermission access (s.sys.manager.objects obj).driverInfo appIds
            token ≠ .edmOk := fun hne => hne hret
        simp only [connectDriverWithDeviceId, queryDeviceByDeviceID, hlook]
        rw [if_neg hret']
      exact run_inv h hw hlook hrun (hkept obj hlook hret)
    · have hm : s.sys.manager.connectDriverWithDeviceId r access id token appIds callback =
          (checkAccessPermission access (s.device obj).driverInfo appIds token, s.sys.manager) := by
        simp only [connectDriverWithDeviceId, queryDeviceByDeviceID, hlook]
        exact if_pos hret
      refine refused_inv h hw (congrArg Prod.snd hm) ?_
      rw [hm]
      exact hret

end ExtDevMgr.Manager.Connections
