import ExtDevMgr.Manager.Connections

/-!
# Operations that make no connection

A detach and an unbind ask at most for a disconnect, and establish nothing on any device.
-/

namespace ExtDevMgr.Manager.Connections
open ExtDeviceManager

variable {id : DeviceId} {s s' : State} {m m' m'' : ExtDeviceManager} {obj : Nat} {r : Replies}

/-! ## Quiet operations -/

/-- No device gets a notifier, a connection or an item. -/
structure Quiet (m m' : ExtDeviceManager) : Prop where
  nextObject : m'.nextObject = m.nextObject
  nextId : m'.out.nextId = m.out.nextId
  nofitier : ∀ o, (m'.objects o).connectNofitier = (m.objects o).connectNofitier
  has : ∀ o item, Has (m'.objects o) item → Has (m.objects o) item

theorem Quiet.of_objects (hobject : m'.nextObject = m.nextObject)
    (hnext : m'.out.nextId = m.out.nextId) (hobj : m'.objects = m.objects) : Quiet m m' := by
  refine ⟨hobject, hnext, ?_, ?_⟩
  · intro o
    rw [hobj]
  · intro o item hhas
    rwa [hobj] at hhas

theorem Quiet.refl (m : ExtDeviceManager) : Quiet m m := .of_objects rfl rfl rfl

theorem Quiet.trans (h : Quiet m m') (h' : Quiet m' m'') : Quiet m m'' where
  nextObject := h'.nextObject.trans h.nextObject
  nextId := h'.nextId.trans h.nextId
  nofitier o := (h'.nofitier o).trans (h.nofitier o)
  has o item hhas := h.has o item (h'.has o item hhas)

theorem Quiet.sameNotifiers (h : Quiet m m') : SameNotifiers m m' where
  nextObject := h.nextObject
  nextId := h.nextId
  notifyId o := by rw [Device.notifyId, h.nofitier, ← Device.notifyId]

theorem setDevice_quiet {d : Device} (hnofitier : d.connectNofitier = (m.objects obj).connectNofitier)
    (hhas : ∀ item, Has d item → Has (m.objects obj) item) : Quiet m (m.setDevice obj d) := by
  refine ⟨rfl, rfl, setDevice_field Device.connectNofitier hnofitier, ?_⟩
  intro o item h
  by_cases ho : o = obj
  · subst ho
    rw [setDevice_self] at h
    exact hhas item h
  · rwa [setDevice_ne _ ho] at h

/-- Changing the driver or the flag of a device changes no item of it. -/
theorem has_of_items {d d' : Device} (hremote : d'.drvExtRemote = d.drvExtRemote)
    (hcallers : d'.boundCallerInfos = d.boundCallerInfos) (hcallbacks : d'.callbacks = d.callbacks)
    {item : Item} (h : Has d' item) : Has d item := by
  cases item with
  | remote => exact (congrArg Option.isSome hremote).symm.trans h
  | caller t =>
    have ht : t ∈ d'.boundCallerInfos := h
    rwa [hcallers] at ht
  | callback x =>
    have hx : x ∈ d'.callbacks.map (·.asObject) := h
    rwa [hcallbacks] at hx

theorem matchDevice_quiet {devInfo : DeviceId} : Quiet m (m.matchDevice r devInfo obj) := by
  unfold matchDevice
  split
  case isTrue =>
    split
    · exact .refl m
    · exact setDevice_quiet rfl fun _ h => has_of_items (d := m.objects obj) rfl rfl rfl h
  case isFalse => exact .refl m

theorem removeDriverInfo_quiet : Quiet m (m.removeDriverInfo obj) := by
  unfold removeDriverInfo
  split
  · exact .refl m
  · split
    case isTrue =>
      have hemit (e : Event) : Quiet m (m.emit e) := .of_objects rfl rfl rfl
      exact (hemit _).trans
        (setDevice_quiet rfl fun _ h => has_of_items (d := m.objects obj) rfl rfl rfl h)
    case isFalse => exact .refl m

theorem disconnectDriver_quiet : Quiet m (m.disconnectDriver r obj).2 := by
  have hout : Quiet m
      { m with out := ((m.objects obj).disconnect (r.device (m.objects obj).info) m.out).2 } :=
    .of_objects rfl Device.disconnect_nextId rfl
  unfold disconnectDriver
  dsimp only
  split
  case isTrue => exact hout
  case isFalse => exact hout.trans removeDriverInfo_quiet

theorem removeDevIdOfBundleInfoMap_quiet (bundleInfo : Name) :
    Quiet m (m.removeDevIdOfBundleInfoMap r obj bundleInfo).2 := by
  unfold removeDevIdOfBundleInfoMap
  split
  case isTrue => exact .refl m
  case isFalse =>
    split
    · exact .refl m
    · split
      case isTrue => exact .of_objects rfl rfl rfl
      case isFalse =>
        have herase : Quiet m (m.eraseBundle bundleInfo) := .of_objects rfl rfl rfl
        exact herase.trans disconnectDriver_quiet

theorem detachDevice_quiet (devInfo : DeviceId) : Quiet m (m.detachDevice devInfo obj) := by
  unfold detachDevice
  split
  case isTrue => exact setDevice_quiet rfl fun _ h => has_of_items (d := m.objects obj) rfl rfl rfl h
  case isFalse => exact .of_objects rfl rfl rfl

theorem unRegisterDevice_quiet (devInfo : DeviceId) : Quiet m (m.unRegisterDevice r devInfo).2 := by
  unfold unRegisterDevice
  split
  · exact .refl m
  · rename_i obj _
    have hunload : Quiet (m.detachDevice devInfo obj) ((m.detachDevice devInfo obj).unLoadSelf r) :=
      .of_objects unLoadSelf_sameNotifiers.nextObject unLoadSelf_sameNotifiers.nextId
        unLoadSelf_objects
    have hdetach : Quiet m ((m.detachDevice devInfo obj).unLoadSelf r) :=
      (detachDevice_quiet devInfo).trans hunload
    dsimp only
    split
    case isTrue => exact hdetach
    case isFalse => exact hdetach.trans (removeDevIdOfBundleInfoMap_quiet _)

theorem unbind_quiet (token : UInt32) : Quiet m (m.unbind r obj token).2 := by
  unfold unbind
  split
  · exact .refl m
  · split
    case isTrue =>
      refine setDevice_quiet rfl ?_
      intro item h
      cases item with
      | remote => exact h
      | caller t => exact (AList.mem_erase.mp h).2
      | callback x => exact h
    case isFalse => exact .of_objects rfl Device.disconnect_nextId rfl

theorem disConnectDevice_quiet (deviceId : DeviceId) (token : UInt32) :
    Quiet m (m.disConnectDevice r deviceId token).2 := by
  unfold disConnectDevice
  split
  · exact .refl m
  · exact unbind_quiet token

theorem disConnectDriverWithDeviceId_quiet (deviceId : DeviceId) (token : UInt32) :
    Quiet m (m.disConnectDriverWithDeviceId r deviceId token).2 := by
  unfold disConnectDriverWithDeviceId
  split
  · exact .refl m
  · split
    case isTrue => exact .refl m
    case isFalse => exact unbind_quiet token

/-- A quiet step keeps everything but the accepted connections that are in the map. -/
theorem inv_of_quiet (h : Inv id s) (hw : s'.sys.WellFormed) (hq : Quiet s.sys.manager s'.sys.manager)
    (haccepted : s'.accepted = s.accepted) (hclosed : s'.closed = s.closed)
    (howner : s'.owner = s.owner)
    (hreferenced : ∀ k ∈ s.accepted, k.connectInner ∈ s'.asked ∨
      (s'.sys.manager.deviceMap.lookup id = some k.obj ∧
        known (s.device k.obj) = some k.connectInner)) : Inv id s' := by
  refine inv_of_nofitier h hw hq.nextObject hq.nextId.ge hq.nofitier haccepted (hclosed ▸ subset_rfl)
    ?_ hreferenced
  intro o item c ho hhas hown
  exact (h.settled o ho).owned item c (hq.has o item hhas) (howner ▸ hown)

/-- A quiet step that keeps the map. -/
theorem inv_of_sameMap (h : Inv id s) (hw : s'.sys.WellFormed)
    (hq : Quiet s.sys.manager s'.sys.manager)
    (hmap : s'.sys.manager.deviceMap = s.sys.manager.deviceMap) (haccepted : s'.accepted = s.accepted)
    (hclosed : s'.closed = s.closed) (hasked : s.asked ⊆ s'.asked) (howner : s'.owner = s.owner) :
    Inv id s' := by
  refine inv_of_quiet h hw hq haccepted hclosed howner ?_
  intro k hk
  rcases h.referenced k hk with hk | ⟨hlook, hknown⟩
  · exact .inl (hasked hk)
  · exact .inr ⟨hmap.symm ▸ hlook, hknown⟩

theorem advance_accepted {sys : System}
    (h : ∀ e ∈ s.sys.manager.out.newCalls sys.manager.out, connected e = none) :
    (s.advance id sys).accepted = s.accepted := by
  unfold State.advance
  dsimp only
  split
  · rfl
  · rw [made_of_none h, Finset.union_empty]

theorem connected_of_sameCalls {o o' : Outside} (h : o'.calls = o.calls) :
    ∀ e ∈ o.newCalls o', connected e = none := by
  rw [Outside.newCalls_nil h]
  intro e he
  cases he

/-- `s'` comes after the calls of an operation on the device at `obj` that establishes no item. -/
structure Follows (obj : Nat) (s s' : State) : Prop where
  accepted : s'.accepted = s.accepted ∪ made obj (s.sys.manager.out.newCalls s'.sys.manager.out)
  closed : s'.closed = s.closed
  asked : s.asked ⊆ s'.asked
  owner : s'.owner = s.owner

theorem advance_follows {sys : System} (hlook : sys.manager.deviceMap.lookup id = some obj) :
    Follows obj s (s.advance id sys) where
  accepted := by simp only [State.advance, hlook]
  closed := rfl
  asked := Finset.subset_union_left
  owner := rfl

/-- A quiet operation on a device that makes no call. -/
theorem inv_of_calls (h : Inv id s) (hw : s'.sys.WellFormed) (hq : Quiet s.sys.manager s'.sys.manager)
    (hmap : s'.sys.manager.deviceMap = s.sys.manager.deviceMap)
    (hcalls : s'.sys.manager.out.calls = s.sys.manager.out.calls) (hs : Follows obj s s') :
    Inv id s' := by
  refine inv_of_sameMap h hw hq hmap ?_ hs.closed hs.asked hs.owner
  rw [hs.accepted, made_of_none (connected_of_sameCalls hcalls), Finset.union_empty]

/-- An operation that does nothing. -/
theorem advance_inv {sys : System} (h : Inv id s) (hw : sys.WellFormed)
    (hm : sys.manager = s.sys.manager) : Inv id (s.advance id sys) := by
  have hcalls : sys.manager.out.calls = s.sys.manager.out.calls := by rw [hm]
  refine inv_of_sameMap h hw ?_ ?_ (advance_accepted (connected_of_sameCalls hcalls)) rfl
    Finset.subset_union_left rfl
  · change Quiet s.sys.manager sys.manager
    exact hm ▸ .refl _
  · exact congrArg deviceMap hm

/-! ## Detach and unbind -/

theorem disconnect_connected {d : Device} {r : DeviceReplies} {o : Outside} :
    ∀ e ∈ o.newCalls (d.disconnect r o).2, connected e = none := by
  rcases Device.disconnect_out (d := d) (r := r) (o := o) with ⟨c, ret, -, -, hout⟩ | ⟨-, hout⟩
  · have hnew : o.newCalls (d.disconnect r o).2 = [.disconnectAbility c ret] := by
      apply Outside.newCalls_eq
      rw [hout, Outside.calls_emit rfl]
      rfl
    rw [hnew]
    intro e he
    rw [List.mem_singleton.mp he]
    rfl
  · exact connected_of_sameCalls (by rw [hout])

/-- The device is asked to disconnect the connection that its notifier knows. -/
theorem disconnect_asks {d : Device} {r : DeviceReplies} {o : Outside} {c : Nat}
    (hknown : known d = some c)
    (howned : d.connection.any (fun info => info = d.connectionInfo info.connectInner) = true)
    (hreply : r.disconnect.isSome = true) :
    ∃ ret, (d.disconnect r o).2 = o.emit (.disconnectAbility c ret) := by
  obtain ⟨info, hinfo, rfl⟩ := Option.map_eq_some_iff.mp hknown
  rw [hinfo] at howned
  have heq : info = d.connectionInfo info.connectInner := of_decide_eq_true howned
  obtain ⟨ret, hret⟩ := Option.isSome_iff_exists.mp hreply
  refine ⟨ret, ?_⟩
  rw [Device.disconnect_of_connection (hinfo.trans (congrArg some heq)), hret]

theorem unRegister_inv (h : Inv id s) (r : Replies)
    (hkept : Kept id s (.operation (.unRegisterDevice r id))) :
    Inv id (step id s (.operation (.unRegisterDevice r id))) := by
  have hw := System.step_wellFormed (a := .unRegisterDevice r id) h.wellFormed trivial
  cases hlook : s.sys.manager.deviceMap.lookup id with
  | none => exact advance_inv h hw (System.unRegisterDevice_absent r hlook)
  | some obj =>
    have hinfo := h.wellFormed.info hlook
    have hcalls := Detached.unRegisterDevice_calls (r := r) hlook hinfo
    have hconnected : ∀ e ∈ s.sys.manager.out.newCalls (s.sys.manager.unRegisterDevice r id).2.out,
        connected e = none := by
      rcases hcalls with ⟨-, o, ho, hcalls⟩ | ⟨-, hcalls⟩
      · rw [Outside.newCalls, hcalls, ← ho]
        exact disconnect_connected
      · exact connected_of_sameCalls hcalls
    refine inv_of_quiet h hw (unRegisterDevice_quiet id) (advance_accepted hconnected) rfl rfl ?_
    intro k hk
    rcases h.referenced k hk with hk' | ⟨hlook', hknown⟩
    · exact .inl (Finset.mem_union_left _ hk')
    cases hlook.symm.trans hlook'
    cases hremote : (s.device k.obj).drvExtRemote with
    | some remote =>
      have hsome : (s.sys.manager.objects k.obj).drvExtRemote.isSome = true :=
        (congrArg Option.isSome hremote).trans rfl
      have hmap : (s.sys.manager.unRegisterDevice r id).2.deviceMap = s.sys.manager.deviceMap := by
        rw [(System.unRegisterDevice_found r hlook).deviceMap, detachDevice, if_pos hsome,
          setDevice_deviceMap]
      exact .inr ⟨(congrArg (AList.lookup id) hmap).trans hlook, hknown⟩
    | none =>
      left
      rcases hkept k.obj hlook hremote with hreleased | ⟨halone, howned, hreply⟩
      · exact Finset.mem_union_left _ (hreleased k hk rfl hknown)
      · rcases hcalls with ⟨-, o, ho, hcalls⟩ | ⟨hnot, -⟩
        · obtain ⟨ret, hout⟩ := disconnect_asks (o := o) hknown howned hreply
          have hnew : s.sys.manager.out.newCalls (s.sys.step (.unRegisterDevice r id)).manager.out =
              [.disconnectAbility k.connectInner ret] := by
            apply Outside.newCalls_eq
            refine (hcalls.trans (congrArg Outside.calls hout)).trans ?_
            rw [Outside.calls_emit rfl, ho]
            rfl
          refine Finset.mem_union_right _ ?_
          rw [hnew]
          exact List.mem_toFinset.mpr List.mem_cons_self
        · exact absurd halone hnot

theorem unbind_connected (token : UInt32) :
    ∀ e ∈ m.out.newCalls (m.unbind r obj token).2.out, connected e = none := by
  unfold unbind
  split
  · exact connected_of_sameCalls rfl
  · split
    case isTrue => exact connected_of_sameCalls rfl
    case isFalse => exact disconnect_connected

theorem disConnectDevice_connected (deviceId : DeviceId) (token : UInt32) :
    ∀ e ∈ m.out.newCalls (m.disConnectDevice r deviceId token).2.out, connected e = none := by
  unfold disConnectDevice
  split
  · exact connected_of_sameCalls rfl
  · exact unbind_connected token

theorem disConnectDriverWithDeviceId_connected (deviceId : DeviceId) (token : UInt32) :
    ∀ e ∈ m.out.newCalls (m.disConnectDriverWithDeviceId r deviceId token).2.out,
      connected e = none := by
  unfold disConnectDriverWithDeviceId
  split
  · exact connected_of_sameCalls rfl
  · split
    case isTrue => exact connected_of_sameCalls rfl
    case isFalse => exact unbind_connected token

theorem stopExtension_calls : (m.stopExtension r obj).out.calls = m.out.calls := by
  unfold stopExtension Device.stopExtension stopDriverExtension
  split
  · rfl
  · dsimp only
    split
    case isTrue => exact Outside.calls_emit_other rfl
    case isFalse => exact Outside.calls_emit_other rfl

/-- A device leaves the map when its last connection has been asked to disconnect. -/
theorem remove_inv (h : Inv id s) (r : Replies) (obj : Nat)
    (hkept : Kept id s (.operation (.removeDeviceOfDeviceMap r obj)))
    (henabled : s.sys.Enabled (.removeDeviceOfDeviceMap r obj)) :
    Inv id (step id s (.operation (.removeDeviceOfDeviceMap r obj))) := by
  have hw := System.step_wellFormed h.wellFormed henabled
  have hnext : (s.sys.step (.removeDeviceOfDeviceMap r obj)).manager.out.nextId =
      s.sys.manager.out.nextId :=
    (stopExtension_sameNotifiers (m := s.sys.manager.removeDeviceOfDeviceMap obj)).nextId
  have hcalls : (s.sys.step (.removeDeviceOfDeviceMap r obj)).manager.out.calls =
      s.sys.manager.out.calls := stopExtension_calls
  refine inv_of_quiet h hw (.of_objects rfl hnext rfl)
    (advance_accepted (connected_of_sameCalls hcalls)) rfl rfl ?_
  intro k hk
  rcases h.referenced k hk with hk' | ⟨hlook, hknown⟩
  · exact .inl (Finset.mem_union_left _ hk')
  · by_cases hid : id = (s.device obj).info
    · rw [hid] at hlook
      exact .inl (Finset.mem_union_left _ (hkept k.obj hlook k hk rfl hknown))
    · exact .inr ⟨(AList.lookup_erase_ne hid).trans hlook, hknown⟩

end ExtDevMgr.Manager.Connections
