import ExtDevMgr.Manager.Connections.Binds
import ExtDevMgr.Manager.Connections.Launches

/-!
# Completions, and whole runs

No connection is lost and none clears what another one has established, in the runs that ask for a new
connection only when the last one is over.
-/

namespace ExtDevMgr.Manager.Connections
open ExtDeviceManager

variable {id : DeviceId} {s s' : State} {m : ExtDeviceManager} {obj : Nat}

/-! ## Completions -/

theorem onConnect_self (remote : Option Nat) (resultCode : Int) :
    (m.onConnect obj remote resultCode).objects obj =
      ((m.objects obj).onConnect remote resultCode m.out).1 := setDevice_self _

theorem onConnect_ne {o : Nat} (ho : o ≠ obj) (remote : Option Nat) (resultCode : Int) :
    (m.onConnect obj remote resultCode).objects o = m.objects o := setDevice_ne _ ho

theorem onConnect_connectNofitier (o : Nat) (remote : Option Nat) (resultCode : Int) :
    ((m.onConnect obj remote resultCode).objects o).connectNofitier =
      (m.objects o).connectNofitier := by
  apply setDevice_field Device.connectNofitier
  rfl

/-- The remote of the device is the one of the connection that its notifier knows. -/
theorem connectDone_inv (h : Inv id s) {connection : Connection}
    (henabled : connection ∈ s.accepted ∧ connection ∉ s.closed) (remote : Option Nat)
    (resultCode : Int) : Inv id (step id s (.connectDone connection remote resultCode)) := by
  obtain ⟨hmem, hopen⟩ := henabled
  have hlt := (h.fresh connection hmem).1
  by_cases hreach : s.Reaches connection
  · have hknown := (h.settled connection.obj hlt).live connection hmem rfl hopen hreach
    have hw := System.step_wellFormed (a := .onConnect connection.obj remote resultCode)
      h.wellFormed hlt
    have hnext : (s.sys.manager.onConnect connection.obj remote resultCode).out.nextId =
        s.sys.manager.out.nextId := (onConnect_sameNotifiers remote resultCode).nextId
    rw [step, if_pos hreach]
    refine inv_of_nofitier h hw rfl hnext.ge ?_ rfl subset_rfl ?_ ?_
    · intro o
      exact onConnect_connectNofitier o remote resultCode
    · intro o item c ho hhas hown
      have hhas : Has ((s.sys.manager.onConnect connection.obj remote resultCode).objects o) item :=
        hhas
      by_cases heq : o = connection.obj
      · subst heq
        rw [onConnect_self] at hhas
        dsimp only at hown
        rw [Function.update_self] at hown
        cases item with
        | remote =>
          rw [Function.update_self] at hown
          cases hown
          exact ⟨hknown, connection, hmem, rfl, rfl⟩
        | caller t =>
          have ht : t ∈ (s.device connection.obj).boundCallerInfos := Table.mem_mapValues.mp hhas
          have hne : Item.caller t ≠ .remote := nofun
          rw [Function.update_of_ne hne] at hown
          exact (h.settled connection.obj ho).owned (.caller t) c ht hown
        | callback x =>
          have hne : Item.callback x ≠ .remote := nofun
          rw [Function.update_of_ne hne] at hown
          exact (h.settled connection.obj ho).owned (.callback x) c hhas hown
      · rw [onConnect_ne heq] at hhas
        dsimp only at hown
        rw [Function.update_of_ne heq] at hown
        exact (h.settled o ho).owned item c hhas hown
    · intro k hk
      exact h.referenced k hk
  · rw [step, if_neg hreach]
    exact h

theorem onDisconnect_objects (sys : System) (r : Replies) (obj : Nat) (resultCode : Int) :
    (sys.step (.onDisconnect r obj resultCode)).manager.objects =
      (sys.manager.onDisconnect obj resultCode).objects := by
  simp only [System.step, System.onDisconnect]
  split
  case isTrue => rfl
  case isFalse => rfl

theorem connection_eq {k k' : Connection} (hobj : k.obj = k'.obj) (hn : k.notify = k'.notify)
    (hc : k.connectInner = k'.connectInner) : k = k' := by
  cases k
  cases k'
  exact (Connection.mk.injEq ..).mpr ⟨hobj, hn, hc⟩

/-- A device reaches one open connection at most. -/
theorem Inv.eq_of_reaches (h : Inv id s) {k connection : Connection}
    (hk : k ∈ s.accepted ∧ k ∉ s.closed) (hkreach : s.Reaches k)
    (hconnection : connection ∈ s.accepted ∧ connection ∉ s.closed) (hreach : s.Reaches connection)
    (hobj : k.obj = connection.obj) : k = connection := by
  have hlive := (h.settled connection.obj (h.fresh connection hconnection.1).1).live
  have hknown := hlive connection hconnection.1 rfl hconnection.2 hreach
  have hknown' := hlive k hk.1 hobj hk.2 hkreach
  have hn : k.notify = connection.notify := by
    rw [State.Reaches, hobj] at hkreach
    exact Option.some.inj (hkreach.symm.trans hreach)
  exact connection_eq hobj hn (Option.some.inj (hknown'.symm.trans hknown))

/-- The device forgets everything with the only connection whose completions still reach it. -/
theorem disconnectDone_inv (h : Inv id s) {connection : Connection}
    (henabled : connection ∈ s.accepted ∧ connection ∉ s.closed) (r : Replies) (resultCode : Int)
    (hkept : Kept id s (.disconnectDone r connection resultCode)) :
    Inv id (step id s (.disconnectDone r connection resultCode)) := by
  obtain ⟨hmem, hopen⟩ := henabled
  have hlt := (h.fresh connection hmem).1
  by_cases hreach : s.Reaches connection
  · have hlive := (h.settled connection.obj hlt).live
    have hknown := hlive connection hmem rfl hopen hreach
    have hw := System.step_wellFormed (a := .onDisconnect r connection.obj resultCode)
      h.wellFormed hlt
    have hsame : SameDevices s.sys.manager
        (s.sys.step (.onDisconnect r connection.obj resultCode)).manager :=
      System.step_sameDevices trivial
    have hkeeps : KeepsNotifiers s.sys.manager
        (s.sys.step (.onDisconnect r connection.obj resultCode)).manager :=
      Detached.step_keepsNotifiers trivial
    have hself : (s.sys.step (.onDisconnect r connection.obj resultCode)).manager.objects
        connection.obj = ((s.device connection.obj).onDisconnect resultCode s.sys.manager.out).1 := by
      rw [onDisconnect_objects]
      exact setDevice_self _
    have hother {o : Nat} (ho : o ≠ connection.obj) :
        (s.sys.step (.onDisconnect r connection.obj resultCode)).manager.objects o = s.device o := by
      rw [onDisconnect_objects]
      exact setDevice_ne _ ho
    have hnotify (o : Nat) : ((s.sys.step (.onDisconnect r connection.obj resultCode)).manager.objects
        o).notifyId = (s.device o).notifyId := by
      by_cases ho : o = connection.obj
      · rw [ho, hself]
        exact Device.clearConnection_notifyId
      · rw [hother ho]
    rw [step, if_pos hreach]
    refine ⟨hw, ?_, ?_, ?_, ?_⟩
    · intro o n hn
      exact lt_of_lt_of_le (h.notify o n ((hnotify o).symm.trans hn)) hkeeps.nextId
    · intro k hk
      obtain ⟨hobj, hn, hc⟩ := h.fresh k hk
      exact ⟨lt_of_lt_of_le hobj hkeeps.nextObject, lt_of_lt_of_le hn hkeeps.nextId,
        lt_of_lt_of_le hc hkeeps.nextId⟩
    · intro o ho
      have ho : o < s.sys.manager.nextObject := hsame.nextObject ▸ ho
      by_cases heq : o = connection.obj
      · subst heq
        refine ⟨?_, ?_⟩
        · intro item c hhas _
          rw [State.device, hself] at hhas
          cases item with
          | remote => cases hhas
          | caller t => cases hhas
          | callback x => cases hhas
        · intro k hk hobj hk' hreach'
          have hk' : k ≠ connection ∧ k ∉ s.closed := by simpa using hk'
          have hreach' : s.Reaches k := (hnotify k.obj).symm.trans hreach'
          exact absurd (h.eq_of_reaches ⟨hk, hk'.2⟩ hreach' ⟨hmem, hopen⟩ hreach hobj) hk'.1
      · obtain ⟨howned, hlive⟩ := h.settled o ho
        refine ⟨?_, ?_⟩
        · intro item c hhas hown
          rw [State.device, hother heq] at hhas ⊢
          exact howned item c hhas hown
        · intro k hk hobj hk' hreach'
          rw [State.device, hother heq]
          refine hlive k hk hobj (fun hk => hk' (Finset.mem_insert_of_mem hk)) ?_
          exact (hnotify k.obj).symm.trans hreach'
    · intro k hk
      rcases h.referenced k hk with hk' | ⟨hlook, hknown'⟩
      · exact .inl hk'
      · by_cases heq : k.obj = connection.obj
        · rw [heq, hknown] at hknown'
          have hasked := hkept hreach
          rw [Option.some.inj hknown'] at hasked
          exact .inl hasked
        · refine .inr ⟨hsame.deviceMap.symm ▸ hlook, ?_⟩
          rw [State.device, hother heq]
          exact hknown'
  · rw [step, if_neg hreach]
    refine inv_of_nofitier h h.wellFormed rfl le_rfl (fun _ => rfl) rfl
      (Finset.subset_insert _ _) ?_ h.referenced
    intro o item c ho hhas hown
    exact (h.settled o ho).owned item c hhas hown

/-! ## Runs -/

theorem step_inv (h : Inv id s) {a : Action} (ha : Enabled id s a) (hkept : Kept id s a) :
    Inv id (step id s a) := by
  cases a with
  | matchDriverInfo r deviceIds => exact match_inv h r deviceIds hkept
  | connectDone connection remote code => exact connectDone_inv h ha remote code
  | disconnectDone r connection code => exact disconnectDone_inv h ha r code hkept
  | operation a =>
    obtain ⟨hid, henabled⟩ := ha
    cases a with
    | registerDevice r devInfo =>
      cases hid
      exact register_inv h r hkept
    | unRegisterDevice r devInfo =>
      cases hid
      exact unRegister_inv h r hkept
    | connectDevice r devInfo token callback =>
      cases hid
      exact connectDevice_inv h r token callback hkept
    | connectDriverWithDeviceId r access devInfo token appIds callback =>
      cases hid
      exact connectDriverWithDeviceId_inv h r access token appIds callback hkept
    | disConnectDevice r devInfo token =>
      exact inv_of_sameMap h (System.step_wellFormed h.wellFormed henabled)
        (disConnectDevice_quiet devInfo token)
        (disConnectDevice_atMostConnects devInfo token).sameDevices.deviceMap
        (advance_accepted (disConnectDevice_connected devInfo token)) rfl Finset.subset_union_left rfl
    | disConnectDriverWithDeviceId r devInfo token =>
      exact inv_of_sameMap h (System.step_wellFormed h.wellFormed henabled)
        (disConnectDriverWithDeviceId_quiet devInfo token)
        (disConnectDriverWithDeviceId_atMostConnects devInfo token).sameDevices.deviceMap
        (advance_accepted (disConnectDriverWithDeviceId_connected devInfo token)) rfl
        Finset.subset_union_left rfl
    | removeDeviceOfDeviceMap r obj => exact remove_inv h r obj hkept henabled
    | onBundlesUpdated => exact hid.elim
    | clearMatchedDrivers => exact hid.elim
    | onConnect => exact hid.elim
    | onDisconnect => exact hid.elim
    | remoteDied => exact hid.elim

theorem init_inv (driverChangeCallback : Bool) (id : DeviceId) :
    Inv id (machine driverChangeCallback id).init where
  wellFormed := System.init_wellFormed driverChangeCallback
  notify _ _ hn := nomatch hn
  fresh _ hk := absurd hk (Finset.notMem_empty _)
  settled _ ho := absurd ho (Nat.not_lt_zero _)
  referenced _ hk := absurd hk (Finset.notMem_empty _)

/-- No accepted connection is lost or clears what is not its own, in any state of a run that asks for
a new connection only when the last one is over. -/
theorem sound_of_kept (driverChangeCallback : Bool) (id : DeviceId) (as : List Action)
    (h : (machine driverChangeCallback id).Runs as)
    (hkept : (machine driverChangeCallback id).Along (Kept id)
      (machine driverChangeCallback id).init as) :
    (machine driverChangeCallback id).Throughout (Sound id)
      (machine driverChangeCallback id).init as := by
  have hinv : (machine driverChangeCallback id).Throughout (Inv id)
      (machine driverChangeCallback id).init as := by
    refine Machine.throughout_of_along ?_ (init_inv driverChangeCallback id) (h.and hkept)
    rintro s a hs ⟨ha, hkept⟩
    exact step_inv hs ha hkept
  exact hinv.mono fun _ hs => hs.sound

/-- A driver that is connected when a client binds. -/
def replies : Replies :=
  { System.replies with
    queryMatchDriver := fun _ => some
      { bundleName := ['b'], driverName := ['d'], driverUid := ['u'], launchOnBind := true } }

/-- A client is served by a connection of its own, and the next one after its disconnect by another. -/
theorem sound_of_one_client :
    (machine true 1).Throughout (Sound 1) (machine true 1).init
      [.operation (.registerDevice replies 1),
        .operation (.connectDevice replies 1 101 (some ⟨1⟩)),
        .connectDone ⟨0, 0, 1⟩ (some 7) 0,
        .operation (.disConnectDevice replies 1 101),
        .disconnectDone replies ⟨0, 0, 1⟩ 0,
        .operation (.connectDevice replies 1 102 (some ⟨2⟩)),
        .operation (.unRegisterDevice replies 1)] :=
  sound_of_kept true 1 _ (by decide) (by decide)

/-- A second client binds before the connection of the first one completes. -/
theorem not_forall_sound :
    ¬∀ driverChangeCallback id as, (machine driverChangeCallback id).Runs as →
      (machine driverChangeCallback id).Throughout (Sound id)
        (machine driverChangeCallback id).init as := by
  intro h
  have hlast := (h true 1 [.operation (.registerDevice replies 1),
    .operation (.connectDevice replies 1 101 (some ⟨1⟩)),
    .operation (.connectDevice replies 1 102 (some ⟨2⟩))] (by decide)).last
  rcases hlast.referenced ⟨0, 0, 1⟩ (by decide) with hasked | ⟨-, hknown⟩
  · exact absurd hasked (by decide)
  · exact absurd hknown (by decide)

end ExtDevMgr.Manager.Connections
