import ExtDevMgr.Manager.Callbacks
import ExtDevMgr.Manager.Emits
import ExtDevMgr.Manager.System

/-!
# Whom the operations tell

Clients are told something by the two completions of a connection, which tell the callbacks of their
device, and by a bind, which tells the callback it is given. Every other operation is silent, and
changes the callbacks of no device.
-/

namespace ExtDevMgr.Manager
open Outside

/-- The callback that is called, and the device it is told about. -/
def Event.client : Event → Option (DriverExtMgrCallback × DeviceId)
  | .onConnect (some callback) deviceId _ _ => some (callback, deviceId)
  | .onUnBind callback deviceId _ => some (callback, deviceId)
  | .onDisconnect callback deviceId _ => some (callback, deviceId)
  | _ => none

def Event.silent (e : Event) : Bool := e.client.isNone

/-- The event tells nobody but clients with `p`. -/
def Event.tells (p : DriverExtMgrCallback → DeviceId → Bool) (e : Event) : Bool :=
  e.client.all fun told => p told.1 told.2

theorem Event.tells_of_silent {p : DriverExtMgrCallback → DeviceId → Bool} (e : Event)
    (h : e.silent = true) : e.tells p = true := by
  rw [silent, Option.isNone_iff_eq_none] at h
  rw [tells, h]
  rfl

theorem stopDriverExtension_silent (reply : Option Int) (bundleName abilityName : Name) (userId : Int)
    (o : Outside) :
    Emits Event.silent o (stopDriverExtension reply bundleName abilityName userId o).2 := by
  unfold stopDriverExtension
  cases reply with
  | none => exact .refl o
  | some ret =>
    dsimp only
    split
    case isTrue => exact emits_emit rfl
    case isFalse => exact emits_emit rfl

theorem connectDriverExtension_silent (reply : Option Int) (bundleName abilityName : Name)
    (callback : Option DrvExtConnNotify) (deviceId : UInt32) (o : Outside) :
    Emits Event.silent o
      (connectDriverExtension reply bundleName abilityName callback deviceId o).2.2 := by
  unfold connectDriverExtension
  cases callback with
  | none => exact .refl o
  | some notify =>
    have halloc : Emits Event.silent o o.alloc := .of_log rfl
    dsimp only
    split
    case isTrue => exact .refl o
    case isFalse =>
      cases reply with
      | none => exact halloc
      | some ret =>
        dsimp only
        split
        case isTrue => exact halloc.trans (emits_emit rfl)
        case isFalse => exact halloc.trans (emits_emit rfl)

theorem disconnectDriverExtension_silent (reply : Option Int) (bundleName abilityName : Name)
    (callback : Option DrvExtConnNotify) (deviceId : UInt32) (o : Outside) :
    Emits Event.silent o
      (disconnectDriverExtension reply bundleName abilityName callback deviceId o).2 := by
  unfold disconnectDriverExtension
  cases callback with
  | none => exact .refl o
  | some notify =>
    dsimp only
    cases notify.info with
    | none => exact .refl o
    | some info =>
      dsimp only
      split
      case isTrue => exact .refl o
      case isFalse =>
        cases reply with
        | none => exact .refl o
        | some ret =>
          dsimp only
          split
          case isTrue => exact emits_emit rfl
          case isFalse => exact emits_emit rfl

/-! ## Devices -/

namespace Device
variable {d d' d'' : Device} {r : DeviceReplies} {o : Outside}

/-- The device and its callbacks are the same. -/
structure SameClients (d d' : Device) : Prop where
  callbacks : d'.callbacks = d.callbacks
  info : d'.info = d.info

theorem SameClients.refl (d : Device) : SameClients d d := ⟨rfl, rfl⟩

theorem SameClients.trans (h : SameClients d d') (h' : SameClients d' d'') : SameClients d d'' :=
  ⟨h'.callbacks.trans h.callbacks, h'.info.trans h.info⟩

theorem addDrvExtConnNotify_sameClients : SameClients d (d.addDrvExtConnNotify o).1 := by
  unfold addDrvExtConnNotify
  split
  case isTrue => exact ⟨rfl, rfl⟩
  case isFalse => exact .refl d

theorem addDrvExtConnNotify_silent : Emits Event.silent o (d.addDrvExtConnNotify o).2 := by
  unfold addDrvExtConnNotify
  split
  case isTrue => exact .of_log rfl
  case isFalse => exact .refl o

theorem connectExtension_sameClients (reply : Option Int) :
    SameClients d (d.connectExtension reply o).2.1 := ⟨rfl, rfl⟩

theorem connectExtension_silent (reply : Option Int) :
    Emits Event.silent o (d.connectExtension reply o).2.2 :=
  connectDriverExtension_silent ..

theorem reconnect_sameClients (n : Nat) (ret : UsbErrCode) :
    SameClients d (reconnect r n ret d o).2.1 := by
  induction n generalizing ret d o with
  | zero => exact .refl d
  | succ n ih =>
    rw [reconnect]
    split
    case isTrue => exact .refl d
    case isFalse =>
      have hclear : SameClients d
          (d.clearDrvExtRemote.clearConnection.connectExtension (r.connect (retryTimes - n)) o).2.1 :=
        ⟨rfl, rfl⟩
      exact hclear.trans (ih _)

theorem reconnect_silent (n : Nat) (ret : UsbErrCode) :
    Emits Event.silent o (reconnect r n ret d o).2.2 := by
  induction n generalizing ret d o with
  | zero => exact .refl o
  | succ n ih =>
    rw [reconnect]
    split
    case isTrue => exact .refl o
    case isFalse => exact (connectExtension_silent _).trans (ih _)

theorem connect_sameClients : SameClients d (connect r d o).2.1 :=
  (addDrvExtConnNotify_sameClients.trans (connectExtension_sameClients _)).trans
    (reconnect_sameClients _ _)

theorem connect_silent : Emits Event.silent o (connect r d o).2.2 :=
  (addDrvExtConnNotify_silent.trans (connectExtension_silent _)).trans (reconnect_silent _ _)

theorem disconnect_silent : Emits Event.silent o (d.disconnect r o).2 := by
  unfold disconnect
  split
  case isTrue => exact .refl o
  case isFalse => exact disconnectDriverExtension_silent ..

/-- A device has the callbacks that it had, or the one that has been given where it had none. -/
theorem connectWith_callbacks (connectCallback : Option DriverExtMgrCallback) (token : UInt32) :
    (d.connectWith r connectCallback token o).2.1.callbacks.Sublist
      (connectCallback.elim d.callbacks d.inserted) := by
  cases connectCallback with
  | none => rw [(connectWith_none o token).2, Option.elim_none]
  | some callback =>
    rw [Option.elim_some]
    cases hdeath : r.addDeathRecipient with
    | false => rw [(connectWith_refused o callback token hdeath).2]
    | true =>
      by_cases hconnects : d.Connects r
      · rw [(connectWith_connects o callback token hdeath hconnects).2]
      · rw [(connectWith_undone o callback token hdeath hconnects).2]
        exact List.eraseP_sublist

/-- A bind tells the callback that it has been given. -/
theorem connectWith_tells (connectCallback : Option DriverExtMgrCallback) (token : UInt32) :
    Emits (Event.tells fun callback id => connectCallback = some callback ∧ id = d.info) o
      (d.connectWith r connectCallback token o).2.2 := by
  have hsilent {o o' : Outside} (h : Emits Event.silent o o') :
      Emits (Event.tells fun callback id => connectCallback = some callback ∧ id = d.info) o o' :=
    h.mono Event.tells_of_silent
  have hreg (o : Outside) :
      Emits Event.silent o (d.registerDrvExtMgrCallback r connectCallback o).2.2 := by
    cases connectCallback with
    | none => exact .refl o
    | some callback =>
      rw [registerDrvExtMgrCallback_some]
      exact emits_emit rfl
  unfold connectWith
  split
  case isTrue =>
    have hcall : Emits
        (Event.tells fun callback id => connectCallback = some callback ∧ id = d.info) o
        (o.emit (.onConnect connectCallback d.info d.drvExtRemote 0)) := by
      refine emits_emit ?_
      cases connectCallback with
      | none => rfl
      | some callback => exact decide_eq_true ⟨rfl, rfl⟩
    dsimp only
    split
    case isTrue => exact hcall.trans (hsilent (hreg _))
    case isFalse => exact hcall.trans (hsilent (hreg _))
  case isFalse =>
    have h := hsilent (hreg o)
    generalize d.registerDrvExtMgrCallback r connectCallback o = registered at h ⊢
    obtain ⟨ret, d', o'⟩ := registered
    dsimp only at h ⊢
    split
    case isTrue => exact h
    case isFalse =>
      have hupdate : Emits Event.silent o' (d'.updateDrvExtConnNotify o').2 := .of_log rfl
      have hadd := hupdate.trans
        (addDrvExtConnNotify_silent (d := (d'.updateDrvExtConnNotify o').1))
      split
      case isTrue =>
        refine h.trans (hsilent (hadd.trans ?_))
        dsimp only
        exact connectExtension_silent _
      case isFalse => exact h.trans (hsilent (hadd.trans (connectExtension_silent _)))

theorem onConnect_tells (remote : Option Nat) (resultCode : Int) :
    Emits (Event.tells fun callback id => callback ∈ d.callbacks ∧ id = d.info) o
      (d.onConnect remote resultCode o).2 := by
  apply emits_emitAll
  intro e he
  obtain ⟨callback, hmem, rfl⟩ := List.mem_map.mp he
  exact decide_eq_true ⟨hmem, rfl⟩

theorem onDisconnect_tells (resultCode : Int) :
    Emits (Event.tells fun callback id => callback ∈ d.callbacks ∧ id = d.info) o
      (d.onDisconnect resultCode o).2 := by
  apply emits_emitAll
  intro e he
  obtain ⟨callback, hmem, he⟩ := List.mem_flatMap.mp he
  rcases List.mem_pair.mp he with rfl | rfl
  · exact decide_eq_true ⟨hmem, rfl⟩
  · exact decide_eq_true ⟨hmem, rfl⟩

end Device

/-! ## The device manager -/

namespace ExtDeviceManager
variable {m m' m'' : ExtDeviceManager} {r : Replies} {obj : Nat}

/-- The operation tells no client anything, and changes the callbacks of no device; one that it makes
has none. -/
structure Silent (m m' : ExtDeviceManager) : Prop where
  objects : ∀ obj, (m'.objects obj).callbacks = [] ∨
    Device.SameClients (m.objects obj) (m'.objects obj)
  out : Emits Event.silent m.out m'.out

theorem Silent.of_objects (hobj : m'.objects = m.objects) (hout : Emits Event.silent m.out m'.out) :
    Silent m m' :=
  ⟨fun obj => .inr (by rw [hobj]; exact .refl _), hout⟩

theorem Silent.refl (m : ExtDeviceManager) : Silent m m := .of_objects rfl (.refl _)

theorem Silent.trans (h : Silent m m') (h' : Silent m' m'') : Silent m m'' := by
  refine ⟨fun obj => ?_, h.out.trans h'.out⟩
  rcases h'.objects obj with hnone | hsame'
  · exact .inl hnone
  · rcases h.objects obj with hnone | hsame
    · exact .inl (hsame'.callbacks.trans hnone)
    · exact .inr (hsame.trans hsame')

theorem setDevice_silent {d : Device} (h : Device.SameClients (m.objects obj) d) :
    Silent m (m.setDevice obj d) := by
  refine ⟨fun o => .inr ?_, .refl _⟩
  by_cases ho : o = obj
  · rw [ho, setDevice_self]
    exact h
  · rw [setDevice_ne d ho]
    exact .refl _

theorem emit_silent {e : Event} (h : e.silent = true) : Silent m (m.emit e) :=
  .of_objects rfl (emits_emit h)

theorem withOut_silent {out : Outside} (h : Emits Event.silent m.out out) : Silent m { m with out } :=
  .of_objects rfl h

theorem runDevice_silent {f : Device → Outside → UsbErrCode × Device × Outside}
    (hd : Device.SameClients (m.objects obj) (f (m.objects obj) m.out).2.1)
    (hout : Emits Event.silent m.out (f (m.objects obj) m.out).2.2) :
    Silent m (m.runDevice obj f).2 :=
  (setDevice_silent hd).trans (withOut_silent hout)

theorem updateDriverInfo_silent : Silent m (m.updateDriverInfo obj) := by
  unfold updateDriverInfo
  split
  · exact .refl m
  · split
    case isTrue => exact emit_silent rfl
    case isFalse => exact .refl m

theorem removeDriverInfo_silent : Silent m (m.removeDriverInfo obj) := by
  unfold removeDriverInfo
  split
  · exact .refl m
  · split
    case isTrue => exact (emit_silent rfl).trans (setDevice_silent ⟨rfl, rfl⟩)
    case isFalse => exact .refl m

theorem launchDriver_silent : Silent m (m.launchDriver r obj).2 := by
  unfold launchDriver
  split
  · exact .refl m
  · dsimp only
    split
    case isTrue => exact updateDriverInfo_silent
    case isFalse =>
      have hrun : Silent m ((m.updateDriverInfo obj).runDevice obj
          (Device.connect (r.device ((m.updateDriverInfo obj).objects obj).info))).2 :=
        updateDriverInfo_silent.trans
          (runDevice_silent Device.connect_sameClients Device.connect_silent)
      split
      case isTrue => exact hrun
      case isFalse => exact hrun

theorem addDevIdOfBundleInfoMap_silent (bundleInfo : Name) :
    Silent m (m.addDevIdOfBundleInfoMap r obj bundleInfo).2 := by
  unfold addDevIdOfBundleInfoMap
  split
  case isTrue => exact .refl m
  case isFalse =>
    have hplace : Silent m (m.emplaceDevId bundleInfo (m.objects obj).info) :=
      .of_objects rfl (.refl _)
    exact hplace.trans launchDriver_silent

theorem disconnectDriver_silent : Silent m (m.disconnectDriver r obj).2 := by
  have hcall : Silent m { m with
      out := ((m.objects obj).disconnect (r.device (m.objects obj).info) m.out).2 } :=
    withOut_silent Device.disconnect_silent
  unfold disconnectDriver
  dsimp only
  split
  case isTrue => exact hcall
  case isFalse => exact hcall.trans removeDriverInfo_silent

theorem removeDevIdOfBundleInfoMap_silent (bundleInfo : Name) :
    Silent m (m.removeDevIdOfBundleInfoMap r obj bundleInfo).2 := by
  unfold removeDevIdOfBundleInfoMap
  split
  case isTrue => exact .refl m
  case isFalse =>
    split
    · exact .refl m
    · split
      case isTrue => exact .of_objects rfl (.refl _)
      case isFalse =>
        have herase : Silent m (m.eraseBundle bundleInfo) := .of_objects rfl (.refl _)
        exact herase.trans disconnectDriver_silent

theorem forgetDriver_silent : Silent m (m.forgetDriver obj) := by
  have hset : Silent m (m.setDevice obj (m.objects obj).removeBundleInfo.clearDrvExtRemote) :=
    setDevice_silent ⟨rfl, rfl⟩
  exact hset.trans removeDriverInfo_silent

theorem rematchDevice_silent : Silent m (m.rematchDevice r obj) := by
  unfold rematchDevice
  split
  case isTrue => exact .refl m
  case isFalse =>
    split
    · exact .refl m
    · rename_i driverInfo _
      have hset : Silent m (m.setDevice obj
          ((m.objects obj).addBundleInfo driverInfo.bundleInfo driverInfo)) :=
        setDevice_silent ⟨rfl, rfl⟩
      exact hset.trans (addDevIdOfBundleInfoMap_silent _)

theorem Silent.foldl {f : ExtDeviceManager → DeviceId → ExtDeviceManager}
    (hf : ∀ m id, Silent m (f m id)) (order : List DeviceId) (m : ExtDeviceManager) :
    Silent m (order.foldl f m) := by
  induction order generalizing m with
  | nil => exact .refl m
  | cons id order ih => exact (hf m id).trans (ih _)

theorem matchDriverInfo_silent (deviceIds : Finset DeviceId) (id : DeviceId) :
    Silent m (m.matchDriverInfo r deviceIds id) := by
  unfold matchDriverInfo
  split
  · exact .refl m
  · split
    case isTrue => exact forgetDriver_silent.trans rematchDevice_silent
    case isFalse => exact rematchDevice_silent

theorem onBundlesUpdated_silent (bundleName : Name) (order : List DeviceId) :
    Silent m (m.onBundlesUpdated r bundleName order) := by
  have hdelete : Silent m (m.deleteBundlesOfBundleInfoMap bundleName).2 := by
    unfold deleteBundlesOfBundleInfoMap
    split
    case isTrue => exact .of_objects rfl (.refl _)
    case isFalse => exact .of_objects rfl (.refl _)
  exact hdelete.trans (.foldl (fun _ _ => matchDriverInfo_silent _ _) order _)

theorem clearMatchedDriver_silent (userId : Int) (id : DeviceId) :
    Silent m (m.clearMatchedDriver r userId id) := by
  unfold clearMatchedDriver
  split
  · exact .refl m
  · dsimp only
    split
    case isTrue =>
      split
      · have herase (b : Name) {out : Outside} (hout : Emits Event.silent m.out out) :
            Silent m ({ m with out }.eraseBundle b) := .of_objects rfl hout
        exact (herase _ (stopDriverExtension_silent ..)).trans forgetDriver_silent
      · exact .refl m
    case isFalse => exact .refl m

theorem clearMatchedDrivers_silent (userId : Int) (order : List DeviceId) :
    Silent m (m.clearMatchedDrivers r userId order) := by
  have hloop := Silent.foldl (f := clearMatchedDriver r userId)
    (fun _ _ => clearMatchedDriver_silent _ _) order m
  exact ⟨hloop.objects, hloop.out⟩

theorem unLoadSelf_silent : Silent m (m.unLoadSelf r) := by
  refine .of_objects unLoadSelf_objects ?_
  have hstop : Emits Event.silent m.out
      ((m.out.emit (.timerUnregister m.unloadSelftimerId)).emit .timerShutdown) :=
    (emits_emit rfl).trans (emits_emit rfl)
  unfold unLoadSelf
  dsimp only
  split
  case isTrue => exact hstop
  case isFalse =>
    have hsetup := hstop.trans (emits_emit (e := .timerSetup r.timerSetup) rfl)
    split
    case isTrue => exact hsetup
    case isFalse => exact hsetup.trans (emits_emit rfl)

theorem makeDevice_silent (devInfo : DeviceId) : Silent m (m.makeDevice devInfo) := by
  refine ⟨fun obj => ?_, .refl _⟩
  by_cases hobj : obj = m.nextObject
  · subst hobj
    exact .inl (congrArg Device.callbacks makeDevice_self)
  · have hkept : (m.makeDevice devInfo).objects obj = m.objects obj := Function.update_of_ne hobj _ _
    rw [hkept]
    exact .inr (.refl _)

theorem startDevice_silent (devInfo : DeviceId) : Silent m (m.startDevice r devInfo obj).2 := by
  have hmatch : Silent m (m.matchDevice r devInfo obj) := by
    unfold matchDevice
    split
    case isTrue =>
      split
      · exact .refl m
      · exact setDevice_silent ⟨rfl, rfl⟩
    case isFalse => exact .refl m
  have hstop : Silent m (m.matchDevice r devInfo obj).stopUnloadTimer := hmatch.trans (emit_silent rfl)
  unfold startDevice
  dsimp only
  split
  case isTrue => exact hstop
  case isFalse =>
    have hadd : Silent m ((m.matchDevice r devInfo obj).stopUnloadTimer.addDevIdOfBundleInfoMap r obj
        ((m.matchDevice r devInfo obj).stopUnloadTimer.objects obj).bundleInfo).2 :=
      hstop.trans (addDevIdOfBundleInfoMap_silent _)
    split
    case isTrue => exact hadd
    case isFalse => exact hadd

theorem registerDevice_silent (devInfo : DeviceId) : Silent m (m.registerDevice r devInfo).2 := by
  unfold registerDevice
  split
  · split
    case isTrue => exact .refl m
    case isFalse => exact startDevice_silent devInfo
  · exact (makeDevice_silent devInfo).trans (startDevice_silent devInfo)

theorem unRegisterDevice_silent (devInfo : DeviceId) : Silent m (m.unRegisterDevice r devInfo).2 := by
  have hdetach (obj : Nat) : Silent m ((m.detachDevice devInfo obj).unLoadSelf r) := by
    refine .trans ?_ unLoadSelf_silent
    unfold detachDevice
    split
    case isTrue => exact setDevice_silent ⟨rfl, rfl⟩
    case isFalse => exact .of_objects rfl (.refl _)
  unfold unRegisterDevice
  split
  · exact .refl m
  · dsimp only
    split
    case isTrue => exact hdetach _
    case isFalse => exact (hdetach _).trans (removeDevIdOfBundleInfoMap_silent _)

theorem unbind_silent (token : UInt32) : Silent m (m.unbind r obj token).2 := by
  unfold unbind
  split
  · exact .refl m
  · split
    case isTrue => exact setDevice_silent ⟨rfl, rfl⟩
    case isFalse => exact withOut_silent Device.disconnect_silent

theorem disConnectDevice_silent (deviceId : DeviceId) (token : UInt32) :
    Silent m (m.disConnectDevice r deviceId token).2 := by
  unfold disConnectDevice
  split
  · exact .refl m
  · exact unbind_silent token

theorem disConnectDriverWithDeviceId_silent (deviceId : DeviceId) (token : UInt32) :
    Silent m (m.disConnectDriverWithDeviceId r deviceId token).2 := by
  unfold disConnectDriverWithDeviceId
  split
  · exact .refl m
  · split
    case isTrue => exact .refl m
    case isFalse => exact unbind_silent token

theorem stopExtension_silent : Silent m (m.stopExtension r obj) :=
  withOut_silent (stopDriverExtension_silent ..)

end ExtDeviceManager

/-! ## Steps -/

/-- The operations that tell no client anything. -/
def Action.IsSilent : Action → Prop
  | .connectDevice .. | .connectDriverWithDeviceId .. | .onConnect .. | .onDisconnect ..
  | .remoteDied .. => False
  | _ => True

open ExtDeviceManager in
theorem System.step_silent (s : System) {a : Action} (ha : a.IsSilent) :
    Silent s.manager (s.step a).manager := by
  cases a with
  | registerDevice r devInfo => exact registerDevice_silent devInfo
  | unRegisterDevice r devInfo => exact unRegisterDevice_silent devInfo
  | onBundlesUpdated r bundleName order => exact onBundlesUpdated_silent bundleName order
  | clearMatchedDrivers r userId order => exact clearMatchedDrivers_silent userId order
  | disConnectDevice r id token => exact disConnectDevice_silent id token
  | disConnectDriverWithDeviceId r id token => exact disConnectDriverWithDeviceId_silent id token
  | removeDeviceOfDeviceMap r obj =>
    have herase : Silent s.manager (s.manager.removeDeviceOfDeviceMap obj) :=
      .of_objects rfl (.refl _)
    exact herase.trans stopExtension_silent
  | connectDevice => exact ha.elim
  | connectDriverWithDeviceId => exact ha.elim
  | onConnect => exact ha.elim
  | onDisconnect => exact ha.elim
  | remoteDied => exact ha.elim

end ExtDevMgr.Manager
