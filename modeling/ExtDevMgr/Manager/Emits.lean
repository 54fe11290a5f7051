import ExtDevMgr.Manager.Frames

/-!
# What the operations call

Every operation only adds to the log of the calls made outside the service. The operations of a device
call the ability manager and the clients, neither the driver change listener nor the timer.
-/

namespace ExtDevMgr.Manager

/-- A call of the ability manager or of a client. -/
def Event.ofDevice : Event → Bool
  | .connectAbility .. | .disconnectAbility .. | .stopExtensionAbility .. | .addDeathRecipient ..
  | .onConnect .. | .onUnBind .. | .onDisconnect .. => true
  | .onDriverMatched _ | .onDriverRemoved _ | .timerUnregister _ | .timerShutdown | .timerSetup _
  | .timerRegister .. => false

namespace Outside

/-- `o'` has the calls of `o` and newer ones that all meet `p`. -/
def Emits (p : Event → Bool) (o o' : Outside) : Prop :=
  ∃ es, o'.log = es ++ o.log ∧ ∀ e ∈ es, p e = true

variable {p q : Event → Bool} {o o' o'' : Outside} {e : Event} {es : List Event}

theorem Emits.of_log (h : o'.log = o.log) : Emits p o o' := ⟨[], h, nofun⟩

theorem Emits.refl (o : Outside) : Emits p o o := .of_log rfl

theorem Emits.trans (h : Emits p o o') (h' : Emits p o' o'') : Emits p o o'' := by
  obtain ⟨es, hlog, hes⟩ := h
  obtain ⟨es', hlog', hes'⟩ := h'
  refine ⟨es' ++ es, by rw [hlog', hlog, List.append_assoc], ?_⟩
  intro e he
  rcases List.mem_append.mp he with he | he
  · exact hes' e he
  · exact hes e he

theorem Emits.mono (h : Emits p o o') (hpq : ∀ e, p e = true → q e = true) : Emits q o o' := by
  obtain ⟨es, hlog, hes⟩ := h
  exact ⟨es, hlog, fun e he => hpq e (hes e he)⟩

theorem emits_emit (h : p e = true) : Emits p o (o.emit e) := by
  refine ⟨[e], rfl, ?_⟩
  intro e' he'
  cases List.mem_singleton.mp he'
  exact h

theorem emits_emitAll (h : ∀ e ∈ es, p e = true) : Emits p o (o.emitAll es) :=
  ⟨es.reverse, rfl, fun e he => h e (List.mem_reverse.mp he)⟩

/-- The calls that `o'` has more than `o`, which it follows. -/
def newEvents (o o' : Outside) : List Event := o'.log.take (o'.log.length - o.log.length)

theorem newEvents_eq (h : o'.log = es ++ o.log) : o.newEvents o' = es := by
  rw [newEvents, h, List.length_append, Nat.add_sub_cancel]
  exact List.take_left

end Outside

open Outside

theorem stopDriverExtension_emits (reply : Option Int) (bundleName abilityName : Name) (userId : Int)
    (o : Outside) :
    Emits Event.ofDevice o (stopDriverExtension reply bundleName abilityName userId o).2 := by
  unfold stopDriverExtension
  cases reply with
  | none => exact .refl o
  | some ret =>
    dsimp only
    split
    case isTrue => exact emits_emit rfl
    case isFalse => exact emits_emit rfl

theorem connectDriverExtension_emits (reply : Option Int) (bundleName abilityName : Name)
    (callback : Option DrvExtConnNotify) (deviceId : UInt32) (o : Outside) :
    Emits Event.ofDevice o
      (connectDriverExtension reply bundleName abilityName callback deviceId o).2.2 := by
  unfold connectDriverExtension
  cases callback with
  | none => exact .refl o
  | some notify =>
    have halloc : Emits Event.ofDevice o o.alloc := .of_log rfl
    dsimp only
    split
    case isTrue => exact .refl o
    case isFalse =>
      cases reply with
      | none => exact halloc
      | some ret =>
        dsimp only
        split
        case isTrue => exact halloc.trans (emits_emit rfl)
        case isFalse => exact halloc.trans (emits_emit rfl)

theorem disconnectDriverExtension_emits (reply : Option Int) (bundleName abilityName : Name)
    (callback : Option DrvExtConnNotify) (deviceId : UInt32) (o : Outside) :
    Emits Event.ofDevice o
      (disconnectDriverExtension reply bundleName abilityName callback deviceId o).2 := by
  unfold disconnectDriverExtension
  cases callback with
  | none => exact .refl o
  | some notify =>
    dsimp only
    cases notify.info with
    | none => exact .refl o
    | some info =>
      dsimp only
      split
      case isTrue => exact .refl o
      case isFalse =>
        cases reply with
        | none => exact .refl o
        | some ret =>
          dsimp only
          split
          case isTrue => exact emits_emit rfl
          case isFalse => exact emits_emit rfl

namespace Device
variable {d : Device} {r : DeviceReplies} {o : Outside}

theorem addDrvExtConnNotify_emits : Emits Event.ofDevice o (d.addDrvExtConnNotify o).2 := by
  unfold addDrvExtConnNotify
  split
  case isTrue => exact .of_log rfl
  case isFalse => exact .refl o

theorem connectExtension_emits (reply : Option Int) :
    Emits Event.ofDevice o (d.connectExtension reply o).2.2 :=
  connectDriverExtension_emits ..

theorem reconnect_emits (n : Nat) (ret : UsbErrCode) :
    Emits Event.ofDevice o (reconnect r n ret d o).2.2 := by
  induction n generalizing ret d o with
  | zero => exact .refl o
  | succ n ih =>
    rw [reconnect]
    split
    case isTrue => exact .refl o
    case isFalse => exact (connectExtension_emits _).trans (ih _)

theorem connect_emits : Emits Event.ofDevice o (connect r d o).2.2 :=
  (addDrvExtConnNotify_emits.trans (connectExtension_emits _)).trans (reconnect_emits _ _)

theorem registerDrvExtMgrCallback_emits (callback : Option DriverExtMgrCallback) :
    Emits Event.ofDevice o (d.registerDrvExtMgrCallback r callback o).2.2 := by
  unfold registerDrvExtMgrCallback
  cases callback with
  | none => exact .refl o
  | some callback =>
    dsimp only
    split
    case isTrue => exact emits_emit rfl
    case isFalse => exact emits_emit rfl

theorem connectWith_emits (callback : Option DriverExtMgrCallback) (token : UInt32) :
    Emits Event.ofDevice o (d.connectWith r callback token o).2.2 := by
  have hreg (o : Outside) : Emits Event.ofDevice o (d.registerDrvExtMgrCallback r callback o).2.2 :=
    registerDrvExtMgrCallback_emits callback
  unfold connectWith
  split
  case isTrue =>
    have hcall : Emits Event.ofDevice o (o.emit (.onConnect callback d.info d.drvExtRemote 0)) :=
      emits_emit rfl
    dsimp only
    split
    case isTrue => exact hcall.trans (hreg _)
    case isFalse => exact hcall.trans (hreg _)
  case isFalse =>
    have h := hreg o
    generalize d.registerDrvExtMgrCallback r callback o = registered at h ⊢
    obtain ⟨ret, d', o'⟩ := registered
    dsimp only at h ⊢
    split
    case isTrue => exact h
    case isFalse =>
      have hupdate : Emits Event.ofDevice o (d'.updateDrvExtConnNotify o').2 :=
        h.trans (.of_log rfl)
      have hadd := hupdate.trans (addDrvExtConnNotify_emits (d := (d'.updateDrvExtConnNotify o').1))
      split
      case isTrue =>
        apply hadd.trans
        dsimp only
        exact connectExtension_emits _
      case isFalse => exact hadd.trans (connectExtension_emits _)

theorem disconnect_emits : Emits Event.ofDevice o (d.disconnect r o).2 := by
  unfold disconnect
  split
  case isTrue => exact .refl o
  case isFalse => exact disconnectDriverExtension_emits ..

theorem onConnect_emits (remote : Option Nat) (resultCode : Int) :
    Emits Event.ofDevice o (d.onConnect remote resultCode o).2 := by
  apply emits_emitAll
  intro e he
  obtain ⟨callback, -, rfl⟩ := List.mem_map.mp he
  rfl

theorem onDisconnect_emits (resultCode : Int) :
    Emits Event.ofDevice o (d.onDisconnect resultCode o).2 := by
  apply emits_emitAll
  intro e he
  obtain ⟨callback, -, he⟩ := List.mem_flatMap.mp he
  rcases List.mem_pair.mp he with rfl | rfl
  · rfl
  · rfl

theorem stopExtension_emits : Emits Event.ofDevice o (d.stopExtension r o) :=
  stopDriverExtension_emits ..

end Device

namespace ExtDeviceManager
variable {m : ExtDeviceManager} {r : Replies} {obj : Nat}

theorem connectDevice_emits (deviceId : DeviceId) (token : UInt32)
    (callback : Option DriverExtMgrCallback) :
    Emits Event.ofDevice m.out (m.connectDevice r deviceId token callback).2.out := by
  unfold connectDevice
  split
  · exact .refl m.out
  · exact Device.connectWith_emits callback token

theorem connectDriverWithDeviceId_emits (access : AccessReplies) (deviceId : DeviceId)
    (token : UInt32) (appIds : Finset Name) (callback : Option DriverExtMgrCallback) :
    Emits Event.ofDevice m.out
      (m.connectDriverWithDeviceId r access deviceId token appIds callback).2.out := by
  unfold connectDriverWithDeviceId
  split
  · exact .refl m.out
  · dsimp only
    split
    case isTrue => exact .refl m.out
    case isFalse => exact Device.connectWith_emits callback token

theorem unbind_emits (token : UInt32) : Emits Event.ofDevice m.out (m.unbind r obj token).2.out := by
  unfold unbind
  split
  · exact .refl m.out
  · split
    case isTrue => exact .refl m.out
    case isFalse => exact Device.disconnect_emits

theorem disConnectDevice_emits (deviceId : DeviceId) (token : UInt32) :
    Emits Event.ofDevice m.out (m.disConnectDevice r deviceId token).2.out := by
  unfold disConnectDevice
  split
  · exact .refl m.out
  · exact unbind_emits token

theorem disConnectDriverWithDeviceId_emits (deviceId : DeviceId) (token : UInt32) :
    Emits Event.ofDevice m.out (m.disConnectDriverWithDeviceId r deviceId token).2.out := by
  unfold disConnectDriverWithDeviceId
  split
  · exact .refl m.out
  · split
    case isTrue => exact .refl m.out
    case isFalse => exact unbind_emits token

end ExtDeviceManager
end ExtDevMgr.Manager
