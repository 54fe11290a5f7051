import Mathlib.Data.List.Nodup
import ExtDevMgr.Js.DeviceManagerMiddle

/-!
# Answers to the calls

Whatever the service calls back and whenever, a reference to a disconnect callback and the callback or
promise of an unbind are used at most once, and an answer goes to the call that asked for it: behind it,
in the same thread, and with its device id (`answers_once`).
-/

namespace ExtDevMgr.Js
open Manager (DeviceId UsbErrCode)

inductive Slot
  | bindCallback
  | onDisconnect
  | unbindCallback
  | bindDeferred
  | unbindDeferred
  deriving DecidableEq

/-- What a disconnect uses up. -/
def Slot.Final : Slot → Prop
  | .bindCallback | .bindDeferred => False
  | _ => True

def AsyncData.handle (a : AsyncData) : Slot → Option Nat
  | .bindCallback => a.bindCallback
  | .onDisconnect => a.onDisconnect
  | .unbindCallback => a.unbindCallback
  | .bindDeferred => a.bindDeferred
  | .unbindDeferred => a.unbindDeferred

variable {N : Type}

/-- The handle that the event uses up. -/
def Event.settles : Event N → Option Nat
  | .disconnected handle .. | .unbound handle .. => some handle
  | _ => none

def Event.disconnected? : Event N → Option Nat
  | .disconnected handle .. => some handle
  | _ => none

def Event.unbound? : Event N → Option Nat
  | .unbound handle .. => some handle
  | _ => none

section
variable (num : Numbers N) (log : List (Nat × Event N))

/-- The call that the handle in the slot belongs to. -/
def Registered (a : AsyncData) (handle : Nat) : Slot → Prop
  | .onDisconnect =>
    ∃ id, parseDeviceId num id = some a.deviceId ∧ (a.env, .bindDevice id handle) ∈ log
  | .bindCallback | .bindDeferred => (a.env, .awaitBind a.deviceId handle) ∈ log
  | .unbindCallback | .unbindDeferred => ∃ env, (env, .awaitUnbind a.deviceId handle) ∈ log

/-- `log` has the call that the event answers. -/
def Follows : Nat × Event N → Prop
  | (env, .disconnected handle _ id) => ∃ id' deviceId, parseDeviceId num id = some deviceId ∧
      parseDeviceId num id' = some deviceId ∧ (env, .bindDevice id' handle) ∈ log
  | (env, .bound handle _ id _) => ∃ deviceId, parseDeviceId num id = some deviceId ∧
      (env, .awaitBind deviceId handle) ∈ log
  | (_, .unbound handle _ id) => ∃ env deviceId, parseDeviceId num id = some deviceId ∧
      (env, .awaitUnbind deviceId handle) ∈ log
  | _ => True

/-- Every event follows the call that it answers. -/
def Answers : List (Nat × Event N) → Prop
  | [] => True
  | e :: log => Follows num log e ∧ Answers log

variable {num log}

theorem Registered.mono {log' : List (Nat × Event N)} {a : AsyncData} {handle : Nat} {slot : Slot}
    (h : Registered num log a handle slot) (hlog : ∀ e ∈ log, e ∈ log') :
    Registered num log' a handle slot := by
  cases slot with
  | onDisconnect =>
    obtain ⟨id, hid, hmem⟩ := h
    exact ⟨id, hid, hlog _ hmem⟩
  | bindCallback | bindDeferred => exact hlog _ h
  | unbindCallback | unbindDeferred =>
    obtain ⟨env, hmem⟩ := h
    exact ⟨env, hlog _ hmem⟩

theorem Registered.congr {a b : AsyncData} {handle : Nat} {slot : Slot}
    (h : Registered num log a handle slot) (hid : b.deviceId = a.deviceId) (henv : b.env = a.env) :
    Registered num log b handle slot := by
  cases slot <;> simpa only [Registered, hid, henv] using h

theorem Answers.follows {front back : List (Nat × Event N)} {e : Nat × Event N}
    (h : Answers num (front ++ e :: back)) : Follows num back e := by
  induction front with
  | nil => exact h.1
  | cons _ front ih => exact ih h.2

end

theorem getElem?_modify_eq_some {α : Type*} {l : List α} {i j : Nat} {f : α → α} {b : α} :
    (l.modify i f)[j]? = some b ↔ ∃ a, l[j]? = some a ∧ b = if i = j then f a else a := by
  rw [List.getElem?_modify, Option.map_eq_map, Option.map_eq_some_iff]
  exact exists_congr fun a => and_congr_right fun _ => eq_comm

theorem getElem?_concat_eq_some {α : Type*} {l : List α} {x a : α} {i : Nat} :
    (l ++ [x])[i]? = some a ↔ l[i]? = some a ∨ i = l.length ∧ a = x := by
  rw [List.getElem?_append]
  split
  case isTrue hlt => exact (or_iff_left fun h => Nat.ne_of_lt hlt h.1).symm
  case isFalse hle =>
    rw [List.getElem?_eq_none (Nat.le_of_not_lt hle), List.getElem?_singleton]
    split
    case isTrue heq =>
      have hi : i = l.length := by omega
      simp [hi, eq_comm]
    case isFalse hne =>
      have hi : i ≠ l.length := by omega
      simp [hi]

/-! ## The invariant -/

namespace Middle

def settled (s : Middle N) (handle : Nat) : Nat :=
  s.log.countP fun e => e.2.settles = some handle

def isDisconnectOf (data : Nat) : Task → Bool
  | .onConnect .. => false
  | .onDisconnect data' _ => data' = data

/-- The disconnects that `a`, the data at `data`, may still be told of. -/
def outstanding (s : Middle N) (data : Nat) (a : AsyncData) : Nat :=
  (if s.callbackMap.lookup a.deviceId = some data then 1 else 0) +
    s.tasks.countP (isDisconnectOf data)

structure WellFormed (num : Numbers N) (s : Middle N) : Prop where
  entry : ∀ {deviceId data}, s.callbackMap.lookup deviceId = some data →
    ∃ a, s.datas[data]? = some a ∧ a.deviceId = deviceId
  frame : ∀ {env api data callback}, s.frames.lookup env = some (.bind api data callback) →
    ∃ a, s.datas[data]? = some a ∧ a.env = env
  task : ∀ {task}, task ∈ s.tasks → task.data < s.datas.length
  fresh : ∀ {data : Nat} {a : AsyncData} {slot handle}, s.datas[data]? = some a →
    a.handle slot = some handle → handle < s.handles
  unique : ∀ {data data' : Nat} {a a' : AsyncData} {slot slot' handle},
    s.datas[data]? = some a → s.datas[data']? = some a' → a.handle slot = some handle →
    a'.handle slot' = some handle → data = data' ∧ slot = slot'
  registered : ∀ {data : Nat} {a : AsyncData} {slot handle}, s.datas[data]? = some a →
    a.handle slot = some handle → Registered num s.log a handle slot
  answers : Answers num s.log
  once : ∀ {data : Nat} {a : AsyncData}, s.datas[data]? = some a → s.outstanding data a ≤ 1
  unsettled : ∀ {data : Nat} {a : AsyncData} {slot handle}, s.datas[data]? = some a →
    s.outstanding data a = 1 → slot.Final → a.handle slot = some handle → s.settled handle = 0
  settled_le : ∀ handle, s.settled handle ≤ 1
  settled_fresh : ∀ {handle}, s.handles ≤ handle → s.settled handle = 0

variable {num : Numbers N} {s : Middle N}

theorem wellFormed_init : WellFormed num ({} : Middle N) where
  entry h := by cases h
  frame h := by cases h
  task h := by cases h
  fresh h := by cases h
  unique h := by cases h
  registered h := by cases h
  answers := trivial
  once h := by cases h
  unsettled h := by cases h
  settled_le _ := Nat.zero_le _
  settled_fresh _ := rfl

theorem settled_cons (s : Middle N) (e : Nat × Event N) (handle : Nat) :
    ({ s with log := e :: s.log } : Middle N).settled handle =
      s.settled handle + if e.2.settles = some handle then 1 else 0 := by
  simp [settled, List.countP_cons]

/-- The device that a call with these arguments binds. -/
def bindTarget (num : Numbers N) : List (JsValue N) → Option DeviceId
  | id :: onDisconnect :: _ => if onDisconnect.isFunction then parseDeviceId num id else none
  | _ => none

/-- A call of bind either throws, or it goes on to wait with its device entered. -/
theorem bindCall_cases (num : Numbers N) (s : Middle N) (api : Api) (env : Nat)
    (argv : List (JsValue N)) :
    bindTarget num argv = none ∧ bindCall num s api env argv = s.throwErr env parameterError ∨
      ∃ id deviceId callback, bindTarget num argv = some deviceId ∧
        parseDeviceId num id = some deviceId ∧
        bindCall num s api env argv = s.enterBind api env id deviceId callback := by
  match argv with
  | [] | [_] => exact .inl ⟨rfl, rfl⟩
  | id :: onDisconnect :: more =>
    unfold bindCall bindTarget
    dsimp only
    cases hid : parseDeviceId num id with
    | none => exact .inl ⟨ite_self _, rfl⟩
    | some deviceId =>
      cases hfunction : onDisconnect.isFunction with
      | false => exact .inl ⟨rfl, rfl⟩
      | true => exact .inr ⟨id, deviceId, _, rfl, hid, rfl⟩

namespace WellFormed

/-! ### What the steps are made of -/

theorem emit (h : WellFormed num s) {env : Nat} {e : Event N} (hsettles : e.settles = none)
    (hfollows : Follows num s.log (env, e)) : WellFormed num (s.emit env e) := by
  have hsettled (handle : Nat) : (s.emit env e).settled handle = s.settled handle := by
    rw [Middle.emit, settled_cons, if_neg (by simp [hsettles]), Nat.add_zero]
  exact
    { entry := h.entry
      frame := h.frame
      task := h.task
      fresh := h.fresh
      unique := h.unique
      registered := fun ha hslot => (h.registered ha hslot).mono fun _ => List.mem_cons_of_mem _
      answers := ⟨hfollows, h.answers⟩
      once := h.once
      unsettled := fun ha hone hfinal hslot => (hsettled _).trans (h.unsettled ha hone hfinal hslot)
      settled_le := fun handle => (hsettled handle).le.trans (h.settled_le handle)
      settled_fresh := fun hle => (hsettled _).trans (h.settled_fresh hle) }

theorem throwErr (h : WellFormed num s) (env : Nat) (errCode : Int) :
    WellFormed num (s.throwErr env errCode) := by
  unfold Middle.throwErr
  split
  · exact h
  · exact h.emit rfl trivial

theorem returned (h : WellFormed num s) (env : Nat) : WellFormed num (s.returned env) :=
  { h with frame := fun hlookup => h.frame (Table.lookup_erase_eq_some.mp hlookup).2 }

/-- Entries leave the map, and tasks come and go, with no more disconnects outstanding. -/
theorem relocate (h : WellFormed num s) {callbackMap : Table DeviceId Nat} {tasks : List Task}
    (hsub : ∀ {deviceId data}, callbackMap.lookup deviceId = some data →
      s.callbackMap.lookup deviceId = some data)
    (htask : ∀ task ∈ tasks, task.data < s.datas.length)
    (hle : ∀ {data : Nat} {a : AsyncData}, s.datas[data]? = some a →
      ({ s with callbackMap, tasks } : Middle N).outstanding data a ≤ s.outstanding data a) :
    WellFormed num { s with callbackMap, tasks } :=
  { h with
    entry := fun hlookup => h.entry (hsub hlookup)
    task := htask _
    once := fun ha => (hle ha).trans (h.once ha)
    unsettled := fun ha hone => h.unsettled ha <| by
      have hbefore := h.once ha
      have hafter := (hle ha).trans' hone.ge
      omega }

theorem lookups_le {callbackMap : Table DeviceId Nat} {deviceId : DeviceId} {data : Nat}
    (hsub : callbackMap.lookup deviceId = some data → s.callbackMap.lookup deviceId = some data) :
    (if callbackMap.lookup deviceId = some data then 1 else 0) ≤
      if s.callbackMap.lookup deviceId = some data then 1 else 0 := by
  split
  case isTrue hlookup => rw [if_pos (hsub hlookup)]
  case isFalse => exact Nat.zero_le _

theorem erase (h : WellFormed num s) (deviceId : DeviceId) :
    WellFormed num { s with callbackMap := s.callbackMap.erase deviceId } :=
  have hsub {id : DeviceId} {data : Nat} :
      (s.callbackMap.erase deviceId).lookup id = some data → s.callbackMap.lookup id = some data :=
    fun hlookup => (Table.lookup_erase_eq_some.mp hlookup).2
  h.relocate hsub (fun _ => h.task) fun _ => Nat.add_le_add_right (lookups_le hsub) _

theorem eraseOwn (h : WellFormed num s) (deviceId : DeviceId) (data : Nat) :
    WellFormed num (s.eraseOwn deviceId data) := by
  unfold Middle.eraseOwn
  split
  · exact h.erase deviceId
  · exact h

/-- Data loses handles, or a field that is none. -/
theorem modifyData (h : WellFormed num s) (data : Nat) {f : AsyncData → AsyncData}
    (hid : ∀ a, (f a).deviceId = a.deviceId) (henv : ∀ a, (f a).env = a.env)
    (hf : ∀ {a slot handle}, (f a).handle slot = some handle → a.handle slot = some handle) :
    WellFormed num (s.modifyData data f) := by
  have hold {data' : Nat} {b : AsyncData} (hb : (s.modifyData data f).datas[data']? = some b) :
      ∃ a, s.datas[data']? = some a ∧ b.deviceId = a.deviceId ∧ b.env = a.env ∧
        ∀ {slot handle}, b.handle slot = some handle → a.handle slot = some handle := by
    obtain ⟨a, ha, rfl⟩ := getElem?_modify_eq_some.mp hb
    refine ⟨a, ha, ?_⟩
    split
    · exact ⟨hid a, henv a, hf⟩
    · exact ⟨rfl, rfl, id⟩
  have hnew {data' : Nat} {a : AsyncData} (ha : s.datas[data']? = some a) :
      ∃ b, (s.modifyData data f).datas[data']? = some b ∧ b.deviceId = a.deviceId ∧
        b.env = a.env := by
    refine ⟨_, getElem?_modify_eq_some.mpr ⟨a, ha, rfl⟩, ?_⟩
    split
    · exact ⟨hid a, henv a⟩
    · exact ⟨rfl, rfl⟩
  have hout {data' : Nat} {a b : AsyncData} (heq : b.deviceId = a.deviceId) :
      (s.modifyData data f).outstanding data' b = s.outstanding data' a := by
    unfold outstanding
    rw [heq]
    rfl
  exact
    { entry := fun hlookup => by
        obtain ⟨a, ha, rfl⟩ := h.entry hlookup
        obtain ⟨b, hb, hid', -⟩ := hnew ha
        exact ⟨b, hb, hid'⟩
      frame := fun hlookup => by
        obtain ⟨a, ha, rfl⟩ := h.frame hlookup
        obtain ⟨b, hb, -, henv'⟩ := hnew ha
        exact ⟨b, hb, henv'⟩
      task := fun ht => (h.task ht).trans_eq (List.length_modify ..).symm
      fresh := fun hb hslot => by
        obtain ⟨a, ha, -, -, hsub⟩ := hold hb
        exact h.fresh ha (hsub hslot)
      unique := fun hb hb' hslot hslot' => by
        obtain ⟨a, ha, -, -, hsub⟩ := hold hb
        obtain ⟨a', ha', -, -, hsub'⟩ := hold hb'
        exact h.unique ha ha' (hsub hslot) (hsub' hslot')
      registered := fun hb hslot => by
        obtain ⟨a, ha, hid', henv', hsub⟩ := hold hb
        exact (h.registered ha (hsub hslot)).congr hid' henv'
      answers := h.answers
      once := fun hb => by
        obtain ⟨a, ha, hid', -, -⟩ := hold hb
        exact (hout hid').le.trans (h.once ha)
      unsettled := fun hb hone hfinal hslot => by
        obtain ⟨a, ha, hid', -, hsub⟩ := hold hb
        exact h.unsettled ha ((hout hid').symm.trans hone) hfinal (hsub hslot)
      settled_le := h.settled_le
      settled_fresh := h.settled_fresh }

/-- A slot of the data is given the next handle. -/
theorem assign (h : WellFormed num s) {data : Nat} {f : AsyncData → AsyncData} {slot : Slot}
    (hid : ∀ a, (f a).deviceId = a.deviceId) (henv : ∀ a, (f a).env = a.env)
    (hf : ∀ a slot', (f a).handle slot' = if slot' = slot then some s.handles else a.handle slot')
    (hreg : ∀ a, s.datas[data]? = some a → Registered num s.log a s.handles slot) :
    WellFormed num { s with datas := s.datas.modify data f, handles := s.handles + 1 } := by
  have hold {data' : Nat} {b : AsyncData} (hb : (s.datas.modify data f)[data']? = some b) :
      ∃ a, s.datas[data']? = some a ∧ b.deviceId = a.deviceId ∧ b.env = a.env ∧
        ∀ {slot' handle}, b.handle slot' = some handle →
          a.handle slot' = some handle ∨ handle = s.handles ∧ data = data' ∧ slot' = slot := by
    obtain ⟨a, ha, rfl⟩ := getElem?_modify_eq_some.mp hb
    refine ⟨a, ha, ?_⟩
    split
    case isTrue heq =>
      refine ⟨hid a, henv a, fun {slot' handle} hslot => ?_⟩
      rw [hf] at hslot
      split at hslot
      case isTrue hslot' => exact .inr ⟨(Option.some.inj hslot).symm, heq, hslot'⟩
      case isFalse => exact .inl hslot
    case isFalse => exact ⟨rfl, rfl, .inl⟩
  have hnew {data' : Nat} {a : AsyncData} (ha : s.datas[data']? = some a) :
      ∃ b, (s.datas.modify data f)[data']? = some b ∧ b.deviceId = a.deviceId ∧ b.env = a.env := by
    refine ⟨_, getElem?_modify_eq_some.mpr ⟨a, ha, rfl⟩, ?_⟩
    split
    · exact ⟨hid a, henv a⟩
    · exact ⟨rfl, rfl⟩
  have hout {data' : Nat} {a b : AsyncData} (heq : b.deviceId = a.deviceId) :
      ({ s with datas := s.datas.modify data f, handles := s.handles + 1 } :
        Middle N).outstanding data' b = s.outstanding data' a := by
    unfold outstanding
    rw [heq]
  exact
    { entry := fun hlookup => by
        obtain ⟨a, ha, rfl⟩ := h.entry hlookup
        obtain ⟨b, hb, hid', -⟩ := hnew ha
        exact ⟨b, hb, hid'⟩
      frame := fun hlookup => by
        obtain ⟨a, ha, rfl⟩ := h.frame hlookup
        obtain ⟨b, hb, -, henv'⟩ := hnew ha
        exact ⟨b, hb, henv'⟩
      task := fun ht => (h.task ht).trans_eq (List.length_modify ..).symm
      fresh := fun hb hslot => by
        obtain ⟨a, ha, -, -, hsub⟩ := hold hb
        obtain hslot | ⟨rfl, -, -⟩ := hsub hslot
        · exact Nat.lt_succ_of_lt (h.fresh ha hslot)
        · exact Nat.lt_succ_self _
      unique := fun hb hb' hslot hslot' => by
        obtain ⟨a, ha, -, -, hsub⟩ := hold hb
        obtain ⟨a', ha', -, -, hsub'⟩ := hold hb'
        obtain hslot | ⟨rfl, rfl, rfl⟩ := hsub hslot
        · obtain hslot' | ⟨rfl, -, -⟩ := hsub' hslot'
          · exact h.unique ha ha' hslot hslot'
          · exact absurd (h.fresh ha hslot) (Nat.lt_irrefl _)
        · obtain hslot' | ⟨-, rfl, rfl⟩ := hsub' hslot'
          · exact absurd (h.fresh ha' hslot') (Nat.lt_irrefl _)
          · exact ⟨rfl, rfl⟩
      registered := fun hb hslot => by
        obtain ⟨a, ha, hid', henv', hsub⟩ := hold hb
        obtain hslot | ⟨rfl, rfl, rfl⟩ := hsub hslot
        · exact (h.registered ha hslot).congr hid' henv'
        · exact (hreg a ha).congr hid' henv'
      answers := h.answers
      once := fun hb => by
        obtain ⟨a, ha, hid', -, -⟩ := hold hb
        exact (hout hid').le.trans (h.once ha)
      unsettled := fun hb hone hfinal hslot => by
        obtain ⟨a, ha, hid', -, hsub⟩ := hold hb
        obtain hslot | ⟨rfl, -, -⟩ := hsub hslot
        · exact h.unsettled ha ((hout hid').symm.trans hone) hfinal hslot
        · exact h.settled_fresh (Nat.le_refl _)
      settled_le := h.settled_le
      settled_fresh := fun hle => h.settled_fresh (Nat.le_of_succ_le hle) }

/-- A handle is used up that no disconnect is outstanding for any more. -/
theorem settle (h : WellFormed num s) {data env handle : Nat} {a : AsyncData} {slot : Slot}
    {e : Event N} (ha : s.datas[data]? = some a) (hout : s.outstanding data a = 0)
    (hslot : a.handle slot = some handle) (hsettled : s.settled handle = 0)
    (hsettles : e.settles = some handle) (hfollows : Follows num s.log (env, e)) :
    WellFormed num (s.emit env e) := by
  have hother {handle' : Nat} (hne : handle' ≠ handle) :
      (s.emit env e).settled handle' = s.settled handle' := by
    rw [Middle.emit, settled_cons, hsettles, if_neg (by simpa using hne.symm), Nat.add_zero]
  have hself : (s.emit env e).settled handle = 1 := by
    rw [Middle.emit, settled_cons, hsettles, if_pos rfl, hsettled]
  exact
    { entry := h.entry
      frame := h.frame
      task := h.task
      fresh := h.fresh
      unique := h.unique
      registered := fun ha hslot => (h.registered ha hslot).mono fun _ => List.mem_cons_of_mem _
      answers := ⟨hfollows, h.answers⟩
      once := h.once
      unsettled := fun {data' a' slot' handle'} ha' hone hfinal hslot' => by
        have hne : handle' ≠ handle := by
          rintro rfl
          obtain ⟨rfl, -⟩ := h.unique ha ha' hslot hslot'
          cases ha.symm.trans ha'
          have hone' : s.outstanding data a = 1 := hone
          omega
        exact (hother hne).trans (h.unsettled ha' hone hfinal hslot')
      settled_le := fun handle' => by
        by_cases heq : handle' = handle
        · exact heq ▸ hself.le
        · exact (hother heq).le.trans (h.settled_le handle')
      settled_fresh := fun {handle'} hle => by
        have hne : handle' ≠ handle := by
          rintro rfl
          exact absurd (h.fresh ha hslot) (Nat.not_lt.mpr hle)
        exact (hother hne).trans (h.settled_fresh hle) }

/-! ### Binding -/

theorem countP_new (h : WellFormed num s) :
    s.tasks.countP (isDisconnectOf s.datas.length) = 0 := by
  rw [List.countP_eq_zero]
  intro task ht
  have hlt := h.task ht
  cases task with
  | onConnect => exact Bool.false_ne_true
  | onDisconnect data =>
    have hne : data ≠ s.datas.length := Nat.ne_of_lt hlt
    simpa [isDisconnectOf] using hne

theorem enterBind (h : WellFormed num s) (api : Api) (env : Nat) {id : JsValue N}
    {deviceId : DeviceId} (hid : parseDeviceId num id = some deviceId) (callback : Bool) :
    WellFormed num (s.enterBind api env id deviceId callback) := by
  unfold Middle.enterBind
  have hout {data : Nat} {a : AsyncData} (ha : s.datas[data]? = some a) :
      (if (s.callbackMap.insert deviceId s.datas.length).lookup a.deviceId = some data then 1 else 0)
        + s.tasks.countP (isDisconnectOf data) ≤ s.outstanding data a := by
    refine Nat.add_le_add_right (lookups_le fun hlookup => ?_) _
    by_cases heq : a.deviceId = deviceId
    · rw [heq, AList.lookup_insert] at hlookup
      cases hlookup
      exact absurd (List.getElem?_eq_some_iff.mp ha).1 (Nat.lt_irrefl _)
    · rwa [AList.lookup_insert_ne heq] at hlookup
  have hsettled (handle : Nat) : ({ s with log := (env, .bindDevice id s.handles) :: s.log } :
      Middle N).settled handle = s.settled handle := by
    rw [settled_cons, if_neg nofun, Nat.add_zero]
  exact
    { entry := fun {id data} hlookup => by
        by_cases heq : id = deviceId
        · subst heq
          rw [AList.lookup_insert] at hlookup
          cases hlookup
          exact ⟨_, List.getElem?_concat_length, rfl⟩
        · rw [AList.lookup_insert_ne heq] at hlookup
          obtain ⟨a, ha, hida⟩ := h.entry hlookup
          exact ⟨a, getElem?_concat_eq_some.mpr (.inl ha), hida⟩
      frame := fun {env' _ data _} hlookup => by
        by_cases heq : env' = env
        · subst heq
          rw [AList.lookup_insert] at hlookup
          cases hlookup
          exact ⟨_, List.getElem?_concat_length, rfl⟩
        · rw [AList.lookup_insert_ne heq] at hlookup
          obtain ⟨a, ha, henv⟩ := h.frame hlookup
          exact ⟨a, getElem?_concat_eq_some.mpr (.inl ha), henv⟩
      task := fun ht => (h.task ht).trans (by simp)
      fresh := fun hb hslot => by
        obtain ha | ⟨-, rfl⟩ := getElem?_concat_eq_some.mp hb
        · exact Nat.lt_succ_of_lt (h.fresh ha hslot)
        · rename_i slot _
          cases slot <;> cases hslot
          exact Nat.lt_succ_self _
      unique := fun {data data' a a' slot slot' _} hb hb' hslot hslot' => by
        obtain ha | ⟨rfl, rfl⟩ := getElem?_concat_eq_some.mp hb
        · obtain ha' | ⟨-, rfl⟩ := getElem?_concat_eq_some.mp hb'
          · exact h.unique ha ha' hslot hslot'
          · cases slot' <;> cases hslot'
            exact absurd (h.fresh ha hslot) (Nat.lt_irrefl _)
        · obtain ha' | ⟨rfl, rfl⟩ := getElem?_concat_eq_some.mp hb'
          · cases slot <;> cases hslot
            exact absurd (h.fresh ha' hslot') (Nat.lt_irrefl _)
          · cases slot <;> cases hslot
            cases slot' <;> cases hslot'
            exact ⟨rfl, rfl⟩
      registered := fun {_ _ slot _} hb hslot => by
        obtain ha | ⟨-, rfl⟩ := getElem?_concat_eq_some.mp hb
        · exact (h.registered ha hslot).mono fun _ => List.mem_cons_of_mem _
        · cases slot <;> cases hslot
          exact ⟨id, hid, List.mem_cons_self⟩
      answers := ⟨trivial, h.answers⟩
      once := fun hb => by
        obtain ha | ⟨rfl, rfl⟩ := getElem?_concat_eq_some.mp hb
        · exact (hout ha).trans (h.once ha)
        · have hone : (if (s.callbackMap.insert deviceId s.datas.length).lookup deviceId =
              some s.datas.length then 1 else 0) ≤ 1 := by
            split <;> decide
          exact Nat.add_le_add hone h.countP_new.le
      unsettled := fun {_ _ slot _} hb hone hfinal hslot => by
        obtain ha | ⟨-, rfl⟩ := getElem?_concat_eq_some.mp hb
        · refine (hsettled _).trans (h.unsettled ha ?_ hfinal hslot)
          have hbefore := h.once ha
          have hafter := (hout ha).trans' hone.ge
          omega
        · cases slot <;> cases hslot
          exact (hsettled _).trans (h.settled_fresh (Nat.le_refl _))
      settled_le := fun handle => (hsettled handle).le.trans (h.settled_le handle)
      settled_fresh := fun hle => (hsettled _).trans (h.settled_fresh (Nat.le_of_succ_le hle)) }

theorem bindCall (h : WellFormed num s) (api : Api) (env : Nat) (argv : List (JsValue N)) :
    WellFormed num (bindCall num s api env argv) := by
  obtain ⟨-, heq⟩ | ⟨id, deviceId, callback, -, hid, heq⟩ := bindCall_cases num s api env argv
  · exact heq ▸ h.throwErr env parameterError
  · exact heq ▸ h.enterBind api env hid callback

theorem setBindHandle_handle (callback : Bool) (handle : Nat) (a : AsyncData) (slot : Slot) :
    (setBindHandle callback handle a).handle slot =
      if slot = (if callback then .bindCallback else .bindDeferred) then some handle
      else a.handle slot := by
  cases callback <;> cases slot <;> rfl

theorem abandon (h : WellFormed num s) (data : Nat) : WellFormed num (s.abandon data) := by
  unfold Middle.abandon
  split
  · exact h
  · refine (h.eraseOwn _ data).modifyData data (fun _ => rfl) (fun _ => rfl) ?_
    intro a slot handle hslot
    cases slot with
    | onDisconnect => cases hslot
    | bindCallback | unbindCallback | bindDeferred | unbindDeferred => exact hslot

theorem bindReturned (h : WellFormed num s) {api : Api} {env data : Nat} {callback : Bool}
    (hframe : s.frames.lookup env = some (.bind api data callback)) (retCode : UsbErrCode)
    (status : Bool) : WellFormed num (s.bindReturned api env data callback retCode status) := by
  unfold Middle.bindReturned
  split
  · exact ((h.abandon data).throwErr env _).returned env
  split
  · exact ((h.abandon data).throwErr env _).returned env
  split
  case h_1 => exact h
  case h_2 d hd =>
    obtain ⟨a, ha, rfl⟩ := h.frame hframe
    cases ha.symm.trans hd
    refine WellFormed.returned ?_ d.env
    have hawait : Follows num s.log (d.env, .awaitBind d.deviceId s.handles) := trivial
    have hemit := h.emit rfl hawait
    refine hemit.assign (fun _ => ?_) (fun _ => ?_) (setBindHandle_handle callback s.handles)
      (fun b hb => ?_)
    · unfold setBindHandle; split <;> rfl
    · unfold setBindHandle; split <;> rfl
    · cases ha.symm.trans hb
      cases callback <;> exact List.mem_cons_self

/-! ### Unbinding -/

theorem unbindCall (h : WellFormed num s) (api : Api) (env : Nat) (argv : List (JsValue N)) :
    WellFormed num (unbindCall num s api env argv) := by
  unfold Middle.unbindCall
  split
  case h_2 => exact h.throwErr env parameterError
  split
  case h_1 => exact h.throwErr env parameterError
  refine { h with frame := fun {env' _ _ _} hlookup => ?_ }
  by_cases heq : env' = env
  · subst heq
    rw [AList.lookup_insert] at hlookup
    cases hlookup
  · rw [AList.lookup_insert_ne heq] at hlookup
    exact h.frame hlookup

theorem setUnbindHandle_handle (callback : Bool) (handle : Nat) (a : AsyncData) (slot : Slot) :
    (setUnbindHandle callback handle a).handle slot =
      if slot = (if callback then .unbindCallback else .unbindDeferred) then some handle
      else a.handle slot := by
  cases callback <;> cases slot <;> rfl

theorem unbindReturned (h : WellFormed num s) (api : Api) (env : Nat) (deviceId : DeviceId)
    (callback : Bool) (retCode : UsbErrCode) :
    WellFormed num (s.unbindReturned api env deviceId callback retCode) := by
  unfold Middle.unbindReturned
  split
  · exact (h.throwErr env _).returned env
  split
  case h_1 => exact (h.throwErr env serviceException).returned env
  case h_2 data hlookup =>
    obtain ⟨a, ha, rfl⟩ := h.entry hlookup
    refine WellFormed.returned ?_ env
    have hawait : Follows num s.log (env, .awaitUnbind a.deviceId s.handles) := trivial
    have hemit := h.emit rfl hawait
    refine hemit.assign (fun _ => ?_) (fun _ => ?_) (setUnbindHandle_handle callback s.handles)
      (fun b hb => ?_)
    · unfold setUnbindHandle; split <;> rfl
    · unfold setUnbindHandle; split <;> rfl
    · cases ha.symm.trans hb
      cases callback <;> exact ⟨env, List.mem_cons_self⟩

/-! ### The callbacks of the service -/

theorem onConnect (h : WellFormed num s) (deviceId : DeviceId) (drvExtObj : Option Nat)
    (errMsg : UsbErrCode) (sent : Bool) :
    WellFormed num (s.onConnect deviceId drvExtObj errMsg sent) := by
  have hpost {s : Middle N} (h : WellFormed num s) {data : Nat} (hlt : data < s.datas.length) :
      WellFormed num (s.sendEvent (.onConnect data drvExtObj errMsg) sent) := by
    unfold sendEvent
    split
    · refine h.relocate id (fun task ht => ?_) fun _ => ?_
      · obtain ht | ht := List.mem_append.mp ht
        · exact h.task ht
        · cases List.mem_singleton.mp ht
          exact hlt
      · simp [outstanding, isDisconnectOf]
    · exact h
  unfold Middle.onConnect
  split
  case h_1 => exact h
  case h_2 data hlookup =>
    obtain ⟨a, ha, -⟩ := h.entry hlookup
    have hlt : data < s.datas.length := (List.getElem?_eq_some_iff.mp ha).1
    dsimp only
    split
    · exact hpost (h.erase deviceId) hlt
    · exact hpost h hlt

theorem onDisconnect (h : WellFormed num s) (deviceId : DeviceId) (errMsg : UsbErrCode)
    (sent : Bool) : WellFormed num (s.onDisconnect deviceId errMsg sent) := by
  unfold Middle.onDisconnect
  split
  case h_1 => exact h
  case h_2 data hlookup =>
    obtain ⟨a, ha, rfl⟩ := h.entry hlookup
    dsimp only
    split
    · exact h.erase a.deviceId
    unfold sendEvent
    split
    case isFalse => exact h.erase a.deviceId
    have hsub {id : DeviceId} {data' : Nat}
        (hid : (s.callbackMap.erase a.deviceId).lookup id = some data') :
        s.callbackMap.lookup id = some data' := (Table.lookup_erase_eq_some.mp hid).2
    refine h.relocate hsub (fun task ht => ?_) fun {data' b} hb => ?_
    · obtain ht | ht := List.mem_append.mp ht
      · exact h.task ht
      · cases List.mem_singleton.mp ht
        exact (List.getElem?_eq_some_iff.mp ha).1
    · -- the entry becomes a task
      unfold outstanding
      rw [List.countP_append, List.countP_singleton]
      by_cases heq : data' = data
      · subst heq
        cases ha.symm.trans hb
        rw [if_neg (by rw [AList.lookup_erase]; nofun), if_pos hlookup]
        dsimp only
        split <;> omega
      · have hne : isDisconnectOf data' (.onDisconnect data errMsg) = false :=
          decide_eq_false (Ne.symm heq)
        rw [if_neg (c := isDisconnectOf data' _ = true) (by rw [hne]; nofun), Nat.add_zero]
        exact Nat.add_le_add_right (lookups_le hsub) _

theorem onUnBind (h : WellFormed num s) (deviceId : DeviceId) (errMsg : UsbErrCode) :
    WellFormed num (s.onUnBind deviceId errMsg) := by
  unfold Middle.onUnBind
  split
  · exact h
  · refine h.modifyData _ (fun a => ?_) (fun a => ?_) fun {a slot handle} hslot => ?_
    · split <;> rfl
    · split <;> rfl
    · split at hslot
      · exact hslot
      · cases slot <;> exact hslot

/-! ### The tasks -/

theorem runOnConnect (h : WellFormed num s) {data : Nat} {a : AsyncData}
    (ha : s.datas[data]? = some a) (drvExtObj : Option Nat) (errMsg : UsbErrCode) :
    WellFormed num (s.runOnConnect num a drvExtObj errMsg) := by
  unfold Middle.runOnConnect
  split
  case h_1 => exact h
  case h_2 handle hhandle =>
    refine h.emit rfl ⟨a.deviceId, parseDeviceId_convertToJsDeviceId num a.deviceId, ?_⟩
    obtain hslot | ⟨-, hslot⟩ := Option.or_eq_some_iff.mp hhandle
    · have hslot : a.handle .bindCallback = some handle := hslot
      exact h.registered ha hslot
    · have hslot : a.handle .bindDeferred = some handle := hslot
      exact h.registered ha hslot

theorem answerUnbind (h : WellFormed num s) {data : Nat} {a : AsyncData}
    (ha : s.datas[data]? = some a) (hout : s.outstanding data a = 0)
    (hsettled : ∀ {slot handle}, slot ≠ .onDisconnect → slot.Final → a.handle slot = some handle →
      s.settled handle = 0) : WellFormed num (s.answerUnbind num a) := by
  have hparse := parseDeviceId_convertToJsDeviceId num a.deviceId
  unfold Middle.answerUnbind
  split
  case h_1 => exact h
  case h_2 handle hhandle =>
    have hslot : ∃ slot, slot ≠ .onDisconnect ∧ slot.Final ∧ a.handle slot = some handle ∧
        ∃ env, (env, .awaitUnbind a.deviceId handle) ∈ s.log := by
      obtain hslot | ⟨-, hslot⟩ := Option.or_eq_some_iff.mp hhandle
      · have hslot : a.handle .unbindCallback = some handle := hslot
        exact ⟨.unbindCallback, nofun, trivial, hslot, h.registered ha hslot⟩
      · have hslot : a.handle .unbindDeferred = some handle := hslot
        exact ⟨.unbindDeferred, nofun, trivial, hslot, h.registered ha hslot⟩
    obtain ⟨slot, hne, hfinal, hslot, env, hmem⟩ := hslot
    exact h.settle ha hout hslot (hsettled hne hfinal hslot) rfl ⟨env, a.deviceId, hparse, hmem⟩

/-- The two handles are different ones, so that the first event leaves the second handle as it is. -/
theorem runOnDisconnect (h : WellFormed num s) {data : Nat} {a : AsyncData}
    (ha : s.datas[data]? = some a) (hout : s.outstanding data a = 0)
    (hsettled : ∀ {slot handle}, slot.Final → a.handle slot = some handle → s.settled handle = 0)
    (errMsg : UsbErrCode) : WellFormed num (s.runOnDisconnect num a errMsg) := by
  unfold Middle.runOnDisconnect callOnDisconnect
  cases hhandle : a.onDisconnect with
  | none => exact h.answerUnbind ha hout fun _ => hsettled
  | some handle =>
    have hslot : a.handle .onDisconnect = some handle := hhandle
    obtain ⟨id, hid, hmem⟩ := h.registered ha hslot
    have hfinal : Slot.onDisconnect.Final := trivial
    have hfollows : Follows num s.log (a.env, .disconnected handle (convertToBusinessError errMsg)
        (convertToJsDeviceId num a.deviceId)) :=
      ⟨id, a.deviceId, parseDeviceId_convertToJsDeviceId num a.deviceId, hid, hmem⟩
    have hfirst := h.settle ha hout hslot (hsettled hfinal hslot) rfl hfollows
    refine hfirst.answerUnbind ha hout fun {slot handle'} hne hfinal hslot' => ?_
    have hhandles : handle' ≠ handle := by
      rintro rfl
      exact hne (h.unique ha ha hslot' hslot).2
    refine (settled_cons s _ handle').trans ?_
    rw [if_neg (by simpa [Event.settles] using hhandles.symm), Nat.add_zero]
    exact hsettled hfinal hslot'

theorem dropTask (h : WellFormed num s) (task : Task) :
    WellFormed num { s with tasks := s.tasks.erase task } := by
  refine h.relocate id (fun _ ht => h.task (List.mem_of_mem_erase ht)) fun _ => ?_
  exact Nat.add_le_add_left List.erase_sublist.countP_le _

theorem runTask (h : WellFormed num s) (env : Nat) : WellFormed num (runTask num s env) := by
  unfold Middle.runTask
  split
  case h_1 => exact h
  case h_2 task htask =>
    have hmem := List.mem_of_find?_eq_some htask
    split
    case h_1 => exact h
    case h_2 a ha =>
      have hdropped := h.dropTask task
      cases task with
      | onConnect data drvExtObj errMsg => exact hdropped.runOnConnect ha drvExtObj errMsg
      | onDisconnect data errMsg =>
        have ha : s.datas[data]? = some a := ha
        have hself : isDisconnectOf data (.onDisconnect data errMsg) = true := decide_eq_true rfl
        have hcount : s.tasks.countP (isDisconnectOf data) =
            (s.tasks.erase (.onDisconnect data errMsg)).countP (isDisconnectOf data) + 1 := by
          rw [(List.perm_cons_erase hmem).countP_eq, List.countP_cons_of_pos hself]
        have honce := h.once ha
        have hone : s.outstanding data a = 1 := by
          unfold outstanding at honce ⊢
          omega
        refine hdropped.runOnDisconnect ha ?_ (h.unsettled ha hone) errMsg
        unfold outstanding at hone ⊢
        dsimp only
        omega

theorem step (h : WellFormed num s) (action : Action N) : WellFormed num (step num s action) := by
  cases action with
  | bindDevice env argv => exact h.bindCall .device env argv
  | bindDriverWithDeviceId env argv => exact h.bindCall .driver env argv
  | unbindDevice env argv => exact h.unbindCall .device env argv
  | unbindDriverWithDeviceId env argv => exact h.unbindCall .driver env argv
  | returned env retCode status =>
    unfold Middle.step resume
    dsimp only
    split
    · exact h
    · exact h.bindReturned ‹_› retCode status
    · exact h.unbindReturned _ env _ _ retCode
  | onConnect deviceId drvExtObj errMsg sent => exact h.onConnect deviceId drvExtObj errMsg sent
  | onDisconnect deviceId errMsg sent => exact h.onDisconnect deviceId errMsg sent
  | onUnBind deviceId errMsg => exact h.onUnBind deviceId errMsg
  | runTask env => exact h.runTask env

end WellFormed

theorem run_wellFormed (num : Numbers N) (as : List (Action N)) :
    WellFormed num ((machine num).run {} as) :=
  (Machine.throughout_of_along (M := machine num) (C := fun _ _ => True) (fun _ a h _ => h.step a)
    wellFormed_init (Machine.along_of_forall (fun _ _ => trivial) _ as)).last

/-! ## Every run -/

theorem WellFormed.nodup (h : WellFormed num s) {f : Event N → Option Nat}
    (hf : ∀ {e handle}, f e = some handle → e.settles = some handle) :
    (s.log.filterMap fun e => f e.2).Nodup := by
  rw [List.nodup_iff_count_le_one]
  intro handle
  refine le_trans ?_ (h.settled_le handle)
  rw [List.count, List.countP_filterMap]
  refine List.countP_mono_left fun e _ he => ?_
  cases hfe : f e.2 with
  | none => simp [hfe] at he
  | some handle' =>
    have heq : handle' = handle := by simpa [hfe] using he
    exact decide_eq_true (hf (heq ▸ hfe))

/-- In every order of calls, callbacks and tasks, a disconnect callback is called at most once, an unbind
is answered at most once, and whatever is answered has been asked for before: a disconnect or a bind by
the thread that is called and under the id it is given, an unbind under the id it is given. -/
theorem answers_once (num : Numbers N) (as : List (Action N)) :
    let log := ((machine num).run (machine num).init as).log
    (log.filterMap fun e => e.2.disconnected?).Nodup ∧ (log.filterMap fun e => e.2.unbound?).Nodup ∧
      ∀ front e back, log = front ++ e :: back → Follows num back e := by
  have h := run_wellFormed num as
  refine ⟨h.nodup fun {e _} he => ?_, h.nodup fun {e _} he => ?_, fun front e back hlog => ?_⟩
  · cases e <;> cases he
    rfl
  · cases e <;> cases he
    rfl
  · exact (hlog ▸ h.answers).follows

end Middle
end ExtDevMgr.Js
