import ExtDevMgr.Js.Registrations

/-!
# Who is told that a binding has ended

A binding ends with a disconnect, or with a connect that failed. Each binding whose call has not failed
is in the map, or a task is on the way that tells of its end, or its end has been told: exactly one of
these, and once, unless a call binds a device again that is in the map, or a task is not taken
(`ends_told_iff`).
-/

namespace ExtDevMgr.Js
open Manager (DeviceId UsbErrCode)

variable {N : Type}

def AsyncData.bindHandle (a : AsyncData) : Option Nat := a.bindCallback.or a.bindDeferred

/-- The event tells that the binding of `a` has ended. -/
def Event.tells (a : AsyncData) : Event N → Bool
  | .disconnected handle .. => a.onDisconnect = some handle
  | .bound handle err .. => err.isSome && a.bindHandle = some handle
  | _ => false

/-- The task tells that the binding of the data has ended. -/
def Task.tells (data : Nat) : Task → Bool
  | .onConnect data' _ errMsg => data' = data && errMsg ≠ .edmOk
  | .onDisconnect data' _ => data' = data

namespace Middle

def told (s : Middle N) (a : AsyncData) : Nat := s.log.countP fun e => e.2.tells a

/-- The places in which the binding of `a`, the data at `data`, is found. -/
def places (s : Middle N) (data : Nat) (a : AsyncData) : Nat :=
  (if s.callbackMap.lookup a.deviceId = some data then 1 else 0) +
    s.tasks.countP (Task.tells data) + s.told a

/-- Every binding is found in exactly one place. -/
def EndsTold (s : Middle N) : Prop :=
  ∀ (data : Nat) (a : AsyncData), s.datas[data]? = some a → a.onDisconnect.isSome →
    s.places data a = 1

/-- A bound device is not bound again, and the tasks that tell of an end are taken. -/
def KeepsEnds (num : Numbers N) (s : Middle N) : Action N → Prop
  | .bindDevice _ argv | .bindDriverWithDeviceId _ argv =>
    ∀ deviceId, bindTarget num argv = some deviceId → deviceId ∉ s.callbackMap
  | .onConnect deviceId _ errMsg sent => deviceId ∈ s.callbackMap → errMsg ≠ .edmOk → sent = true
  | .onDisconnect deviceId _ sent => deviceId ∈ s.callbackMap → sent = true
  | _ => True

/-! ## The states of a run -/

/-- Entries have their disconnect callbacks; a binding without a bind callback or promise is one whose
call has not returned. -/
structure Waiting (s : Middle N) : Prop where
  entry : ∀ {deviceId data a}, s.callbackMap.lookup deviceId = some data →
    s.datas[data]? = some a → a.onDisconnect.isSome
  asked : ∀ {data : Nat} {a : AsyncData}, s.datas[data]? = some a → a.onDisconnect.isSome →
    a.bindHandle.isSome ∨ ∃ api callback, s.frames.lookup a.env = some (.bind api data callback)
  unasked : ∀ {env api data callback a}, s.frames.lookup env = some (.bind api data callback) →
    s.datas[data]? = some a → a.bindHandle = none
  bound_lt : ∀ {env handle err id remote}, (env, .bound handle err id remote) ∈ s.log →
    handle < s.handles

variable {num : Numbers N} {s : Middle N}

theorem waiting_init : Waiting ({} : Middle N) where
  entry h := by cases h
  asked h := by cases h
  unasked h := by cases h
  bound_lt h := by cases h

theorem endsTold_init : EndsTold ({} : Middle N) := nofun

theorem places_congr {s s' : Middle N} {data : Nat} {a b : AsyncData}
    (hmap : s'.callbackMap.lookup b.deviceId = some data ↔
      s.callbackMap.lookup a.deviceId = some data)
    (htasks : s'.tasks.countP (Task.tells data) = s.tasks.countP (Task.tells data))
    (htold : s'.told b = s.told a) : s'.places data b = s.places data a := by
  unfold places
  rw [htasks, htold, if_congr hmap rfl rfl]

theorem tells_congr {a b : AsyncData} (honDisconnect : b.onDisconnect = a.onDisconnect)
    (hbind : b.bindHandle = a.bindHandle) (e : Event N) : e.tells b = e.tells a := by
  cases e <;> simp [Event.tells, honDisconnect, hbind]

theorem told_congr (s : Middle N) {a b : AsyncData} (honDisconnect : b.onDisconnect = a.onDisconnect)
    (hbind : b.bindHandle = a.bindHandle) : s.told b = s.told a :=
  List.countP_congr fun e _ => by rw [tells_congr honDisconnect hbind]

theorem told_emit (s : Middle N) (env : Nat) (e : Event N) (b : AsyncData) :
    (s.emit env e).told b = s.told b + if e.tells b then 1 else 0 :=
  List.countP_cons ..

/-! ### What the steps are made of -/

/-- An event that tells nothing. -/
theorem Waiting.emit (h : Waiting s) {env : Nat} {e : Event N}
    (hbound : ∀ handle err id remote, e ≠ .bound handle err id remote) :
    Waiting (s.emit env e) :=
  { h with
    bound_lt := fun hmem => by
      obtain heq | hmem := List.mem_cons.mp hmem
      · cases heq
        exact absurd rfl (hbound _ _ _ _)
      · exact h.bound_lt hmem }

theorem EndsTold.emit (h : EndsTold s) {env : Nat} {e : Event N} (he : ∀ a, e.tells a = false) :
    EndsTold (s.emit env e) := by
  intro data a ha hlive
  rw [← h data a ha hlive]
  refine places_congr Iff.rfl rfl ?_
  exact List.countP_cons_of_neg (by simp [he])

theorem Waiting.throwErr (h : Waiting s) (env : Nat) (errCode : Int) :
    Waiting (s.throwErr env errCode) := by
  unfold Middle.throwErr
  split
  · exact h
  · exact h.emit nofun

theorem EndsTold.throwErr (h : EndsTold s) (env : Nat) (errCode : Int) :
    EndsTold (s.throwErr env errCode) := by
  unfold Middle.throwErr
  split
  · exact h
  · exact h.emit fun _ => rfl

/-- The call returns once the data of its frame has been asked for or given up. -/
theorem Waiting.returned (h : Waiting s) {env : Nat}
    (hdone : ∀ {api data callback a}, s.frames.lookup env = some (.bind api data callback) →
      s.datas[data]? = some a → a.onDisconnect.isSome → a.bindHandle.isSome) :
    Waiting (s.returned env) where
  entry := h.entry
  asked {data a} ha hlive := by
    obtain hasked | ⟨api, callback, hframe⟩ := h.asked ha hlive
    · exact .inl hasked
    · by_cases heq : a.env = env
      · exact .inl (hdone (heq ▸ hframe) ha hlive)
      · exact .inr ⟨api, callback, Table.lookup_erase_eq_some.mpr ⟨heq, hframe⟩⟩
  unasked hframe := h.unasked (Table.lookup_erase_eq_some.mp hframe).2
  bound_lt := h.bound_lt

/-- Data is changed without touching its binding. -/
theorem Waiting.modifyData (h : Waiting s) (data : Nat) {f : AsyncData → AsyncData}
    (henv : ∀ a, (f a).env = a.env) (honDisconnect : ∀ a, (f a).onDisconnect = a.onDisconnect)
    (hbind : ∀ a, (f a).bindHandle = a.bindHandle) : Waiting (s.modifyData data f) := by
  have hold {data' : Nat} {b : AsyncData} (hb : (s.modifyData data f).datas[data']? = some b) :
      ∃ a, s.datas[data']? = some a ∧ b.env = a.env ∧ b.onDisconnect = a.onDisconnect ∧
        b.bindHandle = a.bindHandle := by
    obtain ⟨a, ha, rfl⟩ := getElem?_modify_eq_some.mp hb
    refine ⟨a, ha, ?_⟩
    split
    · exact ⟨henv a, honDisconnect a, hbind a⟩
    · exact ⟨rfl, rfl, rfl⟩
  exact
    { entry := fun hlookup hb => by
        obtain ⟨a, ha, -, hb', -⟩ := hold hb
        exact hb' ▸ h.entry hlookup ha
      asked := fun hb hlive => by
        obtain ⟨a, ha, henv', hb', hbind'⟩ := hold hb
        rw [henv', hbind']
        exact h.asked ha (hb' ▸ hlive)
      unasked := fun hframe hb => by
        obtain ⟨a, ha, -, -, hbind'⟩ := hold hb
        exact hbind'.trans (h.unasked hframe ha)
      bound_lt := h.bound_lt }

theorem EndsTold.modifyData (h : EndsTold s) (data : Nat) {f : AsyncData → AsyncData}
    (hid : ∀ a, (f a).deviceId = a.deviceId)
    (honDisconnect : ∀ a, (f a).onDisconnect = a.onDisconnect)
    (hbind : ∀ a, (f a).bindHandle = a.bindHandle) : EndsTold (s.modifyData data f) := by
  intro data' b hb hlive
  obtain ⟨a, ha, rfl⟩ := getElem?_modify_eq_some.mp hb
  by_cases heq : data = data'
  · rw [if_pos heq] at hlive ⊢
    rw [← h data' a ha (honDisconnect a ▸ hlive)]
    exact places_congr (by rw [hid a]; rfl) rfl (told_congr s (honDisconnect a) (hbind a))
  · rw [if_neg heq] at hlive ⊢
    exact h data' a ha hlive

theorem eraseOwn_datas (s : Middle N) (deviceId : DeviceId) (data : Nat) :
    (s.eraseOwn deviceId data).datas = s.datas := by
  unfold eraseOwn
  split <;> rfl

theorem lookup_eraseOwn (s : Middle N) {deviceId deviceId' : DeviceId} {data data' : Nat} :
    (s.eraseOwn deviceId data).callbackMap.lookup deviceId' = some data' ↔
      s.callbackMap.lookup deviceId' = some data' ∧ (deviceId' = deviceId → data' ≠ data) := by
  unfold eraseOwn
  split
  case isTrue hown =>
    rw [Table.lookup_erase_eq_some]
    constructor
    · rintro ⟨hne, hlookup⟩
      exact ⟨hlookup, fun heq => absurd heq hne⟩
    · rintro ⟨hlookup, hne⟩
      refine ⟨fun heq => hne heq ?_, hlookup⟩
      exact Option.some.inj ((heq ▸ hlookup).symm.trans hown)
  case isFalse hown =>
    refine ⟨fun hlookup => ⟨hlookup, ?_⟩, And.left⟩
    rintro rfl rfl
    exact hown hlookup

/-- The data that is given up has no binding any more; the others keep theirs. -/
structure Abandoned (data : Nat) (s s' : Middle N) : Prop where
  tasks : s'.tasks = s.tasks
  log : s'.log = s.log
  handles : s'.handles = s.handles
  frames : s'.frames = s.frames
  lookup : ∀ {deviceId data'}, s'.callbackMap.lookup deviceId = some data' ↔
    s.callbackMap.lookup deviceId = some data' ∧ data' ≠ data
  datas : ∀ {data' : Nat} {b : AsyncData}, s'.datas[data']? = some b → ∃ a, s.datas[data']? = some a ∧
    b.env = a.env ∧ b.bindHandle = a.bindHandle ∧
    if data' = data then b.onDisconnect = none else b = a

theorem abandoned (hs : WellFormed num s) (data : Nat) : Abandoned data s (s.abandon data) := by
  unfold abandon
  split
  case h_1 hnone =>
    refine ⟨rfl, rfl, rfl, rfl, ⟨fun hlookup => ⟨hlookup, ?_⟩, And.left⟩, fun hb => ?_⟩
    · rintro rfl
      obtain ⟨a, ha, -⟩ := hs.entry hlookup
      cases hnone.symm.trans ha
    · refine ⟨_, hb, rfl, rfl, ?_⟩
      rw [if_neg]
      rintro rfl
      cases hnone.symm.trans hb
  case h_2 d hd =>
    refine ⟨?_, ?_, ?_, ?_, ?_, fun {data' b} hb => ?_⟩
    · unfold modifyData eraseOwn; split <;> rfl
    · unfold modifyData eraseOwn; split <;> rfl
    · unfold modifyData eraseOwn; split <;> rfl
    · unfold modifyData eraseOwn; split <;> rfl
    · intro deviceId data'
      refine (lookup_eraseOwn s).trans (and_congr_right fun hlookup => ⟨fun hne heq => ?_, ?_⟩)
      · subst heq
        obtain ⟨a, ha, rfl⟩ := hs.entry hlookup
        cases hd.symm.trans ha
        exact hne rfl rfl
      · exact fun hne _ => hne
    · obtain ⟨a, ha, rfl⟩ := getElem?_modify_eq_some.mp hb
      rw [eraseOwn_datas] at ha
      refine ⟨a, ha, ?_⟩
      by_cases heq : data = data'
      · rw [if_pos heq, if_pos heq.symm]
        exact ⟨rfl, rfl, rfl⟩
      · rw [if_neg heq, if_neg (Ne.symm heq)]
        exact ⟨rfl, rfl, rfl⟩

theorem Waiting.abandon (h : Waiting s) (hs : WellFormed num s) (data : Nat) :
    Waiting (s.abandon data) := by
  have habandoned := abandoned hs data
  exact
    { entry := fun hlookup hb => by
        obtain ⟨hlookup, hne⟩ := habandoned.lookup.mp hlookup
        obtain ⟨a, ha, -, -, heq⟩ := habandoned.datas hb
        rw [if_neg hne] at heq
        exact heq ▸ h.entry hlookup ha
      asked := fun {data' b} hb hlive => by
        obtain ⟨a, ha, -, -, heq⟩ := habandoned.datas hb
        split at heq
        · simp [heq] at hlive
        · subst heq
          rw [habandoned.frames]
          exact h.asked ha hlive
      unasked := fun hframe hb => by
        obtain ⟨a, ha, -, hbind, -⟩ := habandoned.datas hb
        exact hbind.trans (h.unasked (habandoned.frames ▸ hframe) ha)
      bound_lt := fun hmem => by
        rw [habandoned.handles]
        exact h.bound_lt (habandoned.log ▸ hmem) }

theorem EndsTold.abandon (h : EndsTold s) (hs : WellFormed num s) (data : Nat) :
    EndsTold (s.abandon data) := by
  have habandoned := abandoned hs data
  intro data' b hb hlive
  obtain ⟨a, ha, -, -, heq⟩ := habandoned.datas hb
  split at heq
  case isTrue => simp [heq] at hlive
  case isFalse hne =>
    subst heq
    rw [← h data' b ha hlive]
    refine places_congr (habandoned.lookup.trans (and_iff_left hne)) (by rw [habandoned.tasks]) ?_
    unfold told
    rw [habandoned.log]

theorem throwErr_frames (s : Middle N) (env : Nat) (errCode : Int) :
    (s.throwErr env errCode).frames = s.frames := by
  unfold Middle.throwErr
  split <;> rfl

theorem throwErr_datas (s : Middle N) (env : Nat) (errCode : Int) :
    (s.throwErr env errCode).datas = s.datas := by
  unfold Middle.throwErr
  split <;> rfl

/-! ### Binding -/

theorem setBindHandle_bindHandle {a : AsyncData} (h : a.bindHandle = none) (callback : Bool)
    (handle : Nat) : (setBindHandle callback handle a).bindHandle = some handle := by
  obtain ⟨hcallback, -⟩ := Option.or_eq_none_iff.mp h
  cases callback with
  | true => exact Option.some_or
  | false => simp [AsyncData.bindHandle, setBindHandle, hcallback]

section
variable {api : Api} {env data : Nat} {callback : Bool}
  (hframe : s.frames.lookup env = some (.bind api data callback))
include hframe

theorem Waiting.giveUp (h : Waiting s) (hs : WellFormed num s) (errCode : Int) :
    Waiting (((s.abandon data).throwErr env errCode).returned env) := by
  have habandoned := abandoned hs data
  refine ((h.abandon hs data).throwErr env errCode).returned fun hlookup hb hlive => ?_
  rw [throwErr_frames, habandoned.frames, hframe] at hlookup
  cases hlookup
  rw [throwErr_datas] at hb
  obtain ⟨_, _, _, _, heq⟩ := habandoned.datas hb
  rw [if_pos rfl] at heq
  simp [heq] at hlive

theorem Waiting.bindReturned (h : Waiting s) (hs : WellFormed num s) (retCode : UsbErrCode)
    (status : Bool) : Waiting (s.bindReturned api env data callback retCode status) := by
  unfold Middle.bindReturned
  split
  · exact h.giveUp hframe hs _
  split
  · exact h.giveUp hframe hs _
  obtain ⟨d, hd, rfl⟩ := hs.frame hframe
  rw [hd]
  have hunasked := h.unasked hframe hd
  have hold {data' : Nat} {b : AsyncData}
      (hb : (s.datas.modify data (setBindHandle callback s.handles))[data']? = some b) :
      ∃ a, s.datas[data']? = some a ∧ b.env = a.env ∧ b.onDisconnect = a.onDisconnect ∧
        if data = data' then b.bindHandle = some s.handles else b = a := by
    obtain ⟨a, ha, rfl⟩ := getElem?_modify_eq_some.mp hb
    refine ⟨a, ha, ?_⟩
    by_cases heq : data = data'
    · subst heq
      cases hd.symm.trans ha
      rw [if_pos rfl, if_pos rfl]
      refine ⟨?_, ?_, setBindHandle_bindHandle hunasked callback s.handles⟩
      · unfold setBindHandle; split <;> rfl
      · unfold setBindHandle; split <;> rfl
    · rw [if_neg heq, if_neg heq]
      exact ⟨rfl, rfl, rfl⟩
  exact
    { entry := fun hlookup hb => by
        obtain ⟨a, ha, -, hlive, -⟩ := hold hb
        exact hlive ▸ h.entry hlookup ha
      asked := fun {data' b} hb hlive => by
        obtain ⟨a, ha, henv, hlive', heq⟩ := hold hb
        split at heq
        case isTrue => exact .inl (by rw [heq]; rfl)
        case isFalse hne =>
          subst heq
          obtain hasked | ⟨api', callback', hframe'⟩ := h.asked ha hlive
          · exact .inl hasked
          · refine .inr ⟨api', callback', Table.lookup_erase_eq_some.mpr ⟨fun heq => hne ?_, hframe'⟩⟩
            rw [heq, hframe] at hframe'
            cases hframe'
            rfl
      unasked := fun {env' _ data' _ b} hframe' hb => by
        obtain ⟨hne, hframe'⟩ := Table.lookup_erase_eq_some.mp hframe'
        obtain ⟨a, ha, -, -, heq⟩ := hold hb
        obtain ⟨a', ha', rfl⟩ := hs.frame hframe'
        cases ha.symm.trans ha'
        rw [if_neg] at heq
        · exact heq ▸ h.unasked hframe' ha
        · rintro rfl
          cases hd.symm.trans ha
          exact hne rfl
      bound_lt := fun hmem => by
        obtain heq | hmem := List.mem_cons.mp hmem
        · cases heq
        · exact Nat.lt_succ_of_lt (h.bound_lt hmem) }

/-- What was told before the bind handle existed was not told by it. -/
theorem EndsTold.bindReturned (h : EndsTold s) (hw : Waiting s) (hs : WellFormed num s)
    (retCode : UsbErrCode) (status : Bool) :
    EndsTold (s.bindReturned api env data callback retCode status) := by
  unfold Middle.bindReturned
  split
  · exact (h.abandon hs data).throwErr env _
  split
  · exact (h.abandon hs data).throwErr env _
  obtain ⟨d, hd, rfl⟩ := hs.frame hframe
  rw [hd]
  intro data' b hb hlive
  have hevent : ∀ a, (Event.awaitBind d.deviceId s.handles : Event N).tells a = false := fun _ => rfl
  obtain ⟨a, ha, rfl⟩ := getElem?_modify_eq_some.mp hb
  by_cases heq : data = data'
  · subst heq
    cases hd.symm.trans ha
    have hunasked := hw.unasked hframe hd
    rw [if_pos rfl] at hlive ⊢
    have hlive' : (setBindHandle callback s.handles d).onDisconnect = d.onDisconnect := by
      unfold setBindHandle; split <;> rfl
    have hid : (setBindHandle callback s.handles d).deviceId = d.deviceId := by
      unfold setBindHandle; split <;> rfl
    rw [← h data d hd (hlive' ▸ hlive)]
    refine places_congr (by rw [hid]; rfl) rfl ?_
    refine (List.countP_cons_of_neg (by simp [Event.tells])).trans ?_
    refine List.countP_congr fun e he => ?_
    obtain ⟨env', e⟩ := e
    cases e with
    | bound handle err id remote =>
      have hne := Nat.ne_of_gt (hw.bound_lt he)
      simp [Event.tells, hunasked, setBindHandle_bindHandle hunasked, hne]
    | disconnected => simp [Event.tells, hlive']
    | throwErr | bindDevice | awaitBind | awaitUnbind | unbound => rfl
  · rw [if_neg heq] at hlive ⊢
    rw [← h data' a ha hlive]
    exact places_congr Iff.rfl rfl (List.countP_cons_of_neg (by simp [Event.tells]))

end

section
variable {api : Api} {env : Nat} {id : JsValue N} {deviceId : DeviceId} {callback : Bool}

theorem Waiting.enterBind (h : Waiting s) (henv : env ∉ s.frames) :
    Waiting (s.enterBind api env id deviceId callback) :=
  { entry := fun {id' _ _} hlookup hb => by
      obtain ha | ⟨-, rfl⟩ := getElem?_concat_eq_some.mp hb
      · by_cases heq : id' = deviceId
        · subst heq
          rw [Middle.enterBind, AList.lookup_insert] at hlookup
          cases hlookup
          exact absurd (List.getElem?_eq_some_iff.mp ha).1 (Nat.lt_irrefl _)
        · rw [Middle.enterBind, AList.lookup_insert_ne heq] at hlookup
          exact h.entry hlookup ha
      · rfl
    asked := fun {_ a} hb hlive => by
      obtain ha | ⟨rfl, rfl⟩ := getElem?_concat_eq_some.mp hb
      · refine (h.asked ha hlive).imp_right fun ⟨api', callback, hframe⟩ => ⟨api', callback, ?_⟩
        rwa [Middle.enterBind, AList.lookup_insert_ne]
        intro heq
        have hmem : a.env ∈ s.frames := AList.lookup_isSome.mp (by rw [hframe]; rfl)
        exact henv (heq ▸ hmem)
      · exact .inr ⟨api, callback, AList.lookup_insert _⟩
    unasked := fun {env' _ _ _ _} hframe hb => by
      obtain ha | ⟨-, rfl⟩ := getElem?_concat_eq_some.mp hb
      · by_cases heq : env' = env
        · subst heq
          rw [Middle.enterBind, AList.lookup_insert] at hframe
          cases hframe
          exact absurd (List.getElem?_eq_some_iff.mp ha).1 (Nat.lt_irrefl _)
        · rw [Middle.enterBind, AList.lookup_insert_ne heq] at hframe
          exact h.unasked hframe ha
      · rfl
    bound_lt := fun hmem => by
      obtain heq | hmem := List.mem_cons.mp hmem
      · cases heq
      · exact Nat.lt_succ_of_lt (h.bound_lt hmem) }

/-- New data has not been told anything, and the tasks are those of other data. -/
theorem places_enterBind (hs : WellFormed num s) :
    (s.enterBind api env id deviceId callback).places s.datas.length
      { deviceId, env, onDisconnect := some s.handles } = 1 := by
  have hlookup : (s.enterBind api env id deviceId callback).callbackMap.lookup deviceId =
      some s.datas.length := AList.lookup_insert _
  have htasks : s.tasks.countP (Task.tells s.datas.length) = 0 := by
    rw [List.countP_eq_zero]
    intro task ht
    have hne : task.data ≠ s.datas.length := Nat.ne_of_lt (hs.task ht)
    cases task <;> simp [Task.tells] <;> intro heq <;> exact absurd heq hne
  have htold : s.log.countP (fun e =>
      e.2.tells { deviceId, env, onDisconnect := some s.handles }) = 0 := by
    have hsettled := hs.settled_fresh (Nat.le_refl s.handles)
    rw [settled, List.countP_eq_zero] at hsettled
    rw [List.countP_eq_zero]
    intro e he
    have hne := hsettled e he
    obtain ⟨_, e⟩ := e
    cases e <;> simp_all [Event.tells, Event.settles, AsyncData.bindHandle, eq_comm]
  have hevent : (Event.bindDevice id s.handles : Event N).tells
      { deviceId, env, onDisconnect := some s.handles } = false := rfl
  unfold places told
  rw [if_pos hlookup]
  unfold enterBind
  rw [List.countP_cons_of_neg (by simp [hevent]), htasks, htold]

/-- The binding that has the device's entry loses it. -/
theorem endsTold_enterBind_iff (h : EndsTold s) (hw : Waiting s) (hs : WellFormed num s) :
    EndsTold (s.enterBind api env id deviceId callback) ↔ deviceId ∉ s.callbackMap := by
  have hother {data : Nat} {a : AsyncData} (ha : s.datas[data]? = some a) :
      (s.enterBind api env id deviceId callback).callbackMap.lookup a.deviceId = some data ↔
        s.callbackMap.lookup a.deviceId = some data ∧ a.deviceId ≠ deviceId := by
    have hne : data ≠ s.datas.length := Nat.ne_of_lt (List.getElem?_eq_some_iff.mp ha).1
    unfold enterBind
    by_cases heq : a.deviceId = deviceId
    · rw [heq, AList.lookup_insert]
      simpa using hne.symm
    · rw [AList.lookup_insert_ne heq, and_iff_left heq]
  have htold (a : AsyncData) : (s.enterBind api env id deviceId callback).told a = s.told a :=
    told_emit s env (.bindDevice id s.handles) a
  constructor
  · intro hends hmem
    obtain ⟨data, hlookup⟩ := Option.isSome_iff_exists.mp (AList.lookup_isSome.mpr hmem)
    obtain ⟨a, ha, rfl⟩ := hs.entry hlookup
    have hlive := hw.entry hlookup ha
    have hbefore := h data a ha hlive
    have hafter := hends data a (getElem?_concat_eq_some.mpr (.inl ha)) hlive
    unfold places at hbefore hafter
    rw [if_pos hlookup] at hbefore
    rw [if_neg fun hlookup' => ((hother ha).mp hlookup').2 rfl, htold] at hafter
    unfold enterBind at hafter
    dsimp only at hafter
    omega
  · intro hnot data b hb hlive
    obtain ha | ⟨rfl, rfl⟩ := getElem?_concat_eq_some.mp hb
    · rw [← h data b ha hlive]
      refine places_congr ((hother ha).trans (and_iff_left_of_imp fun hlookup heq => hnot ?_)) rfl
        (htold b)
      exact AList.lookup_isSome.mp (by rw [← heq, hlookup]; rfl)
    · exact places_enterBind hs

end

theorem Waiting.bindCall (h : Waiting s) (api : Api) {env : Nat} (henv : env ∉ s.frames)
    (argv : List (JsValue N)) : Waiting (bindCall num s api env argv) := by
  obtain ⟨-, heq⟩ | ⟨id, deviceId, callback, -, -, heq⟩ := bindCall_cases num s api env argv
  · exact heq ▸ h.throwErr env parameterError
  · exact heq ▸ h.enterBind henv

theorem endsTold_bindCall_iff (h : EndsTold s) (hw : Waiting s) (hs : WellFormed num s) (api : Api)
    (env : Nat) (argv : List (JsValue N)) :
    EndsTold (bindCall num s api env argv) ↔
      ∀ deviceId, bindTarget num argv = some deviceId → deviceId ∉ s.callbackMap := by
  obtain ⟨htarget, heq⟩ | ⟨id, deviceId, callback, htarget, -, heq⟩ := bindCall_cases num s api env argv
  · rw [heq, htarget]
    exact iff_of_true (h.throwErr env parameterError) nofun
  · rw [heq, htarget, endsTold_enterBind_iff h hw hs]
    exact ⟨fun hnot _ hid => Option.some.inj hid ▸ hnot, fun hnot => hnot deviceId rfl⟩

/-! ### Unbinding -/

theorem Waiting.unbindCall (h : Waiting s) (api : Api) {env : Nat} (henv : env ∉ s.frames)
    (argv : List (JsValue N)) : Waiting (unbindCall num s api env argv) := by
  unfold Middle.unbindCall
  split
  case h_2 => exact h.throwErr env parameterError
  split
  case h_1 => exact h.throwErr env parameterError
  rename_i id more _ deviceId _
  have hother {env' : Nat} {api' data callback callback'}
      (hframe : (s.frames.insert env (.unbind api deviceId callback')).lookup env' =
        some (.bind api' data callback)) :
      s.frames.lookup env' = some (.bind api' data callback) := by
    by_cases heq : env' = env
    · subst heq
      rw [AList.lookup_insert] at hframe
      cases hframe
    · rwa [AList.lookup_insert_ne heq] at hframe
  refine { h with asked := fun {_ a} ha hlive => ?_, unasked := fun hframe => h.unasked (hother hframe) }
  refine (h.asked ha hlive).imp_right fun ⟨api', callback', hframe⟩ => ⟨api', callback', ?_⟩
  rwa [AList.lookup_insert_ne]
  intro heq
  have hmem : a.env ∈ s.frames := AList.lookup_isSome.mp (by rw [hframe]; rfl)
  exact henv (heq ▸ hmem)

theorem EndsTold.unbindCall (h : EndsTold s) (api : Api) (env : Nat) (argv : List (JsValue N)) :
    EndsTold (unbindCall num s api env argv) := by
  unfold Middle.unbindCall
  split
  case h_2 => exact h.throwErr env parameterError
  split
  case h_1 => exact h.throwErr env parameterError
  exact h

theorem setUnbindHandle_ends (callback : Bool) (handle : Nat) (a : AsyncData) :
    (setUnbindHandle callback handle a).deviceId = a.deviceId ∧
    (setUnbindHandle callback handle a).env = a.env ∧
    (setUnbindHandle callback handle a).onDisconnect = a.onDisconnect ∧
    (setUnbindHandle callback handle a).bindHandle = a.bindHandle := by
  cases callback <;> exact ⟨rfl, rfl, rfl, rfl⟩

theorem Waiting.unbindReturned (h : Waiting s) (api : Api) {env : Nat} {deviceId : DeviceId}
    {callback : Bool} (hframe : s.frames.lookup env = some (.unbind api deviceId callback))
    (retCode : UsbErrCode) : Waiting (s.unbindReturned api env deviceId callback retCode) := by
  have hfailed (errCode : Int) : Waiting ((s.throwErr env errCode).returned env) := by
    refine (h.throwErr env errCode).returned fun hlookup => ?_
    rw [throwErr_frames, hframe] at hlookup
    cases hlookup
  unfold Middle.unbindReturned
  split
  · exact hfailed _
  split
  case h_1 => exact hfailed _
  case h_2 data hlookup =>
    have hset := setUnbindHandle_ends callback s.handles
    have hmodified := h.modifyData data (fun a => (hset a).2.1) (fun a => (hset a).2.2.1)
      (fun a => (hset a).2.2.2)
    have hmore : Waiting { s.modifyData data (setUnbindHandle callback s.handles) with
        handles := s.handles + 1 } :=
      { hmodified with bound_lt := fun hmem => Nat.lt_succ_of_lt (hmodified.bound_lt hmem) }
    have hawait : ∀ handle err id remote,
        (Event.awaitUnbind deviceId s.handles : Event N) ≠ .bound handle err id remote := nofun
    refine (hmore.emit hawait).returned fun hlookup => ?_
    cases hframe.symm.trans hlookup

theorem EndsTold.unbindReturned (h : EndsTold s) (api : Api) (env : Nat) (deviceId : DeviceId)
    (callback : Bool) (retCode : UsbErrCode) :
    EndsTold (s.unbindReturned api env deviceId callback retCode) := by
  unfold Middle.unbindReturned
  split
  · exact h.throwErr env _
  split
  case h_1 => exact h.throwErr env serviceException
  case h_2 data hlookup =>
    have hset := setUnbindHandle_ends callback s.handles
    have hmodified := h.modifyData data (fun a => (hset a).1) (fun a => (hset a).2.2.1)
      (fun a => (hset a).2.2.2)
    exact hmodified.emit fun _ => rfl

/-! ### The callbacks of the service -/

theorem onUnBind_ends (errMsg : UsbErrCode) (a : AsyncData) :
    let b := if a.unbindCallback.isNone && a.unbindDeferred.isNone then a
      else { a with unBindErrMsg := errMsg }
    b.deviceId = a.deviceId ∧ b.env = a.env ∧ b.onDisconnect = a.onDisconnect ∧
      b.bindHandle = a.bindHandle := by
  dsimp only
  split <;> exact ⟨rfl, rfl, rfl, rfl⟩

theorem Waiting.onUnBind (h : Waiting s) (deviceId : DeviceId) (errMsg : UsbErrCode) :
    Waiting (s.onUnBind deviceId errMsg) := by
  unfold Middle.onUnBind
  split
  · exact h
  · exact h.modifyData _ (fun a => (onUnBind_ends errMsg a).2.1)
      (fun a => (onUnBind_ends errMsg a).2.2.1) (fun a => (onUnBind_ends errMsg a).2.2.2)

theorem EndsTold.onUnBind (h : EndsTold s) (deviceId : DeviceId) (errMsg : UsbErrCode) :
    EndsTold (s.onUnBind deviceId errMsg) := by
  unfold Middle.onUnBind
  split
  · exact h
  · exact h.modifyData _ (fun a => (onUnBind_ends errMsg a).1)
      (fun a => (onUnBind_ends errMsg a).2.2.1) (fun a => (onUnBind_ends errMsg a).2.2.2)

/-- Entries leave the map, and tasks come. -/
theorem Waiting.relocate (h : Waiting s) {callbackMap : Table DeviceId Nat} (tasks : List Task)
    (hsub : ∀ {deviceId data}, callbackMap.lookup deviceId = some data →
      s.callbackMap.lookup deviceId = some data) : Waiting { s with callbackMap, tasks } :=
  { h with entry := fun hlookup => h.entry (hsub hlookup) }

theorem Waiting.sendEvent (h : Waiting s) (task : Task) (sent : Bool) :
    Waiting (s.sendEvent task sent) := by
  unfold Middle.sendEvent
  split
  · exact h.relocate _ id
  · exact h

theorem Waiting.erase (h : Waiting s) (deviceId : DeviceId) :
    Waiting { s with callbackMap := s.callbackMap.erase deviceId } :=
  h.relocate s.tasks fun hlookup => (Table.lookup_erase_eq_some.mp hlookup).2

theorem Waiting.onConnect (h : Waiting s) (deviceId : DeviceId) (drvExtObj : Option Nat)
    (errMsg : UsbErrCode) (sent : Bool) : Waiting (s.onConnect deviceId drvExtObj errMsg sent) := by
  unfold Middle.onConnect
  split
  · exact h
  dsimp only
  split
  · exact (h.erase deviceId).sendEvent _ sent
  · exact h.sendEvent _ sent

theorem Waiting.onDisconnect (h : Waiting s) (deviceId : DeviceId) (errMsg : UsbErrCode)
    (sent : Bool) : Waiting (s.onDisconnect deviceId errMsg sent) := by
  unfold Middle.onDisconnect
  split
  · exact h
  dsimp only
  split
  · exact h.erase deviceId
  · exact (h.erase deviceId).sendEvent _ sent

/-- An entry leaves the map for a task that tells of its end, if the task is taken. -/
theorem endsTold_sendEvent_iff (h : EndsTold s) (hw : Waiting s) (hs : WellFormed num s)
    {deviceId : DeviceId} {data : Nat} (hlookup : s.callbackMap.lookup deviceId = some data)
    {task : Task} (htask : ∀ data', task.tells data' = decide (data = data')) (sent : Bool) :
    EndsTold ({ s with callbackMap := s.callbackMap.erase deviceId }.sendEvent task sent) ↔
      sent = true := by
  obtain ⟨a, ha, rfl⟩ := hs.entry hlookup
  have hlive := hw.entry hlookup ha
  have hone := h data a ha hlive
  unfold places at hone
  rw [if_pos hlookup] at hone
  unfold Middle.sendEvent
  split
  case isTrue hsent =>
    refine iff_of_true (fun data' b hb hlive' => ?_) hsent
    rw [← h data' b hb hlive']
    unfold places told
    rw [List.countP_append, List.countP_singleton, htask]
    by_cases heq : data' = data
    · subst heq
      cases ha.symm.trans hb
      rw [if_neg (by rw [AList.lookup_erase]; nofun), if_pos hlookup, if_pos (decide_eq_true rfl)]
      dsimp only
      omega
    · rw [if_neg (c := decide (data = data') = true) (by simpa using Ne.symm heq), Nat.add_zero]
      refine congrArg (· + _ + _) (if_congr ?_ rfl rfl)
      refine Table.lookup_erase_eq_some.trans (and_iff_right_of_imp fun hlookup' hid => heq ?_)
      exact Option.some.inj (hlookup'.symm.trans (hid ▸ hlookup))
  case isFalse hsent =>
    refine iff_of_false (fun hends => ?_) hsent
    have hzero := hends data a ha hlive
    unfold places told at hzero
    unfold told at hone
    rw [if_neg (by rw [AList.lookup_erase]; nofun)] at hzero
    dsimp only at hzero
    omega

theorem endsTold_onConnect_iff (h : EndsTold s) (hw : Waiting s) (hs : WellFormed num s)
    (deviceId : DeviceId) (drvExtObj : Option Nat) (errMsg : UsbErrCode) (sent : Bool) :
    EndsTold (s.onConnect deviceId drvExtObj errMsg sent) ↔
      KeepsEnds num s (.onConnect deviceId drvExtObj errMsg sent) := by
  unfold Middle.onConnect KeepsEnds
  cases hlookup : s.callbackMap.lookup deviceId with
  | none =>
    have hnot : deviceId ∉ s.callbackMap := AList.lookup_eq_none.mp hlookup
    exact iff_of_true h fun hmem => absurd hmem hnot
  | some data =>
    have hmem : deviceId ∈ s.callbackMap := AList.lookup_isSome.mp (by rw [hlookup]; rfl)
    dsimp only
    split
    case isTrue herr =>
      refine (endsTold_sendEvent_iff h hw hs hlookup (fun data' => ?_) sent).trans ?_
      · simp [Task.tells, herr]
      · exact ⟨fun hsent _ _ => hsent, fun hsent => hsent hmem herr⟩
    case isFalse hok =>
      refine iff_of_true ?_ fun _ herr => absurd herr hok
      unfold Middle.sendEvent
      split
      case isFalse => exact h
      case isTrue =>
        intro data' a ha hlive
        rw [← h data' a ha hlive]
        refine places_congr Iff.rfl ?_ rfl
        simp [Task.tells, not_not.mp hok]

theorem endsTold_onDisconnect_iff (h : EndsTold s) (hw : Waiting s) (hs : WellFormed num s)
    (deviceId : DeviceId) (errMsg : UsbErrCode) (sent : Bool) :
    EndsTold (s.onDisconnect deviceId errMsg sent) ↔
      KeepsEnds num s (.onDisconnect deviceId errMsg sent) := by
  unfold Middle.onDisconnect KeepsEnds
  cases hlookup : s.callbackMap.lookup deviceId with
  | none =>
    have hnot : deviceId ∉ s.callbackMap := AList.lookup_eq_none.mp hlookup
    exact iff_of_true h fun hmem => absurd hmem hnot
  | some data =>
    have hmem : deviceId ∈ s.callbackMap := AList.lookup_isSome.mp (by rw [hlookup]; rfl)
    obtain ⟨a, ha, -⟩ := hs.entry hlookup
    have hcallback : hasNoCallback a = false := by
      obtain ⟨handle, hhandle⟩ := Option.isSome_iff_exists.mp (hw.entry hlookup ha)
      simp [hasNoCallback, hhandle]
    dsimp only
    rw [ha, Option.any_some, hcallback, if_neg Bool.false_ne_true]
    refine (endsTold_sendEvent_iff h hw hs hlookup (fun _ => rfl) sent).trans ?_
    exact ⟨fun hsent _ => hsent, fun hsent => hsent hmem⟩

/-! ### The tasks -/

theorem convertToBusinessError_isSome (errMsg : UsbErrCode) :
    (convertToBusinessError errMsg).isSome ↔ errMsg ≠ .edmOk := by
  unfold convertToBusinessError
  split
  case isTrue hok => simp [hok]
  case isFalse herr =>
    have hmessage : (getNapiError serviceException).isSome := by decide
    simp [herr, hmessage]

theorem bindHandle_slot {a : AsyncData} {handle : Nat} (h : a.bindHandle = some handle) :
    ∃ slot, a.handle slot = some handle ∧ slot ≠ .onDisconnect := by
  obtain hslot | ⟨-, hslot⟩ := Option.or_eq_some_iff.mp h
  · exact ⟨.bindCallback, hslot, nofun⟩
  · exact ⟨.bindDeferred, hslot, nofun⟩

section
variable {task : Task} {data data' : Nat} {a b : AsyncData} (hs : WellFormed num s)
  (ha : s.datas[data]? = some a) (hb : s.datas[data']? = some b) (hlive : b.onDisconnect.isSome)
include hs ha hb hlive

/-- A failed connect tells the binding that it belongs to, and no other. -/
theorem told_runOnConnect (hbind : a.onDisconnect.isSome → a.bindHandle.isSome)
    (drvExtObj : Option Nat) (errMsg : UsbErrCode) :
    (s.runOnConnect num a drvExtObj errMsg).told b =
      s.told b + if (Task.onConnect data drvExtObj errMsg).tells data' then 1 else 0 := by
  unfold Middle.runOnConnect
  cases hhandle : a.bindCallback.or a.bindDeferred with
  | none =>
    have hne : data ≠ data' := by
      rintro rfl
      cases ha.symm.trans hb
      have hsome := hbind hlive
      unfold AsyncData.bindHandle at hsome
      simp [hhandle] at hsome
    simp [Task.tells, hne]
  | some handle =>
    have hsame : b.bindHandle = some handle ↔ data = data' := by
      constructor
      · intro hbhandle
        obtain ⟨slot, hslot, -⟩ := bindHandle_slot hhandle
        obtain ⟨slot', hslot', -⟩ := bindHandle_slot hbhandle
        exact (hs.unique ha hb hslot hslot').1
      · rintro rfl
        cases ha.symm.trans hb
        exact hhandle
    dsimp only
    rw [told_emit]
    refine congrArg _ (if_congr ?_ rfl rfl)
    simp [Event.tells, Task.tells, hsame, convertToBusinessError_isSome, and_comm]

theorem told_runOnDisconnect (errMsg : UsbErrCode) :
    (s.runOnDisconnect num a errMsg).told b =
      s.told b + if (Task.onDisconnect data errMsg).tells data' then 1 else 0 := by
  have hunbound (s : Middle N) : (s.answerUnbind num a).told b = s.told b := by
    unfold answerUnbind
    split
    · rfl
    · exact told_emit s _ _ b
  unfold Middle.runOnDisconnect callOnDisconnect
  rw [hunbound]
  cases hhandle : a.onDisconnect with
  | none =>
    have hne : data ≠ data' := by
      rintro rfl
      cases ha.symm.trans hb
      simp [hhandle] at hlive
    simp [Task.tells, hne]
  | some handle =>
    have hsame : b.onDisconnect = some handle ↔ data = data' := by
      constructor
      · intro hbhandle
        have hslot : a.handle .onDisconnect = some handle := hhandle
        have hslot' : b.handle .onDisconnect = some handle := hbhandle
        exact (hs.unique ha hb hslot hslot').1
      · rintro rfl
        cases ha.symm.trans hb
        exact hhandle
    dsimp only
    rw [told_emit]
    exact congrArg _ (if_congr (by simp [Event.tells, Task.tells, hsame]) rfl rfl)

end

theorem Waiting.runTask (h : Waiting s) (hs : WellFormed num s) (env : Nat) :
    Waiting (runTask num s env) := by
  have hdropped (task : Task) : Waiting { s with tasks := s.tasks.erase task } :=
    h.relocate _ id
  unfold Middle.runTask
  split
  · exact h
  case h_2 task _ =>
  split
  · exact h
  case h_2 a ha =>
  cases task with
  | onConnect data drvExtObj errMsg =>
    unfold runTaskOf runOnConnect
    dsimp only
    split
    case h_1 => exact hdropped _
    case h_2 handle hhandle =>
      obtain ⟨slot, hslot, -⟩ := bindHandle_slot hhandle
      have hdropped := hdropped (.onConnect data drvExtObj errMsg)
      refine { hdropped with bound_lt := fun hmem => ?_ }
      obtain heq | hmem := List.mem_cons.mp hmem
      · cases heq
        exact hs.fresh ha hslot
      · exact h.bound_lt hmem
  | onDisconnect data errMsg =>
    have hfirst : Waiting ({ s with tasks := s.tasks.erase (.onDisconnect data errMsg) }
        |>.callOnDisconnect num a errMsg) := by
      unfold callOnDisconnect
      split
      · exact hdropped _
      · exact (hdropped _).emit nofun
    unfold runTaskOf runOnDisconnect answerUnbind
    dsimp only
    split
    · exact hfirst
    · exact hfirst.emit nofun

theorem runTaskOf_frame (num : Numbers N) (s : Middle N) (a : AsyncData) (task : Task) :
    (s.runTaskOf num a task).datas = s.datas ∧
      (s.runTaskOf num a task).callbackMap = s.callbackMap ∧
      (s.runTaskOf num a task).tasks = s.tasks := by
  cases task with
  | onConnect =>
    unfold runTaskOf runOnConnect
    dsimp only
    split <;> exact ⟨rfl, rfl, rfl⟩
  | onDisconnect =>
    unfold runTaskOf runOnDisconnect answerUnbind callOnDisconnect
    dsimp only
    split <;> split <;> exact ⟨rfl, rfl, rfl⟩

/-- A thread that runs a task has returned from its calls. -/
theorem EndsTold.runTask (h : EndsTold s) (hw : Waiting s) (hs : WellFormed num s) {env : Nat}
    (henv : env ∉ s.frames) : EndsTold (runTask num s env) := by
  unfold Middle.runTask
  split
  · exact h
  case h_2 task htask =>
  have hmem := List.mem_of_find?_eq_some htask
  have hof := List.find?_some htask
  split
  · exact h
  case h_2 a ha =>
  have hbind : a.onDisconnect.isSome → a.bindHandle.isSome := by
    intro hlive
    obtain hasked | ⟨api, callback, hframe⟩ := hw.asked ha hlive
    · exact hasked
    · have henv' : a.env = env := by simpa [isTaskOf, ha] using hof
      have hmem : a.env ∈ s.frames := AList.lookup_isSome.mp (by rw [hframe]; rfl)
      exact absurd (henv' ▸ hmem) henv
  obtain ⟨hdatas, hmap, htasks⟩ := runTaskOf_frame num { s with tasks := s.tasks.erase task } a task
  intro data b hb hlive
  rw [hdatas] at hb
  have htold : ({ s with tasks := s.tasks.erase task }.runTaskOf num a task).told b =
      s.told b + if task.tells data then 1 else 0 := by
    cases task with
    | onConnect data' drvExtObj errMsg =>
      exact told_runOnConnect (hs.dropTask _) ha hb hlive hbind drvExtObj errMsg
    | onDisconnect data' errMsg => exact told_runOnDisconnect (hs.dropTask _) ha hb hlive errMsg
  rw [← h data b hb hlive]
  unfold places
  rw [hmap, htasks, htold, (List.perm_cons_erase hmem).countP_eq, List.countP_cons]
  dsimp only
  omega

/-! ## Every run -/

theorem waiting_step (hw : Waiting s) (hs : WellFormed num s) {action : Action N}
    (henabled : s.Enabled action) : Waiting (step num s action) := by
  cases action with
  | bindDevice env argv => exact hw.bindCall .device henabled argv
  | bindDriverWithDeviceId env argv => exact hw.bindCall .driver henabled argv
  | unbindDevice env argv => exact hw.unbindCall .device henabled argv
  | unbindDriverWithDeviceId env argv => exact hw.unbindCall .driver henabled argv
  | returned env retCode status =>
    unfold step resume
    dsimp only
    split
    case h_1 => exact hw
    case h_2 hframe => exact hw.bindReturned hframe hs retCode status
    case h_3 hframe => exact hw.unbindReturned _ hframe retCode
  | onConnect deviceId drvExtObj errMsg sent => exact hw.onConnect deviceId drvExtObj errMsg sent
  | onDisconnect deviceId errMsg sent => exact hw.onDisconnect deviceId errMsg sent
  | onUnBind deviceId errMsg => exact hw.onUnBind deviceId errMsg
  | runTask env => exact hw.runTask hs env

theorem endsTold_step_iff (h : EndsTold s) (hw : Waiting s) (hs : WellFormed num s)
    {action : Action N} (henabled : s.Enabled action) :
    EndsTold (step num s action) ↔ KeepsEnds num s action := by
  cases action with
  | bindDevice env argv => exact endsTold_bindCall_iff h hw hs .device env argv
  | bindDriverWithDeviceId env argv => exact endsTold_bindCall_iff h hw hs .driver env argv
  | unbindDevice env argv => exact iff_of_true (h.unbindCall .device env argv) trivial
  | unbindDriverWithDeviceId env argv => exact iff_of_true (h.unbindCall .driver env argv) trivial
  | returned env retCode status =>
    refine iff_of_true ?_ trivial
    unfold step resume
    dsimp only
    split
    case h_1 => exact h
    case h_2 hframe => exact h.bindReturned hframe hw hs retCode status
    case h_3 => exact h.unbindReturned _ env _ _ retCode
  | onConnect deviceId drvExtObj errMsg sent =>
    exact endsTold_onConnect_iff h hw hs deviceId drvExtObj errMsg sent
  | onDisconnect deviceId errMsg sent =>
    exact endsTold_onDisconnect_iff h hw hs deviceId errMsg sent
  | onUnBind deviceId errMsg => exact iff_of_true (h.onUnBind deviceId errMsg) trivial
  | runTask env => exact iff_of_true (h.runTask hw hs henabled) trivial

/-- In every run, no end of a binding is lost or told twice as long as no bound device is bound again
and every task is taken, and at the first step that does otherwise one is lost. -/
theorem ends_told_iff (num : Numbers N) (as : List (Action N)) (hruns : (machine num).Runs as) :
    (machine num).Throughout EndsTold (machine num).init as ↔
      (machine num).Along (KeepsEnds num) (machine num).init as :=
  Machine.throughout_iff_along (I := fun s => WellFormed num s ∧ Waiting s)
    (fun _ action hI henabled => ⟨hI.1.step action, waiting_step hI.2 hI.1 henabled⟩)
    (fun _ _ hI hends henabled => endsTold_step_iff hends hI.2 hI.1 henabled)
    ⟨wellFormed_init, waiting_init⟩ endsTold_init hruns

/-- A device is bound, connected and disconnected. -/
def boundOnce : List (Action Int) := [
  .bindDevice 0 [.number 7, .function 1, .function 2],
  .returned 0 .edmOk true,
  .onConnect 7 (some 3) .edmOk true,
  .runTask 0,
  .onDisconnect 7 .edmOk true,
  .runTask 0]

theorem boundOnce_ends_told : (machine .integers).Throughout EndsTold {} boundOnce := by
  have hruns : (machine .integers).Along Enabled {} boundOnce := by decide +kernel
  refine (ends_told_iff .integers boundOnce hruns).mpr ⟨?_, trivial, ?_, trivial, ?_, trivial, trivial⟩
  · exact fun deviceId _ => AList.notMem_empty deviceId
  · exact fun _ hok => absurd rfl hok
  · exact fun _ => rfl

end Middle
end ExtDevMgr.Js
