import ExtDevMgr.Pkg.Parts

/-!
# Interleavings of the scan and the handlers

Whoever writes last about a bundle decides what the table holds of it, and nothing makes the writes
come in the order of the snapshots. The table agrees with the bundle manager once all calls are done if
every write that nobody follows up writes what is listed at that moment (`table_agrees`).
-/

namespace ExtDevMgr.Pkg
open Json

/-! ## Changes of the bundle manager -/

namespace BundleMgr
variable {mgr : BundleMgr} {userId userId' : Int}

theorem mem_bundles_remove {bundleName : Text} {bundle : BundleInfo} :
    bundle ∈ (mgr.remove userId bundleName).bundles userId' ↔
      bundle ∈ mgr.bundles userId' ∧ ¬ (userId' = userId ∧ bundle.name = bundleName) := by
  rw [remove]
  dsimp only
  rw [Function.update_apply]
  split
  · next huser =>
    rw [without, List.mem_filter, huser, decide_eq_true_iff]
    exact and_congr_right fun _ => not_congr (and_iff_right rfl).symm
  · next huser => exact (and_iff_left fun h => huser h.1).symm

theorem mem_bundles_install {bundle bundle' : BundleInfo} :
    bundle' ∈ (mgr.install userId bundle).bundles userId' ↔
      userId' = userId ∧ bundle' = bundle ∨
        bundle' ∈ (mgr.remove userId bundle.name).bundles userId' := by
  rw [install, remove]
  dsimp only
  rw [Function.update_apply, Function.update_apply]
  split
  · next huser => rw [List.mem_cons, and_iff_right huser]
  · next huser => exact (or_iff_right fun h => huser h.1).symm

theorem getBundleInfo_remove {bundleName bundleName' : Text}
    (h : ¬ (userId' = userId ∧ bundleName' = bundleName)) :
    (mgr.remove userId bundleName).getBundleInfo bundleName' userId' =
      mgr.getBundleInfo bundleName' userId' := by
  apply Option.ext
  intro bundle
  rw [getBundleInfo_iff, getBundleInfo_iff, mem_bundles_remove]
  constructor
  · rintro ⟨⟨hmem, -⟩, hname⟩
    exact ⟨hmem, hname⟩
  · rintro ⟨hmem, rfl⟩
    exact ⟨⟨hmem, h⟩, rfl⟩

theorem getBundleInfo_install {bundle : BundleInfo} {bundleName' : Text}
    (h : ¬ (userId' = userId ∧ bundleName' = bundle.name)) :
    (mgr.install userId bundle).getBundleInfo bundleName' userId' =
      mgr.getBundleInfo bundleName' userId' := by
  refine Eq.trans (Option.ext fun bundle' => ?_) (getBundleInfo_remove h)
  rw [getBundleInfo_iff, getBundleInfo_iff, mem_bundles_install]
  constructor
  · rintro ⟨⟨huser, rfl⟩ | hmem, rfl⟩
    · exact absurd ⟨huser, rfl⟩ h
    · exact ⟨hmem, rfl⟩
  · rintro ⟨hmem, rfl⟩
    exact ⟨.inr hmem, rfl⟩

theorem getBundleInfo_install_self (bundle : BundleInfo) :
    (mgr.install userId bundle).getBundleInfo bundle.name userId = some bundle :=
  getBundleInfo_iff.mpr ⟨mem_bundles_install.mpr (.inl ⟨rfl, rfl⟩), rfl⟩

end BundleMgr

/-! ## What is still to come -/

namespace DrvBundleState

/-- A call that leads to a write about `key`, unless the active user changes. -/
def Announces (s : DrvBundleState) (key : Option Text) : Call → Prop
  | .onBundleAdded bundleName userId | .onBundleUpdated bundleName userId =>
    key = some bundleName ∧ userId = s.foreground ∧
      (s.bundleMgr.getBundleInfo bundleName userId).isSome
  | .onBundleRemoved bundleName userId => key = some bundleName ∧ userId = s.foreground
  | .onAccountsSwitch => True
  | .getAllDriverInfos => s.initOnce = false

/-- A write about `key` is still to come. -/
def Awaits (s : DrvBundleState) (key : Option Text) : Prop :=
  (∃ call ∈ s.calls, s.Announces key call) ∨ ∃ task ∈ s.tasks, task.Covers key

section
variable (lib : CJsonLib) (env : Environment)

/-- About every bundle the table is right, or a write is still to come. -/
structure Settles (s : DrvBundleState) : Prop where
  settled : ∀ key, part key s.table = s.listedOf lib env key ∨ s.Awaits key
  sound : ∀ task ∈ s.tasks, task.Sound

/-- A write is right about every bundle about which it is the last. -/
def LastIsRight (s : DrvBundleState) : Action → Prop
  | .write _ task => ∀ key, task.Covers key →
    task.rows.filter (fun row => row.bundleName = key) = s.listedOf lib env key ∨
      (s.finished task).Awaits key
  | _ => True

end

section
variable {lib : CJsonLib} {env : Environment} {s : DrvBundleState}

/-- A step that leaves the snapshots and what is listed about the other bundles alone. -/
theorem Settles.changed (h : s.Settles lib env) {mgr : BundleMgr} {call : Call}
    (hchange : ∀ key, ({ s with bundleMgr := mgr }.called call).Announces key call ∨
      ∀ bundleName, key = some bundleName → mgr.getBundleInfo bundleName s.foreground =
        s.bundleMgr.getBundleInfo bundleName s.foreground) :
    ({ s with bundleMgr := mgr }.called call).Settles lib env where
  sound := h.sound
  settled key := by
    rcases hchange key with hcall | hsame
    · exact .inr (.inl ⟨call, List.mem_append_right _ (List.mem_singleton_self call), hcall⟩)
    · rcases h.settled key with hright | ⟨call', hmem, hcall'⟩ | ⟨task, hmem, htask⟩
      · refine .inl (hright.trans ?_)
        cases key with
        | none => rfl
        | some bundleName =>
          exact congrArg (fun found => Option.elim found [] _) (hsame bundleName rfl).symm
      · refine .inr (.inl ⟨call', List.mem_append_left _ hmem, ?_⟩)
        cases call' with
        | onBundleAdded bundleName userId =>
          obtain ⟨rfl, rfl, hfound⟩ := hcall'
          refine ⟨rfl, rfl, ?_⟩
          rw [← hsame bundleName rfl] at hfound
          exact hfound
        | onBundleUpdated bundleName userId =>
          obtain ⟨rfl, rfl, hfound⟩ := hcall'
          refine ⟨rfl, rfl, ?_⟩
          rw [← hsame bundleName rfl] at hfound
          exact hfound
        | onBundleRemoved bundleName userId => exact hcall'
        | onAccountsSwitch => exact hcall'
        | getAllDriverInfos => exact hcall'
      · exact .inr (.inr ⟨task, hmem, htask⟩)

theorem Settles.install (h : s.Settles lib env) (userId : Int) (bundle : BundleInfo) :
    (step lib env s (.install userId bundle)).Settles lib env := by
  refine h.changed fun key => ?_
  by_cases hkey : s.foreground = userId ∧ key = some bundle.name
  · have hfound : ((s.bundleMgr.install userId bundle).getBundleInfo bundle.name userId).isSome := by
      rw [BundleMgr.getBundleInfo_install_self]
      rfl
    left
    split
    · exact ⟨hkey.2, hkey.1.symm, hfound⟩
    · exact ⟨hkey.2, hkey.1.symm, hfound⟩
  · right
    rintro bundleName rfl
    exact BundleMgr.getBundleInfo_install fun heq => hkey ⟨heq.1, congrArg some heq.2⟩

theorem Settles.remove (h : s.Settles lib env) (userId : Int) (bundleName : Text) :
    (step lib env s (.remove userId bundleName)).Settles lib env := by
  refine h.changed fun key => ?_
  by_cases hkey : s.foreground = userId ∧ key = some bundleName
  · exact .inl ⟨hkey.2, hkey.1.symm⟩
  · right
    rintro bundleName' rfl
    exact BundleMgr.getBundleInfo_remove fun heq => hkey ⟨heq.1, congrArg some heq.2⟩

theorem Settles.switchAccount (h : s.Settles lib env) (newId : Int) :
    (step lib env s (.switchAccount newId)).Settles lib env where
  sound := h.sound
  settled _ :=
    .inr (.inl ⟨.onAccountsSwitch, List.mem_append_right _ (List.mem_singleton_self _), trivial⟩)

/-! ## Beginnings -/

/-- The other calls and tasks stay when a call begins. -/
theorem Awaits.of_begun {call : Call} {s' : DrvBundleState} {key : Option Text}
    (h : s.Awaits key) (hcalls : s.calls.erase call ⊆ s'.calls) (htasks : s.tasks ⊆ s'.tasks)
    (hother : ∀ call', s.Announces key call' → s'.Announces key call')
    (hcall : s.Announces key call → s'.Awaits key) : s'.Awaits key := by
  rcases h with ⟨call', hmem, hcall'⟩ | ⟨task, hmem, htask⟩
  · by_cases heq : call' = call
    · subst heq
      exact hcall hcall'
    · exact .inl ⟨call', hcalls ((List.mem_erase_of_ne heq).mpr hmem), hother call' hcall'⟩
  · exact .inr ⟨task, htasks hmem, htask⟩

/-- The call ends without a write. -/
theorem Settles.ended (h : s.Settles lib env) {call : Call} (hcall : ∀ key, ¬ s.Announces key call) :
    ({ s with calls := s.calls.erase call } : DrvBundleState).Settles lib env where
  sound := h.sound
  settled key := (h.settled key).imp_right fun hawaits =>
    hawaits.of_begun (List.Subset.refl _) (List.Subset.refl _) (fun _ hother => hother)
      fun hannounces => absurd hannounces (hcall key)

/-- The write that the call has announced is a task now. -/
theorem Settles.began (h : s.Settles lib env) {call : Call} {task : Task} (hsound : task.Sound)
    (hcall : ∀ key, s.Announces key call → task.Covers key) :
    ({ s with calls := s.calls.erase call }.began task).Settles lib env where
  sound := List.forall_mem_cons.mpr ⟨hsound, h.sound⟩
  settled key := (h.settled key).imp_right fun hawaits =>
    hawaits.of_begun (List.Subset.refl _) (List.subset_cons_self task s.tasks) (fun _ hother => hother)
      fun hannounces => .inr ⟨task, List.mem_cons_self, hcall key hannounces⟩

theorem sound_updateToRdb {bundleName : Text} {userId : Int}
    {driverInfos : List ExtensionAbilityInfo}
    (h : s.queryDriverInfos bundleName userId = some driverInfos) :
    (Task.updateToRdb (s.pkgInfoTables lib env driverInfos) bundleName).Sound := by
  rw [queryDriverInfos] at h
  split at h
  · exact nomatch h
  · next hne =>
    obtain ⟨bundle, hbundle, rfl⟩ := Option.map_eq_some_iff.mp h
    refine ⟨hne, fun pkgInfo hmem => ?_⟩
    rw [pkgInfoTables, parseToPkgInfoTables_snd, List.nil_append] at hmem
    obtain ⟨info, hinfo, heq⟩ := List.mem_filterMap.mp hmem
    rw [toPkgInfo_bundleName heq, BundleInfo.driverInfos_bundleName hinfo]
    exact (BundleMgr.getBundleInfo_iff.mp hbundle).2

theorem queryDriverInfos_none {bundleName : Text} {userId : Int}
    (h : s.queryDriverInfos bundleName userId = none) :
    s.bundleMgr.getBundleInfo bundleName userId = none := by
  rw [queryDriverInfos] at h
  split at h
  · next hnil =>
    apply Option.eq_none_iff_forall_ne_some.mpr
    intro bundle hbundle
    exact bundle.name_ne ((BundleMgr.getBundleInfo_iff.mp hbundle).2.trans hnil)
  · exact Option.map_eq_none_iff.mp h

theorem ne_foreground {userId : Int} (h : (!s.isCurrentUserId userId) = true) :
    userId ≠ s.foreground := by
  rw [isCurrentUserId, Bool.not_eq_true', decide_eq_false_iff_not] at h
  exact fun heq => h heq.symm

theorem Settles.onBundleAdded (h : s.Settles lib env) (bundleName : Text) (userId : Int) :
    (step lib env s (.begin (.onBundleAdded bundleName userId))).Settles lib env := by
  rw [step, begin, DrvBundleState.onBundleAdded]
  split
  · next huser =>
    apply h.ended
    rintro key ⟨-, hactive, -⟩
    exact ne_foreground huser hactive
  · split
    · next hquery =>
      apply h.ended
      rintro key ⟨-, -, hfound⟩
      rw [queryDriverInfos_none hquery] at hfound
      exact nomatch hfound
    · next hquery => exact h.began (sound_updateToRdb hquery) fun key hcall => hcall.1

theorem Settles.onBundleUpdated (h : s.Settles lib env) (bundleName : Text) (userId : Int) :
    (step lib env s (.begin (.onBundleUpdated bundleName userId))).Settles lib env := by
  rw [step, begin, DrvBundleState.onBundleUpdated]
  split
  · next huser =>
    apply h.ended
    rintro key ⟨-, hactive, -⟩
    exact ne_foreground huser hactive
  · split
    · next hquery =>
      apply h.ended
      rintro key ⟨-, -, hfound⟩
      rw [queryDriverInfos_none hquery] at hfound
      exact nomatch hfound
    · next hquery =>
      split
      · exact h.began trivial fun key hcall => hcall.1
      · exact h.began (sound_updateToRdb hquery) fun key hcall => hcall.1

theorem Settles.onBundleRemoved (h : s.Settles lib env) (bundleName : Text) (userId : Int) :
    (step lib env s (.begin (.onBundleRemoved bundleName userId))).Settles lib env := by
  rw [step, begin, DrvBundleState.onBundleRemoved]
  split
  · next huser =>
    apply h.ended
    rintro key ⟨-, hactive⟩
    exact ne_foreground huser hactive
  · exact h.began trivial fun key hcall => hcall.1

theorem Settles.onAccountsSwitch (h : s.Settles lib env) :
    (step lib env s (.begin .onAccountsSwitch)).Settles lib env where
  sound := h.sound
  settled _ :=
    .inr (.inl ⟨.getAllDriverInfos, List.mem_append_right _ (List.mem_singleton_self _), rfl⟩)

theorem Settles.getAllDriverInfos (h : s.Settles lib env) :
    (step lib env s (.begin .getAllDriverInfos)).Settles lib env := by
  rw [step, begin, DrvBundleState.getAllDriverInfos]
  split
  · next hinit =>
    apply h.ended
    intro key hcall
    exact nomatch hinit.symm.trans hcall
  · exact h.began trivial fun _ _ => trivial

/-! ## Ends -/

/-- Only the scan takes back what has been announced. -/
theorem announces_finished {task : Task} {key : Option Text} {call : Call}
    (htask : task.isScan = false) (h : s.Announces key call) :
    (s.finished task).Announces key call := by
  have hinit : (s.finished task).initOnce = s.initOnce := by
    rw [finished, htask, Bool.or_false]
  cases call with
  | getAllDriverInfos => exact hinit.trans h
  | onBundleAdded bundleName userId => exact h
  | onBundleUpdated bundleName userId => exact h
  | onBundleRemoved bundleName userId => exact h
  | onAccountsSwitch => trivial

theorem isScan_of_not_covers {task : Task} {key : Option Text} (h : ¬ task.Covers key) :
    task.isScan = false := by
  cases task with
  | getAllDriverInfos pkgInfos => exact absurd trivial h
  | updateToRdb pkgInfos bundleName => rfl
  | onBundleDrvRemoved bundleName => rfl

theorem Settles.write (h : s.Settles lib env) {r : StoreReplies} {task : Task}
    (hen : s.Enabled (.write r task)) (hlast : s.LastIsRight lib env (.write r task)) :
    (step lib env s (.write r task)).Settles lib env where
  sound task' hmem := h.sound task' (List.mem_of_mem_erase hmem)
  settled key := by
    obtain ⟨hcovered, hother⟩ := part_write (h.sound task hen.1) hen.2 key
    by_cases hcovers : task.Covers key
    · exact (hlast key hcovers).imp (hcovered hcovers).trans id
    · refine (h.settled key).imp (hother hcovers).trans ?_
      rintro (⟨call, hmem, hcall⟩ | ⟨task', hmem, htask'⟩)
      · exact .inl ⟨call, hmem, announces_finished (isScan_of_not_covers hcovers) hcall⟩
      · refine .inr ⟨task', (List.mem_erase_of_ne ?_).mpr hmem, htask'⟩
        rintro rfl
        exact hcovers htask'

theorem step_settles {a : Action} (h : s.Settles lib env) (hen : s.Enabled a)
    (hlast : s.LastIsRight lib env a) : (step lib env s a).Settles lib env := by
  cases a with
  | install userId bundle => exact h.install userId bundle
  | remove userId bundleName => exact h.remove userId bundleName
  | switchAccount newId => exact h.switchAccount newId
  | queryDriver => exact h.changed fun key => .inr fun _ _ => rfl
  | begin call =>
    cases call with
    | onBundleAdded bundleName userId => exact h.onBundleAdded bundleName userId
    | onBundleUpdated bundleName userId => exact h.onBundleUpdated bundleName userId
    | onBundleRemoved bundleName userId => exact h.onBundleRemoved bundleName userId
    | onAccountsSwitch => exact h.onAccountsSwitch
    | getAllDriverInfos => exact h.getAllDriverInfos
  | write r task => exact h.write hen hlast

/-- Once nothing is to come, the table is right. -/
theorem Settles.agrees (h : s.Settles lib env) (hcalls : s.calls = []) (htasks : s.tasks = []) :
    (s.table.map Row.withoutId).Perm (s.listed lib env) := by
  refine perm_listed lib env fun key => (h.settled key).resolve_right ?_
  rintro (⟨call, hmem, -⟩ | ⟨task, hmem, -⟩)
  · rw [hcalls] at hmem
    exact nomatch hmem
  · rw [htasks] at hmem
    exact nomatch hmem

end

/-- A scan is right as long as nothing has changed since its snapshot. -/
theorem lastIsRight_scan (lib : CJsonLib) (env : Environment) (s : DrvBundleState)
    (r : StoreReplies) :
    s.LastIsRight lib env (.write r (.getAllDriverInfos
      (s.pkgInfoTables lib env (s.bundleMgr.queryExtensionAbilityInfos s.foreground)))) :=
  fun key _ => .inl (filter_listed lib env s key)

/-- In every run in which the last write about a bundle is right, the table holds exactly the drivers
that the bundle manager lists for the active user as soon as all calls are done. -/
theorem table_agrees (lib : CJsonLib) (env : Environment) (bundleMgr : BundleMgr)
    (foreground : Int) (table : List Row) (as : List Action)
    (hruns : (machine lib env bundleMgr foreground table).Runs as)
    (hlast : (machine lib env bundleMgr foreground table).Along (LastIsRight lib env)
      (machine lib env bundleMgr foreground table).init as) :
    (machine lib env bundleMgr foreground table).Throughout
      (fun s => s.calls = [] → s.tasks = [] →
        (s.table.map Row.withoutId).Perm (s.listed lib env))
      (machine lib env bundleMgr foreground table).init as := by
  have hinit : Settles lib env (machine lib env bundleMgr foreground table).init :=
    ⟨fun _ => .inr (.inl ⟨.getAllDriverInfos, List.mem_singleton_self _, rfl⟩), nofun⟩
  refine Machine.Throughout.mono (fun s (h : s.Settles lib env) => h.agrees) ?_
  exact Machine.throughout_of_along (fun s a h hstep => step_settles h hstep.1 hstep.2) hinit
    (hruns.and hlast)

/-! ## A scan of one bundle -/

def mouseBundle : BundleInfo where
  name := mouse.bundleName
  extensionInfos := [mouse]
  applicationInfo := mouse.applicationInfo
  bundleStats := some 10
  name_ne := by decide
  named info hinfo := by rw [List.mem_singleton.mp hinfo]

/-- The bundle is installed for the user 100. -/
def mouseMgr : BundleMgr where
  bundles userId := if userId = 100 then [mouseBundle] else []
  nodup userId := by
    split
    · exact List.nodup_singleton _
    · exact List.nodup_nil

instance (s : DrvBundleState) : DecidablePred s.Enabled := fun a => by
  cases a <;> unfold Enabled <;> infer_instance

instance (lib : CJsonLib) (env : Environment) (bundleMgr : BundleMgr) (foreground : Int)
    (table : List Row) (s : DrvBundleState) :
    DecidablePred ((machine lib env bundleMgr foreground table).enabled s) :=
  inferInstanceAs (DecidablePred s.Enabled)

abbrev mouseMachine : Machine DrvBundleState Action :=
  machine mouseLib mouseEnvironment mouseMgr 100 []

/-- The scan of the mouse. -/
def mouseScan : Task :=
  .getAllDriverInfos ((mouseMachine.init).pkgInfoTables mouseLib mouseEnvironment
    (mouseMgr.queryExtensionAbilityInfos 100))

/-- The update of the mouse by its handler. -/
def mouseUpdate : Task :=
  .updateToRdb ((mouseMachine.init).pkgInfoTables mouseLib mouseEnvironment [mouse]) mouse.bundleName

/-- Between the snapshot of the scan and its write, a handler writes what is installed anew, or begins
the removal that it writes after the scan. -/
theorem mouse_agrees :
    mouseMachine.Throughout
      (fun s => s.calls = [] → s.tasks = [] →
        (s.table.map Row.withoutId).Perm (s.listed mouseLib mouseEnvironment))
      mouseMachine.init [.begin .getAllDriverInfos, .install 100 mouseBundle,
        .begin (.onBundleUpdated mouse.bundleName 100), .write (accepting 1) mouseUpdate,
        .write (accepting 1) mouseScan] ∧
    mouseMachine.Throughout
      (fun s => s.calls = [] → s.tasks = [] →
        (s.table.map Row.withoutId).Perm (s.listed mouseLib mouseEnvironment))
      mouseMachine.init [.begin .getAllDriverInfos, .remove 100 mouse.bundleName,
        .begin (.onBundleRemoved mouse.bundleName 100), .write (accepting 1) mouseScan,
        .write (accepting 1) (.onBundleDrvRemoved mouse.bundleName)] := by
  constructor
  · apply table_agrees
    · decide +kernel
    · refine ⟨trivial, trivial, trivial, ?_, ?_, trivial⟩
      · exact fun key _ => .inr (.inr ⟨mouseScan, by decide +kernel, trivial⟩)
      · exact lastIsRight_scan mouseLib mouseEnvironment _ _
  · apply table_agrees
    · decide +kernel
    · refine ⟨trivial, trivial, trivial, ?_, ?_, trivial⟩
      · intro key _
        by_cases hkey : key = some mouse.bundleName
        · exact .inr (.inr ⟨.onBundleDrvRemoved mouse.bundleName, by decide +kernel, hkey⟩)
        · refine .inl ((filter_listed mouseLib mouseEnvironment mouseMachine.init key).trans ?_)
          cases key with
          | none => rfl
          | some bundleName =>
            exact congrArg (fun found => Option.elim found [] _)
              (BundleMgr.getBundleInfo_remove fun h => hkey (congrArg some h.2)).symm
      · rintro key rfl
        exact .inl (by decide +kernel)

/-- The bundle is removed while the scan is between its snapshot and its write, and stays in the
table. -/
theorem removed_stays : ∃ as, mouseMachine.Runs as ∧
    (mouseMachine.run mouseMachine.init as).calls = [] ∧
    (mouseMachine.run mouseMachine.init as).tasks = [] ∧
    ¬ ((mouseMachine.run mouseMachine.init as).table.map Row.withoutId).Perm
      ((mouseMachine.run mouseMachine.init as).listed mouseLib mouseEnvironment) := by
  refine ⟨[.begin .getAllDriverInfos, .remove 100 mouse.bundleName,
    .begin (.onBundleRemoved mouse.bundleName 100),
    .write (accepting 1) (.onBundleDrvRemoved mouse.bundleName),
    .write (accepting 1) mouseScan], ?_, ?_, ?_, ?_⟩
  · decide +kernel
  · decide +kernel
  · decide +kernel
  · decide +kernel

end DrvBundleState

end ExtDevMgr.Pkg
