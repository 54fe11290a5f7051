import ExtDevMgr.Base.Machine
import Mathlib.Data.List.Induction

/-!
# Runs looked at from their ends

A run is extended by one action at its end, and what has happened in it is kept as long as nothing
undoes it. A machine whose steps are steps of another one, or none, has runs that are runs of the other
one.
-/

namespace ExtDevMgr.Machine
variable {σ τ α β : Type*} {M : Machine σ α} {N : Machine τ β}

theorem run_append (s : σ) (as bs : List α) : M.run s (as ++ bs) = M.run (M.run s as) bs := by
  induction as generalizing s with
  | nil => rfl
  | cons a as ih => exact ih (M.step s a)

theorem along_append {C : σ → α → Prop} {s : σ} {as bs : List α} :
    M.Along C s (as ++ bs) ↔ M.Along C s as ∧ M.Along C (M.run s as) bs := by
  induction as generalizing s with
  | nil => simp only [List.nil_append, Along, true_and, run]
  | cons a as ih => exact (and_congr_right fun _ => ih).trans and_assoc.symm

/-- What holds of the run without actions, and of every run by one action more than those it holds of,
holds of all runs. -/
theorem run_induction {P : List α → Prop} (hinit : P [])
    (hstep : ∀ as a, M.Runs as → P as → M.enabled (M.run M.init as) a → P (as ++ [a]))
    {as : List α} (hrun : M.Runs as) : P as := by
  induction as using List.reverseRecOn with
  | nil => exact hinit
  | append_singleton as a ih =>
    obtain ⟨has, ha⟩ := along_append.1 hrun
    exact hstep as a has (ih has) ha.1

/-! ## What has happened -/

/-- The run has taken an action with `B`, and none with `C` after it. -/
def Since (M : Machine σ α) (B : σ → α → Prop) (C : α → Prop) (as : List α) : Prop :=
  ∃ before a after, as = before ++ a :: after ∧ B (M.run M.init before) a ∧ ∀ a' ∈ after, ¬ C a'

variable {B : σ → α → Prop} {C : α → Prop} {as : List α} {a : α}

theorem since_last (h : B (M.run M.init as) a) : M.Since B C (as ++ [a]) :=
  ⟨as, a, [], rfl, h, nofun⟩

theorem Since.step (h : M.Since B C as) (ha : ¬ C a) : M.Since B C (as ++ [a]) := by
  obtain ⟨before, b, after, rfl, hb, hafter⟩ := h
  refine ⟨before, b, after ++ [a], by rw [List.append_assoc, List.cons_append], hb, ?_⟩
  intro a' hmem
  rcases List.mem_append.1 hmem with hmem | hmem
  · exact hafter a' hmem
  · rw [List.mem_singleton.1 hmem]
    exact ha

theorem since_concat : M.Since B C (as ++ [a]) ↔ B (M.run M.init as) a ∨ M.Since B C as ∧ ¬ C a := by
  constructor
  · rintro ⟨before, b, after, heq, hb, hafter⟩
    rcases List.eq_nil_or_concat after with rfl | ⟨after, c, rfl⟩
    · obtain ⟨rfl, rfl⟩ := List.append_singleton_inj.1 heq
      exact .inl hb
    · rw [List.concat_eq_append, ← List.cons_append, ← List.append_assoc] at heq
      obtain ⟨rfl, rfl⟩ := List.append_singleton_inj.1 heq
      rw [List.concat_eq_append] at hafter
      exact .inr ⟨⟨before, b, after, rfl, hb, fun a' ha' => hafter a' (List.mem_append_left _ ha')⟩,
        hafter a (List.mem_append_right _ (List.mem_singleton_self a))⟩
  · rintro (hb | ⟨h, ha⟩)
    · exact since_last hb
    · exact h.step ha

/-- What has happened first can be said more weakly. -/
theorem Since.mono {B' : σ → α → Prop} (h : M.Since B C as) (hB : ∀ s a, a ∈ as → B s a → B' s a) :
    M.Since B' C as := by
  obtain ⟨before, a, after, rfl, hb, hafter⟩ := h
  exact ⟨before, a, after, rfl, hB _ a (List.mem_append_right _ List.mem_cons_self) hb, hafter⟩

/-! ## Actions that change nothing -/

variable {p : α → Bool}

theorem run_filter (hp : ∀ s a, p a = false → M.step s a = s) (s : σ) (as : List α) :
    M.run s (as.filter p) = M.run s as := by
  induction as generalizing s with
  | nil => rfl
  | cons a as ih =>
    cases ha : p a with
    | false => rw [List.filter_cons_of_neg (Bool.eq_false_iff.1 ha), ih, Machine.run, hp s a ha]
    | true => exact (List.filter_cons_of_pos ha).symm ▸ ih (M.step s a)

theorem Along.filter {C : σ → α → Prop} (hp : ∀ s a, p a = false → M.step s a = s) {s : σ}
    {as : List α} (h : M.Along C s as) : M.Along C s (as.filter p) := by
  induction as generalizing s with
  | nil => trivial
  | cons a as ih =>
    have has := ih h.2
    cases ha : p a with
    | false =>
      rw [hp s a ha] at has
      rwa [List.filter_cons_of_neg (Bool.eq_false_iff.1 ha)]
    | true =>
      rw [List.filter_cons_of_pos ha]
      exact ⟨h.1, has⟩

/-! ## Simulations -/

/-- `g` maps the states of `M` to those of `N`, where an action with `f a = none` is no step. -/
structure Simulates (M : Machine σ α) (N : Machine τ β) (g : σ → τ) (f : α → Option β) : Prop where
  init : g M.init = N.init
  enabled : ∀ s a b, M.enabled s a → f a = some b → N.enabled (g s) b
  step : ∀ s a b, f a = some b → g (M.step s a) = N.step (g s) b
  stutter : ∀ s a, f a = none → g (M.step s a) = g s

variable {g : σ → τ} {f : α → Option β}

theorem Simulates.run (h : Simulates M N g f) (s : σ) (as : List α) :
    g (M.run s as) = N.run (g s) (as.filterMap f) := by
  induction as generalizing s with
  | nil => rfl
  | cons a as ih =>
    rw [Machine.run, ih]
    cases hf : f a with
    | none => rw [h.stutter s a hf, List.filterMap_cons_none hf]
    | some b => rw [h.step s a b hf, List.filterMap_cons_some hf, Machine.run]

theorem Simulates.along (h : Simulates M N g f) {s : σ} {as : List α}
    (hrun : M.Along M.enabled s as) : N.Along N.enabled (g s) (as.filterMap f) := by
  induction as generalizing s with
  | nil => trivial
  | cons a as ih =>
    have has := ih hrun.2
    cases hf : f a with
    | none =>
      rw [h.stutter s a hf] at has
      rwa [List.filterMap_cons_none hf]
    | some b =>
      rw [h.step s a b hf] at has
      rw [List.filterMap_cons_some hf]
      exact ⟨h.enabled s a b hrun.1 hf, has⟩

theorem Simulates.runs (h : Simulates M N g f) (hrun : M.Runs as) : N.Runs (as.filterMap f) := by
  have hN := h.along hrun
  rwa [h.init] at hN

end ExtDevMgr.Machine
