import Mathlib.Logic.Basic

/-!
# Transition systems with enabled actions

A machine takes an action only where the action is enabled, and the state after it is a function of
the state and the action. A run is the list of its actions. A property of every state of a run and a
condition on every step of it are related by their step lemmas alone.
-/

namespace ExtDevMgr

structure Machine (σ α : Type*) where
  init : σ
  enabled : σ → α → Prop
  step : σ → α → σ

namespace Machine
variable {σ α : Type*} (M : Machine σ α)

/-- Every action of `as`, taken from `s` on, meets `C` in the state it is taken in. -/
def Along (C : σ → α → Prop) : σ → List α → Prop
  | _, [] => True
  | s, a :: as => C s a ∧ Along C (M.step s a) as

instance decidableAlong (C : σ → α → Prop) [∀ s, DecidablePred (C s)] :
    (s : σ) → (as : List α) → Decidable (M.Along C s as)
  | _, [] => .isTrue trivial
  | s, a :: as =>
    have := decidableAlong C (M.step s a) as
    inferInstanceAs (Decidable (_ ∧ _))

/-- `P` holds in `s` and in every state that the actions `as` lead to. -/
def Throughout (P : σ → Prop) : σ → List α → Prop
  | s, [] => P s
  | s, a :: as => P s ∧ Throughout P (M.step s a) as

def run : σ → List α → σ
  | s, [] => s
  | s, a :: as => run (M.step s a) as

/-- The actions `as` can be taken one after the other from the initial state. -/
abbrev Runs (as : List α) : Prop := M.Along M.enabled M.init as

variable {M} {C D : σ → α → Prop} {P Q I : σ → Prop}

theorem Along.and {s : σ} {as : List α} (hC : M.Along C s as) (hD : M.Along D s as) :
    M.Along (fun s a => C s a ∧ D s a) s as := by
  induction as generalizing s with
  | nil => trivial
  | cons a as ih => exact ⟨⟨hC.1, hD.1⟩, ih hC.2 hD.2⟩

theorem along_of_forall (h : ∀ s a, C s a) (s : σ) (as : List α) : M.Along C s as := by
  induction as generalizing s with
  | nil => trivial
  | cons a as ih => exact ⟨h s a, ih _⟩

theorem Throughout.mono {s : σ} {as : List α} (h : ∀ s, P s → Q s) (hP : M.Throughout P s as) :
    M.Throughout Q s as := by
  induction as generalizing s with
  | nil => exact h _ hP
  | cons a as ih => exact ⟨h _ hP.1, ih hP.2⟩

theorem Throughout.head {s : σ} {as : List α} (h : M.Throughout P s as) : P s := by
  cases as with
  | nil => exact h
  | cons a as => exact h.1

theorem Throughout.last {s : σ} {as : List α} (h : M.Throughout P s as) : P (M.run s as) := by
  induction as generalizing s with
  | nil => exact h
  | cons a as ih => exact ih h.2

/-- An invariant that the steps meeting `C` keep holds throughout the runs of such steps. -/
theorem throughout_of_along (hstep : ∀ s a, I s → C s a → I (M.step s a)) {s : σ} {as : List α}
    (hs : I s) (h : M.Along C s as) : M.Throughout I s as := by
  induction as generalizing s with
  | nil => exact hs
  | cons a as ih => exact ⟨hs, ih (hstep s a hs h.1) h.2⟩

/-- Where every step keeps `I` and a step out of `P` stays in `P` exactly when it meets `C`, the
runs that stay in `P` are the runs whose steps all meet `C`. -/
theorem throughout_iff_along (hI : ∀ s a, I s → M.enabled s a → I (M.step s a))
    (hP : ∀ s a, I s → P s → M.enabled s a → (P (M.step s a) ↔ C s a)) {s : σ} {as : List α}
    (hs : I s) (hs' : P s) (hrun : M.Along M.enabled s as) :
    M.Throughout P s as ↔ M.Along C s as := by
  induction as generalizing s with
  | nil => exact iff_of_true hs' trivial
  | cons a as ih =>
    have hiff := hP s a hs hs' hrun.1
    constructor
    · rintro ⟨_, h⟩
      have hC := hiff.1 h.head
      exact ⟨hC, (ih (hI s a hs hrun.1) (hiff.2 hC) hrun.2).1 h⟩
    · rintro ⟨hC, h⟩
      exact ⟨hs', (ih (hI s a hs hrun.1) (hiff.2 hC) hrun.2).2 h⟩

/-- Where `C` keeps the invariant and says of each step what `D` says, the runs that meet `D` are the
runs that meet `C`. -/
theorem along_iff_along (hI : ∀ s a, I s → M.enabled s a → C s a → I (M.step s a))
    (hD : ∀ s a, I s → M.enabled s a → (D s a ↔ C s a)) {s : σ} {as : List α} (hs : I s)
    (hrun : M.Along M.enabled s as) : M.Along D s as ↔ M.Along C s as := by
  induction as generalizing s with
  | nil => exact Iff.rfl
  | cons a as ih =>
    have hiff := hD s a hs hrun.1
    constructor
    · rintro ⟨h, has⟩
      have hC := hiff.1 h
      exact ⟨hC, (ih (hI s a hs hrun.1 hC) hrun.2).1 has⟩
    · rintro ⟨hC, has⟩
      exact ⟨hiff.2 hC, (ih (hI s a hs hrun.1 hC) hrun.2).2 has⟩

end Machine
end ExtDevMgr
