import Mathlib.Logic.Relation

/-!
# Loops with an early exit

The body of a loop maps a state to the next state (`inl`) or leaves the loop with a result (`inr`).
`iter` runs a bounded number of turns, `Returns` is the unbounded run, and `Reaches` relates a state
to the states at the head of its later turns. The rules are the usual ones: an invariant of the
turns holds at every reached state, a variant gives termination, and a set of states closed under
turns has no exit. `run` is the total loop of a body with a known variant.
-/

namespace ExtDevMgr
namespace Loop

variable {σ β : Type*} {body : σ → σ ⊕ β}

/-- At most `n` turns of the loop. -/
def iter (body : σ → σ ⊕ β) : Nat → σ → Option β
  | 0, _ => none
  | n + 1, s =>
    match body s with
    | .inl s' => iter body n s'
    | .inr b => some b

/-- The loop entered at `s` leaves with `b`. -/
def Returns (body : σ → σ ⊕ β) (s : σ) (b : β) : Prop := ∃ n, iter body n s = some b

def Terminates (body : σ → σ ⊕ β) (s : σ) : Prop := ∃ b, Returns body s b

/-- One turn that does not leave the loop. -/
def Turn (body : σ → σ ⊕ β) (s s' : σ) : Prop := body s = .inl s'

/-- `s'` is at the head of a later turn of the loop entered at `s`. -/
def Reaches (body : σ → σ ⊕ β) : σ → σ → Prop := Relation.ReflTransGen (Turn body)

theorem Reaches.refl {s : σ} : Reaches body s s := Relation.ReflTransGen.refl

theorem Reaches.tail {s t u : σ} (h : Reaches body s t) (ht : body t = .inl u) :
    Reaches body s u := Relation.ReflTransGen.tail h ht

theorem Reaches.cases_head {s t : σ} (h : Reaches body s t) :
    t = s ∨ ∃ u, body s = .inl u ∧ Reaches body u t := by
  rcases Relation.ReflTransGen.cases_head h with rfl | ⟨u, hu, ht⟩
  · exact .inl rfl
  · exact .inr ⟨u, hu, ht⟩

/-- **Invariant rule.** What the turns preserve holds at the head of every turn. -/
theorem Reaches.invariant {P : σ → Prop} {s t : σ}
    (step : ∀ {t u}, P t → body t = .inl u → P u) (h : Reaches body s t) (hs : P s) :
    P t := by
  induction h with
  | refl => exact hs
  | tail _ hturn ih => exact step ih hturn

theorem iter_succ_inl {n : Nat} {s s' : σ} (h : body s = .inl s') :
    iter body (n + 1) s = iter body n s' := by
  simp only [iter, h]

theorem iter_succ_inr {n : Nat} {s : σ} {b : β} (h : body s = .inr b) :
    iter body (n + 1) s = some b := by
  simp only [iter, h]

theorem iter_mono {n m : Nat} {s : σ} {b : β} (h : iter body n s = some b) (hle : n ≤ m) :
    iter body m s = some b := by
  induction n generalizing m s with
  | zero => cases h
  | succ n ih =>
    obtain ⟨m, rfl⟩ : ∃ k, m = k + 1 := ⟨m - 1, by omega⟩
    cases hb : body s with
    | inl s' =>
      rw [iter_succ_inl hb] at h ⊢
      exact ih h (by omega)
    | inr b' => rwa [iter_succ_inr hb] at h ⊢

theorem Returns.unique {s : σ} {b b' : β} (h : Returns body s b) (h' : Returns body s b') :
    b = b' := by
  obtain ⟨n, hn⟩ := h
  obtain ⟨m, hm⟩ := h'
  have h1 := iter_mono hn (Nat.le_max_left n m)
  rw [iter_mono hm (Nat.le_max_right n m)] at h1
  exact (Option.some.inj h1).symm

theorem returns_of_inr {s : σ} {b : β} (h : body s = .inr b) : Returns body s b :=
  ⟨1, iter_succ_inr h⟩

theorem Returns.cons {s s' : σ} {b : β} (h : body s = .inl s') (hb : Returns body s' b) :
    Returns body s b := by
  obtain ⟨n, hn⟩ := hb
  exact ⟨n + 1, (iter_succ_inl h).trans hn⟩

/-- The result depends on the first turn only through the body. -/
theorem Returns.of_eq {s t : σ} {b : β} (h : body s = body t) (hb : Returns body t b) :
    Returns body s b := by
  obtain ⟨n, hn⟩ := hb
  cases n with
  | zero => cases hn
  | succ n => exact ⟨n + 1, by rw [iter, h]; exact hn⟩

theorem Returns.trans {s t : σ} {b : β} (h : Reaches body s t) (hb : Returns body t b) :
    Returns body s b := by
  induction h with
  | refl => exact hb
  | tail _ hturn ih => exact ih (hb.cons hturn)

/-- **Exit rule.** A loop returns exactly what the body of a reached state leaves with. -/
theorem returns_iff {s : σ} {b : β} :
    Returns body s b ↔ ∃ t, Reaches body s t ∧ body t = .inr b := by
  constructor
  · rintro ⟨n, hn⟩
    induction n generalizing s with
    | zero => cases hn
    | succ n ih =>
      cases hb : body s with
      | inl s' =>
        rw [iter_succ_inl hb] at hn
        obtain ⟨t, ht, hexit⟩ := ih hn
        exact ⟨t, Relation.ReflTransGen.head hb ht, hexit⟩
      | inr b' =>
        rw [iter_succ_inr hb, Option.some.injEq] at hn
        exact ⟨s, .refl, hn ▸ hb⟩
  · rintro ⟨t, ht, hexit⟩
    exact Returns.trans ht (returns_of_inr hexit)

theorem Returns.cases {s : σ} {b : β} (h : Returns body s b) :
    body s = .inr b ∨ ∃ s', body s = .inl s' ∧ Returns body s' b := by
  obtain ⟨n, hn⟩ := h
  cases n with
  | zero => cases hn
  | succ n =>
    cases hb : body s with
    | inl s' => exact .inr ⟨s', rfl, n, (iter_succ_inl hb).symm.trans hn⟩
    | inr b' =>
      rw [iter_succ_inr hb, Option.some.injEq] at hn
      exact .inl (congrArg Sum.inr hn)

/-- **Partial correctness.** An invariant of the turns that gives `Q` at every exit. -/
theorem Returns.post {P : σ → Prop} {Q : β → Prop} {s : σ} {b : β}
    (step : ∀ {t u}, P t → body t = .inl u → P u)
    (exit : ∀ {t b}, P t → body t = .inr b → Q b) (h : Returns body s b) (hs : P s) :
    Q b := by
  obtain ⟨t, ht, hexit⟩ := returns_iff.mp h
  exact exit (ht.invariant step hs) hexit

theorem iter_isSome_of_variant (μ : σ → Nat) {s : σ}
    (hμ : ∀ {t u}, Reaches body s t → body t = .inl u → μ u < μ t) {n : Nat} (hn : μ s < n) :
    ∃ b, iter body n s = some b := by
  induction n generalizing s with
  | zero => omega
  | succ n ih =>
    cases hb : body s with
    | inl s' =>
      rw [iter_succ_inl hb]
      refine ih (fun ht => hμ (Relation.ReflTransGen.head hb ht)) ?_
      have := hμ .refl hb
      omega
    | inr b => exact ⟨b, iter_succ_inr hb⟩

/-- **Variant rule.** A loop whose turns lower a natural number terminates. -/
theorem terminates_of_variant (μ : σ → Nat) {s : σ}
    (hμ : ∀ {t u}, Reaches body s t → body t = .inl u → μ u < μ t) : Terminates body s := by
  obtain ⟨b, hb⟩ := iter_isSome_of_variant μ hμ (Nat.lt_succ_self _)
  exact ⟨b, _, hb⟩

/-- A set of states that the turns never leave has no exit. -/
theorem not_terminates_of_closed {P : σ → Prop} (hP : ∀ {t}, P t → ∃ u, body t = .inl u ∧ P u)
    {s : σ} (hs : P s) : ¬ Terminates body s := by
  rintro ⟨b, n, hn⟩
  induction n generalizing s with
  | zero => cases hn
  | succ n ih =>
    obtain ⟨u, hu, hPu⟩ := hP hs
    exact ih hPu ((iter_succ_inl hu).symm.trans hn)

theorem Terminates.of_reaches {s t : σ} (h : Reaches body s t) (hs : Terminates body s) :
    Terminates body t := by
  obtain ⟨b, hb⟩ := hs
  induction h with
  | refl => exact ⟨b, hb⟩
  | tail _ hturn ih =>
    obtain ⟨b', n, hn⟩ := ih
    cases n with
    | zero => cases hn
    | succ n => exact ⟨b', n, (iter_succ_inl hturn).symm.trans hn⟩

/-! ## Total loops -/

/-- The loop with variant `μ`. The default is never used once `μ` is a variant (`run_eq`). -/
def run (body : σ → σ ⊕ β) (μ : σ → Nat) (default : β) (s : σ) : β :=
  (iter body (μ s + 1) s).getD default

/-- With a variant, the total loop returns what the loop returns. -/
theorem run_returns {μ : σ → Nat} (d : β) {s : σ}
    (hμ : ∀ {t u}, Reaches body s t → body t = .inl u → μ u < μ t) :
    Returns body s (run body μ d s) := by
  obtain ⟨b, hb⟩ := iter_isSome_of_variant μ hμ (Nat.lt_succ_self _)
  exact ⟨_, by rw [run, hb, Option.getD_some]⟩

theorem run_inl {μ : σ → Nat} {d : β} {s s' : σ}
    (hμ : ∀ {t u}, Reaches body s t → body t = .inl u → μ u < μ t) (h : body s = .inl s') :
    run body μ d s = run body μ d s' := by
  refine (run_returns d hμ).unique (.cons h (run_returns d fun ht => hμ ?_))
  exact Relation.ReflTransGen.head h ht

theorem run_inr {μ : σ → Nat} {d : β} {s : σ} {b : β} (h : body s = .inr b) :
    run body μ d s = b := by
  simp only [run, iter_succ_inr h, Option.getD_some]

end Loop
end ExtDevMgr
