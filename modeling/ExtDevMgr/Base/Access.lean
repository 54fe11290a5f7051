import ExtDevMgr.Base.Loop

/-!
# Computations and the places they touch

An `Access` is a computation with the places of memory that it reads or writes. `Within` says that all
of them are admitted; a sequence is within a set of places when its parts are, and a loop when each of
its turns is. `Spec` adds a postcondition, and `Follows` relates a loop to one that touches nothing.
-/

namespace ExtDevMgr

/-- The bytes from a pointer on. -/
abbrev Memory := Nat → UInt8

structure Access (ι α : Type) where
  value : α
  places : List ι

namespace Access
variable {ι α β σ : Type}

instance : Monad (Access ι) where
  pure a := ⟨a, []⟩
  bind x f := ⟨(f x.value).value, x.places ++ (f x.value).places⟩

/-- Reads `a` at the place `i`. -/
def touch (i : ι) (a : α) : Access ι α := ⟨a, [i]⟩

/-- Reads or writes all of the places `is`. -/
def touchAll (is : List ι) (a : α) : Access ι α := ⟨a, is⟩

/-- The places under other names. -/
def relabel {κ : Type} (f : ι → κ) (x : Access ι α) : Access κ α := ⟨x.value, x.places.map f⟩

/-- The places of a kind, in their order. -/
def observed (p : ι → Bool) (x : Access ι α) : List ι := x.places.filter p

/-- Every place that is touched is admitted. -/
def Within (P : ι → Prop) (x : Access ι α) : Prop := ∀ i ∈ x.places, P i

variable {P : ι → Prop}

@[simp] theorem value_pure (a : α) : (pure a : Access ι α).value = a := rfl

@[simp] theorem value_bind (x : Access ι α) (f : α → Access ι β) :
    (x >>= f).value = (f x.value).value := rfl

/-- What follows depends on the value only. -/
theorem bind_congr {x : Access ι α} {f g : α → Access ι β} (h : f x.value = g x.value) :
    x >>= f = x >>= g :=
  congrArg (fun y : Access ι β => (⟨y.value, x.places ++ y.places⟩ : Access ι β)) h

@[simp] theorem value_touch (i : ι) (a : α) : (touch i a).value = a := rfl

@[simp] theorem within_pure (a : α) : (pure a : Access ι α).Within P :=
  fun _ hi => absurd hi List.not_mem_nil

@[simp] theorem within_bind (x : Access ι α) (f : α → Access ι β) :
    (x >>= f).Within P ↔ x.Within P ∧ (f x.value).Within P := List.forall_mem_append

@[simp] theorem within_touch (i : ι) (a : α) : (touch i a).Within P ↔ P i := List.forall_mem_singleton

@[simp] theorem within_touchAll (is : List ι) (a : α) :
    (touchAll is a).Within P ↔ ∀ i ∈ is, P i := Iff.rfl

section
variable {κ : Type} {f : ι → κ}

@[simp] theorem value_relabel (x : Access ι α) : (x.relabel f).value = x.value := rfl

@[simp] theorem within_relabel {P : κ → Prop} (x : Access ι α) :
    (x.relabel f).Within P ↔ x.Within fun i => P (f i) := List.forall_mem_map

end

section
variable {p : ι → Bool}

@[simp] theorem observed_bind (x : Access ι α) (f : α → Access ι β) :
    (x >>= f).observed p = x.observed p ++ (f x.value).observed p := List.filter_append ..

theorem observed_eq_nil {x : Access ι α} (h : x.Within fun i => p i = false) :
    x.observed p = [] := by
  apply List.filter_eq_nil_iff.mpr
  intro i hi
  rw [h i hi]
  exact Bool.false_ne_true

end

/-! ## Specifications -/

/-- Only admitted places are touched, and the value satisfies `Q`. -/
def Spec (P : ι → Prop) (x : Access ι α) (Q : α → Prop) : Prop := x.Within P ∧ Q x.value

section
variable {x : Access ι α} {f : α → Access ι β} {Q Q' : α → Prop} {R : β → Prop}

theorem Spec.mono (hx : x.Spec P Q) (h : ∀ a, Q a → Q' a) : x.Spec P Q' := ⟨hx.1, h _ hx.2⟩

theorem spec_pure {a : α} (h : Q a) : (pure a : Access ι α).Spec P Q := ⟨within_pure a, h⟩

theorem spec_touch {i : ι} {a : α} (hi : P i) (h : Q a) : (touch i a).Spec P Q :=
  ⟨(within_touch i a).mpr hi, h⟩

theorem spec_touchAll {is : List ι} {a : α} (his : ∀ i ∈ is, P i) (h : Q a) :
    (touchAll is a).Spec P Q := ⟨(within_touchAll is a).mpr his, h⟩

theorem Spec.relabel {κ : Type} {P' : κ → Prop} {g : ι → κ} (hx : x.Spec P Q)
    (h : ∀ i, P i → P' (g i)) : (x.relabel g).Spec P' Q :=
  ⟨(within_relabel x).mpr fun i hi => h i (hx.1 i hi), hx.2⟩

theorem Spec.bind (hx : x.Spec P Q) (hf : ∀ a, Q a → (f a).Spec P R) : (x >>= f).Spec P R := by
  obtain ⟨hwithin, hvalue⟩ := hf x.value hx.2
  exact ⟨(within_bind x f).mpr ⟨hx.1, hwithin⟩, hvalue⟩

end

/-! ## Loops -/

/-- One turn of a loop, with the places that it touches behind those touched before. -/
def turn (body : σ → Access ι (σ ⊕ β)) (t : σ × List ι) : (σ × List ι) ⊕ Access ι β :=
  match (body t.1).value with
  | .inl s => .inl (s, t.2 ++ (body t.1).places)
  | .inr b => .inr ⟨b, t.2 ++ (body t.1).places⟩

/-- The loop with variant `μ`. The default is never used once `μ` is a variant. -/
def loop (body : σ → Access ι (σ ⊕ β)) (μ : σ → Nat) (default : β) (s : σ) : Access ι β :=
  Loop.run (turn body) (fun t => μ t.1) ⟨default, []⟩ (s, [])

variable {body : σ → Access ι (σ ⊕ β)} {μ : σ → Nat}

theorem turn_inl {s s' : σ} (h : (body s).value = .inl s') (places : List ι) :
    turn body (s, places) = .inl (s', places ++ (body s).places) := by rw [turn, h]

theorem turn_inr {s : σ} {b : β} (h : (body s).value = .inr b) (places : List ι) :
    turn body (s, places) = .inr ⟨b, places ++ (body s).places⟩ := by rw [turn, h]

theorem within_of_returns {s : σ} {places : List ι} {result : Access ι β}
    (h : Loop.Returns (turn body) (s, places) result) :
    result.Within P ↔ (∀ i ∈ places, P i) ∧
      ∀ t, Loop.Reaches (fun s => (body s).value) s t → (body t).Within P := by
  obtain ⟨n, hn⟩ := h
  induction n generalizing s places with
  | zero => cases hn
  | succ n ih =>
    cases hbody : (body s).value with
    | inl s' =>
      rw [Loop.iter_succ_inl (turn_inl hbody places)] at hn
      rw [ih hn, List.forall_mem_append, and_assoc]
      refine and_congr_right fun _ => ?_
      constructor
      · rintro ⟨hs, hrest⟩ t ht
        rcases ht.cases_head with rfl | ⟨u, hu, hreach⟩
        · exact hs
        · cases hbody.symm.trans hu
          exact hrest t hreach
      · intro hall
        refine ⟨hall s .refl, ?_⟩
        intro t ht
        exact hall t (Relation.ReflTransGen.head hbody ht)
    | inr b =>
      rw [Loop.iter_succ_inr (turn_inr hbody places), Option.some.injEq] at hn
      subst hn
      rw [Within, List.forall_mem_append]
      refine and_congr_right fun _ => ?_
      constructor
      · intro hs t ht
        rcases ht.cases_head with rfl | ⟨u, hu, -⟩
        · exact hs
        · cases hbody.symm.trans hu
      · intro hall
        exact hall s .refl

theorem value_of_turn {t u : σ × List ι} (h : turn body t = .inl u) :
    (body t.1).value = .inl u.1 := by
  cases hbody : (body t.1).value with
  | inl s =>
    rw [turn, hbody] at h
    cases h
    rfl
  | inr b =>
    rw [turn, hbody] at h
    cases h

/-- A loop touches what its turns touch. -/
theorem within_loop (hμ : ∀ {t u}, (body t).value = .inl u → μ u < μ t) (default : β) (s : σ) :
    (loop body μ default s).Within P ↔
      ∀ t, Loop.Reaches (fun s => (body s).value) s t → (body t).Within P := by
  rw [loop, within_of_returns (Loop.run_returns _ fun _ hturn => hμ (value_of_turn hturn))]
  exact and_iff_right fun i hi => absurd hi List.not_mem_nil

theorem value_of_returns {s : σ} {places : List ι} {result : Access ι β}
    (h : Loop.Returns (turn body) (s, places) result) :
    Loop.Returns (fun s => (body s).value) s result.value := by
  obtain ⟨n, hn⟩ := h
  induction n generalizing s places with
  | zero => cases hn
  | succ n ih =>
    cases hbody : (body s).value with
    | inl s' =>
      rw [Loop.iter_succ_inl (turn_inl hbody places)] at hn
      exact .cons hbody (ih hn)
    | inr b =>
      rw [Loop.iter_succ_inr (turn_inr hbody places), Option.some.injEq] at hn
      subst hn
      exact Loop.returns_of_inr hbody

/-- At most `n` turns of a loop. -/
def iterate (body : σ → Access ι (σ ⊕ β)) : Nat → σ → Access ι (Option β)
  | 0, _ => pure none
  | n + 1, s => body s >>= Sum.elim (iterate body n) fun b => pure (some b)

theorem value_iterate (body : σ → Access ι (σ ⊕ β)) (n : Nat) (s : σ) :
    (iterate body n s).value = Loop.iter (fun s => (body s).value) n s := by
  induction n generalizing s with
  | zero => rfl
  | succ n ih =>
    rw [iterate, value_bind, Loop.iter]
    cases (body s).value with
    | inl s' => exact ih s'
    | inr b => rfl

/-- A bounded number of turns touches what its turns touch. -/
theorem within_iterate {I : σ → Prop}
    (h : ∀ s, I s → (body s).Spec P (Sum.elim I fun _ => True)) (n : Nat) {s : σ} (hs : I s) :
    (iterate body n s).Within P := by
  induction n generalizing s with
  | zero => exact within_pure none
  | succ n ih =>
    obtain ⟨hwithin, hnext⟩ := h s hs
    refine (within_bind _ _).mpr ⟨hwithin, ?_⟩
    cases hturn : (body s).value with
    | inl s' =>
      rw [hturn] at hnext
      exact ih hnext
    | inr b => exact within_pure (some b)

/-- From a state with the invariant `I`, a turn of `body` touches admitted places only and does what
`body'` does in the state that `abs` gives. -/
def Follows {τ : Type} (P : ι → Prop) (I : σ → Prop) (abs : σ → τ) (body' : τ → τ ⊕ β)
    (body : σ → Access ι (σ ⊕ β)) : Prop :=
  ∀ s, I s → (body s).Spec P
    (Sum.elim (fun t => body' (abs s) = .inl (abs t) ∧ I t) fun b => body' (abs s) = .inr b)

namespace Follows
variable {τ : Type} {I : σ → Prop} {abs : σ → τ} {body' : τ → τ ⊕ β} {s t : σ}

theorem next (h : Follows P I abs body' body) (hs : I s) (hturn : (body s).value = .inl t) :
    body' (abs s) = .inl (abs t) ∧ I t := by
  have hvalue := (h s hs).2
  rw [hturn] at hvalue
  exact hvalue

theorem exit {b : β} (h : Follows P I abs body' body) (hs : I s)
    (hturn : (body s).value = .inr b) : body' (abs s) = .inr b := by
  have hvalue := (h s hs).2
  rw [hturn] at hvalue
  exact hvalue

theorem reaches (h : Follows P I abs body' body) (hs : I s)
    (hreach : Loop.Reaches (fun s => (body s).value) s t) :
    Loop.Reaches body' (abs s) (abs t) ∧ I t := by
  apply hreach.invariant (P := fun t => Loop.Reaches body' (abs s) (abs t) ∧ I t)
  · rintro t u ⟨ht, hI⟩ hturn
    obtain ⟨hturn', hI'⟩ := h.next hI hturn
    exact ⟨ht.tail hturn', hI'⟩
  · exact ⟨.refl, hs⟩

/-- **Rule for a bounded number of turns.** -/
theorem iterate (h : Follows P I abs body' body) (n : Nat) (hs : I s) :
    (Access.iterate body n s).Spec P fun b => b = Loop.iter body' n (abs s) := by
  induction n generalizing s with
  | zero => exact spec_pure rfl
  | succ n ih =>
    apply (h s hs).bind
    intro turn hturn
    cases turn with
    | inl t =>
      apply (ih hturn.2).mono
      intro b hb
      rw [Loop.iter_succ_inl hturn.1, hb]
    | inr b => exact spec_pure (Loop.iter_succ_inr hturn).symm

/-- **Rule for a loop with a variant.** -/
theorem loop {μ : τ → Nat} (h : Follows P I abs body' body)
    (hμ : ∀ {t u}, Loop.Reaches body' (abs s) t → body' t = .inl u → μ u < μ t) (default : β)
    (hs : I s) :
    (Access.loop body (fun s => μ (abs s)) default s).Spec P
      fun b => b = Loop.run body' μ default (abs s) := by
  have hreturns : Loop.Returns (turn body) (s, [])
      (Access.loop body (fun s => μ (abs s)) default s) := by
    refine Loop.run_returns _ fun {t u} ht hturn => ?_
    have hreach : Loop.Reaches (fun s => (body s).value) s t.1 := by
      refine ht.invariant (P := fun t => Loop.Reaches (fun s => (body s).value) s t.1) ?_ .refl
      intro t u ht hturn
      exact ht.tail (value_of_turn hturn)
    obtain ⟨hreach', hI⟩ := h.reaches hs hreach
    exact hμ hreach' (h.next hI (value_of_turn hturn)).1
  constructor
  · refine (within_of_returns hreturns).mpr ⟨fun i hi => absurd hi List.not_mem_nil, fun t ht => ?_⟩
    exact (h t (h.reaches hs ht).2).1
  · obtain ⟨t, ht, hexit⟩ := Loop.returns_iff.mp (value_of_returns hreturns)
    obtain ⟨hreach, hI⟩ := h.reaches hs ht
    exact (Loop.returns_iff.mpr ⟨abs t, hreach, h.exit hI hexit⟩).unique (Loop.run_returns default hμ)

end Follows

end Access
end ExtDevMgr
