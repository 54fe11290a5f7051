import Mathlib.Control.Basic

/-!
# Writers and readers of a first-in first-out store

A writer appends values at the end of a store that may refuse one; a reader takes them off the front.
`writeAll` is the writer of given values, and `Reads` says what a reader makes of the values it takes
off; both are closed under sequencing.
-/

namespace ExtDevMgr.Codec

variable {ν α β : Type}

/-- A writer fails where the C++ one returns false. -/
abbrev Writer (ν : Type) := ExceptT Unit (StateM (List ν))

abbrev Reader (ν : Type) := StateM (List ν)

/-! ## Writers -/

section
variable (accepts : List ν → ν → Bool)

/-- Appends a value, if the store takes it. -/
def write (v : ν) : Writer ν Unit := do
  let store ← get
  if accepts store v then set (store ++ [v]) else throw ()

def writeAll : List ν → Writer ν Unit
  | [] => pure ()
  | v :: vs => do
    write accepts v
    writeAll vs

theorem writeAll_append (vs ws : List ν) :
    writeAll accepts (vs ++ ws) = (do writeAll accepts vs; writeAll accepts ws) := by
  induction vs with
  | nil => exact (pure_bind () fun _ => writeAll accepts ws).symm
  | cons v vs ih =>
    rw [List.cons_append, writeAll, ih, writeAll, bind_assoc]

/-- Writing the elements of a list one after the other. -/
theorem forM_eq_writeAll {m : α → Writer ν Unit} {encode : α → List ν}
    (h : ∀ a, m a = writeAll accepts (encode a)) (l : List α) :
    l.forM m = writeAll accepts (l.flatMap encode) := by
  induction l with
  | nil => rfl
  | cons a l ih =>
    rw [List.flatMap_cons, writeAll_append, ← h a, ← ih]
    rfl

variable {accepts}

theorem write_run (v : ν) (store : List ν) :
    (write accepts v).run.run store =
      if accepts store v then (.ok (), store ++ [v]) else (.error (), store) := by
  have hrun : (write accepts v).run.run store =
      ExceptT.run (if accepts store v then set (store ++ [v]) else throw () : Writer ν Unit)
        store := rfl
  rw [hrun]
  split <;> rfl

theorem writeAll_cons_run (v : ν) (vs store : List ν) :
    (writeAll accepts (v :: vs)).run.run store =
      if accepts store v then (writeAll accepts vs).run.run (store ++ [v])
      else (.error (), store) := by
  have hrun : (write accepts v).run.run store = _ := write_run v store
  rw [writeAll, ExceptT.run_bind, StateT.run_bind, hrun]
  split <;> rfl

/-- What was written stands behind what was there. -/
theorem writeAll_ok {vs store written : List ν}
    (h : (writeAll accepts vs).run.run store = (.ok (), written)) : written = store ++ vs := by
  induction vs generalizing store with
  | nil =>
    cases h
    exact (List.append_nil _).symm
  | cons v vs ih =>
    rw [writeAll_cons_run] at h
    split at h
    · rw [ih h, List.append_assoc]
      rfl
    · cases h

/-- A store that takes every value takes them all. -/
theorem writeAll_true (vs store : List ν) :
    (writeAll (fun _ _ => true) vs).run.run store = (.ok (), store ++ vs) := by
  induction vs generalizing store with
  | nil => exact congrArg (Prod.mk _) (List.append_nil store).symm
  | cons v vs ih =>
    rw [writeAll_cons_run, if_pos rfl, ih, List.append_assoc]
    rfl

end

theorem bind_run_ok {m : Writer ν α} {f : α → Writer ν β} {store written : List ν} {b : β}
    (h : (m >>= f).run.run store = (.ok b, written)) :
    ∃ a mid, m.run.run store = (.ok a, mid) ∧ (f a).run.run mid = (.ok b, written) := by
  rw [ExceptT.run_bind, StateT.run_bind] at h
  rcases hm : m.run.run store with ⟨_ | a, mid⟩
  · rw [hm] at h
    cases h
  · rw [hm] at h
    exact ⟨a, mid, rfl, h⟩

/-! ## Readers -/

/-- From a store that starts with `vs`, the reader takes off exactly `vs` and returns `a`. -/
def Reads (m : Reader ν α) (vs : List ν) (a : α) : Prop :=
  ∀ rest, m.run (vs ++ rest) = (a, rest)

theorem Reads.pure (a : α) : Reads (Pure.pure a : Reader ν α) [] a := fun _ => rfl

theorem Reads.bind {m : Reader ν α} {f : α → Reader ν β} {vs ws : List ν} {a : α} {b : β}
    (hm : Reads m vs a) (hf : Reads (f a) ws b) : Reads (m >>= f) (vs ++ ws) b := by
  intro rest
  have hrun : (m >>= f).run (vs ++ (ws ++ rest)) = (f a).run (ws ++ rest) := by
    rw [StateT.run_bind, hm]
    rfl
  rw [List.append_assoc, hrun, hf rest]

/-- Takes off the front value if `get` knows its type; the source's readers return the default value
otherwise. -/
def tryRead (get : ν → Option α) : Reader ν (Option α) := fun store =>
  match store with
  | [] => (none, [])
  | v :: store =>
    match get v with
    | none => (none, v :: store)
    | some a => (some a, store)

def read (get : ν → Option α) (default : α) : Reader ν α := do
  let a ← tryRead get
  return a.getD default

theorem Reads.tryRead {get : ν → Option α} {v : ν} {a : α} (h : get v = some a) :
    Reads (Codec.tryRead get) [v] (some a) := by
  intro rest
  rw [List.singleton_append, StateT.run, Codec.tryRead]
  simp only [h]

theorem Reads.tryRead_bind {get : ν → Option α} {f : Option α → Reader ν β} {v : ν} {vs : List ν}
    {a : α} {b : β} (h : get v = some a) (hf : Reads (f (some a)) vs b) :
    Reads (Codec.tryRead get >>= f) (v :: vs) b :=
  (Reads.tryRead h).bind hf

theorem Reads.read {get : ν → Option α} {v : ν} {a : α} (h : get v = some a) (default : α) :
    Reads (Codec.read get default) [v] a :=
  (Reads.tryRead h).bind (Reads.pure a)

theorem Reads.read_bind {get : ν → Option α} {default : α} {f : α → Reader ν β} {v : ν}
    {vs : List ν} {a : α} {b : β} (h : get v = some a) (hf : Reads (f a) vs b) :
    Reads (Codec.read get default >>= f) (v :: vs) b :=
  (Reads.read h default).bind hf

/-- Reads `n` elements; a null element ends the reading. -/
def readList (m : Reader ν (Option α)) : Nat → Reader ν (Option (List α))
  | 0 => return some []
  | n + 1 => do
    match ← m with
    | none => return none
    | some a =>
      match ← readList m n with
      | none => return none
      | some as => return some (a :: as)

theorem Reads.readList {m : Reader ν (Option α)} {encode : α → List ν}
    (h : ∀ a, Reads m (encode a) (some a)) (as : List α) :
    Reads (Codec.readList m as.length) (as.flatMap encode) (some as) := by
  induction as with
  | nil => exact Reads.pure (some [])
  | cons a as ih =>
    have hrest := ih.bind (f := fun
      | none => return none
      | some as => return some (a :: as)) (Reads.pure (some (a :: as)))
    rw [List.append_nil] at hrest
    exact (h a).bind hrest

/-! ## Readers that answer whatever they read -/

/-- The reader returns an object from every store. -/
def Answers (m : Reader ν (Option α)) : Prop := ∀ store, ∃ a rest, m.run store = (some a, rest)

theorem Answers.some (a : α) : Answers (Pure.pure (.some a) : Reader ν (Option α)) :=
  fun store => ⟨a, store, rfl⟩

theorem Answers.read_bind {get : ν → Option α} {default : α} {f : α → Reader ν (Option β)}
    (hf : ∀ a, Answers (f a)) : Answers (Codec.read get default >>= f) :=
  fun store => hf _ ((Codec.read get default).run store).2

theorem Answers.bind {m : Reader ν (Option α)} {f : Option α → Reader ν (Option β)}
    (hm : Answers m) (hf : ∀ a, Answers (f (.some a))) : Answers (m >>= f) := by
  intro store
  obtain ⟨a, rest, hrun⟩ := hm store
  obtain ⟨b, rest', hrun'⟩ := hf a rest
  refine ⟨b, rest', ?_⟩
  rw [StateT.run_bind, hrun]
  exact hrun'

theorem Answers.readList {m : Reader ν (Option α)} (hm : Answers m) (n : Nat) :
    Answers (Codec.readList m n) := by
  induction n with
  | zero => exact .some []
  | succ n ih =>
    apply hm.bind
    intro a
    apply ih.bind
    intro as
    exact .some (a :: as)

theorem Answers.ne_none {m : Reader ν (Option α)} (hm : Answers m) (store : List ν) :
    (m.run store).1 ≠ none := by
  obtain ⟨a, rest, hrun⟩ := hm store
  rw [hrun]
  nofun

end ExtDevMgr.Codec
