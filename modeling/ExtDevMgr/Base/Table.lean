import Mathlib.Data.List.AList

/-!
# Tables

Hash tables as association lists with distinct keys, with the two operations over all entries that
`AList` does not have.
-/

namespace ExtDevMgr

abbrev Table (α β : Type*) := AList fun _ : α => β

namespace Table
variable {α β γ : Type*}

theorem ext_lookup_mem [DecidableEq α] {s : Table α β} {t : Option β} {a : α}
    (h : ∀ b, ⟨a, b⟩ ∈ s.entries ↔ t = some b) : s.lookup a = t :=
  Option.ext fun b => AList.mem_lookup_iff.trans (h b)

def filter (p : α → Bool) (t : Table α β) : Table α β :=
  ⟨t.entries.filter fun e => p e.1, t.nodupKeys.sublist List.filter_sublist⟩

theorem keys_map (f : β → γ) (l : List (Sigma fun _ : α => β)) :
    (l.map fun e => (⟨e.1, f e.2⟩ : Sigma fun _ : α => γ)).keys = l.keys := by
  simp [List.keys, Function.comp_def]

def mapValues (f : β → γ) (t : Table α β) : Table α γ :=
  ⟨t.entries.map fun e => ⟨e.1, f e.2⟩, by
    rw [List.NodupKeys, keys_map]
    exact t.nodupKeys⟩

variable [DecidableEq α]

theorem lookup_eq_some_iff {t : Table α β} {a : α} {b : β} :
    t.lookup a = some b ↔ ⟨a, b⟩ ∈ t.entries :=
  AList.mem_lookup_iff

theorem lookup_insert_of_notMem {t : Table α β} {a : α} (h : a ∉ t) {b : β} {a' : α} {b' : β} :
    (t.insert a b).lookup a' = some b' ↔ (a' = a ∧ b = b') ∨ t.lookup a' = some b' := by
  by_cases ha : a' = a
  · subst ha
    rw [AList.lookup_insert, AList.lookup_eq_none.mpr h]
    simp
  · rw [AList.lookup_insert_ne ha, or_iff_right fun h => ha h.1]

theorem lookup_erase_eq_some {t : Table α β} {a a' : α} {b : β} :
    (t.erase a).lookup a' = some b ↔ a' ≠ a ∧ t.lookup a' = some b := by
  by_cases ha : a' = a
  · subst ha
    rw [AList.lookup_erase]
    simp
  · rw [AList.lookup_erase_ne ha, and_iff_right ha]

theorem lookup_filter (p : α → Bool) (t : Table α β) (a : α) :
    (filter p t).lookup a = if p a then t.lookup a else none := by
  refine ext_lookup_mem fun b => ?_
  split
  case isTrue h => simp [filter, h, lookup_eq_some_iff]
  case isFalse h => simp [filter, h]

theorem lookup_mapValues (f : β → γ) (t : Table α β) (a : α) :
    (mapValues f t).lookup a = (t.lookup a).map f := by
  refine ext_lookup_mem fun c => ?_
  simp only [mapValues, List.mem_map, Option.map_eq_some_iff, lookup_eq_some_iff]
  constructor
  · rintro ⟨⟨_, b⟩, hb, heq⟩
    cases heq
    exact ⟨b, hb, rfl⟩
  · rintro ⟨b, hb, rfl⟩
    exact ⟨⟨a, b⟩, hb, rfl⟩

theorem mem_mapValues {f : β → γ} {t : Table α β} {a : α} : a ∈ mapValues f t ↔ a ∈ t := by
  rw [← AList.lookup_isSome, ← AList.lookup_isSome, lookup_mapValues, Option.isSome_map]

def values (t : Table α β) : List β := t.entries.map Sigma.snd

theorem values_erase_of_notMem {t : Table α β} {a : α} (h : a ∉ t) :
    values (t.erase a) = t.values := by
  have herase : t.entries.kerase a = t.entries := List.kerase_of_notMem_keys h
  exact congrArg (List.map fun e => e.2) herase

theorem values_perm_erase {t : Table α β} {a : α} {b : β} (h : t.lookup a = some b) :
    t.values.Perm (b :: values (t.erase a)) := by
  have hmem : a ∈ t.entries.keys := AList.mem_keys.mp (AList.lookup_isSome.mp (by rw [h]; rfl))
  obtain ⟨b', front, back, -, heq, herase⟩ := List.exists_of_kerase hmem
  have hb : b' = b := by
    have hentry : ⟨a, b'⟩ ∈ t.entries := heq ▸ List.mem_append_right _ List.mem_cons_self
    exact Option.some.inj ((lookup_eq_some_iff.mpr hentry).symm.trans h)
  have hback : (t.erase a).entries = front ++ back := herase
  rw [values, values, hback, heq, hb, List.map_append, List.map_append, List.map_cons]
  exact List.perm_middle

/-- A table that is filled from a list holds the last value of each key. -/
theorem lookup_foldl_insert (l : List (α × β)) (t : Table α β) (a : α) :
    (l.foldl (fun t e => t.insert e.1 e.2) t).lookup a =
      ((l.filter (·.1 = a)).getLast?.map Prod.snd).or (t.lookup a) := by
  induction l generalizing t with
  | nil => rfl
  | cons e l ih =>
    rw [List.foldl_cons, ih, List.filter_cons]
    by_cases ha : e.1 = a
    · rw [if_pos (decide_eq_true ha), List.getLast?_cons, ← ha, AList.lookup_insert]
      cases (l.filter (·.1 = e.1)).getLast? <;> rfl
    · rw [if_neg (by simpa using ha), AList.lookup_insert_ne (Ne.symm ha)]

/-! ## Joins -/

section Join
variable {δ : Type*} (f : β → γ → Option δ)

/-- An entry of the left table meets the right one, which loses the key. -/
def joinStep (s : Table α δ × Table α γ) (e : Sigma fun _ : α => β) : Table α δ × Table α γ :=
  match s.2.lookup e.1 with
  | none => s
  | some c => ((f e.2 c).elim s.1 (s.1.insert e.1), s.2.erase e.1)

theorem joinStep_ne {s : Table α δ × Table α γ} {e : Sigma fun _ : α => β} {a : α} (h : a ≠ e.1) :
    (joinStep f s e).1.lookup a = s.1.lookup a ∧ (joinStep f s e).2.lookup a = s.2.lookup a := by
  cases hc : s.2.lookup e.1 with
  | none => simp [joinStep, hc]
  | some c =>
    cases hd : f e.2 c with
    | none => simp [joinStep, hc, hd, AList.lookup_erase_ne h]
    | some d => simp [joinStep, hc, hd, AList.lookup_erase_ne h, AList.lookup_insert_ne h]

theorem joinStep_self {s : Table α δ × Table α γ} {a : α} (b : β) (h : s.1.lookup a = none) :
    (joinStep f s ⟨a, b⟩).1.lookup a = (s.2.lookup a).bind (f b) := by
  cases hc : s.2.lookup a with
  | none => simp [joinStep, hc, h]
  | some c =>
    cases hd : f b c with
    | none => simp [joinStep, hc, hd, h]
    | some d => simp [joinStep, hc, hd]

/-- The keys behind are looked up in what is left of the right table. -/
theorem lookup_foldl_joinStep_of_notMem {l : List (Sigma fun _ : α => β)} {a : α} (h : a ∉ l.keys)
    (s : Table α δ × Table α γ) : (l.foldl (joinStep f) s).1.lookup a = s.1.lookup a := by
  induction l generalizing s with
  | nil => rfl
  | cons e l ih =>
    rw [List.keys_cons, List.mem_cons, not_or] at h
    rw [List.foldl_cons, ih h.2, (joinStep_ne f h.1).1]

theorem lookup_foldl_joinStep {l : List (Sigma fun _ : α => β)} (hl : l.NodupKeys) {a : α}
    {s : Table α δ × Table α γ} (h : s.1.lookup a = none) :
    (l.foldl (joinStep f) s).1.lookup a =
      (l.dlookup a).bind fun b => (s.2.lookup a).bind (f b) := by
  induction l generalizing s with
  | nil => exact h
  | cons e l ih =>
    obtain ⟨k, b⟩ := e
    obtain ⟨hk, hl⟩ := List.nodupKeys_cons.mp hl
    by_cases ha : a = k
    · subst ha
      rw [List.foldl_cons, lookup_foldl_joinStep_of_notMem f hk, joinStep_self f b h,
        List.dlookup_cons_eq, Option.bind_some]
    · obtain ⟨hfst, hsnd⟩ := joinStep_ne f (s := s) (e := ⟨k, b⟩) ha
      rw [List.foldl_cons, ih hl (hfst.trans h), hsnd, List.dlookup_cons_ne l ⟨k, b⟩ ha]

/-- The join of two tables, whatever the order of the entries. -/
theorem lookup_join (t : Table α β) (u : Table α γ) (a : α) :
    (t.entries.foldl (joinStep f) (∅, u)).1.lookup a =
      (t.lookup a).bind fun b => (u.lookup a).bind (f b) :=
  lookup_foldl_joinStep f t.nodupKeys (AList.lookup_empty a)

end Join

/-! ## Erasing while iterating -/

section EraseIf
variable (p : α → Bool) (f : γ → β → γ)

/-- The iterator stands at the first entry of the list; what is erased is taken into the result. -/
def eraseIf : List (Sigma fun _ : α => β) → γ × Table α β → γ × Table α β
  | [], s => s
  | e :: rest, s => if p e.1 then eraseIf rest (f s.1 e.2, s.2.erase e.1) else eraseIf rest s

variable {p f}

theorem eraseIf_fst (l : List (Sigma fun _ : α => β)) (acc : γ) (t : Table α β) :
    (eraseIf p f l (acc, t)).1 = (l.filter fun e => p e.1).foldl (fun acc e => f acc e.2) acc := by
  induction l generalizing acc t with
  | nil => rfl
  | cons e l ih =>
    rw [eraseIf, List.filter_cons]
    split
    · exact ih _ _
    · exact ih _ _

/-- What stands before the iterator has been kept. -/
theorem eraseIf_entries {kept l : List (Sigma fun _ : α => β)} {acc : γ} {t : Table α β}
    (ht : t.entries = kept ++ l) :
    (eraseIf p f l (acc, t)).2.entries = kept ++ l.filter fun e => !p e.1 := by
  induction l generalizing kept acc t with
  | nil => exact ht
  | cons e l ih =>
    rw [eraseIf, List.filter_cons]
    cases he : p e.1 with
    | true =>
      have hkept : e.1 ∉ kept.keys := by
        have hnodup := List.nodupKeys_middle.mp (ht ▸ t.nodupKeys)
        intro hmem
        refine (List.nodupKeys_cons.mp hnodup).1 ?_
        rw [List.keys, List.map_append]
        exact List.mem_append_left _ hmem
      have herase : (t.erase e.1).entries = kept ++ l := by
        have hentries : (t.erase e.1).entries = t.entries.kerase e.1 := rfl
        rw [hentries, ht, List.kerase_append_right hkept, List.kerase_cons_eq rfl]
      exact ih herase
    | false =>
      have hkept : t.entries = (kept ++ [e]) ++ l := by rw [ht, List.append_assoc]; rfl
      exact (ih hkept).trans (List.append_assoc _ _ _)

/-- Iterating from the begin of the table leaves the entries without `p`. -/
theorem eraseIf_snd (acc : γ) (t : Table α β) :
    (eraseIf p f t.entries (acc, t)).2 = filter (fun a => !p a) t :=
  AList.ext (eraseIf_entries (List.nil_append _).symm)

end EraseIf

end Table
end ExtDevMgr
