import Mathlib.Data.List.DropRight

/-!
# Splitting, joining and trimming

`lines` reads a list line by line as `std::getline` does, up to the first line that it cannot read;
apart from an empty line at the end these are the pieces of `List.splitOn`. `trim` drops what `p`
holds of from both ends.
-/

namespace ExtDevMgr.Text

variable {α : Type*}

/-! ## Lines -/

section
variable [DecidableEq α] (sep : α)

/-- `acc` has been read of the current line. A line of no characters that no separator ends is not
read. -/
def linesFrom : List α → List α → List (List α)
  | acc, [] => if acc = [] then [] else [acc]
  | acc, c :: s => if c = sep then acc :: linesFrom [] s else linesFrom (acc ++ [c]) s

def lines (s : List α) : List (List α) := linesFrom sep [] s

variable {sep}

theorem mem_linesFrom_iff {line : List α} (hne : line ≠ []) (acc s : List α) :
    line ∈ linesFrom sep acc s ↔ line ∈ (s.splitOn sep).modifyHead (acc ++ ·) := by
  induction s generalizing acc with
  | nil =>
    rw [linesFrom, List.splitOn_nil, List.modifyHead_cons, List.append_nil, List.mem_singleton]
    split
    · rename_i hacc
      rw [hacc]
      exact ⟨fun h => absurd h List.not_mem_nil, fun h => absurd h hne⟩
    · exact List.mem_singleton
  | cons c s ih =>
    rw [linesFrom, List.splitOn_cons_eq_if_modifyHead]
    split
    · rename_i hsep
      rw [if_pos (beq_iff_eq.mpr hsep), List.mem_cons, ih []]
      cases s.splitOn sep <;> simp
    · rename_i hsep
      rw [if_neg (fun h => hsep (beq_iff_eq.mp h)), ih, List.modifyHead_modifyHead]
      simp [Function.comp_def]

/-- The lines are the pieces between the separators, but for empty ones. -/
theorem mem_lines_iff {line : List α} (hne : line ≠ []) (s : List α) :
    line ∈ lines sep s ↔ line ∈ s.splitOn sep := by
  rw [lines, mem_linesFrom_iff hne]
  cases s.splitOn sep <;> simp

theorem filterMap_linesFrom {β : Type*} {f : List α → Option β} (hnil : f [] = none)
    (acc s : List α) :
    (linesFrom sep acc s).filterMap f =
      ((s.splitOn sep).modifyHead (acc ++ ·)).filterMap f := by
  induction s generalizing acc with
  | nil =>
    rw [linesFrom, List.splitOn_nil, List.modifyHead_cons, List.append_nil]
    split
    · rename_i hacc
      rw [hacc, List.filterMap_cons_none hnil]
    · rfl
  | cons c s ih =>
    rw [linesFrom, List.splitOn_cons_eq_if_modifyHead]
    split
    · rename_i hsep
      have hid : (s.splitOn sep).modifyHead (([] : List α) ++ ·) = s.splitOn sep := by
        cases s.splitOn sep <;> rfl
      rw [if_pos (beq_iff_eq.mpr hsep), List.modifyHead_cons, List.append_nil, List.filterMap_cons,
        List.filterMap_cons, ih, hid]
    · rename_i hsep
      rw [if_neg (fun h => hsep (beq_iff_eq.mp h)), ih, List.modifyHead_modifyHead]
      simp [Function.comp_def]

/-- What makes nothing of an empty piece makes the same of the lines and of the pieces. -/
theorem filterMap_lines {β : Type*} {f : List α → Option β} (hnil : f [] = none) (s : List α) :
    (lines sep s).filterMap f = (s.splitOn sep).filterMap f := by
  rw [lines, filterMap_linesFrom hnil]
  cases s.splitOn sep <;> rfl

end

/-! ## Joining -/

section
variable {sep : List α} {ls : List (List α)} {c : α}

/-- A joined text starts with its first piece. -/
theorem exists_mem_of_head?_intercalate (hne : ∀ l ∈ ls, l ≠ [])
    (h : (sep.intercalate ls).head? = some c) : ∃ l ∈ ls, c ∈ l := by
  cases ls with
  | nil => cases h
  | cons l ls =>
    obtain ⟨a, l, rfl⟩ := List.exists_cons_of_ne_nil (hne l List.mem_cons_self)
    rw [List.intercalate_cons_cons_left, List.head?_cons] at h
    cases h
    exact ⟨_, List.mem_cons_self, List.mem_cons_self⟩

/-- A joined text ends with its last piece. -/
theorem exists_mem_of_getLast?_intercalate (hne : ∀ l ∈ ls, l ≠ [])
    (h : (sep.intercalate ls).getLast? = some c) : ∃ l ∈ ls, c ∈ l := by
  induction ls with
  | nil => cases h
  | cons l ls ih =>
    cases ls with
    | nil =>
      rw [List.intercalate_singleton] at h
      exact ⟨l, List.mem_cons_self, List.mem_of_getLast? h⟩
    | cons l' ls =>
      have hrest : sep.intercalate (l' :: ls) ≠ [] := by
        obtain ⟨a, l', rfl⟩ := List.exists_cons_of_ne_nil
          (hne l' (List.mem_cons_of_mem _ List.mem_cons_self))
        rw [List.intercalate_cons_cons_left]
        exact List.cons_ne_nil _ _
      rw [List.intercalate_cons_cons, List.getLast?_append_of_ne_nil _ hrest] at h
      obtain ⟨piece, hmem, hc⟩ := ih (fun l hl => hne l (List.mem_cons_of_mem _ hl)) h
      exact ⟨piece, List.mem_cons_of_mem _ hmem, hc⟩

end

/-! ## Trimming -/

section
variable (p : α → Bool)

def trim (s : List α) : List α := (s.dropWhile p).rdropWhile p

/-- `t` is `s` without what `p` holds of at both ends. -/
structure IsTrimmed (s t : List α) : Prop where
  exists_ends : ∃ front back, s = front ++ t ++ back ∧ (∀ c ∈ front, p c) ∧ ∀ c ∈ back, p c
  head_not : ∀ c, t.head? = some c → ¬ p c
  getLast_not : ∀ c, t.getLast? = some c → ¬ p c

variable {p}

theorem isTrimmed_trim (s : List α) : IsTrimmed p s (trim p s) := by
  refine ⟨⟨s.takeWhile p, (s.dropWhile p).rtakeWhile p, ?_, ?_, ?_⟩, ?_, ?_⟩
  · rw [trim, List.append_assoc, List.rdropWhile_append_rtakeWhile,
      List.takeWhile_append_dropWhile]
  · intro c hc
    exact List.mem_takeWhile_imp hc
  · intro c hc
    exact List.mem_rtakeWhile_imp hc
  · intro c hc
    obtain ⟨back, hback⟩ := List.rdropWhile_prefix p (s.dropWhile p)
    have hhead : (s.dropWhile p).head? = some c := by
      have htrim : ((s.dropWhile p).rdropWhile p).head? = some c := hc
      rw [← hback, List.head?_append, htrim]
      rfl
    have hnot := List.head?_dropWhile_not p s
    rw [hhead] at hnot
    exact Bool.not_eq_true _ ▸ hnot
  · intro c hc
    have hne : (s.dropWhile p).rdropWhile p ≠ [] := by
      rintro hnil
      rw [trim, hnil] at hc
      cases hc
    have hlast := List.rdropWhile_last_not p (s.dropWhile p) hne
    rw [trim, List.getLast?_eq_some_getLast hne] at hc
    cases hc
    exact hlast

theorem rdropWhile_append_of_pos {t back : List α} (h : ∀ c ∈ back, p c) :
    (t ++ back).rdropWhile p = t.rdropWhile p := by
  rw [List.rdropWhile, List.reverse_append,
    List.dropWhile_append_of_pos fun c hc => h c (List.mem_reverse.mp hc)]
  rfl

theorem IsTrimmed.trim_eq {s t : List α} (h : IsTrimmed p s t) : trim p s = t := by
  obtain ⟨front, back, rfl, hfront, hback⟩ := h.exists_ends
  have hlast : t.rdropWhile p = t := by
    rw [List.rdropWhile_eq_self_iff]
    intro hne
    exact h.getLast_not _ (List.getLast?_eq_some_getLast hne)
  rw [trim, List.append_assoc, List.dropWhile_append_of_pos hfront]
  cases t with
  | nil =>
    rw [List.nil_append, List.dropWhile_eq_nil_iff.mpr hback]
    rfl
  | cons c t =>
    rw [List.cons_append, List.dropWhile_cons_of_neg (h.head_not c rfl), ← List.cons_append,
      rdropWhile_append_of_pos hback, hlast]

theorem trim_eq_nil_iff {s : List α} : trim p s = [] ↔ ∀ c ∈ s, p c := by
  constructor
  · intro h
    obtain ⟨front, back, rfl, hfront, hback⟩ := (h ▸ isTrimmed_trim s : IsTrimmed p s []).exists_ends
    rw [List.append_nil]
    exact List.forall_mem_append.mpr ⟨hfront, hback⟩
  · intro h
    exact IsTrimmed.trim_eq ⟨⟨s, [], (by simp), h, nofun⟩, nofun, nofun⟩

theorem trim_eq_iff {s t : List α} : trim p s = t ↔ IsTrimmed p s t := by
  constructor
  · rintro rfl
    exact isTrimmed_trim s
  · exact IsTrimmed.trim_eq

end

end ExtDevMgr.Text
