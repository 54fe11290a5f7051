import Mathlib.Data.List.Count
import Mathlib.Data.List.Nodup
import Mathlib.Data.List.Perm.Basic

/-!
# Lists by key

A list is looked at through its parts, the elements with one key. What several sources give, each
under a name of its own, has the list of one source as the part of its name.
-/

namespace ExtDevMgr.Parts

variable {β ρ ν : Type*} [DecidableEq ν]

/-- A list is determined up to its order by its parts. -/
theorem perm_of_filter_eq [DecidableEq ρ] (key : ρ → ν) {l l' : List ρ}
    (h : ∀ k, l.filter (fun r => key r = k) = l'.filter fun r => key r = k) : l.Perm l' := by
  rw [List.perm_iff_count]
  intro r
  have hcount : ∀ l : List ρ, l.count r = (l.filter fun r' => key r' = key r).count r :=
    fun l => (List.count_filter (p := fun r' => decide (key r' = key r))
      (decide_eq_true rfl)).symm
  rw [hcount l, hcount l', h]

theorem filter_key_eq_self {key : ρ → ν} {k : ν} {l : List ρ} (h : ∀ r ∈ l, key r = k) :
    l.filter (fun r => key r = k) = l :=
  List.filter_eq_self.mpr fun r hr => decide_eq_true (h r hr)

theorem filter_key_eq_nil {key : ρ → ν} {k k' : ν} {l : List ρ} (h : ∀ r ∈ l, key r = k)
    (hne : k ≠ k') : l.filter (fun r => key r = k') = [] := by
  apply List.filter_eq_nil_iff.mpr
  intro r hr heq
  exact hne ((h r hr).symm.trans (of_decide_eq_true heq))

/-- Where the names are distinct, a search by name finds the elements. -/
theorem find?_name_iff {name : β → ν} {l : List β} (hnodup : (l.map name).Nodup) {n : ν} {b : β} :
    l.find? (fun b => name b = n) = some b ↔ b ∈ l ∧ name b = n := by
  constructor
  · intro h
    have hname := List.find?_some h
    exact ⟨List.mem_of_find?_eq_some h, of_decide_eq_true hname⟩
  · rintro ⟨hmem, rfl⟩
    cases h : l.find? fun b' => name b' = name b with
    | none => exact absurd (decide_eq_true rfl) (List.find?_eq_none.mp h b hmem)
    | some b' =>
      have hname := List.find?_some h
      exact congrArg some (List.inj_on_of_nodup_map hnodup (List.mem_of_find?_eq_some h) hmem
        (of_decide_eq_true hname))

/-- The part of one source in what all sources give. -/
theorem filter_flatMap {key : ρ → Option ν} {name : β → ν} {g : β → List ρ} {l : List β}
    (hkey : ∀ b, ∀ r ∈ g b, key r = some (name b)) (hnodup : (l.map name).Nodup)
    (k : Option ν) : (l.flatMap g).filter (fun r => key r = k) =
      (k.bind fun n => l.find? fun b => name b = n).elim [] g := by
  induction l with
  | nil => cases k <;> rfl
  | cons b l ih =>
    obtain ⟨hnotMem, hnodup⟩ := List.nodup_cons.mp hnodup
    rw [List.flatMap_cons, List.filter_append, ih hnodup]
    cases k with
    | none => rw [filter_key_eq_nil (hkey b) (Option.some_ne_none _)]; rfl
    | some n =>
      by_cases hn : name b = n
      · subst hn
        have hnone : l.find? (fun b' => name b' = name b) = none := by
          apply List.find?_eq_none.mpr
          intro b' hb' heq
          exact hnotMem (List.mem_map.mpr ⟨b', hb', of_decide_eq_true heq⟩)
        have hfound : (b :: l).find? (fun b' => name b' = name b) = some b :=
          List.find?_cons_of_pos (decide_eq_true rfl)
        rw [filter_key_eq_self (hkey b), Option.bind_some, Option.bind_some, hnone, hfound]
        exact List.append_nil _
      · have hrest : (b :: l).find? (fun b' => name b' = n) = l.find? fun b' => name b' = n :=
          List.find?_cons_of_neg fun heq => hn (of_decide_eq_true heq)
        rw [filter_key_eq_nil (hkey b) fun heq => hn (Option.some.inj heq), Option.bind_some,
          Option.bind_some, hrest]
        rfl

end ExtDevMgr.Parts
