import ExtDevMgr.Base.Table

/-!
# Ledgers

Numbers that are given out and come back, such as file descriptors or the addresses of a heap. A number
that has come back may be given out again, so a ledger counts the issues: an issue begins when a number
is given out and ends when it comes back. Who takes numbers has a list of those that it holds, and
`Conserves` says that nothing is lost and nothing comes back twice.
-/

namespace ExtDevMgr

/-- An issue is either running, for one number, or has been ended once. -/
structure Ledger (ν : Type*) [DecidableEq ν] where
  /-- The numbers that are out, with their issues. -/
  out : Table ν Nat
  issued : Nat
  /-- The issues that have been ended; `none` stands for a number that came back without being out. -/
  ended : List (Option Nat)
  unique : ∀ {n m i}, out.lookup n = some i → out.lookup m = some i → n = m
  issue : ∀ i < issued, (∃ n, out.lookup n = some i) ∧ ended.count (some i) = 0 ∨
    (∀ n, out.lookup n ≠ some i) ∧ ended.count (some i) = 1
  unissued : ∀ i, issued ≤ i → (∀ n, out.lookup n ≠ some i) ∧ ended.count (some i) = 0

namespace Ledger
variable {ν : Type*} [DecidableEq ν]

def new : Ledger ν where
  out := ∅
  issued := 0
  ended := []
  unique h := by cases h
  issue _ h := by cases h
  unissued _ _ := ⟨nofun, rfl⟩

theorem lookup_give {out : Table ν Nat} {n m : ν} {i k : Nat} (hn : n ∉ out) :
    (out.insert n k).lookup m = some i ↔ (m = n ∧ k = i) ∨ out.lookup m = some i :=
  Table.lookup_insert_of_notMem hn

/-- A number that is out is not given out again. -/
def give (l : Ledger ν) (n : ν) : Ledger ν :=
  if hn : n ∈ l.out then l
  else
    { out := l.out.insert n l.issued
      issued := l.issued + 1
      ended := l.ended
      unique := by
        intro n₁ n₂ i h₁ h₂
        have hnew (m : ν) : l.out.lookup m ≠ some l.issued :=
          (l.unissued l.issued (Nat.le_refl _)).1 m
        rw [lookup_give hn] at h₁ h₂
        obtain ⟨rfl, rfl⟩ | h₁ := h₁
        · obtain ⟨rfl, -⟩ | h₂ := h₂
          · rfl
          · exact absurd h₂ (hnew _)
        · obtain ⟨-, rfl⟩ | h₂ := h₂
          · exact absurd h₁ (hnew _)
          · exact l.unique h₁ h₂
      issue := by
        intro i hi
        simp only [ne_eq, lookup_give hn]
        obtain hlt | rfl := Nat.lt_succ_iff_lt_or_eq.mp hi
        · obtain ⟨⟨m, hm⟩, hcount⟩ | ⟨hnone, hcount⟩ := l.issue i hlt
          · exact .inl ⟨⟨m, .inr hm⟩, hcount⟩
          · refine .inr ⟨fun m => not_or.mpr ⟨fun h => ?_, hnone m⟩, hcount⟩
            exact absurd h.2 (Nat.ne_of_gt hlt)
        · exact .inl ⟨⟨n, .inl ⟨rfl, rfl⟩⟩, (l.unissued _ (Nat.le_refl _)).2⟩
      unissued := by
        intro i hi
        obtain ⟨hnone, hcount⟩ := l.unissued i (Nat.le_of_succ_le hi)
        simp only [ne_eq, lookup_give hn]
        exact ⟨fun m => not_or.mpr ⟨fun h => absurd h.2 (Nat.ne_of_lt hi), hnone m⟩, hcount⟩ }

def giveBack (l : Ledger ν) (n : ν) : Ledger ν where
  out := l.out.erase n
  issued := l.issued
  ended := l.out.lookup n :: l.ended
  unique h₁ h₂ := l.unique (Table.lookup_erase_eq_some.mp h₁).2 (Table.lookup_erase_eq_some.mp h₂).2
  issue := by
    intro i hi
    simp only [Table.lookup_erase_eq_some, ne_eq, not_and]
    by_cases hn : l.out.lookup n = some i
    · obtain ⟨-, hcount⟩ | ⟨hnone, -⟩ := l.issue i hi
      · refine .inr ⟨fun m hne hm => hne (l.unique hm hn), ?_⟩
        rw [hn, List.count_cons_self, hcount]
      · exact absurd hn (hnone n)
    · rw [List.count_cons_of_ne hn]
      obtain ⟨⟨m, hm⟩, hcount⟩ | ⟨hnone, hcount⟩ := l.issue i hi
      · exact .inl ⟨⟨m, fun h => hn (h ▸ hm), hm⟩, hcount⟩
      · exact .inr ⟨fun m _ => hnone m, hcount⟩
  unissued := by
    intro i hi
    obtain ⟨hnone, hcount⟩ := l.unissued i hi
    rw [List.count_cons_of_ne (hnone n)]
    exact ⟨fun m h => hnone m (Table.lookup_erase_eq_some.mp h).2, hcount⟩

def giveBackAll (l : Ledger ν) (ns : List ν) : Ledger ν := ns.foldl giveBack l

variable {l : Ledger ν} {n m : ν} {held held' ns : List ν}

theorem ended_give (l : Ledger ν) (n : ν) : (l.give n).ended = l.ended := by
  unfold give
  split <;> rfl

theorem mem_give : m ∈ (l.give n).out ↔ m = n ∨ m ∈ l.out := by
  unfold give
  split
  case isTrue hn =>
    refine ⟨.inr, fun h => ?_⟩
    obtain rfl | h := h
    · exact hn
    · exact h
  case isFalse => exact AList.mem_insert _

theorem mem_giveBack : m ∈ (l.giveBack n).out ↔ m ≠ n ∧ m ∈ l.out := AList.mem_erase

theorem give_ne (h : n ∉ l.out) : l.give n ≠ l := by
  intro heq
  have hmem : n ∈ (l.give n).out := mem_give.mpr (.inl rfl)
  exact h (heq ▸ hmem)

theorem giveBack_ne (l : Ledger ν) (n : ν) : l.giveBack n ≠ l := by
  intro heq
  have hlength : (l.giveBack n).ended.length = l.ended.length + 1 := rfl
  rw [heq] at hlength
  omega

/-! ## Who holds what is out -/

/-- The issue is held by one of `held`, or it has been ended once. -/
def Accounted (l : Ledger ν) (held : List ν) (i : Nat) : Prop :=
  (held.countP fun n => l.out.lookup n = some i) = 1 ∧ l.ended.count (some i) = 0 ∨
    (∀ n, l.out.lookup n ≠ some i) ∧ l.ended.count (some i) = 1

/-- No issue is lost, and nothing came back that was not out. -/
structure Conserves (l : Ledger ν) (held : List ν) : Prop where
  accounted : ∀ i < l.issued, l.Accounted held i
  known : none ∉ l.ended

/-- What is held is out, and held once. More may be out. -/
structure Sound (l : Ledger ν) (held : List ν) : Prop where
  known : none ∉ l.ended
  nodup : held.Nodup
  out : ∀ n ∈ held, n ∈ l.out

theorem new_sound : (new : Ledger ν).Sound [] := ⟨nofun, List.nodup_nil, nofun⟩

theorem new_conserves : (new : Ledger ν).Conserves [] := ⟨nofun, nofun⟩

/-- A sound ledger conserves exactly when everything that is out is held. -/
theorem Sound.conserves_iff (h : l.Sound held) :
    l.Conserves held ↔ ∀ n ∈ l.out, n ∈ held := by
  have hcountP {n : ν} {i : Nat} (hn : l.out.lookup n = some i) :
      (held.countP fun m => l.out.lookup m = some i) = held.count n := by
    refine List.countP_congr fun m _ => ?_
    rw [decide_eq_true_eq, beq_iff_eq]
    exact ⟨fun hm => l.unique hm hn, fun hm => hm ▸ hn⟩
  constructor
  · intro hconserves n hn
    obtain ⟨i, hi⟩ := Option.isSome_iff_exists.mp (AList.lookup_isSome.mpr hn)
    have hlt : i < l.issued := by
      apply Nat.lt_of_not_le
      exact fun hle => (l.unissued i hle).1 n hi
    obtain ⟨hone, -⟩ | ⟨hnone, -⟩ := hconserves.accounted i hlt
    · rw [hcountP hi] at hone
      exact List.count_pos_iff.mp (by omega)
    · exact absurd hi (hnone n)
  · intro hall
    refine ⟨fun i hi => ?_, h.known⟩
    obtain ⟨⟨n, hn⟩, hcount⟩ | hended := l.issue i hi
    · refine .inl ⟨?_, hcount⟩
      rw [hcountP hn]
      exact List.count_eq_one_of_mem h.nodup (hall n (AList.lookup_isSome.mp (by rw [hn]; rfl)))
    · exact .inr hended

theorem Sound.give (h : l.Sound held) (n : ν) : (l.give n).Sound held :=
  ⟨ended_give l n ▸ h.known, h.nodup, fun m hm => mem_give.mpr (.inr (h.out m hm))⟩

/-- A number that is given out and not held is lost. -/
theorem Sound.not_conserves_give (h : l.Sound held) (hn : n ∉ l.out) :
    ¬(l.give n).Conserves held := by
  rw [(h.give n).conserves_iff]
  exact fun hall => hn (h.out n (hall n (mem_give.mpr (.inl rfl))))

/-- Everything that is out is held. -/
structure Balanced (l : Ledger ν) (held : List ν) : Prop extends l.Sound held where
  all : ∀ n ∈ l.out, n ∈ held

theorem Balanced.conserves (h : l.Balanced held) : l.Conserves held :=
  h.toSound.conserves_iff.mpr h.all

theorem Sound.balanced (h : l.Sound held) (hconserves : l.Conserves held) : l.Balanced held :=
  ⟨h, h.conserves_iff.mp hconserves⟩

theorem new_balanced : (new : Ledger ν).Balanced [] := ⟨new_sound, nofun⟩

/-! ## Holders that keep their list -/

/-- `R` stays true as long as what is given out is put on the list and what comes back is taken off. -/
structure Tracked (R : Ledger ν → List ν → Prop) : Prop where
  perm : ∀ {l held held'}, R l held → held.Perm held' → R l held'
  give : ∀ {l held n}, R l held → n ∉ l.out → R (l.give n) (n :: held)
  giveBack : ∀ {l held n}, R l (n :: held) → R (l.giveBack n) held

theorem Tracked.giveBackAll {R : Ledger ν → List ν → Prop} (hR : Tracked R)
    (h : R l (ns ++ held)) : R (l.giveBackAll ns) held := by
  induction ns generalizing l with
  | nil => exact h
  | cons n ns ih => exact ih (hR.giveBack h)

theorem sound_tracked : Tracked (Sound (ν := ν)) where
  perm h hperm := ⟨h.known, hperm.nodup_iff.mp h.nodup, fun n hn => h.out n (hperm.mem_iff.mpr hn)⟩
  give {l held n} h hn := by
    refine ⟨(h.give n).known, List.nodup_cons.mpr ⟨fun hmem => hn (h.out n hmem), h.nodup⟩, ?_⟩
    exact List.forall_mem_cons.mpr ⟨mem_give.mpr (.inl rfl), (h.give n).out⟩
  giveBack {l held n} h := by
    obtain ⟨hnotMem, hnodup⟩ := List.nodup_cons.mp h.nodup
    obtain ⟨hn, hout⟩ := List.forall_mem_cons.mp h.out
    refine ⟨?_, hnodup, fun m hm => mem_giveBack.mpr ⟨?_, hout m hm⟩⟩
    · refine List.mem_cons.not.mpr (not_or.mpr ⟨?_, h.known⟩)
      exact fun hnone => AList.lookup_eq_none.mp hnone.symm hn
    · exact fun heq => hnotMem (heq ▸ hm)

theorem balanced_tracked : Tracked (Balanced (ν := ν)) where
  perm h hperm := ⟨sound_tracked.perm h.toSound hperm, fun n hn => hperm.mem_iff.mp (h.all n hn)⟩
  give {l held n} h hn := by
    refine ⟨sound_tracked.give h.toSound hn, fun m hm => ?_⟩
    exact List.mem_cons.mpr ((mem_give.mp hm).imp_right (h.all m))
  giveBack {l held n} h := by
    refine ⟨sound_tracked.giveBack h.toSound, fun m hm => ?_⟩
    obtain ⟨hne, hm⟩ := mem_giveBack.mp hm
    exact (List.mem_cons.mp (h.all m hm)).resolve_left hne

/-! ## Tables of descriptors -/

section
variable {α : Type*} {t : Table α Int32} {a : α} {fd : Int32} {l : Ledger Int32} {held : List Int32}

/-- The values of a table in which -1 stands for no descriptor. -/
def descriptors (t : Table α Int32) : List Int32 := t.values.filter (· ≠ -1)

variable [DecidableEq α]

theorem descriptors_insert (t : Table α Int32) (a : α) (h : fd ≠ -1) :
    descriptors (t.insert a fd) = fd :: descriptors (t.erase a) := by
  have hfd : decide (fd ≠ -1) = true := decide_eq_true h
  exact List.filter_cons_of_pos hfd

theorem descriptors_insert_none (t : Table α Int32) (a : α) :
    descriptors (t.insert a (-1)) = descriptors (t.erase a) := by
  have hfd : ¬decide ((-1 : Int32) ≠ -1) = true := by decide
  exact List.filter_cons_of_neg hfd

theorem descriptors_erase_of_notMem (h : a ∉ t) : descriptors (t.erase a) = descriptors t := by
  rw [descriptors, Table.values_erase_of_notMem h, descriptors]

/-- What is recorded under a key may as well have been recorded last. -/
theorem descriptors_perm_insert (h : t.lookup a = some fd) :
    (descriptors t).Perm (descriptors (t.insert a fd)) :=
  (Table.values_perm_erase h).filter _

def receive (l : Ledger Int32) (fd : Int32) : Ledger Int32 := if fd = -1 then l else l.give fd

theorem receive_none (l : Ledger Int32) : l.receive (-1) = l := if_pos rfl

theorem receive_some (l : Ledger Int32) (h : fd ≠ -1) : l.receive fd = l.give fd := if_neg h

/-- Closes the descriptor of the key, if it has one. -/
def closeAt (l : Ledger Int32) (t : Table α Int32) (a : α) : Ledger Int32 :=
  match t.lookup a with
  | none => l
  | some fd => if fd ≠ -1 then l.giveBack fd else l

variable {R : Ledger Int32 → List Int32 → Prop}

/-- Closing what a key has and forgetting the key goes together. -/
theorem Tracked.closeAt (hR : Tracked R) (h : R l (descriptors t ++ held)) (a : α) :
    R (l.closeAt t a) (descriptors (t.erase a) ++ held) := by
  unfold Ledger.closeAt
  cases hlookup : t.lookup a with
  | none => rwa [descriptors_erase_of_notMem (AList.lookup_eq_none.mp hlookup)]
  | some fd =>
    have hperm := hR.perm h ((descriptors_perm_insert hlookup).append_right held)
    dsimp only
    split
    case isTrue hne =>
      rw [descriptors_insert t a hne] at hperm
      exact hR.giveBack hperm
    case isFalse heq => rwa [not_not.mp heq, descriptors_insert_none] at hperm

theorem Tracked.closeAt_erase (hR : Tracked R) (h : R l (descriptors t)) (a : α) :
    R (l.closeAt t a) (descriptors (t.erase a)) := by
  rw [← List.append_nil (descriptors _)] at h ⊢
  exact hR.closeAt h a

/-- The new descriptor takes the place of what the key had. -/
theorem Tracked.closeAt_insert (hR : Tracked R) (hfd : fd ≠ -1) (h : R l (fd :: descriptors t))
    (a : α) : R (l.closeAt t a) (descriptors (t.insert a fd)) := by
  rw [descriptors_insert t a hfd]
  have hclosed := hR.closeAt (hR.perm h (List.perm_append_singleton fd _).symm) a
  exact hR.perm hclosed (List.perm_append_singleton fd _)

theorem Tracked.receive_insert (hR : Tracked R) (h : R l (descriptors t)) (ha : a ∉ t)
    (hfresh : fd ≠ -1 → fd ∉ l.out) : R (l.receive fd) (descriptors (t.insert a fd)) := by
  by_cases hfd : fd = -1
  · rwa [hfd, receive_none, descriptors_insert_none, descriptors_erase_of_notMem ha]
  · rw [receive_some l hfd, descriptors_insert t a hfd, descriptors_erase_of_notMem ha]
    exact hR.give h (hfresh hfd)

end

end Ledger
end ExtDevMgr
