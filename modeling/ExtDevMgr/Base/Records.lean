import Mathlib.Data.List.GetD
import Mathlib.Data.List.TakeWhile

/-!
# Streams of length-prefixed records

A record is a byte string whose first byte is its own length, of at least the two bytes of a header.
`records` walks a byte string from record to record until what is left does not start with a
complete record. Concatenating records and walking are inverse (`records_flatten_append`), and
the leading records of a walk are a prefix of the bytes (`records_split`).
-/

namespace ExtDevMgr.Records

/-- The length byte of the record at the start of the bytes. -/
def len (bytes : List UInt8) : Nat := (bytes.getD 0 0).toNat

/-- The bytes start with a complete record. -/
def Complete (bytes : List UInt8) : Prop := 2 ≤ len bytes ∧ len bytes ≤ bytes.length

instance (bytes : List UInt8) : Decidable (Complete bytes) :=
  inferInstanceAs (Decidable (_ ∧ _))

/-- The bytes are one record. -/
def IsRecord (bytes : List UInt8) : Prop := 2 ≤ bytes.length ∧ len bytes = bytes.length

/-- The complete records from the start of the bytes on. -/
def records (bytes : List UInt8) : List (List UInt8) :=
  if Complete bytes then
    bytes.take (len bytes) :: records (bytes.drop (len bytes))
  else
    []
termination_by bytes.length
decreasing_by
  rename_i h
  have := h.1
  have := h.2
  simp only [List.length_drop]
  omega

theorem records_of_complete {bytes : List UInt8} (h : Complete bytes) :
    records bytes = bytes.take (len bytes) :: records (bytes.drop (len bytes)) := by
  rw [records, if_pos h]

theorem records_of_not_complete {bytes : List UInt8} (h : ¬ Complete bytes) :
    records bytes = [] := by
  rw [records, if_neg h]

@[simp] theorem records_nil : records [] = [] :=
  records_of_not_complete fun h => by simpa [Complete, len] using h.1

/-- Induction along the walk. -/
theorem walk_induction {P : List UInt8 → Prop}
    (stop : ∀ bytes, ¬ Complete bytes → P bytes)
    (step : ∀ bytes, Complete bytes → P (bytes.drop (len bytes)) → P bytes)
    (bytes : List UInt8) : P bytes := by
  induction hn : bytes.length using Nat.strong_induction_on generalizing bytes with
  | _ n ih =>
    by_cases h : Complete bytes
    · refine step bytes h (ih _ ?_ _ rfl)
      have := h.1
      have := h.2
      rw [List.length_drop]
      omega
    · exact stop bytes h

theorem len_append {xs : List UInt8} (ys : List UInt8) (h : xs ≠ []) : len (xs ++ ys) = len xs := by
  cases xs with
  | nil => contradiction
  | cons x xs => rfl

theorem IsRecord.ne_nil {r : List UInt8} (h : IsRecord r) : r ≠ [] := by
  rintro rfl
  exact absurd h.1 (by simp)

/-- The record with this body. -/
def record (body : List UInt8) : List UInt8 := UInt8.ofNat (body.length + 1) :: body

@[simp] theorem length_record (body : List UInt8) : (record body).length = body.length + 1 := rfl

theorem len_record {body : List UInt8} (h : body.length < 255) :
    len (record body) = body.length + 1 :=
  Nat.mod_eq_of_lt (Nat.succ_lt_succ h)

theorem isRecord_record {body : List UInt8} (hpos : 0 < body.length) (h : body.length < 255) :
    IsRecord (record body) := ⟨Nat.succ_le_succ hpos, len_record h⟩

theorem IsRecord.complete_append {r : List UInt8} (h : IsRecord r) (bytes : List UInt8) :
    Complete (r ++ bytes) := by
  rw [Complete, len_append _ h.ne_nil, h.2, List.length_append]
  exact ⟨h.1, Nat.le_add_right _ _⟩

theorem records_append {r : List UInt8} (h : IsRecord r) (bytes : List UInt8) :
    records (r ++ bytes) = r :: records bytes := by
  rw [records_of_complete (h.complete_append bytes), len_append _ h.ne_nil, h.2,
    List.take_left, List.drop_left]

theorem records_flatten_append {rs : List (List UInt8)} (h : ∀ r ∈ rs, IsRecord r)
    (bytes : List UInt8) : records (rs.flatten ++ bytes) = rs ++ records bytes := by
  induction rs with
  | nil => rfl
  | cons r rs ih =>
    rw [List.flatten_cons, List.append_assoc, records_append (h r List.mem_cons_self),
      ih fun r hr => h r (List.mem_cons_of_mem _ hr), List.cons_append]

theorem records_flatten {rs : List (List UInt8)} (h : ∀ r ∈ rs, IsRecord r) :
    records rs.flatten = rs := by
  have happ := records_flatten_append h []
  rwa [List.append_nil, records_nil, List.append_nil] at happ

theorem length_take_len {bytes : List UInt8} (h : Complete bytes) :
    (bytes.take (len bytes)).length = len bytes := by
  rw [List.length_take, Nat.min_eq_left h.2]

theorem isRecord_take {bytes : List UInt8} (h : Complete bytes) :
    IsRecord (bytes.take (len bytes)) := by
  have hlen := length_take_len h
  have h2 := h.1
  refine ⟨by omega, ?_⟩
  have hne : bytes.take (len bytes) ≠ [] := by
    intro hnil
    rw [hnil, List.length_nil] at hlen
    omega
  have hhead := len_append (bytes.drop (len bytes)) hne
  rw [List.take_append_drop] at hhead
  exact hhead.symm.trans hlen.symm

theorem isRecord_of_mem {bytes r : List UInt8} : r ∈ records bytes → IsRecord r := by
  induction bytes using walk_induction with
  | stop bytes h => simp [records_of_not_complete h]
  | step bytes h ih =>
    rw [records_of_complete h, List.mem_cons]
    rintro (rfl | hr)
    · exact isRecord_take h
    · exact ih hr

/-- The leading records of a walk are the leading bytes, and the walk of what follows them is the
rest of the walk. -/
theorem records_split {bytes : List UInt8} {rs rs' : List (List UInt8)}
    (h : records bytes = rs ++ rs') :
    bytes = rs.flatten ++ bytes.drop rs.flatten.length ∧
      records (bytes.drop rs.flatten.length) = rs' := by
  induction rs generalizing bytes with
  | nil => exact ⟨rfl, h⟩
  | cons r rs ih =>
    by_cases hc : Complete bytes
    · rw [records_of_complete hc, List.cons_append, List.cons.injEq] at h
      obtain ⟨rfl, h⟩ := h
      obtain ⟨hbytes, hrecords⟩ := ih h
      rw [List.flatten_cons, List.length_append, length_take_len hc, ← List.drop_drop]
      refine ⟨?_, hrecords⟩
      rw [List.append_assoc, ← hbytes, List.take_append_drop]
    · rw [records_of_not_complete hc] at h
      cases h

theorem flatten_le {bytes : List UInt8} {rs rs' : List (List UInt8)}
    (h : records bytes = rs ++ rs') : rs.flatten.length ≤ bytes.length := by
  rw [(records_split h).1, List.length_append]
  exact Nat.le_add_right _ _

/-- Of two splittings of a walk, the one with fewer bytes in front has fewer records in front. -/
theorem prefix_of_lt {bytes : List UInt8} {rs rs' ts ts' : List (List UInt8)}
    (h : records bytes = rs ++ rs') (h' : records bytes = ts ++ ts')
    (hlt : rs.flatten.length < ts.flatten.length) :
    ∃ r us, ts = rs ++ r :: us ∧ rs' = r :: (us ++ ts') := by
  rcases List.append_eq_append_iff.mp (h.symm.trans h') with ⟨us, rfl, hus⟩ | ⟨us, rfl, -⟩
  · cases us with
    | nil =>
      rw [List.append_nil] at hlt
      exact absurd hlt (Nat.lt_irrefl _)
    | cons r us => exact ⟨r, us, rfl, hus⟩
  · rw [List.flatten_append, List.length_append] at hlt
    exact absurd hlt (Nat.not_lt.mpr (Nat.le_add_right _ _))

/-- A splitting of a walk is determined by the number of bytes in front. -/
theorem prefix_of_eq {bytes : List UInt8} {rs rs' ts ts' : List (List UInt8)}
    (h : records bytes = rs ++ rs') (h' : records bytes = ts ++ ts')
    (heq : rs.flatten.length = ts.flatten.length) : rs = ts ∧ rs' = ts' := by
  have hnil : ∀ us : List (List UInt8), (∀ r ∈ us, r ∈ records bytes) →
      us.flatten.length = 0 → us = [] := by
    intro us hmem hzero
    cases us with
    | nil => rfl
    | cons r us =>
      have hrec := (isRecord_of_mem (hmem r List.mem_cons_self)).1
      rw [List.flatten_cons, List.length_append] at hzero
      omega
  rcases List.append_eq_append_iff.mp (h.symm.trans h') with ⟨us, rfl, rfl⟩ | ⟨us, rfl, rfl⟩
  · rw [List.flatten_append, List.length_append] at heq
    have hus := hnil us (fun r hr => by simp [h, hr]) (by omega)
    rw [hus, List.append_nil]
    exact ⟨rfl, rfl⟩
  · rw [List.flatten_append, List.length_append] at heq
    have hus := hnil us (fun r hr => by simp [h', hr]) (by omega)
    rw [hus, List.append_nil]
    exact ⟨rfl, rfl⟩

end ExtDevMgr.Records
