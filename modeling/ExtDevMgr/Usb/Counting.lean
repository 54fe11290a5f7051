import Mathlib.Data.List.Nodup
import ExtDevMgr.Usb.Steps

/-!
# The counting pass

`GetInterfaceNumber` folds over the records of the bytes: a number is listed at its first interface
descriptor while there is room, and the count of a listed number is the number of its interface
descriptors, cut off at the maximum (`Counts`).
-/

namespace ExtDevMgr.Usb
open Records

/-- The record is an interface descriptor with number `x`. -/
def isInterface (x : UInt8) (r : List UInt8) : Bool :=
  decide (byteAt r 1 = usbDdkDtInterface) && decide (9 ≤ len r) && decide (byteAt r 2 = x)

theorem isInterface_iff {x : UInt8} {r : List UInt8} :
    isInterface x r = true ↔ byteAt r 1 = usbDdkDtInterface ∧ 9 ≤ len r ∧ byteAt r 2 = x := by
  simp only [isInterface, Bool.and_eq_true, decide_eq_true_eq, and_assoc]

/-- What a record does to the numbers and counts. -/
def countRecord (nums : List UInt8 × List UInt8) (r : List UInt8) : List UInt8 × List UInt8 :=
  if byteAt r 1 = usbDdkDtInterface then getInterfaceNumberDes r nums else nums

theorem foldl_countRecord_of_ne {rs : List (List UInt8)} (nums : List UInt8 × List UInt8)
    (h : ∀ r ∈ rs, byteAt r 1 ≠ usbDdkDtInterface) : rs.foldl countRecord nums = nums := by
  induction rs with
  | nil => rfl
  | cons r rs ih =>
    rw [List.foldl_cons, countRecord, if_neg (h r List.mem_cons_self)]
    exact ih fun r hr => h r (List.mem_cons_of_mem _ hr)

theorem getInterfaceNumberBody_variant {s s' : Cursor × (List UInt8 × List UInt8)}
    (h : getInterfaceNumberBody s = .inl s') : s'.1.size.toNat < s.1.size.toNat := by
  obtain ⟨c, nums⟩ := s
  simp only [getInterfaceNumberBody, descHeaderLength] at h
  split at h
  · cases h
  · split at h
    · cases h
    · split at h
      · cases h
      · cases h
        simp only [Cursor.advance]
        omega

theorem getInterfaceNumberDes_head {c : Cursor} (hc : c.InBounds) (h : Complete c.bytes)
    (nums : List UInt8 × List UInt8) :
    getInterfaceNumberDes c.head nums = getInterfaceNumberDes c.buffer nums := by
  obtain ⟨-, h2, h3⟩ := (Cursor.complete_bytes hc).mp h
  simp only [getInterfaceNumberDes, Cursor.byteAt_head (show 0 < _ by omega) h3]
  split
  · rfl
  · rename_i hlen
    simp only [usbDdkDtInterfaceSize] at hlen
    rw [Cursor.byteAt_head (show 2 < _ by omega) h3]

theorem getInterfaceNumber_spec {c : Cursor} (h : c.InBounds) (nums : List UInt8 × List UInt8) :
    Loop.run getInterfaceNumberBody (fun s => s.1.size.toNat) ([], []) (c, nums) =
      (records c.bytes).foldl countRecord nums := by
  induction hb : c.bytes using walk_induction generalizing c nums with
  | stop bytes hstop =>
    subst hb
    rw [records_of_not_complete hstop, List.foldl_nil]
    refine Loop.run_inr ?_
    rw [Cursor.complete_bytes h] at hstop
    simp only [getInterfaceNumberBody, descHeaderLength]
    split
    · rfl
    · split
      · rfl
      · rw [if_pos (by omega)]
  | step bytes hc ih =>
    subst hb
    obtain ⟨h1, h2, h3⟩ := (Cursor.complete_bytes h).mp hc
    have hbody : getInterfaceNumberBody (c, nums) =
        .inl (c.advance (byteAt c.buffer 0).toNat, countRecord nums c.head) := by
      simp only [getInterfaceNumberBody, descHeaderLength]
      rw [if_neg (by omega), if_neg (by omega), if_neg (by omega), countRecord,
        getInterfaceNumberDes_head h hc, Cursor.byteAt_head (show 1 < _ by omega) h3]
    have hadv := c.bytes_advance (n := (byteAt c.buffer 0).toNat) (Int.natCast_nonneg _)
    rw [Int.toNat_natCast, ← Cursor.len_bytes (by omega)] at hadv
    rw [Loop.run_inl (fun _ => getInterfaceNumberBody_variant) hbody, records_of_complete hc,
      List.foldl_cons, ← Cursor.len_bytes (by omega),
      ih (h.advance (Int.natCast_nonneg _)) _ hadv, Cursor.len_bytes (by omega)]

theorem getInterfaceNumber_eq {c : Cursor} (h : c.InBounds) :
    getInterfaceNumber c = (records c.bytes).foldl countRecord ([], []) :=
  getInterfaceNumber_spec h _

/-- The numbers and counts after the records `rs`. -/
structure Counts (rs : List (List UInt8)) (nums : List UInt8 × List UInt8) : Prop where
  length : nums.2.length = nums.1.length
  nodup : nums.1.Nodup
  length_le : nums.1.length ≤ usbMaxInterfaces
  unlisted : nums.1.length < usbMaxInterfaces → ∀ x, x ∉ nums.1 → rs.countP (isInterface x) = 0
  count : ∀ i x, nums.1[i]? = some x →
    (nums.2.getD i 0).toNat = min usbMaxAltSetting (rs.countP (isInterface x))

theorem Counts.nil : Counts [] ([], []) where
  length := rfl
  nodup := .nil
  length_le := Nat.zero_le _
  unlisted _ _ _ := rfl
  count i x h := by simp at h

/-- A record that is not counted changes nothing. -/
theorem Counts.skip {rs : List (List UInt8)} {nums : List UInt8 × List UInt8} (h : Counts rs nums)
    {r : List UInt8} (hr : ∀ x, isInterface x r = false) : Counts (rs ++ [r]) nums where
  length := h.length
  nodup := h.nodup
  length_le := h.length_le
  unlisted hlt x hx := by
    rw [List.countP_append, h.unlisted hlt x hx, List.countP_singleton, hr x]
    rfl
  count i x hx := by
    rw [h.count i x hx, List.countP_append, List.countP_singleton, hr x]
    rfl

/-- Two indices of one number are equal. -/
theorem Counts.index_inj {rs : List (List UInt8)} {nums : List UInt8 × List UInt8}
    (h : Counts rs nums) {i j : Nat} {x : UInt8} (hi : nums.1[i]? = some x)
    (hj : nums.1[j]? = some x) : i = j := by
  obtain ⟨hi, rfl⟩ := List.getElem?_eq_some_iff.mp hi
  obtain ⟨hj, hx⟩ := List.getElem?_eq_some_iff.mp hj
  exact ((List.Nodup.getElem_inj_iff h.nodup).mp hx).symm

theorem countP_concat_interface {rs : List (List UInt8)} {r : List UInt8} {x y : UInt8}
    (hr : isInterface x r = true) :
    (rs ++ [r]).countP (isInterface y) =
      rs.countP (isInterface y) + if y = x then 1 else 0 := by
  obtain ⟨htype, hlen, hx⟩ := isInterface_iff.mp hr
  rw [List.countP_append, List.countP_singleton]
  congr 1
  by_cases hy : y = x
  · rw [hy, hr, if_pos rfl, if_pos rfl]
  · have hne : ¬ isInterface y r = true := fun hr' =>
      hy ((isInterface_iff.mp hr').2.2.symm.trans hx)
    rw [if_neg hne, if_neg hy]

/-- Another interface descriptor with a listed number. -/
theorem Counts.again {rs : List (List UInt8)} {nums : List UInt8 × List UInt8}
    (h : Counts rs nums) {r : List UInt8} {x : UInt8} (hr : isInterface x r = true) {i : Nat}
    (hi : nums.1[i]? = some x) :
    Counts (rs ++ [r]) (if (nums.2.getD i 0).toNat < usbMaxAltSetting then
      (nums.1, nums.2.modify i (· + 1)) else nums) := by
  have hfst : (if (nums.2.getD i 0).toNat < usbMaxAltSetting then
      (nums.1, nums.2.modify i (· + 1)) else nums).1 = nums.1 := by
    split <;> rfl
  have hi2 : i < nums.2.length := by
    rw [h.length]
    exact (List.getElem?_eq_some_iff.mp hi).1
  have hget : nums.2[i]? = some (nums.2.getD i 0) := by
    rw [List.getD_eq_getElem?_getD, List.getElem?_eq_getElem hi2, Option.getD_some]
  constructor
  · rw [hfst, ← h.length]
    split
    · exact List.length_modify _ _ _
    · rfl
  · rw [hfst]
    exact h.nodup
  · rw [hfst]
    exact h.length_le
  · rw [hfst]
    intro hlt y hy
    have hne : y ≠ x := by
      rintro rfl
      exact hy (List.mem_of_getElem? hi)
    rw [countP_concat_interface hr, h.unlisted hlt y hy, if_neg hne]
  · rw [hfst]
    intro j y hj
    have hcount := h.count j y hj
    rw [countP_concat_interface hr]
    by_cases hij : i = j
    · subst hij
      obtain rfl : x = y := Option.some.inj (hi.symm.trans hj)
      rw [if_pos rfl]
      split
      · rename_i hlt
        rw [List.getD_eq_getElem?_getD, List.getElem?_modify_eq, hget, Option.map_eq_map,
          Option.map_some, Option.getD_some, UInt8.toNat_add]
        have hone : (1 : UInt8).toNat = 1 := rfl
        simp only [usbMaxAltSetting] at hcount hlt ⊢
        omega
      · rename_i hge
        simp only [usbMaxAltSetting] at hcount hge ⊢
        omega
    · have hne : y ≠ x := by
        rintro rfl
        exact hij (h.index_inj hi hj)
      rw [if_neg hne, Nat.add_zero, ← hcount]
      split
      · rw [List.getD_eq_getElem?_getD]
        dsimp only
        rw [List.getElem?_modify_ne _ _ hij, List.getD_eq_getElem?_getD]
      · rfl

/-- The first interface descriptor with a number. -/
theorem Counts.first {rs : List (List UInt8)} {nums : List UInt8 × List UInt8}
    (h : Counts rs nums) {r : List UInt8} {x : UInt8} (hr : isInterface x r = true)
    (hx : x ∉ nums.1) :
    Counts (rs ++ [r]) (if nums.1.length < usbMaxInterfaces then
      (nums.1 ++ [x], nums.2 ++ [1]) else nums) := by
  split
  · rename_i hlt
    refine ⟨?_, ?_, ?_, ?_, ?_⟩
    · rw [List.length_append, List.length_append, h.length]
      rfl
    · rw [List.nodup_append]
      refine ⟨h.nodup, List.nodup_singleton x, fun y hy z hz => ?_⟩
      rintro rfl
      exact hx (List.mem_singleton.mp hz ▸ hy)
    · rw [List.length_append]
      exact hlt
    · intro hlt' y hy
      rw [List.mem_append, List.mem_singleton, not_or] at hy
      rw [countP_concat_interface hr, h.unlisted hlt y hy.1, if_neg hy.2]
    · intro j y hj
      rw [countP_concat_interface hr]
      by_cases hjlt : j < nums.1.length
      · rw [List.getElem?_append_left hjlt] at hj
        have hne : y ≠ x := by
          rintro rfl
          exact hx (List.mem_of_getElem? hj)
        rw [if_neg hne, Nat.add_zero, ← h.count j y hj, List.getD_append _ _ _ _ (h.length ▸ hjlt)]
      · obtain ⟨hlen, hy⟩ := List.getElem?_eq_some_iff.mp hj
        rw [List.length_append, List.length_singleton] at hlen
        obtain rfl : j = nums.1.length := by omega
        rw [List.getElem_append_right (Nat.le_refl _), List.getElem_singleton] at hy
        subst hy
        have hzero := h.unlisted hlt x hx
        rw [List.getD_append_right _ _ _ _ (Nat.le_of_eq h.length), h.length, Nat.sub_self, hzero,
          if_pos rfl]
        rfl
  · rename_i hfull
    refine ⟨h.length, h.nodup, h.length_le, fun hlt => absurd hlt hfull, fun j y hj => ?_⟩
    have hne : y ≠ x := by
      rintro rfl
      exact hx (List.mem_of_getElem? hj)
    rw [h.count j y hj, countP_concat_interface hr, if_neg hne, Nat.add_zero]

theorem Counts.record {rs : List (List UInt8)} {nums : List UInt8 × List UInt8}
    (h : Counts rs nums) (r : List UInt8) :
    Counts (rs ++ [r]) (countRecord nums r) := by
  rw [countRecord]
  split
  · rename_i htype
    rw [getInterfaceNumberDes]
    dsimp only
    have hlen0 : ((byteAt r 0).toNat : Int) = len r := rfl
    split
    · rename_i hlt
      rw [hlen0] at hlt
      simp only [usbDdkDtInterfaceSize] at hlt
      refine h.skip fun x => Bool.eq_false_iff.mpr fun hr => ?_
      have := (isInterface_iff.mp hr).2.1
      omega
    · rename_i hge
      rw [hlen0] at hge
      simp only [usbDdkDtInterfaceSize] at hge
      have hr : isInterface (byteAt r 2) r = true := isInterface_iff.mpr ⟨htype, by omega, rfl⟩
      split
      · rename_i i hi
        obtain ⟨hlt, hx, -⟩ := List.findIdx?_eq_some_iff_getElem.mp hi
        refine h.again hr ?_
        rw [List.getElem?_eq_getElem hlt, of_decide_eq_true hx]
      · rename_i hnone
        refine h.first hr fun hmem => ?_
        have := List.findIdx?_eq_none_iff.mp hnone _ hmem
        simp at this
  · rename_i htype
    exact h.skip fun x => Bool.eq_false_iff.mpr fun hr => htype (isInterface_iff.mp hr).1

theorem counts_foldl {rs rs' : List (List UInt8)} {nums : List UInt8 × List UInt8}
    (h : Counts rs nums) :
    Counts (rs ++ rs') (rs'.foldl countRecord nums) := by
  induction rs' generalizing rs nums with
  | nil => rwa [List.append_nil]
  | cons r rs' ih =>
    have hfold := ih (h.record r)
    rwa [List.append_assoc, List.singleton_append] at hfold

theorem counts_getInterfaceNumber {c : Cursor} (h : c.InBounds) :
    Counts (records c.bytes) (getInterfaceNumber c) := by
  rw [getInterfaceNumber_eq h]
  exact counts_foldl .nil

end ExtDevMgr.Usb
