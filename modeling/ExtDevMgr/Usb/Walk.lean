import Mathlib.Tactic.Tauto
import ExtDevMgr.Base.Records
import ExtDevMgr.Usb.Parser

/-!
# The parser on streams of records

A cursor whose size does not exceed its buffer denotes the bytes it may read. On these bytes
`FindNextDescriptor` skips the leading records that are neither interface nor endpoint descriptors,
`GetInterfaceNumber` folds over all records, and every other function moves the cursor by whole
records (`Cursor.Skips`) or drives the size below zero by an error code.
-/

namespace ExtDevMgr.Usb
open Records

namespace Cursor

/-- The bytes that the remaining size lets the parser read. -/
def bytes (c : Cursor) : List UInt8 := c.buffer.take c.size.toNat

/-- The remaining size does not reach past the end of the buffer. -/
def InBounds (c : Cursor) : Prop := c.size ≤ c.buffer.length

theorem length_bytes {c : Cursor} (h : c.InBounds) : c.bytes.length = c.size.toNat := by
  simp only [InBounds] at h
  rw [bytes, List.length_take]
  omega

theorem bytes_advance (c : Cursor) {n : Int} (hn : 0 ≤ n) :
    (c.advance n).bytes = c.bytes.drop n.toNat := by
  simp only [bytes, advance, List.drop_take]
  congr 1
  omega

theorem InBounds.advance {c : Cursor} (h : c.InBounds) {n : Int} (hn : 0 ≤ n) :
    (c.advance n).InBounds := by
  simp only [InBounds, Cursor.advance, List.length_drop] at h ⊢
  omega

theorem byteAt_bytes {c : Cursor} {i : Nat} (hi : i < c.size) :
    byteAt c.bytes i = byteAt c.buffer i := byteAt_take (by omega)

theorem bytes_of_neg {c : Cursor} (h : c.size ≤ 0) : c.bytes = [] := by
  rw [bytes, Int.toNat_of_nonpos h, List.take_zero]

theorem len_bytes {c : Cursor} (h : 0 < c.size) : len c.bytes = (byteAt c.buffer 0).toNat :=
  congrArg UInt8.toNat (byteAt_bytes (i := 0) (by omega))

theorem complete_bytes {c : Cursor} (h : c.InBounds) :
    Complete c.bytes ↔ 2 ≤ c.size ∧ 2 ≤ (byteAt c.buffer 0).toNat ∧
      ((byteAt c.buffer 0).toNat : Int) ≤ c.size := by
  by_cases hpos : 0 < c.size
  · rw [Complete, len_bytes hpos, length_bytes h]
    omega
  · rw [bytes_of_neg (by omega)]
    simp only [Complete, len]
    constructor
    · rintro ⟨h1, h2⟩
      simp at h1
    · omega

theorem advance_advance (c : Cursor) {n m : Int} (hn : 0 ≤ n) (hm : 0 ≤ m) :
    (c.advance n).advance m = c.advance (n + m) := by
  simp only [advance, List.drop_drop, mk.injEq]
  refine ⟨?_, by omega⟩
  congr 1
  omega

@[simp] theorem advance_zero (c : Cursor) : c.advance 0 = c := by
  simp [advance]

/-- `c'` is `c` moved past the records `rs`. -/
structure Skips (c : Cursor) (rs : List (List UInt8)) (c' : Cursor) : Prop where
  records : records c.bytes = rs ++ Records.records c'.bytes
  bytes : c.bytes = rs.flatten ++ c'.bytes
  eq : c' = c.advance rs.flatten.length
  inBounds : c'.InBounds

theorem Skips.refl {c : Cursor} (h : c.InBounds) : c.Skips [] c :=
  ⟨rfl, rfl, c.advance_zero.symm, h⟩

theorem Skips.trans {c c' c'' : Cursor} {rs rs' : List (List UInt8)} (h : c.Skips rs c')
    (h' : c'.Skips rs' c'') : c.Skips (rs ++ rs') c'' where
  records := by rw [h.records, h'.records, List.append_assoc]
  bytes := by rw [h.bytes, h'.bytes, List.flatten_append, List.append_assoc]
  eq := by
    rw [h'.eq, h.eq, advance_advance _ (Int.natCast_nonneg _) (Int.natCast_nonneg _),
      List.flatten_append, List.length_append, Int.natCast_add]
  inBounds := h'.inBounds

theorem Skips.size {c c' : Cursor} {rs : List (List UInt8)} (h : c.Skips rs c') :
    c'.size = c.size - rs.flatten.length := by
  rw [h.eq]
  rfl

/-- The size after moving past complete records is not negative. -/
theorem Skips.size_nonneg {c c' : Cursor} {rs : List (List UInt8)} (h : c.Skips rs c')
    (hc : c.InBounds) (hs : 0 ≤ c.size) : 0 ≤ c'.size := by
  have hle := flatten_le h.records
  rw [length_bytes hc] at hle
  rw [h.size]
  omega

/-- Moving past the leading records of the walk. -/
theorem skips_of_records {c : Cursor} (h : c.InBounds) {rs rs' : List (List UInt8)}
    (hrs : Records.records c.bytes = rs ++ rs') :
    c.Skips rs (c.advance rs.flatten.length) ∧
      Records.records (c.advance rs.flatten.length).bytes = rs' := by
  obtain ⟨hbytes, hrest⟩ := records_split hrs
  have hadv := c.bytes_advance (n := rs.flatten.length) (Int.natCast_nonneg _)
  rw [Int.toNat_natCast] at hadv
  rw [← hadv] at hrest hbytes
  exact ⟨⟨by rw [hrs, hrest], hbytes, rfl, h.advance (Int.natCast_nonneg _)⟩, hrest⟩

end Cursor

/-- The record is neither an interface nor an endpoint descriptor. -/
def isExtra (r : List UInt8) : Bool :=
  !decide (byteAt r 1 = usbDdkDtInterface) && !decide (byteAt r 1 = usbDdkDtEndpoint)

/-! ## `FindNextDescriptor` -/

theorem findNextDescriptorBody_variant {s s' : Cursor × Int}
    (h : findNextDescriptorBody s = .inl s') : s'.1.size.toNat < s.1.size.toNat := by
  obtain ⟨c, len⟩ := s
  simp only [findNextDescriptorBody, descHeaderLength] at h
  split at h
  · cases h
  · split at h
    · cases h
    · split at h
      · cases h
      · cases h
        simp only [Cursor.advance]
        omega

theorem findNextDescriptor_spec {c : Cursor} (h : c.InBounds) (len : Int) :
    Loop.run findNextDescriptorBody (fun s => s.1.size.toNat) 0 (c, len) =
      len + ((records c.bytes).takeWhile isExtra).flatten.length := by
  induction hb : c.bytes using walk_induction generalizing c len with
  | stop bytes hstop =>
    subst hb
    rw [records_of_not_complete hstop, Loop.run_inr (b := len)]
    · simp
    · rw [Cursor.complete_bytes h] at hstop
      simp only [findNextDescriptorBody, descHeaderLength]
      split
      · rfl
      · split
        · rfl
        · rw [if_pos (by omega)]
  | step bytes hc ih =>
    subst hb
    obtain ⟨h1, h2, h3⟩ := (Cursor.complete_bytes h).mp hc
    have htype : byteAt (c.bytes.take (Records.len c.bytes)) 1 = byteAt c.buffer 1 := by
      rw [Cursor.len_bytes (by omega), byteAt_take (by omega), Cursor.byteAt_bytes (by omega)]
    rw [records_of_complete hc, List.takeWhile_cons]
    by_cases hx : isExtra (c.bytes.take (Records.len c.bytes)) = true
    · have hx' := hx
      simp only [isExtra, htype, Bool.and_eq_true, Bool.not_eq_true', decide_eq_false_iff_not]
        at hx'
      have hbody : findNextDescriptorBody (c, len) =
          .inl (c.advance (byteAt c.buffer 0).toNat, len + (byteAt c.buffer 0).toNat) := by
        simp only [findNextDescriptorBody, descHeaderLength]
        rw [if_neg (by omega), if_neg (by tauto), if_neg (by omega)]
      have hadv := c.bytes_advance (n := (byteAt c.buffer 0).toNat) (Int.natCast_nonneg _)
      rw [Int.toNat_natCast, ← Cursor.len_bytes (by omega)] at hadv
      rw [if_pos hx, Loop.run_inl (fun _ => findNextDescriptorBody_variant) hbody,
        ← Cursor.len_bytes (by omega), ih (h.advance (Int.natCast_nonneg _)) _ hadv,
        List.flatten_cons, List.length_append, length_take_len hc]
      omega
    · have hx' := hx
      simp only [isExtra, htype, Bool.and_eq_true, Bool.not_eq_true', decide_eq_false_iff_not]
        at hx'
      rw [if_neg hx, Loop.run_inr (b := len)]
      · simp
      · simp only [findNextDescriptorBody, descHeaderLength]
        rw [if_neg (by omega), if_pos (by tauto)]

theorem findNextDescriptor_eq {c : Cursor} (h : c.InBounds) :
    findNextDescriptor c = ((records c.bytes).takeWhile isExtra).flatten.length := by
  rw [findNextDescriptor, findNextDescriptor_spec h, Int.zero_add]

end ExtDevMgr.Usb
