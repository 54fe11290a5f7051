import Mathlib.Algebra.Group.Nat.Defs
import Mathlib.Data.Nat.Digits.Defs

/-!
# Numbers as bytes

`le w n` is the number `n` in `w` bytes, the lowest first, and `ofLe` reads bytes in this order; `be`
and `ofBe` are the same with the highest byte first.
-/

namespace ExtDevMgr.Bytes

def le : Nat → Nat → List UInt8
  | 0, _ => []
  | w + 1, n => UInt8.ofNat n :: le w (n / 256)

def ofLe (bytes : List UInt8) : Nat := Nat.ofDigits 256 (bytes.map UInt8.toNat)

def be (w n : Nat) : List UInt8 := (le w n).reverse

def ofBe (bytes : List UInt8) : Nat := ofLe bytes.reverse

variable {b : UInt8} {bytes bytes' : List UInt8} {w n : Nat}

@[simp] theorem length_le : (le w n).length = w := by
  induction w generalizing n with
  | zero => rfl
  | succ w ih => rw [le, List.length_cons, ih]

@[simp] theorem length_be : (be w n).length = w := by rw [be, List.length_reverse, length_le]

/-! ## The lowest byte first -/

theorem ofLe_cons : ofLe (b :: bytes) = b.toNat + 256 * ofLe bytes := by
  rw [ofLe, List.map_cons, Nat.ofDigits_cons]
  rfl

theorem ofLe_append : ofLe (bytes ++ bytes') = ofLe bytes + 256 ^ bytes.length * ofLe bytes' := by
  rw [ofLe, List.map_append, Nat.ofDigits_append, List.length_map]
  rfl

theorem ofLe_lt : ofLe bytes < 256 ^ bytes.length := by
  have hdigits : ∀ d ∈ bytes.map UInt8.toNat, d < 256 := by
    intro d hd
    obtain ⟨b, _, rfl⟩ := List.mem_map.mp hd
    exact b.toNat_lt
  have hlt := Nat.ofDigits_lt_base_pow_length (by decide) hdigits
  rwa [List.length_map] at hlt

theorem ofLe_le : ofLe (le w n) = n % 256 ^ w := by
  induction w generalizing n with
  | zero => rw [Nat.pow_zero, Nat.mod_one]; rfl
  | succ w ih =>
    rw [Nat.pow_succ', Nat.mod_mul, ← ih, le, ofLe_cons, UInt8.toNat_ofNat']

theorem ofLe_le_of_lt (h : n < 256 ^ w) : ofLe (le w n) = n := by rw [ofLe_le, Nat.mod_eq_of_lt h]

theorem ofLe_injective (hlen : bytes.length = bytes'.length) (h : ofLe bytes = ofLe bytes') :
    bytes = bytes' := by
  induction bytes generalizing bytes' with
  | nil => exact (List.length_eq_zero_iff.mp hlen.symm).symm
  | cons b bytes ih =>
    cases bytes' with
    | nil => cases hlen
    | cons b' bytes' =>
      rw [ofLe_cons, ofLe_cons] at h
      have hb := b.toNat_lt
      have hb' := b'.toNat_lt
      have hhead : b = b' := UInt8.toNat_inj.mp (by omega)
      have htail : bytes = bytes' := ih (Nat.succ.inj hlen) (by omega)
      rw [hhead, htail]

theorem toNat_ofLe32 (h : bytes.length = 4) : (UInt32.ofNat (ofLe bytes)).toNat = ofLe bytes := by
  have hlt := @ofLe_lt bytes
  rw [h] at hlt
  exact UInt32.toNat_ofNat_of_lt' hlt

theorem toNat_ofLe64 (h : bytes.length = 8) : (UInt64.ofNat (ofLe bytes)).toNat = ofLe bytes := by
  have hlt := @ofLe_lt bytes
  rw [h] at hlt
  exact UInt64.toNat_ofNat_of_lt' hlt

/-! ## The highest byte first -/

theorem ofBe_lt : ofBe bytes < 256 ^ bytes.length := by
  rw [← List.length_reverse]
  exact ofLe_lt

theorem ofBe_be_of_lt (h : n < 256 ^ w) : ofBe (be w n) = n := by
  rw [ofBe, be, List.reverse_reverse, ofLe_le_of_lt h]

theorem ofBe_cons : ofBe (b :: bytes) = b.toNat * 256 ^ bytes.length + ofBe bytes := by
  rw [ofBe, List.reverse_cons, ofLe_append, List.length_reverse, ofLe_cons, Nat.add_comm,
    Nat.mul_comm]
  rfl

/-- The number is put together by shifts as well. -/
theorem ofBe_cons_or : ofBe (b :: bytes) = b.toNat <<< (8 * bytes.length) ||| ofBe bytes := by
  have hpow : 256 ^ bytes.length = 2 ^ (8 * bytes.length) := (Nat.pow_mul 2 8 _).symm
  have hlt := @ofBe_lt bytes
  rw [hpow] at hlt
  rw [ofBe_cons, hpow, ← Nat.shiftLeft_eq, Nat.shiftLeft_add_eq_or_of_lt hlt]

@[simp] theorem ofBe_nil : ofBe [] = 0 := rfl

/-! ## Shifted bytes -/

theorem shiftLeft_lt (b : UInt8) {k n : Nat} (h : 8 + k ≤ n) : b.toNat <<< k < 2 ^ n := by
  rw [Nat.shiftLeft_eq]
  calc
    b.toNat * 2 ^ k < 2 ^ 8 * 2 ^ k := Nat.mul_lt_mul_of_pos_right b.toNat_lt (Nat.two_pow_pos k)
    _ = 2 ^ (8 + k) := (Nat.pow_add 2 8 k).symm
    _ ≤ 2 ^ n := Nat.pow_le_pow_right (by decide) h

theorem toNat_shiftLeft32 (b : UInt8) {s : UInt32} (hs : 8 + s.toNat ≤ 32) :
    (b.toUInt32 <<< s).toNat = b.toNat <<< s.toNat := by
  rw [UInt32.toNat_shiftLeft, UInt8.toNat_toUInt32, Nat.mod_eq_of_lt (by omega : s.toNat < 32),
    Nat.mod_eq_of_lt (shiftLeft_lt b hs)]

theorem toNat_shiftLeft64 (b : UInt8) {s : UInt64} (hs : 8 + s.toNat ≤ 64) :
    (b.toUInt64 <<< s).toNat = b.toNat <<< s.toNat := by
  rw [UInt64.toNat_shiftLeft, UInt8.toNat_toUInt64, Nat.mod_eq_of_lt (by omega : s.toNat < 64),
    Nat.mod_eq_of_lt (shiftLeft_lt b hs)]

end ExtDevMgr.Bytes
