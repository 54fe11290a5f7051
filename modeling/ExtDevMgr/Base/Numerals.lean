import Mathlib.Algebra.Group.Int.Defs
import Mathlib.Algebra.Group.Nat.Defs
import Mathlib.Data.List.TakeWhile

/-!
# Numerals of the C library

`strtol` and `strtoul` skip blanks, take a sign, an optional `0x` in base 16 and as many digits as
there are; what stands behind is not looked at. On a complete numeral they give its number.
-/

namespace ExtDevMgr.Numerals

/-- `std::isspace`. -/
def isSpace (c : Char) : Bool := c ∈ [' ', '\t', '\n', '\r', '\x0c', '\x0b']

def digitValue (c : Char) : Option Nat :=
  if '0' ≤ c ∧ c ≤ '9' then some (c.toNat - '0'.toNat)
  else if 'a' ≤ c ∧ c ≤ 'z' then some (c.toNat - 'a'.toNat + 10)
  else if 'A' ≤ c ∧ c ≤ 'Z' then some (c.toNat - 'A'.toNat + 10)
  else none

def isDigit (base : Nat) (c : Char) : Bool := (digitValue c).any (· < base)

/-- The number that the digits denote. -/
def numeralValue (base : Nat) (digits : List Char) : Nat :=
  (digits.filterMap digitValue).foldl (fun value digit => base * value + digit) 0

def sign : List Char → Bool × List Char
  | '-' :: s => (true, s)
  | '+' :: s => (false, s)
  | s => (false, s)

/-- The prefix is taken for one only in front of a digit. -/
def skipPrefix (base : Nat) : List Char → List Char
  | '0' :: 'x' :: c :: s => if base = 16 ∧ isDigit base c then c :: s else '0' :: 'x' :: c :: s
  | '0' :: 'X' :: c :: s => if base = 16 ∧ isDigit base c then c :: s else '0' :: 'X' :: c :: s
  | s => s

/-- The sign and the digits that are converted. -/
def scan (base : Nat) (s : List Char) : Bool × List Char :=
  let (negative, s) := sign (s.dropWhile isSpace)
  (negative, (skipPrefix base s).takeWhile (isDigit base))

inductive Errno
  | einval
  | erange
deriving DecidableEq

/-- What the standard leaves to the library: the width of `long`, and whether a string without a number
sets `errno`. -/
structure CLib where
  longBits : Nat
  le_longBits : 32 ≤ longBits
  setsEinval : Bool

section
variable (lib : CLib) (s : List Char) (base : Nat)

/-- The `errno` of a conversion without digits. -/
def CLib.noConversion : Option Errno := if lib.setsEinval then some .einval else none

/-- The value, and `errno` if it is set. -/
def CLib.strtol : Int × Option Errno :=
  let (negative, digits) := scan base s
  if digits = [] then
    (0, lib.noConversion)
  else
    let value : Int := if negative then -numeralValue base digits else numeralValue base digits
    if value < -2 ^ (lib.longBits - 1) then (-2 ^ (lib.longBits - 1), some .erange)
    else if value > 2 ^ (lib.longBits - 1) - 1 then (2 ^ (lib.longBits - 1) - 1, some .erange)
    else (value, none)

/-- A minus sign negates in the unsigned type. -/
def CLib.strtoul : Nat × Option Errno :=
  let (negative, digits) := scan base s
  if digits = [] then
    (0, lib.noConversion)
  else
    let value := numeralValue base digits
    if value > 2 ^ lib.longBits - 1 then (2 ^ lib.longBits - 1, some .erange)
    else if negative then ((2 ^ lib.longBits - value) % 2 ^ lib.longBits, none)
    else (value, none)

end

/-! ## Complete numerals -/

theorem isDigit_of_isSpace {c : Char} (h : isSpace c = true) (base : Nat) :
    isDigit base c = false := by
  have hall : ∀ c ∈ [' ', '\t', '\n', '\r', '\x0c', '\x0b'], digitValue c = none := by
    simp only [List.forall_mem_cons]
    exact ⟨rfl, rfl, rfl, rfl, rfl, rfl, List.forall_mem_nil _⟩
  rw [isDigit, hall c (of_decide_eq_true h)]
  rfl

/-- Digits are no sign. -/
theorem sign_of_isDigit {base : Nat} {c : Char} (h : isDigit base c) (s : List Char) :
    sign (c :: s) = (false, c :: s) := by
  unfold sign
  split
  case h_1 heq =>
    cases heq
    cases h
  case h_2 heq =>
    cases heq
    cases h
  case h_3 => rfl

theorem dropWhile_isSpace_of_isDigit {base : Nat} {c : Char} (h : isDigit base c) (s : List Char) :
    (c :: s).dropWhile isSpace = c :: s := by
  apply List.dropWhile_cons_of_neg
  intro hspace
  rw [isDigit_of_isSpace hspace base] at h
  cases h

theorem scan_of_isDigit {base : Nat} {c : Char} (h : isDigit base c) (s : List Char) :
    scan base (c :: s) = (false, (skipPrefix base (c :: s)).takeWhile (isDigit base)) := by
  rw [scan, dropWhile_isSpace_of_isDigit h, sign_of_isDigit h]

/-- No prefix is skipped of what consists of digits. -/
theorem skipPrefix_of_digits {base : Nat} {s : List Char} (h : ∀ c ∈ s, isDigit base c) :
    skipPrefix base s = s := by
  unfold skipPrefix
  split
  case h_1 c s =>
    have hx : isDigit base 'x' := h _ (List.mem_cons_of_mem _ List.mem_cons_self)
    refine if_neg fun hbase => ?_
    rw [hbase.1] at hx
    exact absurd hx (by decide)
  case h_2 c s =>
    have hX : isDigit base 'X' := h _ (List.mem_cons_of_mem _ List.mem_cons_self)
    refine if_neg fun hbase => ?_
    rw [hbase.1] at hX
    exact absurd hX (by decide)
  case h_3 => rfl

theorem scan_digits {base : Nat} {s : List Char} (h : ∀ c ∈ s, isDigit base c) :
    scan base s = (false, s) := by
  cases s with
  | nil => rfl
  | cons c s =>
    rw [scan_of_isDigit (h c List.mem_cons_self), skipPrefix_of_digits h,
      List.takeWhile_eq_self_iff.mpr h]

/-- A hexadecimal numeral with its prefix. -/
theorem scan_prefixed {x : Char} (hx : x = 'x' ∨ x = 'X') {s : List Char} (hne : s ≠ [])
    (h : ∀ c ∈ s, isDigit 16 c) : scan 16 ('0' :: x :: s) = (false, s) := by
  have hzero : isDigit 16 '0' := by decide
  rw [scan_of_isDigit hzero]
  cases s with
  | nil => exact absurd rfl hne
  | cons c s =>
    have hskip : skipPrefix 16 ('0' :: x :: c :: s) = c :: s := by
      rcases hx with rfl | rfl
      · exact if_pos ⟨rfl, h c List.mem_cons_self⟩
      · exact if_pos ⟨rfl, h c List.mem_cons_self⟩
    rw [hskip, List.takeWhile_eq_self_iff.mpr h]

section
variable (lib : CLib) {s : List Char} {base : Nat}

theorem CLib.two_pow_le : 2 ^ 32 ≤ 2 ^ lib.longBits :=
  Nat.pow_le_pow_right (by decide) lib.le_longBits

/-- A decimal numeral that fits into 32 bits. -/
theorem CLib.strtol_digits (hne : s ≠ []) (h : ∀ c ∈ s, isDigit base c)
    (hmax : numeralValue base s ≤ 2 ^ 31 - 1) :
    lib.strtol s base = ((numeralValue base s : Int), none) := by
  have hpow : 2 ^ 31 ≤ 2 ^ (lib.longBits - 1) :=
    Nat.pow_le_pow_right (by decide) (Nat.le_sub_one_of_lt lib.le_longBits)
  have hcast : (2 : Int) ^ (lib.longBits - 1) = ((2 ^ (lib.longBits - 1) : Nat) : Int) := by
    rw [Int.natCast_pow]
    rfl
  rw [strtol, scan_digits h]
  dsimp only
  rw [if_neg hne, if_neg Bool.false_ne_true, hcast, if_neg (by omega), if_neg (by omega)]

/-- What is scanned without a sign and does not exceed `unsigned long`. -/
theorem CLib.strtoul_scanned {digits : List Char} (hscan : scan base s = (false, digits))
    (hne : digits ≠ []) (hmax : numeralValue base digits ≤ 2 ^ 32 - 1) :
    lib.strtoul s base = (numeralValue base digits, none) := by
  have hpow := lib.two_pow_le
  rw [strtoul, hscan]
  dsimp only
  rw [if_neg hne, if_neg (by omega), if_neg Bool.false_ne_true]

end

/-! ## Printed numerals -/

theorem toDigits_injective {m n : Nat} (h : Nat.toDigits 10 m = Nat.toDigits 10 n) : m = n := by
  have hvalue := congrArg (Nat.ofDigitChars 10 · 0) h
  simpa only [Nat.ofDigitChars_ten_toDigits] using hvalue

theorem notMem_toDigits {c : Char} (hc : c.isDigit = false) (n : Nat) : c ∉ Nat.toDigits 10 n := by
  intro h
  have hdigit := Nat.isDigit_of_mem_toDigits (by decide) (by decide) h
  rw [hc] at hdigit
  cases hdigit

/-- The number that a token of decimal digits denotes. -/
def readDecimal (s : List Char) : Option Nat :=
  if s ≠ [] ∧ s.all Char.isDigit then some (Nat.ofDigitChars 10 s 0) else none

theorem readDecimal_toDigits (n : Nat) : readDecimal (Nat.toDigits 10 n) = some n := by
  have hdigits : (Nat.toDigits 10 n).all Char.isDigit = true := by
    rw [List.all_eq_true]
    intro c hc
    exact Nat.isDigit_of_mem_toDigits (by decide) (by decide) hc
  rw [readDecimal, if_pos ⟨Nat.toDigits_ne_nil, hdigits⟩, Nat.ofDigitChars_ten_toDigits]

end ExtDevMgr.Numerals
