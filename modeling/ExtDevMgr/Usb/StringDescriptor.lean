import Mathlib.Data.Nat.Find
import Mathlib.Logic.Function.Basic
import ExtDevMgr.Base.Access
import ExtDevMgr.Usb.Callers

/-!
# String descriptors

`UsbDevSubscriber::GetDevStringVal` puts each byte of a string descriptor into a cell of 16 bits and
reads pairs of cells as characters of 32 bits, so that a character is one unit of UTF-16 spread over two
cells. The serial number is the low bytes of the units (`getDevStringVal_decodes`). The bytes are counted
by 32 bits, which is enough for whatever a device can send (`getDevStringVal_iff`).
-/

namespace ExtDevMgr.Usb
open Access

/-- A byte of the reply, or a cell of the scratch buffer `tbuf`. -/
inductive StringPlace
  | serial (i : Nat)
  | tbuf (i : Nat)

/-- The reply has `n` bytes and the scratch buffer a cell more. -/
def StringPlace.Inside (n : Nat) : StringPlace → Prop
  | serial i => i < n
  | tbuf i => i < n + 1

/-- What `GetStringDescriptor` returns and writes. -/
structure StringReply where
  ret : Int
  serial : List UInt8

/-! ## The subscriber -/

/-- The string `" "`. -/
def blank : List UInt8 := [0x20]

/-- The counter and the cells from `tbuf` on. -/
structure Fill where
  i : UInt32
  tbuf : Nat → UInt16

/-- One byte; the counter has 32 bits, whatever the width of the length. -/
def fillBody (serial : List UInt8) (st : Fill) : Access StringPlace (Fill ⊕ (Nat → UInt16)) :=
  if st.i.toNat < serial.length - 2 then do
    let byte ← touch (.serial (st.i + 2).toNat) (serial.getD (st.i + 2).toNat 0)
    touch (.tbuf st.i.toNat)
      (.inl ⟨st.i + 1, Function.update st.tbuf st.i.toNat byte.toUInt16⟩)
  else
    return .inr st.tbuf

/-- The `wchar_t` of 32 bits in two cells. -/
def wchar (low high : UInt16) : UInt32 := UInt32.ofNat (low.toNat + 2 ^ 16 * high.toNat)

def wcharAt (tbuf : Nat → UInt16) (k : Nat) : UInt32 := wchar (tbuf (2 * k)) (tbuf (2 * k + 1))

def wcslenBody (tbuf : Nat → UInt16) (k : Nat) : Access StringPlace (Nat ⊕ Nat) := do
  let c ← touchAll [.tbuf (2 * k), .tbuf (2 * k + 1)] (wcharAt tbuf k)
  return if c = 0 then .inr k else .inl (k + 1)

def wcslen (fuel : Nat) (tbuf : Nat → UInt16) : Access StringPlace (Option Nat) :=
  iterate (wcslenBody tbuf) fuel 0

/-- The first `len` characters, narrowed to `char`. -/
def narrow (tbuf : Nat → UInt16) (len : Nat) : Access StringPlace (List UInt8) :=
  touchAll ((List.range (2 * len)).map .tbuf)
    ((List.range len).map fun k => (wcharAt tbuf k).toUInt8)

/-- `wcslen` is called for the comparison and again for the result. -/
def wstrLen (fuel bufLen : Nat) (tbuf : Nat → UInt16) : Access StringPlace (Option Nat) := do
  let len ← wcslen fuel tbuf
  match len with
  | none => return none
  | some len => if len ≤ bufLen then wcslen fuel tbuf else return some bufLen

/-- What is made of the filled scratch buffer. -/
def decodeCells (fuel length : Nat) (tbuf : Nat → UInt16) :
    Access StringPlace (Option (List UInt8)) := do
  let len ← wstrLen fuel ((length - 2) / 2) tbuf
  match len with
  | none => return none
  | some len =>
    let strDesc ← narrow tbuf len
    return some strDesc

/-- The scratch buffer when it is new, and what is behind it in memory. -/
def newCells (length : Nat) (memory : Nat → UInt16) (i : Nat) : UInt16 :=
  if i < length + 1 then 0 else memory i

/-- What is done with a reply of the right type. -/
def decodeReply (fuel : Nat) (serial : List UInt8) (memory : Nat → UInt16) :
    Access StringPlace (Option (List UInt8)) := do
  let tbuf ← iterate (fillBody serial) fuel ⟨0, newCells serial.length memory⟩
  match tbuf with
  | none => return none
  | some tbuf => decodeCells fuel serial.length tbuf

/-- `memory` is what `new (std::nothrow)` gives: `none`, or the memory from the new buffer on. The
result is `none` when the fuel runs out. -/
def getDevStringVal (fuel : Nat) (idx : UInt8) (reply : StringReply)
    (memory : Option (Nat → UInt16)) : Access StringPlace (Option (List UInt8)) :=
  if idx = 0 then
    return some blank
  else if reply.ret ≠ edmOk then
    return some blank
  else if reply.serial.length < 2 then
    return some blank
  else do
    let type ← touch (.serial 1) (reply.serial.getD 1 0)
    if type ≠ 3 then
      return some blank
    else
      match memory with
      | none => return some blank
      | some memory => decodeReply fuel reply.serial memory

/-! ## Units -/

/-- A unit of UTF-16, the low byte first. -/
def unit (low high : UInt8) : UInt16 := UInt16.ofNat (low.toNat + 2 ^ 8 * high.toNat)

/-- The complete units. -/
def utf16Units : List UInt8 → List UInt16
  | low :: high :: rest => unit low high :: utf16Units rest
  | _ => []

/-- The low bytes of the units in front of the first zero unit. -/
def lowBytes (bytes : List UInt8) : List UInt8 :=
  ((utf16Units bytes).takeWhile (· ≠ 0)).map UInt16.toUInt8

section
variable {low high : UInt8}

theorem toNat_unit : (unit low high).toNat = low.toNat + 2 ^ 8 * high.toNat := by
  have hlow := low.toNat_lt
  have hhigh := high.toNat_lt
  rw [unit, UInt16.toNat_ofNat', Nat.mod_eq_of_lt (by omega)]

theorem toNat_wchar : (wchar low.toUInt16 high.toUInt16).toNat =
    low.toNat + 2 ^ 16 * high.toNat := by
  have hlow := low.toNat_lt
  have hhigh := high.toNat_lt
  rw [wchar, UInt32.toNat_ofNat', UInt8.toNat_toUInt16, UInt8.toNat_toUInt16,
    Nat.mod_eq_of_lt (by omega)]

/-- The character is zero when the unit is. -/
theorem wchar_eq_zero_iff : wchar low.toUInt16 high.toUInt16 = 0 ↔ unit low high = 0 := by
  rw [← UInt32.toNat_inj, ← UInt16.toNat_inj, toNat_wchar, toNat_unit]
  simp only [UInt32.toNat_zero, UInt16.toNat_zero]
  omega

/-- Narrowed to a byte they are the same. -/
theorem toUInt8_wchar :
    (wchar low.toUInt16 high.toUInt16).toUInt8 = (unit low high).toUInt8 := by
  rw [← UInt8.toNat_inj, UInt32.toNat_toUInt8, UInt16.toNat_toUInt8, toNat_wchar, toNat_unit]
  omega

end

theorem length_utf16Units (bytes : List UInt8) : (utf16Units bytes).length = bytes.length / 2 := by
  induction bytes using utf16Units.induct with
  | case1 low high rest ih =>
    rw [utf16Units, List.length_cons, ih, List.length_cons, List.length_cons]
    omega
  | case2 bytes h =>
    obtain _ | ⟨low, _ | ⟨high, rest⟩⟩ := bytes
    · rfl
    · exact (Nat.div_eq_of_lt (by decide : 1 < 2)).symm
    · exact absurd rfl (h low high rest)

theorem getElem?_utf16Units {bytes : List UInt8} {k : Nat} (hk : k < bytes.length / 2) :
    (utf16Units bytes)[k]? = some (unit (bytes.getD (2 * k) 0) (bytes.getD (2 * k + 1) 0)) := by
  induction bytes using utf16Units.induct generalizing k with
  | case1 low high rest ih =>
    rw [utf16Units]
    cases k with
    | zero => rfl
    | succ k =>
      rw [List.length_cons, List.length_cons] at hk
      rw [List.getElem?_cons_succ, ih (by omega)]
      rfl
  | case2 bytes h =>
    obtain _ | ⟨low, _ | ⟨high, rest⟩⟩ := bytes
    · exact absurd hk (Nat.not_lt_zero k)
    · rw [List.length_singleton] at hk
      omega
    · exact absurd rfl (h low high rest)

theorem takeWhile_eq_take {α : Type} {p : α → Bool} {l : List α} {m : Nat}
    (hpos : ∀ k < m, ∃ a, l[k]? = some a ∧ p a = true) (hneg : ∀ a, l[m]? = some a → p a = false) :
    l.takeWhile p = l.take m := by
  induction m generalizing l with
  | zero =>
    cases l with
    | nil => rfl
    | cons a l => rw [List.takeWhile_cons_of_neg (by rw [hneg a rfl]; nofun), List.take_zero]
  | succ m ih =>
    cases l with
    | nil => rfl
    | cons a l =>
      obtain ⟨a', ha, hp⟩ := hpos 0 (Nat.succ_pos m)
      cases ha
      rw [List.takeWhile_cons_of_pos hp, List.take_succ_cons,
        ih (fun k hk => hpos (k + 1) (Nat.succ_lt_succ hk)) hneg]

/-! ## The two loops -/

section
variable {serial : List UInt8} {tbuf : Nat → UInt16} {n : Nat}

/-- The cell of each byte behind the header; the index is a sum of 32 bits. -/
def filled (serial : List UInt8) (tbuf : Nat → UInt16) (i j : Nat) : UInt16 :=
  if i ≤ j ∧ j < serial.length - 2 then (serial.getD ((j + 2) % 2 ^ 32) 0).toUInt16 else tbuf j

theorem filled_update {i : Nat} (h : i < serial.length - 2) :
    filled serial (Function.update tbuf i (serial.getD ((i + 2) % 2 ^ 32) 0).toUInt16) (i + 1) =
      filled serial tbuf i := by
  funext j
  simp only [filled, Function.update_apply]
  obtain hlt | rfl | hgt := Nat.lt_trichotomy j i
  · rw [if_neg (by omega), if_neg (by omega), if_neg (by omega)]
  · rw [if_neg (by omega), if_pos rfl, if_pos (by omega)]
  · by_cases hj : j < serial.length - 2
    · rw [if_pos (by omega), if_pos (by omega)]
    · rw [if_neg (by omega), if_neg (by omega), if_neg (by omega)]

theorem fill_iter (hlen : serial.length - 2 < 2 ^ 32) {k : Nat} (st : Fill)
    (hk : st.i.toNat + k = serial.length - 2) :
    Loop.iter (fun st => (fillBody serial st).value) (k + 1) st =
      some (filled serial st.tbuf st.i.toNat) := by
  induction k generalizing st with
  | zero =>
    have hturn : (fillBody serial st).value = .inr st.tbuf := by
      rw [fillBody, if_neg (by omega)]
      rfl
    rw [Loop.iter_succ_inr hturn]
    congr 1
    funext j
    rw [filled, if_neg (by omega)]
  | succ k ih =>
    have hi : st.i.toNat < serial.length - 2 := by omega
    have hnext : (st.i + 1).toNat = st.i.toNat + 1 := by
      rw [UInt32.toNat_add]
      exact Nat.mod_eq_of_lt (by change st.i.toNat + 1 < 2 ^ 32; omega)
    have hturn : (fillBody serial st).value = .inl ⟨st.i + 1,
        Function.update st.tbuf st.i.toNat (serial.getD ((st.i.toNat + 2) % 2 ^ 32) 0).toUInt16⟩ := by
      rw [fillBody, if_pos hi]
      rfl
    rw [Loop.iter_succ_inl hturn, ih _ (by rw [hnext]; omega)]
    dsimp only
    rw [hnext, filled_update hi]

/-- A counter of 32 bits never reaches a length that does not fit into it. -/
theorem fill_iter_none (hlen : 2 ^ 32 ≤ serial.length - 2) (fuel : Nat) (st : Fill) :
    Loop.iter (fun st => (fillBody serial st).value) fuel st = none := by
  induction fuel generalizing st with
  | zero => rfl
  | succ fuel ih =>
    have hi : st.i.toNat < serial.length - 2 := Nat.lt_of_lt_of_le st.i.toNat_lt hlen
    have hturn : ∃ st', (fillBody serial st).value = .inl st' := by
      rw [fillBody, if_pos hi]
      exact ⟨_, rfl⟩
    obtain ⟨st', hturn⟩ := hturn
    rw [Loop.iter_succ_inl hturn, ih]

theorem fill_within (fuel : Nat) (st : Fill) :
    (iterate (fillBody serial) fuel st).Within (StringPlace.Inside serial.length) := by
  refine within_iterate (I := fun _ => True) (fun st _ => ?_) fuel trivial
  unfold fillBody
  split
  case isTrue hi =>
    have hindex : (StringPlace.serial (st.i + 2).toNat).Inside serial.length := by
      change (st.i + 2).toNat < serial.length
      have hmod : (st.i + 2).toNat ≤ st.i.toNat + 2 := by
        rw [UInt32.toNat_add]
        exact Nat.mod_le _ _
      omega
    refine (spec_touch (Q := fun _ => True) hindex trivial).bind fun byte _ => ?_
    have hcell : (StringPlace.tbuf st.i.toNat).Inside serial.length := by
      change st.i.toNat < serial.length + 1
      omega
    exact spec_touch hcell trivial
  case isFalse => exact spec_pure trivial

/-- `k` is the index of the first zero character. -/
structure FirstZero (tbuf : Nat → UInt16) (k : Nat) : Prop where
  zero : wcharAt tbuf k = 0
  before : ∀ j < k, wcharAt tbuf j ≠ 0

theorem FirstZero.iter {k : Nat} (h : FirstZero tbuf k) {j : Nat} (hj : j ≤ k) :
    Loop.iter (fun j => (wcslenBody tbuf j).value) (k - j + 1) j = some k := by
  obtain ⟨d, rfl⟩ := Nat.exists_eq_add_of_le hj
  rw [Nat.add_sub_cancel_left]
  induction d generalizing j with
  | zero =>
    have hturn : (wcslenBody tbuf j).value = .inr j := if_pos h.zero
    exact Loop.iter_succ_inr hturn
  | succ d ih =>
    have hne : wcharAt tbuf j ≠ 0 := h.before j (by omega)
    have hturn : (wcslenBody tbuf j).value = .inl (j + 1) := if_neg hne
    rw [Loop.iter_succ_inl hturn, show j + (d + 1) = j + 1 + d by omega]
    exact ih (by rwa [show j + 1 + d = j + (d + 1) by omega]) (Nat.le_add_right _ _)

/-- Up to the first zero character all cells are read. -/
theorem FirstZero.wcslen {k : Nat} (h : FirstZero tbuf k) (hk : 2 * k + 1 < n + 1) {fuel : Nat}
    (hfuel : k < fuel) : (wcslen fuel tbuf).Spec (StringPlace.Inside n) (· = some k) := by
  constructor
  · refine within_iterate (I := fun j => j ≤ k) (fun j hj => ?_) fuel (Nat.zero_le k)
    unfold wcslenBody
    refine (spec_touchAll (Q := (· = wcharAt tbuf j)) ?_ rfl).bind fun c hc => ?_
    · refine List.forall_mem_cons.mpr ⟨?_, List.forall_mem_singleton.mpr ?_⟩
      · change 2 * j < n + 1
        omega
      · change 2 * j + 1 < n + 1
        omega
    · refine spec_pure ?_
      subst hc
      split
      case isTrue => exact trivial
      case isFalse hne =>
        refine Nat.lt_of_le_of_ne hj ?_
        rintro rfl
        exact hne h.zero
  · have hiter := h.iter (Nat.zero_le k)
    rw [Usb.wcslen, value_iterate]
    exact Loop.iter_mono hiter (by omega)

end

/-! ## The string -/

section
variable {serial : List UInt8} {memory : Nat → UInt16} {idx : UInt8}

/-- The cells of a unit. -/
theorem wcharAt_unit (hlen : serial.length - 2 < 2 ^ 32) {k : Nat}
    (hk : k < (serial.length - 2) / 2) (tbuf : Nat → UInt16) :
    wcharAt (filled serial tbuf 0) k =
      wchar ((serial.drop 2).getD (2 * k) 0).toUInt16 ((serial.drop 2).getD (2 * k + 1) 0).toUInt16 := by
  have hcell {j : Nat} (hj : j < 2 * ((serial.length - 2) / 2)) :
      filled serial tbuf 0 j = ((serial.drop 2).getD j 0).toUInt16 := by
    rw [filled, if_pos (by omega), Nat.mod_eq_of_lt (by omega), List.getD_eq_getElem?_getD,
      List.getD_eq_getElem?_getD, List.getElem?_drop, Nat.add_comm 2 j]
  rw [wcharAt, hcell (by omega), hcell (by omega)]

/-- Behind the bytes there are cells for a zero character. -/
theorem exists_zero (hlen : 2 ≤ serial.length) (memory : Nat → UInt16) :
    wcharAt (filled serial (newCells serial.length memory) 0) ((serial.length - 1) / 2) = 0 := by
  have hcell {j : Nat} (hj : serial.length - 2 ≤ j) (hj' : j < serial.length + 1) :
      filled serial (newCells serial.length memory) 0 j = 0 := by
    rw [filled, if_neg (by omega), newCells, if_pos hj']
  rw [wcharAt, hcell (by omega) (by omega), hcell (by omega) (by omega)]
  rfl

theorem exists_firstZero (hlen : 2 ≤ serial.length) (memory : Nat → UInt16) :
    ∃ k, 2 * k + 1 < serial.length + 1 ∧
      FirstZero (filled serial (newCells serial.length memory) 0) k := by
  have hex : ∃ k, wcharAt (filled serial (newCells serial.length memory) 0) k = 0 :=
    ⟨_, exists_zero hlen memory⟩
  have hle : Nat.find hex ≤ (serial.length - 1) / 2 := Nat.find_min' hex (exists_zero hlen memory)
  exact ⟨Nat.find hex, by omega, Nat.find_spec hex, fun j hj => Nat.find_min hex hj⟩

/-- The characters up to the first zero one, or up to the number of units, are the units. -/
theorem narrow_value (hlen : serial.length - 2 < 2 ^ 32) {tbuf : Nat → UInt16} {k : Nat}
    (h : FirstZero (filled serial tbuf 0) k) :
    (narrow (filled serial tbuf 0) (min k ((serial.length - 2) / 2))).value =
      lowBytes (serial.drop 2) := by
  have hunits {j : Nat} (hj : j < (serial.length - 2) / 2) :
      (utf16Units (serial.drop 2))[j]? =
        some (unit ((serial.drop 2).getD (2 * j) 0) ((serial.drop 2).getD (2 * j + 1) 0)) :=
    getElem?_utf16Units (by rwa [List.length_drop])
  have hlength : (utf16Units (serial.drop 2)).length = (serial.length - 2) / 2 := by
    rw [length_utf16Units, List.length_drop]
  have htake : (utf16Units (serial.drop 2)).takeWhile (· ≠ 0) =
      (utf16Units (serial.drop 2)).take (min k ((serial.length - 2) / 2)) := by
    apply takeWhile_eq_take
    · intro j hj
      refine ⟨_, hunits (by omega), decide_eq_true fun hzero => ?_⟩
      refine h.before j (by omega) ?_
      rw [wcharAt_unit hlen (by omega), wchar_eq_zero_iff.mpr hzero]
    · intro u hu
      obtain ⟨hlt, -⟩ := List.getElem?_eq_some_iff.mp hu
      rw [hlength] at hlt
      have hk : min k ((serial.length - 2) / 2) = k := by omega
      rw [hk] at hu hlt
      have hzero := h.zero
      rw [wcharAt_unit hlen hlt, wchar_eq_zero_iff] at hzero
      rw [hunits hlt, hzero] at hu
      cases hu
      exact decide_eq_false (not_not_intro rfl)
  rw [lowBytes, htake]
  apply List.ext_getElem?
  intro j
  change ((List.range _).map _)[j]? = _
  rw [List.getElem?_map, List.getElem?_map, List.getElem?_take]
  by_cases hj : j < min k ((serial.length - 2) / 2)
  · rw [List.getElem?_range hj, if_pos hj, hunits (by omega), Option.map_some, Option.map_some,
      wcharAt_unit hlen (by omega), toUInt8_wchar]
  · rw [List.getElem?_eq_none (by rw [List.length_range]; omega), if_neg hj]
    rfl

theorem narrow_within (tbuf : Nat → UInt16) {n m : Nat} (h : 2 * m ≤ n + 1) :
    (narrow tbuf m).Within (StringPlace.Inside n) := by
  refine (within_touchAll _ _).mpr ?_
  intro place hplace
  obtain ⟨i, hi, rfl⟩ := List.mem_map.mp hplace
  have hlt : i < 2 * m := List.mem_range.mp hi
  exact Nat.lt_of_lt_of_le hlt h

theorem wstrLen_spec (hmin : 2 ≤ serial.length) {tbuf : Nat → UInt16} {k : Nat}
    (hk : 2 * k + 1 < serial.length + 1) (h : FirstZero tbuf k) {fuel : Nat}
    (hfuel : serial.length < fuel) :
    (wstrLen fuel ((serial.length - 2) / 2) tbuf).Spec (StringPlace.Inside serial.length)
      (· = some (min k ((serial.length - 2) / 2))) := by
  have hwcslen := h.wcslen hk (show k < fuel by omega)
  unfold wstrLen
  refine hwcslen.bind fun len heq => ?_
  subst heq
  dsimp only
  split
  case isTrue hle =>
    rw [Nat.min_eq_left hle]
    exact hwcslen
  case isFalse hgt =>
    rw [Nat.min_eq_right (by omega)]
    exact spec_pure rfl

theorem decodeCells_spec (hmin : 2 ≤ serial.length) (hlen : serial.length - 2 < 2 ^ 32)
    (memory : Nat → UInt16) {fuel : Nat} (hfuel : serial.length < fuel) :
    (decodeCells fuel serial.length (filled serial (newCells serial.length memory) 0)).Spec
      (StringPlace.Inside serial.length) (· = some (lowBytes (serial.drop 2))) := by
  obtain ⟨k, hk, hzero⟩ := exists_firstZero hmin memory
  unfold decodeCells
  refine (wstrLen_spec hmin hk hzero hfuel).bind fun len heq => ?_
  subst heq
  have hwithin := narrow_within (filled serial (newCells serial.length memory) 0)
    (show 2 * min k ((serial.length - 2) / 2) ≤ serial.length + 1 by omega)
  have hnarrow : (narrow _ _).Spec (StringPlace.Inside serial.length)
      (· = lowBytes (serial.drop 2)) := ⟨hwithin, narrow_value hlen hzero⟩
  refine hnarrow.bind fun strDesc heq => ?_
  exact spec_pure (congrArg some heq)

theorem decodeReply_spec (hmin : 2 ≤ serial.length) (hlen : serial.length - 2 < 2 ^ 32)
    (memory : Nat → UInt16) {fuel : Nat} (hfuel : serial.length < fuel) :
    (decodeReply fuel serial memory).Spec (StringPlace.Inside serial.length)
      (· = some (lowBytes (serial.drop 2))) := by
  have hfill : (iterate (fillBody serial) fuel ⟨0, newCells serial.length memory⟩).Spec
      (StringPlace.Inside serial.length)
      (· = some (filled serial (newCells serial.length memory) 0)) := by
    refine ⟨fill_within fuel _, ?_⟩
    have hiter := fill_iter hlen ⟨0, newCells serial.length memory⟩ (Nat.zero_add _)
    rw [value_iterate]
    exact Loop.iter_mono hiter (by omega)
  refine hfill.bind fun tbuf heq => ?_
  subst heq
  exact decodeCells_spec hmin hlen memory hfuel

theorem decodeReply_none (hlen : 2 ^ 32 ≤ serial.length - 2) (memory : Nat → UInt16) (fuel : Nat) :
    (decodeReply fuel serial memory).value = none := by
  rw [decodeReply, value_bind, value_iterate, fill_iter_none hlen]
  rfl

/-- A reply with the type of a string descriptor. -/
structure IsStringDescriptor (serial : List UInt8) : Prop where
  two_le : 2 ≤ serial.length
  type : serial.getD 1 0 = 3

/-- Only the type is read before the bytes are put into the scratch buffer. -/
theorem getDevStringVal_eq (fuel : Nat) (hidx : idx ≠ 0) (h : IsStringDescriptor serial)
    (memory : Nat → UInt16) :
    getDevStringVal fuel idx ⟨edmOk, serial⟩ (some memory) =
      touch (.serial 1) (serial.getD 1 0) >>= fun _ => decodeReply fuel serial memory := by
  rw [getDevStringVal, if_neg hidx, if_neg (not_not_intro rfl), if_neg (Nat.not_lt.mpr h.two_le)]
  exact bind_congr (if_neg (not_not_intro h.type))

/-- 32 bits count the bytes behind the header. `GetStringDescriptor` gives what a control transfer has
carried, and `wLength` of a setup packet has 16 bits. -/
def Countable (serial : List UInt8) : Prop := serial.length - 2 < 2 ^ 32

instance (serial : List UInt8) : Decidable (Countable serial) := inferInstanceAs (Decidable (_ < _))

theorem decodes_of_countable (hidx : idx ≠ 0) (h : IsStringDescriptor serial)
    (hcount : Countable serial) (memory : Nat → UInt16) {fuel : Nat} (hfuel : serial.length < fuel) :
    (getDevStringVal fuel idx ⟨edmOk, serial⟩ (some memory)).Spec
      (StringPlace.Inside serial.length) (· = some (lowBytes (serial.drop 2))) := by
  rw [getDevStringVal_eq fuel hidx h]
  have htype : (StringPlace.serial 1).Inside serial.length := h.two_le
  refine (spec_touch (Q := fun _ => True) htype trivial).bind fun _ _ => ?_
  exact decodeReply_spec h.two_le hcount memory hfuel

/-- Every string descriptor is decoded to the low bytes of its units in front of the first zero one,
with no access outside of the vector and the scratch buffer. -/
theorem getDevStringVal_decodes (hidx : idx ≠ 0) (h : IsStringDescriptor serial)
    (hcount : Countable serial) (memory : Nat → UInt16) :
    ∀ fuel, serial.length < fuel →
      (getDevStringVal fuel idx ⟨edmOk, serial⟩ (some memory)).Spec
        (StringPlace.Inside serial.length) (· = some (lowBytes (serial.drop 2))) := by
  intro fuel hfuel
  exact decodes_of_countable hidx h hcount memory hfuel

/-- The units of "AB", a zero unit and one more, and a byte that is no unit. -/
theorem getDevStringVal_odd :
    (getDevStringVal 12 1 ⟨edmOk, [11, 3, 65, 0, 66, 0, 0, 0, 67, 0, 68]⟩ (some fun _ => 1)).Spec
      (StringPlace.Inside 11) (· = some [65, 66]) := by
  have hserial : IsStringDescriptor [11, 3, 65, 0, 66, 0, 0, 0, 67, 0, 68] := ⟨by decide, rfl⟩
  exact getDevStringVal_decodes (by decide) hserial (by decide) _ 12 (by decide)

/-- More bytes than 32 bits count are not decoded at all. -/
theorem getDevStringVal_iff (hidx : idx ≠ 0) (h : IsStringDescriptor serial)
    (memory : Nat → UInt16) :
    (∃ fuel, (getDevStringVal fuel idx ⟨edmOk, serial⟩ (some memory)).Spec
      (StringPlace.Inside serial.length) (· = some (lowBytes (serial.drop 2)))) ↔
        Countable serial := by
  constructor
  · rintro ⟨fuel, -, hvalue⟩
    by_contra hlen
    rw [getDevStringVal_eq fuel hidx h, value_bind,
      decodeReply_none (Nat.not_lt.mp hlen)] at hvalue
    cases hvalue
  · intro hcount
    exact ⟨serial.length + 1, decodes_of_countable hidx h hcount memory (Nat.lt_succ_self _)⟩

end

end ExtDevMgr.Usb
