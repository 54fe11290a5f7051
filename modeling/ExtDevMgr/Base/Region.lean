import Mathlib.Data.List.GetD

/-!
# Writes to a region of memory

A memory region is the list of its cells. `store` puts cells at an offset, `move` copies cells inside
the region as if through a buffer, and `SameOutside` says that nothing outside a window changes.
-/

namespace ExtDevMgr.Region

variable {α : Type*}

/-- `data` put at offset `off`. -/
def store (mem : List α) (off : Nat) (data : List α) : List α :=
  mem.take off ++ (data ++ mem.drop (off + data.length))

/-- The `n` cells from offset `off` on. -/
def load (mem : List α) (off n : Nat) : List α := (mem.drop off).take n

def move (mem : List α) (dst src n : Nat) : List α := store mem dst (load mem src n)

theorem length_load {mem : List α} {off n : Nat} (h : off + n ≤ mem.length) :
    (load mem off n).length = n := by
  rw [load, List.length_take, List.length_drop]
  omega

theorem getElem?_load {mem : List α} {off n i : Nat} (hi : i < n) :
    (load mem off n)[i]? = mem[off + i]? := by
  rw [load, List.getElem?_take_of_lt hi, List.getElem?_drop]

section
variable {mem data : List α} {off : Nat}

theorem length_store (h : off + data.length ≤ mem.length) :
    (store mem off data).length = mem.length := by
  rw [store, List.length_append, List.length_append, List.length_take, List.length_drop]
  omega

theorem getElem?_store_lt (h : off ≤ mem.length) {i : Nat} (hi : i < off) :
    (store mem off data)[i]? = mem[i]? := by
  rw [store, List.getElem?_append_left (by rw [List.length_take]; omega),
    List.getElem?_take_of_lt hi]

theorem getElem?_store_mem (h : off ≤ mem.length) {i : Nat} (hi : i < data.length) :
    (store mem off data)[off + i]? = data[i]? := by
  have hlen : (mem.take off).length = off := by
    rw [List.length_take]
    omega
  rw [store, List.getElem?_append_right (by omega), hlen, Nat.add_sub_cancel_left,
    List.getElem?_append_left hi]

theorem getElem?_store_ge (h : off ≤ mem.length) {i : Nat} (hi : off + data.length ≤ i) :
    (store mem off data)[i]? = mem[i]? := by
  have hlen : (mem.take off).length = off := by
    rw [List.length_take]
    omega
  rw [store, List.getElem?_append_right (by omega), hlen, List.getElem?_append_right (by omega),
    List.getElem?_drop]
  congr 1
  omega

@[simp] theorem store_nil (mem : List α) (off : Nat) : store mem off [] = mem :=
  List.take_append_drop off mem

theorem store_cons {a : α} (h : off < mem.length) :
    store mem off (a :: data) = store (mem.set off a) (off + 1) data := by
  have htake : (mem.set off a).take (off + 1) = mem.take off ++ [a] := by
    rw [List.set_eq_take_append_cons_drop, if_pos h, List.take_append,
      List.length_take_of_le (Nat.le_of_lt h), List.take_of_length_le (by rw [List.length_take]; omega),
      Nat.add_sub_cancel_left, List.take_succ_cons, List.take_zero]
  rw [store, store, htake, List.append_assoc, List.drop_set_of_lt (by omega), List.length_cons,
    Nat.add_right_comm, Nat.add_assoc]
  rfl

/-- What has been stored is read back. -/
theorem load_store (h : off ≤ mem.length) : load (store mem off data) off data.length = data := by
  have hlen : (mem.take off).length = off := by
    rw [List.length_take]
    omega
  rw [load, store, List.drop_left' hlen, List.take_left]

/-- The target of a move holds what its source held, whether or not the two overlap. -/
theorem load_move {dst src n : Nat} (hdst : dst ≤ mem.length) (hsrc : src + n ≤ mem.length) :
    load (move mem dst src n) dst n = load mem src n := by
  have hload : load (move mem dst src n) dst (load mem src n).length = load mem src n :=
    load_store hdst
  rwa [length_load hsrc] at hload

end

/-- Nothing outside the window from `lo` to `hi` changes. -/
def SameOutside (lo hi : Nat) (mem mem' : List α) : Prop :=
  ∀ i, i < lo ∨ hi ≤ i → mem'[i]? = mem[i]?

namespace SameOutside
variable {lo hi : Nat} {mem mem' mem'' : List α}

theorem refl (lo hi : Nat) (mem : List α) : SameOutside lo hi mem mem := fun _ _ => rfl

theorem trans (h : SameOutside lo hi mem mem') (h' : SameOutside lo hi mem' mem'') :
    SameOutside lo hi mem mem'' := fun i hi => (h' i hi).trans (h i hi)

end SameOutside

end ExtDevMgr.Region
