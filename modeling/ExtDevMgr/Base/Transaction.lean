import Mathlib.Data.Option.Basic

/-!
# Transactions

A store with at most one open transaction. A call of the store may fail; then it has no effect, and
`failed` records it. Rolling back always succeeds. `Atomic` is what a caller promises that reports its
success by a code.
-/

namespace ExtDevMgr.Transaction

variable {σ : Type*}

/-- `saved` is the content at the beginning of the open transaction. -/
structure Store (σ : Type*) where
  content : σ
  saved : Option σ := none
  failed : Bool := false

namespace Store

def start (ok : Bool) (s : Store σ) : Store σ :=
  if ok then { s with saved := some s.content } else { s with failed := true }

def exec (f : σ → σ) (ok : Bool) (s : Store σ) : Store σ :=
  if ok then { s with content := f s.content } else { s with failed := true }

def commit (ok : Bool) (s : Store σ) : Store σ :=
  if ok then { s with saved := none } else { s with failed := true }

def rollBack (s : Store σ) : Store σ :=
  { s with content := s.saved.getD s.content, saved := none }

/-- A transaction that began with `old` and is at `new`. -/
def within (old new : σ) (failed : Bool) : Store σ := { content := new, saved := some old, failed }

/-- No transaction is open. -/
def closed (content : σ) (failed : Bool) : Store σ := { content, failed }

/-- Nothing stays open, the code tells whether every call succeeded, and the content is the new one
if it did and the old one otherwise. -/
structure Atomic (old new : σ) (accepted : Prop) (s : Store σ) : Prop where
  saved : s.saved = none
  code : accepted ↔ s.failed = false
  done : s.failed = false → s.content = new
  undone : s.failed = true → s.content = old

section
variable {old new : σ} {accepted : Prop}

theorem Atomic.of_done (h : accepted) : Atomic old new accepted (closed new false) :=
  ⟨rfl, iff_of_true h rfl, fun _ => rfl, nofun⟩

theorem Atomic.of_undone (h : ¬ accepted) : Atomic old new accepted (closed old true) :=
  ⟨rfl, iff_of_false h nofun, nofun, fun _ => rfl⟩

/-- Undoing calls that all succeeded is not atomic. -/
theorem not_atomic_of_undone {s : Store σ} (h : ¬ accepted) (hs : s.failed = false) :
    ¬ Atomic old new accepted s :=
  fun hatomic => h (hatomic.code.mpr hs)

end

end Store

end ExtDevMgr.Transaction
