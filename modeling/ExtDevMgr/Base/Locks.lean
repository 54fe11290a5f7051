import Mathlib.Data.Set.Insert
import Mathlib.Logic.Function.Basic

/-!
# Threads with locks

A thread runs a program that takes locks, gives them back and, in between, works on the state that
all threads share. A lock that is held makes a thread wait that wants it, unless the thread holds it
already and may take it again. A set of threads is deadlocked where each of them waits for one of
them.
-/

namespace ExtDevMgr

/-! ## Programs -/

inductive Prog (L σ : Type) (α : Type) where
  | done (a : α)
  | acquire (l : L) (next : Prog L σ α)
  | release (l : L) (next : Prog L σ α)
  /-- Changes the shared state by `f`, in one step, and goes on as the state before says. -/
  | act (f : σ → σ) (next : σ → Prog L σ α)

namespace Prog
variable {L σ α β : Type}

def bind : Prog L σ α → (α → Prog L σ β) → Prog L σ β
  | .done a, q => q a
  | .acquire l p, q => .acquire l (p.bind q)
  | .release l p, q => .release l (p.bind q)
  | .act f next, q => .act f fun s => (next s).bind q

instance : Monad (Prog L σ) where
  pure := .done
  bind := bind

/-- The result and the shared state of `f`, in one step. -/
def call (f : σ → α × σ) : Prog L σ α := .act (fun s => (f s).2) fun s => .done (f s).1

def get : Prog L σ σ := .act id .done

def modify (f : σ → σ) : Prog L σ Unit := .act f fun _ => .done ()

/-- Runs `p` with the lock `l`. -/
def withLock (l : L) (p : Prog L σ α) : Prog L σ α :=
  .acquire l (p.bind fun a => .release l (.done a))

def forEach (f : β → Prog L σ Unit) : List β → Prog L σ Unit
  | [] => .done ()
  | b :: bs => (f b).bind fun _ => forEach f bs

/-! ### A program alone -/

/-- What the program does when no other thread runs. -/
def exec : Prog L σ α → σ → α × σ
  | .done a, s => (a, s)
  | .acquire _ p, s => p.exec s
  | .release _ p, s => p.exec s
  | .act f next, s => (next s).exec (f s)

variable {p : Prog L σ α} {s : σ} {l : L}

@[simp] theorem exec_pure (a : α) : exec (pure a : Prog L σ α) s = (a, s) := rfl

@[simp] theorem exec_bind (q : α → Prog L σ β) :
    exec (p >>= q) s = (q (p.exec s).1).exec (p.exec s).2 := by
  change (p.bind q).exec s = _
  induction p generalizing s with
  | done a => rfl
  | acquire l p ih => exact ih
  | release l p ih => exact ih
  | act f next ih => exact ih s

theorem exec_bind_of {x : α × σ} (h : p.exec s = x) (q : α → Prog L σ β) :
    exec (p >>= q) s = (q x.1).exec x.2 := by
  rw [exec_bind, h]

@[simp] theorem exec_call (f : σ → α × σ) : (call f : Prog L σ α).exec s = f s := rfl

@[simp] theorem exec_get_bind (q : σ → Prog L σ β) : exec (get >>= q) s = (q s).exec s := rfl

@[simp] theorem exec_modify_bind (f : σ → σ) (q : Unit → Prog L σ β) :
    exec (modify f >>= q) s = (q ()).exec (f s) := rfl

@[simp] theorem exec_modify (f : σ → σ) : (modify f : Prog L σ Unit).exec s = ((), f s) := rfl

@[simp] theorem exec_withLock : (withLock l p).exec s = p.exec s :=
  exec_bind (p := p) fun a => .release l (.done a)

theorem exec_forEach (f : β → Prog L σ Unit) (g : σ → β → σ)
    (hf : ∀ b s, (f b).exec s = ((), g s b)) (bs : List β) :
    (forEach f bs).exec s = ((), bs.foldl g s) := by
  induction bs generalizing s with
  | nil => rfl
  | cons b bs ih =>
    have hbind := exec_bind (p := f b) (s := s) fun _ => forEach f bs
    refine hbind.trans ?_
    rw [hf]
    exact ih

/-! ### The locks that a program holds -/

/-- With the locks `held`, the newest first, `p` takes every lock where `A` allows it, gives them back
in the opposite order, and ends with `stop`. -/
def Leads (A : List L → L → Prop) (stop : List L) : List L → Prog L σ α → Prop
  | held, .done _ => held = stop
  | held, .acquire l p => A held l ∧ Leads A stop (l :: held) p
  | held, .release l p => ∃ rest, held = l :: rest ∧ Leads A stop rest p
  | held, .act _ next => ∀ s, Leads A stop held (next s)

/-- `p` gives back all locks that it takes. -/
def Keeps (A : List L → L → Prop) (held : List L) (p : Prog L σ α) : Prop := p.Leads A held held

variable {A : List L → L → Prop} {held stop : List L}

theorem Leads.bind {stop' : List L} {q : α → Prog L σ β} (hp : p.Leads A stop held)
    (hq : ∀ a, (q a).Leads A stop' stop) : (p >>= q).Leads A stop' held := by
  change (p.bind q).Leads A stop' held
  induction p generalizing held with
  | done a =>
    cases hp
    exact hq a
  | acquire l p ih => exact ⟨hp.1, ih hp.2⟩
  | release l p ih =>
    obtain ⟨rest, rfl, hp⟩ := hp
    exact ⟨rest, rfl, ih hp⟩
  | act f next ih =>
    intro s
    exact ih s (hp s)

theorem keeps_pure (a : α) : (pure a : Prog L σ α).Keeps A held := rfl

theorem Keeps.bind {q : α → Prog L σ β} (hp : p.Keeps A held) (hq : ∀ a, (q a).Keeps A held) :
    (p >>= q).Keeps A held :=
  Leads.bind hp hq

theorem keeps_call (f : σ → α × σ) : (call f : Prog L σ α).Keeps A held := fun _ => rfl

theorem keeps_get : (get : Prog L σ σ).Keeps A held := fun _ => rfl

theorem keeps_modify (f : σ → σ) : (modify f : Prog L σ Unit).Keeps A held := fun _ => rfl

theorem keeps_withLock (hA : A held l) (hp : p.Keeps A (l :: held)) : (withLock l p).Keeps A held := by
  refine ⟨hA, ?_⟩
  apply Leads.bind hp
  intro a
  exact ⟨held, rfl, rfl⟩

theorem keeps_forEach {f : β → Prog L σ Unit} (hf : ∀ b, (f b).Keeps A held) (bs : List β) :
    (forEach f bs).Keeps A held := by
  induction bs with
  | nil => rfl
  | cons b bs ih => exact Leads.bind (hf b) fun _ => ih

/-- The lock that the program takes next. -/
def wanted : Prog L σ α → Option L
  | .acquire l _ => some l
  | _ => none

theorem Leads.allowed (hp : p.Leads A stop held) (hl : p.wanted = some l) : A held l := by
  cases p with
  | acquire l' p =>
    cases hl
    exact hp.1
  | _ => cases hl

def isDone : Prog L σ α → Bool
  | .done _ => true
  | _ => false

end Prog

/-! ## Threads -/

/-- The threads, what each of them still has to run, and the locks that it holds, the newest first. -/
structure Threads (L σ : Type) where
  shared : σ
  prog : Nat → Prog L σ Unit := fun _ => .done ()
  held : Nat → List L := fun _ => []
  owner : L → Option Nat := fun _ => none

namespace Threads
variable {L σ : Type}

/-- The thread `t` is free, and runs `p` from now on. -/
def start (s : Threads L σ) (t : Nat) (p : Prog L σ Unit) : Threads L σ :=
  { s with prog := Function.update s.prog t p }

/-- The thread `t` waits for a lock that `t'` holds. -/
def Waits (recursive : L → Bool) (s : Threads L σ) (t t' : Nat) : Prop :=
  ∃ l, (s.prog t).wanted = some l ∧ s.owner l = some t' ∧ (t' = t → recursive l = false)

def Deadlocked (recursive : L → Bool) (s : Threads L σ) (S : Set Nat) : Prop :=
  S.Nonempty ∧ ∀ t ∈ S, ∃ t' ∈ S, s.Waits recursive t t'

def DeadlockFree (recursive : L → Bool) (s : Threads L σ) : Prop := ∀ S, ¬s.Deadlocked recursive S

/-! ### Discipline -/

/-- Locks that have been taken one after the other, each where `A` allows it. -/
inductive Stack (A : List L → L → Prop) : List L → Prop
  | nil : Stack A []
  | cons {l held} : A held l → Stack A held → Stack A (l :: held)

/-- Every thread holds the locks it owns, has taken them as `A` allows it, and will give them back. -/
structure Disciplined (A : List L → L → Prop) (s : Threads L σ) : Prop where
  owner : ∀ l t, s.owner l = some t ↔ l ∈ s.held t
  leads : ∀ t, (s.prog t).Leads A [] (s.held t)
  stack : ∀ t, Stack A (s.held t)

variable {A : List L → L → Prop} {recursive : L → Bool} {s : Threads L σ} {t : Nat}

/-- A lock has one holder. -/
theorem Disciplined.holder (h : s.Disciplined A) {l : L} {t' : Nat} (ht : l ∈ s.held t)
    (ht' : l ∈ s.held t') : t = t' :=
  Option.some.inj (((h.owner l t).mpr ht).symm.trans ((h.owner l t').mpr ht'))

theorem start_prog_ne {u : Nat} {p : Prog L σ Unit} (hu : u ≠ t) : (s.start t p).prog u = s.prog u :=
  Function.update_of_ne hu ..

theorem Disciplined.held_of_isDone (h : s.Disciplined A) (hdone : (s.prog t).isDone = true) :
    s.held t = [] := by
  have hleads := h.leads t
  cases hprog : s.prog t with
  | done a =>
    rw [hprog] at hleads
    exact hleads
  | _ =>
    rw [hprog] at hdone
    cases hdone

theorem Disciplined.start (h : s.Disciplined A) {p : Prog L σ Unit} (hdone : (s.prog t).isDone = true)
    (hp : p.Keeps A []) : (s.start t p).Disciplined A where
  owner := h.owner
  stack := h.stack
  leads u := by
    by_cases hu : u = t
    · subst hu
      simp only [Threads.start, Function.update_self]
      rw [h.held_of_isDone hdone]
      exact hp
    · simp only [Threads.start, Function.update_of_ne hu]
      exact h.leads u

/-! ### Steps -/

/-- The thread `t` can take its next step. `recursive` tells the locks that a thread may take again. -/
def CanAdvance (recursive : L → Bool) (s : Threads L σ) (t : Nat) : Prop :=
  match s.prog t with
  | .done _ => False
  | .acquire l _ => s.owner l = none ∨ (recursive l = true ∧ s.owner l = some t)
  | _ => True

instance (recursive : L → Bool) (s : Threads L σ) (t : Nat) : Decidable (s.CanAdvance recursive t) := by
  unfold CanAdvance
  split <;> infer_instance

variable [DecidableEq L]

/-- What the thread `t` has to run after its next step, and the locks that it then holds. -/
def next (s : Threads L σ) (t : Nat) : Prog L σ Unit × List L :=
  match s.prog t with
  | .done a => (.done a, s.held t)
  | .acquire l p => (p, l :: s.held t)
  | .release l p => (p, (s.held t).erase l)
  | .act _ next => (next s.shared, s.held t)

/-- The next step of the thread `t`. -/
def advance (s : Threads L σ) (t : Nat) : Threads L σ where
  shared := match s.prog t with
    | .act f _ => f s.shared
    | _ => s.shared
  prog := Function.update s.prog t (s.next t).1
  held := Function.update s.held t (s.next t).2
  owner := match s.prog t with
    | .acquire l _ => Function.update s.owner l (some t)
    | .release l _ =>
      Function.update s.owner l (if l ∈ (s.held t).erase l then some t else none)
    | _ => s.owner

theorem advance_prog_ne {u : Nat} (hu : u ≠ t) : (s.advance t).prog u = s.prog u :=
  Function.update_of_ne hu ..

theorem advance_held_ne {u : Nat} (hu : u ≠ t) : (s.advance t).held u = s.held u :=
  Function.update_of_ne hu ..

@[simp] theorem advance_prog_self : (s.advance t).prog t = (s.next t).1 := Function.update_self ..

@[simp] theorem advance_held_self : (s.advance t).held t = (s.next t).2 := Function.update_self ..

theorem Disciplined.next (h : s.Disciplined A) (ht : s.CanAdvance recursive t) :
    (s.next t).1.Leads A [] (s.next t).2 ∧ Stack A (s.next t).2 := by
  have hleads := h.leads t
  have hstack := h.stack t
  unfold CanAdvance at ht
  unfold Threads.next
  cases hprog : s.prog t with
  | done a =>
    rw [hprog] at ht
    exact ht.elim
  | acquire l p =>
    rw [hprog] at hleads
    exact ⟨hleads.2, .cons hleads.1 hstack⟩
  | release l p =>
    rw [hprog] at hleads
    obtain ⟨rest, hrest, hleads⟩ := hleads
    rw [hrest] at hstack ⊢
    cases hstack with
    | cons _ hstack =>
      dsimp only
      rw [List.erase_cons_head]
      exact ⟨hleads, hstack⟩
  | act f next =>
    rw [hprog] at hleads
    exact ⟨hleads s.shared, hstack⟩

theorem next_acquire {l : L} {p : Prog L σ Unit} (h : s.prog t = .acquire l p) :
    s.next t = (p, l :: s.held t) := by rw [Threads.next, h]

theorem next_release {l : L} {p : Prog L σ Unit} (h : s.prog t = .release l p) :
    s.next t = (p, (s.held t).erase l) := by rw [Threads.next, h]

theorem next_act {f : σ → σ} {next : σ → Prog L σ Unit} (h : s.prog t = .act f next) :
    s.next t = (next s.shared, s.held t) := by rw [Threads.next, h]

/-- Only the lock that is taken or given back gets another owner. -/
theorem Disciplined.owner_advance (h : s.Disciplined A) (ht : s.CanAdvance recursive t) (l : L)
    (u : Nat) : (s.advance t).owner l = some u ↔ l ∈ (s.advance t).held u := by
  unfold CanAdvance at ht
  cases hprog : s.prog t with
  | done a =>
    rw [hprog] at ht
    exact ht.elim
  | act f next =>
    have howner : (s.advance t).owner l = s.owner l := by simp only [Threads.advance, hprog]
    have hheld : (s.advance t).held u = s.held u := by
      by_cases hu : u = t
      · rw [hu, advance_held_self, next_act hprog]
      · exact advance_held_ne hu
    rw [howner, hheld]
    exact h.owner l u
  | acquire l' p =>
    rw [hprog] at ht
    have howner : (s.advance t).owner l = Function.update s.owner l' (some t) l := by
      simp only [Threads.advance, hprog]
    rw [howner]
    by_cases hu : u = t
    · rw [hu, advance_held_self, next_acquire hprog, List.mem_cons]
      by_cases hl : l = l'
      · rw [hl, Function.update_self]
        exact iff_of_true rfl (.inl rfl)
      · rw [Function.update_of_ne hl, or_iff_right hl]
        exact h.owner l t
    · rw [advance_held_ne hu]
      by_cases hl : l = l'
      · rw [hl, Function.update_self, ← h.owner l' u]
        refine iff_of_false ?_ ?_
        · intro heq
          exact hu (Option.some.inj heq).symm
        · intro heq
          rcases ht with hnone | ⟨-, hsome⟩
          · cases hnone.symm.trans heq
          · exact hu (Option.some.inj (heq.symm.trans hsome))
      · rw [Function.update_of_ne hl]
        exact h.owner l u
  | release l' p =>
    have howner : (s.advance t).owner l =
        Function.update s.owner l' (if l' ∈ (s.held t).erase l' then some t else none) l := by
      simp only [Threads.advance, hprog]
    have hmem : l' ∈ s.held t := by
      have hleads := h.leads t
      rw [hprog] at hleads
      obtain ⟨rest, hrest, -⟩ := hleads
      rw [hrest]
      exact List.mem_cons_self
    rw [howner]
    by_cases hu : u = t
    · rw [hu, advance_held_self, next_release hprog]
      by_cases hl : l = l'
      · rw [hl, Function.update_self]
        split
        case isTrue hagain => exact iff_of_true rfl hagain
        case isFalse hlast => exact iff_of_false nofun hlast
      · rw [Function.update_of_ne hl, List.mem_erase_of_ne hl]
        exact h.owner l t
    · rw [advance_held_ne hu]
      by_cases hl : l = l'
      · rw [hl, Function.update_self]
        have hnot : l' ∉ s.held u := fun hmem' => hu (h.holder hmem' hmem)
        refine iff_of_false ?_ hnot
        split
        case isTrue => exact fun heq => hu (Option.some.inj heq).symm
        case isFalse => nofun
      · rw [Function.update_of_ne hl]
        exact h.owner l u

theorem Disciplined.advance (h : s.Disciplined A) (ht : s.CanAdvance recursive t) :
    (s.advance t).Disciplined A := by
  obtain ⟨hleads, hstack⟩ := h.next ht
  refine ⟨h.owner_advance ht, ?_, ?_⟩
  · intro u
    by_cases hu : u = t
    · rw [hu, advance_prog_self, advance_held_self]
      exact hleads
    · rw [advance_prog_ne hu, advance_held_ne hu]
      exact h.leads u
  · intro u
    by_cases hu : u = t
    · rw [hu, advance_held_self]
      exact hstack
    · rw [advance_held_ne hu]
      exact h.stack u

end Threads
end ExtDevMgr
