import Mathlib.Data.List.Infix

/-!
# Lexical normalisation of absolute paths

The components of a path stand between slashes. Normalising drops empty components and `.`, and lets
`..` drop the component before it; at the root there is none to drop.
-/

namespace ExtDevMgr.Paths

abbrev Component := List Char

def parent : Component := ['.', '.']

def components (path : List Char) : List Component := path.splitOn '/'

/-- The component is the name of a directory or of a file. -/
def isName (c : Component) : Bool := c ≠ [] ∧ c ≠ ['.']

/-- The last component of the result stands first. -/
def push (result : List Component) (c : Component) : List Component :=
  if c = parent then result.tail else if isName c then c :: result else result

def normalise (path : List Char) : List Component := ((components path).foldl push []).reverse

/-- No component goes up. -/
def NoParent (path : List Char) : Prop := parent ∉ components path

instance (path : List Char) : Decidable (NoParent path) :=
  inferInstanceAs (Decidable (¬ _ ∈ _))

theorem components_append (front back : List Char) :
    components (front ++ '/' :: back) = components front ++ components back :=
  List.splitOn_append_cons_self front back

theorem infix_intercalate {sep l : List Char} {ls : List (List Char)} (h : l ∈ ls) :
    l <:+: sep.intercalate ls := by
  induction ls with
  | nil => cases h
  | cons l' ls ih =>
    cases ls with
    | nil =>
      rw [List.mem_singleton.mp h, List.intercalate_singleton]
    | cons l'' ls =>
      rw [List.intercalate_cons_cons]
      rcases List.mem_cons.mp h with rfl | hmem
      · exact ((List.prefix_append l sep).trans (List.prefix_append _ _)).isInfix
      · exact (ih hmem).trans (List.suffix_append _ _).isInfix

/-- A component is a part of the path. -/
theorem infix_of_mem_components {path : List Char} {c : Component} (h : c ∈ components path) :
    c <:+: path := by
  have hjoin : c <:+: ['/'].intercalate (components path) := infix_intercalate h
  rwa [components, List.intercalate_splitOn] at hjoin

theorem noParent_of_not_infix {path : List Char} (h : ¬ parent <:+: path) : NoParent path :=
  fun hmem => h (infix_of_mem_components hmem)

theorem NoParent.append {front back : List Char} (hfront : NoParent front) (hback : NoParent back) :
    NoParent (front ++ '/' :: back) := by
  rw [NoParent, components_append, List.mem_append, not_or]
  exact ⟨hfront, hback⟩

/-- A whole component `..` would be one of the components. -/
theorem NoParent.not_upward {path : List Char} (h : NoParent path) :
    ¬ '/' :: parent ++ ['/'] <:+: path := by
  rintro ⟨front, back, rfl⟩
  apply h
  have hsplit : front ++ ('/' :: parent ++ ['/']) ++ back = front ++ '/' :: (parent ++ '/' :: back) := by
    simp
  have hparent : components parent = [parent] := rfl
  rw [hsplit, components_append, components_append, hparent]
  exact List.mem_append_right _ List.mem_cons_self

theorem foldl_push {cs : List Component} (h : parent ∉ cs) (result : List Component) :
    cs.foldl push result = (cs.filter isName).reverse ++ result := by
  induction cs generalizing result with
  | nil => rfl
  | cons c cs ih =>
    rw [List.mem_cons, not_or] at h
    rw [List.foldl_cons, ih h.2, push, if_neg (Ne.symm h.1), List.filter_cons]
    split
    · rw [List.reverse_cons, List.append_assoc]
      rfl
    · rfl

theorem NoParent.normalise_eq {path : List Char} (h : NoParent path) :
    normalise path = (components path).filter isName := by
  rw [normalise, foldl_push h, List.append_nil, List.reverse_reverse]

/-- A path that does not go up stays below its front. -/
theorem NoParent.normalise_append {front back : List Char} (hfront : NoParent front)
    (hback : NoParent back) :
    normalise (front ++ '/' :: back) = normalise front ++ normalise back := by
  rw [(hfront.append hback).normalise_eq, components_append, List.filter_append,
    hfront.normalise_eq, hback.normalise_eq]

example : normalise "/system//etc/../lib/./a..b".toList =
    ["system".toList, "lib".toList, "a..b".toList] := by decide +kernel

end ExtDevMgr.Paths
