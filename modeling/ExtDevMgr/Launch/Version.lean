import Mathlib.Data.List.Lex
import ExtDevMgr.Base.Numerals
import ExtDevMgr.Base.Text
import ExtDevMgr.Json.CJson

/-!
# The version of the launch configuration

The configuration is read from the preset or from the cloud path, whichever has the higher version.
`CompareVersion` looks for the first segments that are spelled differently, so two versions are
compared as numbers unless these denote the same one (`versionChoice_iff`).
-/

namespace ExtDevMgr.Launch
open Json Numerals Text

abbrev versionLen : Nat := 4
abbrev maxVersionFileLen : Nat := 1024 * 5

namespace AppLaunchConfig

def isNumber (str : Text) : Bool := !str.isEmpty && str.all (isDigit 10)

def splitString (str : Text) (pattern : Char) : List Text := lines pattern str

/-- `none` is a file that is not there or cannot be opened. -/
def getVersionNums (file : Option Text) : List Text :=
  match file with
  | none => []
  | some content =>
    if content.length = 0 ∨ content.length > maxVersionFileLen then
      []
    else
      let line := content.takeWhile (· ≠ '\n')
      if line.isEmpty then
        []
      else
        match splitString line '=' with
        | [_, value] => if value.isEmpty then [] else splitString (trim isSpace value) '.'
        | _ => []

/-- The loop of `CompareVersion`. -/
def compareSegments (lib : CLib) : List Text → List Text → Bool
  | localSegment :: localVersion, cloudSegment :: cloudVersion =>
    if localSegment ≠ cloudSegment then
      if !isNumber localSegment || !isNumber cloudSegment then
        false
      else
        let (localValue, errno) := lib.strtol localSegment 10
        if errno = some .erange ∨ localValue > 2 ^ 31 - 1 ∨ localValue < 0 then
          false
        else
          let (cloudValue, errno) := lib.strtol cloudSegment 10
          if errno = some .erange ∨ cloudValue > 2 ^ 31 - 1 ∨ cloudValue < 0 then
            false
          else
            decide (localValue < cloudValue)
    else
      compareSegments lib localVersion cloudVersion
  | _, _ => true

def compareVersion (lib : CLib) (localVersion cloudVersion : List Text) : Bool :=
  if localVersion.length ≠ versionLen ∨ cloudVersion.length ≠ versionLen then
    false
  else
    compareSegments lib localVersion cloudVersion

/-- `PRESET_CONFIG_DATA_PATH` and `CONFIG_DATA_PATH`. -/
inductive ConfigPath
  | preset
  | cloud
deriving DecidableEq

def getHigherVersionPath (lib : CLib) (localVersionFile cloudVersionFile : Option Text) :
    ConfigPath :=
  let localVersionNums := getVersionNums localVersionFile
  let cloudVersionNums := getVersionNums cloudVersionFile
  let localValid := localVersionNums.length = versionLen
  let cloudValid := cloudVersionNums.length = versionLen
  if ¬ localValid ∧ cloudValid then .cloud
  else if localValid ∧ ¬ cloudValid then .preset
  else if ¬ localValid ∧ ¬ cloudValid then .cloud
  else if compareVersion lib localVersionNums cloudVersionNums then .cloud
  else .preset

end AppLaunchConfig

/-! ## Versions as numbers -/

/-- Four decimal numerals of at most `INT32_MAX`. -/
structure IsVersion (segments : List Text) : Prop where
  length : segments.length = versionLen
  ne_nil : ∀ segment ∈ segments, segment ≠ []
  digits : ∀ segment ∈ segments, ∀ c ∈ segment, isDigit 10 c
  le : ∀ segment ∈ segments, numeralValue 10 segment ≤ 2 ^ 31 - 1

def versionValues (segments : List Text) : List Nat := segments.map (numeralValue 10)

/-- The numbers of `as` are lexicographically below those of `bs`. -/
def Lower (as bs : List Text) : Prop := List.Lex (· < ·) (versionValues as) (versionValues bs)

def AtMost (as bs : List Text) : Prop := versionValues as = versionValues bs ∨ Lower as bs

/-- The first segments that are spelled differently denote the same number. -/
def Respelled : List Text → List Text → Prop
  | a :: as, b :: bs => if a = b then Respelled as bs else numeralValue 10 a = numeralValue 10 b
  | _, _ => False

instance decidableRespelled : (as bs : List Text) → Decidable (Respelled as bs)
  | a :: as, b :: bs =>
    have := decidableRespelled as bs
    inferInstanceAs (Decidable
      (if a = b then Respelled as bs else numeralValue 10 a = numeralValue 10 b))
  | [], _ => .isFalse id
  | _ :: _, [] => .isFalse id

theorem respelled_comm (as bs : List Text) : Respelled as bs ↔ Respelled bs as := by
  induction as generalizing bs with
  | nil => cases bs <;> rfl
  | cons a as ih =>
    cases bs with
    | nil => rfl
    | cons b bs =>
      rw [Respelled, Respelled]
      by_cases heq : a = b
      · rw [if_pos heq, if_pos heq.symm]
        exact ih bs
      · rw [if_neg heq, if_neg (Ne.symm heq)]
        exact eq_comm

theorem atMost_cons_iff (a b : Text) (as bs : List Text) : AtMost (a :: as) (b :: bs) ↔
    numeralValue 10 a < numeralValue 10 b ∨
      numeralValue 10 a = numeralValue 10 b ∧ AtMost as bs := by
  rw [AtMost, AtMost, Lower, Lower, versionValues, versionValues, List.map_cons, List.map_cons,
    List.cons_lex_cons_iff, List.cons_eq_cons]
  exact ⟨fun h => by tauto, fun h => by tauto⟩

theorem atMost_iff_not_lower (as bs : List Text) : AtMost as bs ↔ ¬ Lower bs as := by
  have hasymm : ∀ {as bs}, Lower as bs → ¬ Lower bs as := List.lex_asymm Nat.lt_asymm
  constructor
  · rintro (heq | hlower) hlower'
    · have hself := hlower'
      rw [Lower, heq] at hself
      exact List.lex_irrefl Nat.lt_irrefl _ hself
    · exact hasymm hlower hlower'
  · intro hnot
    by_cases hlower : Lower as bs
    · exact .inr hlower
    · exact .inl (Std.Trichotomous.trichotomous _ _ hlower hnot)

namespace AppLaunchConfig

instance (segments : List Text) : Decidable (IsVersion segments) :=
  decidable_of_iff (segments.length = versionLen ∧ segments.all fun segment =>
      isNumber segment && decide (numeralValue 10 segment ≤ 2 ^ 31 - 1)) <| by
    simp only [isNumber, List.all_eq_true, Bool.and_eq_true, decide_eq_true_eq,
      Bool.not_eq_true', List.isEmpty_eq_false_iff]
    exact ⟨fun h => ⟨h.1, fun s hs => (h.2 s hs).1.1, fun s hs => (h.2 s hs).1.2,
      fun s hs => (h.2 s hs).2⟩, fun h => ⟨h.length, fun s hs =>
        ⟨⟨h.ne_nil s hs, h.digits s hs⟩, h.le s hs⟩⟩⟩

theorem isNumber_of_digits {segment : Text} (hne : segment ≠ [])
    (h : ∀ c ∈ segment, isDigit 10 c) : isNumber segment = true := by
  rw [isNumber, List.all_eq_true.mpr h, List.isEmpty_eq_false_iff.mpr hne]
  rfl

/-- A value is accepted. -/
theorem fits_int32 {n : Nat} (h : n ≤ 2 ^ 31 - 1) :
    ¬ ((none : Option Errno) = some .erange ∨ (n : Int) > 2 ^ 31 - 1 ∨ (n : Int) < 0) := by
  rintro (hnone | hrange)
  · cases hnone
  · omega

/-- The loop finds the lower version, except for a respelling. -/
theorem compareSegments_iff (lib : CLib) {as bs : List Text} (hlen : as.length = bs.length)
    (hne : ∀ segment ∈ as ++ bs, segment ≠ [])
    (hdigits : ∀ segment ∈ as ++ bs, ∀ c ∈ segment, isDigit 10 c)
    (hle : ∀ segment ∈ as ++ bs, numeralValue 10 segment ≤ 2 ^ 31 - 1) :
    compareSegments lib as bs = true ↔ AtMost as bs ∧ ¬ Respelled as bs := by
  induction as generalizing bs with
  | nil =>
    cases bs with
    | nil => exact iff_of_true rfl ⟨.inl rfl, id⟩
    | cons b bs => cases hlen
  | cons a as ih =>
    cases bs with
    | nil => cases hlen
    | cons b bs =>
      have hrest : ∀ segment ∈ as ++ bs, segment ∈ (a :: as) ++ (b :: bs) := by
        intro segment hsegment
        rcases List.mem_append.mp hsegment with hmem | hmem
        · exact List.mem_append_left _ (List.mem_cons_of_mem _ hmem)
        · exact List.mem_append_right _ (List.mem_cons_of_mem _ hmem)
      have ha : a ∈ (a :: as) ++ (b :: bs) := List.mem_append_left _ List.mem_cons_self
      have hb : b ∈ (a :: as) ++ (b :: bs) := List.mem_append_right _ List.mem_cons_self
      rw [compareSegments, Respelled, atMost_cons_iff]
      by_cases heq : a = b
      · rw [if_neg (not_not_intro heq), if_pos heq, heq,
          ih (Nat.succ.inj hlen) (fun segment hmem => hne segment (hrest segment hmem))
            (fun segment hmem => hdigits segment (hrest segment hmem))
            fun segment hmem => hle segment (hrest segment hmem),
          or_iff_right (Nat.lt_irrefl _), and_iff_right rfl]
      · have hla := hle a ha
        have hlb := hle b hb
        rw [if_pos heq, if_neg heq, isNumber_of_digits (hne a ha) (hdigits a ha),
          isNumber_of_digits (hne b hb) (hdigits b hb), if_neg (by decide),
          lib.strtol_digits (hne a ha) (hdigits a ha) hla,
          lib.strtol_digits (hne b hb) (hdigits b hb) hlb]
        dsimp only
        rw [if_neg (fits_int32 hla), if_neg (fits_int32 hlb), decide_eq_true_eq]
        constructor
        · intro hlt
          exact ⟨.inl (Int.ofNat_lt.mp hlt), Nat.ne_of_lt (Int.ofNat_lt.mp hlt)⟩
        · rintro ⟨hlt | ⟨hsame, -⟩, hne⟩
          · exact Int.ofNat_lt.mpr hlt
          · exact absurd hsame hne

theorem compareVersion_iff (lib : CLib) {as bs : List Text} (ha : IsVersion as)
    (hb : IsVersion bs) : compareVersion lib as bs = true ↔ AtMost as bs ∧ ¬ Respelled as bs := by
  rw [compareVersion, if_neg (by rw [ha.length, hb.length]; decide)]
  apply compareSegments_iff
  · exact ha.length.trans hb.length.symm
  · exact List.forall_mem_append.mpr ⟨ha.ne_nil, hb.ne_nil⟩
  · exact List.forall_mem_append.mpr ⟨ha.digits, hb.digits⟩
  · exact List.forall_mem_append.mpr ⟨ha.le, hb.le⟩

theorem getHigherVersionPath_eq (lib : CLib) {presetFile cloudFile : Option Text}
    (hpreset : (getVersionNums presetFile).length = versionLen)
    (hcloud : (getVersionNums cloudFile).length = versionLen) :
    getHigherVersionPath lib presetFile cloudFile =
      if compareVersion lib (getVersionNums presetFile) (getVersionNums cloudFile) then .cloud
      else .preset := by
  rw [getHigherVersionPath, if_neg fun h => h.1 hpreset, if_neg fun h => h.2 hcloud, if_neg fun h => h.1 hpreset]

/-- The path whose file does not have the lower version is chosen. -/
def NotLower (lib : CLib) (presetFile cloudFile : Option Text) : Prop :=
  match getHigherVersionPath lib presetFile cloudFile with
  | .preset => AtMost (getVersionNums cloudFile) (getVersionNums presetFile)
  | .cloud => AtMost (getVersionNums presetFile) (getVersionNums cloudFile)

theorem notLower_iff (lib : CLib) {presetFile cloudFile : Option Text}
    (ha : IsVersion (getVersionNums presetFile)) (hb : IsVersion (getVersionNums cloudFile)) :
    NotLower lib presetFile cloudFile ↔
      ¬ (Lower (getVersionNums presetFile) (getVersionNums cloudFile) ∧
        Respelled (getVersionNums presetFile) (getVersionNums cloudFile)) := by
  have hcompare := compareVersion_iff lib ha hb
  have hatMost := atMost_iff_not_lower (getVersionNums cloudFile) (getVersionNums presetFile)
  rw [NotLower, getHigherVersionPath_eq lib ha.length hb.length]
  by_cases htrue : compareVersion lib (getVersionNums presetFile) (getVersionNums cloudFile) = true
  · rw [if_pos htrue]
    obtain ⟨hle, hspelled⟩ := hcompare.mp htrue
    exact iff_of_true hle fun h => hspelled h.2
  · rw [if_neg htrue]
    rw [hcompare] at htrue
    refine hatMost.trans ?_
    constructor
    · exact fun hnot h => hnot h.1
    · intro hnot hlower
      exact htrue ⟨.inr hlower, fun hspelled => hnot ⟨hlower, hspelled⟩⟩

/-- The choice follows the numbers exactly unless the first segments that are spelled differently
denote the same one. -/
theorem versionChoice_iff (lib : CLib) {as bs : List Text} (ha : IsVersion as)
    (hb : IsVersion bs) :
    ((compareVersion lib as bs = true ↔ AtMost as bs) ↔ ¬ (AtMost as bs ∧ Respelled as bs)) ∧
    (compareVersion lib as bs = true ∨ compareVersion lib bs as = true ↔ ¬ Respelled as bs) ∧
    ∀ presetFile cloudFile, getVersionNums presetFile = as → getVersionNums cloudFile = bs →
      (NotLower lib presetFile cloudFile ↔ ¬ (Lower as bs ∧ Respelled as bs)) := by
  have hcompare := compareVersion_iff lib ha hb
  have hconverse := compareVersion_iff lib hb ha
  have htotal : AtMost as bs ∨ AtMost bs as := by
    rw [atMost_iff_not_lower bs as]
    by_cases hlower : Lower as bs
    · exact .inl (.inr hlower)
    · exact .inr hlower
  refine ⟨?_, ?_, ?_⟩
  · rw [hcompare, and_iff_left_iff_imp, not_and]
  · rw [hcompare, hconverse, respelled_comm bs as]
    tauto
  · rintro presetFile cloudFile rfl rfl
    exact notLower_iff lib ha hb

/-- A 64-bit library that leaves `errno` alone where there is no number. -/
def lib64 : CLib := ⟨64, by decide, false⟩

/-- `1.2.3.4` is not above `1.10.0.0`. -/
theorem versionChoice_numeric : compareVersion lib64
    ["1".toList, "2".toList, "3".toList, "4".toList]
    ["1".toList, "10".toList, "0".toList, "0".toList] = true := by
  apply ((versionChoice_iff lib64 (by decide) (by decide)).1.mpr ?_).mpr
  · exact .inr (.cons (.rel (by decide)))
  · exact fun h => absurd h.2 (by decide)

/-- `01.0.0.0` and `1.0.0.0` are each above the other, and the file with `01.0.0.0` is taken before the
one with `1.0.0.1`. -/
theorem versionChoice_respelled :
    (¬ ∀ as bs, IsVersion as → IsVersion bs →
      (compareVersion lib64 as bs = true ↔ AtMost as bs)) ∧
    (¬ ∀ as bs, IsVersion as → IsVersion bs →
      compareVersion lib64 as bs = true ∨ compareVersion lib64 bs as = true) ∧
    ¬ ∀ presetFile cloudFile, IsVersion (getVersionNums presetFile) →
      IsVersion (getVersionNums cloudFile) → NotLower lib64 presetFile cloudFile := by
  have hzeros : IsVersion ["01".toList, "0".toList, "0".toList, "0".toList] := by decide
  have hone : IsVersion ["1".toList, "0".toList, "0".toList, "0".toList] := by decide
  refine ⟨fun hall => ?_, fun hall => ?_, fun hall => ?_⟩
  · have hcompare := (hall _ _ hzeros hone).mpr (.inl (by decide))
    exact absurd hcompare (by decide)
  · rcases hall _ _ hzeros hone with hcompare | hcompare
    · exact absurd hcompare (by decide)
    · exact absurd hcompare (by decide)
  · have hnot := hall (some "version=01.0.0.0".toList) (some "version=1.0.0.1".toList) (by decide)
      (by decide)
    rw [NotLower, show getHigherVersionPath lib64 (some "version=01.0.0.0".toList)
      (some "version=1.0.0.1".toList) = .preset by decide] at hnot
    apply (atMost_iff_not_lower _ _).mp hnot
    exact .cons (.cons (.cons (.rel (by decide))))

end AppLaunchConfig

end ExtDevMgr.Launch
