import ExtDevMgr.Notify.Locale

/-!
# The caches of the locale

The language map is read until it has been read once, the strings when the base name of the system
locale has changed. The base name is remembered before the strings are read, so strings that could
not be read then, or that were read without the language map, stay until it changes again: a lookup
gives what the files hold as far as they were read in time (`cache_transparent`).
-/

namespace ExtDevMgr.Notify
open Json Paths

/-- What a notification meets: the base name of the system locale, and the files. -/
structure Moment where
  baseName : Text
  files : Files

namespace NotificationLocale

section
variable (json : CJsonLib)

/-- The first half of `HandleNotification`. -/
def refresh (l : NotificationLocale) (t : Moment) : NotificationLocale :=
  (l.parseLocaleCfg (parseJsonfile json t.files)).updateStringMap (parseJsonfile json t.files)
    t.baseName

def handleNotification (send : FaultInfo → Bool) (t : Moment) (faultInfo : FaultInfo)
    (l : NotificationLocale) : Bool × NotificationLocale :=
  let l := l.refresh json t
  (DeviceNotification.handleNotification ⟨l.getValueByKey, send⟩ faultInfo, l)

/-- The locale after notifications at these moments, the last one first. -/
def after : List Moment → NotificationLocale
  | [] => {}
  | t :: past => (after past).refresh json t

/-! ## Lookups without caches -/

/-- The table of a file at a moment, `none` where it cannot be read or parsed. -/
def readTable (path : Text) (t : Moment) : Option StringTable :=
  if (parseJsonfile json t.files path ∅).1 then some (parseJsonfile json t.files path ∅).2 else none

/-- The table of a file at the last moment at which it could be read. -/
def lastRead (path : Text) (ts : List Moment) : StringTable :=
  (ts.findSome? (readTable json path)).getD ∅

def lastName : List Moment → Text
  | [] => []
  | t :: _ => t.baseName

/-- The path of the strings of the current locale. -/
def currentPath (ts : List Moment) : Text :=
  resourcePath (lastRead json localeConfigPath ts) (lastName ts)

def uncached (ts : List Moment) (key : Text) : Text :=
  ((lastRead json (currentPath json ts) ts).lookup key).getD []

/-- The last lookup is one without caches. -/
def Transparent (ts : List Moment) : Prop :=
  ∀ key, (after json ts).getValueByKey key = uncached json ts key

/-- Only which files can be read and parsed changes, not what they hold. -/
def Stable (content : Text → StringTable) (ts : List Moment) : Prop :=
  ∀ t ∈ ts, ∀ path table, readTable json path t = some table → table = content path

/-! ## What is read in time -/

/-- The moments up to the one at which the current base name came in; none for the empty name at the
begin. -/
def entered : List Moment → List Moment
  | [] => []
  | t :: past => if lastName past = t.baseName then entered past else t :: past

/-- The strings that were read when the base name came in. -/
def enteredTable (ts : List Moment) : Option StringTable :=
  match entered ts with
  | [] => none
  | t :: past => readTable json (currentPath json (t :: past)) t

/-- When the base name came in, the strings could be read and the language map led to the path that it
leads to now; or the strings have not been read up to now at all. -/
def InTime (ts : List Moment) : Prop :=
  if (enteredTable json ts).isSome then
    currentPath json (entered ts) = currentPath json ts
  else
    ts.findSome? (readTable json (currentPath json ts)) = none

instance (ts : List Moment) : Decidable (InTime json ts) := inferInstanceAs (Decidable (ite _ _ _))

/-- A string of a table as `GetValueByKey` returns it. -/
def value (table : StringTable) (key : Text) : Text := (table.lookup key).getD []

/-- No two files hold the same strings, and none holds no string. The path of a file has no zero byte:
one that has is that of another file. -/
structure Telling (content : Text → StringTable) : Prop where
  injective : ∀ path path', '\x00' ∉ path → '\x00' ∉ path' →
    (∀ key, value (content path) key = value (content path') key) → path = path'
  nonempty : ∀ path, '\x00' ∉ path → ∃ key, value (content path) key ≠ []

end

/-! ## What the caches hold -/

section
variable {json : CJsonLib} {ts past : List Moment} {t : Moment} {content : Text → StringTable}

theorem parseJsonfile_congr {files files' : Files} {path path' : Text} {container : StringTable}
    (h : files (cStr path) = files' (cStr path')) :
    parseJsonfile json files path container = parseJsonfile json files' path' container := by
  rw [parseJsonfile, parseJsonfile, h]

theorem parseJsonfile_of_fails {files : Files} {path : Text} {container : StringTable}
    (h : (parseJsonfile json files path container).1 = false) :
    (parseJsonfile json files path container).2 = container := by
  rw [parseJsonfile] at h ⊢
  split
  · rfl
  · rename_i fileStr hfile
    rw [hfile] at h
    dsimp only at h
    split
    · rename_i members hroot
      rw [hroot] at h
      dsimp only at h
      split
      · rename_i stringConf hconf
        rw [hconf] at h
        cases h
      · rfl
    · rfl

/-- A failed read leaves nothing in the container. -/
theorem parseJsonfile_eq (path : Text) (t : Moment) :
    parseJsonfile json t.files path ∅ =
      ((readTable json path t).isSome, (readTable json path t).getD ∅) := by
  cases hret : (parseJsonfile json t.files path ∅).1 with
  | true =>
    have hread : readTable json path t = some (parseJsonfile json t.files path ∅).2 := if_pos hret
    rw [hread]
    exact Prod.ext hret rfl
  | false =>
    have hread : readTable json path t = none := if_neg (Bool.eq_false_iff.mp hret)
    rw [hread]
    exact Prod.ext hret (parseJsonfile_of_fails hret)

theorem lastRead_cons (path : Text) (t : Moment) (past : List Moment) :
    lastRead json path (t :: past) = (readTable json path t).getD (lastRead json path past) := by
  rw [lastRead, List.findSome?_cons]
  cases readTable json path t <;> rfl

/-- The values of the table have no zero byte. -/
def NulFree (table : StringTable) : Prop :=
  ∀ name value, table.lookup name = some value → '\x00' ∉ value

theorem NulFree.insertString {container : StringTable} (h : NulFree container) (conf : CJson) :
    NulFree (insertString container conf) := by
  unfold NotificationLocale.insertString
  split
  · rename_i newName newValue _ _
    split
    · rw [insertNew]
      split
      · exact h
      · intro name value hvalue
        by_cases hname : name = cStr newName
        · subst hname
          rw [AList.lookup_insert] at hvalue
          cases hvalue
          exact nul_notMem_cStr newValue
        · rw [AList.lookup_insert_ne hname] at hvalue
          exact h name value hvalue
    · exact h
  · exact h

theorem NulFree.foldl_insertString {container : StringTable} (h : NulFree container)
    (stringConf : List CJson) : NulFree (stringConf.foldl NotificationLocale.insertString container) := by
  induction stringConf generalizing container with
  | nil => exact h
  | cons conf stringConf ih => exact ih (h.insertString conf)

theorem nulFree_empty : NulFree ∅ := by
  intro name value hvalue
  cases hvalue

/-- What is read from a file are C strings. -/
theorem nulFree_readTable {path : Text} {table : StringTable}
    (h : readTable json path t = some table) : NulFree table := by
  rw [readTable] at h
  split at h
  case isFalse => cases h
  case isTrue =>
    cases h
    rw [parseJsonfile]
    split
    · exact nulFree_empty
    · split
      · split
        · exact nulFree_empty.foldl_insertString _
        · exact nulFree_empty
      · exact nulFree_empty

theorem nulFree_lastRead (path : Text) (ts : List Moment) : NulFree (lastRead json path ts) := by
  rw [lastRead]
  cases hread : ts.findSome? (readTable json path) with
  | none => exact nulFree_empty
  | some table =>
    obtain ⟨u, -, htable⟩ := List.exists_of_findSome?_eq_some hread
    exact nulFree_readTable htable

/-- The path of the strings is one of a file. -/
theorem nul_notMem_currentPath (ts : List Moment) : '\x00' ∉ currentPath json ts := by
  have hroot : '\x00' ∉ systemPeripheralResourcePath := by decide +kernel
  have hfile : '\x00' ∉ elementStringFile := by decide +kernel
  have hbase : '\x00' ∉ defaultLanguageEn := by decide +kernel
  have hlanguage : '\x00' ∉ validLanguage (lastRead json localeConfigPath ts) (lastName ts) := by
    rw [validLanguage]
    split
    · exact hbase
    · cases hvalue : (lastRead json localeConfigPath ts).lookup (lastName ts) with
      | none => exact hbase
      | some language => exact nulFree_lastRead localeConfigPath ts _ _ hvalue
  rw [currentPath, resourcePath, List.mem_append, List.mem_append]
  exact fun h => h.elim (fun h => h.elim hroot hlanguage) hfile

theorem Stable.tail (h : Stable json content (t :: past)) : Stable json content past :=
  fun u hu => h u (List.mem_cons_of_mem _ hu)

theorem Stable.of_suffix {later : List Moment} (h : Stable json content later) (hs : ts <:+ later) :
    Stable json content ts :=
  fun u hu => h u (hs.mem hu)

/-- What has been read is what the file holds. -/
theorem Stable.lastRead_eq (h : Stable json content ts) (path : Text) :
    lastRead json path ts =
      if (ts.findSome? (readTable json path)).isSome then content path else ∅ := by
  rw [lastRead]
  cases hread : ts.findSome? (readTable json path) with
  | none => rfl
  | some table =>
    obtain ⟨u, hu, htable⟩ := List.exists_of_findSome?_eq_some hread
    exact h u hu path table htable

/-- The language map is the one without caches, and it counts as initialised once it has been read. -/
structure HoldsLanguages (json : CJsonLib) (ts : List Moment) (l : NotificationLocale) : Prop where
  languageMap : l.languageMap = lastRead json localeConfigPath ts
  islanguageMapInit : l.islanguageMapInit =
    (ts.findSome? (readTable json localeConfigPath)).isSome

theorem HoldsLanguages.parseLocaleCfg {l : NotificationLocale}
    (h : HoldsLanguages json past l) (hstable : Stable json content (t :: past)) :
    HoldsLanguages json (t :: past) (l.parseLocaleCfg (parseJsonfile json t.files)) := by
  have hpast := hstable.tail.lastRead_eq localeConfigPath
  have hread := hstable t List.mem_cons_self localeConfigPath
  rw [NotificationLocale.parseLocaleCfg, parseJsonfile_eq]
  cases hinit : l.islanguageMapInit with
  | true =>
    have hsome := h.islanguageMapInit.symm.trans hinit
    rw [if_pos hsome] at hpast
    refine ⟨?_, ?_⟩
    · rw [lastRead_cons, if_pos rfl, h.languageMap]
      cases htable : readTable json localeConfigPath t with
      | none => rfl
      | some table => exact hpast.trans (hread table htable).symm
    · rw [if_pos rfl, hinit, List.findSome?_cons]
      cases readTable json localeConfigPath t with
      | none => exact hsome.symm
      | some table => rfl
  | false =>
    have hnone := h.islanguageMapInit.symm.trans hinit
    rw [if_neg (Bool.eq_false_iff.mp hnone)] at hpast
    cases htable : readTable json localeConfigPath t with
    | none =>
      refine ⟨?_, ?_⟩
      · rw [lastRead_cons, htable]
        exact hpast.symm
      · rw [List.findSome?_cons, htable]
        exact hnone.symm
    | some table =>
      refine ⟨?_, ?_⟩
      · rw [lastRead_cons, htable]
        rfl
      · rw [List.findSome?_cons, htable]
        rfl

theorem HoldsLanguages.updateStringMap {parse : Parser} {l : NotificationLocale}
    (h : HoldsLanguages json ts l) (curBaseName : Text) :
    HoldsLanguages json ts (l.updateStringMap parse curBaseName) := by
  rw [updateStringMap_eq]
  split
  · exact h
  · exact ⟨h.languageMap, h.islanguageMapInit⟩

/-- The strings are those that were read when the base name came in. -/
structure Holds (json : CJsonLib) (ts : List Moment) (l : NotificationLocale) : Prop extends
    HoldsLanguages json ts l where
  localeBaseName : l.localeBaseName = lastName ts
  stringMap : l.stringMap = (enteredTable json ts).getD ∅

theorem parseLocaleCfg_localeBaseName (parse : Parser) (l : NotificationLocale) :
    (l.parseLocaleCfg parse).localeBaseName = l.localeBaseName ∧
      (l.parseLocaleCfg parse).stringMap = l.stringMap := by
  rw [NotificationLocale.parseLocaleCfg]
  split
  · exact ⟨rfl, rfl⟩
  · dsimp only
    split
    · exact ⟨rfl, rfl⟩
    · exact ⟨rfl, rfl⟩

theorem enteredTable_of_eq (h : lastName past = t.baseName) :
    enteredTable json (t :: past) = enteredTable json past := by
  rw [enteredTable, entered, if_pos h, enteredTable]

theorem enteredTable_of_ne (h : lastName past ≠ t.baseName) :
    enteredTable json (t :: past) = readTable json (currentPath json (t :: past)) t := by
  rw [enteredTable, entered, if_neg h]

theorem Holds.refresh {l : NotificationLocale} (h : Holds json past l)
    (hstable : Stable json content (t :: past)) : Holds json (t :: past) (l.refresh json t) := by
  have hlanguages := h.toHoldsLanguages.parseLocaleCfg hstable
  obtain ⟨hname, hstrings⟩ := parseLocaleCfg_localeBaseName (parseJsonfile json t.files) l
  refine ⟨hlanguages.updateStringMap t.baseName, ?_, ?_⟩
  · rw [NotificationLocale.refresh, updateStringMap_eq]
    split
    · assumption
    · rfl
  · rw [NotificationLocale.refresh, updateStringMap_eq, hname, h.localeBaseName]
    split
    · rename_i heq
      rw [hstrings, h.stringMap, enteredTable_of_eq heq]
    · rename_i hne
      rw [enteredTable_of_ne hne, parseJsonfile_eq, hlanguages.languageMap]
      rfl

theorem holds_after (h : Stable json content ts) : Holds json ts (after json ts) := by
  induction ts with
  | nil => exact ⟨⟨rfl, rfl⟩, rfl, rfl⟩
  | cons t past ih => exact (ih h.tail).refresh h

theorem getValueByKey_after (h : Stable json content ts) (key : Text) :
    (after json ts).getValueByKey key = value ((enteredTable json ts).getD ∅) key := by
  rw [getValueByKey, (holds_after h).stringMap, value]
  cases ((enteredTable json ts).getD ∅).lookup key <;> rfl

/-! ## Transparency -/

theorem head_entered {f : Moment} {front : List Moment} (h : entered ts = f :: front) :
    f ∈ ts := by
  induction ts with
  | nil => cases h
  | cons t past ih =>
    rw [entered] at h
    split at h
    · exact List.mem_cons_of_mem _ (ih h)
    · cases h
      exact List.mem_cons_self

/-- What was read when the base name came in is what the file holds. -/
theorem Stable.enteredTable_eq (h : Stable json content ts) {table : StringTable}
    (htable : enteredTable json ts = some table) :
    table = content (currentPath json (entered ts)) := by
  rw [enteredTable] at htable
  cases hentered : entered ts with
  | nil =>
    rw [hentered] at htable
    cases htable
  | cons f front =>
    rw [hentered] at htable
    exact h f (head_entered hentered) _ _ htable

theorem isSome_of_enteredTable {table : StringTable} (h : enteredTable json ts = some table) :
    (ts.findSome? (readTable json (currentPath json (entered ts)))).isSome := by
  rw [enteredTable] at h
  cases hentered : entered ts with
  | nil =>
    rw [hentered] at h
    cases h
  | cons f front =>
    rw [hentered] at h
    exact List.findSome?_isSome_iff.mpr ⟨f, head_entered hentered, Option.isSome_of_eq_some h⟩

theorem transparent_iff (h : Stable json content ts) :
    Transparent json ts ↔ ∀ key, value ((enteredTable json ts).getD ∅) key =
      value (lastRead json (currentPath json ts) ts) key := by
  rw [Transparent]
  simp only [getValueByKey_after h]
  rfl

theorem transparent_of_inTime (h : Stable json content ts) (hin : InTime json ts) :
    Transparent json ts := by
  rw [transparent_iff h]
  intro key
  rw [InTime] at hin
  cases htable : enteredTable json ts with
  | none =>
    have hnever : ts.findSome? (readTable json (currentPath json ts)) = none := by
      rw [htable] at hin
      exact hin
    rw [lastRead, hnever]
  | some table =>
    have hpath : currentPath json (entered ts) = currentPath json ts := by
      rw [htable] at hin
      exact hin
    have hread := isSome_of_enteredTable htable
    rw [hpath] at hread
    rw [h.lastRead_eq, if_pos hread, Option.getD_some, h.enteredTable_eq htable, hpath]

/-- Where the strings of no two files are the same, nothing else is transparent. -/
theorem inTime_of_transparent (h : Stable json content ts) (htelling : Telling content)
    (htrans : Transparent json ts) : InTime json ts := by
  rw [transparent_iff h, h.lastRead_eq] at htrans
  obtain ⟨telltale, hvalue⟩ := htelling.nonempty (currentPath json ts) (nul_notMem_currentPath ts)
  have hempty : ∀ key, value (∅ : StringTable) key = [] := fun _ => rfl
  rw [InTime]
  cases htable : enteredTable json ts with
  | none =>
    rw [htable] at htrans
    refine (if_neg Bool.false_ne_true).mpr ?_
    cases hread : ts.findSome? (readTable json (currentPath json ts)) with
    | none => rfl
    | some table =>
      rw [hread] at htrans
      exact absurd (htrans telltale).symm hvalue
  | some table =>
    rw [htable, Option.getD_some, h.enteredTable_eq htable] at htrans
    refine (if_pos rfl).mpr ?_
    cases hread : ts.findSome? (readTable json (currentPath json ts)) with
    | none =>
      rw [hread] at htrans
      obtain ⟨key, hkey⟩ := htelling.nonempty (currentPath json (entered ts))
        (nul_notMem_currentPath (entered ts))
      exact absurd (htrans key) hkey
    | some table' =>
      rw [hread] at htrans
      exact htelling.injective _ _ (nul_notMem_currentPath _) (nul_notMem_currentPath _) htrans

/-- The notification service gets the strings of the files. -/
theorem handleNotification_of_inTime (h : Stable json content (t :: past))
    (hin : InTime json (t :: past)) (send : FaultInfo → Bool) (faultInfo : FaultInfo) :
    ((after json past).handleNotification json send t faultInfo).1 =
      DeviceNotification.handleNotification ⟨uncached json (t :: past), send⟩ faultInfo := by
  have hlookup : ((after json past).refresh json t).getValueByKey = uncached json (t :: past) :=
    funext (transparent_of_inTime h hin)
  rw [handleNotification, hlookup]

/-- In a run whose notifications find their strings read in time each lookup is one without caches, and
in no other run where the strings of the files can be told apart. -/
theorem cache_transparent {run : List Moment} (h : Stable json content run) :
    ((∀ ts, ts <:+ run → InTime json ts) → ∀ ts, ts <:+ run → Transparent json ts) ∧
      (Telling content → ((∀ ts, ts <:+ run → Transparent json ts) ↔
        ∀ ts, ts <:+ run → InTime json ts)) := by
  have hsufficient : (∀ ts, ts <:+ run → InTime json ts) → ∀ ts, ts <:+ run → Transparent json ts :=
    fun hin ts hts => transparent_of_inTime (h.of_suffix hts) (hin ts hts)
  refine ⟨hsufficient, fun htelling => ⟨?_, hsufficient⟩⟩
  intro htrans ts hts
  exact inTime_of_transparent (h.of_suffix hts) htelling (htrans ts hts)

end

/-! ## Strings that become readable late -/

def titleText : Text :=
  "\x7b\"string\":[\x7b\"name\":\"title\",\"value\":\"Error\"\x7d]\x7d".toList

def titleRoot : CJson :=
  .object [("string".toList, .array
    [.object [("name".toList, .string "title".toList), ("value".toList, .string "Error".toList)]])]

theorem nul_notMem_titleText : '\x00' ∉ titleText := by decide +kernel

def titleJson : CJsonLib where
  printUnformatted _ := titleText
  parse text := if text = titleText then some titleRoot else none
  nul_notMem_print _ := nul_notMem_titleText

/-- Every file can be read. -/
def readable : Moment := ⟨"en".toList, fun _ => some titleText⟩

def titles : StringTable := (parseJsonfile titleJson readable.files localeConfigPath ∅).2

/-- Only the language map can be read. -/
def unreadable : Moment :=
  ⟨"en".toList, fun path => if path = localeConfigPath then some titleText else none⟩

theorem parseJsonfile_titles {files : Files} {path : Text} (h : files (cStr path) = some titleText) :
    parseJsonfile titleJson files path ∅ = (true, titles) := by
  have hsame : parseJsonfile titleJson files path ∅ =
      parseJsonfile titleJson readable.files localeConfigPath ∅ := parseJsonfile_congr h
  have hret : (parseJsonfile titleJson readable.files localeConfigPath ∅).1 = true := by
    decide +kernel
  rw [hsame]
  exact Prod.ext hret rfl

theorem stable_of_titleText {ts : List Moment}
    (h : ∀ t ∈ ts, ∀ path fileStr, t.files (cStr path) = some fileStr →
      fileStr = titleText ∧ content path = titles) : Stable titleJson content ts := by
  intro t ht path table htable
  cases hfile : t.files (cStr path) with
  | none =>
    have hfails : parseJsonfile titleJson t.files path ∅ = (false, ∅) := by
      rw [parseJsonfile, hfile]
    rw [readTable, hfails] at htable
    cases htable
  | some fileStr =>
    obtain ⟨rfl, hcontent⟩ := h t ht path fileStr hfile
    rw [readTable, parseJsonfile_titles hfile] at htable
    exact (Option.some.inj htable).symm.trans hcontent.symm

theorem stable_titles {ts : List Moment} (h : ∀ t ∈ ts, t = readable ∨ t = unreadable) :
    Stable titleJson (fun _ => titles) ts := by
  refine stable_of_titleText fun t ht path fileStr hfile => ⟨?_, rfl⟩
  rcases h t ht with rfl | rfl
  · exact (Option.some.inj hfile).symm
  · rw [unreadable] at hfile
    dsimp only at hfile
    split at hfile
    · exact (Option.some.inj hfile).symm
    · cases hfile

/-! ## Files that can be told apart -/

/-- The path of the strings where the language map has not been read. -/
def basePath : Text := systemPeripheralResourcePath ++ defaultLanguageEn ++ elementStringFile

/-- No file can be read. -/
def early : Moment := ⟨"en".toList, fun _ => none⟩

/-- Only the strings can be read. -/
def late : Moment := ⟨"en".toList, fun path => if path = basePath then some titleText else none⟩

def pathKey : Text := "path".toList

/-- Every other file holds its path. -/
def labelled (path : Text) : StringTable :=
  if cStr path = basePath then titles else AList.insert pathKey ('p' :: cStr path) ∅

theorem stable_labelled : Stable titleJson labelled [late, early] := by
  refine stable_of_titleText fun t ht path fileStr hfile => ?_
  simp only [List.mem_cons, List.not_mem_nil, or_false] at ht
  rcases ht with rfl | rfl
  · rw [late] at hfile
    dsimp only at hfile
    split at hfile
    · rename_i hpath
      exact ⟨(Option.some.inj hfile).symm, if_pos hpath⟩
    · cases hfile
  · cases hfile

theorem value_labelled {path : Text} (h : '\x00' ∉ path) :
    value (labelled path) pathKey = if path = basePath then [] else 'p' :: path := by
  rw [labelled, cStr_eq_self h]
  split
  · decide +kernel
  · rw [value, AList.lookup_insert, Option.getD_some]

theorem telling_labelled : Telling labelled := by
  refine ⟨fun path path' hpath hpath' heq => ?_, fun path hpath => ?_⟩
  · have hkey := heq pathKey
    rw [value_labelled hpath, value_labelled hpath'] at hkey
    split at hkey
    · rename_i hbase
      split at hkey
      · rename_i hbase'
        exact hbase.trans hbase'.symm
      · cases hkey
    · split at hkey
      · cases hkey
      · exact (List.cons.inj hkey).2
  · by_cases hbase : path = basePath
    · refine ⟨"title".toList, ?_⟩
      rw [labelled, cStr_eq_self hpath, if_pos hbase]
      decide +kernel
    · refine ⟨pathKey, ?_⟩
      rw [value_labelled hpath, if_neg hbase]
      nofun

/-- The files can be read from the first notification on; the strings only after the base name has come
in. -/
theorem cache_transparent_titles :
    Transparent titleJson [unreadable, readable] ∧
      ¬ ∀ ts, ts <:+ [late, early] → Transparent titleJson ts := by
  have hstable : Stable titleJson (fun _ => titles) [unreadable, readable] :=
    stable_titles (by simp)
  constructor
  · refine (cache_transparent hstable).1 ?_ _ List.suffix_rfl
    intro ts hts
    simp only [List.suffix_cons_iff, List.suffix_nil] at hts
    rcases hts with rfl | rfl | rfl
    · decide +kernel
    · decide +kernel
    · decide +kernel
  · intro htransparent
    have hin := ((cache_transparent stable_labelled).2 telling_labelled).1 htransparent
    have hnot : ¬ InTime titleJson [late, early] := by decide +kernel
    exact hnot (hin _ List.suffix_rfl)

/-- The strings of the locale cannot be read when its name comes in, and are not read afterwards. -/
theorem not_forall_transparent :
    ¬ ∀ (json : CJsonLib) (content : Text → StringTable) (run : List Moment),
      Stable json content run → ∀ ts, ts <:+ run → Transparent json ts := by
  intro h
  have hstable : Stable titleJson (fun _ => titles) [readable, unreadable] :=
    stable_titles (by simp)
  have hkey := h titleJson _ _ hstable _ List.suffix_rfl "title".toList
  have hcached : (after titleJson [readable, unreadable]).getValueByKey "title".toList = [] := by
    decide +kernel
  have huncached : uncached titleJson [readable, unreadable] "title".toList = "Error".toList := by
    decide +kernel
  rw [hcached, huncached] at hkey
  exact absurd hkey (by decide)

end NotificationLocale
end ExtDevMgr.Notify
