import ExtDevMgr.Base.Paths
import ExtDevMgr.Base.Table
import ExtDevMgr.Json.CJson
import ExtDevMgr.Notify.EventConfig

/-!
# The strings of the locale

`NotificationLocale` holds the language of each locale and the strings of the current one, which
`UpdateStringMap` reads when the locale has changed. The language comes from a file, and no language
takes the path of the strings out of the resources (`updateStringMap_confined`).
-/

namespace ExtDevMgr.Notify
open Json Paths

abbrev StringTable := Table Text Text

/-- The contents of the files at a time, `none` where there is no file. -/
abbrev Files := Text → Option Text

def localeConfigPath : Text := "/system/etc/peripheral/resources/locale_path.json".toList
def systemPeripheralResourcePath : Text := "/system/etc/peripheral/resources/".toList
def elementStringFile : Text := "/element/string.json".toList
def defaultLanguageEn : Text := "base".toList

def isPathValid (path : Text) : Bool :=
  if parent <:+: path then false
  else if path.head? = some '/' ∨ path.head? = some '\\' then false
  else !path.any fun c => c ∈ "\\:*?\"<>|".toList

structure NotificationLocale where
  languageMap : StringTable := ∅
  stringMap : StringTable := ∅
  localeBaseName : Text := []
  islanguageMapInit : Bool := false

namespace NotificationLocale

/-! ## Reading a file -/

/-- `std::unordered_map::insert` does not replace. -/
def insertNew (container : StringTable) (name value : Text) : StringTable :=
  if (container.lookup name).isSome then container else container.insert name value

/-- An element of the array without a name or a value is passed over. -/
def insertString (container : StringTable) (conf : CJson) : StringTable :=
  match (conf.getObjectItemCaseSensitive "name".toList).bind CJson.valuestring,
    (conf.getObjectItemCaseSensitive "value".toList).bind CJson.valuestring with
  | some name, some value =>
    if (cStr name).length > 0 ∧ (cStr value).length > 0 then
      insertNew container (cStr name) (cStr value)
    else
      container
  | _, _ => container

def parseJsonfile (json : CJsonLib) (files : Files) (targetPath : Text) (container : StringTable) :
    Bool × StringTable :=
  match files (cStr targetPath) with
  | none => (false, container)
  | some fileStr =>
    match json.parse (cStr fileStr) with
    | some (.object members) =>
      match CJson.getObjectItemCaseSensitive "string".toList (.object members) with
      | some (.array stringConf) => (true, stringConf.foldl insertString container)
      | _ => (false, container)
    | _ => (false, container)

/-! ## The caches -/

/-- What the locale does with a file: `parseJsonfile` of the path and the container. -/
abbrev Parser := Text → StringTable → Bool × StringTable

def parseLocaleCfg (parse : Parser) (l : NotificationLocale) : NotificationLocale :=
  if l.islanguageMapInit then
    l
  else
    let (ret, languageMap) := parse localeConfigPath ∅
    if ret then { l with languageMap, islanguageMapInit := true } else { l with languageMap }

/-- The language of a locale as it stands in the path of its strings. -/
def validLanguage (languageMap : StringTable) (baseName : Text) : Text :=
  let language := (languageMap.lookup baseName).getD defaultLanguageEn
  if !isPathValid language then defaultLanguageEn else language

def resourcePath (languageMap : StringTable) (baseName : Text) : Text :=
  systemPeripheralResourcePath ++ validLanguage languageMap baseName ++ elementStringFile

/-- `curBaseName` is the base name of the system locale. -/
def updateStringMap (parse : Parser) (curBaseName : Text) (l : NotificationLocale) :
    NotificationLocale :=
  if l.localeBaseName = curBaseName then
    l
  else
    let l := { l with localeBaseName := curBaseName, stringMap := ∅ }
    if "/../".toList <:+: resourcePath l.languageMap l.localeBaseName then
      l
    else
      { l with stringMap := (parse (resourcePath l.languageMap l.localeBaseName) l.stringMap).2 }

def getValueByKey (l : NotificationLocale) (key : Text) : Text :=
  match l.stringMap.lookup key with
  | some value => value
  | none => []

/-! ## Where the strings are read from -/

/-- The path that `UpdateStringMap` hands to `ParseJsonfile`, `none` where it does not call it. -/
def handedPath (curBaseName : Text) (l : NotificationLocale) : Option Text :=
  if l.localeBaseName = curBaseName ∨
      "/../".toList <:+: resourcePath l.languageMap curBaseName then
    none
  else
    some (resourcePath l.languageMap curBaseName)

/-- The path is that of a string file below the resources. -/
def Confined (path : Text) : Prop :=
  ∃ languages, normalise path =
    ["system".toList, "etc".toList, "peripheral".toList, "resources".toList] ++ languages ++
      ["element".toList, "string.json".toList]

theorem not_infix_of_isPathValid {path : Text} (h : isPathValid path = true) :
    ¬ parent <:+: path := by
  intro hparent
  rw [isPathValid, if_pos hparent] at h
  cases h

theorem not_infix_validLanguage (languageMap : StringTable) (baseName : Text) :
    ¬ parent <:+: validLanguage languageMap baseName := by
  have hbase : ¬ parent <:+: defaultLanguageEn := by decide +kernel
  rw [validLanguage]
  split
  · exact hbase
  · rename_i hvalid
    exact not_infix_of_isPathValid (by simpa using hvalid)

theorem resourcePath_eq (languageMap : StringTable) (baseName : Text) :
    resourcePath languageMap baseName =
      "/system/etc/peripheral/resources".toList ++ '/' ::
        (validLanguage languageMap baseName ++ '/' :: "element/string.json".toList) := by
  have hroot : systemPeripheralResourcePath =
      "/system/etc/peripheral/resources".toList ++ ['/'] := by decide +kernel
  have hfile : elementStringFile = '/' :: "element/string.json".toList := by decide +kernel
  rw [resourcePath, hroot, hfile, List.append_assoc, List.append_assoc, List.cons_append,
    List.nil_append]

theorem noParent_root : NoParent "/system/etc/peripheral/resources".toList := by decide +kernel

theorem noParent_file : NoParent "element/string.json".toList := by decide +kernel

theorem noParent_validLanguage (languageMap : StringTable) (baseName : Text) :
    NoParent (validLanguage languageMap baseName) :=
  noParent_of_not_infix (not_infix_validLanguage languageMap baseName)

/-- The second check of the path never fails. -/
theorem not_infix_resourcePath (languageMap : StringTable) (baseName : Text) :
    ¬ "/../".toList <:+: resourcePath languageMap baseName := by
  have hup : "/../".toList = '/' :: parent ++ ['/'] := by decide +kernel
  rw [hup, resourcePath_eq]
  exact (noParent_root.append
    ((noParent_validLanguage languageMap baseName).append noParent_file)).not_upward

theorem confined_resourcePath (languageMap : StringTable) (baseName : Text) :
    Confined (resourcePath languageMap baseName) := by
  have hlanguage := noParent_validLanguage languageMap baseName
  have hrootParts : normalise "/system/etc/peripheral/resources".toList =
      ["system".toList, "etc".toList, "peripheral".toList, "resources".toList] := by decide +kernel
  have hfileParts : normalise "element/string.json".toList =
      ["element".toList, "string.json".toList] := by decide +kernel
  refine ⟨normalise (validLanguage languageMap baseName), ?_⟩
  rw [resourcePath_eq, noParent_root.normalise_append (hlanguage.append noParent_file),
    hlanguage.normalise_append noParent_file, hrootParts, hfileParts, List.append_assoc]

theorem updateStringMap_eq (parse : Parser) (curBaseName : Text) (l : NotificationLocale) :
    l.updateStringMap parse curBaseName =
      if l.localeBaseName = curBaseName then l
      else { l with
        localeBaseName := curBaseName
        stringMap := (parse (resourcePath l.languageMap curBaseName) ∅).2 } := by
  rw [updateStringMap]
  dsimp only
  rw [if_neg (not_infix_resourcePath _ _)]

theorem handedPath_eq_some {l : NotificationLocale} {curBaseName path : Text}
    (h : l.handedPath curBaseName = some path) : resourcePath l.languageMap curBaseName = path := by
  rw [handedPath] at h
  split at h
  · cases h
  · exact Option.some.inj h

theorem updateStringMap_congr {parse parse' : Parser} {l : NotificationLocale} {curBaseName : Text}
    (h : ∀ path, l.handedPath curBaseName = some path → parse path = parse' path) :
    l.updateStringMap parse curBaseName = l.updateStringMap parse' curBaseName := by
  rw [updateStringMap, updateStringMap]
  dsimp only
  split
  · rfl
  · rename_i hname
    split
    · rfl
    · rename_i hup
      rw [h _ (if_neg (not_or.mpr ⟨hname, hup⟩))]

/-- Whatever the language map and the locale, the strings are read from below the resources. -/
theorem updateStringMap_confined (l : NotificationLocale) (curBaseName : Text) :
    (∀ path, l.handedPath curBaseName = some path → Confined path) ∧
      ∀ parse parse' : Parser,
        (∀ path, l.handedPath curBaseName = some path → parse path = parse' path) →
          l.updateStringMap parse curBaseName = l.updateStringMap parse' curBaseName := by
  refine ⟨?_, ?_⟩
  · intro path h
    rw [← handedPath_eq_some h]
    exact confined_resourcePath _ _
  · intro parse parse' h
    exact updateStringMap_congr h

end NotificationLocale
end ExtDevMgr.Notify
