import Mathlib.Data.List.TakeWhile
import Mathlib.Data.Rat.Floor

/-!
# cJSON values

The values of cJSON and the accessors that the sources use. A number is the rational of its double.
-/

namespace ExtDevMgr.Json

abbrev Text := List Char

/-- What a C string function sees of a `std::string`: the part before the first NUL. -/
def cStr (s : Text) : Text := s.takeWhile (· ≠ '\x00')

theorem nul_notMem_cStr (s : Text) : '\x00' ∉ cStr s := by
  intro h
  simpa using List.mem_takeWhile_imp h

theorem cStr_eq_self {s : Text} (h : '\x00' ∉ s) : cStr s = s := by
  apply List.takeWhile_eq_self_iff.mpr
  intro c hc
  exact decide_eq_true fun hnul => h (hnul ▸ hc)

inductive CJson
  | null
  | bool (value : Bool)
  | number (valuedouble : ℚ)
  | string (valuestring : Text)
  | array (items : List CJson)
  | object (members : List (Text × CJson))

namespace CJson

/-- `case_insensitive_strcmp` finds two keys equal. -/
def sameKey (key key' : Text) : Bool := key.map Char.toLower = key'.map Char.toLower

/-- `cJSON_GetObjectItem`: the first member with the key, whatever its case. -/
def getObjectItem (key : Text) : CJson → Option CJson
  | object members => (members.find? fun member => sameKey key member.1).map (·.2)
  | _ => none

/-- `cJSON_GetObjectItemCaseSensitive`: the first member with the key itself. -/
def getObjectItemCaseSensitive (key : Text) : CJson → Option CJson
  | object members => (members.find? fun member => key = member.1).map (·.2)
  | _ => none

/-- `cJSON_GetArraySize` counts the children of objects too. -/
def getArraySize : CJson → Nat
  | array items => items.length
  | object members => members.length
  | _ => 0

/-- The value of a string, `none` where `cJSON_IsString` fails. -/
def valuestring : CJson → Option Text
  | string s => some s
  | _ => none

/-- `cJSON_AddItemToObject`. -/
def addItem (json : CJson) (key : Text) (item : CJson) : CJson :=
  match json with
  | object members => object (members ++ [(key, item)])
  | json => json

/-- `cJSON_AddStringToObject` copies the value as a C string. -/
def addString (json : CJson) (key value : Text) : CJson := json.addItem key (string (cStr value))

def addBool (json : CJson) (key : Text) (value : Bool) : CJson := json.addItem key (bool value)

end CJson

/-! ## Printing and parsing -/

/-- The printer and the parser of the library. What is printed is a C string, and memory is taken to
suffice. -/
structure CJsonLib where
  printUnformatted : CJson → Text
  parse : Text → Option CJson
  nul_notMem_print : ∀ json, '\x00' ∉ printUnformatted json

/-- Parsing what is printed gives the value back. -/
def CJsonLib.Inverse (lib : CJsonLib) (json : CJson) : Prop :=
  lib.parse (lib.printUnformatted json) = some json

theorem CJsonLib.cStr_print (lib : CJsonLib) (json : CJson) :
    cStr (lib.printUnformatted json) = lib.printUnformatted json :=
  cStr_eq_self (lib.nul_notMem_print json)

/-! ## Numbers -/

/-- `static_cast<uint16_t>` of a double. -/
def toUInt16 (valuedouble : ℚ) : UInt16 :=
  UInt16.ofInt (if 0 ≤ valuedouble then ⌊valuedouble⌋ else ⌈valuedouble⌉)

theorem toUInt16_natCast (n : UInt16) : toUInt16 (n.toNat : ℚ) = n := by
  have hmod : ((n.toNat : Int) % 2 ^ 16).toNat = n.toNat := by
    have hlt := n.toNat_lt
    omega
  rw [toUInt16, if_pos (Nat.cast_nonneg _), Int.floor_natCast, UInt16.ofInt, hmod,
    UInt16.ofNat_toNat]

end ExtDevMgr.Json
