import ExtDevMgr.Pkg.Manifest

/-!
# The decoder of stored drivers

`DriverInfo::UnSerialize` replaces the extension of the record before it decodes the inner object, and
`GetObjectItem` narrows every number of an array to 16 bits. It is strict and atomic exactly when it
does not get as far as the inner object, or finds two arrays of 16-bit integers there, or replaces an
extension that was empty (`strict_iff`).
-/

namespace ExtDevMgr.Pkg
open Json

/-- The array holds exactly the ids. -/
def IsIdArray (jsonObj : CJson) (key : Text) (ids : List UInt16) : Prop :=
  jsonObj.getObjectItem key = some (.array (ids.map fun id => .number id.toNat))

/-- The inner object holds the ids of the extension. -/
structure Stores (lib : CJsonLib) (extInfo : Text) (ext : UsbDriverInfo) : Prop where
  exists_object : ∃ jsonObj, lib.parse (cStr extInfo) = some jsonObj ∧
    IsIdArray jsonObj "pids".toList ext.pids ∧ IsIdArray jsonObj "vids".toList ext.vids

namespace DriverInfo
variable (lib : CJsonLib) (usb : Bool) (str : Text)

/-- The text of the inner object, where the decoder gets as far as that. -/
def extInfo : Option Text :=
  match lib.parse (cStr str) with
  | none => none
  | some jsonObj =>
    if checkJsonObj jsonObj = .edmOk ∧ BusExtensionCore.getBusExtensionByName usb
        (lowerStr (getStringValue jsonObj "bus".toList)) = true then
      some (getStringValue jsonObj "ext_info".toList)
    else
      none

/-- The decoder fails and leaves the record as it was, or it succeeds and the record has exactly the
stored ids, all of them integers of 16 bits. -/
def Strict (d : DriverInfo) : Prop :=
  (d.unSerialize lib usb str).1 ≠ .edmOk ∧ (d.unSerialize lib usb str).2 = d ∨
    (d.unSerialize lib usb str).1 = .edmOk ∧ ∃ text ext, extInfo lib usb str = some text ∧
      (d.unSerialize lib usb str).2.driverInfoExt = some ext ∧ Stores lib text ext

end DriverInfo

/-! ## The inner object -/

section
variable {lib : CJsonLib} {text : Text} {ext : UsbDriverInfo}

theorem getUint16Array_of_isIdArray {jsonObj : CJson} {key : Text} {ids : List UInt16}
    (h : IsIdArray jsonObj key ids) : getUint16Array jsonObj key = some ids := by
  rw [getUint16Array, h]
  exact numbers_map ids

/-- The inner decoder fails without a change, or sets both lists. -/
theorem UsbDriverInfo.unSerialize_cases (lib : CJsonLib) (text : Text) (info : UsbDriverInfo) :
    (∃ ret, ret ≠ .edmOk ∧ unSerialize lib text info = (ret, info)) ∨
      ∃ ext, unSerialize lib text info = (.edmOk, ext) := by
  unfold unSerialize
  cases lib.parse (cStr text) with
  | none => exact .inl ⟨_, by decide, rfl⟩
  | some jsonObj =>
    dsimp only
    by_cases hsize : jsonObj.getArraySize = 0
    · rw [if_pos hsize]
      exact .inl ⟨_, by decide, rfl⟩
    rw [if_neg hsize]
    cases getUint16Array jsonObj "pids".toList with
    | none => exact .inl ⟨_, by decide, rfl⟩
    | some pids =>
      cases getUint16Array jsonObj "vids".toList with
      | none => exact .inl ⟨_, by decide, rfl⟩
      | some vids => exact .inr ⟨_, rfl⟩

theorem UsbDriverInfo.unSerialize_of_stores (h : Stores lib text ext) (info : UsbDriverInfo) :
    unSerialize lib text info = (.edmOk, ext) := by
  obtain ⟨jsonObj, hparse, hpids, hvids⟩ := h.exists_object
  have hsize : jsonObj.getArraySize ≠ 0 := by
    cases jsonObj with
    | object members =>
      cases members with
      | nil => cases hpids
      | cons member members => exact Nat.succ_ne_zero _
    | null => cases hpids
    | bool value => cases hpids
    | number valuedouble => cases hpids
    | string valuestring => cases hpids
    | array items => cases hpids
  rw [unSerialize, hparse]
  dsimp only
  rw [if_neg hsize, getUint16Array_of_isIdArray hpids, getUint16Array_of_isIdArray hvids]

end

/-! ## The record -/

namespace DriverInfo
variable {lib : CJsonLib} {usb : Bool} {str text : Text}

theorem unSerialize_of_extInfo_none (h : extInfo lib usb str = none) (d : DriverInfo) :
    (d.unSerialize lib usb str).1 ≠ .edmOk ∧ (d.unSerialize lib usb str).2 = d := by
  have hparseFail : EdmErr.edmErrJsonParseFail ≠ .edmOk := by decide
  have hnotSupport : EdmErr.edmErrNotSupport ≠ .edmOk := by decide
  unfold extInfo at h
  unfold unSerialize
  cases hparse : lib.parse (cStr str) with
  | none => exact ⟨hparseFail, rfl⟩
  | some jsonObj =>
    rw [hparse] at h
    dsimp only at h ⊢
    by_cases hcheck : checkJsonObj jsonObj = .edmOk
    · rw [if_neg (not_not.mpr hcheck)]
      cases hbus : BusExtensionCore.getBusExtensionByName usb
        (lowerStr (getStringValue jsonObj "bus".toList)) with
      | false =>
        rw [if_pos (by decide : (!false) = true)]
        exact ⟨hnotSupport, rfl⟩
      | true =>
        rw [if_pos ⟨hcheck, hbus⟩] at h
        cases h
    · rw [if_pos hcheck]
      exact ⟨hcheck, rfl⟩

theorem usb_of_extInfo_some (h : extInfo lib usb str = some text) : usb = true := by
  unfold extInfo at h
  split at h
  · cases h
  · split at h
    · rename_i hreach
      exact (BusExtensionCore.getBusExtensionByName_iff.mp hreach.2).1
    · cases h

/-- What the decoder does once it gets to the inner object. -/
theorem unSerialize_of_extInfo_some (h : extInfo lib usb str = some text) (d : DriverInfo) :
    (∃ ret, ret ≠ .edmOk ∧ (UsbDriverInfo.unSerialize lib text {}).1 = ret ∧
        d.unSerialize lib usb str = (ret, { d with driverInfoExt := some {} })) ∨
      ∃ ext, UsbDriverInfo.unSerialize lib text {} = (.edmOk, ext) ∧
        (d.unSerialize lib usb str).1 = .edmOk ∧
        (d.unSerialize lib usb str).2.driverInfoExt = some ext := by
  unfold extInfo at h
  unfold unSerialize
  cases hparse : lib.parse (cStr str) with
  | none =>
    rw [hparse] at h
    cases h
  | some jsonObj =>
    rw [hparse] at h
    dsimp only at h ⊢
    split at h
    · rename_i hreach
      cases h
      rw [if_neg (not_not.mpr hreach.1), hreach.2, if_neg (by decide)]
      rcases UsbDriverInfo.unSerialize_cases lib (getStringValue jsonObj "ext_info".toList) {} with
        ⟨ret, hret, hinner⟩ | ⟨ext, hinner⟩
      · rw [hinner]
        dsimp only
        rw [if_pos hret]
        exact .inl ⟨ret, hret, rfl, rfl⟩
      · rw [hinner]
        dsimp only
        rw [if_neg (not_not.mpr rfl)]
        exact .inr ⟨ext, rfl, rfl, rfl⟩
    · cases h

/-- **The decoder.** It is strict and atomic exactly when it does not get to the inner object, or the
inner object holds two arrays of 16-bit integers, or is refused with an empty extension before. -/
theorem strict_iff (lib : CJsonLib) (usb : Bool) (str : Text) (d : DriverInfo) :
    d.Strict lib usb str ↔ ∀ text, extInfo lib usb str = some text →
      (∃ ext, Stores lib text ext) ∨
        (UsbDriverInfo.unSerialize lib text {}).1 ≠ .edmOk ∧ d.driverInfoExt = some {} := by
  unfold Strict
  cases hreach : extInfo lib usb str with
  | none =>
    refine iff_of_true (.inl (unSerialize_of_extInfo_none hreach d)) ?_
    intro text htext
    cases htext
  | some text =>
    have hall : ∀ {p : Text → Prop}, (∀ t, some text = some t → p t) ↔ p text :=
      ⟨fun h => h text rfl, fun h t ht => by cases ht; exact h⟩
    rw [hall]
    rcases unSerialize_of_extInfo_some hreach d with
      ⟨ret, hret, hinner, hresult⟩ | ⟨ext, hinner, hresult, hext⟩
    · rw [hresult, hinner]
      constructor
      · rintro (⟨-, hsame⟩ | ⟨hok, -⟩)
        · exact .inr ⟨hret, (congrArg driverInfoExt hsame).symm⟩
        · exact absurd hok hret
      · rintro (⟨ext, hstores⟩ | ⟨-, hempty⟩)
        · rw [UsbDriverInfo.unSerialize_of_stores hstores] at hinner
          exact absurd hinner.symm hret
        · refine .inl ⟨hret, ?_⟩
          cases d
          cases hempty
          rfl
    · rw [hresult, hext, hinner]
      constructor
      · rintro (⟨hret, -⟩ | ⟨-, text', ext', htext, hext', hstores⟩)
        · exact absurd rfl hret
        · cases htext
          exact .inl ⟨_, hstores⟩
      · rintro (⟨ext', hstores⟩ | ⟨hret, -⟩)
        · rw [UsbDriverInfo.unSerialize_of_stores hstores] at hinner
          cases hinner
          exact .inr ⟨rfl, text, _, rfl, rfl, hstores⟩
        · exact absurd rfl hret

end DriverInfo

/-! ## A number of 17 bits -/

def wideExtText : Text := objectText [("pids".toList, "[65537]".toList), ("vids".toList, "[]".toList)]

def wideText : Text :=
  objectText [("bus".toList, quoted "USB".toList), ("vendor".toList, quoted []),
    ("version".toList, quoted []), ("ext_info".toList, quoted (escaped wideExtText))]

def wideExtJson : CJson :=
  .object [("pids".toList, .array [.number 65537]), ("vids".toList, .array [])]

def wideJson : CJson :=
  .object [("bus".toList, .string "USB".toList), ("vendor".toList, .string []),
    ("version".toList, .string []), ("ext_info".toList, .string wideExtText)]

/-- The parser on these two texts. -/
def wideParse (text : Text) : Option CJson :=
  if text = wideExtText then some wideExtJson
  else if text = wideText then some wideJson
  else none

def wideLib : CJsonLib := { mouseLib with parse := wideParse }

/-- The product id 65537 is taken for 1. -/
theorem DriverInfo.not_forall_strict : ¬ ∀ lib usb str d, DriverInfo.Strict lib usb str d := by
  intro h
  have hok : (mouseDriver.unSerialize wideLib true wideText).1 = .edmOk := by decide +kernel
  have hids : (mouseDriver.unSerialize wideLib true wideText).2.driverInfoExt =
      some { pids := [1], vids := [] } := by decide +kernel
  have htext : DriverInfo.extInfo wideLib true wideText = some wideExtText := by decide +kernel
  have hparse : wideLib.parse (cStr wideExtText) = some wideExtJson := by
    have hstr : cStr wideExtText = wideExtText := by decide +kernel
    change wideParse (cStr wideExtText) = some wideExtJson
    rw [hstr, wideParse, if_pos rfl]
  rcases h wideLib true wideText mouseDriver with ⟨hret, -⟩ | ⟨-, text, ext, hreach, hext, hstores⟩
  · exact hret hok
  · cases htext.symm.trans hreach
    cases hids.symm.trans hext
    obtain ⟨jsonObj, hobj, hpids, -⟩ := hstores.exists_object
    cases hparse.symm.trans hobj
    cases hpids

end ExtDevMgr.Pkg
