import ExtDevMgr.Usb.Acceptance
import ExtDevMgr.Usb.Attach

/-!
# The devices that are added

`OnDeviceConnect` hands a device to the callback behind a chain of calls to the USB services. Here the
chain is read as a whole: which replies end with the device added, and what of the bytes the record
then holds (`added_iff`).
-/

namespace ExtDevMgr.Usb
open Access Manager Records

def AttachEvent.device? : AttachEvent → Option UsbDeviceInfo
  | onDeviceAdd usbDevInfo => some usbDevInfo
  | _ => none

/-- The device that is handed to the callback. -/
def added (run : Access AttachEvent (Option Int)) : Option UsbDeviceInfo :=
  run.places.findSome? AttachEvent.device?

/-- The first interface descriptor of each number, in the order of their first appearance, with its
number of endpoints lowered to those found. -/
def firstSettings (rs : List (List UInt8)) : List UsbInterfaceDescriptor :=
  (interfaceNumbers rs).map fun x => (settings x rs).headD {}

/-- Every service gives what it is asked for, the device is no root hub, and the configuration is one
of the format. -/
structure Announces (s : UsbDevSubscriber) (usbDev : UsbDev) (r : AttachReplies) : Prop where
  identified : Identified s usbDev r
  iUsbDdk : s.iUsbDdk = true
  callback : s.callback = true
  getConfig : r.getConfig = edmOk
  getConfigDescriptor : r.getConfigDescriptor.ret = edmOk
  grammatical : Grammatical r.getConfigDescriptor.descriptor

/-- The replies are those of a device: the descriptor is not cut off, the serial number and the
configuration are as long as their length fields can say, and no interface has more than 128
settings. -/
structure AttachReplies.Regular (r : AttachReplies) : Prop where
  descData : r.getDeviceDescriptor.descData = [] ∨ 18 ≤ r.getDeviceDescriptor.descData.length
  serial : r.getStringDescriptor.serial.length ≤ 255
  configuration : r.getConfigDescriptor.descriptor.length ≤ 65535
  settings : ∀ x, (records r.getConfigDescriptor.descriptor).countP (isInterface x) ≤ 128

/-- The record made of the bytes of the replies. -/
def announced (usbDev : UsbDev) (r : AttachReplies) (snNum : List UInt8) : UsbDeviceInfo :=
  newUsbDeviceInfo usbDev (.load r.getDeviceDescriptor.bytes) snNum
    (firstSettings (records r.getConfigDescriptor.descriptor))

/-! ## The interfaces -/

theorem map_settingsOf (x : UInt8) (rs : List (List UInt8)) :
    (settingsOf x rs).map (·.interfaceDescriptor) = settings x rs := by
  induction rs with
  | nil => rfl
  | cons r rs ih =>
    rw [settingsOf, settings]
    split
    · exact congrArg (_ :: ·) ih
    · exact ih

theorem slot_interfaceOf (rs : List (List UInt8)) (x : UInt8) :
    ((interfaceOf rs x).slot 0).interfaceDescriptor = (settings x rs).headD {} := by
  rw [← map_settingsOf]
  change ((settingsOf x rs).getD 0 {}).interfaceDescriptor = _
  cases settingsOf x rs with
  | nil => rfl
  | cons desc descs => rfl

theorem length_interfaceNumbers {configBuffer : List UInt8} (h : Grammatical configBuffer) :
    ((interfaceNumbers (records configBuffer)).map (interfaceOf (records configBuffer))).length =
      (denote (records configBuffer)).configDescriptor.bNumInterfaces.toNat := by
  have hroom := h.room
  rw [List.length_map]
  exact (UInt8.toNat_ofNat_of_lt' (Nat.lt_trans hroom (by decide))).symm

section
variable {reply : ServiceReply} {edmErrOffset : Int} {fuel : Nat}

theorem interfacesOf_denote {outcome : ParseOutcome} (h : Grammatical reply.descriptor)
    (hret : outcome.ret = 0) (hconfig : outcome.config = some (denote (records reply.descriptor))) :
    interfacesOf edmErrOffset outcome [] = (edmOk, firstSettings (records reply.descriptor)) := by
  rw [interfacesOf_of_zero edmErrOffset hret hconfig rfl (length_interfaceNumbers h)]
  · rw [List.nil_append, List.map_map]
    exact congrArg (Prod.mk edmOk) (List.map_congr_left fun x _ => slot_interfaceOf _ x)
  · intro u hu
    obtain ⟨x, -, rfl⟩ := List.mem_map.mp hu
    rfl

/-- The list that is handed out comes from a vector of the grammar. -/
theorem grammatical_of_getInterfaceDescriptor {getConfig : Int} {iUsbDdk : Bool}
    {interfaces : List UsbInterfaceDescriptor} (hlength : reply.descriptor.length ≤ 65535)
    (hcount : ∀ x, (records reply.descriptor).countP (isInterface x) ≤ 128)
    (h : getInterfaceDescriptor fuel edmErrOffset (some getConfig)
      (if iUsbDdk then some reply else none) [] = some (edmOk, interfaces))
    (hoffset : edmErrInvalidObject edmErrOffset ≠ edmOk) :
    iUsbDdk = true ∧ getConfig = edmOk ∧ reply.ret = edmOk ∧ Grammatical reply.descriptor ∧
      interfaces = firstSettings (records reply.descriptor) := by
  cases iUsbDdk with
  | false => exact absurd (congrArg Prod.fst (Option.some.inj h)) hoffset
  | true =>
    simp only [getInterfaceDescriptor, if_true] at h
    split at h
    case isTrue hconfig => exact absurd (congrArg Prod.fst (Option.some.inj h)) hconfig
    case isFalse hconfig =>
    split at h
    case isTrue hret => exact absurd (congrArg Prod.fst (Option.some.inj h)) hret
    case isFalse hret =>
    obtain ⟨outcome, houtcome, hlist⟩ := Option.map_eq_some_iff.mp h
    have hzero : outcome.ret = 0 := by
      by_contra hne
      have hfst := congrArg Prod.fst hlist
      unfold interfacesOf at hfst
      split at hfst
      · exact hne hfst
      · rw [if_pos hne] at hfst
        exact hne hfst
    obtain ⟨hgrammar, hdenote⟩ := denotes_of_zero hlength hcount ⟨fuel, houtcome⟩ hzero
    rw [interfacesOf_denote hgrammar hzero hdenote] at hlist
    exact ⟨rfl, not_not.mp hconfig, not_not.mp hret, hgrammar, (congrArg Prod.snd hlist).symm⟩

end

/-! ## The chain of calls -/

section
variable {r : AttachReplies} {fuel : Nat} {err : EdmErrors} {s : UsbDevSubscriber} {usbDev : UsbDev}
  {usbDevInfo : UsbDeviceInfo}

theorem added_bind {α : Type} {x : Access AttachEvent α} {f : α → Access AttachEvent (Option Int)}
    (h : x.Within fun event => event.device? = none) : added (x >>= f) = added (f x.value) := by
  have hnone : x.places.findSome? AttachEvent.device? = none := List.findSome?_eq_none_iff.mpr h
  change (x.places ++ (f x.value).places).findSome? _ = _
  rw [List.findSome?_append, hnone]
  rfl

@[simp] theorem added_pure (ret : Option Int) : added (pure ret) = none := rfl

theorem added_reportInterfaces (deviceDescriptor : UsbDevDescLite) (snNum : List UInt8)
    (interfaces : Int × List UsbInterfaceDescriptor) :
    added (reportInterfaces s usbDev deviceDescriptor snNum interfaces) =
      if interfaces.1 = edmOk ∧ s.callback = true then
        some (newUsbDeviceInfo usbDev deviceDescriptor snNum interfaces.2)
      else
        none := by
  unfold reportInterfaces
  by_cases hret : interfaces.1 = edmOk
  · rw [if_neg (not_not_intro hret), added_bind (by simp [happen, AttachEvent.device?])]
    cases s.callback with
    | false => exact (if_neg fun h => Bool.false_ne_true h.2).symm
    | true => exact (if_pos ⟨hret, rfl⟩).symm
  · rw [if_pos hret, if_neg fun h => hret h.1]
    exact added_bind (by simp [happen, AttachEvent.device?])

theorem added_readDevice (deviceDescriptor : UsbDevDescLite) :
    added (readDevice fuel err s usbDev r deviceDescriptor) = some usbDevInfo ↔
      ∃ snNum interfaces,
        (getDevStringVal fuel deviceDescriptor.iSerialNumber r.getStringDescriptor r.tbuf).value =
          some snNum ∧
        getInterfaceDescriptor fuel err.edmErrOffset (some r.getConfig)
          (if s.iUsbDdk then some r.getConfigDescriptor else none) [] = some (edmOk, interfaces) ∧
        s.callback = true ∧
        usbDevInfo = newUsbDeviceInfo usbDev deviceDescriptor snNum interfaces := by
  have hserial : ((getDevStringVal fuel deviceDescriptor.iSerialNumber r.getStringDescriptor
      r.tbuf).relabel AttachEvent.serial).Within fun event => event.device? = none :=
    (within_relabel _).mpr fun _ _ => rfl
  have hreads := getInterfaceDescriptorReads_spec fuel err.edmErrOffset r.getConfig s.iUsbDdk
    r.getConfigDescriptor []
  unfold readDevice
  rw [added_bind hserial, value_relabel]
  cases (getDevStringVal fuel deviceDescriptor.iSerialNumber r.getStringDescriptor r.tbuf).value with
  | none => simp
  | some snNum =>
    dsimp only
    rw [added_bind, added_bind ((within_relabel _).mpr fun _ _ => rfl), value_relabel, hreads.2]
    · cases getInterfaceDescriptor fuel err.edmErrOffset (some r.getConfig)
        (if s.iUsbDdk then some r.getConfigDescriptor else none) [] with
      | none => simp
      | some interfaces =>
        dsimp only
        rw [added_reportInterfaces]
        constructor
        · intro h
          obtain ⟨⟨hret, hcallback⟩, heq⟩ := Option.ite_none_right_eq_some.mp h
          exact ⟨snNum, interfaces.2, rfl, by rw [← hret], hcallback, (Option.some.inj heq).symm⟩
        · rintro ⟨_, _, hsn, hlist, hcallback, rfl⟩
          cases hsn
          cases hlist
          rw [if_pos ⟨rfl, hcallback⟩]
    · cases s.enableAppLaunchManager with
      | false => exact fun event hevent => absurd hevent List.not_mem_nil
      | true => exact List.forall_mem_singleton.mpr rfl

theorem added_identify {result : Except Int UsbDevDescLite} :
    added (identify fuel err s usbDev r result) = some usbDevInfo ↔
      ∃ deviceDescriptor, result = .ok deviceDescriptor ∧
        ¬ (deviceDescriptor.bDeviceClass = usbClassHub ∧ usbDev.devAddr = rootHubDevAddr) ∧
        added (readDevice fuel err s usbDev r deviceDescriptor) = some usbDevInfo := by
  cases result with
  | error ret =>
    rw [identify, added_bind (by simp [happen, AttachEvent.device?])]
    simp
  | ok deviceDescriptor =>
    rw [identify]
    split
    case isTrue hroot =>
      rw [added_bind (by simp [happen, AttachEvent.device?])]
      simp [hroot]
    case isFalse hroot =>
      constructor
      · exact fun h => ⟨deviceDescriptor, rfl, hroot, h⟩
      · rintro ⟨_, hok, -, h⟩
        cases hok
        exact h

theorem getUsbDeviceDescriptor_ok {deviceDescriptor : UsbDevDescLite} :
    (getUsbDeviceDescriptor err r.getDeviceDescriptor).value = .ok deviceDescriptor ↔
      r.getDeviceDescriptor.ret = edmOk ∧ r.getDeviceDescriptor.descData ≠ [] ∧
        deviceDescriptor = .load r.getDeviceDescriptor.bytes ∧
        deviceDescriptor.bLength = usbDevDescSize := by
  unfold getUsbDeviceDescriptor
  split
  case isTrue hfail =>
    refine iff_of_false nofun fun h => ?_
    exact hfail.elim (fun hret => hret h.1) h.2.1
  case isFalse hfail =>
    obtain ⟨hret, hne⟩ := not_or.mp hfail
    simp only [not_not.mp hret, ne_eq, hne, not_false_eq_true, true_and]
    change (if (UsbDevDescLite.load r.getDeviceDescriptor.bytes).bLength ≠ usbDevDescSize then
      Except.error err.edmErrUsbErr
    else .ok (UsbDevDescLite.load r.getDeviceDescriptor.bytes)) = _ ↔ _
    split
    case isTrue hlength =>
      refine iff_of_false nofun ?_
      rintro ⟨rfl, h⟩
      exact hlength h
    case isFalse hlength =>
      constructor
      · intro h
        cases h
        exact ⟨rfl, not_not.mp hlength⟩
      · rintro ⟨rfl, -⟩
        rfl

theorem added_onDeviceConnect :
    added (onDeviceConnect fuel err s usbDev r) = some usbDevInfo ↔
      s.iusb = true ∧ r.openDevice = edmOk ∧
        added (identify fuel err s usbDev r
          (getUsbDeviceDescriptor err r.getDeviceDescriptor).value) = some usbDevInfo := by
  unfold onDeviceConnect
  cases s.iusb with
  | false => simp
  | true =>
    rw [Bool.not_true, if_neg Bool.false_ne_true]
    split
    case isTrue hopen =>
      rw [added_bind (by simp [happen, AttachEvent.device?])]
      simp [hopen]
    case isFalse hopen =>
      have hquiet : (getUsbDeviceDescriptor err r.getDeviceDescriptor).Within
          fun event => event.device? = none := by
        unfold getUsbDeviceDescriptor
        split
        · exact within_pure _
        · refine (within_bind _ _).mpr ⟨?_, ?_⟩
          · simp [castDescriptor, AttachEvent.device?]
          · split <;> exact within_pure _
      rw [added_bind (by simp [happen, AttachEvent.device?]), added_bind hquiet]
      simp [not_not.mp hopen]

/-- Whatever the replies are, a device is added under its address, by a callback. -/
theorem busDeviceId_of_added (h : added (onDeviceConnect fuel err s usbDev r) = some usbDevInfo) :
    s.callback = true ∧ usbDevInfo.busDeviceId = toBusDeivceId usbDev := by
  obtain ⟨-, -, hadded⟩ := added_onDeviceConnect.mp h
  obtain ⟨deviceDescriptor, -, -, hadded⟩ := added_identify.mp hadded
  obtain ⟨snNum, interfaces, -, -, hcallback, rfl⟩ := (added_readDevice _).mp hadded
  exact ⟨hcallback, rfl⟩

/-- A device that is added has been announced, and its record is the one of the replies. -/
theorem announces_of_added (hr : r.Regular)
    (h : added (onDeviceConnect fuel err s usbDev r) = some usbDevInfo) :
    Announces s usbDev r ∧ usbDevInfo = announced usbDev r usbDevInfo.snNum := by
  obtain ⟨hiusb, hopen, hadded⟩ := added_onDeviceConnect.mp h
  obtain ⟨deviceDescriptor, hok, hroot, hadded⟩ := added_identify.mp hadded
  obtain ⟨hret, hne, rfl, hlength⟩ := getUsbDeviceDescriptor_ok.mp hok
  obtain ⟨snNum, interfaces, -, hlist, hcallback, rfl⟩ := (added_readDevice _).mp hadded
  have hlen := hr.descData.resolve_left hne
  obtain ⟨hddk, hconfig, hdescriptor, hgrammar, rfl⟩ := grammatical_of_getInterfaceDescriptor
    hr.configuration hr.settings hlist (err.code_ne_edmOk 6)
  refine ⟨⟨⟨hiusb, hopen, hret, ?_, ?_⟩, hddk, hcallback, hconfig, hdescriptor, hgrammar⟩, rfl⟩
  · rw [← bLength_load hlen]
    exact hlength
  · rw [isRootHub_iff hlen]
    exact hroot

/-- A device that is announced is added once the string and the configuration are read to the end. -/
theorem added_of_announces (err : EdmErrors) (hr : r.Regular) (h : Announces s usbDev r) :
    ∃ n, ∀ fuel, n ≤ fuel →
      ∃ snNum, added (onDeviceConnect fuel err s usbDev r) = some (announced usbDev r snNum) := by
  obtain ⟨outcome, ⟨n, hparse⟩, hzero⟩ := h.grammatical.returns hr.configuration hr.settings
  have hdenote := (denotes_of_zero hr.configuration hr.settings ⟨n, hparse⟩ hzero).2
  refine ⟨max n (r.getStringDescriptor.serial.length + 1), fun fuel hfuel => ?_⟩
  have hne : r.getDeviceDescriptor.descData ≠ [] := by
    intro hnil
    have hlength := h.identified.bLength
    rw [hnil] at hlength
    cases hlength
  have hlen := hr.descData.resolve_left hne
  have hserial := hr.serial
  have hcount : Countable r.getStringDescriptor.serial := by
    rw [Countable]
    omega
  obtain ⟨snNum, hsn⟩ : ∃ snNum, (getDevStringVal fuel
      (UsbDevDescLite.load r.getDeviceDescriptor.bytes).iSerialNumber r.getStringDescriptor
      r.tbuf).value = some snNum :=
    (getDevStringVal_spec (fun _ => hcount) (by omega)).2
  refine ⟨snNum, added_onDeviceConnect.mpr ⟨h.identified.iusb, h.identified.openDevice, ?_⟩⟩
  have hok : (getUsbDeviceDescriptor err r.getDeviceDescriptor).value =
      .ok (.load r.getDeviceDescriptor.bytes) :=
    getUsbDeviceDescriptor_ok.mpr
      ⟨h.identified.ret, hne, rfl, (bLength_load hlen).trans h.identified.bLength⟩
  refine added_identify.mpr ⟨_, hok, mt (isRootHub_iff hlen).mpr h.identified.notRootHub, ?_⟩
  refine (added_readDevice _).mpr ⟨snNum, _, hsn, ?_, h.callback, rfl⟩
  have hparsed := parseUsbConfigDescriptor_mono hparse (Nat.le_trans (Nat.le_max_left _ _) hfuel)
  have hlist : interfacesOf err.edmErrOffset outcome [] =
      (edmOk, firstSettings (records r.getConfigDescriptor.descriptor)) :=
    interfacesOf_denote h.grammatical hzero hdenote
  simp [getInterfaceDescriptor, h.iUsbDdk, h.getConfig, h.getConfigDescriptor, hparsed, hlist]

end

/-- **Which devices are added.** With replies of a device's lengths, `OnDeviceConnect` adds the device
exactly when every service gives what it is asked for, it is no root hub, and its configuration is one
of the format; and the record that is added is the one of the bytes: the ids and classes of the device
descriptor, and the first interface descriptor of each number. -/
theorem added_iff_announces (err : EdmErrors) (s : UsbDevSubscriber) (usbDev : UsbDev)
    (r : AttachReplies) (hr : r.Regular) :
    (Announces s usbDev r ↔
      ∃ fuel usbDevInfo, added (onDeviceConnect fuel err s usbDev r) = some usbDevInfo) ∧
    ∀ fuel usbDevInfo, added (onDeviceConnect fuel err s usbDev r) = some usbDevInfo →
      usbDevInfo = announced usbDev r usbDevInfo.snNum := by
  refine ⟨⟨fun h => ?_, ?_⟩, fun fuel usbDevInfo h => (announces_of_added hr h).2⟩
  · obtain ⟨n, hn⟩ := added_of_announces err hr h
    obtain ⟨snNum, hadded⟩ := hn n (Nat.le_refl n)
    exact ⟨n, _, hadded⟩
  · rintro ⟨fuel, usbDevInfo, h⟩
    exact (announces_of_added hr h).1

/-- The device descriptor of a mouse. -/
def mouseDescriptor : List UInt8 := [18, 1, 0, 2, 0, 0, 0, 8, 109, 4, 119, 192, 0, 114, 1, 2, 0, 1]

theorem records_mouseConfig :
    records mouseConfig = [[9, 2, 18, 0, 1, 1, 0, 128, 50], [9, 4, 0, 0, 0, 3, 1, 2, 0]] := by
  have hflat : mouseConfig =
      [[9, 2, 18, 0, 1, 1, 0, 128, 50], [9, 4, 0, 0, 0, 3, 1, 2, 0]].flatten := rfl
  rw [hflat]
  refine records_flatten fun r hr => ?_
  simp only [List.mem_cons, List.not_mem_nil, or_false] at hr
  rcases hr with rfl | rfl
  · exact ⟨by decide, by decide⟩
  · exact ⟨by decide, by decide⟩

theorem mouseReplies_regular : (mouseReplies mouseDescriptor).Regular where
  descData := .inr (by decide)
  serial := by decide
  configuration := by decide
  settings x := by
    change (records mouseConfig).countP (isInterface x) ≤ 128
    rw [records_mouseConfig]
    exact Nat.le_trans List.countP_le_length (by decide)

theorem mouse_added :
    (Announces readySubscriber ⟨1, 2⟩ (mouseReplies mouseDescriptor) ↔ ∃ fuel usbDevInfo,
      added (onDeviceConnect fuel ⟨1, Int.one_pos⟩ readySubscriber ⟨1, 2⟩
        (mouseReplies mouseDescriptor)) = some usbDevInfo) ∧
    ∀ fuel usbDevInfo, added (onDeviceConnect fuel ⟨1, Int.one_pos⟩ readySubscriber ⟨1, 2⟩
        (mouseReplies mouseDescriptor)) = some usbDevInfo →
      usbDevInfo = announced ⟨1, 2⟩ (mouseReplies mouseDescriptor) usbDevInfo.snNum :=
  added_iff_announces _ _ _ _ mouseReplies_regular

end ExtDevMgr.Usb
