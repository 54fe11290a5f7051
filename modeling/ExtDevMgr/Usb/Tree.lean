import ExtDevMgr.Usb.Steps

/-!
# Configuration trees

A well-formed USB configuration as a tree: the header, its class-specific descriptors and the
interfaces; an interface is its number and its alternate settings, a setting its header, extra
descriptors and endpoints. Lengths, counts and descriptor types are not stored: `encode` computes
them, so that they cannot disagree with the tree. The `tail` of a header is what it has beyond its
fixed fields. `toDdk` is the structure that the parser is to build.
-/

namespace ExtDevMgr.Usb
open Records

/-- The two bytes of a 16-bit field. -/
def hostToLe16 (w : UInt16) : UInt8 × UInt8 := (w.toUInt8, (w >>> 8).toUInt8)

theorem le16ToHost_hostToLe16 (w : UInt16) :
    le16ToHost (hostToLe16 w).1 (hostToLe16 w).2 = w := by
  apply UInt16.toNat_inj.mp
  have hlt := w.toNat_lt
  have hlow : w.toNat % 2 ^ 8 < 2 ^ 8 := Nat.mod_lt _ (by decide)
  have hhigh : w.toNat / 2 ^ 8 % 2 ^ 8 = w.toNat / 2 ^ 8 := Nat.mod_eq_of_lt (by omega)
  simp only [le16ToHost, hostToLe16, UInt16.toNat_or, UInt16.toNat_shiftLeft, UInt8.toNat_toUInt16,
    UInt16.toNat_toUInt8, UInt16.toNat_shiftRight]
  change (w.toNat >>> 8 % 2 ^ 8) <<< 8 % 2 ^ 16 ||| w.toNat % 2 ^ 8 = w.toNat
  rw [Nat.shiftRight_eq_div_pow, hhigh, Nat.mod_eq_of_lt (by rw [Nat.shiftLeft_eq]; omega),
    ← Nat.shiftLeft_add_eq_or_of_lt hlow, Nat.shiftLeft_eq]
  omega

structure ExtraDescriptor where
  bDescriptorType : UInt8
  payload : List UInt8
  not_interface : bDescriptorType ≠ usbDdkDtInterface
  not_endpoint : bDescriptorType ≠ usbDdkDtEndpoint
  length_le : 2 + payload.length ≤ 255

structure EndpointTree where
  bEndpointAddress : UInt8
  bmAttributes : UInt8
  wMaxPacketSize : UInt16
  bInterval : UInt8
  tail : List UInt8
  extras : List ExtraDescriptor
  length_le : 7 + tail.length ≤ 255

structure SettingTree where
  bAlternateSetting : UInt8
  bInterfaceClass : UInt8
  bInterfaceSubClass : UInt8
  bInterfaceProtocol : UInt8
  iInterface : UInt8
  tail : List UInt8
  extras : List ExtraDescriptor
  endpoints : List EndpointTree
  length_le : 9 + tail.length ≤ 255
  endpoints_le : endpoints.length ≤ 32

structure InterfaceTree where
  bInterfaceNumber : UInt8
  settings : List SettingTree
  settings_pos : 1 ≤ settings.length
  settings_le : settings.length ≤ 128

structure ConfigTree where
  wTotalLength : UInt16
  bConfigurationValue : UInt8
  iConfiguration : UInt8
  bmAttributes : UInt8
  bMaxPower : UInt8
  tail : List UInt8
  extras : List ExtraDescriptor
  interfaces : List InterfaceTree
  length_le : 9 + tail.length ≤ 255
  interfaces_pos : 1 ≤ interfaces.length
  interfaces_le : interfaces.length ≤ 32
  distinct : (interfaces.map (·.bInterfaceNumber)).Nodup

/-! ## The encoding -/

def ExtraDescriptor.encode (d : ExtraDescriptor) : List UInt8 :=
  record (d.bDescriptorType :: d.payload)

def EndpointTree.header (e : EndpointTree) : List UInt8 :=
  record (usbDdkDtEndpoint :: e.bEndpointAddress :: e.bmAttributes ::
    (hostToLe16 e.wMaxPacketSize).1 :: (hostToLe16 e.wMaxPacketSize).2 :: e.bInterval :: e.tail)

/-- The records of an endpoint, in order. -/
def EndpointTree.records (e : EndpointTree) : List (List UInt8) :=
  e.header :: e.extras.map (·.encode)

def SettingTree.header (number : UInt8) (s : SettingTree) : List UInt8 :=
  record (usbDdkDtInterface :: number :: s.bAlternateSetting ::
    UInt8.ofNat s.endpoints.length :: s.bInterfaceClass :: s.bInterfaceSubClass ::
    s.bInterfaceProtocol :: s.iInterface :: s.tail)

def SettingTree.records (number : UInt8) (s : SettingTree) : List (List UInt8) :=
  s.header number :: (s.extras.map (·.encode) ++ s.endpoints.flatMap (·.records))

def InterfaceTree.records (i : InterfaceTree) : List (List UInt8) :=
  i.settings.flatMap (·.records i.bInterfaceNumber)

def ConfigTree.header (t : ConfigTree) : List UInt8 :=
  record (usbDdkDtConfig :: (hostToLe16 t.wTotalLength).1 :: (hostToLe16 t.wTotalLength).2 ::
    UInt8.ofNat t.interfaces.length :: t.bConfigurationValue :: t.iConfiguration ::
    t.bmAttributes :: t.bMaxPower :: t.tail)

def ConfigTree.records (t : ConfigTree) : List (List UInt8) :=
  t.header :: (t.extras.map (·.encode) ++ t.interfaces.flatMap (·.records))

def ConfigTree.encode (t : ConfigTree) : List UInt8 := t.records.flatten

/-- A configuration tree of at most 65535 bytes. -/
structure WellFormedConfig extends ConfigTree where
  total_le : toConfigTree.encode.length ≤ 65535

/-! ## The parsed structure -/

def EndpointTree.toDdk (e : EndpointTree) : UsbDdkEndpointDescriptor where
  endpointDescriptor := {
    bLength := UInt8.ofNat (7 + e.tail.length)
    bDescriptorType := usbDdkDtEndpoint
    bEndpointAddress := e.bEndpointAddress
    bmAttributes := e.bmAttributes
    wMaxPacketSize := e.wMaxPacketSize
    bInterval := e.bInterval }
  extra := extraBlock (e.extras.map (·.encode))
  extraLength := (e.extras.map (·.encode)).flatten.length

/-- The array of the endpoints, a null pointer when there are none. -/
def endpointBlock (es : List EndpointTree) : Option (List UsbDdkEndpointDescriptor) :=
  if es = [] then none else some (es.map (·.toDdk))

def SettingTree.toDdk (number : UInt8) (s : SettingTree) : UsbDdkInterfaceDescriptor where
  interfaceDescriptor := {
    bLength := UInt8.ofNat (9 + s.tail.length)
    bDescriptorType := usbDdkDtInterface
    bInterfaceNumber := number
    bAlternateSetting := s.bAlternateSetting
    bNumEndpoints := UInt8.ofNat s.endpoints.length
    bInterfaceClass := s.bInterfaceClass
    bInterfaceSubClass := s.bInterfaceSubClass
    bInterfaceProtocol := s.bInterfaceProtocol
    iInterface := s.iInterface }
  endPoint := endpointBlock s.endpoints
  extra := extraBlock (s.extras.map (·.encode))
  extraLength := (s.extras.map (·.encode)).flatten.length

def InterfaceTree.toDdk (i : InterfaceTree) : UsbDdkInterface where
  numAltsetting := UInt8.ofNat i.settings.length
  altsetting := some (i.settings.map (·.toDdk i.bInterfaceNumber))

def ConfigTree.toDdk (t : ConfigTree) : UsbDdkConfigDescriptor where
  configDescriptor := {
    bLength := UInt8.ofNat (9 + t.tail.length)
    bDescriptorType := usbDdkDtConfig
    wTotalLength := t.wTotalLength
    bNumInterfaces := UInt8.ofNat t.interfaces.length
    bConfigurationValue := t.bConfigurationValue
    iConfiguration := t.iConfiguration
    bmAttributes := t.bmAttributes
    bMaxPower := t.bMaxPower }
  interface := some (t.interfaces.map (·.toDdk))
  extra := extraBlock (t.extras.map (·.encode))
  extraLength := (t.extras.map (·.encode)).flatten.length

/-! ## Records of a tree -/

theorem ExtraDescriptor.isRecord_encode (d : ExtraDescriptor) : IsRecord d.encode :=
  isRecord_record (Nat.succ_pos _) (by have := d.length_le; simp only [List.length_cons]; omega)

theorem ExtraDescriptor.isExtra_encode (d : ExtraDescriptor) : isExtra d.encode = true := by
  change (!decide (d.bDescriptorType = usbDdkDtInterface) &&
    !decide (d.bDescriptorType = usbDdkDtEndpoint)) = true
  rw [decide_eq_false d.not_interface, decide_eq_false d.not_endpoint]
  rfl

theorem isRecord_of_mem_extras {ds : List ExtraDescriptor} {r : List UInt8}
    (h : r ∈ ds.map (·.encode)) : IsRecord r := by
  obtain ⟨d, -, rfl⟩ := List.mem_map.mp h
  exact d.isRecord_encode

theorem isExtra_of_mem_map {ds : List ExtraDescriptor} {r : List UInt8}
    (h : r ∈ ds.map (·.encode)) : isExtra r = true := by
  obtain ⟨d, -, rfl⟩ := List.mem_map.mp h
  exact d.isExtra_encode

theorem EndpointTree.length_header (e : EndpointTree) : e.header.length = 7 + e.tail.length := by
  simp only [header, length_record, List.length_cons]
  omega

theorem EndpointTree.isRecord_header (e : EndpointTree) : IsRecord e.header :=
  isRecord_record (Nat.succ_pos _) (by have := e.length_le; simp only [List.length_cons]; omega)

theorem EndpointTree.isRecord_of_mem {e : EndpointTree} {r : List UInt8} (h : r ∈ e.records) :
    IsRecord r := by
  rcases List.mem_cons.mp h with rfl | h
  · exact e.isRecord_header
  · exact isRecord_of_mem_extras h

theorem SettingTree.length_header (number : UInt8) (s : SettingTree) :
    (s.header number).length = 9 + s.tail.length := by
  simp only [header, length_record, List.length_cons]
  omega

theorem SettingTree.isRecord_header (number : UInt8) (s : SettingTree) :
    IsRecord (s.header number) :=
  isRecord_record (Nat.succ_pos _) (by have := s.length_le; simp only [List.length_cons]; omega)

theorem SettingTree.isRecord_of_mem {number : UInt8} {s : SettingTree} {r : List UInt8}
    (h : r ∈ s.records number) : IsRecord r := by
  rcases List.mem_cons.mp h with rfl | h
  · exact s.isRecord_header number
  · rcases List.mem_append.mp h with h | h
    · exact isRecord_of_mem_extras h
    · obtain ⟨e, -, he⟩ := List.mem_flatMap.mp h
      exact e.isRecord_of_mem he

theorem InterfaceTree.isRecord_of_mem {i : InterfaceTree} {r : List UInt8} (h : r ∈ i.records) :
    IsRecord r := by
  obtain ⟨s, -, hs⟩ := List.mem_flatMap.mp h
  exact s.isRecord_of_mem hs

theorem ConfigTree.length_header (t : ConfigTree) : t.header.length = 9 + t.tail.length := by
  simp only [header, length_record, List.length_cons]
  omega

theorem ConfigTree.isRecord_header (t : ConfigTree) : IsRecord t.header :=
  isRecord_record (Nat.succ_pos _) (by have := t.length_le; simp only [List.length_cons]; omega)

theorem ConfigTree.isRecord_of_mem {t : ConfigTree} {r : List UInt8} (h : r ∈ t.records) :
    IsRecord r := by
  rcases List.mem_cons.mp h with rfl | h
  · exact t.isRecord_header
  · rcases List.mem_append.mp h with h | h
    · exact isRecord_of_mem_extras h
    · obtain ⟨i, -, hi⟩ := List.mem_flatMap.mp h
      exact i.isRecord_of_mem hi

end ExtDevMgr.Usb
