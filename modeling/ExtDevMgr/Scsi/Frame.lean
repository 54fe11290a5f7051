import ExtDevMgr.Scsi.MemMap

/-!
# The frame of a SCSI transfer

What `transfer` does to the mapping (`transfer_memory`), and when an operation leaves the bytes
outside the caller's window alone: it does for every content and reply only when the window starts at
the front and is not smaller than the `memMapSize` of the request, or when it refuses
(`keepsWindow_iff`).
-/

namespace ExtDevMgr.Scsi
open Region

/-- What is assumed of a reply: a prefix of the mapping of at most `memMapSize` bytes is written, and
`transferredLength` is their number. -/
structure ServiceReply.Lawful (reply : ServiceReply) (memMapSize : Nat) (memory : List UInt8) :
    Prop where
  le_memMapSize : reply.written.length ≤ memMapSize
  le_length : reply.written.length ≤ memory.length
  transferredLength : reply.response.transferredLength = reply.written.length

structure ScsiPeripheralDdk.Lawful (ddk : ScsiPeripheralDdk) : Prop where
  read10 : ∀ dev request memory,
    (ddk.read10 dev request memory).Lawful request.memMapSize memory
  inquiry : ∀ dev request memory,
    (ddk.inquiry dev request memory).1.Lawful request.memMapSize memory
  sendRequestByCdb : ∀ dev request memory,
    (ddk.sendRequestByCdb dev request memory).Lawful request.memMapSize memory

/-! ## The steps of a transfer -/

/-- A map that `ValidateMemMap` accepts, with the bytes `memory`. -/
structure ScsiPeripheralDeviceMemMap.Valid (data : ScsiPeripheralDeviceMemMap)
    (memory : List UInt8) : Prop where
  address : data.address = some memory
  le : data.offset.toNat + data.bufferLength.toNat ≤ memory.length
  pos : 0 < data.bufferLength.toNat

theorem ScsiPeripheralDeviceMemMap.valid_mk {bytes : List UInt8} {offset bufferLength : UInt32}
    (hle : offset.toNat + bufferLength.toNat ≤ bytes.length) (hpos : 0 < bufferLength.toNat) :
    Valid { address := some bytes, offset, bufferLength, transferredLength := 0 } bytes :=
  ⟨rfl, hle, hpos⟩

section
variable {data : ScsiPeripheralDeviceMemMap} {bytes : List UInt8}

theorem ScsiPeripheralDeviceMemMap.memory_eq (h : data.address = some bytes) :
    data.memory = bytes := by
  rw [memory, h]
  rfl

theorem ScsiPeripheralDeviceMemMap.memory_withMemory (h : data.address = some bytes)
    (bytes' : List UInt8) : (data.withMemory bytes').memory = bytes' := by
  rw [memory, withMemory, h]
  rfl

theorem ScsiPeripheralDeviceMemMap.withMemory_memory (data : ScsiPeripheralDeviceMemMap) :
    data.withMemory data.memory = data := by
  obtain ⟨address, offset, bufferLength, transferredLength⟩ := data
  cases address <;> rfl

theorem ScsiPeripheralDeviceMemMap.Valid.size (h : data.Valid bytes) :
    data.size = bytes.length := congrArg List.length (memory_eq h.address)

theorem ScsiPeripheralDeviceMemMap.Valid.validate (h : data.Valid bytes) :
    validateMemMap data = scsiPeripheralDdkSuccess := by
  have hle := h.le
  have hsome : ¬ data.address.isNone = true := by
    rw [h.address]
    exact Bool.false_ne_true
  have hne : data.bufferLength ≠ 0 := by
    intro hzero
    have hpos := h.pos
    rw [hzero] at hpos
    exact absurd hpos (Nat.lt_irrefl 0)
  rw [validateMemMap, h.size, if_neg hsome, if_neg (by omega), if_neg hne]

/-- The bytes that the service works on: the window has been moved to the front. -/
def ScsiPeripheralDeviceMemMap.front (data : ScsiPeripheralDeviceMemMap) : List UInt8 :=
  if data.offset = 0 then data.memory
  else move data.memory 0 data.offset.toNat data.bufferLength.toNat

/-- `NormalizeMemMap` refuses: `memmove_s` does not take so large a mapping. -/
def ScsiPeripheralDeviceMemMap.Refused (data : ScsiPeripheralDeviceMemMap) : Prop :=
  data.offset ≠ 0 ∧ securecMemMaxLen < data.size

theorem ScsiPeripheralDeviceMemMap.Valid.bufferLength_pos (h : data.Valid bytes) :
    data.bufferLength > 0 := UInt32.lt_iff_toNat_lt.mpr h.pos

theorem normalizeMemMap_refused (h : data.Valid bytes) (href : data.Refused) :
    normalizeMemMap data = (scsiPeripheralDdkMemoryError, data) := by
  rw [normalizeMemMap, h.validate, if_neg (not_not.mpr rfl), if_pos ⟨href.1, h.bufferLength_pos⟩,
    memmoveS_large _ _ _ _ href.2]
  exact congrArg (Prod.mk _) data.withMemory_memory

theorem normalizeMemMap_front (h : data.Valid bytes) (href : ¬ data.Refused) :
    normalizeMemMap data = (scsiPeripheralDdkSuccess, data.withMemory data.front) := by
  have hle := h.le
  have hpos := h.pos
  rw [normalizeMemMap, h.validate, if_neg (not_not.mpr rfl), ScsiPeripheralDeviceMemMap.front]
  by_cases hzero : data.offset = 0
  · rw [if_neg fun hne => hne.1 hzero, if_pos hzero, data.withMemory_memory]
  · have hsize : data.size ≤ securecMemMaxLen := Nat.not_lt.mp fun hlt => href ⟨hzero, hlt⟩
    have hlen := h.size
    rw [if_pos ⟨hzero, h.bufferLength_pos⟩, memmoveS_le _ _ _ (by omega) hsize (by omega),
      if_neg hzero]
    rfl

theorem length_front (h : data.Valid bytes) : data.front.length = bytes.length := by
  have hle := h.le
  rw [ScsiPeripheralDeviceMemMap.front, data.memory_eq h.address]
  split
  · rfl
  · rw [move, length_store (by rw [length_load hle]; omega)]

theorem restoreMemMap_memory (h : data.address = some bytes)
    (hlt : data.offset.toNat < bytes.length) (href : ¬ data.Refused) (n : UInt32) :
    (restoreMemMap data n).memory = if data.offset = 0 then bytes
      else move bytes data.offset.toNat 0
        (min n.toNat (bytes.length - data.offset.toNat)) := by
  have hmem := data.memory_eq h
  have hlen : data.size = bytes.length := congrArg List.length hmem
  rw [restoreMemMap]
  by_cases hzero : data.offset = 0
  · rw [if_pos (.inr (.inl hzero)), if_pos hzero, hmem]
  · rw [if_neg hzero]
    by_cases hn : n = 0
    · rw [if_pos (.inr (.inr hn)), hn, hmem, move, load]
      exact (store_nil _ _).symm
    · have hsize : data.size ≤ securecMemMaxLen := Nat.not_lt.mp fun hlt => href ⟨hzero, hlt⟩
      rw [if_neg (by simp [h, hzero, hn])]
      dsimp only
      rw [memmoveS_le _ _ _ (by omega) (by omega) (by omega), hmem, hlen]
      exact data.memory_withMemory h _

/-! ## The transfer -/

/-- Whether the code of a reply is a success. -/
abbrev ServiceReply.Succeeds (platform : Platform) (reply : ServiceReply) : Prop :=
  transToDdkErrCode platform reply.ret = scsiPeripheralDdkSuccess

/-- How many bytes `RestoreMemMap` moves back. -/
def restored (platform : Platform) (data : ScsiPeripheralDeviceMemMap) (reply : ServiceReply) :
    Nat :=
  if reply.Succeeds platform ∧ data.offset ≠ 0 then
    min (toUInt32 reply.response.transferredLength).toNat (data.size - data.offset.toNat)
  else
    0

theorem transfer_refused {ι : Type} (platform : Platform) (h : data.Valid bytes)
    (href : data.Refused) (call : List UInt8 → ServiceReply × ι) :
    (transfer platform data call).data.memory = bytes := by
  rw [transfer, normalizeMemMap_refused h href]
  exact data.memory_eq h.address

/-- What a transfer leaves in the mapping. -/
theorem transfer_memory {ι : Type} (platform : Platform) (h : data.Valid bytes)
    (href : ¬ data.Refused) (call : List UInt8 → ServiceReply × ι)
    (hlawful : (call data.front).1.written.length ≤ bytes.length) :
    (transfer platform data call).data.memory =
      move (store data.front 0 (call data.front).1.written) data.offset.toNat 0
        (restored platform data (call data.front).1) := by
  have hfront := data.memory_withMemory h.address data.front
  have haddress : (data.withMemory data.front).address = some data.front := by
    rw [ScsiPeripheralDeviceMemMap.withMemory, h.address]
    rfl
  have hlen : (store data.front 0 (call data.front).1.written).length = bytes.length := by
    rw [length_store (by rw [length_front h, Nat.zero_add]; exact hlawful), length_front h]
  have hlt : data.offset.toNat < bytes.length := by
    have hle := h.le
    have hpos := h.pos
    omega
  rw [transfer, normalizeMemMap_front h href]
  simp only [ne_eq, not_true_eq_false, if_false, hfront]
  have hdata : ((data.withMemory data.front).withMemory
      (store data.front 0 (call data.front).1.written)).address =
        some (store data.front 0 (call data.front).1.written) := by
    rw [ScsiPeripheralDeviceMemMap.withMemory, haddress]
    rfl
  by_cases hret : (call data.front).1.Succeeds platform
  · have href' : ¬ ((data.withMemory data.front).withMemory
        (store data.front 0 (call data.front).1.written)).Refused := by
      intro hrefused
      refine href ⟨hrefused.1, ?_⟩
      have hsize := hrefused.2
      rw [ScsiPeripheralDeviceMemMap.size, ScsiPeripheralDeviceMemMap.memory_eq hdata, hlen] at hsize
      rw [h.size]
      exact hsize
    rw [if_neg (not_not.mpr hret)]
    refine (restoreMemMap_memory hdata (by rw [hlen]; exact hlt) href' _).trans ?_
    have hoffset : ((data.withMemory data.front).withMemory
        (store data.front 0 (call data.front).1.written)).offset = data.offset := rfl
    rw [hoffset, hlen, restored, ← h.size]
    by_cases hzero : data.offset = 0
    · rw [if_pos hzero, if_neg fun hne => hne.2 hzero, move, load]
      exact (store_nil _ _).symm
    · rw [if_neg hzero, if_pos ⟨hret, hzero⟩]
  · rw [if_pos hret, restored, if_neg fun hne => hret hne.1, move, load]
    exact (ScsiPeripheralDeviceMemMap.memory_eq hdata).trans (store_nil _ _).symm

theorem transfer_data {ι : Type} (platform : Platform) (data : ScsiPeripheralDeviceMemMap)
    (call : List UInt8 → ServiceReply × ι) :
    (transfer platform data call).data =
      (transfer platform data fun memory => ((call memory).1, ())).data := by
  rw [transfer, transfer]
  dsimp only
  split
  · rfl
  · split <;> rfl

/-! ## The frame -/

/-- Every byte that is put outside the window is the byte that was there: the window moved to the
front, the prefix written by the service, and what `RestoreMemMap` moves back. -/
structure Harmless (bytes : List UInt8) (offset bufferLength : Nat) (written : List UInt8)
    (restored : Nat) : Prop where
  moved : ∀ i, i < offset → written.length ≤ i → i < bufferLength →
    bytes[offset + i]? = bytes[i]?
  before : ∀ i, i < offset → i < written.length → written[i]? = bytes[i]?
  behind : ∀ i, offset + bufferLength ≤ i → offset + restored ≤ i → i < written.length →
    written[i]? = bytes[i]?
  back : ∀ i, bufferLength ≤ i → i < restored → written[i]? = bytes[offset + i]?

theorem getElem?_front (h : data.Valid bytes) (i : Nat) :
    data.front[i]? =
      if i < data.bufferLength.toNat then bytes[data.offset.toNat + i]? else bytes[i]? := by
  have hlen := length_load h.le
  rw [ScsiPeripheralDeviceMemMap.front, data.memory_eq h.address]
  by_cases hzero : data.offset = 0
  · rw [if_pos hzero, hzero]
    split
    · exact congrArg (bytes[·]?) (Nat.zero_add i).symm
    · rfl
  · rw [if_neg hzero, move]
    split
    · rename_i hlt
      have hget := @getElem?_store_mem _ bytes
        (load bytes data.offset.toNat data.bufferLength.toNat) 0 (Nat.zero_le _) i (hlen.symm ▸ hlt)
      rw [Nat.zero_add] at hget
      rw [hget, getElem?_load hlt]
    · rename_i hge
      exact getElem?_store_ge (Nat.zero_le _) (by omega)

theorem getElem?_front_ge (h : data.Valid bytes) {i : Nat}
    (hi : data.bufferLength.toNat ≤ i) : data.front[i]? = bytes[i]? :=
  (getElem?_front h i).trans (if_neg (Nat.not_lt.mpr hi))

theorem getElem?_written {front written : List UInt8} (i : Nat) :
    (store front 0 written)[i]? = if i < written.length then written[i]? else front[i]? := by
  split
  · rename_i hlt
    have hget := getElem?_store_mem (Nat.zero_le front.length) hlt
    rwa [Nat.zero_add] at hget
  · rename_i hge
    exact getElem?_store_ge (Nat.zero_le _) (by omega)

/-- A transfer that reaches the service changes nothing outside the window exactly when the bytes it
puts there are harmless. -/
theorem sameOutside_iff (h : data.Valid bytes) {written : List UInt8} {n : Nat}
    (hn : n ≤ written.length) (hroom : data.offset.toNat + n ≤ bytes.length)
    (hwritten : written.length ≤ bytes.length) :
    SameOutside data.offset.toNat (data.offset.toNat + data.bufferLength.toNat) bytes
        (move (store data.front 0 written) data.offset.toNat 0 n) ↔
      Harmless bytes data.offset.toNat data.bufferLength.toNat written n := by
  have hlen : (store data.front 0 written).length = bytes.length := by
    rw [length_store (by rw [length_front h]; omega), length_front h]
  have hload : (load (store data.front 0 written) 0 n).length = n := length_load (by omega)
  have hlt : ∀ i, i < data.offset.toNat →
      (move (store data.front 0 written) data.offset.toNat 0 n)[i]? =
        if i < written.length then written[i]? else
          if i < data.bufferLength.toNat then bytes[data.offset.toNat + i]? else bytes[i]? := by
    intro i hi
    rw [move, getElem?_store_lt (by omega) hi, getElem?_written, getElem?_front h i]
  have hback : ∀ i, i < n →
      (move (store data.front 0 written) data.offset.toNat 0 n)[data.offset.toNat + i]? =
        written[i]? := by
    intro i hi
    rw [move, getElem?_store_mem (by omega) (by omega), getElem?_load hi, Nat.zero_add,
      getElem?_written, if_pos (by omega)]
  have hge : ∀ i, data.bufferLength.toNat ≤ i → data.offset.toNat + n ≤ i →
      (move (store data.front 0 written) data.offset.toNat 0 n)[i]? =
        if i < written.length then written[i]? else bytes[i]? := by
    intro i hi hi'
    rw [move, getElem?_store_ge (by omega) (by omega), getElem?_written, getElem?_front_ge h hi]
  constructor
  · intro hsame
    constructor
    · intro i hi hw hb
      have heq := hsame i (.inl hi)
      rwa [hlt i hi, if_neg (by omega), if_pos hb] at heq
    · intro i hi hw
      have heq := hsame i (.inl hi)
      rwa [hlt i hi, if_pos hw] at heq
    · intro i hi hi' hw
      have heq := hsame i (.inr hi)
      rwa [hge i (by omega) hi', if_pos hw] at heq
    · intro i hb hi
      have heq := hsame (data.offset.toNat + i) (.inr (by omega))
      rwa [hback i hi] at heq
  · intro hharm i hi
    rcases hi with hi | hi
    · rw [hlt i hi]
      split
      · rename_i hw
        exact hharm.before i hi hw
      · split
        · rename_i hw hb
          exact hharm.moved i hi (by omega) hb
        · rfl
    · by_cases hi' : i < data.offset.toNat + n
      · obtain ⟨j, rfl⟩ : ∃ j, i = data.offset.toNat + j := ⟨i - data.offset.toNat, by omega⟩
        rw [hback j (by omega)]
        exact hharm.back j (by omega) (by omega)
      · rw [hge i (by omega) (by omega)]
        split
        · rename_i hw
          exact hharm.behind i hi (by omega) hw
        · rfl

end

/-! ## The operations -/

inductive Operation where
  | read10
  | inquiry
  | sendRequestByCdb

/-- The `memMapSize` of the request. -/
def Operation.memMapSize (platform : Platform) (size : Nat) (bufferLength : UInt32) :
    Operation → Nat
  | .read10 | .inquiry => platform.toMemMapSize size
  | .sendRequestByCdb => platform.toMemMapSize bufferLength.toNat

/-- The arguments of a call of one of the operations, without null pointers. -/
inductive Call where
  | read10 (request : ScsiPeripheralIORequest)
  | inquiry (request : ScsiPeripheralInquiryRequest) (inquiryInfo : ScsiPeripheralInquiryInfo)
  | sendRequestByCdb (request : ScsiPeripheralRequest)

def Call.operation : Call → Operation
  | .read10 _ => .read10
  | .inquiry _ _ => .inquiry
  | .sendRequestByCdb _ => .sendRequestByCdb

def Call.data : Call → Option ScsiPeripheralDeviceMemMap
  | .read10 request => request.data
  | .inquiry _ inquiryInfo => inquiryInfo.data
  | .sendRequestByCdb request => request.data

/-- A command without a descriptor block is refused. -/
def Call.Skipped : Call → Prop
  | .sendRequestByCdb request => request.cdbLength = 0
  | _ => False

section
variable (platform : Platform) (ddk : ScsiPeripheralDdk) (dev : HdiDevice)

/-- The memory map after the call. -/
def Call.after (response : ScsiPeripheralResponse) : Call → Option ScsiPeripheralDeviceMemMap
  | .read10 request =>
    (ohScsiPeripheralRead10 platform (some ddk) (some dev) (some request)
      (some response)).2.1.bind (·.data)
  | .inquiry request inquiryInfo =>
    (ohScsiPeripheralInquiry platform (some ddk) (some dev) (some request) (some inquiryInfo)
      (some response)).2.1.bind (·.data)
  | .sendRequestByCdb request =>
    (ohScsiPeripheralSendRequestByCdb platform (some ddk) (some dev) (some request)
      (some response)).2.1.bind (·.data)

/-- The reply of the service to the request of the call. -/
def Call.serve (data : ScsiPeripheralDeviceMemMap) (memory : List UInt8) : Call → ServiceReply
  | .read10 request => ddk.read10 dev (request.toHdi platform data) memory
  | .inquiry request _ => (ddk.inquiry dev (request.toHdi platform data) memory).1
  | .sendRequestByCdb request => ddk.sendRequestByCdb dev (request.toHdi platform data) memory

variable {platform ddk dev} {data : ScsiPeripheralDeviceMemMap} {call : Call}

theorem Call.serve_lawful (hddk : ddk.Lawful) (memory : List UInt8) :
    (call.serve platform ddk dev data memory).Lawful
      (call.operation.memMapSize platform data.size data.bufferLength) memory := by
  cases call with
  | read10 request => exact hddk.read10 dev _ memory
  | inquiry request inquiryInfo => exact hddk.inquiry dev _ memory
  | sendRequestByCdb request => exact hddk.sendRequestByCdb dev _ memory

theorem Call.after_skipped (response : ScsiPeripheralResponse) (h : call.data = some data)
    (hskip : call.Skipped) : call.after platform ddk dev response = some data := by
  cases call with
  | read10 request => exact hskip.elim
  | inquiry request inquiryInfo => exact hskip.elim
  | sendRequestByCdb request =>
    have hdata : request.data = some data := h
    have hzero : request.cdbLength = 0 := hskip
    simp only [after, ohScsiPeripheralSendRequestByCdb, Option.bind_some, hdata, if_pos hzero]

/-- Every operation leaves the mapping as its transfer does. -/
theorem Call.after_memory (response : ScsiPeripheralResponse) (h : call.data = some data)
    (hskip : ¬ call.Skipped) :
    (call.after platform ddk dev response).map (·.memory) =
      some (transfer platform data fun memory =>
        (call.serve platform ddk dev data memory, ())).data.memory := by
  cases call with
  | read10 request =>
    have hdata : request.data = some data := h
    simp only [after, ohScsiPeripheralRead10, Option.bind_some, hdata]
    split <;> rfl
  | inquiry request inquiryInfo =>
    have hdata : inquiryInfo.data = some data := h
    have heq := transfer_data platform data (ddk.inquiry dev (request.toHdi platform data))
    simp only [after, ohScsiPeripheralInquiry, Option.bind_some, hdata]
    simp only [serve, ← heq]
    split
    · rfl
    · split
      · rfl
      · split
        · rfl
        · split <;> rfl
  | sendRequestByCdb request =>
    have hdata : request.data = some data := h
    have hne : ¬ request.cdbLength = 0 := hskip
    simp only [after, ohScsiPeripheralSendRequestByCdb, Option.bind_some, hdata, if_neg hne]
    split <;> rfl

end

/-! ## The theorem -/

/-- A call with a map that `ValidateMemMap` accepts, and a service as it is assumed. -/
structure Run (platform : Platform) where
  ddk : ScsiPeripheralDdk
  lawful : ddk.Lawful
  dev : HdiDevice
  response : ScsiPeripheralResponse
  call : Call
  data : ScsiPeripheralDeviceMemMap
  bytes : List UInt8
  hasData : call.data = some data
  valid : data.Valid bytes

namespace Run
variable {platform : Platform} (run : Run platform)

/-- The bytes of the mapping after the call. -/
def after : List UInt8 :=
  ((run.call.after platform run.ddk run.dev run.response).map (·.memory)).getD []

/-- What the service replies, called with the window at the front. -/
def reply : ServiceReply := run.call.serve platform run.ddk run.dev run.data run.data.front

/-- The call changes no byte outside the caller's window. -/
def KeepsWindow : Prop :=
  SameOutside run.data.offset.toNat (run.data.offset.toNat + run.data.bufferLength.toNat)
    run.bytes run.after

/-- If the service is called, the bytes put outside the window are harmless. -/
def IsHarmless : Prop :=
  ¬ run.call.Skipped → ¬ run.data.Refused →
    Harmless run.bytes run.data.offset.toNat run.data.bufferLength.toNat run.reply.written
      (restored platform run.data run.reply)

theorem after_unserved (h : run.call.Skipped ∨ run.data.Refused) : run.after = run.bytes := by
  rw [after]
  by_cases hskip : run.call.Skipped
  · rw [Call.after_skipped run.response run.hasData hskip]
    exact run.data.memory_eq run.valid.address
  · rw [Call.after_memory run.response run.hasData hskip]
    exact transfer_refused platform run.valid (h.resolve_left hskip) _

theorem reply_lawful : run.reply.Lawful
    (run.call.operation.memMapSize platform run.data.size run.data.bufferLength) run.data.front :=
  Call.serve_lawful run.lawful run.data.front

theorem restored_le : restored platform run.data run.reply ≤ run.reply.written.length := by
  rw [restored]
  split
  · refine Nat.le_trans (Nat.min_le_left _ _) ?_
    rw [run.reply_lawful.transferredLength]
    exact toUInt32_natCast_le _
  · exact Nat.zero_le _

theorem keepsWindow_iff_isHarmless : run.KeepsWindow ↔ run.IsHarmless := by
  have hvalid := run.valid
  by_cases h : run.call.Skipped ∨ run.data.Refused
  · rw [KeepsWindow, run.after_unserved h]
    refine ⟨fun _ hskip href => ?_, fun _ => .refl _ _ _⟩
    exact absurd h (not_or.mpr ⟨hskip, href⟩)
  · obtain ⟨hskip, href⟩ := not_or.mp h
    have hlawful := run.reply_lawful.le_length
    rw [length_front hvalid] at hlawful
    have hroom : run.data.offset.toNat + restored platform run.data run.reply ≤
        run.bytes.length := by
      have hle := hvalid.le
      rw [restored, hvalid.size]
      split <;> omega
    have hiff := sameOutside_iff hvalid run.restored_le hroom hlawful
    rw [KeepsWindow, after, Call.after_memory run.response run.hasData hskip, Option.getD_some,
      transfer_memory platform hvalid href _ hlawful]
    exact hiff.trans ⟨fun hharm _ _ => hharm, fun hharm => hharm hskip href⟩

end Run

/-! ## The bad geometries -/

/-- A service that puts as much of `bytes` to the front of the mapping as it may. -/
def writing (bytes : List UInt8) : ScsiPeripheralDdk :=
  let reply (memMapSize : Nat) (memory : List UInt8) : ServiceReply := {
    ret := 0
    response := {
      senseData := [], status := 0, maskedStatus := 0, msgStatus := 0, sbLenWr := 0
      hostStatus := 0, driverStatus := 0, resId := 0, duration := 0
      transferredLength := (bytes.take (min memMapSize memory.length)).length }
    written := bytes.take (min memMapSize memory.length) }
  { read10 := fun _ request memory => reply request.memMapSize memory
    inquiry := fun _ request memory => (reply request.memMapSize memory, {
      deviceType := 0, idVendor := [], idProduct := [], revProduct := [] })
    sendRequestByCdb := fun _ request memory => reply request.memMapSize memory }

theorem lawful_writing (bytes : List UInt8) : (writing bytes).Lawful := by
  have hlawful : ∀ (memMapSize : Nat) (memory : List UInt8),
      (bytes.take (min memMapSize memory.length)).length ≤ memMapSize ∧
        (bytes.take (min memMapSize memory.length)).length ≤ memory.length := by
    intro memMapSize memory
    rw [List.length_take]
    omega
  constructor
  · exact fun _ request memory => ⟨(hlawful _ memory).1, (hlawful _ memory).2, rfl⟩
  · exact fun _ request memory => ⟨(hlawful _ memory).1, (hlawful _ memory).2, rfl⟩
  · exact fun _ request memory => ⟨(hlawful _ memory).1, (hlawful _ memory).2, rfl⟩

/-- A call of the operation with a map. -/
def Operation.call (data : ScsiPeripheralDeviceMemMap) : Operation → Call
  | .read10 => .read10 {
      lbAddress := 0, transferLength := 1, control := 0, byte1 := 0, byte6 := 0
      data := some data, timeout := 1000 }
  | .inquiry => .inquiry
      { pageCode := 0, allocationLength := 36, control := 0, byte1 := 0, timeout := 1000 }
      { deviceType := 0, idVendor := [], idProduct := [], revProduct := [], data := some data }
  | .sendRequestByCdb => .sendRequestByCdb {
      commandDescriptorBlock := [0], cdbLength := 1, dataTransferDirection := 0
      data := some data, timeout := 1000 }

/-- A run of the operation on `bytes` with a service that writes `written`. -/
def Operation.run (platform : Platform) (op : Operation) (bytes written : List UInt8)
    (offset bufferLength : UInt32) (hle : offset.toNat + bufferLength.toNat ≤ bytes.length)
    (hpos : 0 < bufferLength.toNat) : Run platform where
  ddk := writing written
  lawful := lawful_writing written
  dev := { devFd := 0, memMapFd := 0, lbLength := 512 }
  response := {
    senseData := List.replicate 252 0, status := 0, maskedStatus := 0, msgStatus := 0
    sbLenWr := 0, hostStatus := 0, driverStatus := 0, resId := 0, duration := 0 }
  call := op.call { address := some bytes, offset, bufferLength, transferredLength := 0 }
  data := { address := some bytes, offset, bufferLength, transferredLength := 0 }
  bytes := bytes
  hasData := by cases op <;> rfl
  valid := ScsiPeripheralDeviceMemMap.valid_mk hle hpos

section
variable (platform : Platform) (op : Operation) {size : Nat} {offset bufferLength : UInt32}

theorem Operation.run_harmless {bytes written : List UInt8} {offset bufferLength : UInt32}
    {hle : offset.toNat + bufferLength.toNat ≤ bytes.length} {hpos : 0 < bufferLength.toNat}
    (href : ¬ (offset ≠ 0 ∧ securecMemMaxLen < bytes.length))
    (h : (op.run platform bytes written offset bufferLength hle hpos).KeepsWindow) :
    ∃ n, (offset = 0 → n = 0) ∧ Harmless bytes offset.toNat bufferLength.toNat
      (written.take (min (op.memMapSize platform bytes.length bufferLength) bytes.length)) n := by
  have hharm := (Run.keepsWindow_iff_isHarmless _).mp h
  have hskip : ¬ (op.run platform bytes written offset bufferLength hle hpos).call.Skipped := by
    cases op
    · exact id
    · exact id
    · exact fun hzero => absurd (show (1 : UInt8) = 0 from hzero) (by decide)
  have hwritten : (op.run platform bytes written offset bufferLength hle hpos).reply.written =
      written.take (min (op.memMapSize platform bytes.length bufferLength) bytes.length) := by
    have hlen := length_front (op.run platform bytes written offset bufferLength hle hpos).valid
    cases op <;> exact congrArg (fun n => written.take (min _ n)) hlen
  refine ⟨_, fun hzero => ?_, hwritten ▸ hharm hskip href⟩
  exact if_neg fun hne => hne.2 hzero

/-- With the window behind the front, moving it there changes a byte before it. -/
theorem Operation.exists_bad_of_offset (hle : offset.toNat + bufferLength.toNat ≤ size)
    (hpos : 0 < bufferLength.toNat) (hne : offset ≠ 0) (hsize : size ≤ securecMemMaxLen) :
    ∃ run : Run platform, run.call.operation = op ∧ run.bytes.length = size ∧
      run.data.offset = offset ∧ run.data.bufferLength = bufferLength ∧ ¬ run.KeepsWindow := by
  have hlen : ((List.replicate size (0 : UInt8)).set offset.toNat 1).length = size := by
    rw [List.length_set, List.length_replicate]
  have hoffset : 0 < offset.toNat := by
    refine Nat.pos_of_ne_zero fun hzero => hne ?_
    exact UInt32.toNat_inj.mp hzero
  refine ⟨op.run platform ((List.replicate size 0).set offset.toNat 1) [] offset bufferLength
    (hlen.symm ▸ hle) hpos, ?_, hlen, rfl, rfl, fun hkeeps => ?_⟩
  · cases op <;> rfl
  · obtain ⟨n, -, hharm⟩ := op.run_harmless platform (by rw [hlen]; omega) hkeeps
    rw [List.take_nil] at hharm
    have hmoved := hharm.moved 0 hoffset (Nat.zero_le _) hpos
    rw [Nat.add_zero, List.getElem?_set_self (by rw [List.length_replicate]; omega),
      List.getElem?_set_ne (by omega), List.getElem?_replicate, if_pos (by omega)] at hmoved
    exact absurd hmoved (by decide)

/-- With a `memMapSize` beyond the window, the service may write behind it. -/
theorem Operation.exists_bad_of_memMapSize (hle : bufferLength.toNat ≤ size)
    (hpos : 0 < bufferLength.toNat)
    (hlong : bufferLength.toNat < op.memMapSize platform size bufferLength) :
    ∃ run : Run platform, run.call.operation = op ∧ run.bytes.length = size ∧
      run.data.offset = 0 ∧ run.data.bufferLength = bufferLength ∧ ¬ run.KeepsWindow := by
  have hlen : (List.replicate size (0 : UInt8)).length = size := List.length_replicate
  have hlt : bufferLength.toNat < size := by
    cases op with
    | read10 => exact Nat.lt_of_lt_of_le hlong (platform.toMemMapSize_le size)
    | inquiry => exact Nat.lt_of_lt_of_le hlong (platform.toMemMapSize_le size)
    | sendRequestByCdb =>
      exact absurd hlong (Nat.not_lt.mpr (platform.toMemMapSize_le bufferLength.toNat))
  refine ⟨op.run platform (List.replicate size 0) (List.replicate size 1) 0 bufferLength
    (by rw [hlen]; exact (Nat.zero_add _).symm ▸ hle) hpos, ?_, hlen, rfl, rfl, fun hkeeps => ?_⟩
  · cases op <;> rfl
  · obtain ⟨n, hn, hharm⟩ := op.run_harmless platform (fun hne => hne.1 rfl) hkeeps
    rw [hn rfl, hlen, List.take_replicate] at hharm
    have hbehind := hharm.behind bufferLength.toNat (Nat.le_of_eq (Nat.zero_add _))
      (Nat.zero_le _) (by rw [List.length_replicate]; omega)
    rw [List.getElem?_replicate, List.getElem?_replicate, if_pos (by omega), if_pos hlt] at hbehind
    exact absurd hbehind (by decide)

theorem Run.keepsWindow_of_front (run : Run platform) (hzero : run.data.offset = 0)
    (hle : run.call.operation.memMapSize platform run.bytes.length run.data.bufferLength ≤
      run.data.bufferLength.toNat) : run.KeepsWindow := by
  refine run.keepsWindow_iff_isHarmless.mpr fun _ _ => ?_
  have hlawful := run.reply_lawful.le_memMapSize
  rw [run.valid.size] at hlawful
  have hrestored : restored platform run.data run.reply = 0 := if_neg fun hne => hne.2 hzero
  rw [hrestored, hzero]
  constructor
  · exact fun i hi => absurd hi (Nat.not_lt_zero i)
  · exact fun i hi => absurd hi (Nat.not_lt_zero i)
  · intro i hi _ hw
    have hi' : 0 + run.data.bufferLength.toNat ≤ i := hi
    omega
  · exact fun i _ hi => absurd hi (Nat.not_lt_zero i)

theorem Run.keepsWindow_of_refused (run : Run platform) (href : run.data.Refused) :
    run.KeepsWindow :=
  run.keepsWindow_iff_isHarmless.mpr fun _ href' => absurd href href'

end

/-- A call changes no byte outside the window exactly when the bytes put there are harmless. A window
keeps this for every content and every reply exactly when it starts at the front and `memMapSize` does
not exceed it, or when it is refused. -/
theorem keepsWindow_iff (platform : Platform) :
    (∀ run : Run platform, run.KeepsWindow ↔ run.IsHarmless) ∧
    ∀ (op : Operation) (size : Nat) (offset bufferLength : UInt32),
      offset.toNat + bufferLength.toNat ≤ size → 0 < bufferLength.toNat →
      ((∀ run : Run platform, run.call.operation = op → run.bytes.length = size →
          run.data.offset = offset → run.data.bufferLength = bufferLength → run.KeepsWindow) ↔
        offset = 0 ∧ op.memMapSize platform size bufferLength ≤ bufferLength.toNat ∨
        offset ≠ 0 ∧ securecMemMaxLen < size) := by
  refine ⟨fun run => run.keepsWindow_iff_isHarmless, fun op size offset bufferLength hle hpos => ?_⟩
  constructor
  · intro hall
    by_cases hzero : offset = 0
    · subst hzero
      refine .inl ⟨rfl, Nat.not_lt.mp fun hlong => ?_⟩
      obtain ⟨run, hop, hsize, hoffset, hlength, hbad⟩ :=
        op.exists_bad_of_memMapSize platform (Nat.le_trans (Nat.le_add_left _ _) hle) hpos hlong
      exact hbad (hall run hop hsize hoffset hlength)
    · refine .inr ⟨hzero, Nat.not_le.mp fun hsmall => ?_⟩
      obtain ⟨run, hop, hsize, hoffset, hlength, hbad⟩ :=
        op.exists_bad_of_offset platform hle hpos hzero hsmall
      exact hbad (hall run hop hsize hoffset hlength)
  · rintro hcond run rfl rfl rfl rfl
    rcases hcond with ⟨hzero, hle⟩ | ⟨hne, hlarge⟩
    · exact run.keepsWindow_of_front platform hzero hle
    · exact run.keepsWindow_of_refused platform ⟨hne, run.valid.size ▸ hlarge⟩

/-- `memMapSize` an `uint32_t`. -/
def platform32 : Platform where
  toMemMapSize n := n % 2 ^ 32
  toMemMapSize_le _ := Nat.mod_le _ _
  hdfSuccess := 0
  ohIpcErrorCodeBase := 1901000
  ohIpcErrorCodeMax := 1909999

/-- A window that is the whole mapping is kept. -/
theorem wholeWindow_kept : ∀ run : Run platform32, run.call.operation = .read10 →
    run.bytes.length = 8 → run.data.offset = 0 → run.data.bufferLength = 8 → run.KeepsWindow :=
  ((keepsWindow_iff platform32).2 .read10 8 0 8 (by decide) (by decide)).mpr
    (.inl ⟨rfl, by decide⟩)

/-- The window 4 to 8 of eight bytes is moved to the front, and a service that writes nothing leaves
it there; `Read10` of the window 0 to 4 lets the service write all eight bytes. -/
theorem windows_not_kept :
    (Operation.read10.run platform32 [1, 2, 3, 4, 5, 6, 7, 8] [] 4 4 (by decide) (by decide)).after =
        [5, 6, 7, 8, 5, 6, 7, 8] ∧
      (Operation.read10.run platform32 [1, 2, 3, 4, 5, 6, 7, 8] [9, 9, 9, 9, 9, 9, 9, 9] 0 4
        (by decide) (by decide)).after = [9, 9, 9, 9, 9, 9, 9, 9] ∧
      ¬ ∀ run : Run platform32, run.KeepsWindow := by
  refine ⟨by decide +kernel, by decide +kernel, fun hall => ?_⟩
  obtain ⟨run, -, -, -, -, hbad⟩ := Operation.read10.exists_bad_of_offset platform32
    (show (4 : UInt32).toNat + (4 : UInt32).toNat ≤ 8 by decide) (by decide) (by decide) (by decide)
  exact hbad (hall run)

end ExtDevMgr.Scsi
