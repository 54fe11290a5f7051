import ExtDevMgr.Scsi.Frame

/-!
# SCSI writes from a memory map

`OH_ScsiPeripheral_Write10` moves the window to the front of the mapping like a read, although it has
nothing to receive. Only what `RestoreMemMap` moves back survives where the two overlap, and nothing
puts the front back (`write10_keeps_iff`).
-/

namespace ExtDevMgr.Scsi
open Region

/-- The service, as `Write10` uses it. -/
structure WriteDdk where
  write10 : HdiDevice → HdiIORequest → List UInt8 → ServiceReply

/-- `Write10` only reads the mapping. -/
def WriteDdk.ReadsOnly (ddk : WriteDdk) : Prop :=
  ∀ dev request memory, (ddk.write10 dev request memory).written = []

section
variable (platform : Platform) (gDdk : Option WriteDdk) (dev : Option HdiDevice)

def ohScsiPeripheralWrite10 (request : Option ScsiPeripheralIORequest)
    (response : Option ScsiPeripheralResponse) :
    Int × Option ScsiPeripheralIORequest × Option ScsiPeripheralResponse :=
  match gDdk with
  | none => (scsiPeripheralDdkInitError, request, response)
  | some ddk =>
    match dev, request, request.bind (·.data), response with
    | some dev, some req, some data, some resp =>
      let hdiRequest := req.toHdi platform data
      let t := transfer platform data fun memory => (ddk.write10 dev hdiRequest memory, ())
      match t.reply with
      | none => (t.ret, some { req with data := some t.data }, response)
      | some (reply, _) =>
        let transferredLength := toUInt32 reply.response.transferredLength
        let (ret, resp) := copyResponse reply.response resp
        (ret, some { req with data := some { t.data with transferredLength } }, some resp)
    | _, _, _, _ => (scsiPeripheralDdkInvalidParameter, request, response)

end

/-! ## The content after a write -/

section
variable {data : ScsiPeripheralDeviceMemMap} {bytes : List UInt8}

/-- What `RestoreMemMap` moves back is what it finds there; the rest of the window stays at the
front. -/
theorem getElem?_movedBack (h : data.Valid bytes) {n : Nat} (hn : n ≤ data.bufferLength.toNat)
    (i : Nat) : (move data.front data.offset.toNat 0 n)[i]? =
      if i < data.bufferLength.toNat ∧ (i < data.offset.toNat ∨ data.offset.toNat + n ≤ i) then
        bytes[data.offset.toNat + i]?
      else bytes[i]? := by
  have hle := h.le
  have hlen := length_front h
  have hload : (load data.front 0 n).length = n := length_load (by omega)
  by_cases hback : data.offset.toNat ≤ i ∧ i < data.offset.toNat + n
  · obtain ⟨j, rfl⟩ : ∃ j, i = data.offset.toNat + j := ⟨i - data.offset.toNat, by omega⟩
    have hj : j < n := by omega
    rw [move, getElem?_store_mem (by omega) (by omega), getElem?_load hj, Nat.zero_add,
      getElem?_front h j, if_pos (by omega), if_neg (by omega)]
  · have hsame : (move data.front data.offset.toNat 0 n)[i]? = data.front[i]? := by
      rcases Nat.lt_or_ge i data.offset.toNat with hlt | hge
      · exact getElem?_store_lt (by omega) hlt
      · exact getElem?_store_ge (by omega) (by omega)
    rw [hsame, getElem?_front h i]
    exact if_congr (by omega) rfl rfl

theorem movedBack_eq_iff (h : data.Valid bytes) {n : Nat} (hn : n ≤ data.bufferLength.toNat) :
    move data.front data.offset.toNat 0 n = bytes ↔
      ∀ i, i < data.bufferLength.toNat → i < data.offset.toNat ∨ data.offset.toNat + n ≤ i →
        bytes[data.offset.toNat + i]? = bytes[i]? := by
  constructor
  · intro heq i hi hout
    have hget := getElem?_movedBack h hn i
    rw [heq, if_pos ⟨hi, hout⟩] at hget
    exact hget.symm
  · intro hsame
    apply List.ext_getElem?
    intro i
    rw [getElem?_movedBack h hn i]
    split
    · rename_i hout
      exact hsame i hout.1 hout.2
    · rfl

end

/-! ## The theorem -/

/-- A call of `Write10` with a map that `ValidateMemMap` accepts, and a service as it is assumed. -/
structure WriteRun (platform : Platform) where
  gDdk : Option WriteDdk
  readsOnly : ∀ ddk, gDdk = some ddk → ddk.ReadsOnly
  dev : Option HdiDevice
  request : ScsiPeripheralIORequest
  response : Option ScsiPeripheralResponse
  data : ScsiPeripheralDeviceMemMap
  bytes : List UInt8
  hasData : request.data = some data
  valid : data.Valid bytes
  transferred_le : ∀ ddk dev memory, gDdk = some ddk →
    let reply := ddk.write10 dev (request.toHdi platform data) memory
    reply.Succeeds platform →
      (toUInt32 reply.response.transferredLength).toNat ≤ data.bufferLength.toNat

namespace WriteRun
variable {platform : Platform} (run : WriteRun platform)

/-- The bytes of the mapping after the call. -/
def after : List UInt8 :=
  ((ohScsiPeripheralWrite10 platform run.gDdk run.dev (some run.request) run.response).2.1.bind
    (·.data)).elim [] (·.memory)

def KeepsContent : Prop := run.after = run.bytes

/-- The reply of the service, if it is reached. -/
def reply : Option ServiceReply :=
  match run.gDdk, run.dev, run.response with
  | some ddk, some dev, some _ =>
    some (ddk.write10 dev (run.request.toHdi platform run.data) run.data.front)
  | _, _, _ => none

/-- How many bytes a reply reports as transferred; a failure reports none. -/
def transferred (platform : Platform) (reply : ServiceReply) : Nat :=
  if reply.Succeeds platform then (toUInt32 reply.response.transferredLength).toNat else 0

/-- The window and the front of the mapping agree wherever the one is not moved back. -/
def Agrees : Prop :=
  ∀ reply, run.reply = some reply → ¬ run.data.Refused →
    ∀ i, i < run.data.bufferLength.toNat →
      i < run.data.offset.toNat ∨ run.data.offset.toNat + transferred platform reply ≤ i →
      run.bytes[run.data.offset.toNat + i]? = run.bytes[i]?

theorem after_of_reply_none (h : run.reply = none) : run.after = run.bytes := by
  obtain ⟨gDdk, _, dev, request, response, data, bytes, hdata, hvalid, _⟩ := run
  have hmem : data.memory = bytes := data.memory_eq hvalid.address
  cases gDdk with
  | none => simpa [after, ohScsiPeripheralWrite10, hdata] using hmem
  | some ddk =>
    cases dev with
    | none => simpa [after, ohScsiPeripheralWrite10, hdata] using hmem
    | some dev =>
      cases response with
      | none => simpa [after, ohScsiPeripheralWrite10, hdata] using hmem
      | some response => exact absurd h (Option.some_ne_none _)

theorem reply_eq_some {reply : ServiceReply} (h : run.reply = some reply) :
    ∃ ddk dev response, run.gDdk = some ddk ∧ run.dev = some dev ∧ run.response = some response ∧
      ddk.write10 dev (run.request.toHdi platform run.data) run.data.front = reply := by
  unfold WriteRun.reply at h
  split at h
  · rename_i ddk dev response hddk hdev hresponse
    exact ⟨ddk, dev, response, hddk, hdev, hresponse, Option.some.inj h⟩
  · exact absurd h.symm (Option.some_ne_none _)

/-- A call that reaches the service leaves the mapping as its transfer does. -/
theorem after_transfer {ddk : WriteDdk} {dev : HdiDevice} {response : ScsiPeripheralResponse}
    (hddk : run.gDdk = some ddk) (hdev : run.dev = some dev)
    (hresponse : run.response = some response) :
    run.after = (transfer platform run.data fun memory =>
      (ddk.write10 dev (run.request.toHdi platform run.data) memory, ())).data.memory := by
  rw [after, hddk, hdev, hresponse]
  simp only [ohScsiPeripheralWrite10, Option.bind_some, run.hasData]
  split <;> rfl

theorem restored_eq_transferred {reply : ServiceReply} (hne : run.data.offset ≠ 0)
    (hle : reply.Succeeds platform →
      (toUInt32 reply.response.transferredLength).toNat ≤ run.data.bufferLength.toNat) :
    restored platform run.data reply = transferred platform reply := by
  have hroom := run.valid.le
  rw [restored, transferred, run.valid.size]
  by_cases hret : reply.Succeeds platform
  · have hsent := hle hret
    rw [if_pos ⟨hret, hne⟩, if_pos hret]
    omega
  · rw [if_neg fun h => hret h.1, if_neg hret]

theorem transferred_le_bufferLength {reply : ServiceReply} (h : run.reply = some reply) :
    transferred platform reply ≤ run.data.bufferLength.toNat := by
  obtain ⟨ddk, dev, -, hddk, -, -, rfl⟩ := run.reply_eq_some h
  rw [transferred]
  split
  · rename_i hret
    exact run.transferred_le ddk dev run.data.front hddk hret
  · exact Nat.zero_le _

theorem after_of_reply {reply : ServiceReply} (h : run.reply = some reply)
    (href : ¬ run.data.Refused) (hne : run.data.offset ≠ 0) :
    run.after = move run.data.front run.data.offset.toNat 0 (transferred platform reply) := by
  obtain ⟨ddk, dev, response, hddk, hdev, hresponse, rfl⟩ := run.reply_eq_some h
  have hwritten := run.readsOnly ddk hddk dev (run.request.toHdi platform run.data) run.data.front
  rw [run.after_transfer hddk hdev hresponse,
    transfer_memory platform run.valid href _ (by rw [hwritten]; exact Nat.zero_le _), hwritten,
    store_nil, run.restored_eq_transferred hne (run.transferred_le ddk dev run.data.front hddk)]

/-- A call that does not reach the service, or whose window starts at the front, changes nothing. -/
theorem after_unmoved (h : run.reply = none ∨ run.data.Refused ∨ run.data.offset = 0) :
    run.after = run.bytes := by
  cases hreply : run.reply with
  | none => exact run.after_of_reply_none hreply
  | some reply =>
    obtain ⟨ddk, dev, response, hddk, hdev, hresponse, rfl⟩ := run.reply_eq_some hreply
    rw [run.after_transfer hddk hdev hresponse]
    rcases h with hnone | href | hzero
    · exact absurd (hreply.symm.trans hnone) (Option.some_ne_none _)
    · exact transfer_refused platform run.valid href _
    · have hwritten := run.readsOnly ddk hddk dev (run.request.toHdi platform run.data)
        run.data.front
      rw [transfer_memory platform run.valid (fun href => href.1 hzero) _
          (by rw [hwritten]; exact Nat.zero_le _), hwritten, store_nil, restored,
        if_neg fun hne => hne.2 hzero, ScsiPeripheralDeviceMemMap.front, if_pos hzero, move, load]
      exact (store_nil _ _).trans (run.data.memory_eq run.valid.address)

theorem keepsContent_iff_agrees : run.KeepsContent ↔ run.Agrees := by
  by_cases h : run.reply = none ∨ run.data.Refused ∨ run.data.offset = 0
  · refine ⟨fun _ reply hreply href i _ _ => ?_, fun _ => run.after_unmoved h⟩
    rcases h with hnone | href' | hzero
    · exact absurd (hreply.symm.trans hnone) (Option.some_ne_none _)
    · exact absurd href' href
    · rw [hzero]
      exact congrArg (run.bytes[·]?) (Nat.zero_add i)
  · obtain ⟨hsome, h⟩ := not_or.mp h
    obtain ⟨href, hne⟩ := not_or.mp h
    obtain ⟨reply, hreply⟩ := Option.ne_none_iff_exists'.mp hsome
    have hiff := movedBack_eq_iff run.valid (run.transferred_le_bufferLength hreply)
    rw [KeepsContent, run.after_of_reply hreply href hne, hiff]
    constructor
    · intro hsame reply' hreply' _
      cases Option.some.inj (hreply.symm.trans hreply')
      exact hsame
    · exact fun hagrees => hagrees reply hreply href

end WriteRun

/-- A service that reports `transferredLength` bytes with the code `ret`. -/
def reporting (ret : Int) (transferredLength : Nat) : WriteDdk where
  write10 _ _ _ := {
    ret
    response := {
      senseData := [], status := 0, maskedStatus := 0, msgStatus := 0, sbLenWr := 0
      hostStatus := 0, driverStatus := 0, resId := 0, duration := 0, transferredLength }
    written := [] }

/-- A write of `bytes` that the service reports as transferred completely. -/
def writeAll (platform : Platform) (bytes : List UInt8) (offset bufferLength : UInt32)
    (hle : offset.toNat + bufferLength.toNat ≤ bytes.length) (hpos : 0 < bufferLength.toNat) :
    WriteRun platform where
  gDdk := some (reporting platform.hdfSuccess bufferLength.toNat)
  readsOnly ddk h := by
    cases h
    exact fun _ _ _ => rfl
  dev := some { devFd := 0, memMapFd := 0, lbLength := 512 }
  request := {
    lbAddress := 0, transferLength := 1, control := 0, byte1 := 0, byte6 := 0
    data := some { address := some bytes, offset, bufferLength, transferredLength := 0 }
    timeout := 1000 }
  response := some {
    senseData := List.replicate 252 0, status := 0, maskedStatus := 0, msgStatus := 0
    sbLenWr := 0, hostStatus := 0, driverStatus := 0, resId := 0, duration := 0 }
  data := { address := some bytes, offset, bufferLength, transferredLength := 0 }
  bytes := bytes
  hasData := rfl
  valid := ScsiPeripheralDeviceMemMap.valid_mk hle hpos
  transferred_le ddk _ _ h _ := by
    cases h
    exact toUInt32_natCast_le _

/-- With the window behind the front, moving it there loses a byte that is not moved back. -/
theorem WriteRun.exists_bad (platform : Platform) {size : Nat} {offset bufferLength : UInt32}
    (hle : offset.toNat + bufferLength.toNat ≤ size) (hpos : 0 < bufferLength.toNat)
    (hne : offset ≠ 0) (hsize : size ≤ securecMemMaxLen) :
    ∃ run : WriteRun platform, run.bytes.length = size ∧ run.data.offset = offset ∧
      run.data.bufferLength = bufferLength ∧ ¬ run.KeepsContent := by
  have hlen : ((List.replicate size (0 : UInt8)).set offset.toNat 1).length = size := by
    rw [List.length_set, List.length_replicate]
  have hoffset : 0 < offset.toNat :=
    Nat.pos_of_ne_zero fun hzero => hne (UInt32.toNat_inj.mp hzero)
  refine ⟨writeAll platform ((List.replicate size 0).set offset.toNat 1) offset bufferLength
    (hlen.symm ▸ hle) hpos, hlen, rfl, rfl, fun hkeeps => ?_⟩
  have hagrees := (keepsContent_iff_agrees _).mp hkeeps _ rfl
    (fun href => absurd href.2 (Nat.not_lt.mpr (Nat.le_trans (Nat.le_of_eq hlen) hsize))) 0 hpos (.inl hoffset)
  have hget : ((List.replicate size (0 : UInt8)).set offset.toNat 1)[offset.toNat + 0]? =
      ((List.replicate size (0 : UInt8)).set offset.toNat 1)[0]? := hagrees
  rw [Nat.add_zero, List.getElem?_set_self (by rw [List.length_replicate]; omega),
    List.getElem?_set_ne (by omega), List.getElem?_replicate, if_pos (by omega)] at hget
  exact absurd hget (by decide)

/-- A write leaves the content of the mapping alone exactly when the window and the front agree
wherever the window is not moved back. A window keeps this for every content and every reply exactly
when it starts at the front, or when it is refused. -/
theorem write10_keeps_iff (platform : Platform) :
    (∀ run : WriteRun platform, run.KeepsContent ↔ run.Agrees) ∧
    ∀ (size : Nat) (offset bufferLength : UInt32),
      offset.toNat + bufferLength.toNat ≤ size → 0 < bufferLength.toNat →
      ((∀ run : WriteRun platform, run.bytes.length = size → run.data.offset = offset →
          run.data.bufferLength = bufferLength → run.KeepsContent) ↔
        offset = 0 ∨ securecMemMaxLen < size) := by
  refine ⟨fun run => run.keepsContent_iff_agrees, fun size offset bufferLength hle hpos => ?_⟩
  constructor
  · intro hall
    by_cases hzero : offset = 0
    · exact .inl hzero
    · refine .inr (Nat.not_le.mp fun hsmall => ?_)
      obtain ⟨run, hsize, hoffset, hlength, hbad⟩ :=
        WriteRun.exists_bad platform hle hpos hzero hsmall
      exact hbad (hall run hsize hoffset hlength)
  · rintro hcond run rfl rfl rfl
    apply run.after_unmoved
    by_cases hzero : run.data.offset = 0
    · exact .inr (.inr hzero)
    · exact .inr (.inl ⟨hzero, run.valid.size ▸ hcond.resolve_left hzero⟩)

/-- A window at the front keeps the content. -/
theorem frontWindow_kept : ∀ run : WriteRun platform32, run.bytes.length = 8 →
    run.data.offset = 0 → run.data.bufferLength = 4 → run.KeepsContent :=
  ((write10_keeps_iff platform32).2 8 0 4 (by decide) (by decide)).mpr (.inl rfl)

/-- The window 2 to 4 of four bytes is moved over the first two, which are lost although the whole
window was written. -/
theorem front_not_kept :
    (writeAll platform32 [1, 2, 3, 4] 2 2 (by decide) (by decide)).after = [3, 4, 3, 4] ∧
      ¬ ∀ run : WriteRun platform32, run.KeepsContent := by
  refine ⟨by decide +kernel, fun hall => ?_⟩
  obtain ⟨run, -, -, -, hbad⟩ := WriteRun.exists_bad platform32
    (show (2 : UInt32).toNat + (2 : UInt32).toNat ≤ 4 by decide) (by decide) (by decide) (by decide)
  exact hbad (hall run)

end ExtDevMgr.Scsi
