import ExtDevMgr.Base.Access
import ExtDevMgr.Scsi.Landing

/-!
# The caller's arrays

`OH_ScsiPeripheral_SendRequestByCdb`, `OH_ScsiPeripheral_Inquiry` and `CopyResponse` once more, with
the bytes of the caller's arrays that they touch. What they compute is what they compute without.
-/

namespace ExtDevMgr.Scsi
open Region Access

abbrev scsiPeripheralMaxCmdDescBlockLen : Nat := 16
abbrev scsiPeripheralMaxSenseDataLen : Nat := 252
abbrev scsiPeripheralVendorIdLen : Nat := 8
abbrev scsiPeripheralProductIdLen : Nat := 16
abbrev scsiPeripheralProductRevLen : Nat := 4

/-- A byte counted from the start of one of the caller's arrays. -/
inductive Place where
  | commandDescriptorBlock (i : Nat)
  | idVendor (i : Nat)
  | idProduct (i : Nat)
  | revProduct (i : Nat)
  | senseData (i : Nat)

/-- The byte belongs to the array. -/
def Place.Inside : Place → Prop
  | .commandDescriptorBlock i => i < scsiPeripheralMaxCmdDescBlockLen
  | .idVendor i => i < scsiPeripheralVendorIdLen + 1
  | .idProduct i => i < scsiPeripheralProductIdLen + 1
  | .revProduct i => i < scsiPeripheralProductRevLen + 1
  | .senseData i => i < scsiPeripheralMaxSenseDataLen

/-- The arrays have the lengths of their types. -/
structure ScsiPeripheralInquiryInfo.Sized (info : ScsiPeripheralInquiryInfo) : Prop where
  idVendor : info.idVendor.length = scsiPeripheralVendorIdLen + 1
  idProduct : info.idProduct.length = scsiPeripheralProductIdLen + 1
  revProduct : info.revProduct.length = scsiPeripheralProductRevLen + 1

def ScsiPeripheralResponse.Sized (response : ScsiPeripheralResponse) : Prop :=
  response.senseData.length = scsiPeripheralMaxSenseDataLen

namespace Arrays

/-- The bytes of `data`, written from index `i` on. -/
def copyBytes (array : Nat → Place) : Nat → List UInt8 → List UInt8 → Access Place (List UInt8)
  | _, [], arr => pure arr
  | i, byte :: data, arr => do
    let arr ← touch (array i) (arr.set i byte)
    copyBytes array (i + 1) data arr

def copyDataToArray (array : Nat → Place) (data arr : List UInt8) :
    Access Place (Option (List UInt8)) :=
  if data.length > arr.length then
    pure none
  else do
    let arr ← copyBytes array 0 data arr
    let arr ← touch (array (arr.length - 1)) (arr.set (arr.length - 1) 0)
    pure (some arr)

/-- `memcpy_s` to a whole array: whether it succeeds, and the array, which a failure clears. -/
def memcpyS (array : Nat → Place) (dest src : List UInt8) : Access Place (Bool × List UInt8) :=
  if src.length > dest.length then
    touchAll ((List.range dest.length).map array) (false, List.replicate dest.length 0)
  else
    touchAll ((List.range src.length).map array) (true, store dest 0 src)

def copyResponse (srcResp : HdiResponse) (desResp : ScsiPeripheralResponse) :
    Access Place (Int × ScsiPeripheralResponse) := do
  let (ok, senseData) ← memcpyS .senseData desResp.senseData srcResp.senseData
  if ok then
    pure (scsiPeripheralDdkSuccess, {
      senseData
      status := srcResp.status
      maskedStatus := srcResp.maskedStatus
      msgStatus := srcResp.msgStatus
      sbLenWr := srcResp.sbLenWr
      hostStatus := srcResp.hostStatus
      driverStatus := srcResp.driverStatus
      resId := srcResp.resId
      duration := srcResp.duration })
  else
    pure (scsiPeripheralDdkMemoryError, { desResp with senseData })

/-- `hdiRequest.commandDescriptorBlock.assign`, with the bytes of the request from the array on. -/
def assign (block : Memory) (cdbLength : Nat) : Access Place (List UInt8) :=
  touchAll ((List.range cdbLength).map .commandDescriptorBlock) ((List.range cdbLength).map block)

/-- The end of `OH_ScsiPeripheral_Inquiry`, from the reply of the service on. -/
def takeReply (data : ScsiPeripheralDeviceMemMap) (reply : ServiceReply)
    (hdiInquiryInfo : HdiInquiryInfo) (info : ScsiPeripheralInquiryInfo)
    (resp : ScsiPeripheralResponse) :
    Access Place (Int × Option ScsiPeripheralInquiryInfo × Option ScsiPeripheralResponse) := do
  let info := { info with deviceType := hdiInquiryInfo.deviceType }
  match ← copyDataToArray .idVendor hdiInquiryInfo.idVendor info.idVendor with
  | none => pure (scsiPeripheralDdkMemoryError, some info, some resp)
  | some idVendor =>
    let info := { info with idVendor }
    match ← copyDataToArray .idProduct hdiInquiryInfo.idProduct info.idProduct with
    | none => pure (scsiPeripheralDdkMemoryError, some info, some resp)
    | some idProduct =>
      let info := { info with idProduct }
      match ← copyDataToArray .revProduct hdiInquiryInfo.revProduct info.revProduct with
      | none => pure (scsiPeripheralDdkMemoryError, some info, some resp)
      | some revProduct =>
        let transferredLength := toUInt32 reply.response.transferredLength
        let (ret, resp) ← copyResponse reply.response resp
        pure (ret, some { info with
          revProduct, data := some { data with transferredLength } }, some resp)

section
variable (platform : Platform) (gDdk : Option ScsiPeripheralDdk) (dev : Option HdiDevice)

def ohScsiPeripheralInquiry (request : Option ScsiPeripheralInquiryRequest)
    (inquiryInfo : Option ScsiPeripheralInquiryInfo) (response : Option ScsiPeripheralResponse) :
    Access Place (Int × Option ScsiPeripheralInquiryInfo × Option ScsiPeripheralResponse) :=
  match gDdk with
  | none => pure (scsiPeripheralDdkInitError, inquiryInfo, response)
  | some ddk =>
    match dev, request, inquiryInfo, inquiryInfo.bind (·.data), response with
    | some dev, some req, some info, some data, some resp =>
      let t := transfer platform data (ddk.inquiry dev (req.toHdi platform data))
      let info := { info with data := some t.data }
      match t.reply with
      | none => pure (t.ret, some info, response)
      | some (reply, hdiInquiryInfo) => takeReply t.data reply hdiInquiryInfo info resp
    | _, _, _, _, _ => pure (scsiPeripheralDdkInvalidParameter, inquiryInfo, response)

/-- The block is read once the window has been moved. -/
def ohScsiPeripheralSendRequestByCdb (block : Memory) (request : Option ScsiPeripheralRequest)
    (response : Option ScsiPeripheralResponse) :
    Access Place (Int × Option ScsiPeripheralRequest × Option ScsiPeripheralResponse) :=
  match gDdk with
  | none => pure (scsiPeripheralDdkInitError, request, response)
  | some ddk =>
    match dev, request, request.bind (·.data), response with
    | some dev, some req, some data, some resp =>
      if req.cdbLength = 0 then
        pure (scsiPeripheralDdkInvalidParameter, request, response)
      else if (normalizeMemMap data).1 ≠ scsiPeripheralDdkSuccess then
        pure ((normalizeMemMap data).1, some { req with data := some (normalizeMemMap data).2 },
          response)
      else do
        let commandDescriptorBlock ← assign block req.cdbLength.toNat
        let hdiRequest := { req with commandDescriptorBlock }.toHdi platform data
        let t := transfer platform data fun memory =>
          (ddk.sendRequestByCdb dev hdiRequest memory, ())
        match t.reply with
        | none => pure (t.ret, some { req with data := some t.data }, response)
        | some (reply, _) =>
          let transferredLength := toUInt32 reply.response.transferredLength
          let (ret, resp) ← copyResponse reply.response resp
          pure (ret, some { req with data := some { t.data with transferredLength } }, some resp)
    | _, _, _, _ => pure (scsiPeripheralDdkInvalidParameter, request, response)

end

/-! ## What is computed -/

theorem value_copyBytes (array : Nat → Place) {i : Nat} {data arr : List UInt8}
    (h : i + data.length ≤ arr.length) :
    (copyBytes array i data arr).value = store arr i data := by
  induction data generalizing i arr with
  | nil => exact (store_nil arr i).symm
  | cons byte data ih =>
    rw [List.length_cons] at h
    rw [copyBytes, value_bind, value_touch, store_cons (by omega)]
    exact ih (by rw [List.length_set]; omega)

theorem value_copyDataToArray (array : Nat → Place) (data arr : List UInt8) :
    (copyDataToArray array data arr).value = Scsi.copyDataToArray data arr := by
  rw [copyDataToArray, Scsi.copyDataToArray]
  split
  case isTrue => rfl
  case isFalse hle =>
    have hlen : (store arr 0 data).length = arr.length := length_store (by omega)
    rw [value_bind, value_copyBytes array (by omega), value_bind, hlen]
    rfl

theorem value_copyResponse (srcResp : HdiResponse) (desResp : ScsiPeripheralResponse) :
    (copyResponse srcResp desResp).value = Scsi.copyResponse srcResp desResp := by
  rw [copyResponse, Scsi.copyResponse, value_bind, memcpyS]
  by_cases hlong : srcResp.senseData.length > desResp.senseData.length
  · rw [if_pos hlong, if_pos hlong]
    rfl
  · rw [if_neg hlong, if_neg hlong]
    rfl

section
variable {platform : Platform} {gDdk : Option ScsiPeripheralDdk} {dev : Option HdiDevice}
  {response : Option ScsiPeripheralResponse}

theorem value_ohScsiPeripheralInquiry (request : Option ScsiPeripheralInquiryRequest)
    (inquiryInfo : Option ScsiPeripheralInquiryInfo) :
    (ohScsiPeripheralInquiry platform gDdk dev request inquiryInfo response).value =
      Scsi.ohScsiPeripheralInquiry platform gDdk dev request inquiryInfo response := by
  obtain _ | ddk := gDdk
  · rfl
  obtain _ | dev := dev
  · rfl
  obtain _ | request := request
  · rfl
  obtain _ | info := inquiryInfo
  · rfl
  obtain ⟨deviceType, idVendor, idProduct, revProduct, _ | data⟩ := info
  · rfl
  obtain _ | response := response
  · rfl
  simp only [ohScsiPeripheralInquiry, Scsi.ohScsiPeripheralInquiry, Option.bind_some]
  obtain hreply | ⟨⟨reply, hdiInquiryInfo⟩, hreply⟩ :=
    (transfer platform data (ddk.inquiry dev (request.toHdi platform data))).reply.eq_none_or_eq_some
  · rw [hreply]
    rfl
  · rw [hreply]
    dsimp only
    rw [takeReply, value_bind, value_copyDataToArray]
    obtain hvendor | ⟨idVendor', hvendor⟩ :=
      (Scsi.copyDataToArray hdiInquiryInfo.idVendor idVendor).eq_none_or_eq_some
    · rw [hvendor]
      rfl
    · rw [hvendor]
      dsimp only
      rw [value_bind, value_copyDataToArray]
      obtain hproduct | ⟨idProduct', hproduct⟩ :=
        (Scsi.copyDataToArray hdiInquiryInfo.idProduct idProduct).eq_none_or_eq_some
      · rw [hproduct]
        rfl
      · rw [hproduct]
        dsimp only
        rw [value_bind, value_copyDataToArray]
        obtain hrev | ⟨revProduct', hrev⟩ :=
          (Scsi.copyDataToArray hdiInquiryInfo.revProduct revProduct).eq_none_or_eq_some
        · rw [hrev]
          rfl
        · rw [hrev]
          dsimp only
          rw [value_bind, value_copyResponse]
          rfl

/-- The block may be read past its array; what is computed is compared where it is not. -/
theorem value_ohScsiPeripheralSendRequestByCdb (block : Memory)
    (request : Option ScsiPeripheralRequest)
    (hblock : ∀ req ∈ request, req.commandDescriptorBlock.take req.cdbLength.toNat =
      (List.range req.cdbLength.toNat).map block) :
    (ohScsiPeripheralSendRequestByCdb platform gDdk dev block request response).value =
      Scsi.ohScsiPeripheralSendRequestByCdb platform gDdk dev request response := by
  obtain _ | ddk := gDdk
  · rfl
  obtain _ | dev := dev
  · rfl
  obtain _ | req := request
  · rfl
  obtain ⟨commandDescriptorBlock, cdbLength, dataTransferDirection, _ | data, timeout⟩ := req
  · rfl
  obtain _ | resp := response
  · rfl
  have hassign : ScsiPeripheralRequest.toHdi
      { commandDescriptorBlock := (assign block cdbLength.toNat).value, cdbLength
        dataTransferDirection, data := some data, timeout } platform data =
      ScsiPeripheralRequest.toHdi
        { commandDescriptorBlock, cdbLength, dataTransferDirection, data := some data, timeout }
        platform data := by
    have htake : ((List.range cdbLength.toNat).map block).take cdbLength.toNat =
        (List.range cdbLength.toNat).map block :=
      List.take_of_length_le (Nat.le_of_eq (by rw [List.length_map, List.length_range]))
    rw [ScsiPeripheralRequest.toHdi, ScsiPeripheralRequest.toHdi, hblock _ rfl]
    dsimp only [assign, touchAll]
    rw [htake]
  simp only [ohScsiPeripheralSendRequestByCdb, Scsi.ohScsiPeripheralSendRequestByCdb,
    Option.bind_some]
  split
  case isTrue => rfl
  case isFalse =>
    split
    case isTrue hret =>
      simp only [transfer, if_pos hret]
      rfl
    case isFalse =>
      rw [value_bind, hassign]
      obtain hreply | ⟨⟨reply, _⟩, hreply⟩ := (transfer platform data fun memory =>
        (ddk.sendRequestByCdb dev (ScsiPeripheralRequest.toHdi
          { commandDescriptorBlock, cdbLength, dataTransferDirection, data := some data, timeout }
          platform data) memory, ())).reply.eq_none_or_eq_some
      · rw [hreply]
        rfl
      · rw [hreply]
        dsimp only
        rw [value_bind, value_copyResponse]
        rfl

end

/-! ## What is touched -/

section
variable {P : Place → Prop} {array : Nat → Place}

theorem copyBytes_within {i : Nat} {data arr : List UInt8} (h : i + data.length ≤ arr.length)
    (hP : ∀ j < arr.length, P (array j)) : (copyBytes array i data arr).Within P := by
  induction data generalizing i arr with
  | nil => exact within_pure arr
  | cons byte data ih =>
    rw [List.length_cons] at h
    have hset : (arr.set i byte).length = arr.length := List.length_set
    rw [copyBytes, within_bind, within_touch, value_touch]
    refine ⟨hP i (by omega), ih (by omega) fun j hj => ?_⟩
    exact hP j (hset ▸ hj)

theorem copyDataToArray_within (data : List UInt8) {arr : List UInt8} (hpos : 0 < arr.length)
    (hP : ∀ j < arr.length, P (array j)) : (copyDataToArray array data arr).Within P := by
  rw [copyDataToArray]
  split
  case isTrue => exact within_pure _
  case isFalse hle =>
    have hlen : (store arr 0 data).length = arr.length := length_store (by omega)
    rw [within_bind, value_copyBytes array (by omega), within_bind, within_touch, hlen]
    exact ⟨copyBytes_within (by omega) hP, hP _ (by omega), within_pure _⟩

theorem memcpyS_within (src : List UInt8) {dest : List UInt8}
    (hP : ∀ j < dest.length, P (array j)) : (memcpyS array dest src).Within P := by
  have hmap : ∀ n ≤ dest.length, ∀ place ∈ (List.range n).map array, P place := by
    intro n hn place hplace
    obtain ⟨j, hj, rfl⟩ := List.mem_map.mp hplace
    exact hP j (Nat.lt_of_lt_of_le (List.mem_range.mp hj) hn)
  rw [memcpyS]
  split
  case isTrue => exact (within_touchAll _ _).mpr (hmap _ (Nat.le_refl _))
  case isFalse hle => exact (within_touchAll _ _).mpr (hmap _ (Nat.not_lt.mp hle))

end

/-- `CopyResponse` stays inside `senseData`. -/
theorem copyResponse_within (srcResp : HdiResponse) {desResp : ScsiPeripheralResponse}
    (h : desResp.Sized) : (copyResponse srcResp desResp).Within Place.Inside := by
  rw [copyResponse, within_bind]
  constructor
  · apply memcpyS_within
    intro j hj
    rw [h] at hj
    exact hj
  · dsimp only
    split
    · exact within_pure _
    · exact within_pure _

section
variable {info : ScsiPeripheralInquiryInfo} {resp : ScsiPeripheralResponse}

theorem takeReply_within (data : ScsiPeripheralDeviceMemMap) (reply : ServiceReply)
    (hdiInquiryInfo : HdiInquiryInfo) (hinfo : info.Sized) (hresp : resp.Sized) :
    (takeReply data reply hdiInquiryInfo info resp).Within Place.Inside := by
  rw [takeReply, within_bind]
  refine ⟨copyDataToArray_within _ (by rw [hinfo.idVendor]; omega)
    fun j hj => Nat.lt_of_lt_of_eq hj hinfo.idVendor, ?_⟩
  split
  · exact within_pure _
  · rw [within_bind]
    refine ⟨copyDataToArray_within _ (by rw [hinfo.idProduct]; omega)
      fun j hj => Nat.lt_of_lt_of_eq hj hinfo.idProduct, ?_⟩
    split
    · exact within_pure _
    · rw [within_bind]
      refine ⟨copyDataToArray_within _ (by rw [hinfo.revProduct]; omega)
        fun j hj => Nat.lt_of_lt_of_eq hj hinfo.revProduct, ?_⟩
      split
      · exact within_pure _
      · rw [within_bind]
        exact ⟨copyResponse_within _ hresp, within_pure _⟩

end

end Arrays

/-! ## The texts -/

/-- What `CopyDataToArray` leaves in an array that is long enough. -/
def textIn (arr text : List UInt8) : List UInt8 := (store arr 0 text).set (arr.length - 1) 0

/-- The whole text stands in front of a terminator. -/
def Terminated (arr text : List UInt8) : Prop :=
  text <+: arr ∧ ∃ k, text.length ≤ k ∧ arr[k]? = some 0

theorem copyDataToArray_fits {data arr : List UInt8} (h : data.length ≤ arr.length) :
    copyDataToArray data arr = some (textIn arr data) := if_neg (Nat.not_lt.mpr h)

theorem copyDataToArray_long {data arr : List UInt8} (h : ¬ data.length ≤ arr.length) :
    copyDataToArray data arr = none := if_pos (Nat.not_le.mp h)

theorem terminated_textIn {arr text : List UInt8} (h : text.length ≤ arr.length) :
    Terminated (textIn arr text) text ↔ text.length < arr.length := by
  have hlen : (textIn arr text).length = arr.length := by
    rw [textIn, List.length_set, length_store (by omega)]
  constructor
  · rintro ⟨-, k, hk, hget⟩
    obtain ⟨hlt, -⟩ := List.getElem?_eq_some_iff.mp hget
    omega
  · intro hlt
    refine ⟨?_, arr.length - 1, by omega, ?_⟩
    · rw [textIn, store, List.take_zero, List.nil_append, List.set_append_right _ _ (by omega)]
      exact List.prefix_append _ _
    · rw [textIn, List.getElem?_set_self (by rw [length_store (by omega)]; omega)]

/-- The texts are not longer than the arrays. -/
structure HdiInquiryInfo.Fits (hdiInquiryInfo : HdiInquiryInfo) (info : ScsiPeripheralInquiryInfo) :
    Prop where
  idVendor : hdiInquiryInfo.idVendor.length ≤ info.idVendor.length
  idProduct : hdiInquiryInfo.idProduct.length ≤ info.idProduct.length
  revProduct : hdiInquiryInfo.revProduct.length ≤ info.revProduct.length

/-- The texts are shorter than the arrays. -/
structure HdiInquiryInfo.Shorter (hdiInquiryInfo : HdiInquiryInfo)
    (info : ScsiPeripheralInquiryInfo) : Prop where
  idVendor : hdiInquiryInfo.idVendor.length < info.idVendor.length
  idProduct : hdiInquiryInfo.idProduct.length < info.idProduct.length
  revProduct : hdiInquiryInfo.revProduct.length < info.revProduct.length

/-- The arrays hold the texts, each in front of a terminator. -/
structure ScsiPeripheralInquiryInfo.Holds (info : ScsiPeripheralInquiryInfo)
    (hdiInquiryInfo : HdiInquiryInfo) : Prop where
  idVendor : Terminated info.idVendor hdiInquiryInfo.idVendor
  idProduct : Terminated info.idProduct hdiInquiryInfo.idProduct
  revProduct : Terminated info.revProduct hdiInquiryInfo.revProduct

namespace Arrays

section
variable {data : ScsiPeripheralDeviceMemMap} {reply : ServiceReply}
  {hdiInquiryInfo : HdiInquiryInfo} {info : ScsiPeripheralInquiryInfo}
  {resp : ScsiPeripheralResponse}

/-- A reply that is too long somewhere is an error. -/
theorem takeReply_long (h : ¬ (hdiInquiryInfo.Fits info ∧
      reply.response.senseData.length ≤ resp.senseData.length)) :
    (takeReply data reply hdiInquiryInfo info resp).value.1 = scsiPeripheralDdkMemoryError := by
  rw [takeReply, value_bind, value_copyDataToArray]
  by_cases hvendor : hdiInquiryInfo.idVendor.length ≤ info.idVendor.length
  · rw [copyDataToArray_fits hvendor]
    dsimp only
    rw [value_bind, value_copyDataToArray]
    by_cases hproduct : hdiInquiryInfo.idProduct.length ≤ info.idProduct.length
    · rw [copyDataToArray_fits hproduct]
      dsimp only
      rw [value_bind, value_copyDataToArray]
      by_cases hrev : hdiInquiryInfo.revProduct.length ≤ info.revProduct.length
      · rw [copyDataToArray_fits hrev]
        dsimp only
        have hsense : ¬ reply.response.senseData.length ≤ resp.senseData.length :=
          fun hsense => h ⟨⟨hvendor, hproduct, hrev⟩, hsense⟩
        rw [value_bind, value_copyResponse, Scsi.copyResponse, if_pos (Nat.not_le.mp hsense)]
        rfl
      · rw [copyDataToArray_long hrev]
        rfl
    · rw [copyDataToArray_long hproduct]
      rfl
  · rw [copyDataToArray_long hvendor]
    rfl

/-- A reply that is nowhere too long is a success, with the texts in the arrays. -/
theorem takeReply_fits (h : hdiInquiryInfo.Fits info)
    (hsense : reply.response.senseData.length ≤ resp.senseData.length) :
    (takeReply data reply hdiInquiryInfo info resp).value.1 = scsiPeripheralDdkSuccess ∧
      (takeReply data reply hdiInquiryInfo info resp).value.2.1 = some {
        deviceType := hdiInquiryInfo.deviceType
        idVendor := textIn info.idVendor hdiInquiryInfo.idVendor
        idProduct := textIn info.idProduct hdiInquiryInfo.idProduct
        revProduct := textIn info.revProduct hdiInquiryInfo.revProduct
        data := some { data with
          transferredLength := toUInt32 reply.response.transferredLength } } := by
  rw [takeReply, value_bind, value_copyDataToArray, copyDataToArray_fits h.idVendor]
  dsimp only
  rw [value_bind, value_copyDataToArray, copyDataToArray_fits h.idProduct]
  dsimp only
  rw [value_bind, value_copyDataToArray, copyDataToArray_fits h.revProduct]
  dsimp only
  rw [value_bind, value_copyResponse, Scsi.copyResponse, if_neg (Nat.not_lt.mpr hsense)]
  exact ⟨rfl, rfl⟩

end

end Arrays

/-! ## The calls -/

theorem valid_of_validate {data : ScsiPeripheralDeviceMemMap}
    (h : validateMemMap data = scsiPeripheralDdkSuccess) : data.Valid data.memory := by
  rw [validateMemMap] at h
  split at h
  case isTrue => cases h
  case isFalse haddress =>
    split at h
    case isTrue => cases h
    case isFalse hroom =>
      split at h
      case isTrue => cases h
      case isFalse hne =>
        obtain hnone | ⟨bytes, hbytes⟩ := data.address.eq_none_or_eq_some
        · exact absurd (by rw [hnone]; rfl) haddress
        · have hmemory := data.memory_eq hbytes
          rw [ScsiPeripheralDeviceMemMap.size] at hroom
          exact ⟨hmemory.symm ▸ hbytes, by omega,
            Nat.pos_of_ne_zero fun hzero => hne (UInt32.toNat_inj.mp hzero)⟩

theorem normalizeMemMap_success_iff (data : ScsiPeripheralDeviceMemMap) :
    (normalizeMemMap data).1 = scsiPeripheralDdkSuccess ↔
      validateMemMap data = scsiPeripheralDdkSuccess ∧ ¬ data.Refused := by
  by_cases hvalidate : validateMemMap data = scsiPeripheralDdkSuccess
  · rw [and_iff_right hvalidate]
    have hvalid := valid_of_validate hvalidate
    by_cases href : data.Refused
    · rw [normalizeMemMap_refused hvalid href]
      exact iff_of_false (show scsiPeripheralDdkMemoryError ≠ scsiPeripheralDdkSuccess by decide)
        (not_not.mpr href)
    · rw [normalizeMemMap_front hvalid href]
      exact iff_of_true rfl href
  · have hret : (normalizeMemMap data).1 = validateMemMap data := by
      rw [normalizeMemMap]
      dsimp only
      rw [if_pos hvalidate]
    rw [hret]
    exact iff_of_false hvalidate fun h => hvalidate h.1

section
variable {ι : Type} {platform : Platform} {data : ScsiPeripheralDeviceMemMap}
  {call : List UInt8 → ServiceReply × ι}

theorem transfer_unreached (h : (normalizeMemMap data).1 ≠ scsiPeripheralDdkSuccess) :
    (transfer platform data call).reply = none ∧
      (transfer platform data call).ret ≠ scsiPeripheralDdkSuccess := by
  simp only [transfer, if_pos h]
  exact ⟨trivial, h⟩

theorem transfer_failed (h : (normalizeMemMap data).1 = scsiPeripheralDdkSuccess)
    (hret : ¬ (call (normalizeMemMap data).2.memory).1.Succeeds platform) :
    (transfer platform data call).reply = none ∧
      (transfer platform data call).ret ≠ scsiPeripheralDdkSuccess := by
  simp only [transfer, if_neg (not_not.mpr h), if_pos hret]
  exact ⟨trivial, hret⟩

theorem transfer_reply (h : (normalizeMemMap data).1 = scsiPeripheralDdkSuccess)
    (hret : (call (normalizeMemMap data).2.memory).1.Succeeds platform) :
    (transfer platform data call).reply = some (call (normalizeMemMap data).2.memory) := by
  simp only [transfer, if_neg (not_not.mpr h), if_neg (not_not.mpr hret)]

end

section
variable (platform : Platform) (gDdk : Option ScsiPeripheralDdk) (dev : Option HdiDevice)

/-- The reply of the service to `Inquiry`, if it is called. -/
def inquired (request : Option ScsiPeripheralInquiryRequest)
    (inquiryInfo : Option ScsiPeripheralInquiryInfo) : Option (ServiceReply × HdiInquiryInfo) :=
  match gDdk, dev, request, inquiryInfo.bind (·.data) with
  | some ddk, some dev, some req, some data =>
    if (normalizeMemMap data).1 = scsiPeripheralDdkSuccess then
      some (ddk.inquiry dev (req.toHdi platform data) (normalizeMemMap data).2.memory)
    else
      none
  | _, _, _, _ => none

/-- If `Inquiry` reports success, each text of the reply stands whole in its array. The text is the whole
vector of the reply: a zero byte at its end counts as text. -/
def TextsKept (request : Option ScsiPeripheralInquiryRequest)
    (inquiryInfo : Option ScsiPeripheralInquiryInfo) (response : Option ScsiPeripheralResponse) :
    Prop :=
  let result := (Arrays.ohScsiPeripheralInquiry platform gDdk dev request inquiryInfo response).value
  result.1 = scsiPeripheralDdkSuccess →
    ∀ info reply hdiInquiryInfo, result.2.1 = some info →
      inquired platform gDdk dev request inquiryInfo = some (reply, hdiInquiryInfo) →
      info.Holds hdiInquiryInfo

/-- If the reply to `Inquiry` is a success and nowhere too long, its texts are shorter than the
arrays. -/
def TextsShorter (request : Option ScsiPeripheralInquiryRequest)
    (inquiryInfo : Option ScsiPeripheralInquiryInfo) (response : Option ScsiPeripheralResponse) :
    Prop :=
  ∀ info resp reply hdiInquiryInfo, inquiryInfo = some info → response = some resp →
    inquired platform gDdk dev request inquiryInfo = some (reply, hdiInquiryInfo) →
    reply.Succeeds platform → hdiInquiryInfo.Fits info →
    reply.response.senseData.length ≤ resp.senseData.length → hdiInquiryInfo.Shorter info

/-- If the descriptor block is read, it is not longer than its array. -/
def BlockFits (request : Option ScsiPeripheralRequest) (response : Option ScsiPeripheralResponse) :
    Prop :=
  gDdk ≠ none → dev ≠ none → response ≠ none → ∀ req data, request = some req →
    req.data = some data → validateMemMap data = scsiPeripheralDdkSuccess → ¬ data.Refused →
    req.cdbLength.toNat ≤ scsiPeripheralMaxCmdDescBlockLen

variable {platform gDdk dev} {response : Option ScsiPeripheralResponse}

theorem inquired_none (request : Option ScsiPeripheralInquiryRequest) :
    inquired platform gDdk dev request none = none := by
  cases gDdk <;> cases dev <;> cases request <;> rfl

/-- Without a call of the service, or without a place for its response, there is no success. -/
theorem inquiry_unserved {request : Option ScsiPeripheralInquiryRequest}
    {inquiryInfo : Option ScsiPeripheralInquiryInfo}
    (h : inquired platform gDdk dev request inquiryInfo = none ∨ response = none) :
    (Arrays.ohScsiPeripheralInquiry platform gDdk dev request inquiryInfo response).value.1 ≠
      scsiPeripheralDdkSuccess := by
  have hinit : scsiPeripheralDdkInitError ≠ scsiPeripheralDdkSuccess := by decide
  have hinvalid : scsiPeripheralDdkInvalidParameter ≠ scsiPeripheralDdkSuccess := by decide
  obtain _ | ddk := gDdk
  · exact hinit
  obtain _ | device := dev
  · exact hinvalid
  obtain _ | req := request
  · exact hinvalid
  obtain _ | info := inquiryInfo
  · exact hinvalid
  obtain ⟨deviceType, idVendor, idProduct, revProduct, _ | data⟩ := info
  · exact hinvalid
  obtain _ | resp := response
  · exact hinvalid
  have hnone := h.resolve_right (Option.some_ne_none resp)
  simp only [inquired, Option.bind_some] at hnone
  split at hnone
  case isTrue => cases hnone
  case isFalse hreach =>
    obtain ⟨hreply, hret⟩ : (transfer platform data
        (ddk.inquiry device (req.toHdi platform data))).reply = none ∧ _ :=
      transfer_unreached hreach
    simp only [Arrays.ohScsiPeripheralInquiry, Option.bind_some, hreply]
    exact hret

/-- A call of the service whose response has a place. -/
theorem inquiry_served {request : Option ScsiPeripheralInquiryRequest}
    {info : ScsiPeripheralInquiryInfo} {reply : ServiceReply} {hdiInquiryInfo : HdiInquiryInfo}
    (h : inquired platform gDdk dev request (some info) = some (reply, hdiInquiryInfo))
    (resp : ScsiPeripheralResponse) :
    ∃ data, (¬ reply.Succeeds platform →
        (Arrays.ohScsiPeripheralInquiry platform gDdk dev request (some info)
          (some resp)).value.1 ≠ scsiPeripheralDdkSuccess) ∧
      (reply.Succeeds platform →
        Arrays.ohScsiPeripheralInquiry platform gDdk dev request (some info) (some resp) =
          Arrays.takeReply data reply hdiInquiryInfo { info with data := some data } resp) := by
  obtain _ | ddk := gDdk
  · cases h
  obtain _ | device := dev
  · cases h
  obtain _ | req := request
  · cases h
  obtain ⟨deviceType, idVendor, idProduct, revProduct, _ | data⟩ := info
  · cases h
  simp only [inquired, Option.bind_some] at h
  split at h
  case isFalse => cases h
  case isTrue hreach =>
    obtain hcall := Option.some.inj h
    refine ⟨(transfer platform data (ddk.inquiry device (req.toHdi platform data))).data, ?_, ?_⟩
    · intro hfails
      obtain ⟨hreply, hret⟩ : (transfer platform data
          (ddk.inquiry device (req.toHdi platform data))).reply = none ∧ _ :=
        transfer_failed hreach (by rw [hcall]; exact hfails)
      simp only [Arrays.ohScsiPeripheralInquiry, Option.bind_some, hreply]
      exact hret
    · intro hsucceeds
      have hreply : (transfer platform data
          (ddk.inquiry device (req.toHdi platform data))).reply = _ :=
        transfer_reply hreach (by rw [hcall]; exact hsucceeds)
      simp only [Arrays.ohScsiPeripheralInquiry, Option.bind_some, hreply, hcall]

/-- After a successful `Inquiry` the texts stand whole in the arrays exactly when they are shorter than
these. -/
theorem textsKept_iff (request : Option ScsiPeripheralInquiryRequest)
    (inquiryInfo : Option ScsiPeripheralInquiryInfo) :
    TextsKept platform gDdk dev request inquiryInfo response ↔
      TextsShorter platform gDdk dev request inquiryInfo response := by
  obtain hinquired | ⟨⟨reply, hdiInquiryInfo⟩, hinquired⟩ :=
    (inquired platform gDdk dev request inquiryInfo).eq_none_or_eq_some
  · refine iff_of_true (fun hret => absurd hret (inquiry_unserved (.inl hinquired))) ?_
    intro info resp reply hdiInquiryInfo _ _ hsome
    cases hinquired.symm.trans hsome
  obtain _ | resp := response
  · refine iff_of_true (fun hret => absurd hret (inquiry_unserved (.inr rfl))) ?_
    intro info resp reply hdiInquiryInfo _ hresp
    cases hresp
  obtain _ | info := inquiryInfo
  · cases (inquired_none request).symm.trans hinquired
  obtain ⟨data, hfails, hserved⟩ := inquiry_served hinquired resp
  constructor
  · intro hkept info' resp' reply' hdiInquiryInfo' hinfo hresp hsome hsucceeds hfits hsense
    cases hinfo
    cases hresp
    cases hinquired.symm.trans hsome
    have hfits' : hdiInquiryInfo.Fits { info with data := some data } :=
      ⟨hfits.idVendor, hfits.idProduct, hfits.revProduct⟩
    obtain ⟨hret, hafter⟩ : (Arrays.takeReply data reply hdiInquiryInfo
        { info with data := some data } resp).value.1 = _ ∧ _ :=
      Arrays.takeReply_fits hfits' hsense
    rw [← hserved hsucceeds] at hret hafter
    have hholds := hkept hret _ _ _ hafter hinquired
    exact ⟨(terminated_textIn hfits.idVendor).mp hholds.idVendor,
      (terminated_textIn hfits.idProduct).mp hholds.idProduct,
      (terminated_textIn hfits.revProduct).mp hholds.revProduct⟩
  · intro hshort hret info' reply' hdiInquiryInfo' hafter hsome
    cases hinquired.symm.trans hsome
    have hsucceeds : reply.Succeeds platform :=
      Decidable.not_not.mp fun hfail => hfails hfail hret
    rw [hserved hsucceeds] at hret hafter
    by_cases hlong : hdiInquiryInfo.Fits { info with data := some data } ∧
        reply.response.senseData.length ≤ resp.senseData.length
    · obtain ⟨hfits, hsense⟩ := hlong
      have hshorter := hshort info resp reply hdiInquiryInfo rfl rfl hinquired hsucceeds
        ⟨hfits.idVendor, hfits.idProduct, hfits.revProduct⟩ hsense
      cases (Arrays.takeReply_fits hfits hsense).2.symm.trans hafter
      exact ⟨(terminated_textIn hfits.idVendor).mpr hshorter.idVendor,
        (terminated_textIn hfits.idProduct).mpr hshorter.idProduct,
        (terminated_textIn hfits.revProduct).mpr hshorter.revProduct⟩
    · cases (Arrays.takeReply_long hlong).symm.trans hret

theorem assign_within_iff (block : Memory) (cdbLength : Nat) :
    (Arrays.assign block cdbLength).Within Place.Inside ↔
      cdbLength ≤ scsiPeripheralMaxCmdDescBlockLen := by
  rw [Arrays.assign, within_touchAll, List.forall_mem_map]
  constructor
  · intro hinside
    apply Nat.not_lt.mp
    intro hlong
    exact absurd (hinside _ (List.mem_range.mpr hlong)) (Nat.lt_irrefl _)
  · intro hle i hi
    exact Nat.lt_of_lt_of_le (List.mem_range.mp hi) hle

/-- `SendRequestByCdb` stays inside the arrays exactly when the descriptor block fits into its own or
is not read. -/
theorem sendRequestByCdb_within_iff (hresponse : ∀ resp ∈ response, resp.Sized) (block : Memory)
    (request : Option ScsiPeripheralRequest) :
    (Arrays.ohScsiPeripheralSendRequestByCdb platform gDdk dev block request response).Within
      Place.Inside ↔ BlockFits gDdk dev request response := by
  obtain _ | ddk := gDdk
  · exact iff_of_true (within_pure _) fun hnone => absurd rfl hnone
  obtain _ | dev := dev
  · exact iff_of_true (within_pure _) fun _ hnone => absurd rfl hnone
  obtain _ | req := request
  · refine iff_of_true (within_pure _) ?_
    intro _ _ _ req data hreq
    cases hreq
  obtain hdata | ⟨data, hdata⟩ := req.data.eq_none_or_eq_some
  · refine iff_of_true ?_ ?_
    · simp only [Arrays.ohScsiPeripheralSendRequestByCdb, Option.bind_some, hdata]
      exact within_pure _
    · intro _ _ _ req' data hreq hsome
      cases hreq
      cases hdata.symm.trans hsome
  obtain _ | resp := response
  · refine iff_of_true ?_ fun _ _ hnone => absurd rfl hnone
    simp only [Arrays.ohScsiPeripheralSendRequestByCdb, Option.bind_some, hdata]
    exact within_pure _
  have hfits : BlockFits (some ddk) (some dev) (some req) (some resp) ↔
      ((normalizeMemMap data).1 = scsiPeripheralDdkSuccess →
        req.cdbLength.toNat ≤ scsiPeripheralMaxCmdDescBlockLen) := by
    rw [normalizeMemMap_success_iff]
    constructor
    · intro hfits hreach
      exact hfits (Option.some_ne_none _) (Option.some_ne_none _) (Option.some_ne_none _) req data
        rfl hdata hreach.1 hreach.2
    · intro hfits _ _ _ req' data' hreq hdata' hvalidate href
      cases hreq
      cases hdata.symm.trans hdata'
      exact hfits ⟨hvalidate, href⟩
  rw [hfits]
  simp only [Arrays.ohScsiPeripheralSendRequestByCdb, Option.bind_some, hdata]
  split
  case isTrue hzero =>
    refine iff_of_true (within_pure _) fun _ => ?_
    rw [hzero]
    exact Nat.zero_le _
  case isFalse =>
    split
    case isTrue hret => exact iff_of_true (within_pure _) fun hreach => absurd hreach hret
    case isFalse hret =>
      rw [forall_prop_of_true (not_not.mp hret), within_bind, assign_within_iff]
      refine and_iff_left ?_
      split
      · exact within_pure _
      · rw [within_bind]
        exact ⟨Arrays.copyResponse_within _ (hresponse resp rfl), within_pure _⟩

/-- `Inquiry` stays inside the arrays. -/
theorem inquiry_within (hresponse : ∀ resp ∈ response, resp.Sized)
    (request : Option ScsiPeripheralInquiryRequest)
    {inquiryInfo : Option ScsiPeripheralInquiryInfo} (hinfo : ∀ info ∈ inquiryInfo, info.Sized) :
    (Arrays.ohScsiPeripheralInquiry platform gDdk dev request inquiryInfo response).Within
      Place.Inside := by
  obtain _ | ddk := gDdk
  · exact within_pure _
  obtain _ | device := dev
  · exact within_pure _
  obtain _ | req := request
  · exact within_pure _
  obtain _ | info := inquiryInfo
  · exact within_pure _
  have hsized := hinfo info rfl
  obtain ⟨deviceType, idVendor, idProduct, revProduct, _ | data⟩ := info
  · exact within_pure _
  obtain _ | resp := response
  · exact within_pure _
  simp only [Arrays.ohScsiPeripheralInquiry, Option.bind_some]
  split
  · exact within_pure _
  · exact Arrays.takeReply_within _ _ _
      ⟨hsized.idVendor, hsized.idProduct, hsized.revProduct⟩ (hresponse resp rfl)

/-- The entry points stay inside the caller's arrays exactly when a descriptor block that is read fits
into its array, and `Inquiry` keeps the texts exactly when they are shorter than theirs. -/
theorem arrays_iff (platform : Platform) (gDdk : Option ScsiPeripheralDdk) (dev : Option HdiDevice)
    (response : Option ScsiPeripheralResponse) (hresponse : ∀ resp ∈ response, resp.Sized) :
    (∀ (block : Memory) (request : Option ScsiPeripheralRequest),
      (Arrays.ohScsiPeripheralSendRequestByCdb platform gDdk dev block request response).Within
        Place.Inside ↔ BlockFits gDdk dev request response) ∧
    (∀ (request : Option ScsiPeripheralInquiryRequest)
        (inquiryInfo : Option ScsiPeripheralInquiryInfo), (∀ info ∈ inquiryInfo, info.Sized) →
      (Arrays.ohScsiPeripheralInquiry platform gDdk dev request inquiryInfo response).Within
        Place.Inside ∧
      (TextsKept platform gDdk dev request inquiryInfo response ↔
        TextsShorter platform gDdk dev request inquiryInfo response)) ∧
    ∀ (srcResp : HdiResponse), ∀ desResp ∈ response,
      (Arrays.copyResponse srcResp desResp).Within Place.Inside := by
  refine ⟨fun block request => sendRequestByCdb_within_iff hresponse block request,
    fun request inquiryInfo hinfo => ⟨inquiry_within hresponse request hinfo,
      textsKept_iff request inquiryInfo⟩, ?_⟩
  intro srcResp desResp hdesResp
  exact Arrays.copyResponse_within srcResp (hresponse desResp hdesResp)

end

/-! ## The failing calls -/

/-- A service that replies to `Inquiry` with the vendor `idVendor`. -/
def inquiring (idVendor : List UInt8) : ScsiPeripheralDdk :=
  { writing [] with
    inquiry := fun _ _ _ => (
      { ret := 0
        response := {
          senseData := [], status := 0, maskedStatus := 0, msgStatus := 0, sbLenWr := 0
          hostStatus := 0, driverStatus := 0, resId := 0, duration := 0, transferredLength := 0 }
        written := [] },
      { deviceType := 0, idVendor, idProduct := [], revProduct := [] }) }

def sampleDevice : HdiDevice := { devFd := 0, memMapFd := 0, lbLength := 512 }

def sampleResponse : ScsiPeripheralResponse where
  senseData := List.replicate scsiPeripheralMaxSenseDataLen 0
  status := 0
  maskedStatus := 0
  msgStatus := 0
  sbLenWr := 0
  hostStatus := 0
  driverStatus := 0
  resId := 0
  duration := 0

def sampleMemMap : ScsiPeripheralDeviceMemMap :=
  { address := some [0, 0, 0, 0], offset := 0, bufferLength := 4, transferredLength := 0 }

def sampleInquiryRequest : ScsiPeripheralInquiryRequest :=
  { pageCode := 0, allocationLength := 36, control := 0, byte1 := 0, timeout := 1000 }

def sampleInquiryInfo : ScsiPeripheralInquiryInfo where
  deviceType := 0
  idVendor := List.replicate (scsiPeripheralVendorIdLen + 1) 0
  idProduct := List.replicate (scsiPeripheralProductIdLen + 1) 0
  revProduct := List.replicate (scsiPeripheralProductRevLen + 1) 0
  data := some sampleMemMap

/-- A request with a block of `cdbLength` bytes. -/
def sampleRequest (cdbLength : UInt8) : ScsiPeripheralRequest where
  commandDescriptorBlock := List.replicate scsiPeripheralMaxCmdDescBlockLen 0
  cdbLength
  dataTransferDirection := 0
  data := some sampleMemMap
  timeout := 1000

theorem sampleResponse_sized : ∀ resp ∈ some sampleResponse, resp.Sized := by
  intro resp hresp
  cases hresp
  exact List.length_replicate

theorem sampleInquiryInfo_sized : ∀ info ∈ some sampleInquiryInfo, info.Sized := by
  intro info hinfo
  cases hinfo
  exact ⟨List.length_replicate, List.length_replicate, List.length_replicate⟩

/-- A block of six bytes is read inside its array, and a vendor of eight bytes is kept. -/
theorem arrays_kept :
    (Arrays.ohScsiPeripheralSendRequestByCdb platform32 (some (inquiring [])) (some sampleDevice)
      (fun _ => 0) (some (sampleRequest 6)) (some sampleResponse)).Within Place.Inside ∧
    TextsKept platform32 (some (inquiring (List.replicate 8 65))) (some sampleDevice)
      (some sampleInquiryRequest) (some sampleInquiryInfo) (some sampleResponse) := by
  constructor
  · apply ((arrays_iff platform32 _ _ _ sampleResponse_sized).1 _ _).mpr
    intro _ _ _ req data hreq _ _ _
    cases hreq
    decide
  · apply ((arrays_iff platform32 _ _ _ sampleResponse_sized).2.1 _ _ sampleInquiryInfo_sized).2.mpr
    intro info resp reply hdiInquiryInfo hinfo _ hinquired _ _ _
    cases hinfo
    cases hinquired
    exact ⟨by decide, by decide, by decide⟩

/-- A `cdbLength` of 255 makes the block be read past its array, and a vendor of nine bytes loses its
last one to the terminator. -/
theorem arrays_not_kept :
    (¬ ∀ (gDdk : Option ScsiPeripheralDdk) (block : Memory) (request : Option ScsiPeripheralRequest),
      (Arrays.ohScsiPeripheralSendRequestByCdb platform32 gDdk (some sampleDevice) block request
        (some sampleResponse)).Within Place.Inside) ∧
    ¬ ∀ (gDdk : Option ScsiPeripheralDdk) (request : Option ScsiPeripheralInquiryRequest),
      TextsKept platform32 gDdk (some sampleDevice) request (some sampleInquiryInfo)
        (some sampleResponse) := by
  constructor
  · intro hall
    have hwithin := hall (some (inquiring [])) (fun _ => 0) (some (sampleRequest 255))
    have hfits := (sendRequestByCdb_within_iff sampleResponse_sized _ _).mp hwithin
    have hle := hfits (Option.some_ne_none _) (Option.some_ne_none _) (Option.some_ne_none _) _ _
      rfl rfl (by decide) (fun href => href.1 rfl)
    exact absurd hle (by decide)
  · intro hall
    have hkept := hall (some (inquiring (List.replicate 9 65))) (some sampleInquiryRequest)
    have hshorter := (textsKept_iff _ _).mp hkept _ _ _ _ rfl rfl rfl rfl
      ⟨by decide, by decide, by decide⟩ (Nat.zero_le _)
    exact absurd hshorter.idVendor (by decide)

end ExtDevMgr.Scsi
