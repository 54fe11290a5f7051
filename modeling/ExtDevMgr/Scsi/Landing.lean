import ExtDevMgr.Scsi.Frame

/-!
# Where received data lands

The service reads and writes the front of the mapping. With the two moves around its call, it sees the
caller's window and what it writes is found in the window, for every offset and length
(`dataRead_lands`).
-/

namespace ExtDevMgr.Scsi
open Region

section
variable {data : ScsiPeripheralDeviceMemMap} {bytes : List UInt8}

theorem not_refused (hsize : data.size ≤ securecMemMaxLen) : ¬ data.Refused :=
  fun href => absurd href.2 (Nat.not_lt.mpr hsize)

/-- The service finds the window at the front. -/
theorem load_front (h : data.Valid bytes) :
    load data.front 0 data.bufferLength.toNat =
      load bytes data.offset.toNat data.bufferLength.toNat := by
  have hle := h.le
  rw [ScsiPeripheralDeviceMemMap.front, data.memory_eq h.address]
  split
  case isTrue hzero =>
    rw [hzero]
    rfl
  case isFalse => exact load_move (Nat.zero_le _) h.le

theorem address_withMemory (h : data.address = some bytes) (bytes' : List UInt8) :
    (data.withMemory bytes').address = some bytes' := by
  rw [ScsiPeripheralDeviceMemMap.withMemory, h]
  rfl

theorem withMemory_withMemory (data : ScsiPeripheralDeviceMemMap) (bytes bytes' : List UInt8) :
    (data.withMemory bytes).withMemory bytes' = data.withMemory bytes' := by
  obtain ⟨address, offset, bufferLength, transferredLength⟩ := data
  cases address <;> rfl

theorem toUInt32_natCast {n : Nat} (h : n < 2 ^ 32) : (toUInt32 n).toNat = n := by
  have hmod : ((n : Int) % 2 ^ 32).toNat = n := by omega
  have hofInt : (toUInt32 n).toNat = ((n : Int) % 2 ^ 32).toNat % 2 ^ 32 := rfl
  rw [hofInt, hmod, Nat.mod_eq_of_lt h]

/-- What has been written to the front and reported as transferred is moved to the window. -/
theorem load_restoreMemMap (h : data.Valid bytes) (hsize : data.size ≤ securecMemMaxLen)
    {written : List UInt8} (hwritten : written.length ≤ data.bufferLength.toNat) :
    load (restoreMemMap (data.withMemory (store data.front 0 written))
      (toUInt32 written.length)).memory data.offset.toNat written.length = written := by
  have hle := h.le
  have hpos := h.pos
  have hlength : (store data.front 0 written).length = bytes.length := by
    rw [length_store (by rw [length_front h]; omega), length_front h]
  have haddress := address_withMemory h.address (store data.front 0 written)
  have hstored : load (store data.front 0 written) 0 written.length = written :=
    load_store (Nat.zero_le _)
  have href : ¬ (data.withMemory (store data.front 0 written)).Refused := by
    apply not_refused
    rw [ScsiPeripheralDeviceMemMap.size, ScsiPeripheralDeviceMemMap.memory_eq haddress, hlength,
      ← h.size]
    exact hsize
  have hoffset : (data.withMemory (store data.front 0 written)).offset = data.offset := rfl
  rw [restoreMemMap_memory haddress (by rw [hoffset]; omega) href, hoffset, hlength,
    toUInt32_natCast (Nat.lt_of_le_of_lt hwritten data.bufferLength.toNat_lt)]
  split
  case isTrue hzero =>
    rw [hzero]
    exact hstored
  case isFalse =>
    rw [Nat.min_eq_left (by omega), load_move (by omega) (by omega)]
    exact hstored

/-- The same for the steps around the service. -/
theorem load_transfer {ι : Type} (platform : Platform) (h : data.Valid bytes)
    (hsize : data.size ≤ securecMemMaxLen) (call : List UInt8 → ServiceReply × ι)
    (hret : (call data.front).1.Succeeds platform)
    (hwritten : (call data.front).1.written.length ≤ data.bufferLength.toNat)
    (htransferred : (call data.front).1.response.transferredLength =
      (call data.front).1.written.length) :
    load (transfer platform data call).data.memory data.offset.toNat
      (call data.front).1.written.length = (call data.front).1.written := by
  have hmemory := data.memory_withMemory h.address data.front
  rw [transfer, normalizeMemMap_front h (not_refused hsize)]
  simp only [ne_eq, not_true_eq_false, if_false, hmemory]
  rw [if_neg (not_not.mpr hret), htransferred]
  dsimp only
  rw [withMemory_withMemory]
  exact load_restoreMemMap h hsize hwritten

end

/-- Data that is read lands in the window, and the service sees the window before. -/
theorem dataRead_lands (platform : Platform) {data : ScsiPeripheralDeviceMemMap}
    {bytes : List UInt8} (h : data.Valid bytes) (hsize : data.size ≤ securecMemMaxLen) :
    ∃ front, normalizeMemMap data = (scsiPeripheralDdkSuccess, data.withMemory front) ∧
      load front 0 data.bufferLength.toNat =
        load bytes data.offset.toNat data.bufferLength.toNat ∧
      (∀ written : List UInt8, written.length ≤ data.bufferLength.toNat →
        load (restoreMemMap (data.withMemory (store front 0 written))
          (toUInt32 written.length)).memory data.offset.toNat written.length = written) ∧
      ∀ (call : Call) (ddk : ScsiPeripheralDdk) (dev : HdiDevice)
        (response : ScsiPeripheralResponse), call.data = some data → ¬ call.Skipped →
        let reply := call.serve platform ddk dev data front
        reply.Succeeds platform → reply.written.length ≤ data.bufferLength.toNat →
        reply.response.transferredLength = reply.written.length →
        ∃ after, call.after platform ddk dev response = some after ∧
          load after.memory data.offset.toNat reply.written.length = reply.written := by
  refine ⟨data.front, normalizeMemMap_front h (not_refused hsize), load_front h,
    fun written hwritten => load_restoreMemMap h hsize hwritten, ?_⟩
  intro call ddk dev response hdata hskip reply hret hwritten htransferred
  have hmap : (call.after platform ddk dev response).map (·.memory) = some _ :=
    Call.after_memory response hdata hskip
  obtain ⟨after, hafter, hmemory⟩ := Option.map_eq_some_iff.mp hmap
  refine ⟨after, hafter, ?_⟩
  rw [hmemory]
  exact load_transfer platform h hsize _ hret hwritten htransferred

/-- Three bytes read into the window 2 to 6 of eight bytes, which overlaps the front. -/
theorem overlappingRead_lands :
    let data : ScsiPeripheralDeviceMemMap :=
      { address := some [1, 2, 3, 4, 5, 6, 7, 8], offset := 2, bufferLength := 4
        transferredLength := 0 }
    ∃ front, normalizeMemMap data = (scsiPeripheralDdkSuccess, data.withMemory front) ∧
      load front 0 4 = [3, 4, 5, 6] ∧
      ∃ after, (Operation.read10.call data).after platform32 (writing [9, 9, 9])
          { devFd := 0, memMapFd := 0, lbLength := 512 }
          { senseData := [], status := 0, maskedStatus := 0, msgStatus := 0, sbLenWr := 0
            hostStatus := 0, driverStatus := 0, resId := 0, duration := 0 } = some after ∧
        load after.memory 2 3 = [9, 9, 9] := by
  intro data
  have hvalid : data.Valid [1, 2, 3, 4, 5, 6, 7, 8] :=
    ScsiPeripheralDeviceMemMap.valid_mk (by decide) (by decide)
  obtain ⟨front, hnormal, hfront, -, hread⟩ := dataRead_lands platform32 hvalid (by decide)
  refine ⟨front, hnormal, hfront, ?_⟩
  have hfrontEq : front = [3, 4, 5, 6, 5, 6, 7, 8] := by
    have hmemory := congrArg (fun result => result.2.memory) hnormal
    exact hmemory.symm.trans (by decide)
  subst hfrontEq
  exact hread (Operation.read10.call data) _ _ _ rfl id rfl (by decide) (by decide)

end ExtDevMgr.Scsi
