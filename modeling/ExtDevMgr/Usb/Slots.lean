import ExtDevMgr.Usb.Trace

/-!
# The slots of the alternate settings

`ParseConfiguration` allocates as many slots for an interface as `GetInterfaceNumber` counted, and
`ParseInterface` writes slot `numAltsetting` before it looks at the record. A write is in range when
it has `Room`: it happens at a place of the counting walk, fewer than 128 interface descriptors with
the number there come before that place, and one comes at it or behind it. Below the value of the
error codes, where a code taken for a length leads out of the vector, the converse holds too.
-/

namespace ExtDevMgr.Usb
open Records

/-- Byte two at the place where `remaining` bytes are left. -/
def numberAt (origin : Cursor) (remaining : Int) : UInt8 :=
  byteAt (origin.buffer.drop (origin.size - remaining).toNat) 2

/-- The place where `remaining` bytes are left is one of the counting walk, with fewer than 128
interface descriptors of the number there in front of it, and at least one at it or behind it. -/
def Room (origin : Cursor) (remaining : Int) : Prop :=
  ∃ before after, records origin.bytes = before ++ after ∧
    remaining = origin.size - before.flatten.length ∧
    before.countP (isInterface (numberAt origin remaining)) < usbMaxAltSetting ∧
    ∃ r ∈ after, isInterface (numberAt origin remaining) r = true

namespace MemEvent

/-- A write is within the allocated slots. -/
def InRange : MemEvent → Prop
  | altWrite k slots _ => k < slots
  | lost _ => True

def HasRoom (origin : Cursor) : MemEvent → Prop
  | altWrite _ _ remaining => Room origin remaining
  | lost _ => True

/-- A later write, if it is to a later slot of the same interface, is at a later place. -/
def Onward (origin : Cursor) : MemEvent → MemEvent → Prop
  | altWrite k _ remaining, altWrite k' _ remaining' =>
    numberAt origin remaining = numberAt origin remaining' → k < k' → remaining' < remaining
  | _, _ => True

end MemEvent

section
variable {origin : Cursor} {interfaceNums : List UInt8} {st st' : ConfigLoop}

theorem numberAt_from {c : Cursor} (h : Cursor.From origin c) :
    numberAt origin c.size = byteAt c.buffer 2 := by
  obtain ⟨d, hd, rfl⟩ := h
  rw [numberAt]
  simp only [Cursor.advance]
  rw [show origin.size - (origin.size - d) = d by omega]

/-! ## Steps and slots -/

/-- The write of a turn for interface `i`. -/
def ConfigLoop.write (st : ConfigLoop) (i : Nat) : MemEvent :=
  .altWrite (st.iface i).numAltsetting.toNat (st.iface i).slots st.cursor.size

theorem events_written (st : ConfigLoop) (i : Nat) :
    (st.put i (st.turn i).written).events = st.events ++ [st.write i] := rfl

theorem events_accepted (st : ConfigLoop) (i : Nat) :
    ∃ lost : List MemEvent, (∀ e ∈ lost, ∃ k, e = .lost k) ∧
      (st.put i (st.turn i).accepted).events = st.events ++ (st.write i :: lost) := by
  refine ⟨_, ?_, rfl⟩
  intro e he
  split at he
  · exact ⟨_, List.mem_singleton.mp he⟩
  · cases he

theorem slots_accepted (t : InterfaceLoop) : t.accepted.usbInterface.slots = t.usbInterface.slots :=
  slots_setSlot _ _ _

theorem slots_written (t : InterfaceLoop) : t.written.usbInterface.slots = t.usbInterface.slots :=
  slots_setSlot _ _ _

/-- Storing a turn of interface `i` changes no other interface. -/
theorem iface_put (st : ConfigLoop) (i j : Nat) (t : InterfaceLoop) :
    (st.put i t).iface j = st.iface j ∨ i = j ∧ (st.put i t).iface j = t.usbInterface := by
  by_cases hij : i = j
  · subst hij
    by_cases hi : i < (st.config.interface.getD []).length
    · exact .inr ⟨rfl, iface_put_self st hi t⟩
    · refine .inl ?_
      have hlen := length_setInterface st.config i t.usbInterface
      rw [ConfigLoop.iface, ConfigLoop.iface, List.getD_eq_default _ _ (Nat.not_lt.mp hi)]
      exact List.getD_eq_default _ _ (hlen.trans_le (Nat.not_lt.mp hi))
  · exact .inl (iface_put_ne st hij t)

theorem iface_skipped (st : ConfigLoop) (i : Nat) : st.skipped.iface i = st.iface i := by
  rw [ConfigLoop.iface, skipped_interface, ConfigLoop.iface]

theorem events_skipped (st : ConfigLoop) : st.skipped.events = st.events := by
  rw [ConfigLoop.skipped]
  split <;> rfl

theorem ParseStep.slots (h : ParseStep origin interfaceNums st st') (j : Nat) :
    (st'.iface j).slots = (st.iface j).slots := by
  cases h with
  | extras => rw [iface_skipped]
  | reject i =>
    rcases iface_put st i j (st.turn i).written with heq | ⟨rfl, heq⟩
    · rw [heq]
    · rw [heq, slots_written]
      rfl
  | accept i =>
    rcases iface_put st i j (st.turn i).accepted with heq | ⟨rfl, heq⟩
    · rw [heq]
    · rw [heq, slots_accepted]
      rfl
  | jump => rfl

theorem ParseStep.events_mono (h : ParseStep origin interfaceNums st st') :
    ∃ es, st'.events = st.events ++ es := by
  cases h with
  | extras => exact ⟨[], by rw [events_skipped, List.append_nil]⟩
  | reject => exact ⟨_, rfl⟩
  | accept => exact ⟨_, rfl⟩
  | jump => exact ⟨[], (List.append_nil _).symm⟩

theorem ParseStep.fromOrigin (ho : origin.Valid) (h : ParseStep origin interfaceNums st st')
    (hst : Cursor.From origin st.cursor) : Cursor.From origin st'.cursor := by
  cases h with
  | extras =>
    rw [st.cursor_skipped]
    exact hst.advance (findNextDescriptor_nonneg (hst.valid ho).inBounds)
  | reject => exact hst
  | accept i _ ha =>
    exact (hst.advance (Int.natCast_nonneg _)).passes (ha.passes (hst.valid ho)).2
  | jump d hd => exact ⟨_, Int.le_trans (by decide) hd, rfl⟩

theorem EntryTrace.fromOrigin (ho : origin.Valid) (h : EntryTrace origin st) :
    Cursor.From origin st.cursor :=
  Trace.invariant (P := fun st => Cursor.From origin st.cursor) (fun hst hstep =>
    hstep.fromOrigin ho hst) h ((Cursor.From.refl _).advance (Int.natCast_nonneg _))

theorem slots_entryState (ho : origin.Valid) {i : Nat} {x : UInt8}
    (hx : (getInterfaceNumber origin).1[i]? = some x) :
    ((entryState origin).iface i).slots =
      min usbMaxAltSetting ((records origin.bytes).countP (isInterface x)) := by
  have hcounts := counts_getInterfaceNumber ho.inBounds
  have hcount := hcounts.count i x hx
  have hlt : i < (getInterfaceNumber origin).2.length := by
    rw [hcounts.length]
    exact (List.getElem?_eq_some_iff.mp hx).1
  simp only [ConfigLoop.iface, entryState, allocateInterfaces, Option.getD_some,
    List.getD_eq_getElem?_getD, List.getElem?_map, List.getElem?_eq_getElem hlt, Option.map_some,
    UsbDdkInterface.slots, List.length_replicate] at hcount ⊢
  simp only [usbMaxAltSetting] at hcount ⊢
  omega

/-- Each interface keeps the slots it was allocated. -/
theorem EntryTrace.slots (ho : origin.Valid) (h : EntryTrace origin st) {i : Nat} {x : UInt8}
    (hx : (getInterfaceNumber origin).1[i]? = some x) :
    (st.iface i).slots = min usbMaxAltSetting ((records origin.bytes).countP (isInterface x)) := by
  refine Trace.invariant (P := fun st => (st.iface i).slots = _) (fun hst hstep => ?_) h
    (slots_entryState ho hx)
  rw [hstep.slots, hst]

theorem numAltsetting_entryState (origin : Cursor) (i : Nat) :
    ((entryState origin).iface i).numAltsetting = 0 := by
  rw [ConfigLoop.iface, entryState]
  simp only [allocateInterfaces, Option.getD_some, List.getD_eq_getElem?_getD, List.getElem?_map]
  cases (getInterfaceNumber origin).2[i]? <;> rfl

/-- While all writes are in range, no interface counts more settings than it has slots. -/
theorem EntryTrace.numAltsetting_le (h : EntryTrace origin st)
    (hrange : ∀ e ∈ st.events, e.InRange) (j : Nat) :
    (st.iface j).numAltsetting.toNat ≤ (st.iface j).slots := by
  refine Trace.invariant (P := fun st => (∀ e ∈ st.events, e.InRange) →
    (st.iface j).numAltsetting.toNat ≤ (st.iface j).slots) (fun {st st'} hst hstep hrange => ?_) h
    (fun _ => ?_) hrange
  · obtain ⟨es, hes⟩ := hstep.events_mono
    have hle := hst fun e he => hrange e (hes ▸ List.mem_append_left es he)
    rw [hstep.slots]
    cases hstep with
    | extras => rwa [iface_skipped]
    | reject i =>
      rcases iface_put st i j (st.turn i).written with heq | ⟨rfl, heq⟩
      · rwa [heq]
      · rw [heq]
        exact hle
    | accept i =>
      rcases iface_put st i j (st.turn i).accepted with heq | ⟨rfl, heq⟩
      · rwa [heq]
      · obtain ⟨lost, -, hevents⟩ := events_accepted st i
        have hlt : (st.iface i).numAltsetting.toNat < (st.iface i).slots :=
          hrange (st.write i) (hevents ▸ List.mem_append_right _ List.mem_cons_self)
        have hnum : (st.turn i).accepted.usbInterface.numAltsetting =
            (st.iface i).numAltsetting + 1 := rfl
        rw [heq, hnum, UInt8.toNat_add]
        have hone : (1 : UInt8).toNat = 1 := rfl
        omega
    | jump => exact hle
  · rw [numAltsetting_entryState]
    exact Nat.zero_le _

theorem toNat_numAltsetting_succ {u : UsbDdkInterface}
    (h : u.numAltsetting.toNat < usbMaxAltSetting) :
    (u.numAltsetting + 1).toNat = u.numAltsetting.toNat + 1 := by
  have hone : (1 : UInt8).toNat = 1 := rfl
  simp only [usbMaxAltSetting] at h
  exact (UInt8.toNat_add _ 1).trans (Nat.mod_eq_of_lt (by omega))

theorem numAltsetting_accepted {t : InterfaceLoop}
    (h : t.usbInterface.numAltsetting.toNat < usbMaxAltSetting) :
    t.accepted.usbInterface.numAltsetting.toNat = t.usbInterface.numAltsetting.toNat + 1 :=
  toNat_numAltsetting_succ h

/-! ## Room is enough -/

theorem InterfaceLoop.Accepts.isInterface_head {t : InterfaceLoop} (ha : t.Accepts) :
    isInterface (byteAt t.cursor.buffer 2) t.cursor.head = true := by
  have hlen := ha.length
  refine isInterface_iff.mpr ⟨?_, ?_, ?_⟩
  · rw [Cursor.byteAt_head (by omega) ha.length_le, ha.type]
  · exact hlen.trans_eq (congrArg UInt8.toNat (Cursor.byteAt_head (by omega) ha.length_le)).symm
  · exact Cursor.byteAt_head (by omega) ha.length_le

/-- The descriptor that was accepted last for interface `i`, whose number is `x`: it is a record of
the walk, and the settings counted before it are interface descriptors in front of it. -/
def LastAccepted (origin : Cursor) (st : ConfigLoop) (i : Nat) (x : UInt8) : Prop :=
  (st.iface i).numAltsetting.toNat = 0 ∨ ∃ before r after slots,
    records origin.bytes = before ++ r :: after ∧ isInterface x r = true ∧
    (st.iface i).numAltsetting.toNat ≤ before.countP (isInterface x) + 1 ∧
    numberAt origin (origin.size - before.flatten.length) = x ∧
    .altWrite ((st.iface i).numAltsetting.toNat - 1) slots
      (origin.size - before.flatten.length) ∈ st.events

theorem LastAccepted.mono {i : Nat} {x : UInt8} (h : LastAccepted origin st i x)
    (hnum : (st'.iface i).numAltsetting = (st.iface i).numAltsetting)
    (hevents : ∃ es, st'.events = st.events ++ es) : LastAccepted origin st' i x := by
  obtain ⟨es, hes⟩ := hevents
  rcases h with hzero | ⟨before, r, after, slots, hrec, hr, hle, hx, hmem⟩
  · exact .inl (by rw [hnum, hzero])
  · refine .inr ⟨before, r, after, slots, hrec, hr, by rwa [hnum], hx, ?_⟩
    rw [hnum, hes]
    exact List.mem_append_left _ hmem

/-- At a place with room the settings counted so far are interface descriptors in front of it. -/
theorem LastAccepted.room {i : Nat} {x : UInt8} (h : LastAccepted origin st i x) {slots : Nat}
    {remaining : Int} (hx : numberAt origin remaining = x) (hroom : Room origin remaining)
    (honward : ∀ e ∈ st.events, e.Onward origin
      (.altWrite (st.iface i).numAltsetting.toNat slots remaining)) :
    ∃ before after, records origin.bytes = before ++ after ∧
      remaining = origin.size - before.flatten.length ∧
      (st.iface i).numAltsetting.toNat ≤ before.countP (isInterface x) ∧
      before.countP (isInterface x) < usbMaxAltSetting ∧ ∃ r ∈ after, isInterface x r = true := by
  obtain ⟨before, after, hrec, hrem, hlt, hafter⟩ := hroom
  rw [hx] at hlt hafter
  refine ⟨before, after, hrec, hrem, ?_, hlt, hafter⟩
  rcases h with hzero | ⟨before', r, after', slots', hrec', hr, hle, hx', hmem⟩
  · rw [hzero]
    exact Nat.zero_le _
  · by_cases hpos : (st.iface i).numAltsetting.toNat = 0
    · rw [hpos]
      exact Nat.zero_le _
    · have hback := honward _ hmem (hx'.trans hx.symm) (by omega)
      obtain ⟨r', us, rfl, hcons⟩ := prefix_of_lt hrec' hrec (by omega)
      obtain ⟨rfl, -⟩ := List.cons.inj hcons
      rw [List.countP_append, List.countP_cons_of_pos hr]
      omega

theorem lt_slots {x : UInt8} {n : Nat} {before after : List (List UInt8)}
    (hrec : records origin.bytes = before ++ after) (hle : n ≤ before.countP (isInterface x))
    (hlt : before.countP (isInterface x) < usbMaxAltSetting)
    (hafter : ∃ r ∈ after, isInterface x r = true) :
    n < min usbMaxAltSetting ((records origin.bytes).countP (isInterface x)) := by
  have hpos := List.countP_pos_iff.mpr hafter
  rw [hrec, List.countP_append]
  omega

/-- The place with `remaining` bytes left, when it is one of the walk. -/
theorem records_at (ho : origin.Valid) {c : Cursor} (hc : Cursor.From origin c)
    {before after : List (List UInt8)} (hrec : records origin.bytes = before ++ after)
    (hsize : c.size = origin.size - before.flatten.length) : records c.bytes = after := by
  obtain ⟨hskip, hafter⟩ := Cursor.skips_of_records ho.inBounds hrec
  have hceq := hc.eq_of_size ⟨_, Int.natCast_nonneg _, rfl⟩ (hsize.trans hskip.size.symm)
  rw [hceq, hafter]

/-- An accepted record at a place of the walk is the descriptor that was accepted last. -/
theorem lastAccepted_accept (ho : origin.Valid) (hst : Cursor.From origin st.cursor) {i : Nat}
    (ha : (st.turn i).Accepts) {before after : List (List UInt8)}
    (hrec : records origin.bytes = before ++ after)
    (hrem : st.cursor.size = origin.size - before.flatten.length)
    (hle : (st.iface i).numAltsetting.toNat ≤
      before.countP (isInterface (byteAt st.cursor.buffer 2)))
    (hlt : (st.iface i).numAltsetting.toNat < usbMaxAltSetting)
    (hiface : (st.put i (st.turn i).accepted).iface i = (st.turn i).accepted.usbInterface) :
    LastAccepted origin (st.put i (st.turn i).accepted) i (byteAt st.cursor.buffer 2) := by
  have hafter := records_at ho hst hrec hrem
  have hc := ha.complete (hst.valid ho)
  have hhead := Cursor.records_head (c := st.cursor) (Int.lt_of_lt_of_le (by decide) ha.size) hc
  rw [← hafter, hhead] at hrec
  have hnum : ((st.put i (st.turn i).accepted).iface i).numAltsetting.toNat =
      (st.iface i).numAltsetting.toNat + 1 := by
    rw [hiface]
    exact numAltsetting_accepted hlt
  obtain ⟨lost, -, hevents⟩ := events_accepted st i
  refine .inr ⟨before, _, _, (st.iface i).slots, hrec, ha.isInterface_head, ?_, ?_, ?_⟩
  · rw [hnum]
    exact Nat.succ_le_succ hle
  · rw [← hrem]
    exact numberAt_from hst
  · rw [hnum, ← hrem, hevents]
    exact List.mem_append_right _ List.mem_cons_self

/-- While the writes have room and go on, the counted settings are the accepted descriptors, and the
writes are in range. -/
theorem EntryTrace.inRange_of_room (ho : origin.Valid) (h : EntryTrace origin st)
    (hroom : ∀ e ∈ st.events, e.HasRoom origin)
    (honward : st.events.Pairwise (MemEvent.Onward origin)) : ∀ e ∈ st.events, e.InRange := by
  have hinv := Trace.invariant (P := fun st => EntryTrace origin st ∧
    ((∀ e ∈ st.events, e.HasRoom origin) → st.events.Pairwise (MemEvent.Onward origin) →
      (∀ i x, (getInterfaceNumber origin).1[i]? = some x → LastAccepted origin st i x) ∧
      ∀ e ∈ st.events, e.InRange)) (fun {st st'} ⟨htrace, hst⟩ hstep => ?_) h
    ⟨.refl, fun _ _ => ⟨fun i x _ => .inl (by rw [numAltsetting_entryState]; rfl), nofun⟩⟩
  · exact (hinv.2 hroom honward).2
  refine ⟨htrace.tail hstep, fun hroom honward => ?_⟩
  obtain ⟨es, hes⟩ := hstep.events_mono
  have hpair := honward
  rw [hes, List.pairwise_append] at hpair
  obtain ⟨hlast, hrange⟩ := hst (fun e he => hroom e (hes ▸ List.mem_append_left es he)) hpair.1
  -- a write of either kind is in range
  have hwrite : ∀ i, st.Numbered (getInterfaceNumber origin).1 i → st.write i ∈ es →
      ∃ before after, records origin.bytes = before ++ after ∧
        st.cursor.size = origin.size - before.flatten.length ∧
        (st.iface i).numAltsetting.toNat ≤
          before.countP (isInterface (byteAt st.cursor.buffer 2)) ∧
        (st.write i).InRange := by
    intro i hnum hmem
    have hroom' : Room origin st.cursor.size :=
      hroom (st.write i) (hes ▸ List.mem_append_right _ hmem)
    obtain ⟨before, after, hrec, hrem, hle, hlt, hafter⟩ := (hlast i _ hnum).room
      (numberAt_from (htrace.fromOrigin ho)) hroom' fun e he => hpair.2.2 e he _ hmem
    refine ⟨before, after, hrec, hrem, hle, ?_⟩
    rw [ConfigLoop.write, MemEvent.InRange, htrace.slots ho hnum]
    exact lt_slots hrec hle hlt hafter
  cases hstep with
  | extras =>
    rw [events_skipped]
    exact ⟨fun i x hx => (hlast i x hx).mono (by rw [iface_skipped]) ⟨es, hes⟩, hrange⟩
  | reject i hnum =>
    rw [events_written, List.append_cancel_left_eq] at hes
    subst hes
    obtain ⟨-, -, -, -, -, hin⟩ := hwrite i hnum (List.mem_singleton_self _)
    refine ⟨fun j x hx => (hlast j x hx).mono ?_ ⟨_, rfl⟩, ?_⟩
    · rcases iface_put st i j (st.turn i).written with heq | ⟨rfl, heq⟩
      · rw [heq]
      · rw [heq]
        rfl
    · intro e he
      rw [events_written] at he
      rcases List.mem_append.mp he with he | he
      · exact hrange e he
      · rw [List.mem_singleton.mp he]
        exact hin
  | accept i hnum ha =>
    obtain ⟨lost, hlost, hevents⟩ := events_accepted st i
    obtain rfl := List.append_cancel_left (hevents.symm.trans hes)
    obtain ⟨before, after, hrec, hrem, hle, hin⟩ := hwrite i hnum List.mem_cons_self
    refine ⟨fun j x hx => ?_, ?_⟩
    · rcases iface_put st i j (st.turn i).accepted with heq | ⟨rfl, heq⟩
      · exact (hlast j x hx).mono (by rw [heq]) ⟨_, hes⟩
      · obtain rfl : x = byteAt st.cursor.buffer 2 := Option.some.inj (hx.symm.trans hnum)
        have hbound : (st.iface i).numAltsetting.toNat < (st.iface i).slots := hin
        rw [htrace.slots ho hnum] at hbound
        exact lastAccepted_accept ho (htrace.fromOrigin ho) ha hrec hrem hle
          (Nat.lt_of_lt_of_le hbound (Nat.min_le_left _ _)) heq
    · intro e he
      rw [hevents] at he
      rcases List.mem_append.mp he with he | he
      · exact hrange e he
      · rcases List.mem_cons.mp he with rfl | he
        · exact hin
        · obtain ⟨k, rfl⟩ := hlost e he
          trivial
  | jump d =>
    exact ⟨fun i x hx => (hlast i x hx).mono rfl ⟨es, hes⟩, hrange⟩

/-! ## Room is necessary in vectors shorter than an error code -/

/-- The cursor is a place of the walk, and each interface has counted the interface descriptors of
its number in front of it. -/
def OnWalk (origin : Cursor) (st : ConfigLoop) : Prop :=
  ∃ before, origin.Skips before st.cursor ∧
    ∀ i x, (getInterfaceNumber origin).1[i]? = some x →
      (st.iface i).numAltsetting.toNat = before.countP (isInterface x)

theorem countP_of_not_interface {rs : List (List UInt8)}
    (h : ∀ r ∈ rs, byteAt r 1 ≠ usbDdkDtInterface) (x : UInt8) :
    rs.countP (isInterface x) = 0 :=
  List.countP_eq_zero.mpr fun r hr hx => h r hr (isInterface_iff.mp hx).1

/-- On the walk a write is in range exactly when it has room. -/
theorem OnWalk.inRange_iff (ho : origin.Valid) (htrace : EntryTrace origin st)
    (h : OnWalk origin st) {i : Nat} (hnum : st.Numbered (getInterfaceNumber origin).1 i) :
    (st.write i).InRange ↔ (st.write i).HasRoom origin := by
  obtain ⟨before, hskip, hcount⟩ := h
  have hx := numberAt_from (htrace.fromOrigin ho)
  rw [ConfigLoop.write, MemEvent.InRange, MemEvent.HasRoom, htrace.slots ho hnum,
    hcount i _ hnum, Room, hx]
  constructor
  · intro hlt
    rw [hskip.records, List.countP_append] at hlt
    refine ⟨before, _, hskip.records, hskip.size, by omega, List.countP_pos_iff.mp ?_⟩
    omega
  · rintro ⟨before', after', hrec, hrem, hlt, hafter⟩
    have hlen := hskip.size
    obtain ⟨rfl, rfl⟩ := prefix_of_eq hskip.records hrec (by omega)
    exact lt_slots hrec (Nat.le_refl _) hlt hafter

/-- An accepted record on the walk leads to the place behind it on the walk, or out of the
vector. -/
theorem onWalk_accept (ho : origin.Valid) (hsmall : origin.size < usbDdkInvalidOperation)
    (htrace : EntryTrace origin st) (h : OnWalk origin st) {i : Nat}
    (hnum : st.Numbered (getInterfaceNumber origin).1 i) (ha : (st.turn i).Accepts)
    (hin : (st.write i).InRange) :
    (st.put i (st.turn i).accepted).cursor.size < 0 ∨
      OnWalk origin (st.put i (st.turn i).accepted) := by
  obtain ⟨before, hskip, hcount⟩ := h
  have hvalid := (htrace.fromOrigin ho).valid ho
  have hhead := Cursor.skips_head hvalid.inBounds (ha.complete hvalid)
  have hle := (htrace.fromOrigin ho).size_le
  rcases (ha.passes hvalid).2.skips with ⟨rs, hrs, hne⟩ | hjump
  · refine .inr ⟨before ++ ([st.cursor.head] ++ rs), hskip.trans (hhead.trans hrs), ?_⟩
    intro j x hx
    have hr : isInterface (byteAt st.cursor.buffer 2) st.cursor.head = true := ha.isInterface_head
    rw [← List.append_assoc, List.countP_append, countP_concat_interface hr,
      countP_of_not_interface hne, Nat.add_zero, ← hcount j x hx]
    have hlt : (st.iface i).numAltsetting.toNat < usbMaxAltSetting := by
      have hbound : (st.iface i).numAltsetting.toNat < (st.iface i).slots := hin
      rw [htrace.slots ho hnum] at hbound
      exact Nat.lt_of_lt_of_le hbound (Nat.min_le_left _ _)
    have hcounts := counts_getInterfaceNumber ho.inBounds
    by_cases hij : i = j
    · subst hij
      rw [iface_put_self st (htrace.lt_length ho hnum), numAltsetting_accepted hlt,
        if_pos (Option.some.inj (hx.symm.trans hnum))]
      rfl
    · have hxne : x ≠ byteAt st.cursor.buffer 2 := by
        rintro rfl
        exact hij (hcounts.index_inj hnum hx)
      rw [iface_put_ne st hij, if_neg hxne, Nat.add_zero]
  · have hhsize : (st.turn i).afterHeader.size ≤ st.cursor.size :=
      Int.sub_le_self _ (Int.natCast_nonneg _)
    refine .inl ?_
    change (st.turn i).endpoints.2.2.size < 0
    omega

theorem AcceptsHeader.length_le_size {c : Cursor} (ha : AcceptsHeader c) :
    ((byteAt c.buffer 0).toNat : Int) ≤ c.size := by
  have hsize := ha.size
  have hle := ha.length_le
  omega

/-- The loop is entered behind the header. -/
theorem skips_entryState (ho : origin.Valid) (ha : AcceptsHeader origin) :
    origin.Skips [origin.head] (entryState origin).cursor ∧
      ∀ r ∈ [origin.head], byteAt r 1 ≠ usbDdkDtInterface := by
  have hlen := ha.length
  have hc := Cursor.complete_of_bounds ho.inBounds (n := 9) (by decide) (by omega) ha.length_le_size
  refine ⟨Cursor.skips_head ho.inBounds hc, fun r hr => ?_⟩
  rw [List.mem_singleton.mp hr, Cursor.byteAt_head (by omega) ha.length_le_size, ha.type]
  decide

theorem onWalk_entryState (ho : origin.Valid) (ha : AcceptsHeader origin) :
    OnWalk origin (entryState origin) := by
  obtain ⟨hskip, hbehind⟩ := skips_entryState ho ha
  refine ⟨[origin.head], hskip, fun i x _ => ?_⟩
  rw [numAltsetting_entryState]
  exact (countP_of_not_interface hbehind x).symm

/-- A log on whose every event two predicates agree as long as the first holds of the earlier
ones. -/
inductive Agree (p q : MemEvent → Prop) : List MemEvent → Prop where
  | nil : Agree p q []
  | snoc {es : List MemEvent} {e : MemEvent} : Agree p q es → ((∀ e ∈ es, p e) → (p e ↔ q e)) →
      Agree p q (es ++ [e])

theorem Agree.iff {p q : MemEvent → Prop} {es : List MemEvent} (h : Agree p q es) :
    (∀ e ∈ es, p e) ↔ ∀ e ∈ es, q e := by
  induction h with
  | nil => simp
  | snoc _ he ih =>
    simp only [List.forall_mem_append, List.forall_mem_singleton]
    constructor
    · rintro ⟨hes, hlast⟩
      exact ⟨ih.mp hes, (he hes).mp hlast⟩
    · rintro ⟨hes, hlast⟩
      exact ⟨ih.mpr hes, (he (ih.mpr hes)).mpr hlast⟩

theorem Agree.append_lost {es lost : List MemEvent}
    (h : Agree MemEvent.InRange (MemEvent.HasRoom origin) es)
    (hlost : ∀ e ∈ lost, ∃ k, e = .lost k) :
    Agree MemEvent.InRange (MemEvent.HasRoom origin) (es ++ lost) := by
  induction lost generalizing es with
  | nil => rwa [List.append_nil]
  | cons e lost ih =>
    obtain ⟨k, rfl⟩ := hlost e List.mem_cons_self
    have hsnoc := h.snoc (e := .lost k) fun _ => Iff.rfl
    have happ := ih hsnoc fun e he => hlost e (List.mem_cons_of_mem _ he)
    rwa [List.append_assoc, List.singleton_append] at happ

/-- In a vector shorter than an error code, all writes are in range exactly when all have room. -/
theorem EntryTrace.inRange_iff_room (ho : origin.Valid)
    (hsmall : origin.size < usbDdkInvalidOperation) (ha : AcceptsHeader origin)
    (h : EntryTrace origin st) :
    (∀ e ∈ st.events, e.InRange) ↔ ∀ e ∈ st.events, e.HasRoom origin := by
  have hinv := Trace.invariant (P := fun st => EntryTrace origin st ∧
    ((∀ e ∈ st.events, e.InRange) → st.cursor.size < 0 ∨ OnWalk origin st) ∧
    Agree MemEvent.InRange (MemEvent.HasRoom origin) st.events)
    (fun {st st'} ⟨htrace, hwalk, hagree⟩ hstep => ?_) h
    ⟨.refl, fun _ => .inr (onWalk_entryState ho ha), .nil⟩
  · exact hinv.2.2.iff
  · refine ⟨htrace.tail hstep, ?_⟩
    have hvalid := (htrace.fromOrigin ho).valid ho
    obtain ⟨es, hes⟩ := hstep.events_mono
    -- the state before the step is on the walk when a record can be looked at
    have hwalk' : (∀ e ∈ st.events, e.InRange) → 2 ≤ st.cursor.size → OnWalk origin st :=
      fun hrange hsize => (hwalk hrange).resolve_left (by omega)
    have hagree' : ∀ i, st.Numbered (getInterfaceNumber origin).1 i → 9 ≤ st.cursor.size →
        Agree MemEvent.InRange (MemEvent.HasRoom origin) (st.events ++ [st.write i]) :=
      fun i hnum hsize => hagree.snoc fun hrange =>
        (hwalk' hrange (by omega)).inRange_iff ho htrace hnum
    cases hstep with
    | extras hsize =>
      rw [events_skipped]
      refine ⟨fun hrange => .inr ?_, hagree⟩
      obtain ⟨before, hskip, hcount⟩ := hwalk' hrange hsize
      refine ⟨before ++ extras st.cursor, ?_, fun i x hx => ?_⟩
      · rw [st.cursor_skipped]
        exact hskip.trans (skips_extras hvalid.inBounds).1
      · rw [iface_skipped, hcount i x hx, List.countP_append, countP_of_not_interface fun r hr =>
          not_interface_of_isExtra (isExtra_of_mem_extras hr), Nat.add_zero]
    | reject i hnum hsize =>
      refine ⟨fun hrange => .inr ?_, hagree' i hnum hsize⟩
      obtain ⟨before, hskip, hcount⟩ := hwalk'
        (fun e he => hrange e (hes ▸ List.mem_append_left es he)) (by omega)
      refine ⟨before, hskip, fun j x hx => ?_⟩
      rw [← hcount j x hx]
      rcases iface_put st i j (st.turn i).written with heq | ⟨rfl, heq⟩
      · rw [heq]
      · rw [heq]
        rfl
    | accept i hnum ha =>
      have hsize : 9 ≤ st.cursor.size := ha.size
      obtain ⟨lost, hlost, hevents⟩ := events_accepted st i
      rw [hevents]
      refine ⟨fun hrange => ?_, ?_⟩
      · have hprev := hwalk' (fun e he => hrange e (List.mem_append_left _ he)) (by omega)
        exact onWalk_accept ho hsmall htrace hprev hnum ha
          (hrange _ (List.mem_append_right _ List.mem_cons_self))
      · have happ := (hagree' i hnum hsize).append_lost hlost
        rwa [List.append_assoc, List.singleton_append] at happ
    | jump d hd =>
      refine ⟨fun _ => .inl ?_, hagree⟩
      change origin.size - d < 0
      omega

end

/-! ## The runs on a vector -/

section
variable {configBuffer : List UInt8}

/-- The log of a run: at the head of a turn, or at the return. -/
inductive Logged (configBuffer : List UInt8) : List MemEvent → Prop where
  | turn {st : ConfigLoop} : Reached configBuffer st → Logged configBuffer st.events
  | exit {outcome : ParseOutcome} : ParserReturns configBuffer outcome →
      Logged configBuffer outcome.events

/-- Every write to `altsetting[k]`, and every read and free of one, is within the allocated
slots. -/
structure SlotsInRange (configBuffer : List UInt8) : Prop where
  writes : ∀ es, Logged configBuffer es → ∀ k slots remaining,
    .altWrite k slots remaining ∈ es → k < slots
  clears : ∀ outcome, ParserReturns configBuffer outcome →
    ∀ u ∈ outcome.tmpConfig.interface.getD [], ∀ k ∈ clearInterfaceReads u, k < u.slots

/-- Every write happens at a place with room. -/
def WritesHaveRoom (configBuffer : List UInt8) : Prop :=
  ∀ es, Logged configBuffer es → ∀ k slots remaining, .altWrite k slots remaining ∈ es →
    Room (vectorCursor configBuffer) remaining

/-- No write to a later slot of an interface happens at an earlier place. -/
def WritesGoOn (configBuffer : List UInt8) : Prop :=
  ∀ es, Logged configBuffer es → es.Pairwise (MemEvent.Onward (vectorCursor configBuffer))

theorem events_outcomeOf (result : ConfigResult) : (outcomeOf result).events = result.events := by
  rw [outcomeOf]
  split <;> rfl

theorem tmpConfig_outcomeOf (result : ConfigResult) :
    (outcomeOf result).tmpConfig = result.config := by
  rw [outcomeOf]
  split <;> rfl

/-- A nonempty log is the log of a trace. -/
theorem Logged.trace {es : List MemEvent} (h : Logged configBuffer es) :
    es = [] ∨ AcceptsHeader (vectorCursor configBuffer) ∧
      ∃ st, EntryTrace (vectorCursor configBuffer) st ∧ st.events = es := by
  have ho := valid_vectorCursor configBuffer
  cases h with
  | turn hst => exact .inr ⟨hst.accepts, _, (hst.trace ho).1, rfl⟩
  | exit hout =>
    by_cases ha : AcceptsHeader (vectorCursor configBuffer)
    · obtain ⟨result, hresult, rfl⟩ := (parserReturns_of_accepts ha).mp hout
      obtain ⟨c, hc⟩ := trace_of_returns ho ha hresult
      exact .inr ⟨ha, _, hc, (events_outcomeOf result).symm⟩
    · obtain ⟨result, hrej, hreturns⟩ := parserReturns_of_rejects ha
      rw [(hreturns _).mp hout, events_outcomeOf, hrej.events]
      exact .inl rfl

theorem forall_writes {p : MemEvent → Prop} {q : Nat → Nat → Int → Prop}
    (hwrite : ∀ k slots remaining, p (.altWrite k slots remaining) ↔ q k slots remaining)
    (hlost : ∀ k, p (.lost k)) (es : List MemEvent) :
    (∀ e ∈ es, p e) ↔ ∀ k slots remaining, .altWrite k slots remaining ∈ es →
      q k slots remaining := by
  constructor
  · intro h k slots remaining hmem
    exact (hwrite _ _ _).mp (h _ hmem)
  · intro h e he
    cases e with
    | altWrite k slots remaining => exact (hwrite _ _ _).mpr (h _ _ _ he)
    | lost k => exact hlost k

theorem forall_inRange (es : List MemEvent) : (∀ e ∈ es, e.InRange) ↔
    ∀ k slots remaining, .altWrite k slots remaining ∈ es → k < slots :=
  forall_writes (fun _ _ _ => Iff.rfl) (fun _ => trivial) es

theorem forall_hasRoom (origin : Cursor) (es : List MemEvent) : (∀ e ∈ es, e.HasRoom origin) ↔
    ∀ k slots remaining, .altWrite k slots remaining ∈ es → Room origin remaining :=
  forall_writes (fun _ _ _ => Iff.rfl) (fun _ => trivial) es

/-- Reads and frees are in range once the writes are. -/
theorem clears_of_writes
    (h : ∀ es, Logged configBuffer es → ∀ k slots remaining,
      .altWrite k slots remaining ∈ es → k < slots) : SlotsInRange configBuffer := by
  refine ⟨h, fun outcome hout u hu k hk => ?_⟩
  have hrange := (forall_inRange _).mpr (h _ (.exit hout))
  by_cases ha : AcceptsHeader (vectorCursor configBuffer)
  · obtain ⟨result, hresult, rfl⟩ := (parserReturns_of_accepts ha).mp hout
    obtain ⟨c, hc⟩ := trace_of_returns (valid_vectorCursor configBuffer) ha hresult
    rw [events_outcomeOf] at hrange
    rw [tmpConfig_outcomeOf] at hu
    obtain ⟨j, hj, rfl⟩ := List.getElem_of_mem hu
    have hle := hc.numAltsetting_le hrange j
    rw [ConfigLoop.iface, List.getD_eq_getElem _ _ hj] at hle
    rw [clearInterfaceReads] at hk
    split at hk
    · cases hk
    · exact Nat.lt_of_lt_of_le (List.mem_range.mp hk) hle
  · obtain ⟨result, hrej, hreturns⟩ := parserReturns_of_rejects ha
    rw [(hreturns _).mp hout, tmpConfig_outcomeOf, hrej.interface] at hu
    cases hu

/-- Room at every write keeps the parser within the slots it allocated, for every vector on which the
writes go on. In vectors shorter than the value of an error code, room alone is enough, and it is
necessary. -/
theorem slotsInRange_iff_room (configBuffer : List UInt8) :
    (WritesHaveRoom configBuffer → WritesGoOn configBuffer → SlotsInRange configBuffer) ∧
    (configBuffer.length < usbDdkInvalidOperation →
      (SlotsInRange configBuffer ↔ WritesHaveRoom configBuffer)) := by
  have ho := valid_vectorCursor configBuffer
  refine ⟨fun hroom honward => clears_of_writes fun es hes => (forall_inRange es).mp ?_,
    fun hsmall => ?_⟩
  · rcases hes.trace with rfl | ⟨-, st, hst, rfl⟩
    · exact nofun
    · exact hst.inRange_of_room ho ((forall_hasRoom _ _).mpr (hroom _ hes)) (honward _ hes)
  · have hsize : (vectorCursor configBuffer).size < usbDdkInvalidOperation :=
      Int.lt_of_le_of_lt ho.inBounds hsmall
    have hiff : ∀ es, Logged configBuffer es →
        ((∀ e ∈ es, e.InRange) ↔ ∀ e ∈ es, e.HasRoom (vectorCursor configBuffer)) := by
      intro es hes
      rcases hes.trace with rfl | ⟨ha, st, hst, rfl⟩
      · exact ⟨fun _ => nofun, fun _ => nofun⟩
      · exact hst.inRange_iff_room ho hsize ha
    constructor
    · intro h es hes
      exact (forall_hasRoom _ es).mp ((hiff es hes).mp ((forall_inRange es).mpr (h.writes es hes)))
    · intro h
      refine clears_of_writes fun es hes => (forall_inRange es).mp ?_
      exact (hiff es hes).mpr ((forall_hasRoom _ es).mpr (h es hes))

end

/-- A vector with one interface, without endpoints, that is followed by `record`. -/
def interfaceThen (record : List UInt8) : List UInt8 :=
  [9, 2, 18, 0, 1, 1, 0, 128, 50] ++ [9, 4, 1, 0, 0, 255, 0, 0, 0] ++ record

theorem acceptsHeader_interfaceThen_nil : AcceptsHeader (vectorCursor (interfaceThen [])) := by
  constructor <;> decide +kernel

theorem logged_interfaceThen_nil {es : List MemEvent} (h : Logged (interfaceThen []) es) :
    es = [] ∨ es = [.altWrite 0 1 9] := by
  have ha := acceptsHeader_interfaceThen_nil
  have hfirst : configLoop (interfaceThen []) (entryState (vectorCursor (interfaceThen []))) =
      .inl (nextState (interfaceThen []) (entryState (vectorCursor (interfaceThen [])))) :=
    turn_nextState (by decide +kernel)
  have hlast : (configLoop (interfaceThen []) (nextState (interfaceThen [])
      (entryState (vectorCursor (interfaceThen []))))).isLeft = false := by
    decide +kernel
  cases h with
  | turn hst =>
    rcases hst.reaches.cases_head with rfl | ⟨u, hu, hreach⟩
    · exact .inl rfl
    · obtain rfl := Sum.inl.inj (hfirst.symm.trans hu)
      rcases hreach.cases_head with rfl | ⟨u', hu', -⟩
      · exact .inr (by decide +kernel)
      · exact absurd (hlast.symm.trans (congrArg Sum.isLeft hu')) Bool.false_ne_true
  | exit hout =>
    obtain ⟨result, hresult, rfl⟩ := (parserReturns_of_accepts ha).mp hout
    rw [events_outcomeOf]
    rcases hresult.cases with hexit | ⟨u, hu, hresult⟩
    · exact absurd (hfirst.symm.trans hexit) nofun
    · obtain rfl := Sum.inl.inj (hfirst.symm.trans hu)
      rcases hresult.cases with hexit | ⟨u', hu', -⟩
      · have hevents := congrArg (Sum.elim (fun _ => []) ConfigResult.events) hexit
        exact .inr (hevents.symm.trans (by decide +kernel))
      · exact absurd (hlast.symm.trans (congrArg Sum.isLeft hu')) Bool.false_ne_true

theorem slotsInRange_interfaceThen_nil : SlotsInRange (interfaceThen []) := by
  refine clears_of_writes fun es hes k slots remaining hmem => ?_
  rcases logged_interfaceThen_nil hes with rfl | rfl
  · cases hmem
  · cases List.mem_singleton.mp hmem
    exact Nat.zero_lt_one

/-- With nothing behind the interface, its write has room and is in range. -/
theorem slotsInRange_interface : SlotsInRange (interfaceThen []) ∧
    (SlotsInRange (interfaceThen []) ↔ WritesHaveRoom (interfaceThen [])) := by
  have hrecords : records (vectorCursor (interfaceThen [])).bytes =
      [[9, 2, 18, 0, 1, 1, 0, 128, 50], [9, 4, 1, 0, 0, 255, 0, 0, 0]] := by
    have hbytes : (vectorCursor (interfaceThen [])).bytes =
        [[9, 2, 18, 0, 1, 1, 0, 128, 50], [9, 4, 1, 0, 0, 255, 0, 0, 0]].flatten := by
      decide +kernel
    rw [hbytes, records_flatten]
    intro r hr
    rcases List.mem_pair.mp hr with rfl | rfl <;> exact ⟨by decide, by decide⟩
  have hroom : Room (vectorCursor (interfaceThen [])) 9 := by
    refine ⟨[_], [_], hrecords, by decide +kernel, by decide +kernel, _, List.mem_singleton_self _,
      by decide +kernel⟩
  have hwrites : WritesHaveRoom (interfaceThen []) := by
    intro es hes k slots remaining hmem
    rcases logged_interfaceThen_nil hes with rfl | rfl
    · cases hmem
    · cases List.mem_singleton.mp hmem
      exact hroom
  have hon : WritesGoOn (interfaceThen []) := by
    intro es hes
    rcases logged_interfaceThen_nil hes with rfl | rfl
    · exact .nil
    · exact List.pairwise_singleton _ _
  exact ⟨(slotsInRange_iff_room (interfaceThen [])).1 hwrites hon,
    (slotsInRange_iff_room (interfaceThen [])).2 (by decide)⟩

/-- An endpoint record of nine bytes behind the interface, whose address is the interface number, is
written to slot one of an array of one slot. -/
theorem not_slotsInRange_endpoint :
    ¬ SlotsInRange (interfaceThen [9, 5, 1, 2, 64, 0, 0, 0, 0]) := by
  intro h
  have ha : AcceptsHeader (vectorCursor (interfaceThen [9, 5, 1, 2, 64, 0, 0, 0, 0])) := by
    constructor <;> decide +kernel
  have hfirst := Reached.next ⟨ha, .refl⟩ (by decide +kernel)
  have hsecond := Reached.next hfirst (by decide +kernel)
  exact absurd (h.writes _ (.turn hsecond) 1 1 9 (by decide +kernel)) (by decide)

end ExtDevMgr.Usb
