import ExtDevMgr.Base.Ledger
import ExtDevMgr.Base.Machine
import ExtDevMgr.Ddk.Reads

/-!
# Memory maps of the USB client

`OH_Usb_CreateDeviceMemMap` obtains a file descriptor from the service, maps it, and records it in
`g_fdMap` under the address of the mapping; `OH_Usb_DestroyDeviceMemMap` and the releases close what is
recorded. A descriptor that cannot be mapped is neither recorded nor closed
(`descriptors_conserved_iff`).
-/

namespace ExtDevMgr.Ddk.Usb
open Ledger (Tracked descriptors)

structure UsbDeviceMemMap where
  address : Nat
  size : Nat
  offset : UInt32
  bufferLength : UInt32
  transferedLength : UInt32

/-- The reply to `GetDeviceMemMapFd`; an `fd` of -1 is no descriptor. -/
structure MemMapFd where
  ret : Int
  fd : Int32

/-- `files` are the descriptors that were obtained from the service, as the kernel has them. The
process ends with `crashed`. -/
structure System where
  ddk : Bool
  fdMap : Table Nat Int32
  files : Ledger Int32
  crashed : Bool

namespace System
variable (P : Platform) (s : System)

/-! ## The client -/

def receive (fd : Int32) : System := { s with files := s.files.receive fd }

/-- Closes the descriptor of the address, if there is one. -/
def closeRecorded (buffer : Nat) : System := { s with files := s.files.closeAt s.fdMap buffer }

/-- What the two releases have in common. -/
def closeAll : System :=
  { s with files := s.files.giveBackAll (descriptors s.fdMap), fdMap := ∅ }

def ohUsbInit (get : Bool) (ret : Int) : Int × System :=
  let s := { s with ddk := get }
  if !s.ddk then
    (usbDdkInvalidOperation, s)
  else
    (transToUsbCode P ret, s)

def ohUsbRelease : System :=
  if !s.ddk then s else { s.closeAll with ddk := false }

def ohUsbReleaseResource (ret : Int) : Int × System :=
  if !s.ddk then
    (usbDdkInvalidOperation, s)
  else
    (transToUsbCode P ret, { s.closeAll with ddk := false })

/-- A call that crashes has no code. -/
structure Created where
  ret : Option Int
  devMmap : Option UsbDeviceMemMap
  state : System

/-- `devMmap` tells whether the pointer of that name is not null, and `buffer` is `none` for
`MAP_FAILED`. The proxy is not tested for null, and `new` gives no null pointer. -/
def ohUsbCreateDeviceMemMap (devMmap : Bool) (size : Nat) (reply : MemMapFd) (buffer : Option Nat) :
    Created :=
  if !devMmap then
    ⟨some usbDdkInvalidParameter, none, s⟩
  else if !s.ddk then
    ⟨none, none, { s with crashed := true }⟩
  else
    let s := s.receive reply.fd
    let ret := transToUsbCode P reply.ret
    if ret ≠ usbDdkSuccess then
      ⟨some ret, none, s⟩
    else
      match buffer with
      | none => ⟨some usbDdkMemoryError, none, s⟩
      | some buffer =>
        let s := s.closeRecorded buffer
        let s := { s with fdMap := s.fdMap.insert buffer reply.fd }
        ⟨some usbDdkSuccess, some ⟨buffer, size, 0, UInt32.ofNat size, 0⟩, s⟩

/-- `munmap` tells whether the mapping could be removed. -/
def ohUsbDestroyDeviceMemMap (devMmap : Option UsbDeviceMemMap) (munmap : Bool) : System :=
  match devMmap with
  | none => s
  | some devMmap =>
    if !munmap then
      s
    else
      { s.closeRecorded devMmap.address with fdMap := s.fdMap.erase devMmap.address }

end System

/-- A call, with what the service and the kernel answer. -/
inductive Action
  | init (get : Bool) (ret : Int)
  | createDeviceMemMap (devMmap : Bool) (size : Nat) (reply : MemMapFd) (buffer : Option Nat)
  | destroyDeviceMemMap (devMmap : Option UsbDeviceMemMap) (munmap : Bool)
  | release
  | releaseResource (ret : Int)

namespace System
variable (P : Platform) (s : System)

/-- The service is called, and hands out a descriptor. -/
def Obtains (devMmap : Bool) (reply : MemMapFd) : Prop :=
  devMmap = true ∧ s.ddk = true ∧ reply.fd ≠ -1

/-- The kernel hands out no descriptor that is open. -/
def enabled : Action → Prop
  | .createDeviceMemMap devMmap _ reply _ =>
    s.crashed = false ∧ (s.Obtains devMmap reply → reply.fd ∉ s.files.out)
  | _ => s.crashed = false

def step : Action → System
  | .init get ret => (s.ohUsbInit P get ret).2
  | .createDeviceMemMap devMmap size reply buffer =>
    (s.ohUsbCreateDeviceMemMap P devMmap size reply buffer).state
  | .destroyDeviceMemMap devMmap munmap => s.ohUsbDestroyDeviceMemMap devMmap munmap
  | .release => s.ohUsbRelease
  | .releaseResource ret => (s.ohUsbReleaseResource P ret).2

end System

def machine (P : Platform) : Machine System Action where
  init := ⟨false, ∅, .new, false⟩
  enabled := System.enabled
  step := System.step P

/-- Every descriptor that was obtained is recorded once and open, or has been closed once. -/
def Conserved (s : System) : Prop := s.files.Conserves (descriptors s.fdMap)

/-- What the service hands out can be mapped, and the service reports success with it. -/
def Kept (P : Platform) (s : System) : Action → Prop
  | .createDeviceMemMap devMmap _ reply buffer =>
    s.Obtains devMmap reply → transToUsbCode P reply.ret = usbDdkSuccess ∧ buffer.isSome = true
  | _ => True

instance (s : System) (devMmap : Bool) (reply : MemMapFd) : Decidable (s.Obtains devMmap reply) :=
  inferInstanceAs (Decidable (_ ∧ _))

instance (s : System) : DecidablePred s.enabled
  | .createDeviceMemMap .. => inferInstanceAs (Decidable (_ ∧ _))
  | .init .. | .destroyDeviceMemMap .. | .release | .releaseResource _ =>
    inferInstanceAs (Decidable (_ = _))

instance (P : Platform) (s : System) : DecidablePred ((machine P).enabled s) :=
  inferInstanceAs (DecidablePred s.enabled)

instance (P : Platform) (s : System) : DecidablePred (Kept P s)
  | .createDeviceMemMap .. => inferInstanceAs (Decidable (_ → _))
  | .init .. | .destroyDeviceMemMap .. | .release | .releaseResource _ => .isTrue trivial

/-! ## Calls -/

open ExtDevMgr.Ddk.Usb.System

section
variable {P : Platform} {s : System} {devMmap : Bool} {size : Nat} {reply : MemMapFd}
  {buffer : Option Nat}

theorem closeAll_tracked {R : Ledger Int32 → List Int32 → Prop} (hR : Tracked R)
    (h : R s.files (descriptors s.fdMap)) : R s.closeAll.files [] :=
  hR.giveBackAll (by rwa [List.append_nil])

theorem createDeviceMemMap_unreached (P : Platform) (size : Nat) (reply : MemMapFd)
    (buffer : Option Nat) (h : ¬(devMmap = true ∧ s.ddk = true)) :
    (s.ohUsbCreateDeviceMemMap P devMmap size reply buffer).state = s ∨
      (s.ohUsbCreateDeviceMemMap P devMmap size reply buffer).state = { s with crashed := true } := by
  unfold ohUsbCreateDeviceMemMap
  cases devMmap with
  | false => exact .inl rfl
  | true =>
    cases hddk : s.ddk with
    | false => exact .inr rfl
    | true => exact absurd ⟨rfl, hddk⟩ h

/-- Without a mapping the descriptor is obtained and nothing else happens. -/
theorem createDeviceMemMap_unmapped (h : devMmap = true ∧ s.ddk = true)
    (hfails : ¬(transToUsbCode P reply.ret = usbDdkSuccess ∧ buffer.isSome = true)) :
    (s.ohUsbCreateDeviceMemMap P devMmap size reply buffer).state = s.receive reply.fd := by
  simp only [ohUsbCreateDeviceMemMap, h.1, h.2, Bool.not_true, Bool.false_eq_true, if_false]
  split
  case isTrue => rfl
  case isFalse hret =>
    obtain _ | buffer := buffer
    · rfl
    · exact absurd ⟨not_not.mp hret, rfl⟩ hfails

theorem createDeviceMemMap_mapped (h : devMmap = true ∧ s.ddk = true)
    (hret : transToUsbCode P reply.ret = usbDdkSuccess) (buffer : Nat) :
    (s.ohUsbCreateDeviceMemMap P devMmap size reply (some buffer)).state =
      { (s.receive reply.fd).closeRecorded buffer with
        fdMap := ((s.receive reply.fd).closeRecorded buffer).fdMap.insert buffer reply.fd } := by
  simp only [ohUsbCreateDeviceMemMap, h.1, h.2, Bool.not_true, Bool.false_eq_true, if_false]
  rw [if_neg (not_not_intro hret)]

theorem createDeviceMemMap_tracked {R : Ledger Int32 → List Int32 → Prop} (hR : Tracked R)
    (h : R s.files (descriptors s.fdMap))
    (hfresh : s.Obtains devMmap reply → reply.fd ∉ s.files.out)
    (hkept : Kept P s (.createDeviceMemMap devMmap size reply buffer)) :
    R (s.ohUsbCreateDeviceMemMap P devMmap size reply buffer).state.files
      (descriptors (s.ohUsbCreateDeviceMemMap P devMmap size reply buffer).state.fdMap) := by
  by_cases hreached : devMmap = true ∧ s.ddk = true
  · obtain ⟨ret, fd⟩ := reply
    by_cases hfd : fd = -1
    · subst hfd
      by_cases hmapped : transToUsbCode P ret = usbDdkSuccess ∧ buffer.isSome = true
      · obtain ⟨buffer, rfl⟩ := Option.isSome_iff_exists.mp hmapped.2
        rw [createDeviceMemMap_mapped hreached hmapped.1, receive, Ledger.receive_none,
          Ledger.descriptors_insert_none]
        exact hR.closeAt_erase h buffer
      · rwa [createDeviceMemMap_unmapped hreached hmapped, receive, Ledger.receive_none]
    · have hobtains : s.Obtains devMmap ⟨ret, fd⟩ := ⟨hreached.1, hreached.2, hfd⟩
      obtain ⟨hret, hbuffer⟩ := hkept hobtains
      obtain ⟨buffer, rfl⟩ := Option.isSome_iff_exists.mp hbuffer
      rw [createDeviceMemMap_mapped hreached hret, receive, Ledger.receive_some _ hfd]
      exact hR.closeAt_insert hfd (hR.give h (hfresh hobtains)) buffer
  · obtain heq | heq := createDeviceMemMap_unreached P size reply buffer hreached
    · rwa [heq]
    · rwa [heq]

theorem destroyDeviceMemMap_tracked {R : Ledger Int32 → List Int32 → Prop} (hR : Tracked R)
    (h : R s.files (descriptors s.fdMap)) (devMmap : Option UsbDeviceMemMap) (munmap : Bool) :
    R (s.ohUsbDestroyDeviceMemMap devMmap munmap).files
      (descriptors (s.ohUsbDestroyDeviceMemMap devMmap munmap).fdMap) := by
  cases devMmap with
  | none => exact h
  | some devMmap =>
    cases munmap with
    | false => exact h
    | true => exact hR.closeAt_erase h devMmap.address

theorem step_tracked {R : Ledger Int32 → List Int32 → Prop} (hR : Tracked R) {a : Action}
    (h : R s.files (descriptors s.fdMap)) (ha : s.enabled a) (hkept : Kept P s a) :
    R (s.step P a).files (descriptors (s.step P a).fdMap) := by
  cases a with
  | init get ret =>
    cases get with
    | false => exact h
    | true => exact h
  | createDeviceMemMap => exact createDeviceMemMap_tracked hR h ha.2 hkept
  | destroyDeviceMemMap devMmap munmap => exact destroyDeviceMemMap_tracked hR h devMmap munmap
  | release =>
    simp only [step, ohUsbRelease]
    split
    · exact h
    · exact closeAll_tracked hR h
  | releaseResource =>
    simp only [step, ohUsbReleaseResource]
    split
    · exact h
    · exact closeAll_tracked hR h

/-- What is obtained and not mapped is in the kernel only. -/
theorem step_not_kept {a : Action} (hkept : ¬Kept P s a) :
    ∃ fd, s.step P a = { s with files := s.files.give fd } ∧ (s.enabled a → fd ∉ s.files.out) := by
  cases a with
  | createDeviceMemMap devMmap size reply buffer =>
    obtain ⟨hobtains, hfails⟩ := Classical.not_imp.mp hkept
    refine ⟨reply.fd, ?_, fun ha => ha.2 hobtains⟩
    have hreached := And.intro hobtains.1 hobtains.2.1
    rw [step, createDeviceMemMap_unmapped hreached hfails, receive,
      Ledger.receive_some _ hobtains.2.2]
  | _ => exact absurd trivial hkept

end

/-- What is recorded is open, and was handed out once. -/
def Sound (s : System) : Prop := s.files.Sound (descriptors s.fdMap)

theorem step_sound {P : Platform} {s : System} {a : Action} (h : Sound s) (ha : s.enabled a) :
    Sound (s.step P a) := by
  by_cases hkept : Kept P s a
  · exact step_tracked Ledger.sound_tracked h ha hkept
  · obtain ⟨fd, heq, -⟩ := step_not_kept hkept
    rw [heq]
    exact Ledger.Sound.give h fd

theorem step_conserved_iff {P : Platform} {s : System} {a : Action} (h : Sound s)
    (hconserved : Conserved s) (ha : s.enabled a) : Conserved (s.step P a) ↔ Kept P s a := by
  constructor
  · intro hstep
    by_contra hkept
    obtain ⟨fd, heq, hfresh⟩ := step_not_kept hkept
    rw [heq] at hstep
    exact h.not_conserves_give (hfresh ha) hstep
  · exact fun hkept =>
      (step_tracked Ledger.balanced_tracked (h.balanced hconserved) ha hkept).conserves

/-- No descriptor is lost or closed twice in a run exactly when whatever the service hands out in it
can be mapped. -/
theorem descriptors_conserved_iff (P : Platform) (as : List Action) (hrun : (machine P).Runs as) :
    (machine P).Throughout Conserved (machine P).init as ↔
      (machine P).Along (Kept P) (machine P).init as :=
  Machine.throughout_iff_along (I := Sound) (fun _ _ h ha => step_sound h ha)
    (fun _ _ h hconserved ha => step_conserved_iff h hconserved ha) Ledger.new_sound
    Ledger.new_conserves hrun

/-- Two maps at the same address one after the other, the first one not destroyed, and a third that is
released with its descriptor, whose number is one that was closed. -/
theorem descriptors_conserved_reused :
    (machine platform).Throughout Conserved (machine platform).init
      [.init true 0, .createDeviceMemMap true 4096 ⟨0, 5⟩ (some 0x10000),
        .createDeviceMemMap true 4096 ⟨0, 6⟩ (some 0x10000),
        .createDeviceMemMap true 4096 ⟨0, 5⟩ (some 0x20000),
        .destroyDeviceMemMap (some ⟨0x10000, 4096, 0, 4096, 0⟩) true, .releaseResource 0] :=
  (descriptors_conserved_iff platform _ (by decide +kernel)).mpr (by decide +kernel)

/-- The service hands out descriptor 5 for a map of no bytes, which `mmap` refuses. -/
theorem not_forall_conserved :
    ¬∀ P as, (machine P).Runs as → (machine P).Throughout Conserved (machine P).init as := by
  intro h
  have hstates := h platform [.init true 0, .createDeviceMemMap true 0 ⟨0, 5⟩ none] (by decide +kernel)
  have hlast := hstates.last.accounted 0 (by decide +kernel)
  obtain ⟨hheld, -⟩ | ⟨-, hclosed⟩ := hlast
  · exact absurd hheld (by decide +kernel)
  · exact absurd hclosed (by decide +kernel)

end ExtDevMgr.Ddk.Usb
