import Mathlib.Logic.Function.Basic
import ExtDevMgr.Base.Ledger
import ExtDevMgr.Base.Machine
import ExtDevMgr.Ddk.Reads

/-!
# Device handles

The SCSI, HID and USB serial clients allocate the handle of a device before they ask the service to open
it, and free it whatever the service answers to the close. A handle whose device could not be opened
stays allocated, and a close may return the code of an initialisation error that is the service's own
(`handles_conserved_iff`).
-/

namespace ExtDevMgr.Ddk.Handles
open Ledger (Tracked descriptors)
open Scsi (scsiPeripheralDdkInvalidParameter scsiPeripheralDdkSuccess scsiPeripheralDdkInitError
  transToDdkErrCode)

abbrev scsiPeripheralDdkIoError : Int := 31700003

inductive Client
  | scsiPeripheral
  | hid
  | usbSerial
deriving DecidableEq

structure Handle where
  client : Client
  address : Nat
deriving DecidableEq

/-- The connections of the clients, the objects behind the handles with their `memMapFd`, and the
descriptors that were obtained from the service. A `memMapFd` of -1 is no descriptor; the objects of HID
and USB serial devices, which have no such field, have -1 here. -/
structure System where
  ddk : Client → Bool
  heap : Ledger Handle
  objects : Table Handle Int32
  files : Ledger Int32

/-- What a call returns, and what it leaves in `*dev`. The pointer `dev` is `none` if it is null, and so
is what it points to. -/
structure Result where
  ret : Int
  dev : Option (Option Nat)
  state : System

structure Codes where
  success : Int
  initError : Int
  invalidParameter : Int

def codes : Client → Codes
  | .scsiPeripheral =>
    ⟨scsiPeripheralDdkSuccess, scsiPeripheralDdkInitError, scsiPeripheralDdkInvalidParameter⟩
  | .hid => ⟨hidDdkSuccess, hidDdkInitError, hidDdkInvalidParameter⟩
  | .usbSerial => ⟨usbSerialDdkSuccess, usbSerialDdkInitError, usbSerialDdkInvalidParameter⟩

/-- How the codes of the service are translated. -/
def trans (S : Scsi.Platform) (P : Platform) : Client → Int → Int
  | .scsiPeripheral => transToDdkErrCode S
  | .hid => transToHidCode P
  | .usbSerial => transToUsbSerialCode P

namespace System
variable (S : Scsi.Platform) (P : Platform) (s : System)

/-! ## The clients -/

def newDevice (h : Handle) : System :=
  { s with heap := s.heap.give h, objects := s.objects.insert h (-1) }

def deleteDevice (h : Handle) : System :=
  { s with heap := s.heap.giveBack h, objects := s.objects.erase h }

/-- The service has assigned `memMapFd` to the field of that name. -/
def assign (h : Handle) (memMapFd : Int32) : System :=
  { s with files := s.files.receive memMapFd, objects := s.objects.insert h memMapFd }

def initWith (d : Client) (trans : Int → Int) (get addDeathRecipient : Bool) (ret : Int) :
    Int × System :=
  let s := { s with ddk := Function.update s.ddk d get }
  if !get ∨ !addDeathRecipient then
    ((codes d).initError, s)
  else
    (trans ret, s)

def releaseWith (d : Client) (trans : Int → Int) (ret : Int) : Int × System :=
  if !s.ddk d then
    ((codes d).initError, s)
  else
    (trans ret, { s with ddk := Function.update s.ddk d false })

/-- `OnRemoteDied` of the client's death recipient. -/
def remoteDied (d : Client) : System :=
  if !s.ddk d then s else { s with ddk := Function.update s.ddk d false }

/-- The object is allocated before the service is asked, `new` giving no null pointer. -/
def openWith (d : Client) (trans : Int → Int) (dev : Option (Option Nat)) (address : Nat)
    (ret : Int) (memMapFd : Int32) : Result :=
  if !s.ddk d then
    ⟨(codes d).initError, dev, s⟩
  else
    match dev with
    | none => ⟨(codes d).invalidParameter, none, s⟩
    | some _ =>
      let s := s.newDevice ⟨d, address⟩
      ⟨trans ret, some (some address), s.assign ⟨d, address⟩ memMapFd⟩

def closeWith (d : Client) (trans : Int → Int) (dev : Option (Option Nat)) (ret : Int) : Result :=
  if !s.ddk d then
    ⟨(codes d).initError, dev, s⟩
  else
    match dev with
    | some (some address) => ⟨trans ret, some none, s.deleteDevice ⟨d, address⟩⟩
    | dev => ⟨(codes d).invalidParameter, dev, s⟩

def ohScsiPeripheralInit (get addDeathRecipient : Bool) (ret : Int) : Int × System :=
  s.initWith .scsiPeripheral (transToDdkErrCode S) get addDeathRecipient ret

/-- Adds no death recipient. -/
def ohHidInit (get : Bool) (ret : Int) : Int × System :=
  s.initWith .hid (transToHidCode P) get true ret

def ohUsbSerialInit (get addDeathRecipient : Bool) (ret : Int) : Int × System :=
  s.initWith .usbSerial (transToUsbSerialCode P) get addDeathRecipient ret

def ohScsiPeripheralRelease (ret : Int) : Int × System :=
  s.releaseWith .scsiPeripheral (transToDdkErrCode S) ret

def ohHidRelease (ret : Int) : Int × System := s.releaseWith .hid (transToHidCode P) ret

def ohUsbSerialRelease (ret : Int) : Int × System :=
  s.releaseWith .usbSerial (transToUsbSerialCode P) ret

section
variable (dev : Option (Option Nat)) (address : Nat) (ret : Int)

def ohScsiPeripheralOpen (memMapFd : Int32) : Result :=
  s.openWith .scsiPeripheral (transToDdkErrCode S) dev address ret memMapFd

def ohHidOpen : Result := s.openWith .hid (transToHidCode P) dev address ret (-1)

def ohUsbSerialOpen : Result := s.openWith .usbSerial (transToUsbSerialCode P) dev address ret (-1)

/-- Closes the shared memory as well. `closed` tells whether the kernel reports success for a descriptor
that is open. -/
def ohScsiPeripheralClose (closed : Bool) : Result :=
  if !s.ddk .scsiPeripheral then
    ⟨scsiPeripheralDdkInitError, dev, s⟩
  else
    match dev with
    | some (some address) =>
      let h : Handle := ⟨.scsiPeripheral, address⟩
      let ret := transToDdkErrCode S ret
      let failed := (s.objects.lookup h).getD (-1) = -1 ∨ !closed
      let s := { s with files := s.files.closeAt s.objects h }
      ⟨if failed ∧ ret = scsiPeripheralDdkSuccess then scsiPeripheralDdkIoError else ret, some none,
        s.deleteDevice h⟩
    | dev => ⟨scsiPeripheralDdkInvalidParameter, dev, s⟩

def ohHidClose : Result := s.closeWith .hid (transToHidCode P) dev ret

def ohUsbSerialClose : Result := s.closeWith .usbSerial (transToUsbSerialCode P) dev ret

end

/-! ## The three at once -/

def init (get addDeathRecipient : Bool) (ret : Int) : Client → Int × System
  | .scsiPeripheral => s.ohScsiPeripheralInit S get addDeathRecipient ret
  | .hid => s.ohHidInit P get ret
  | .usbSerial => s.ohUsbSerialInit P get addDeathRecipient ret

def release (ret : Int) : Client → Int × System
  | .scsiPeripheral => s.ohScsiPeripheralRelease S ret
  | .hid => s.ohHidRelease P ret
  | .usbSerial => s.ohUsbSerialRelease P ret

def openDevice (dev : Option (Option Nat)) (address : Nat) (ret : Int) (memMapFd : Int32) :
    Client → Result
  | .scsiPeripheral => s.ohScsiPeripheralOpen S dev address ret memMapFd
  | .hid => s.ohHidOpen P dev address ret
  | .usbSerial => s.ohUsbSerialOpen P dev address ret

def closeDevice (dev : Option (Option Nat)) (ret : Int) (closed : Bool) : Client → Result
  | .scsiPeripheral => s.ohScsiPeripheralClose S dev ret closed
  | .hid => s.ohHidClose P dev ret
  | .usbSerial => s.ohUsbSerialClose P dev ret

end System

/-- A call with what the service, the allocator and the kernel answer, or the death of a service. -/
inductive Action
  | init (d : Client) (get addDeathRecipient : Bool) (ret : Int)
  | release (d : Client) (ret : Int)
  | openDevice (d : Client) (dev : Option (Option Nat)) (address : Nat) (ret : Int)
    (memMapFd : Int32)
  | closeDevice (d : Client) (dev : Option (Option Nat)) (ret : Int) (closed : Bool)
  | remoteDied (d : Client)

/-- `handles` are those of the successful opens that no close has taken. -/
structure Session where
  system : System
  handles : List Handle

namespace Session
variable (S : Scsi.Platform) (P : Platform) (s : Session)

/-- The allocator gives no address that is in use, the kernel no descriptor that is open, and no call is
made with the address of an object that is gone. -/
def enabled : Action → Prop
  | .openDevice d _ address _ memMapFd =>
    ⟨d, address⟩ ∉ s.system.heap.out ∧ (memMapFd ≠ -1 → memMapFd ∉ s.system.files.out)
  | .closeDevice d dev _ _ => ∀ address ∈ dev.join, ⟨d, address⟩ ∈ s.system.objects
  | _ => True

/-- A successful open hands a handle out. -/
def afterOpen (d : Client) (r : Result) : Session :=
  match r.dev with
  | some (some address) =>
    if r.ret = (codes d).success then ⟨r.state, ⟨d, address⟩ :: s.handles⟩ else ⟨r.state, s.handles⟩
  | _ => ⟨r.state, s.handles⟩

/-- A close takes the handle back unless it returns an initialisation error. -/
def afterClose (d : Client) (dev : Option (Option Nat)) (r : Result) : Session :=
  match dev with
  | some (some address) =>
    if r.ret = (codes d).initError then ⟨r.state, s.handles⟩
    else ⟨r.state, s.handles.erase ⟨d, address⟩⟩
  | _ => ⟨r.state, s.handles⟩

def step : Action → Session
  | .init d get addDeathRecipient ret => ⟨(s.system.init S P get addDeathRecipient ret d).2, s.handles⟩
  | .release d ret => ⟨(s.system.release S P ret d).2, s.handles⟩
  | .openDevice d dev address ret memMapFd =>
    s.afterOpen d (s.system.openDevice S P dev address ret memMapFd d)
  | .closeDevice d dev ret closed => s.afterClose d dev (s.system.closeDevice S P dev ret closed d)
  | .remoteDied d => ⟨s.system.remoteDied d, s.handles⟩

/-- Every allocated object belongs to one handle, or was freed once, and the same of the descriptors and
the objects. -/
structure Conserved (s : Session) : Prop where
  heap : s.system.heap.Conserves s.handles
  files : s.system.files.Conserves (descriptors s.system.objects)

/-- An open that fails leaves `*dev` as it is and allocates nothing. A close that returns an
initialisation error frees and closes nothing. -/
def Lawful : Action → Prop
  | .openDevice d dev address ret memMapFd =>
    let r := s.system.openDevice S P dev address ret memMapFd d
    r.ret ≠ (codes d).success → r.dev = dev ∧ r.state.heap = s.system.heap
  | .closeDevice d dev ret closed =>
    let r := s.system.closeDevice S P dev ret closed d
    r.ret = (codes d).initError → r.state.heap = s.system.heap ∧ r.state.files = s.system.files
  | _ => True

/-- The device is opened, and the service does not answer to the close with what is the code of an
initialisation error. -/
def Kept : Action → Prop
  | .openDevice d dev _ ret _ =>
    s.system.ddk d = true → dev.isSome = true → trans S P d ret = (codes d).success
  | .closeDevice d dev ret _ =>
    s.system.ddk d = true → dev.join.isSome = true → trans S P d ret ≠ (codes d).initError
  | _ => True

end Session

def machine (S : Scsi.Platform) (P : Platform) : Machine Session Action where
  init := ⟨⟨fun _ => false, .new, ∅, .new⟩, []⟩
  enabled := Session.enabled
  step := Session.step S P

instance (s : Session) : DecidablePred s.enabled
  | .openDevice .. => inferInstanceAs (Decidable (_ ∧ _))
  | .closeDevice d dev _ _ =>
    decidable_of_iff (dev.join.all fun address => ⟨d, address⟩ ∈ s.system.objects)
      (by simp [Session.enabled, Option.all_eq_true])
  | .init .. | .release .. | .remoteDied _ => .isTrue trivial

instance (S : Scsi.Platform) (P : Platform) (s : Session) : DecidablePred ((machine S P).enabled s) :=
  inferInstanceAs (DecidablePred s.enabled)

instance (S : Scsi.Platform) (P : Platform) (s : Session) : DecidablePred (s.Kept S P)
  | .openDevice .. => inferInstanceAs (Decidable (_ → _ → _))
  | .closeDevice .. => inferInstanceAs (Decidable (_ → _ → ¬ _ = _))
  | .init .. | .release .. | .remoteDied _ => .isTrue trivial

/-! ## Calls -/

/-- The descriptor that the object of the client is given. -/
def Client.givenFd (d : Client) (memMapFd : Int32) : Int32 :=
  match d with
  | .scsiPeripheral => memMapFd
  | .hid | .usbSerial => -1

section
variable {S : Scsi.Platform} {P : Platform} {s : System} {d : Client} {dev : Option (Option Nat)}
  {address : Nat} {ret : Int} {memMapFd : Int32} {closed : Bool}

theorem codes_success_ne (d : Client) :
    (codes d).initError ≠ (codes d).success ∧ (codes d).invalidParameter ≠ (codes d).success ∧
      (codes d).invalidParameter ≠ (codes d).initError := by
  cases d <;> decide

/-- The service is asked to open the device. -/
def Opens (s : System) (d : Client) (dev : Option (Option Nat)) : Prop :=
  s.ddk d = true ∧ dev.isSome = true

theorem openDevice_eq : s.openDevice S P dev address ret memMapFd d =
    s.openWith d (trans S P d) dev address ret (d.givenFd memMapFd) := by
  cases d <;> rfl

theorem openDevice_unreached (S : Scsi.Platform) (P : Platform) (address : Nat) (ret : Int)
    (memMapFd : Int32) (h : ¬Opens s d dev) :
    ∃ code, code ≠ (codes d).success ∧
      s.openDevice S P dev address ret memMapFd d = ⟨code, dev, s⟩ := by
  rw [openDevice_eq]
  unfold System.openWith
  obtain ⟨hinit, hparameter, -⟩ := codes_success_ne d
  cases hddk : s.ddk d with
  | false => exact ⟨_, hinit, rfl⟩
  | true =>
    cases dev with
    | none => exact ⟨_, hparameter, rfl⟩
    | some dev => exact absurd ⟨hddk, rfl⟩ h

theorem openDevice_reached (h : Opens s d dev) :
    s.openDevice S P dev address ret memMapFd d =
      ⟨trans S P d ret, some (some address),
        { s with
          heap := s.heap.give ⟨d, address⟩
          objects := s.objects.insert ⟨d, address⟩ (d.givenFd memMapFd)
          files := s.files.receive (d.givenFd memMapFd) }⟩ := by
  obtain ⟨hddk, hdev⟩ := h
  obtain ⟨dev, rfl⟩ := Option.isSome_iff_exists.mp hdev
  rw [openDevice_eq, System.openWith, hddk]
  simp only [Bool.not_true, Bool.false_eq_true, if_false, System.newDevice, System.assign,
    AList.insert_insert]

/-- The service is asked to close the device. -/
def Closes (s : System) (d : Client) (dev : Option (Option Nat)) : Prop :=
  s.ddk d = true ∧ dev.join.isSome = true

theorem closeWith_unreached (trans : Int → Int) (ret : Int) (h : ¬Closes s d dev) :
    ∃ code, (code ≠ (codes d).initError → dev.join = none) ∧
      s.closeWith d trans dev ret = ⟨code, dev, s⟩ := by
  unfold System.closeWith
  cases hddk : s.ddk d with
  | false => exact ⟨_, fun hne => absurd rfl hne, rfl⟩
  | true =>
    obtain _ | _ | address := dev
    · exact ⟨_, fun _ => rfl, rfl⟩
    · exact ⟨_, fun _ => rfl, rfl⟩
    · exact absurd ⟨hddk, rfl⟩ h

theorem ohScsiPeripheralClose_unreached (S : Scsi.Platform) (ret : Int) (closed : Bool)
    (h : ¬Closes s .scsiPeripheral dev) :
    ∃ code, (code ≠ scsiPeripheralDdkInitError → dev.join = none) ∧
      s.ohScsiPeripheralClose S dev ret closed = ⟨code, dev, s⟩ := by
  unfold System.ohScsiPeripheralClose
  cases hddk : s.ddk .scsiPeripheral with
  | false => exact ⟨_, fun hne => absurd rfl hne, rfl⟩
  | true =>
    obtain _ | _ | address := dev
    · exact ⟨_, fun _ => rfl, rfl⟩
    · exact ⟨_, fun _ => rfl, rfl⟩
    · exact absurd ⟨hddk, rfl⟩ h

theorem closeDevice_unreached (S : Scsi.Platform) (P : Platform) (ret : Int) (closed : Bool)
    (h : ¬Closes s d dev) :
    ∃ code, (code ≠ (codes d).initError → dev.join = none) ∧
      s.closeDevice S P dev ret closed d = ⟨code, dev, s⟩ := by
  cases d with
  | scsiPeripheral => exact ohScsiPeripheralClose_unreached S ret closed h
  | hid => exact closeWith_unreached _ ret h
  | usbSerial => exact closeWith_unreached _ ret h

/-- The objects of the other two clients have no descriptor. -/
def Plain (s : System) : Prop :=
  ∀ h memMapFd, s.objects.lookup h = some memMapFd → h.client ≠ .scsiPeripheral → memMapFd = -1

theorem closeAt_plain (h : Plain s) {handle : Handle} (hclient : handle.client ≠ .scsiPeripheral) :
    s.files.closeAt s.objects handle = s.files := by
  unfold Ledger.closeAt
  cases hlookup : s.objects.lookup handle with
  | none => rfl
  | some memMapFd =>
    rw [h handle memMapFd hlookup hclient]
    exact if_neg (not_not_intro rfl)

theorem closeDevice_state (h : Plain s) (hddk : s.ddk d = true) :
    (s.closeDevice S P (some (some address)) ret closed d).state =
      { s with
        heap := s.heap.giveBack ⟨d, address⟩
        objects := s.objects.erase ⟨d, address⟩
        files := s.files.closeAt s.objects ⟨d, address⟩ } := by
  cases d with
  | scsiPeripheral =>
    simp [System.closeDevice, System.ohScsiPeripheralClose, System.deleteDevice, hddk]
  | hid =>
    rw [closeAt_plain h (by intro heq; cases heq)]
    simp [System.closeDevice, System.ohHidClose, System.closeWith, System.deleteDevice, hddk]
  | usbSerial =>
    rw [closeAt_plain h (by intro heq; cases heq)]
    simp [System.closeDevice, System.ohUsbSerialClose, System.closeWith, System.deleteDevice, hddk]

/-- What the service answers decides whether the code is that of an initialisation error. -/
theorem closeDevice_ret_iff (hddk : s.ddk d = true) :
    (s.closeDevice S P (some (some address)) ret closed d).ret = (codes d).initError ↔
      trans S P d ret = (codes d).initError := by
  cases d with
  | scsiPeripheral =>
    simp only [System.closeDevice, System.ohScsiPeripheralClose, hddk, Bool.not_true,
      Bool.false_eq_true, if_false]
    split
    case isTrue hfailed =>
      have hret : trans S P .scsiPeripheral ret = scsiPeripheralDdkSuccess := hfailed.2
      rw [hret]
      exact iff_of_false (by decide) (by decide)
    case isFalse => rfl
  | hid => simp [System.closeDevice, System.ohHidClose, System.closeWith, hddk, trans]
  | usbSerial => simp [System.closeDevice, System.ohUsbSerialClose, System.closeWith, hddk, trans]

end

/-! ## Steps -/

namespace Session
variable {S : Scsi.Platform} {P : Platform} {s : Session} {a : Action}

/-- Every object is behind one handle. -/
structure Inv (s : Session) : Prop where
  heap : s.system.heap.Balanced s.handles
  files : s.system.files.Balanced (descriptors s.system.objects)
  objects : ∀ h, h ∈ s.system.objects ↔ h ∈ s.handles
  plain : Plain s.system

theorem Inv.conserved (h : Inv s) : Conserved s := ⟨h.heap.conserves, h.files.conserves⟩

/-- Calls that only connect or disconnect. -/
theorem Inv.of_ddk (h : Inv s) {t : System} (hheap : t.heap = s.system.heap)
    (hobjects : t.objects = s.system.objects) (hfiles : t.files = s.system.files) :
    Inv ⟨t, s.handles⟩ where
  heap := by rw [hheap]; exact h.heap
  files := by rw [hfiles, hobjects]; exact h.files
  objects := by rw [hobjects]; exact h.objects
  plain := by rw [Plain, hobjects]; exact h.plain

theorem init_ddk (S : Scsi.Platform) (P : Platform) (s : System) (get addDeathRecipient : Bool)
    (ret : Int) (d : Client) :
    ∃ ddk, (s.init S P get addDeathRecipient ret d).2 = { s with ddk } := by
  refine ⟨Function.update s.ddk d get, ?_⟩
  cases d with
  | scsiPeripheral => exact (apply_ite Prod.snd _ _ _).trans (ite_self _)
  | hid => exact (apply_ite Prod.snd _ _ _).trans (ite_self _)
  | usbSerial => exact (apply_ite Prod.snd _ _ _).trans (ite_self _)

theorem release_ddk (S : Scsi.Platform) (P : Platform) (s : System) (ret : Int) (d : Client) :
    ∃ ddk, (s.release S P ret d).2 = { s with ddk } := by
  have hrelease (trans : Int → Int) : ∃ ddk, (s.releaseWith d trans ret).2 = { s with ddk } := by
    unfold System.releaseWith
    split
    · exact ⟨s.ddk, rfl⟩
    · exact ⟨_, rfl⟩
  cases d with
  | scsiPeripheral => exact hrelease _
  | hid => exact hrelease _
  | usbSerial => exact hrelease _

theorem remoteDied_ddk (s : System) (d : Client) : ∃ ddk, s.remoteDied d = { s with ddk } := by
  unfold System.remoteDied
  split
  · exact ⟨s.ddk, rfl⟩
  · exact ⟨_, rfl⟩

section
variable {d : Client} {dev : Option (Option Nat)} {address : Nat} {ret : Int} {memMapFd : Int32}
  {closed : Bool}

theorem openDevice_step_unreached (h : ¬Opens s.system d dev) :
    s.step S P (.openDevice d dev address ret memMapFd) = s := by
  obtain ⟨code, hcode, heq⟩ := openDevice_unreached S P address ret memMapFd h
  rw [step, heq, afterOpen]
  split
  · exact if_neg hcode
  · rfl

theorem openDevice_step_reached (h : Opens s.system d dev)
    (hret : trans S P d ret = (codes d).success) :
    s.step S P (.openDevice d dev address ret memMapFd) =
      ⟨{ s.system with
          heap := s.system.heap.give ⟨d, address⟩
          objects := s.system.objects.insert ⟨d, address⟩ (d.givenFd memMapFd)
          files := s.system.files.receive (d.givenFd memMapFd) },
        ⟨d, address⟩ :: s.handles⟩ := by
  rw [step, openDevice_reached h, afterOpen]
  exact if_pos hret

theorem closeDevice_step_unreached (h : ¬Closes s.system d dev) :
    s.step S P (.closeDevice d dev ret closed) = s := by
  obtain ⟨code, hret, heq⟩ := closeDevice_unreached S P ret closed h
  rw [step, heq]
  unfold afterClose
  obtain _ | _ | address := dev
  · rfl
  · rfl
  · refine if_pos (Decidable.byContradiction fun hne => ?_)
    cases hret hne

theorem closeDevice_step_reached (h : Plain s.system) (hddk : s.system.ddk d = true)
    (hret : trans S P d ret ≠ (codes d).initError) :
    s.step S P (.closeDevice d (some (some address)) ret closed) =
      ⟨{ s.system with
          heap := s.system.heap.giveBack ⟨d, address⟩
          objects := s.system.objects.erase ⟨d, address⟩
          files := s.system.files.closeAt s.system.objects ⟨d, address⟩ },
        s.handles.erase ⟨d, address⟩⟩ := by
  rw [step, afterClose]
  dsimp only
  rw [if_neg (mt (closeDevice_ret_iff hddk).mp hret), closeDevice_state h hddk]

theorem Inv.give (h : Inv s) {handle : Handle} (hnew : handle ∉ s.system.heap.out)
    (hfresh : memMapFd ≠ -1 → memMapFd ∉ s.system.files.out)
    (hplain : handle.client ≠ .scsiPeripheral → memMapFd = -1) :
    Inv ⟨{ s.system with
        heap := s.system.heap.give handle
        objects := s.system.objects.insert handle memMapFd
        files := s.system.files.receive memMapFd }, handle :: s.handles⟩ := by
  have habsent : handle ∉ s.system.objects := by
    rw [h.objects]
    exact fun hmem => hnew (h.heap.out handle hmem)
  constructor
  case heap => exact Ledger.balanced_tracked.give h.heap hnew
  case files => exact Ledger.balanced_tracked.receive_insert h.files habsent hfresh
  case objects =>
    intro other
    rw [AList.mem_insert, List.mem_cons, h.objects]
  case plain =>
    intro other fd hlookup hclient
    obtain ⟨rfl, rfl⟩ | hold := (Table.lookup_insert_of_notMem habsent).mp hlookup
    · exact hplain hclient
    · exact h.plain other fd hold hclient

theorem Inv.giveBack (h : Inv s) {handle : Handle} (hmem : handle ∈ s.system.objects) :
    Inv ⟨{ s.system with
        heap := s.system.heap.giveBack handle
        objects := s.system.objects.erase handle
        files := s.system.files.closeAt s.system.objects handle }, s.handles.erase handle⟩ := by
  have hhandle : handle ∈ s.handles := (h.objects handle).mp hmem
  constructor
  case heap =>
    exact Ledger.balanced_tracked.giveBack
      (Ledger.balanced_tracked.perm h.heap (List.perm_cons_erase hhandle))
  case files => exact Ledger.balanced_tracked.closeAt_erase h.files handle
  case objects =>
    intro other
    rw [AList.mem_erase, h.heap.nodup.mem_erase_iff, h.objects]
  case plain =>
    intro other fd hlookup hclient
    exact h.plain other fd (Table.lookup_erase_eq_some.mp hlookup).2 hclient

end

theorem step_inv (h : Inv s) (ha : s.enabled a) (hkept : s.Kept S P a) : Inv (s.step S P a) := by
  cases a with
  | init d get addDeathRecipient ret =>
    obtain ⟨ddk, heq⟩ := init_ddk S P s.system get addDeathRecipient ret d
    rw [step, heq]
    exact h.of_ddk rfl rfl rfl
  | release d ret =>
    obtain ⟨ddk, heq⟩ := release_ddk S P s.system ret d
    rw [step, heq]
    exact h.of_ddk rfl rfl rfl
  | openDevice d dev address ret memMapFd =>
    by_cases hopens : Opens s.system d dev
    · rw [openDevice_step_reached hopens (hkept hopens.1 hopens.2)]
      refine h.give ha.1 ?_ ?_
      · cases d with
        | scsiPeripheral => exact ha.2
        | _ => exact fun hne => absurd rfl hne
      · cases d with
        | scsiPeripheral => exact fun hne => absurd rfl hne
        | _ => exact fun _ => rfl
    · rwa [openDevice_step_unreached hopens]
  | closeDevice d dev ret closed =>
    by_cases hcloses : Closes s.system d dev
    · obtain ⟨address, hdev⟩ := Option.isSome_iff_exists.mp hcloses.2
      have hret := hkept hcloses.1 hcloses.2
      rw [Option.join_eq_some_iff] at hdev
      subst hdev
      rw [closeDevice_step_reached h.plain hcloses.1 hret]
      exact h.giveBack (ha address rfl)
    · rwa [closeDevice_step_unreached hcloses]
  | remoteDied d =>
    obtain ⟨ddk, heq⟩ := remoteDied_ddk s.system d
    rw [step, heq]
    exact h.of_ddk rfl rfl rfl

theorem lawful_of_kept (hkept : s.Kept S P a) : s.Lawful S P a := by
  cases a with
  | openDevice d dev address ret memMapFd =>
    intro hret
    by_cases hopens : Opens s.system d dev
    · rw [openDevice_reached hopens] at hret
      exact absurd (hkept hopens.1 hopens.2) hret
    · obtain ⟨code, -, heq⟩ := openDevice_unreached S P address ret memMapFd hopens
      rw [heq]
      exact ⟨rfl, rfl⟩
  | closeDevice d dev ret closed =>
    intro hret
    by_cases hcloses : Closes s.system d dev
    · obtain ⟨address, hdev⟩ := Option.isSome_iff_exists.mp hcloses.2
      rw [Option.join_eq_some_iff] at hdev
      subst hdev
      exact absurd ((closeDevice_ret_iff hcloses.1).mp hret) (hkept hcloses.1 hcloses.2)
    · obtain ⟨code, -, heq⟩ := closeDevice_unreached S P ret closed hcloses
      rw [heq]
      exact ⟨rfl, rfl⟩
  | _ => trivial

/-- A call that breaks the condition has taken a handle that it does not hand out, or has freed one and
tells that it has not. -/
theorem kept_of_lawful (h : Inv s) (ha : s.enabled a) (hlawful : s.Lawful S P a) :
    s.Kept S P a := by
  cases a with
  | openDevice d dev address ret memMapFd =>
    intro hddk hdev
    by_contra hret
    have heq : s.system.openDevice S P dev address ret memMapFd d = _ :=
      openDevice_reached ⟨hddk, hdev⟩
    rw [Lawful, heq] at hlawful
    exact Ledger.give_ne ha.1 (hlawful hret).2
  | closeDevice d dev ret closed =>
    intro hddk hdev hret
    obtain ⟨address, hdev⟩ := Option.isSome_iff_exists.mp hdev
    rw [Option.join_eq_some_iff] at hdev
    subst hdev
    have hheap := (hlawful ((closeDevice_ret_iff hddk).mpr hret)).1
    rw [closeDevice_state h.plain hddk] at hheap
    exact Ledger.giveBack_ne _ _ hheap
  | _ => trivial

/-- What the calls promise of a step: the codes tell what has become of the handle, and no object and no
descriptor is lost or freed twice. -/
def Conserving (S : Scsi.Platform) (P : Platform) (s : Session) (a : Action) : Prop :=
  s.Lawful S P a ∧ Conserved (s.step S P a)

theorem conserving_iff (h : Inv s) (ha : s.enabled a) : Conserving S P s a ↔ s.Kept S P a := by
  constructor
  · exact fun hconserving => kept_of_lawful h ha hconserving.1
  · exact fun hkept => ⟨lawful_of_kept hkept, (step_inv h ha hkept).conserved⟩

end Session

open Session

theorem init_inv (S : Scsi.Platform) (P : Platform) : Inv (machine S P).init where
  heap := Ledger.new_balanced
  files := Ledger.new_balanced
  objects _ := iff_of_false nofun nofun
  plain := nofun

/-- The calls of a run conserve the handles exactly when every device that is to be opened is opened,
and no close is answered with the code of an initialisation error. -/
theorem handles_conserved_iff (S : Scsi.Platform) (P : Platform) (as : List Action)
    (hrun : (machine S P).Runs as) :
    (machine S P).Along (Conserving S P) (machine S P).init as ↔
      (machine S P).Along (Kept S P) (machine S P).init as :=
  Machine.along_iff_along (I := Inv) (fun _ _ h ha hkept => step_inv h ha hkept)
    (fun _ _ h ha => conserving_iff h ha) (init_inv S P) hrun

/-- The codes of the frameworks for the SCSI client. -/
def scsiPlatform : Scsi.Platform := ⟨id, Nat.le_refl, 0, 1900000, 1909999⟩

/-- Devices of the three clients. The SCSI service dies, so that its device is closed at the second
attempt only, and the close of the USB serial device fails. -/
theorem handles_conserved_restarted :
    (machine scsiPlatform platform).Along (Conserving scsiPlatform platform)
      (machine scsiPlatform platform).init
      [.init .scsiPeripheral true true 0, .init .hid true true 0, .init .usbSerial true true 0,
        .openDevice .scsiPeripheral (some none) 0x100 0 7, .openDevice .hid (some none) 0x200 0 (-1),
        .openDevice .usbSerial (some none) 0x300 0 (-1), .remoteDied .scsiPeripheral,
        .closeDevice .scsiPeripheral (some (some 0x100)) 0 true, .init .scsiPeripheral true true 0,
        .closeDevice .scsiPeripheral (some (some 0x100)) 0 true,
        .closeDevice .usbSerial (some (some 0x300)) 1900001 true] :=
  (handles_conserved_iff scsiPlatform platform _ (by decide +kernel)).mpr (by decide +kernel)

/-- The SCSI service answers to the open that it has died. -/
theorem not_forall_handles_conserved :
    ¬∀ S P as, (machine S P).Runs as →
      (machine S P).Along (Conserving S P) (machine S P).init as := by
  intro h
  have hsteps := h scsiPlatform platform [.init .scsiPeripheral true true 0,
    .openDevice .scsiPeripheral (some none) 0x100 1900001 (-1)] (by decide +kernel)
  obtain ⟨-, ⟨hlawful, -⟩, -⟩ := hsteps
  have hdev := (hlawful (by decide +kernel)).1
  exact absurd hdev (by decide +kernel)

end ExtDevMgr.Ddk.Handles
