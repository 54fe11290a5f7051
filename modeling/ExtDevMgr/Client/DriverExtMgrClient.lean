import Mathlib.Logic.Function.Basic
import ExtDevMgr.Base.Machine

/-!
# The client of the service

`driver_ext_mgr_client.cpp`, the one client object of a process. Its threads share a proxy of the
service. A call connects under `mutex_` and then runs a method of `proxy_` without it, and the notice
that the service has died comes on a thread of its own.

The recipients of that notice are kept by the IPC framework. What is assumed of it:

* `addDeathRecipient`: a recipient that has been added to a remote is told of its death, and at once if
  the remote is dead when it is added;
* `removeDeathRecipient`: a recipient that has been removed is not told, but a notice that is already on
  its way comes all the same;
* `tellRecipients`: a remote that dies sends one notice to each of its recipients. The notices are
  handled in any order, each as late as it likes.
-/

namespace ExtDevMgr.Client

/-- The codes of `Connect`. -/
inductive UsbErrCode
  | edmOk
  | edmErrGetSystemAbilityManagerFailed
  | edmErrGetServiceFailed
  | edmErrNotSupport
  deriving DecidableEq

/-- What a `Connect` is answered. An instance of the service is named by its number. -/
structure ConnectReplies where
  getSystemAbilityManager : Bool
  checkSystemAbility : Option Nat
  addDeathRecipient : Bool
  ifaceCast : Bool

/-- How far a thread has come with a call. -/
inductive Call
  | idle
  /-- `Connect` has returned `EDM_OK`. -/
  | connected
  /-- A method of the proxy runs. -/
  | inside
  /-- The proxy has been released while its method runs. -/
  | released
  deriving DecidableEq

/-- `proxy` is the instance whose remote the proxy has. -/
structure DriverExtMgrClient where
  proxy : Option Nat := none
  deathRecipient : Option Nat := none

/-- The client with what it depends on. -/
structure Process where
  client : DriverExtMgrClient := {}
  calls : Nat → Call := fun _ => .idle
  /-- The instance of the service that runs, if any. -/
  service : Option Nat := none
  nextInstance : Nat := 0
  nextRecipient : Nat := 0
  /-- The death recipients that the remotes of the instances have. -/
  recipients : List (Nat × Nat) := []
  /-- The notices that have not been handled, by the instance that has died. -/
  notices : List Nat := []
  /-- A call has used no proxy or a released one. -/
  crashed : Bool := false

namespace Process

def setProxy (s : Process) (proxy : Option Nat) : Process :=
  { s with client := { s.client with proxy } }

/-- `new DriverExtMgrDeathRecipient()`. -/
def newDeathRecipient (s : Process) : Process :=
  { s with
    client := { s.client with deathRecipient := some s.nextRecipient }
    nextRecipient := s.nextRecipient + 1 }

/-- `AddDeathRecipient` where it succeeds: the recipient of an instance that has died is told. -/
def addDeathRecipient (s : Process) (remote recipient : Nat) : Process :=
  if s.service = some remote then
    { s with recipients := (remote, recipient) :: s.recipients }
  else
    { s with notices := remote :: s.notices }

def removeDeathRecipient (s : Process) (remote : Nat) : Process :=
  { s with
    recipients := s.recipients.filter fun e => ¬ (e.1 = remote ∧ s.client.deathRecipient = some e.2) }

/-- `isProxyObject` tells which instances run in another process. -/
def connect (isProxyObject : Nat → Bool) (r : ConnectReplies) (s : Process) :
    UsbErrCode × Process :=
  if s.client.proxy.isSome then
    (.edmOk, s)
  else if !r.getSystemAbilityManager then
    (.edmErrGetSystemAbilityManagerFailed, s)
  else
    match r.checkSystemAbility with
    | none => (.edmErrGetServiceFailed, s)
    | some remote =>
      let recipient := s.nextRecipient
      let s := s.newDeathRecipient
      if isProxyObject remote && !r.addDeathRecipient then
        (.edmErrNotSupport, s)
      else
        let s := if isProxyObject remote then s.addDeathRecipient remote recipient else s
        if r.ifaceCast then (.edmOk, s.setProxy (some remote))
        else (.edmErrGetServiceFailed, s.setProxy none)

/-- `proxy_ = nullptr`: the methods that run are left without their object. -/
def releaseProxy (s : Process) : Process :=
  { s.setProxy none with
    calls := fun t => if s.calls t = .inside then .released else s.calls t }

def disConnect (s : Process) (remote : Nat) : Process :=
  match s.client.proxy with
  | none => s
  | some serviceRemote =>
    if serviceRemote = remote then (s.removeDeathRecipient serviceRemote).releaseProxy else s

def onRemoteDied (s : Process) (remote : Nat) : Process :=
  { s with notices := s.notices.erase remote }.disConnect remote

def setCall (s : Process) (thread : Nat) (call : Call) : Process :=
  { s with calls := Function.update s.calls thread call }

/-- The beginning of every call. -/
def begin (isProxyObject : Nat → Bool) (s : Process) (thread : Nat) (r : ConnectReplies) : Process :=
  let (ret, s) := s.connect isProxyObject r
  if ret ≠ .edmOk then s else s.setCall thread .connected

/-- `proxy_->` of a call. -/
def enter (s : Process) (thread : Nat) : Process :=
  match s.client.proxy with
  | none => { s with crashed := true }
  | some _ => s.setCall thread .inside

/-- The method of the proxy returns, and the call with it. -/
def leave (s : Process) (thread : Nat) : Process :=
  if s.calls thread = .released then { s with crashed := true } else s.setCall thread .idle

def startService (s : Process) : Process :=
  { s with service := some s.nextInstance, nextInstance := s.nextInstance + 1 }

/-- A remote that has died sends a notice to each of its recipients. -/
def tellRecipients (s : Process) (remote : Nat) : Process :=
  { s with
    recipients := s.recipients.filter fun e => e.1 ≠ remote
    notices := ((s.recipients.filter fun e => e.1 = remote).map Prod.fst) ++ s.notices }

/-- The instance dies. -/
def stopService (s : Process) (remote : Nat) : Process :=
  { s with service := none }.tellRecipients remote

inductive Action
  | startService
  | stopService (remote : Nat)
  | begin (thread : Nat) (r : ConnectReplies)
  | enter (thread : Nat)
  | leave (thread : Nat)
  | onRemoteDied (remote : Nat)

def step (isProxyObject : Nat → Bool) (s : Process) : Action → Process
  | .startService => s.startService
  | .stopService remote => s.stopService remote
  | .begin thread r => s.begin isProxyObject thread r
  | .enter thread => s.enter thread
  | .leave thread => s.leave thread
  | .onRemoteDied remote => s.onRemoteDied remote

/-- An instance starts where none runs, and one that shares the process with the client does not die
before it. The registry may still name an instance that has died. -/
def Enabled (isProxyObject : Nat → Bool) (s : Process) : Action → Prop
  | .startService => s.service = none
  | .stopService remote => s.service = some remote ∧ isProxyObject remote = true
  | .begin thread r => s.calls thread = .idle ∧ ∀ remote ∈ r.checkSystemAbility, remote < s.nextInstance
  | .enter thread => s.calls thread = .connected
  | .leave thread => s.calls thread = .inside ∨ s.calls thread = .released
  | .onRemoteDied remote => remote ∈ s.notices

instance (isProxyObject : Nat → Bool) (s : Process) : DecidablePred (s.Enabled isProxyObject) :=
  fun a => by
    cases a <;> unfold Enabled <;> infer_instance

def machine (isProxyObject : Nat → Bool) : Machine Process Action where
  init := {}
  enabled := Enabled isProxyObject
  step := step isProxyObject

instance (isProxyObject : Nat → Bool) (s : Process) :
    DecidablePred ((machine isProxyObject).enabled s) :=
  inferInstanceAs (DecidablePred (s.Enabled isProxyObject))

end Process
end ExtDevMgr.Client
