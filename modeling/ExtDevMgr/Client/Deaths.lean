import Mathlib.Data.List.Perm.Basic
import ExtDevMgr.Client.DriverExtMgrClient

/-!
# Deaths of the service

The proxy of the client is that of the running instance, or the notice of its death is on its way, so
the client comes back to the service once the notices have been handled (`follows_service`). A call has
no such hold on the proxy: it keeps it as long as no notice of its death is handled meanwhile
(`kept_iff_quiet`).
-/

namespace ExtDevMgr.Client.Process

variable {isProxyObject : Nat → Bool} {s : Process} {r : ConnectReplies} {remote thread : Nat}

/-! ## The watch on the proxy -/

/-- Every instance that the client may hold is watched. -/
structure Watched (isProxyObject : Nat → Bool) (s : Process) : Prop where
  service_lt : ∀ r, s.service = some r → r < s.nextInstance
  recipients : ∀ e ∈ s.recipients, s.service = some e.1
  notices : ∀ r ∈ s.notices, r < s.nextInstance ∧ s.service ≠ some r
  /-- What shares the process with the client outlives it. -/
  inProcess : ∀ r < s.nextInstance, isProxyObject r = false → s.service = some r
  proxy : ∀ r, s.client.proxy = some r → r ∈ s.notices ∨
    s.service = some r ∧ (isProxyObject r = true → ∃ d, (r, d) ∈ s.recipients)

theorem Watched.of_proxy (h : Watched isProxyObject s) {client : DriverExtMgrClient}
    (hproxy : ∀ r, client.proxy = some r → r ∈ s.notices ∨
      s.service = some r ∧ (isProxyObject r = true → ∃ d, (r, d) ∈ s.recipients)) :
    Watched isProxyObject { s with client } :=
  ⟨h.service_lt, h.recipients, h.notices, h.inProcess, hproxy⟩

theorem Watched.setProxy_none (h : Watched isProxyObject s) :
    Watched isProxyObject (s.setProxy none) :=
  h.of_proxy fun _ hnone => nomatch hnone

theorem Watched.newDeathRecipient (h : Watched isProxyObject s) :
    Watched isProxyObject s.newDeathRecipient :=
  ⟨h.service_lt, h.recipients, h.notices, h.inProcess, h.proxy⟩

theorem Watched.setCall (h : Watched isProxyObject s) (thread : Nat) (call : Call) :
    Watched isProxyObject (s.setCall thread call) :=
  ⟨h.service_lt, h.recipients, h.notices, h.inProcess, h.proxy⟩

theorem Watched.addDeathRecipient (h : Watched isProxyObject s) (hlt : remote < s.nextInstance)
    (recipient : Nat) :
    Watched isProxyObject (s.addDeathRecipient remote recipient) ∧
      (remote ∈ (s.addDeathRecipient remote recipient).notices ∨ s.service = some remote ∧
        (remote, recipient) ∈ (s.addDeathRecipient remote recipient).recipients) := by
  unfold Process.addDeathRecipient
  split
  case isTrue hservice =>
    refine ⟨⟨h.service_lt, ?_, h.notices, h.inProcess, fun r hr => ?_⟩,
      .inr ⟨hservice, List.mem_cons_self⟩⟩
    · intro e he
      rcases List.mem_cons.1 he with rfl | he
      · exact hservice
      · exact h.recipients e he
    · refine (h.proxy r hr).imp_right fun ⟨hrun, hwatch⟩ => ⟨hrun, fun hremote => ?_⟩
      obtain ⟨d, hd⟩ := hwatch hremote
      exact ⟨d, List.mem_cons_of_mem _ hd⟩
  case isFalse hservice =>
    refine ⟨⟨h.service_lt, h.recipients, ?_, h.inProcess, fun r hr => ?_⟩,
      .inl List.mem_cons_self⟩
    · intro r hr
      rcases List.mem_cons.1 hr with rfl | hr
      · exact ⟨hlt, hservice⟩
      · exact h.notices r hr
    · exact (h.proxy r hr).imp_left (List.mem_cons_of_mem _)

theorem addDeathRecipient_service (s : Process) (remote recipient : Nat) :
    (s.addDeathRecipient remote recipient).service = s.service := by
  unfold addDeathRecipient
  split <;> rfl

/-- A remote that answers becomes the proxy only where it is watched. -/
theorem Watched.connect (h : Watched isProxyObject s)
    (hr : ∀ remote ∈ r.checkSystemAbility, remote < s.nextInstance) :
    Watched isProxyObject (s.connect isProxyObject r).2 := by
  unfold Process.connect
  split
  case isTrue => exact h
  case isFalse =>
    split
    case isTrue => exact h
    case isFalse =>
      split
      case h_1 => exact h
      case h_2 remote hremote =>
        dsimp only
        split
        case isTrue => exact h.newDeathRecipient
        case isFalse =>
          have hlt := hr remote hremote
          obtain ⟨hadded, htold⟩ := h.newDeathRecipient.addDeathRecipient hlt s.nextRecipient
          by_cases hobject : isProxyObject remote = true
          · rw [if_pos hobject]
            split
            case isTrue =>
              refine hadded.of_proxy fun r hr => ?_
              cases hr
              refine htold.imp_right fun ⟨hrun, hwatch⟩ => ⟨?_, fun _ => ⟨_, hwatch⟩⟩
              exact (addDeathRecipient_service ..).trans hrun
            case isFalse => exact hadded.setProxy_none
          · rw [if_neg hobject]
            split
            case isTrue =>
              refine h.newDeathRecipient.of_proxy fun r hr => ?_
              cases hr
              refine .inr ⟨h.inProcess remote hlt ?_, fun hobject' => absurd hobject' hobject⟩
              simpa using hobject
            case isFalse => exact h.newDeathRecipient.setProxy_none

theorem Watched.startService (h : Watched isProxyObject s) (hnone : s.service = none) :
    Watched isProxyObject s.startService := by
  refine ⟨fun r hr => ?_, fun e he => ?_, fun r hr => ?_, fun r hr hlocal => ?_, fun r hr => ?_⟩
  · cases hr
    exact Nat.lt_succ_self _
  · have hrun := h.recipients e he
    rw [hnone] at hrun
    cases hrun
  · obtain ⟨hlt, -⟩ := h.notices r hr
    refine ⟨Nat.lt_succ_of_lt hlt, fun heq => ?_⟩
    cases heq
    exact Nat.lt_irrefl _ hlt
  · rcases Nat.lt_succ_iff_lt_or_eq.1 hr with hlt | rfl
    · have hrun := h.inProcess r hlt hlocal
      rw [hnone] at hrun
      cases hrun
    · rfl
  · refine (h.proxy r hr).imp_right fun ⟨hrun, _⟩ => ?_
    rw [hnone] at hrun
    cases hrun

theorem Watched.stopService (h : Watched isProxyObject s) (hrun : s.service = some remote)
    (hobject : isProxyObject remote = true) : Watched isProxyObject (s.stopService remote) := by
  have hlt := h.service_lt remote hrun
  refine ⟨nofun, fun e he => ?_, fun r hr => ⟨?_, nofun⟩, fun r hr hlocal => ?_,
    fun r hr => .inl ?_⟩
  · obtain ⟨hmem, hne⟩ := List.mem_filter.1 he
    have heq := h.recipients e hmem
    rw [hrun] at heq
    cases heq
    simp at hne
  · rcases List.mem_append.1 hr with hr | hr
    · obtain ⟨e, he, rfl⟩ := List.mem_map.1 hr
      exact h.service_lt _ (h.recipients e (List.mem_filter.1 he).1)
    · exact (h.notices r hr).1
  · have heq := h.inProcess r hr hlocal
    rw [hrun] at heq
    cases heq
    rw [hobject] at hlocal
    cases hlocal
  · rcases h.proxy r hr with hnotice | ⟨heq, hwatch⟩
    · exact List.mem_append_right _ hnotice
    · rw [hrun] at heq
      cases heq
      obtain ⟨d, hd⟩ := hwatch hobject
      have htold : (remote, d) ∈ s.recipients.filter fun e => e.1 = remote :=
        List.mem_filter.2 ⟨hd, by simp⟩
      exact List.mem_append_left _ (List.mem_map.2 ⟨_, htold, rfl⟩)

/-! ## Notices -/

theorem disConnect_cases (s : Process) (remote : Nat) :
    (s.client.proxy = some remote ∧
        s.disConnect remote = (s.removeDeathRecipient remote).releaseProxy) ∨
      s.client.proxy ≠ some remote ∧ s.disConnect remote = s := by
  unfold disConnect
  cases hproxy : s.client.proxy with
  | none => exact .inr ⟨nofun, rfl⟩
  | some serviceRemote =>
    dsimp only
    split
    case isTrue heq =>
      subst heq
      exact .inl ⟨rfl, rfl⟩
    case isFalse hne => exact .inr ⟨fun heq => hne (Option.some.inj heq), rfl⟩

/-- A notice is handled once, and other proxies stay. -/
theorem onRemoteDied_spec (s : Process) (remote : Nat) :
    (s.onRemoteDied remote).notices = s.notices.erase remote ∧
      (s.onRemoteDied remote).service = s.service ∧
      (s.onRemoteDied remote).client.proxy =
        if s.client.proxy = some remote then none else s.client.proxy := by
  unfold onRemoteDied
  rcases disConnect_cases { s with notices := s.notices.erase remote } remote with
    ⟨hproxy, heq⟩ | ⟨hproxy, heq⟩
  · rw [heq, if_pos hproxy]
    exact ⟨rfl, rfl, rfl⟩
  · rw [heq, if_neg hproxy]
    exact ⟨rfl, rfl, rfl⟩

theorem Watched.onRemoteDied (h : Watched isProxyObject s) (remote : Nat) :
    Watched isProxyObject (s.onRemoteDied remote) := by
  have hnotices : ∀ r ∈ s.notices.erase remote, r < s.nextInstance ∧ s.service ≠ some r :=
    fun r hr => h.notices r (List.mem_of_mem_erase hr)
  unfold Process.onRemoteDied
  rcases disConnect_cases { s with notices := s.notices.erase remote } remote with
    ⟨_, heq⟩ | ⟨hproxy, heq⟩
  · rw [heq]
    refine ⟨h.service_lt, fun e he => ?_, hnotices, h.inProcess, fun r hr => nomatch hr⟩
    exact h.recipients e (List.mem_filter.1 he).1
  · rw [heq]
    refine ⟨h.service_lt, h.recipients, hnotices, h.inProcess, fun r hr => ?_⟩
    refine (h.proxy r hr).imp_left fun hmem => (List.mem_erase_of_ne ?_).2 hmem
    rintro rfl
    exact hproxy hr

theorem step_watched (h : Watched isProxyObject s) {a : Action}
    (ha : s.Enabled isProxyObject a) : Watched isProxyObject (s.step isProxyObject a) := by
  cases a with
  | startService => exact h.startService ha
  | stopService remote => exact h.stopService ha.1 ha.2
  | begin thread r =>
    have hconnect := h.connect ha.2
    simp only [step, begin]
    split
    case isTrue => exact hconnect
    case isFalse => exact hconnect.setCall thread _
  | enter thread =>
    simp only [step, enter]
    split
    case h_1 => exact ⟨h.service_lt, h.recipients, h.notices, h.inProcess, h.proxy⟩
    case h_2 => exact h.setCall thread _
  | leave thread =>
    simp only [step, leave]
    split
    case isTrue => exact ⟨h.service_lt, h.recipients, h.notices, h.inProcess, h.proxy⟩
    case isFalse => exact h.setCall thread _
  | onRemoteDied remote => exact h.onRemoteDied remote

theorem init_watched : Watched isProxyObject (machine isProxyObject).init :=
  ⟨nofun, nofun, nofun, nofun, nofun⟩

theorem run_watched {as : List Action} (hrun : (machine isProxyObject).Runs as) :
    Watched isProxyObject ((machine isProxyObject).run (machine isProxyObject).init as) := by
  have hthrough : (machine isProxyObject).Throughout (Watched isProxyObject)
      (machine isProxyObject).init as :=
    Machine.throughout_of_along (fun _ _ h ha => step_watched h ha) init_watched hrun
  exact hthrough.last

/-! ## Coming back to the service -/

/-- The service is found and accepts. -/
structure Finds (r : ConnectReplies) (remote : Nat) : Prop where
  getSystemAbilityManager : r.getSystemAbilityManager = true
  checkSystemAbility : r.checkSystemAbility = some remote
  addDeathRecipient : r.addDeathRecipient = true
  ifaceCast : r.ifaceCast = true

/-- The notices have been handled, in any order. -/
theorem handled (h : Watched isProxyObject s) {l : List Nat} (hl : l.Perm s.notices) :
    Watched isProxyObject (l.foldl onRemoteDied s) ∧ (l.foldl onRemoteDied s).notices = [] ∧
      (l.foldl onRemoteDied s).service = s.service := by
  induction l generalizing s with
  | nil => exact ⟨h, List.nil_perm.1 hl, rfl⟩
  | cons remote l ih =>
    obtain ⟨hnotices, hservice, -⟩ := s.onRemoteDied_spec remote
    have hrest : l.Perm (s.onRemoteDied remote).notices := by
      rw [hnotices]
      exact (List.cons_perm_iff_perm_erase.1 hl).2
    obtain ⟨hwatched, hnone, hsame⟩ := ih (h.onRemoteDied remote) hrest
    exact ⟨hwatched, hnone, hsame.trans hservice⟩

theorem connect_of_finds (h : Watched isProxyObject s) (hnone : s.notices = [])
    (hrun : s.service = some remote) (hr : Finds r remote) :
    (s.connect isProxyObject r).1 = .edmOk ∧
      (s.connect isProxyObject r).2.client.proxy = some remote := by
  cases hproxy : s.client.proxy with
  | some p =>
    have hp : s.service = some p := by
      rcases h.proxy p hproxy with hmem | ⟨hp, -⟩
      · rw [hnone] at hmem
        cases hmem
      · exact hp
    rw [hrun] at hp
    cases hp
    simp [connect, hproxy]
  | none =>
    simp [connect, hproxy, hr.getSystemAbilityManager, hr.checkSystemAbility, hr.addDeathRecipient,
      hr.ifaceCast, setProxy]

/-- **The client follows the service.** In every order of starts, deaths, notices and calls of any
number of threads, the proxy is that of the running instance or the notice of its death is on its way;
no notice takes the proxy of the running instance away; and once the notices have been handled, in any
order, a `Connect` that finds the service gets the proxy of the running instance. -/
theorem follows_service (isProxyObject : Nat → Bool) (as : List Action)
    (hrun : (machine isProxyObject).Runs as) :
    let s := (machine isProxyObject).run (machine isProxyObject).init as
    (∀ r, s.client.proxy = some r → s.service = some r ∨ r ∈ s.notices) ∧
      (∀ p, s.client.proxy = some p → s.service = some p →
        ∀ r ∈ s.notices, (s.onRemoteDied r).client.proxy = some p) ∧
      ∀ l : List Nat, l.Perm s.notices → ∀ remote r, s.service = some remote → Finds r remote →
        ((l.foldl onRemoteDied s).connect isProxyObject r).1 = .edmOk ∧
          ((l.foldl onRemoteDied s).connect isProxyObject r).2.client.proxy = some remote := by
  intro s
  have hwatched : Watched isProxyObject s := run_watched hrun
  refine ⟨fun r hr => ?_, fun p hp hrunning r hr => ?_, fun l hl remote r hremote hfinds => ?_⟩
  · rcases hwatched.proxy r hr with hmem | ⟨hservice, -⟩
    · exact .inr hmem
    · exact .inl hservice
  · obtain ⟨-, -, hproxy⟩ := s.onRemoteDied_spec r
    rw [hproxy, if_neg, hp]
    rw [hp]
    intro heq
    cases heq
    exact (hwatched.notices p hr).2 hrunning
  · obtain ⟨hhandled, hnone, hservice⟩ := handled hwatched hl
    exact connect_of_finds hhandled hnone (hservice.trans hremote) hfinds

/-- The service has died twice, and the client has missed the first death. -/
def found (remote : Nat) : ConnectReplies := ⟨true, some remote, true, true⟩

theorem follows_restarted_service :
    let s := (machine fun _ => true).run (machine fun _ => true).init
      [.startService, .begin 0 ⟨true, some 0, true, false⟩, .begin 0 (found 0), .stopService 0,
        .startService, .onRemoteDied 0, .begin 1 (found 1)]
    (∀ r, s.client.proxy = some r → s.service = some r ∨ r ∈ s.notices) ∧
      (∀ p, s.client.proxy = some p → s.service = some p →
        ∀ r ∈ s.notices, (s.onRemoteDied r).client.proxy = some p) ∧
      ∀ l : List Nat, l.Perm s.notices → ∀ remote r, s.service = some remote → Finds r remote →
        ((l.foldl onRemoteDied s).connect (fun _ => true) r).1 = .edmOk ∧
          ((l.foldl onRemoteDied s).connect (fun _ => true) r).2.client.proxy = some remote :=
  follows_service (fun _ => true) _ (by decide)

/-! ## The proxy of a call -/

/-- From its `Connect` on a call has the proxy, and none has crashed. -/
def Kept (s : Process) : Prop :=
  s.crashed = false ∧ ∀ t, s.calls t ≠ .idle → s.client.proxy ≠ none ∧ s.calls t ≠ .released

/-- No notice takes the proxy away while a call is under way. -/
def Quiet (s : Process) : Action → Prop
  | .onRemoteDied remote => s.client.proxy = some remote → ∀ t, s.calls t = .idle
  | _ => True

/-- A `Connect` leaves a proxy alone, and one that returns `EDM_OK` leaves one. -/
theorem connect_spec (isProxyObject : Nat → Bool) (s : Process) (r : ConnectReplies) :
    (s.connect isProxyObject r).2.crashed = s.crashed ∧
      (s.connect isProxyObject r).2.calls = s.calls ∧
      (s.client.proxy ≠ none →
        (s.connect isProxyObject r).2.client.proxy = s.client.proxy) ∧
      ((s.connect isProxyObject r).1 = .edmOk →
        (s.connect isProxyObject r).2.client.proxy ≠ none) := by
  have hadd (remote recipient : Nat) (s : Process) :
      (s.addDeathRecipient remote recipient).crashed = s.crashed ∧
        (s.addDeathRecipient remote recipient).calls = s.calls := by
    unfold addDeathRecipient
    split
    · exact ⟨rfl, rfl⟩
    · exact ⟨rfl, rfl⟩
  unfold connect
  cases hproxy : s.client.proxy with
  | some p => simp [hproxy]
  | none =>
    cases r.getSystemAbilityManager with
    | false => simp
    | true =>
      cases r.checkSystemAbility with
      | none => simp
      | some remote =>
        simp only [Option.isSome_none, Bool.false_eq_true, if_false, Bool.not_true]
        split
        case isTrue => exact ⟨rfl, rfl, fun h => absurd rfl h, nofun⟩
        case isFalse =>
          obtain ⟨hcrashed, hcalls⟩ := hadd remote s.nextRecipient s.newDeathRecipient
          have hcrashed' : s.newDeathRecipient.crashed = s.crashed := rfl
          have hcalls' : s.newDeathRecipient.calls = s.calls := rfl
          cases isProxyObject remote <;> cases r.ifaceCast <;>
            simp [setProxy, hcrashed, hcalls, hcrashed', hcalls']

theorem Kept.setCall (h : s.Kept) (hproxy : s.client.proxy ≠ none) {call : Call}
    (hcall : call ≠ .released) : (s.setCall thread call).Kept := by
  refine ⟨h.1, fun t ht => ⟨hproxy, ?_⟩⟩
  by_cases heq : t = thread
  · subst heq
    simpa [Process.setCall] using hcall
  · have hsame : (s.setCall thread call).calls t = s.calls t := Function.update_of_ne heq _ _
    rw [hsame] at ht ⊢
    exact (h.2 t ht).2

theorem Kept.begin (h : s.Kept) (thread : Nat) (r : ConnectReplies) :
    (s.begin isProxyObject thread r).Kept := by
  obtain ⟨hcrashed, hcalls, hkeeps, hok⟩ := connect_spec isProxyObject s r
  have hkept : (s.connect isProxyObject r).2.Kept := by
    refine ⟨hcrashed.trans h.1, fun t ht => ?_⟩
    rw [hcalls] at ht ⊢
    obtain ⟨hproxy, hreleased⟩ := h.2 t ht
    exact ⟨(hkeeps hproxy).symm ▸ hproxy, hreleased⟩
  simp only [Process.begin]
  split
  case isTrue => exact hkept
  case isFalse hret => exact hkept.setCall (hok (not_not.1 hret)) nofun

/-- Releasing the proxy is harmless exactly where no call is under way. -/
theorem kept_onRemoteDied_iff (h : s.Kept) (remote : Nat) :
    (s.onRemoteDied remote).Kept ↔ s.Quiet (.onRemoteDied remote) := by
  unfold onRemoteDied
  rcases disConnect_cases { s with notices := s.notices.erase remote } remote with
    ⟨hproxy, heq⟩ | ⟨hproxy, heq⟩
  · rw [heq]
    constructor
    · intro hkept _ t
      by_contra ht
      refine (hkept.2 t fun hidle => ?_).1 rfl
      have hcall : (if s.calls t = .inside then Call.released else s.calls t) = .idle := hidle
      split at hcall
      case isTrue => cases hcall
      case isFalse => exact ht hcall
    · refine fun hquiet => ⟨h.1, fun t ht => absurd ?_ ht⟩
      have hidle := hquiet hproxy t
      simp [releaseProxy, removeDeathRecipient, hidle]
  · rw [heq]
    exact iff_of_true h fun hsame => absurd hsame hproxy

theorem kept_step_iff (h : s.Kept) {a : Action} (ha : s.Enabled isProxyObject a) :
    (s.step isProxyObject a).Kept ↔ s.Quiet a := by
  cases a with
  | startService => exact iff_of_true h trivial
  | stopService remote => exact iff_of_true h trivial
  | begin thread r => exact iff_of_true (h.begin thread r) trivial
  | enter thread =>
    have hcall : s.calls thread = .connected := ha
    obtain ⟨hproxy, -⟩ := h.2 thread (by rw [hcall]; nofun)
    obtain ⟨p, hp⟩ := Option.ne_none_iff_exists'.1 hproxy
    refine iff_of_true ?_ trivial
    simp only [step, enter, hp]
    exact h.setCall hproxy nofun
  | leave thread =>
    have hcall : s.calls thread ≠ .idle := by
      rcases ha with hcall | hcall
      · rw [hcall]
        nofun
      · rw [hcall]
        nofun
    obtain ⟨hproxy, hreleased⟩ := h.2 thread hcall
    refine iff_of_true ?_ trivial
    simp only [step, leave, if_neg hreleased]
    exact h.setCall hproxy nofun
  | onRemoteDied remote => exact kept_onRemoteDied_iff h remote

/-- **The proxy of a call.** In every run each call has the proxy from its `Connect` until its method
returns, and no call uses a null or released proxy, for as long as no notice takes the proxy away while
a call is under way; and the first notice that does leaves a call without it. -/
theorem kept_iff_quiet (isProxyObject : Nat → Bool) (as : List Action)
    (hrun : (machine isProxyObject).Runs as) :
    (machine isProxyObject).Throughout Kept (machine isProxyObject).init as ↔
      (machine isProxyObject).Along Quiet (machine isProxyObject).init as := by
  refine Machine.throughout_iff_along (fun _ _ _ _ => trivial)
    (fun s a _ hkept ha => kept_step_iff hkept ha) (I := fun _ => True) trivial ?_ hrun
  exact ⟨rfl, fun t ht => absurd rfl ht⟩

/-- A call has returned when the notice comes. -/
theorem kept_one_call :
    (machine fun _ => true).Throughout Kept (machine fun _ => true).init
        [.startService, .begin 0 (found 0), .enter 0, .leave 0, .stopService 0, .onRemoteDied 0] ↔
      (machine fun _ => true).Along Quiet (machine fun _ => true).init
        [.startService, .begin 0 (found 0), .enter 0, .leave 0, .stopService 0, .onRemoteDied 0] :=
  kept_iff_quiet (fun _ => true) _ (by decide)

end ExtDevMgr.Client.Process
