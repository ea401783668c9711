import PackageStore.Proofs.Client.Assembly
import PackageStore.Proofs.Client.Closing
import PackageStore.Proofs.Client.Standing

/-!
Contract: what a start that fails leaves behind.

Owns: when a role refuses to be bound read-only, and which refusal stops a start; the ways in which
a start can fail; and that a client is stopped after a failed start exactly if a role refused.

Does not own: what else happens to a client while its start waits for the wallet's chain.

A start goes live before it asks the wallet for its chain, and nothing is undone if the wallet then
fails.
-/

set_option autoImplicit false

namespace PackageStore

namespace Network

/-- The failure that keeps a role from being bound read-only on a chain, if one does: its table
lists no address there, or its connector fails. -/
def refusal? (network : Network) (connect : Role → Option Failure) (chain : Chain) (role : Role) :
    Option Failure :=
  match network.site? role with
  | none => none
  | some site =>
      match site.table.require (.int chain) with
      | .error failure => some failure
      | .ok _ => connect role

variable {network : Network} {connect : Role → Option Failure} {chain : Chain} {role : Role}

theorem refusal?_of_sites {other : Network} (sites : other.site? role = network.site? role) :
    other.refusal? connect chain role = network.refusal? connect chain role := by
  rw [refusal?, refusal?, sites]

theorem site?_hold_bindReadOnly {slot : Slot} (found : network.slots.get? role = some slot)
    (address : Address) (other : Role) :
    (network.hold role (slot.bindReadOnly chain address)).site? other = network.site? other := by
  have same : network.site? role = some (slot.bindReadOnly chain address).site := by
    rw [site?, found]
    rfl
  exact network.site?_hold same other

theorem roles_hold (member : role ∈ network.roles) (binder : Binder) :
    (network.hold role binder).roles = network.roles :=
  (network.slots.keys_insert role (.held binder)).trans (if_pos member)

end Network

namespace Client

/-! ## Which refusal stops a start -/

/-- Roles are bound up to the first one that refuses. -/
theorem bindReadOnly_failure (connect : Role → Option Failure) (chain : Chain) (roles : List Role)
    (network : Network) :
    (bindReadOnly connect chain roles network).failure =
      roles.findSome? (network.refusal? connect chain) := by
  induction roles generalizing network with
  | nil => rfl
  | cons role rest inductionHypothesis =>
      unfold bindReadOnly
      rw [List.findSome?_cons]
      cases found : network.slots.get? role with
      | none =>
          have willing : network.refusal? connect chain role = none := by
            rw [Network.refusal?, Network.site?, found]
            rfl
          rw [willing]
          exact inductionHypothesis network
      | some slot =>
          have site : network.site? role = some slot.site := by
            rw [Network.site?, found]
            rfl
          have decided : slot.homeAddress chain none = slot.site.table.require (.int chain) := rfl
          simp only [Network.refusal?, site, decided]
          cases slot.site.table.require (.int chain) with
          | error failure => rfl
          | ok address =>
              cases connect role with
              | some failure => rfl
              | none =>
                  dsimp only
                  rw [inductionHypothesis]
                  congr 1
                  funext other
                  exact Network.refusal?_of_sites
                    (Network.site?_hold_bindReadOnly found address other)

/-- The failure that keeps the roles of a client from being bound, if one does. -/
def refusal? (client : Client) (connect : Role → Option Failure) : Option Failure :=
  client.network.roles.findSome? (client.network.refusal? connect client.settings.defaultChain)

theorem bindRoles_failure (client : Client) (connect : Role → Option Failure) :
    (client.bindRoles connect).failure = client.refusal? connect :=
  bindReadOnly_failure connect _ _ _

/-- Binding roles does not change what they refuse. -/
theorem refusal?_bound (client : Client) (connect later : Role → Option Failure) :
    ({ client with network := (client.bindRoles connect).network } : Client).refusal? later =
      client.refusal? later := by
  have kept : (client.bindRoles connect).network.roles = client.network.roles ∧
      ∀ role, (client.bindRoles connect).network.site? role = client.network.site? role := by
    refine bindReadOnly_keeps (motive := fun network =>
      network.roles = client.network.roles ∧
        ∀ role, network.site? role = client.network.site? role) connect _ ?_ ⟨rfl, fun _ => rfl⟩
    rintro network role member slot address found ⟨roles, sites⟩
    rw [← roles] at member
    refine ⟨(Network.roles_hold member _).trans roles, fun other => ?_⟩
    exact (Network.site?_hold_bindReadOnly found address other).trans (sites other)
  have refusals : (client.bindRoles connect).network.refusal? later client.settings.defaultChain =
      client.network.refusal? later client.settings.defaultChain := by
    funext role
    exact Network.refusal?_of_sites (kept.2 role)
  rw [refusal?, refusal?, kept.1, refusals]

/-! ## How a start can fail -/

/-- The whole startup: the roles are bound, the client goes live, and the wallet is asked for its
chain. -/
def startup (client : Client) (answers : StartAnswers) : Step :=
  let bound := client.bindRoles answers.connect
  let client := { client with network := bound.network }
  match bound.failure with
  | some failure => ⟨client, .ended (.failed failure.leavingCall), bound.effects⟩
  | none =>
      let (client, lines) := client.goLive answers.baseline
      (client.applyChain answers.current).after (bound.effects ++ lines.map Effect.logged)

theorem start_startup {client : Client} (unstarted : client.started = false)
    (answers : StartAnswers) : client.start answers = client.startup answers := by
  have notStarted : ¬ client.started = true := Bool.eq_false_iff.1 unstarted
  exact (client.start_parts answers).trans (if_neg notStarted)

/-- The client counts as stopped: it is not started, the wallet does not call it, and a start runs
the whole startup. -/
structure Stopped (client : Client) : Prop where
  unstarted : client.started = false
  unsubscribed : client.network.subscribed = false
  uncalled : .network ∉ client.wallet.subscribers.callbacks
  startsWhole : ∀ answers, client.start answers = client.startup answers

theorem stopped_iff (client : Client) :
    client.Stopped ↔ client.started = false ∧ client.network.subscribed = false ∧
      .network ∉ client.wallet.subscribers.callbacks := by
  constructor
  · intro stopped
    exact ⟨stopped.unstarted, stopped.unsubscribed, stopped.uncalled⟩
  · rintro ⟨unstarted, unsubscribed, uncalled⟩
    exact ⟨unstarted, unsubscribed, uncalled, start_startup unstarted⟩

variable {client : Client} {answers : StartAnswers}

/-- A startup that a role refuses comes no further than the binding of roles. -/
theorem startup_of_refusal {failure : Failure}
    (refused : client.refusal? answers.connect = some failure) :
    client.startup answers =
      ⟨{ client with network := (client.bindRoles answers.connect).network },
        .ended (.failed failure.leavingCall), (client.bindRoles answers.connect).effects⟩ := by
  rw [← bindRoles_failure] at refused
  simp only [startup, refused]

/-- The client after its roles were bound and it went live. -/
def live (client : Client) (answers : StartAnswers) : Client :=
  ({ client with network := (client.bindRoles answers.connect).network }.goLive
    answers.baseline).1

theorem startup_of_willing (willing : client.refusal? answers.connect = none) :
    ∃ effects, client.startup answers =
      ((client.live answers).applyChain answers.current).after effects := by
  rw [← bindRoles_failure] at willing
  simp only [startup, willing]
  exact ⟨_, rfl⟩

theorem live_standing (client : Client) (answers : StartAnswers) :
    (client.live answers).standing = client.standing.live := by
  rw [live, goLive_standing, bindRoles_standing]

/-- A startup goes live exactly if no role refuses, whatever the wallet answers afterwards. -/
theorem startup_standing (client : Client) (answers : StartAnswers) :
    (client.startup answers).client.standing =
      if (client.refusal? answers.connect).isSome then client.standing
      else client.standing.live := by
  cases refused : client.refusal? answers.connect with
  | some failure =>
      rw [startup_of_refusal refused]
      exact client.bindRoles_standing answers.connect
  | none =>
      obtain ⟨effects, started⟩ := startup_of_willing refused
      rw [started]
      exact ((client.live answers).applyChain_standing _).trans (client.live_standing answers)

/-- An observation never fails, so neither does what a start does with the wallet's chain. -/
theorem absorb_unfailed (client : Client) (purpose : Purpose) (step : Network.Step)
    (failure : Failure) : (client.absorb purpose step).progress ≠ .ended (.failed failure) := by
  unfold absorb
  cases step.progress with
  | needsSigner rebind => exact nofun
  | needsContract rebind => exact nofun
  | ended reports => cases purpose <;> exact nofun

/-- Only an injected wallet can fail to answer which chain it is on. -/
theorem currentChain_error {link : WalletLink} {reading : Reading} {raised : Failure}
    (failed : (link.currentChain reading).1 = .error raised) :
    (∃ subscribers, link = .injected subscribers) ∧ reading = .error raised := by
  cases link with
  | injected subscribers => exact ⟨⟨subscribers, rfl⟩, failed⟩
  | owned wallet => cases failed

/-- What a start does with the wallet's chain fails only if the wallet fails to answer, and then
leaves the client as it is. -/
theorem applyChain_failed {current : Reading} {failure : Failure}
    (failed : (client.applyChain current).progress = .ended (.failed failure)) :
    (∃ subscribers, client.wallet = .injected subscribers) ∧
      (∃ raised, current = .error raised ∧ failure = raised.leavingCall) ∧
        (client.applyChain current).client = client := by
  cases answered : (client.wallet.currentChain current).1 with
  | error raised =>
      obtain ⟨injected, same⟩ := currentChain_error answered
      have ended : (client.applyChain current).progress =
          .ended (.failed raised.leavingCall) ∧ (client.applyChain current).client = client := by
        simp only [applyChain, answered, Step.after, and_self]
      cases ended.1.symm.trans failed
      exact ⟨injected, ⟨raised, same, rfl⟩, ended.2⟩
  | ok chain =>
      cases chain with
      | none =>
          have ended : (client.applyChain current).progress = .ended .nothing := by
            simp only [applyChain, answered, Step.after]
          cases ended.symm.trans failed
      | some chain =>
          have observed : (client.applyChain current).progress =
              (client.observe (some chain) (.startup chain)).progress := by
            simp only [applyChain, answered, Step.after]
          exact absurd (observed.symm.trans failed) (client.absorb_unfailed _ _ failure)

/-! ## What a failed start leaves behind -/

/-- A start that a role refuses leaves the client as it was, but for the roles bound before. -/
theorem start_of_refusal (unstarted : client.started = false) {refusal : Failure}
    (refused : client.refusal? answers.connect = some refusal) :
    client.start answers =
      ⟨{ client with network := (client.bindRoles answers.connect).network },
        .ended (.failed refusal.leavingCall), (client.bindRoles answers.connect).effects⟩ :=
  (start_startup unstarted answers).trans (startup_of_refusal refused)

/-- A client whose roles were bound as far as they could be is stopped exactly if it was before. -/
theorem stopped_bound_iff (client : Client) (connect : Role → Option Failure) :
    ({ client with network := (client.bindRoles connect).network } : Client).Stopped ↔
      client.Stopped := by
  have subscribed : (client.bindRoles connect).network.subscribed = client.network.subscribed :=
    congrArg Standing.subscribed (client.bindRoles_standing connect)
  rw [stopped_iff, stopped_iff, subscribed]

/-- A start that fails although no role refuses fails at the wallet, with the client gone live. -/
theorem start_failed_of_willing (unstarted : client.started = false)
    (willing : client.refusal? answers.connect = none) {failure : Failure}
    (failed : (client.start answers).progress = .ended (.failed failure)) :
    (∃ subscribers, client.wallet = .injected subscribers) ∧
      (∃ raised, answers.current = .error raised ∧ failure = raised.leavingCall) ∧
      (client.start answers).client = client.live answers := by
  obtain ⟨effects, started⟩ := startup_of_willing willing
  rw [start_startup unstarted, started] at failed ⊢
  obtain ⟨⟨subscribers, injected⟩, raised, same⟩ := applyChain_failed failed
  refine ⟨?_, raised, same⟩
  have owned : (client.live answers).standing.owned = client.standing.owned := by
    rw [live_standing]
    rfl
  have notOwned : client.wallet.isOwned = false := by
    refine owned.symm.trans ?_
    show (client.live answers).wallet.isOwned = false
    rw [injected]
    rfl
  cases wallet : client.wallet with
  | injected subscribers => exact ⟨subscribers, rfl⟩
  | owned polled =>
      rw [wallet] at notOwned
      cases notOwned

/-- **A failed start leaves the client stopped exactly if a role refused.** Let a client that is not
started fail to start. If a role refused to be bound, then the first refusal is what was raised; the
client is as stopped as before, and a later start runs the whole startup again, which goes live
unless a role refuses once more. Otherwise an injected wallet failed to say which chain it is on;
the client then counts as started and is subscribed, and a later start does nothing. -/
theorem failed_start_stops_iff (client : Client) (unstarted : client.started = false)
    (answers : StartAnswers) (failure : Failure)
    (failed : (client.start answers).progress = .ended (.failed failure)) :
    let after := (client.start answers).client
    (after.Stopped ↔ client.Stopped ∧ (client.refusal? answers.connect).isSome = true) ∧
    (∀ refusal, client.refusal? answers.connect = some refusal →
      failure = refusal.leavingCall ∧ after.standing = client.standing ∧
      after.wallet = client.wallet ∧
      ∀ later, after.start later = after.startup later ∧
        (after.start later).client.standing =
          if (client.refusal? later.connect).isSome then client.standing
          else client.standing.live) ∧
    (client.refusal? answers.connect = none →
      (∃ subscribers, client.wallet = .injected subscribers) ∧
      (∃ raised, answers.current = .error raised ∧ failure = raised.leavingCall) ∧
      after.started = true ∧ after.network.subscribed = true ∧
      (client.wiring.Tied → after.wallet.subscribers.callbacks = [.network]) ∧
      ∀ later, after.start later = ⟨after, .ended .nothing, []⟩) := by
  intro after
  cases refused : client.refusal? answers.connect with
  | some refusal =>
      have started := start_of_refusal unstarted refused
      have left : after = { client with network := (client.bindRoles answers.connect).network } :=
        congrArg Step.client started
      have raised : failure = refusal.leavingCall := by
        rw [started] at failed
        cases failed
        rfl
      have standing : after.standing = client.standing := by
        rw [left]
        exact client.bindRoles_standing answers.connect
      refine ⟨?_, ?_, nofun⟩
      · rw [left, stopped_bound_iff]
        exact ⟨fun stopped => ⟨stopped, rfl⟩, And.left⟩
      · rintro _ ⟨⟩
        refine ⟨raised, standing, by rw [left], fun later => ?_⟩
        have again : after.start later = after.startup later := by
          refine start_startup ?_ later
          rw [left]
          exact unstarted
        have refusals : after.refusal? later.connect = client.refusal? later.connect := by
          rw [left]
          exact client.refusal?_bound answers.connect later.connect
        refine ⟨again, ?_⟩
        rw [again, startup_standing, refusals, standing]
  | none =>
      obtain ⟨injected, raised, left⟩ := start_failed_of_willing unstarted refused failed
      have left : after = client.live answers := left
      have standing : after.standing = client.standing.live := by
        rw [left]
        exact client.live_standing answers
      have started : after.started = true := congrArg Standing.started standing
      refine ⟨?_, nofun, fun _ => ⟨injected, raised, started, ?_, fun tied => ?_, fun later => ?_⟩⟩
      · refine iff_of_false (fun stopped => ?_) (fun both => Bool.false_ne_true both.2)
        cases started.symm.trans stopped.unstarted
      · exact congrArg Standing.subscribed standing
      · rw [left]
        have bound := client.bindRoles_wiring answers.connect
        have wired := goLive_wiring
          { client with network := (client.bindRoles answers.connect).network }
          (bound ▸ tied) answers.baseline
        exact congrArg Wiring.callbacks wired
      · rw [Client.start, if_pos started]

/-- The connector of every role fails. -/
def unconnected : StartAnswers where
  connect _ := some (.raised "OSError" "no route")
  baseline := .ok none
  current := .ok none

/-- The wallet fails to say which chain it is on. -/
def unread : StartAnswers where
  connect _ := none
  baseline := .ok none
  current := .error (.raised "OSError" "no wallet")

theorem failed_start_stops_iff_unconnected :
    Session.soleClient.started = false ∧
      (Session.soleClient.start unconnected).progress =
        .ended (.failed (.raised "OSError" "no route")) ∧
      (Session.soleClient.start unconnected).client.Stopped := by
  have failed : (Session.soleClient.start unconnected).progress =
      .ended (.failed (.raised "OSError" "no route")) := rfl
  have stopped : Session.soleClient.Stopped := (stopped_iff _).2 ⟨rfl, rfl, nofun⟩
  refine ⟨rfl, failed, ?_⟩
  exact (failed_start_stops_iff Session.soleClient rfl unconnected _ failed).1.2 ⟨stopped, rfl⟩

/-- Not every failed start leaves the client stopped. -/
theorem unread_start_stays_started :
    ¬ ∀ (settings : Settings) (given : Option Deployments.Tables) (roles : List Role)
      (wallet : WalletLink) (client : Client) (answers : StartAnswers) (failure : Failure),
      Client.ofSettings settings given roles wallet = .ok client → wallet.subscribers = .none →
      (client.start answers).progress = .ended (.failed failure) →
      (client.start answers).client.Stopped := by
  intro claim
  have stopped := claim _ _ _ _ Session.soleClient unread (.raised "OSError" "no wallet")
    Session.soleClient_built rfl rfl
  have started : (Session.soleClient.start unread).client.started = true := rfl
  cases started.symm.trans stopped.unstarted

end Client

end PackageStore
