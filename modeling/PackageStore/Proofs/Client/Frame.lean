import PackageStore.Client.Basic
import PackageStore.Proofs.Wallet.Operations

/-!
Contract: what the operations of a client leave alone.

Owns: how a client hangs together with its wallet, which no dispatch changes; the parts of a start,
of which the second waits for the wallet's chain; and what each part does to the subscription.

Does not own: the order in which the parts of several calls follow one another.
-/

set_option autoImplicit false

namespace PackageStore

namespace Network

/-! ## Binders and slots -/

theorem binder_of_slots {network other : Network} (slots : network.slots = other.slots)
    (role : Role) : network.binder role = other.binder role := by
  rw [Network.binder, Network.binder, slots]

theorem get?_of_binder {network : Network} {role : Role} {binder : Binder}
    (known : network.binder role = .ok binder) :
    network.slots.get? role = some (.held binder) := by
  unfold Network.binder at known
  split at known
  next => cases known
  next slot found =>
    cases slot with
    | vacant site => cases known
    | held held =>
        cases known
        exact found

end Network

/-! ## Subscribers of a wallet -/

namespace WalletLink

theorem start_subscribers (link : WalletLink) (reading : Reading) :
    (link.start reading).1.subscribers = link.subscribers := by
  cases link with
  | injected subscribers => rfl
  | owned wallet => exact wallet.start_subscribers reading

theorem stop_subscribers (link : WalletLink) : link.stop.1.subscribers = link.subscribers := by
  cases link with
  | injected subscribers => rfl
  | owned wallet => exact wallet.stop_subscribers

theorem subscribe_callbacks (link : WalletLink) :
    link.subscribe.subscribers.callbacks = link.subscribers.callbacks ++ [.network] := by
  cases link <;> rfl

theorem unsubscribe_callbacks (link : WalletLink) :
    link.unsubscribe.subscribers.callbacks = link.subscribers.callbacks.erase .network := by
  cases link <;> rfl

end WalletLink

namespace Client

/-! ## The wiring of a client -/

/-- Who is called by the wallet, whether the network takes itself for subscribed, and which tasks
it would give up. -/
structure Wiring where
  callbacks : List Subscriber
  subscribed : Bool
  inFlight : List Nat

def wiring (client : Client) : Wiring :=
  ⟨client.wallet.subscribers.callbacks, client.network.subscribed, client.network.inFlight⟩

/-- The wallet calls the network once if it is subscribed, and not at all if it is not. -/
def Wiring.Tied (wiring : Wiring) : Prop :=
  wiring.callbacks = if wiring.subscribed then [.network] else []

theorem absorb_client (client : Client) (purpose : Purpose) (step : Network.Step) :
    (client.absorb purpose step).client = { client with network := step.network } := by
  unfold absorb
  cases step.progress <;> rfl

/-- The answers to a dispatch, and its beginning, keep the wiring. -/
theorem absorb_wiring (client : Client) (purpose : Purpose) {step : Network.Step}
    (frame : step.network = { client.network with slots := step.network.slots }) :
    (client.absorb purpose step).client.wiring = client.wiring := by
  rw [absorb_client, frame]
  rfl

theorem dispatch_wiring (client : Client) (chain : Option Chain) (ticket : Ticket) :
    (client.dispatch chain ticket).client.wiring = client.wiring :=
  absorb_wiring client .event rfl

theorem signerAnswered_wiring (client : Client) (rebind : Observer.Rebind Role) (purpose : Purpose)
    (failure : Option Failure) :
    (client.signerAnswered rebind purpose failure).client.wiring = client.wiring :=
  absorb_wiring client purpose rfl

theorem contractAnswered_wiring (client : Client) (rebind : Observer.Rebind Role)
    (purpose : Purpose) (failure : Option Failure) :
    (client.contractAnswered rebind purpose failure).client.wiring = client.wiring :=
  absorb_wiring client purpose rfl

/-- An observation draws a ticket besides. -/
theorem observe_wiring (client : Client) (chain : Option Chain) (purpose : Purpose) :
    (client.observe chain purpose).client.wiring = client.wiring := by
  rw [observe, absorb_client]
  rfl

/-! ## The parts of a start -/

/-- The roles are bound read-only. -/
def bindRoles (client : Client) (connect : Role → Option Failure) : Bound :=
  bindReadOnly connect client.settings.defaultChain client.network.roles client.network

/-- The network subscribes to the wallet, and an owned wallet begins to poll. -/
def goLive (client : Client) (baseline : Reading) : Client × List LogLine :=
  let (client, subscribed) := client.subscribe
  let (wallet, polling) := client.wallet.start baseline
  ({ client with wallet, started := true }, subscribed ++ polling)

/-- The wallet has been asked for its chain, which is observed. -/
def applyChain (client : Client) (current : Reading) : Step :=
  let (chain, read) := client.wallet.currentChain current
  let step : Step := match chain with
    | .error failure => ⟨client, .ended (.failed failure.leavingCall), []⟩
    | .ok none => ⟨client, .ended .nothing, [.logged (startedLine none)]⟩
    | .ok (some chain) => client.observe (some chain) (.startup chain)
  step.after (read.map Effect.logged)

theorem Step.after_after (first second : List Effect) (step : Step) :
    (step.after first).after second = step.after (second ++ first) := by
  simp [Step.after]

/-- A start consists of its parts. -/
theorem start_parts (client : Client) (answers : StartAnswers) :
    client.start answers =
      if client.started then ⟨client, .ended .nothing, []⟩
      else
        let bound := client.bindRoles answers.connect
        let client := { client with network := bound.network }
        match bound.failure with
        | some failure => ⟨client, .ended (.failed failure.leavingCall), bound.effects⟩
        | none =>
            let (client, lines) := client.goLive answers.baseline
            (client.applyChain answers.current).after
              (bound.effects ++ lines.map Effect.logged) := by
  unfold start
  split
  · rfl
  · change (match (client.bindRoles answers.connect).failure with | some _ => _ | none => _) = _
    dsimp only
    cases (client.bindRoles answers.connect).failure with
    | some failure => rfl
    | none =>
        dsimp only [goLive, applyChain]
        rw [Step.after_after, List.append_assoc _ (List.map _ _), ← List.map_append]
        rfl

theorem bindReadOnly_frame (connect : Role → Option Failure) (chain : Chain) (roles : List Role)
    (network : Network) :
    (bindReadOnly connect chain roles network).network =
      { network with slots := (bindReadOnly connect chain roles network).network.slots } := by
  induction roles generalizing network with
  | nil => rfl
  | cons role rest inductionHypothesis =>
      unfold bindReadOnly
      split
      next => exact inductionHypothesis network
      next =>
        split
        next => rfl
        next =>
          dsimp only
          split
          next => rfl
          next => exact inductionHypothesis _

/-- What holds at first and is kept where a role is bound read-only, holds when roles were bound. -/
theorem bindReadOnly_keeps {motive : Network → Prop} {home : Chain}
    (connect : Role → Option Failure) (roles : List Role) {network : Network}
    (holds : ∀ network, ∀ role ∈ roles, ∀ slot address, network.slots.get? role = some slot →
      motive network → motive (network.hold role (slot.bindReadOnly home address)))
    (initially : motive network) : motive (bindReadOnly connect home roles network).network := by
  induction roles generalizing network with
  | nil => exact initially
  | cons role rest inductionHypothesis =>
      have later : ∀ network, ∀ other ∈ rest, ∀ slot address,
          network.slots.get? other = some slot → motive network →
            motive (network.hold other (slot.bindReadOnly home address)) :=
        fun network other member => holds network other (List.mem_cons_of_mem _ member)
      unfold bindReadOnly
      split
      next => exact inductionHypothesis later initially
      next slot found =>
        split
        next => exact initially
        next address _ =>
          dsimp only
          split
          next => exact initially
          next =>
            exact inductionHypothesis later
              (holds network role List.mem_cons_self slot address found initially)

theorem bindRoles_wiring (client : Client) (connect : Role → Option Failure) :
    ({ client with network := (client.bindRoles connect).network } : Client).wiring =
      client.wiring := by
  rw [bindRoles, bindReadOnly_frame]
  rfl

/-! ## The subscription -/

theorem subscribe_wiring (client : Client) (tied : client.wiring.Tied) :
    client.subscribe.1.wiring = ⟨[.network], true, client.network.inFlight⟩ := by
  unfold Wiring.Tied wiring at tied
  cases subscribed : client.network.subscribed with
  | true =>
      simp only [subscribed, if_true] at tied
      simp [subscribe, Network.subscribe, wiring, subscribed, tied]
  | false =>
      simp only [subscribed] at tied
      simp [subscribe, Network.subscribe, wiring, subscribed, tied, WalletLink.subscribe_callbacks]

theorem goLive_wiring (client : Client) (tied : client.wiring.Tied) (baseline : Reading) :
    (client.goLive baseline).1.wiring = ⟨[.network], true, client.network.inFlight⟩ := by
  rw [← client.subscribe_wiring tied, goLive]
  simp only [wiring, WalletLink.start_subscribers]

theorem goLive_network (client : Client) (baseline : Reading) :
    (client.goLive baseline).1.network = { client.network with subscribed := true } := by
  have subscribed : client.network.subscribe.1 = { client.network with subscribed := true } := by
    unfold Network.subscribe
    split
    next already => rw [← already]
    next => rfl
  exact subscribed

theorem shutDown_wiring (client : Client) : client.shutDown.1.wiring = client.wiring := by
  simp only [shutDown, wiring, WalletLink.stop_subscribers]

/-- Nobody is called any more, and nothing is in flight. -/
theorem abandon_wiring (client : Client) (tied : client.wiring.Tied) :
    client.abandon.2.wiring = ⟨[], false, []⟩ := by
  unfold Wiring.Tied wiring at tied
  cases subscribed : client.network.subscribed with
  | true =>
      simp only [subscribed, if_true] at tied
      simp [abandon, Network.abandon, wiring, subscribed, tied, WalletLink.unsubscribe_callbacks]
  | false =>
      simp only [subscribed] at tied
      simp [abandon, Network.abandon, wiring, subscribed, tied]

theorem abandon_silent (client : Client) (silent : client.wiring.callbacks = []) :
    client.abandon.2.wiring.callbacks = [] := by
  have callbacks : client.wallet.subscribers.callbacks = [] := silent
  cases subscribed : client.network.subscribed with
  | true => simp [abandon, wiring, subscribed, callbacks, WalletLink.unsubscribe_callbacks]
  | false => simp [abandon, wiring, subscribed, callbacks]

/-! ## Bindings -/

/-- The binding in force of a role is a matter of the slots. -/
theorem binding_of_slots {client other : Client}
    (slots : client.network.slots = other.network.slots) (role : Role) :
    client.binding role = other.binding role := by
  rw [binding, binding, Network.binder_of_slots slots]

end Client

end PackageStore
