import PackageStore.Catalog.Index
import PackageStore.Network.Dispatch
import PackageStore.Registry.Fetch
import PackageStore.Settings
import PackageStore.Wallet.Polling

/-!
Contract: the client of the package store.

Owns: how a client is put together from settings; its life from a start, which binds every role
read-only and applies the wallet's network, to its end; and access to bindings and to the catalog.

Does not own: the wallet's provider, the connectors and the registry. Their answers are arguments.
-/

set_option autoImplicit false

namespace PackageStore

/-- Who subscribes to the wallet of a client. -/
inductive Subscriber where
  | network
deriving DecidableEq, Repr

/-- The wallet of a client: one that announces its changes by itself and belongs to someone else,
or one that the client polls and owns. -/
inductive WalletLink where
  | injected (subscribers : Subscribers Subscriber)
  | owned (wallet : PollingWallet Subscriber)
deriving Repr

namespace WalletLink

def subscribers : WalletLink → Subscribers Subscriber
  | .injected subscribers => subscribers
  | .owned wallet => wallet.subscribers

def subscribe : WalletLink → WalletLink
  | .injected subscribers => .injected (subscribers.add .network)
  | .owned wallet => .owned (wallet.subscribe .network)

def unsubscribe : WalletLink → WalletLink
  | .injected subscribers => .injected (subscribers.remove .network)
  | .owned wallet => .owned (wallet.unsubscribe .network)

/-- The wallet's chain. A polling wallet takes a failed reading for no connection. -/
def currentChain (link : WalletLink) (reading : Reading) :
    Except Failure (Option Chain) × List LogLine :=
  match link with
  | .injected _ => (reading, [])
  | .owned _ =>
      let (chain, log) := PollingWallet.chainOf reading
      (.ok chain, log)

/-- Starts an owned wallet. -/
def start (link : WalletLink) (reading : Reading) : WalletLink × List LogLine :=
  match link with
  | .injected subscribers => (.injected subscribers, [])
  | .owned wallet =>
      let (wallet, log) := wallet.start reading
      (.owned wallet, log)

/-- Stops an owned wallet. -/
def stop : WalletLink → WalletLink × List LogLine
  | .injected subscribers => (.injected subscribers, [])
  | .owned wallet =>
      let (wallet, log) := wallet.stop
      (.owned wallet, log)

def isOwned : WalletLink → Bool
  | .injected _ => false
  | .owned _ => true

end WalletLink

/-- A client. A client that owns its wallet owns its registry connection too. -/
structure Client where
  settings : Settings
  network : Network
  catalog : Catalog
  wallet : WalletLink
  started : Bool
  registryClosed : Bool

namespace Client

/-- The sites of roles, each with its own table. -/
def sites (tables : Deployments.Tables) (rpcUrl : String) :
    List Role → Except Failure (List Site)
  | [] => .ok []
  | role :: rest =>
      match Deployments.ofRole role tables with
      | .error failure => .error failure
      | .ok table =>
          match sites tables rpcUrl rest with
          | .error failure => .error failure
          | .ok later => .ok (⟨role, table, rpcUrl⟩ :: later)

/-- Puts a client together. Without given tables the settings decide where contracts are
deployed. -/
def ofSettings (settings : Settings) (given : Option Deployments.Tables) (roles : List Role)
    (wallet : WalletLink) : Except Failure Client :=
  let chosen : Except Failure Deployments.Tables := match given with
    | some tables => .ok tables
    | none => settings.tables
  match chosen with
  | .error failure => .error failure
  | .ok tables =>
      match sites tables settings.rpcUrl roles with
      | .error failure => .error failure
      | .ok sites =>
          .ok { settings, network := .ofSites sites, catalog := .empty, wallet, started := false,
                registryClosed := false }

/-- The registry that an owning client asks. -/
def endpoint (client : Client) : Endpoint :=
  ⟨client.settings.registryUrl, client.settings.appsPath⟩

def setQuery (client : Client) (query : Option Text) : Client :=
  { client with catalog := client.catalog.setQuery query }

/-- The binding in force of a role. -/
def binding (client : Client) (role : Role) : Except Failure Binding :=
  (client.network.binder role).map Binder.active

def canWrite (client : Client) (role : Role) : Bool :=
  client.network.canWrite role

/-! ## Observations -/

/-- What an observation was made for. -/
inductive Purpose where
  /-- The start of the client on a chain. -/
  | startup (chain : Chain)
  /-- A direct request. -/
  | request
  /-- An event of the wallet. -/
  | event
deriving DecidableEq, Repr

inductive Outcome where
  | nothing
  | reported (reports : List (Role × Report))
  | failed (failure : Failure)

inductive Progress where
  | needsSigner (rebind : Observer.Rebind Role) (purpose : Purpose)
  | needsContract (rebind : Observer.Rebind Role) (purpose : Purpose)
  | ended (outcome : Outcome)

structure Step where
  client : Client
  progress : Progress
  effects : List Effect

def Step.after (effects : List Effect) (step : Step) : Step :=
  { step with effects := effects ++ step.effects }

/-- The line about a start that ended. -/
def startedLine (chain : Option Chain) : LogLine :=
  ⟨.info, s!"Store client started with wallet on chain {Chain.observed chain}"⟩

/-- What follows when the dispatch of an observation has ended. -/
def conclude (purpose : Purpose) (reports : List (Role × Report)) : Outcome × List Effect :=
  match purpose with
  | .startup chain => (.nothing, [.logged (startedLine (some chain))])
  | .request => (.reported reports, [])
  | .event => (.nothing, [])

/-- Takes over a step of the network. -/
def absorb (client : Client) (purpose : Purpose) (step : Network.Step) : Step :=
  let client := { client with network := step.network }
  match step.progress with
  | .needsSigner rebind => ⟨client, .needsSigner rebind purpose, step.effects⟩
  | .needsContract rebind => ⟨client, .needsContract rebind purpose, step.effects⟩
  | .ended reports =>
      let (outcome, effects) := conclude purpose reports
      ⟨client, .ended outcome, step.effects ++ effects⟩

/-- Makes an observation with a fresh ticket. -/
def observe (client : Client) (chain : Option Chain) (purpose : Purpose) : Step :=
  client.absorb purpose (client.network.observe chain)

/-- Begins the dispatch of a wallet event, which has its ticket. -/
def dispatch (client : Client) (chain : Option Chain) (ticket : Ticket) : Step :=
  client.absorb .event (client.network.dispatch chain ticket)

def signerAnswered (client : Client) (rebind : Observer.Rebind Role) (purpose : Purpose)
    (failure : Option Failure) : Step :=
  client.absorb purpose (client.network.signerAnswered rebind failure)

def contractAnswered (client : Client) (rebind : Observer.Rebind Role) (purpose : Purpose)
    (failure : Option Failure) : Step :=
  client.absorb purpose (client.network.contractAnswered rebind failure)

/-- The wallet calls its subscriber about a change. -/
def chainChanged (client : Client) (task : Nat) : Ticket × Client :=
  let (ticket, network) := client.network.chainChanged task
  (ticket, { client with network })

/-! ## Start -/

/-- A network with the failure that stopped its roles from being bound, if one did. -/
structure Bound where
  network : Network
  failure : Option Failure
  effects : List Effect

/-- Binds roles read-only on a chain, one after another up to the first failure. What the
connector of a role does is `connect`. -/
def bindReadOnly (connect : Role → Option Failure) (chain : Chain) :
    List Role → Network → Bound
  | [], network => ⟨network, none, []⟩
  | role :: rest, network =>
      match network.slots.get? role with
      | none => bindReadOnly connect chain rest network
      | some slot =>
          match slot.homeAddress chain none with
          | .error failure => ⟨network, some failure, []⟩
          | .ok address =>
              let asked := Effect.provided role slot.site.rpcUrl
              match connect role with
              | some failure => ⟨network, some failure, [asked]⟩
              | none =>
                  let binder := slot.bindReadOnly chain address
                  let later := bindReadOnly connect chain rest (network.hold role binder)
                  { later with
                    effects := [asked, .connected role, .logged (Slot.boundLine binder)]
                      ++ later.effects }

/-- The network subscribes to the wallet, unless it did. -/
def subscribe (client : Client) : Client × List LogLine :=
  let (network, log) := client.network.subscribe
  ({ client with
      network
      wallet := if client.network.subscribed then client.wallet else client.wallet.subscribe },
    log)

/-- The answers of collaborators while a client starts: of the connectors, of an owned wallet at
the start of its polling, and of the wallet when it is asked for its chain. -/
structure StartAnswers where
  connect : Role → Option Failure
  baseline : Reading
  current : Reading

/-- Starts the client, unless it is started: every role is bound read-only on the default chain,
the network subscribes to the wallet, and the wallet's chain is observed. -/
def start (client : Client) (answers : StartAnswers) : Step :=
  if client.started then ⟨client, .ended .nothing, []⟩
  else
    let bound := bindReadOnly answers.connect client.settings.defaultChain client.network.roles
      client.network
    let client := { client with network := bound.network }
    match bound.failure with
    | some failure => ⟨client, .ended (.failed failure.leavingCall), bound.effects⟩
    | none =>
        let (client, subscribed) := client.subscribe
        let (wallet, polling) := client.wallet.start answers.baseline
        let client := { client with wallet, started := true }
        let (chain, read) := client.wallet.currentChain answers.current
        let lines := (subscribed ++ polling ++ read).map Effect.logged
        let step : Step := match chain with
          | .error failure => ⟨client, .ended (.failed failure.leavingCall), []⟩
          | .ok none => ⟨client, .ended .nothing, [.logged (startedLine none)]⟩
          | .ok (some chain) => client.observe (some chain) (.startup chain)
        step.after (bound.effects ++ lines)

/-! ## Close -/

/-- The subscription ends and the dispatches in flight are given up; answers which ones. -/
def abandon (client : Client) : List Nat × Client :=
  let (tasks, network) := client.network.abandon
  (tasks,
    { client with
      network
      wallet := if client.network.subscribed then client.wallet.unsubscribe else client.wallet })

/-- Ends the client's use of what it owns. -/
def shutDown (client : Client) : Client × List LogLine :=
  let (wallet, log) := client.wallet.stop
  ({ client with
      wallet
      registryClosed := client.registryClosed || client.wallet.isOwned
      started := false },
    log ++ [⟨.info, "Store client closed"⟩])

/-- Closes the client; answers which dispatches in flight are given up. -/
def close (client : Client) : List Nat × Client × List LogLine :=
  let (tasks, client) := client.abandon
  (tasks, client.shutDown)

end Client

end PackageStore
