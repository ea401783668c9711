import PackageStore.Scenario.Provider

/-!
Contract: one polling wallet over a scripted provider.

Owns: subscribers that record their calls, that fail, or that take out their own subscription, and
what each step shows.
-/

set_option autoImplicit false

namespace PackageStore.Scenario.OneWallet

/-- What a subscriber does after it has recorded a call. -/
inductive Manner where
  | record
  | broken
  | once
deriving DecidableEq, Repr

abbrev Calls := List (String × Option Chain)

structure World where
  wallet : PollingWallet String
  provider : Provider
  /-- Whether rounds of polling follow one another without a pause. -/
  restless : Bool
  /-- The manner of each subscriber, settled when its name is first used. -/
  manners : List (String × Manner)
  /-- The subscriber of each subscription. -/
  subscriptions : List String
  calls : Calls
  log : List LogLine

def World.ofProvider (provider : Provider) (account : Option String) (restless : Bool) : World where
  wallet := .ofAccount account
  provider := provider
  restless := restless
  manners := []
  subscriptions := []
  calls := []
  log := []

namespace World

/-- A call of a subscriber. -/
def call (manners : List (String × Manner)) (chain : Option Chain) (name : String)
    (state : PollingWallet String × Calls) : (PollingWallet String × Calls) × Option Failure :=
  let calls := state.2 ++ [(name, chain)]
  match manners.lookup name with
  | some .broken => ((state.1, calls), some (.raised "RuntimeError" s!"{name} failed"))
  | some .once => ((state.1.unsubscribe name, calls), none)
  | _ => ((state.1, calls), none)

/-- A round of polling. -/
def poll (world : World) : World × Option Chain :=
  let (chain, (wallet, calls), lines) :=
    world.wallet.pollOnce (call world.manners) world.provider.reading world.calls
  ({ world with wallet, calls, log := world.log ++ lines }, chain)

/-- Several rounds of polling. -/
def spin : Nat → World → World
  | 0, world => world
  | rounds + 1, world => spin rounds (poll world).1

end World

/-- A step of the script. -/
inductive Step where
  | set (change : Provider → Provider)
  | chain
  | signer
  | subscribe (name : String) (manner : Manner)
  | unsubscribe (subscription : Nat)
  | poll
  | start
  | stop
  | spin

/-- What a step answers. -/
inductive Answer where
  | nothing
  | chain (chain : Option Chain)
  | signer
  | number (number : Nat)
  | failed (failure : Failure)

def step (world : World) (next : Step) : World × Answer :=
  let world := { world with calls := [], log := [] }
  match next with
  | .set change => ({ world with provider := change world.provider }, .nothing)
  | .chain =>
      let (chain, log) := PollingWallet.chainOf world.provider.reading
      ({ world with log }, .chain chain)
  | .signer =>
      let (wallet, answer, log) := world.wallet.signer world.provider.accountsAnswer
      ({ world with wallet, log },
        match answer with
        | .ok _ => .signer
        | .error failure => .failed failure)
  | .subscribe name manner =>
      ({ world with
          wallet := world.wallet.subscribe name
          manners := world.manners ++ [(name, manner)]
          subscriptions := world.subscriptions ++ [name] },
        .number world.subscriptions.length)
  | .unsubscribe subscription =>
      match world.subscriptions[subscription]? with
      | some name => ({ world with wallet := world.wallet.unsubscribe name }, .nothing)
      | none => (world, .nothing)
  | .poll =>
      let (world, chain) := world.poll
      (world, .chain chain)
  | .start =>
      let (wallet, log) := world.wallet.start world.provider.reading
      ({ world with wallet, log }, .nothing)
  | .stop =>
      let (wallet, log) := world.wallet.stop
      ({ world with wallet, log }, .nothing)
  | .spin =>
      (if world.restless && world.wallet.polling then World.spin 5 world else world, .nothing)

end PackageStore.Scenario.OneWallet
