import PackageStore.Wallet.Subscribers

/-!
Contract: a wallet behind a provider that does not announce changes of its network.

Owns: the reading of the provider's chain, rounds of polling that call the subscribers when the
reading differs from the one before, and the setup of the signer, which happens once.

Does not own: the provider. What it answers is an argument.
-/

set_option autoImplicit false

namespace PackageStore

/-- What asking for the chain brings: the chain, nothing when there is no connection, or a
failure. -/
abbrev Reading := Except Failure (Option Chain)

/-- A wallet that is polled. `account` is the address of a local account that signs, and
`signingLayers` counts the layers that were put into the provider to sign with it. -/
structure PollingWallet (κ : Type) where
  account : Option String
  subscribers : Subscribers κ
  lastChain : Option Chain
  polling : Bool
  ready : Bool
  signingLayers : Nat
  defaultAccount : Option String
deriving DecidableEq, Repr

/-- The outcome of a round of polling: the chain read, and who has to be told about it. -/
structure Poll (κ : Type) where
  wallet : PollingWallet κ
  chain : Option Chain
  calls : List κ
  log : List LogLine

namespace PollingWallet

variable {κ σ : Type}

def ofAccount (account : Option String) : PollingWallet κ where
  account := account
  subscribers := .none
  lastChain := none
  polling := false
  ready := false
  signingLayers := 0
  defaultAccount := none

/-- A reading in which a failure counts as no connection. -/
def chainOf : Reading → Option Chain × List LogLine
  | .ok chain => (chain, [])
  | .error failure =>
      (none, [⟨.warning, s!"Could not read chain id from wallet provider: {failure.message}"⟩])

/-! ## Signing -/

/-- Without this account nothing can be signed. -/
def noAccount : Failure :=
  .store "Wallet has no account to sign with" none none

/-- The wallet with an account to sign with. -/
def readyWith (wallet : PollingWallet κ) (account : String) : PollingWallet κ × List LogLine :=
  ({ wallet with ready := true, defaultAccount := some account },
    [⟨.info, s!"Wallet signer ready for {account}"⟩])

/-- Sets up the signer: with the local account if there is one, else with the first of the
provider's accounts. Nothing is done when the signer is ready. -/
def signer (wallet : PollingWallet κ) (accounts : Except Failure (List String)) :
    PollingWallet κ × Except Failure Unit × List LogLine :=
  if wallet.ready then (wallet, .ok (), [])
  else
    match wallet.account with
    | some account =>
        let (wallet, log) := readyWith
          { wallet with signingLayers := wallet.signingLayers + 1 } account
        (wallet, .ok (), log)
    | none =>
        match accounts with
        | .error failure => (wallet, .error failure.leavingCall, [])
        | .ok [] => (wallet, .error noAccount, [])
        | .ok (account :: _) =>
            let (wallet, log) := wallet.readyWith account
            (wallet, .ok (), log)

/-! ## Subscriptions -/

def subscribe (wallet : PollingWallet κ) (callback : κ) : PollingWallet κ :=
  { wallet with subscribers := wallet.subscribers.add callback }

def unsubscribe [DecidableEq κ] (wallet : PollingWallet κ) (callback : κ) : PollingWallet κ :=
  { wallet with subscribers := wallet.subscribers.remove callback }

/-! ## Polling -/

/-- Starts polling. The first reading is taken silently; a wallet that polls is left alone. -/
def start (wallet : PollingWallet κ) (reading : Reading) : PollingWallet κ × List LogLine :=
  if wallet.polling then (wallet, [])
  else
    let (chain, log) := chainOf reading
    ({ wallet with lastChain := chain, polling := true },
      log ++ [⟨.info, s!"Wallet polling started on chain {Chain.observed chain}"⟩])

def stop (wallet : PollingWallet κ) : PollingWallet κ × List LogLine :=
  if wallet.polling then
    ({ wallet with polling := false }, [⟨.info, "Wallet polling stopped"⟩])
  else (wallet, [])

/-- One round of polling up to the calls. -/
def poll (wallet : PollingWallet κ) (reading : Reading) : Poll κ :=
  let (chain, log) := chainOf reading
  if chain = wallet.lastChain then
    { wallet, chain, calls := [], log }
  else
    { wallet := { wallet with lastChain := chain }
      chain
      calls := wallet.subscribers.callbacks
      log := log ++
        [⟨.info, s!"Wallet network changed from {Chain.observed wallet.lastChain} to "
          ++ s!"{Chain.observed chain}"⟩] }

/-- One round of polling with the calls. A callback may change the wallet and a state of its own,
and those who are called are the subscribers at the start of the round. -/
def pollOnce
    (call : Option Chain → κ → PollingWallet κ × σ → (PollingWallet κ × σ) × Option Failure)
    (reading : Reading) (wallet : PollingWallet κ) (own : σ) :
    Option Chain × (PollingWallet κ × σ) × List LogLine :=
  let round := wallet.poll reading
  let (state, lines) := Subscribers.callEach (call round.chain) round.calls (round.wallet, own)
  (round.chain, state, round.log ++ lines)

end PollingWallet

end PackageStore
