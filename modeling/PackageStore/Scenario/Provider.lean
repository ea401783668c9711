import PackageStore.Wallet.Polling

/-!
Contract: a scripted provider behind a polling wallet.

Owns: whether the provider is connected, its chain and its accounts, the failures it is told to
raise, and the answers that follow from these.
-/

set_option autoImplicit false

namespace PackageStore.Scenario

structure Provider where
  connected : Bool
  chain : Option Chain
  accounts : List String
  connectFailure : Option Failure
  chainFailure : Option Failure
  accountsFailure : Option Failure

namespace Provider

def standard : Provider :=
  ⟨true, some .sepolia, [], none, none, none⟩

/-- The answer to the question for the chain. The connection is tried first. -/
def reading (provider : Provider) : Reading :=
  match provider.connectFailure, provider.connected, provider.chainFailure with
  | some failure, _, _ => .error failure
  | none, false, _ => .ok none
  | none, true, some failure => .error failure
  | none, true, none => .ok provider.chain

def accountsAnswer (provider : Provider) : Except Failure (List String) :=
  match provider.accountsFailure with
  | some failure => .error failure
  | none => .ok provider.accounts

/-- The address of the local account. -/
def localAccount : String := "0x7E5F4552091A69125d5DfCb7b8C2659029395Bdf"

end Provider

end PackageStore.Scenario
