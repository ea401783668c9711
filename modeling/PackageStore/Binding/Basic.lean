import PackageStore.Deployment.Table
import PackageStore.Ticket

/-!
Contract: contract handles and the bindings that hold them.

Owns: the handle of a contract, which records the address it was built for and what runs its
calls; the binding of a role to one chain; and the result of a network observation.
-/

set_option autoImplicit false

namespace PackageStore

/-- What runs the calls on a contract: a public endpoint, or the signer of the wallet. -/
inductive Runner where
  | endpoint (url : String)
  | signer
deriving DecidableEq, Repr, Inhabited

/-- A contract handle, built for an address and a runner. -/
structure Contract where
  address : Address
  runner : Runner
deriving DecidableEq, Repr

inductive Access where
  | readOnly
  | signerBound
deriving DecidableEq, Repr

def Access.name : Access → String
  | .readOnly => "read_only"
  | .signerBound => "signer_bound"

/-- The chain, the address and the handle that calls of a role go through. -/
structure Binding where
  chain : Chain
  address : Address
  access : Access
  contract : Contract
deriving DecidableEq, Repr

namespace Binding

def isSignerBound (binding : Binding) : Bool :=
  binding.access == .signerBound

/-- The binding through a public endpoint. -/
def readOnly (chain : Chain) (address : Address) (url : String) : Binding :=
  ⟨chain, address, .readOnly, ⟨address, .endpoint url⟩⟩

/-- The binding through the wallet's signer. -/
def signerBound (chain : Chain) (address : Address) : Binding :=
  ⟨chain, address, .signerBound, ⟨address, .signer⟩⟩

end Binding

/-- What came of a network observation. -/
inductive Verdict where
  | bound
  | unsupportedNetwork
  | disconnected
  | signerUnavailable
  | stale
deriving DecidableEq, Repr

def Verdict.name : Verdict → String
  | .bound => "bound"
  | .unsupportedNetwork => "unsupported_network"
  | .disconnected => "disconnected"
  | .signerUnavailable => "signer_unavailable"
  | .stale => "stale_update_discarded"

/-- The warning that a role's contract is not deployed on the wallet's chain. -/
structure Undeployed where
  role : Role
  chain : Chain
deriving DecidableEq, Repr

def Undeployed.message (warning : Undeployed) : String :=
  s!"{warning.role.name} is not deployed on chain {warning.chain}"

/-- The outcome of an observation with the binding in force afterwards. -/
structure Report where
  status : Verdict
  binding : Binding
  ticket : Ticket
  warning : Option Undeployed
  error : Option Failure
deriving Repr

def Report.canWrite (result : Report) : Bool :=
  result.binding.isSignerBound

end PackageStore
