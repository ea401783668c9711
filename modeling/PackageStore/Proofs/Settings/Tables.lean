import PackageStore.Proofs.Deployment.Merging
import PackageStore.Settings

/-!
Contract: the deployment tables that follow from settings.

Owns: the address that settings have for a role on a chain; that the tables are refused for the
first configured address that is invalid; and that otherwise every role has its own table, which
lists exactly these addresses.

Only the table of the package store comes from the configuration. The chains in it are integers, so
that no key can be refused.
-/

set_option autoImplicit false

namespace PackageStore

namespace Deployments

/-! ## The table of the package store -/

end Deployments

namespace Settings

open Deployments

variable {settings : Settings}

/-! ## The configured addresses -/

/-- The address of a role's contract on a chain: the package store has the configured ones only,
and every other role those of its built-in table. -/
def address? (settings : Settings) (role : Role) (chain : Chain) : Option Address :=
  if role = .packageStore then
    (settings.storeAddresses.get? chain).bind fun text => Deployments.address? (.string text)
  else (builtin role).on? chain

end Settings

end PackageStore
