import PackageStore.Deployment.Table

/-!
Contract: the deployments known without configuration.

Owns: the built-in table of every role, and the look-up of a role's table among given ones. The
package store itself has no built-in deployment.
-/

set_option autoImplicit false

namespace PackageStore.Deployments

/-- The listing of a role's built-in table. -/
def builtinListing : Role → List (Chain × String)
  | .knsRegistry =>
      [(.sepolia, "0x3807fBD692Aa5c96F1D8D7c59a1346a885F40B1C"),
        (.optimism, "0xca5b5811c0C40aAB3295f932b1B5112Eb7bb4bD6")]
  | .dotOs =>
      [(.sepolia, "0xC5a939923E0B336642024b479502E039338bEd00"),
        (.optimism, "0x66929F55Ea1E38591f9430E5013C92cdC01F6cAd")]
  | .nameWrapper =>
      [(.sepolia, "0x0635513f179D50A207757E05759CbD106d7dFcE8"),
        (.mainnet, "0xD4416b13d2b3a9aBae7AcD5D6C2BbDBE25686401")]
  | .ensRegistry =>
      [(.sepolia, "0x00000000000C2E074eC69A0dFb2997BA6C7d2e1e"),
        (.mainnet, "0x00000000000C2E074eC69A0dFb2997BA6C7d2e1e")]
  | .knsEnsEntry =>
      [(.sepolia, "0xD4583DFd73B382B7e3230aa29Be774C1843FB7d2"),
        (.goerli, "0xD4583DFd73B382B7e3230aa29Be774C1843FB7d2"),
        (.mainnet, "0xa1F47fBBa93574DB4a049C1c5bA03471A21EE01D")]
  | .knsEnsExit =>
      [(.sepolia, "0x528bA1BA3186d8CABD2c4E8758a98fAf64eD8Af0"),
        (.optimism, "0x0b35664aB5950cE92bce7222be165BB575D9b7c5")]
  | .packageStore => []

/-- The addresses of a listing of texts; a text that is no address is left out. -/
def readListing : List (Chain × String) → OrderedMap Chain Address
  | entries => OrderedMap.ofList <| entries.filterMap fun entry =>
      match Address.read entry.2 with
      | .ok address => some (entry.1, address)
      | .error _ => none

def builtin (role : Role) : Deployments :=
  ⟨role, readListing (builtinListing role)⟩

/-- One table per role, in order. -/
abbrev Tables := List (Role × Deployments)

def builtinTables : Tables :=
  Role.all.map fun role => (role, builtin role)

/-- The table of a role among given ones. -/
def ofRole (role : Role) (tables : Tables) : Except Failure Deployments :=
  match tables.find? (·.1 == role) with
  | some (_, table) => .ok table
  | none => .error (.configuration (.noTable role))

/-- The tables with one role's table added or replaced. -/
def withTable (table : Deployments) : Tables → Tables
  | [] => [(table.role, table)]
  | entry :: rest =>
      if entry.1 = table.role then (entry.1, table) :: rest else entry :: withTable table rest

end PackageStore.Deployments
