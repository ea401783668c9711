import PackageStore.Failure
import PackageStore.OrderedMap

/-!
Contract: where a contract is deployed.

Owns: the table of one role, one checked address per chain; building a table from a listing,
look-up by key, and merging further entries in.

Building checks every entry as it comes. Merging converts all keys first, lets the last entry of a
chain win over the table and over earlier entries, and builds a table from what is left, so that the
texts of the table's own addresses are checked and read again.
-/

set_option autoImplicit false

namespace PackageStore

/-- The deployments of one role's contract, in the order in which chains were first named. -/
structure Deployments where
  role : Role
  addresses : OrderedMap Chain Address
deriving Repr

namespace Deployments

/-- A listing as it is handed over: any keys, any values. -/
abbrev Listing := List (ChainKey × Json)

def empty (role : Role) : Deployments :=
  ⟨role, .empty⟩

/-- The chain of a key, or the failure to report for the role's table. -/
def chainOf (role : Role) (key : ChainKey) : Except Failure Chain :=
  match key.chain with
  | .ok chain => .ok chain
  | .error .notAChain => .error (ConfigurationFault.invalidChain role key).raised
  | .error .unbounded => .error .unboundedChain

/-- The address that a listed value stands for on a chain. A value is checked first and read
afterwards. -/
def addressOf (role : Role) (chain : Chain) (value : Json) : Except Failure Address :=
  match value.text? with
  | some text =>
      if Address.isValid text then (Address.read text).mapError .badAddress
      else .error (ConfigurationFault.invalidAddress role value chain).raised
  | none => .error (ConfigurationFault.invalidAddress role value chain).raised

/-- Adds listed entries one after another. -/
def addEntries (role : Role) (addresses : OrderedMap Chain Address) :
    Listing → Except Failure (OrderedMap Chain Address)
  | [] => .ok addresses
  | (key, value) :: rest =>
      match chainOf role key with
      | .error failure => .error failure
      | .ok chain =>
          match addressOf role chain value with
          | .error failure => .error failure
          | .ok address => addEntries role (addresses.insert chain address) rest

/-- The table of a listing. -/
def ofListing (role : Role) (entries : Listing) : Except Failure Deployments :=
  match addEntries role .empty entries with
  | .ok addresses => .ok ⟨role, addresses⟩
  | .error failure => .error failure

/-- The addresses of a table as values of a listing. -/
def texts (table : Deployments) : OrderedMap Chain Json :=
  table.addresses.mapValues fun address => .text address.text

/-- The listing of values under chains. -/
def listed (values : OrderedMap Chain Json) : Listing :=
  values.entries.map fun entry => (.int entry.1, entry.2)

/-- The listing of a table's own entries. -/
def items (table : Deployments) : Listing :=
  listed table.texts

/-- Converts the keys of further entries and lays their values over others. -/
def overlay (role : Role) (values : OrderedMap Chain Json) :
    Listing → Except Failure (OrderedMap Chain Json)
  | [] => .ok values
  | (key, value) :: rest =>
      match chainOf role key with
      | .error failure => .error failure
      | .ok chain => overlay role (values.insert chain value) rest

/-- The table with further entries added or overridden. -/
def merged (table : Deployments) (entries : Listing) : Except Failure Deployments :=
  match overlay table.role table.texts entries with
  | .error failure => .error failure
  | .ok combined => ofListing table.role (listed combined)

/-- The address on a chain. -/
def on? (table : Deployments) (chain : Chain) : Option Address :=
  table.addresses.get? chain

/-- The address under a key that is equal to a chain. -/
def at? (table : Deployments) (key : ChainKey) : Option Address :=
  (table.addresses.entries.find? fun entry => key.denotes entry.1).map Prod.snd

/-- The address under a key, or the failure that no such entry exists. -/
def get (table : Deployments) (key : ChainKey) : Except Failure Address :=
  match table.at? key with
  | some address => .ok address
  | none => .error (.noEntry key)

/-- The address under a key that has to be deployed. -/
def require (table : Deployments) (key : ChainKey) : Except Failure Address :=
  match table.at? key with
  | some address => .ok address
  | none => .error (ConfigurationFault.missingAddress table.role key).raised

/-- Whether two tables list the same deployments, whatever their roles and order. -/
def agrees (left right : Deployments) : Bool :=
  left.addresses.sameEntries right.addresses

/-- The table on one line. -/
def shown (table : Deployments) : String :=
  let entries := table.addresses.entries.map fun entry =>
    s!"{entry.1}: {Text.quoted entry.2.text}"
  s!"AddressTable({table.role.name}, \x7b" ++ String.intercalate ", " entries ++ "\x7d)"

end Deployments

end PackageStore
