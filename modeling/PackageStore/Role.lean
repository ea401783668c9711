/-!
Contract: the contracts that the store talks to, and the chains that are known by name.
-/

set_option autoImplicit false

namespace PackageStore

/-- A chain, by its number. -/
abbrev Chain := Int

namespace Chain

def mainnet : Chain := 1
def goerli : Chain := 5
def optimism : Chain := 10
def sepolia : Chain := 11155111

/-- The spelling of an observed chain in messages. -/
def observed : Option Chain → String
  | some chain => toString chain
  | none => "None"

end Chain

/-- What a contract is for. -/
inductive Role where
  | knsRegistry
  | dotOs
  | nameWrapper
  | ensRegistry
  | knsEnsEntry
  | knsEnsExit
  | packageStore
deriving DecidableEq, Repr, Inhabited

namespace Role

def all : List Role :=
  [.knsRegistry, .dotOs, .nameWrapper, .ensRegistry, .knsEnsEntry, .knsEnsExit, .packageStore]

def name : Role → String
  | .knsRegistry => "kns_registry"
  | .dotOs => "dot_os"
  | .nameWrapper => "namewrapper"
  | .ensRegistry => "ens_registry"
  | .knsEnsEntry => "kns_ens_entry"
  | .knsEnsExit => "kns_ens_exit"
  | .packageStore => "package_store"

def ofName? (name : String) : Option Role :=
  all.find? (·.name == name)

end Role

end PackageStore
