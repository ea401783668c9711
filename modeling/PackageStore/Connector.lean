import PackageStore.Binding.Basic

/-!
Contract: building contract handles.

Owns: the read-only endpoints that were made so far, one per URL, and the handle of a contract at
an address, which takes a description of its interface.
-/

set_option autoImplicit false

namespace PackageStore

/-- The endpoints made so far, in order. -/
structure Connector where
  urls : List String
deriving DecidableEq, Repr, Inhabited

namespace Connector

def empty : Connector := ⟨[]⟩

/-- The endpoint for a URL, by its number; a new one is made at most once. -/
def endpoint (connector : Connector) (url : String) : Nat × Connector × List LogLine :=
  match connector.urls.findIdx? (· == url) with
  | some number => (number, connector, [])
  | none =>
      (connector.urls.length, ⟨connector.urls ++ [url]⟩,
        [⟨.info, s!"Created read-only provider for {url}"⟩])

/-- The handle of the contract at an address that is given as text, with the entries of its
interface. The address is read first. -/
def connect (interface : Json) (address : String) (runner : Runner) :
    Except Failure (Contract × List Json) :=
  match Address.read address with
  | .error fault => .error (.badAddress fault)
  | .ok address =>
      match Abi.read interface with
      | .error fault => .error (.badInterface fault)
      | .ok entries => .ok (⟨address, runner⟩, entries)

end Connector

end PackageStore
