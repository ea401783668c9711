import PackageStore.Registry.Fetch

/-!
Contract: a scripted registry.

Owns: the answers to fetches, of which some are held back until the script releases them.
-/

set_option autoImplicit false

namespace PackageStore.Scenario

/-- What the registry does with a fetch. -/
inductive Response where
  | packages (answer : Except Failure (List Tagged))
  | http (answer : HttpAnswer)
  | gated

/-- A registry: where it is, how many fetches were held back, and the answers of released ones. -/
structure ScriptedRegistry where
  endpoint : Endpoint
  gated : Nat
  released : List (Nat × Response)

namespace ScriptedRegistry

def ofEndpoint (endpoint : Endpoint) : ScriptedRegistry :=
  ⟨endpoint, 0, []⟩

/-- The packages that a response brings, and what fetching logs; `none` for a gated one. -/
def answer (registry : ScriptedRegistry) :
    Response → Option (Except Failure (List Tagged) × List LogLine)
  | .packages answer => some (answer.mapError Failure.leavingCall, [])
  | .http answer =>
      let url := registry.endpoint.url
      let read := Registry.readAnswer url answer
      some (read, Registry.fetchLog url read)
  | .gated => none

/-- Holds a fetch back; answers its number. -/
def hold (registry : ScriptedRegistry) : Nat × ScriptedRegistry :=
  (registry.gated, { registry with gated := registry.gated + 1 })

/-- Settles the answer of a fetch that was held back. -/
def release (registry : ScriptedRegistry) (number : Nat) (response : Response) :
    ScriptedRegistry :=
  { registry with released := (number, response) :: registry.released }

/-- The response of a fetch that was held back. -/
def response (registry : ScriptedRegistry) (number : Nat) : Response :=
  (registry.released.lookup number).getD .gated

end ScriptedRegistry

end PackageStore.Scenario
