import PackageStore.Network.Basic

/-!
Contract: the run of one observation over the slots of a network.

Owns: the observer of the slots, whose binders are told apart by their roles; how the slots take
over the binders that it comes to; and the network's own dispatch, which is that of this observer.

Does not own: what a dispatch does at a binder, and who answers for the signer and for the
connectors.
-/

set_option autoImplicit false

namespace PackageStore

namespace Network

/-- The outcome of a dispatch up to its next pause or its end. -/
structure Step where
  network : Network
  progress : Observer.Progress Role
  effects : List Effect

/-- The observer of the slots. -/
def observer (network : Network) : Observer Role :=
  ⟨id, network.roles, network.listeners, network.binder⟩

/-- Slots take over the binders that an observer has. -/
def adopt (network : Network) (observer : Observer Role) : Network :=
  { network with
    slots := network.slots.mapEntries fun role slot =>
      match observer.binder role with
      | .ok binder => .held binder
      | .error _ => slot }

/-- Takes over a step of the observer of the slots. -/
def takeOver (network : Network) (step : Observer.Step Role) : Step :=
  ⟨network.adopt step.observer, step.progress, step.effects⟩

/-- Begins the dispatch of an observation that has its ticket. -/
def dispatch (network : Network) (chain : Option Chain) (ticket : Ticket) : Step :=
  network.takeOver (network.observer.dispatch chain ticket)

/-- Draws a ticket for an observation and begins its dispatch. -/
def observe (network : Network) (chain : Option Chain) : Step :=
  let (ticket, network) := network.issue
  network.dispatch chain ticket

/-- The wallet answered a paused dispatch: with its signer, or with a failure. -/
def signerAnswered (network : Network) (rebind : Observer.Rebind Role)
    (failure : Option Failure) : Step :=
  network.takeOver (network.observer.signerAnswered rebind failure)

/-- The connector answered a paused dispatch: with the contract handle, or with a failure. -/
def contractAnswered (network : Network) (rebind : Observer.Rebind Role)
    (failure : Option Failure) : Step :=
  network.takeOver (network.observer.contractAnswered rebind failure)

end Network

end PackageStore
