import PackageStore.Network.Observer

/-!
Contract: the slots that follow the wallet's network.

Owns: one slot for each role, the counter that all observations draw their tickets from, the
listeners, whether the network is subscribed to the wallet, and which dispatches of wallet events
are in flight.

Does not own: the run of a dispatch over the slots.
-/

set_option autoImplicit false

namespace PackageStore

/-- The slots by role. `inFlight` holds the tasks of the dispatches that wallet events started. -/
structure Network where
  slots : OrderedMap Role Slot
  counter : Counter
  listeners : List Listener
  subscribed : Bool
  inFlight : List Nat

namespace Network

/-- A network over a slot for each site. Of two sites of one role the later one counts. -/
def ofSites (sites : List Site) : Network where
  slots := .ofList (sites.map fun site => (site.role, .vacant site))
  counter := .fresh
  listeners := []
  subscribed := false
  inFlight := []

def roles (network : Network) : List Role :=
  network.slots.keys

/-- The binder of a role, or the failure that it is missing or not initialized. -/
def binder (network : Network) (role : Role) : Except Failure Binder :=
  match network.slots.get? role with
  | none => .error (.configuration (.noBinder role))
  | some slot => slot.binder

def canWrite (network : Network) (role : Role) : Bool :=
  (network.slots.get? role).any Slot.canWrite

/-- Puts a binder into the slot of a role. -/
def hold (network : Network) (role : Role) (binder : Binder) : Network :=
  { network with slots := network.slots.insert role (.held binder) }

@[simp] theorem binder_hold_self (network : Network) (role : Role) (binder : Binder) :
    (network.hold role binder).binder role = .ok binder := by
  simp [Network.binder, hold, OrderedMap.get?_insert, Slot.binder]

theorem binder_hold_of_ne (network : Network) {role other : Role} (binder : Binder)
    (different : other ≠ role) :
    (network.hold other binder).binder role = network.binder role := by
  simp [Network.binder, hold, OrderedMap.get?_insert, different]

theorem mem_roles_of_binder {network : Network} {role : Role} {binder : Binder}
    (known : network.binder role = .ok binder) : role ∈ network.roles := by
  cases found : network.slots.get? role with
  | none => simp [Network.binder, found] at known
  | some slot => exact OrderedMap.mem_keys_of_get? found

/-- Adds a listener, which is told from now on. -/
def listen (network : Network) (refusal : Report → Option Failure) : Network :=
  { network with listeners := network.listeners ++ [⟨network.listeners.length, refusal⟩] }

/-- Draws the ticket of an observation. -/
def issue (network : Network) : Ticket × Network :=
  let (ticket, counter) := network.counter.issue
  (ticket, { network with counter })

/-! ## The subscription and the dispatches in flight -/

/-- A subscription begins, unless there is one. -/
def subscribe (network : Network) : Network × List LogLine :=
  if network.subscribed then (network, [])
  else ({ network with subscribed := true },
    [⟨.info, s!"Observing wallet network for {network.slots.size} contract(s)"⟩])

/-- A wallet event arrives: it gets its ticket at once, and its dispatch is a task in flight. -/
def chainChanged (network : Network) (task : Nat) : Ticket × Network :=
  let (ticket, network) := network.issue
  (ticket, { network with inFlight := network.inFlight ++ [task] })

/-- The end of a dispatch in flight is noticed. -/
def forget (network : Network) (task : Nat) : Network :=
  { network with inFlight := network.inFlight.erase task }

/-- The subscription ends and the dispatches in flight are given up; answers which ones. -/
def abandon (network : Network) : List Nat × Network :=
  (network.inFlight, { network with subscribed := false, inFlight := [] })

end Network

end PackageStore
