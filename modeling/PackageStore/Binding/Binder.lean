import PackageStore.Binding.Basic

/-!
Contract: the one active binding of a role, and how network observations change it.

Owns: the binder of a role; the first, read-only binding; and an observation as a sequence of
steps between which the binder may be changed by other observations. An observation may wait for
the wallet's signer and then for the contract handle. It lands only if its ticket is newer than
every ticket that landed before.

Does not own: the wallet and the connector. Their answers are arguments of the steps.
-/

set_option autoImplicit false

namespace PackageStore

/-- What a binder is for: the role, where its contract is deployed, and the public endpoint. -/
structure Site where
  role : Role
  table : Deployments
  rpcUrl : String
deriving Repr

/-- A binder that was initialized. `home` is the default read-only binding, and `signed` the
signer-bound one, which takes its place while it exists. -/
structure Binder where
  site : Site
  mark : Watermark
  home : Binding
  signed : Option Binding
deriving Repr

namespace Binder

/-- The binding in force. -/
def active (binder : Binder) : Binding :=
  binder.signed.getD binder.home

def canWrite (binder : Binder) : Bool :=
  binder.active.isSignerBound

/-- An observation of a deployed chain that has not ended yet. -/
structure Observation where
  chain : Chain
  ticket : Ticket
  address : Address
deriving DecidableEq, Repr

/-- The end of an observation. -/
structure Landing where
  binder : Binder
  report : Report
  log : List LogLine
deriving Repr

/-- What a step of an observation comes to. A pause leaves the binder as it is. -/
inductive Step where
  | ended (landing : Landing)
  | paused (observation : Observation)
deriving Repr

/-- The observation comes too late and changes nothing. -/
def discard (binder : Binder) (ticket : Ticket) (chain : Option Chain) : Landing where
  binder := binder
  report := ⟨.stale, binder.active, ticket, none, none⟩
  log := [⟨.debug, s!"Discarded stale {binder.site.role.name} rebind for chain "
    ++ s!"{Chain.observed chain} (ticket {ticket}, applied {binder.mark.applied})"⟩]

/-- The binder after a ticket landed, with the signer-bound binding that it leads to. -/
def land (binder : Binder) (ticket : Ticket) (signed : Option Binding) : Binder :=
  { binder with mark := binder.mark.present ticket, signed }

/-- The observation calls for the read-only binding. -/
def settleReadOnly (binder : Binder) (ticket : Ticket) (status : Verdict)
    (warning : Option Undeployed) : Landing :=
  if binder.mark.admits ticket then
    let role := binder.site.role.name
    { binder := binder.land ticket none
      report := ⟨status, binder.home, ticket, warning, none⟩
      log :=
        (if binder.signed.isSome then
          [⟨.info, s!"Reverting {role} to read-only binding on chain {binder.home.chain}"⟩]
        else [])
        ++ (warning.map fun warning =>
          ⟨.warning, s!"{warning.message}; write actions disabled for {role}"⟩).toList }
  else binder.discard ticket none

/-- The signer or the contract handle could not be had. -/
def signerFailed (binder : Binder) (observation : Observation) (failure : Failure) : Landing :=
  if binder.mark.admits observation.ticket then
    { binder := binder.land observation.ticket none
      report := ⟨.signerUnavailable, binder.home, observation.ticket, none, some failure⟩
      log := [⟨.error, s!"Could not bind {binder.site.role.name} with signer on chain "
        ++ s!"{observation.chain}, reverted to read-only: {failure.message}"⟩] }
  else binder.discard observation.ticket (some observation.chain)

/-- The chain is bound with the signer already: only the ticket lands. -/
def confirm (binder : Binder) (ticket : Ticket) (chain : Chain) : Landing :=
  if binder.mark.admits ticket then
    { binder := binder.land ticket binder.signed
      report := ⟨.bound, binder.active, ticket, none, none⟩
      log := [] }
  else binder.discard ticket (some chain)

/-- Begins an observation of a chain, `none` for a disconnected wallet. It pauses where the signer
is needed. -/
def observe (binder : Binder) (chain : Option Chain) (ticket : Ticket) : Step :=
  match chain with
  | none => .ended (binder.settleReadOnly ticket .disconnected none)
  | some chain =>
      match binder.site.table.on? chain with
      | none =>
          .ended
            (binder.settleReadOnly ticket .unsupportedNetwork (some ⟨binder.site.role, chain⟩))
      | some address =>
          if binder.signed.any (·.chain == chain) then .ended (binder.confirm ticket chain)
          else .paused ⟨chain, ticket, address⟩

/-- The wallet answered: with its signer, or with a failure. The observation pauses where the
contract handle is needed. -/
def signerAnswered (binder : Binder) (observation : Observation) (failure : Option Failure) :
    Step :=
  match failure with
  | some failure => .ended (binder.signerFailed observation failure)
  | none =>
      if binder.mark.admits observation.ticket then .paused observation
      else .ended (binder.discard observation.ticket (some observation.chain))

/-- The connector answered: with the contract handle, or with a failure. -/
def contractAnswered (binder : Binder) (observation : Observation) (failure : Option Failure) :
    Landing :=
  match failure with
  | some failure => binder.signerFailed observation failure
  | none =>
      if binder.mark.admits observation.ticket then
        let binding := Binding.signerBound observation.chain observation.address
        { binder := binder.land observation.ticket (some binding)
          report := ⟨.bound, binding, observation.ticket, none, none⟩
          log := [⟨.info, s!"Bound {binder.site.role.name} with signer to "
            ++ s!"{observation.address.text} on chain {observation.chain}"⟩] }
      else binder.discard observation.ticket (some observation.chain)

end Binder

/-- The place of a binder, before and after its first initialization. -/
inductive Slot where
  | vacant (site : Site)
  | held (binder : Binder)
deriving Repr

namespace Slot

def site : Slot → Site
  | .vacant site => site
  | .held binder => binder.site

def role (slot : Slot) : Role := slot.site.role

def binder? : Slot → Option Binder
  | .vacant _ => none
  | .held binder => some binder

def canWrite (slot : Slot) : Bool :=
  slot.binder?.any Binder.canWrite

/-- The binder, or the failure that the slot is not initialized. -/
def binder (slot : Slot) : Except Failure Binder :=
  match slot with
  | .held binder => .ok binder
  | .vacant site => .error (.configuration (.notInitialized site.role))

/-- The address of the default binding: the given one, or the deployed one. -/
def homeAddress (slot : Slot) (chain : Chain) (given : Option String) :
    Except Failure Address :=
  match given with
  | none => slot.site.table.require (.int chain)
  | some text =>
      match Address.read text with
      | .ok address => .ok address
      | .error _ => .error (.configuration (.invalidDefault slot.role text chain))

/-- Binds the slot read-only. Later, this replaces the default binding and the one in force. -/
def bindReadOnly (slot : Slot) (chain : Chain) (address : Address) : Binder :=
  { site := slot.site
    mark := (slot.binder?.map Binder.mark).getD .fresh
    home := .readOnly chain address slot.site.rpcUrl
    signed := none }

def boundLine (binder : Binder) : LogLine :=
  ⟨.info, s!"Bound {binder.site.role.name} read-only to {binder.home.address.text} "
    ++ s!"on chain {binder.home.chain}"⟩

end Slot

end PackageStore
