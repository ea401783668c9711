import PackageStore.Binding.Binder
import PackageStore.Scenario.Loop

/-!
Contract: one binder under scripted collaborators.

Owns: the script's steps, a wallet whose signer can be held back or made to fail, a connector that
can be made to fail or to run another observation inside its call, and what each step shows.
-/

set_option autoImplicit false

namespace PackageStore.Scenario.OneBinder

/-- How a task or an inner observation ended. -/
inductive Ending where
  | report (report : Report)
  | failed (failure : Failure)
  | cancelled

structure World where
  slot : Slot
  counter : Counter
  gates : SignerGates
  signerFailure : Option Failure
  connectFailure : Option Failure
  /-- The observation that the next connector call runs inside. -/
  hook : Option (Option Chain × Option Ticket)
  signerCalls : Nat
  providers : Nat
  connections : Nat
  log : List LogLine
  /-- The endings of this step in order; `none` names an inner observation. -/
  finished : List (Option Nat × Ending)

def World.ofSite (site : Site) : World where
  slot := .vacant site
  counter := .fresh
  gates := .none
  signerFailure := none
  connectFailure := none
  hook := none
  signerCalls := 0
  providers := 0
  connections := 0
  log := []
  finished := []

namespace World

def report (world : World) (who : Option Nat) (ending : Ending) : World :=
  { world with finished := world.finished ++ [(who, ending)] }

/-- Takes over the end of an observation. -/
def absorb (world : World) (landing : Binder.Landing) : World :=
  { world with slot := .held landing.binder, log := world.log ++ landing.log }

/-- The ticket of an observation: the given one, or a fresh one. -/
def draw (world : World) (ticket : Option Ticket) : Ticket × World :=
  match ticket with
  | some ticket => (ticket, world)
  | none =>
      let (ticket, counter) := world.counter.issue
      (ticket, { world with counter })

/-- Counts a connector call that succeeded. -/
def countConnection (world : World) : World :=
  if world.connectFailure.isNone then { world with connections := world.connections + 1 }
  else world

/-- An observation that runs to its end at once, with the signer's and the connector's answers as
scripted. -/
def observeAtOnce (world : World) (chain : Option Chain) (ticket : Option Ticket) :
    World × Except Failure Report :=
  match world.slot.binder with
  | .error failure => (world, .error failure)
  | .ok binder =>
      let (ticket, world) := world.draw ticket
      match binder.observe chain ticket with
      | .ended landing => (world.absorb landing, .ok landing.report)
      | .paused observation =>
          let world := { world with signerCalls := world.signerCalls + 1 }
          match binder.signerAnswered observation world.signerFailure with
          | .ended landing => (world.absorb landing, .ok landing.report)
          | .paused observation =>
              let landing := binder.contractAnswered observation world.connectFailure
              (world.countConnection.absorb landing, .ok landing.report)

/-- A connector call: the inner observation first, then the scripted answer. -/
def connect (world : World) : World × Option Failure :=
  match world.hook with
  | none => (world.countConnection, world.connectFailure)
  | some (chain, ticket) =>
      let (world, ending) := observeAtOnce { world with hook := none } chain ticket
      match ending with
      | .error failure => (world, some failure)
      | .ok result =>
          let world := world.report none (.report result)
          (world.countConnection, world.connectFailure)

end World

/-- What is left of an observation. -/
inductive Work where
  | begin (chain : Option Chain) (ticket : Option Ticket)
  | awaitSigner (observation : Binder.Observation)

namespace World

/-- An observation of a task ends. -/
def finish (world : World) (task : Nat) (landing : Binder.Landing) : World :=
  (world.absorb landing).report (some task) (.report landing.report)

/-- The connector is asked for the contract of an observation. -/
def awaitContract (world : World) (task : Nat) (observation : Binder.Observation) : World :=
  let (world, failure) := world.connect
  match world.slot.binder with
  | .error failure => world.report (some task) (.failed failure)
  | .ok binder => world.finish task (binder.contractAnswered observation failure)

/-- The signer answered an observation. -/
def signerAnswered (world : World) (task : Nat) (observation : Binder.Observation) : World :=
  match world.slot.binder with
  | .error failure => world.report (some task) (.failed failure)
  | .ok binder =>
      match binder.signerAnswered observation world.signerFailure with
      | .ended landing => world.finish task landing
      | .paused observation => world.awaitContract task observation

/-- One turn of an observation. -/
def turn (task : Nat) (work : Work) (world : World) : World × Move Work :=
  match work with
  | .awaitSigner observation => (world.signerAnswered task observation, .done [])
  | .begin chain ticket =>
      match world.slot.binder with
      | .error failure => (world.report (some task) (.failed failure), .done [])
      | .ok binder =>
          let (ticket, world) := world.draw ticket
          match binder.observe chain ticket with
          | .ended landing => (world.finish task landing, .done [])
          | .paused observation =>
              let (held, gates) := world.gates.take
              let world := { world with signerCalls := world.signerCalls + 1, gates }
              match held with
              | some number => (world, .wait (.gate (.signer number)) (.awaitSigner observation))
              | none => (world.signerAnswered task observation, .done [])

end World

def program : Program World Work where
  turn := World.turn
  cancelled := fun task _ world => world.report (some task) .cancelled
  settled := fun _ world => world

/-- A step of the script. -/
inductive Step where
  | bindReadOnly (chain : Chain) (address : Option String)
  | observe (chain : Option Chain) (ticket : Option Ticket)
  | issue
  | binding
  | cancel (task : Nat)
  | hold
  | release (gate : Nat)
  | failSigner (failure : Option Failure)
  | failConnect (failure : Option Failure)
  | hookConnect (chain : Option Chain) (ticket : Option Ticket)

/-- What a step answers. -/
inductive Answer where
  | nothing
  | task (number : Nat)
  | binding (binding : Binding)
  | ticket (ticket : Ticket)
  | number (number : Nat)
  | flag (value : Bool)
  | failed (failure : Failure)

/-- The read-only binding is made: its address first, then the endpoint and the contract. -/
def bindReadOnly (world : World) (chain : Chain) (given : Option String) : World × Answer :=
  match world.slot.homeAddress chain given with
  | .error failure => (world, .failed failure)
  | .ok address =>
      let (world, failure) := { world with providers := world.providers + 1 }.connect
      match failure with
      | some failure => (world, .failed failure)
      | none =>
          let binder := world.slot.bindReadOnly chain address
          ({ world with
              slot := .held binder
              log := world.log ++ [Slot.boundLine binder] }, .binding binder.active)

/-- Performs a step; the loop has not run yet. -/
def perform (loop : Loop World Work) : Step → Loop World Work × Answer
  | .bindReadOnly chain address =>
      let (world, answer) := bindReadOnly loop.world chain address
      ({ loop with world }, answer)
  | .observe chain ticket =>
      (loop.spawn false (.begin chain ticket), .task loop.jobs.length)
  | .issue =>
      let (ticket, counter) := loop.world.counter.issue
      (loop.modifyWorld ({ · with counter }), .ticket ticket)
  | .binding =>
      match loop.world.slot.binder with
      | .ok binder => (loop, .binding binder.active)
      | .error failure => (loop, .failed failure)
  | .cancel task =>
      let (loop, pending) := loop.cancel task
      (loop, .flag pending)
  | .hold =>
      let (number, gates) := loop.world.gates.add
      (loop.modifyWorld ({ · with gates }), .number number)
  | .release gate =>
      let gates := loop.world.gates.openOne gate
      ((loop.modifyWorld ({ · with gates })).openGate (.signer gate), .nothing)
  | .failSigner failure =>
      let signerFailure := failure.map Failure.leavingCall
      (loop.modifyWorld ({ · with signerFailure }), .nothing)
  | .failConnect failure => (loop.modifyWorld ({ · with connectFailure := failure }), .nothing)
  | .hookConnect chain ticket =>
      (loop.modifyWorld ({ · with hook := some (chain, ticket) }), .nothing)

/-- A step with all that it sets in motion: the answer, and the world with the step's own log and
endings. -/
def step (loop : Loop World Work) (next : Step) : Loop World Work × Answer :=
  let (loop, answer) := perform (loop.modifyWorld ({ · with log := [], finished := [] })) next
  (loop.settle program, answer)

end PackageStore.Scenario.OneBinder
