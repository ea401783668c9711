import PackageStore.Catalog.Index
import PackageStore.Scenario.Loop
import PackageStore.Scenario.Registry

/-!
Contract: the searchable index over a scripted registry.

Owns: refreshes as tasks, fetches that are held back until the script releases them, and what each
step shows.
-/

set_option autoImplicit false

namespace PackageStore.Scenario.OneCatalog

/-- How a refresh ended. -/
inductive Ending where
  | refreshed (result : RefreshReport)
  | cancelled

structure World where
  catalog : Catalog
  registry : ScriptedRegistry
  log : List LogLine
  /-- The endings of this step, in order. -/
  finished : List (Nat × Ending)

def World.ofEndpoint (endpoint : Endpoint) : World :=
  ⟨.empty, .ofEndpoint endpoint, [], []⟩

/-- What is left of a refresh. -/
inductive Work where
  | fetch (response : Response)
  | await (number : Nat)

namespace World

/-- Completes a refresh. -/
def complete (world : World) (task : Nat) (answer : Except Failure (List Tagged))
    (log : List LogLine) : World :=
  let (catalog, result, lines) := world.catalog.complete answer
  { world with
    catalog
    log := world.log ++ log ++ lines
    finished := world.finished ++ [(task, .refreshed result)] }

def turn (task : Nat) (work : Work) (world : World) : World × Move Work :=
  let response := match work with
    | .fetch response => response
    | .await number => world.registry.response number
  match world.registry.answer response with
  | some (answer, log) => (world.complete task answer log, .done [])
  | none =>
      let (number, registry) := world.registry.hold
      ({ world with registry }, .wait (.gate (.fetch number)) (.await number))

end World

def program : Program World Work where
  turn := World.turn
  cancelled := fun task _ world =>
    { world with finished := world.finished ++ [(task, .cancelled)] }
  settled := fun _ world => world

/-- A step of the script. -/
inductive Step where
  | refresh (response : Response)
  | release (fetch : Nat) (response : Response)
  | cancel (task : Nat)
  | setQuery (query : Option Text)
  | showCollection
  | showView

inductive Answer where
  | nothing
  | task (number : Nat)
  | flag (value : Bool)
  | returnedView
  | shelves (shelves : Shelves)

/-- Performs a step; the loop has not run yet. -/
def perform (loop : Loop World Work) : Step → Loop World Work × Answer
  | .refresh response => (loop.spawn false (.fetch response), .task loop.jobs.length)
  | .release fetch response =>
      let loop := loop.modifyWorld fun world =>
        { world with registry := world.registry.release fetch response }
      (loop.openGate (.fetch fetch), .nothing)
  | .cancel task =>
      let (loop, pending) := loop.cancel task
      (loop, .flag pending)
  | .setQuery query =>
      (loop.modifyWorld fun world => { world with catalog := world.catalog.setQuery query },
        .returnedView)
  | .showCollection => (loop, .shelves loop.world.catalog.shelves)
  | .showView => (loop, .shelves loop.world.catalog.view.shelves)

/-- A step with all that it sets in motion. -/
def step (loop : Loop World Work) (next : Step) : Loop World Work × Answer :=
  let (loop, answer) := perform (loop.modifyWorld ({ · with log := [], finished := [] })) next
  (loop.settle program, answer)

end PackageStore.Scenario.OneCatalog
