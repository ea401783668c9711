import PackageStore.Client.Basic
import PackageStore.Connector
import PackageStore.Scenario.Loop
import PackageStore.Scenario.Provider
import PackageStore.Scenario.Registry

/-!
Contract: one client under scripted collaborators.

Owns: an injected wallet whose signer can be held back, or a polled wallet over a scripted
provider; connectors that can be made to fail; the client's calls as tasks; and what each step
shows.
-/

set_option autoImplicit false

namespace PackageStore.Scenario.OneClient

/-- How a task ended. -/
inductive Ending where
  | nothing
  | reported (reports : List (Role × Report))
  | refreshed (result : RefreshReport)
  | failed (failure : Failure)
  | cancelled

structure World where
  client : Client
  /-- What an injected wallet answers. -/
  chain : Option Chain
  chainFailure : Option Failure
  gates : SignerGates
  signerFailure : Option Failure
  signerCalls : Nat
  /-- The provider behind an owned wallet. -/
  provider : Provider
  connectFailures : List (Role × Option Failure)
  connectors : OrderedMap Role Connector
  /-- The role of each contract handle that was built. -/
  connections : List Role
  registry : ScriptedRegistry
  /-- The tasks that the script refers to, by their number in the loop. -/
  tasks : List Nat
  log : List LogLine
  /-- What listeners were told in this step. -/
  events : List (Nat × Report)
  /-- The endings of this step, in order. -/
  finished : List (Nat × Ending)

def World.ofClient (client : Client) (chain : Option Chain) (provider : Provider) : World where
  client := client
  chain := chain
  chainFailure := none
  gates := .none
  signerFailure := none
  signerCalls := 0
  provider := provider
  connectFailures := []
  connectors := .empty
  connections := []
  registry :=
    .ofEndpoint (if client.wallet.isOwned then client.endpoint else ⟨"http://node.test", "/apps"⟩)
  tasks := []
  log := []
  events := []
  finished := []

/-- What is left of a task. -/
inductive Work where
  | start
  | close
  | drain
  | observe (chain : Option Chain)
  | dispatch (chain : Option Chain) (ticket : Ticket)
  | awaitSigner (rebind : Observer.Rebind Role) (purpose : Client.Purpose)
  | refresh (response : Response)
  | awaitFetch (number : Nat)

namespace World

/-- Reports the ending of a task that the script refers to. -/
def report (world : World) (task : Nat) (ending : Ending) : World :=
  match world.tasks.findIdx? (· == task) with
  | some number => { world with finished := world.finished ++ [(number, ending)] }
  | none => world

def write (world : World) (lines : List LogLine) : World :=
  { world with log := world.log ++ lines }

/-- Takes over one effect. Only the connectors of an owning client log what they do. -/
def absorb (world : World) : Effect → World
  | .logged line => world.write [line]
  | .told listener report => { world with events := world.events ++ [(listener, report)] }
  | .connected role => { world with connections := world.connections ++ [role] }
  | .provided role url =>
      if world.client.wallet.isOwned then
        let connector := (world.connectors.get? role).getD .empty
        let (_, connector, lines) := connector.endpoint url
        { world with connectors := world.connectors.insert role connector }.write lines
      else world

/-- What the connector of a role is told to do. -/
def connectAnswer (world : World) (role : Role) : Option Failure :=
  (world.connectFailures.lookup role).join

/-- What the wallet answers to the question for its chain. -/
def reading (world : World) : Reading :=
  if world.client.wallet.isOwned then world.provider.reading
  else
    match world.chainFailure with
    | some failure => .error failure
    | none => .ok world.chain

/-- How the wallet takes the question for its signer. -/
inductive SignerReply where
  | held (gate : Nat)
  | answered (failure : Option Failure)

/-- Asks the wallet for its signer. -/
def askSigner (world : World) : World × SignerReply :=
  match world.client.wallet with
  | .injected _ =>
      let (held, gates) := world.gates.take
      let world := { world with gates, signerCalls := world.signerCalls + 1 }
      match held with
      | some gate => (world, .held gate)
      | none => (world, .answered world.signerFailure)
  | .owned wallet =>
      let (wallet, answer, lines) := wallet.signer world.provider.accountsAnswer
      let client := { world.client with wallet := .owned wallet }
      ({ world with client }.write lines,
        match answer with
        | .ok _ => .answered none
        | .error failure => .answered (some failure))

/-- Goes on after a step of the client as long as the collaborators answer at once. Each role ahead
is asked about at most twice. -/
def goOn (task : Nat) : Nat → World → Client.Step → World × Move Work
  | 0, world, _ => (world, .done [])
  | fuel + 1, world, step =>
      let world := step.effects.foldl absorb { world with client := step.client }
      match step.progress with
      | .ended .nothing => (world.report task .nothing, .done [])
      | .ended (.reported reports) => (world.report task (.reported reports), .done [])
      | .ended (.failed failure) => (world.report task (.failed failure), .done [])
      | .needsSigner rebind purpose =>
          match world.askSigner with
          | (world, .held gate) =>
              (world, .wait (.gate (.signer gate)) (.awaitSigner rebind purpose))
          | (world, .answered failure) =>
              goOn task fuel world (world.client.signerAnswered rebind purpose failure)
      | .needsContract rebind purpose =>
          goOn task fuel world
            (world.client.contractAnswered rebind purpose (world.connectAnswer rebind.key))

/-- Goes on to the next pause or to the end. -/
def proceed (task : Nat) (world : World) (step : Client.Step) : World × Move Work :=
  goOn task (2 * step.client.network.slots.size + 2) world step

/-- A response reaches a refresh. A closed registry connection answers nothing any more. -/
def fetch (task : Nat) (world : World) (response : Response) : World × Move Work :=
  let response :=
    if world.client.registryClosed then .http (.raised Registry.closedFailure) else response
  match world.registry.answer response with
  | none =>
      let (number, registry) := world.registry.hold
      ({ world with registry }, .wait (.gate (.fetch number)) (.awaitFetch number))
  | some (answer, fetched) =>
      let (catalog, result, completed) := world.client.catalog.complete answer
      let client := { world.client with catalog }
      (({ world with client }.write (fetched ++ completed)).report task (.refreshed result),
        .done [])

def turn (task : Nat) (work : Work) (world : World) : World × Move Work :=
  match work with
  | .start =>
      let answers := ⟨world.connectAnswer, world.reading, world.reading⟩
      world.proceed task (world.client.start answers)
  | .close =>
      let (others, client, lines) := world.client.close
      (({ world with client }.write lines).report task .nothing, .done others)
  | .drain =>
      match world.client.network.inFlight with
      | [] => (world.report task .nothing, .done [])
      | tasks => (world, .wait (.group tasks) .drain)
  | .observe chain => world.proceed task (world.client.observe chain .request)
  | .dispatch chain ticket => world.proceed task (world.client.dispatch chain ticket)
  | .awaitSigner rebind purpose =>
      world.proceed task (world.client.signerAnswered rebind purpose world.signerFailure)
  | .refresh response => world.fetch task response
  | .awaitFetch number => world.fetch task (world.registry.response number)

/-- The end of a dispatch in flight is noticed. -/
def forget (world : World) (task : Nat) : World :=
  let client := { world.client with network := world.client.network.forget task }
  { world with client }

end World

def program : Program World Work where
  turn := World.turn
  cancelled := fun task _ world => world.report task .cancelled
  settled := fun task world => world.forget task

/-- A step of the script. -/
inductive Step where
  | begin (work : Work)
  | cancel (task : Nat)
  | subscribe
  | switch (chains : List (Option Chain))
  | setChain (chain : Option Chain)
  | failChain (failure : Option Failure)
  | hold
  | release (gate : Nat)
  | failSigner (failure : Option Failure)
  | failConnect (role : Role) (failure : Option Failure)
  | releaseFetch (fetch : Nat) (response : Response)
  | setProvider (change : Provider → Provider)
  | poll
  | listen (broken : Bool)
  | binding (role : Role)
  | canWrite (role : Role)
  | setQuery (query : Option Text)
  | showView

/-- What a step answers. -/
inductive Answer where
  | nothing
  | task (number : Nat)
  | number (number : Nat)
  | flag (value : Bool)
  | chain (chain : Option Chain)
  | binding (binding : Binding)
  | shelves (shelves : Shelves)
  | failed (failure : Failure)

/-- The wallet calls its subscribers about a chain: each call starts a dispatch. -/
def announce (chain : Option Chain) :
    List Subscriber → Loop World Work → Loop World Work
  | [], loop => loop
  | .network :: rest, loop =>
      let (ticket, client) := loop.world.client.chainChanged loop.jobs.length
      announce chain rest
        ((loop.modifyWorld ({ · with client })).spawn true (.dispatch chain ticket))

/-- An injected wallet changes its chain several times. -/
def switch : List (Option Chain) → Loop World Work → Loop World Work
  | [], loop => loop
  | chain :: rest, loop =>
      let loop := loop.modifyWorld ({ · with chain })
      switch rest (announce chain loop.world.client.wallet.subscribers.callbacks loop)

/-- A round of polling of an owned wallet. -/
def poll (loop : Loop World Work) : Loop World Work × Answer :=
  match loop.world.client.wallet with
  | .injected _ => (loop, .nothing)
  | .owned wallet =>
      let round := wallet.poll loop.world.provider.reading
      let loop := loop.modifyWorld fun world =>
        let client := { world.client with wallet := .owned round.wallet }
        { world with client }.write round.log
      (announce round.chain round.calls loop, .chain round.chain)

/-- Performs a step; the loop has not run yet. -/
def perform (loop : Loop World Work) : Step → Loop World Work × Answer
  | .begin work =>
      let loop := loop.modifyWorld fun world =>
        { world with tasks := world.tasks ++ [loop.jobs.length] }
      (loop.spawn false work, .task (loop.world.tasks.length - 1))
  | .cancel task =>
      match loop.world.tasks[task]? with
      | none => (loop, .flag false)
      | some task =>
          let (loop, pending) := loop.cancel task
          (loop, .flag pending)
  | .subscribe =>
      (loop.modifyWorld fun world =>
        let (client, lines) := world.client.subscribe
        { world with client }.write lines, .nothing)
  | .switch chains => (switch chains loop, .nothing)
  | .setChain chain => (loop.modifyWorld ({ · with chain }), .nothing)
  | .failChain failure => (loop.modifyWorld ({ · with chainFailure := failure }), .nothing)
  | .hold =>
      let (number, gates) := loop.world.gates.add
      (loop.modifyWorld ({ · with gates }), .number number)
  | .release gate =>
      let gates := loop.world.gates.openOne gate
      ((loop.modifyWorld ({ · with gates })).openGate (.signer gate), .nothing)
  | .failSigner failure =>
      let signerFailure := failure.map Failure.leavingCall
      (loop.modifyWorld ({ · with signerFailure }), .nothing)
  | .failConnect role failure =>
      (loop.modifyWorld fun world =>
        { world with connectFailures := (role, failure) :: world.connectFailures }, .nothing)
  | .releaseFetch fetch response =>
      ((loop.modifyWorld fun world =>
        { world with registry := world.registry.release fetch response }).openGate (.fetch fetch),
        .nothing)
  | .setProvider change =>
      (loop.modifyWorld fun world => { world with provider := change world.provider }, .nothing)
  | .poll => poll loop
  | .listen broken =>
      (loop.modifyWorld fun world =>
        let number := world.client.network.listeners.length
        let refusal (_ : Report) : Option Failure :=
          if broken then some (.raised "RuntimeError" s!"listener {number} failed") else none
        let client := { world.client with network := world.client.network.listen refusal }
        { world with client }, .nothing)
  | .binding role =>
      match loop.world.client.binding role with
      | .ok binding => (loop, .binding binding)
      | .error failure => (loop, .failed failure)
  | .canWrite role => (loop, .flag (loop.world.client.canWrite role))
  | .setQuery query =>
      let client := loop.world.client.setQuery query
      (loop.modifyWorld ({ · with client }), .shelves client.catalog.view.shelves)
  | .showView => (loop, .shelves loop.world.client.catalog.view.shelves)

/-- The loop at the beginning of a step, which shows nothing yet. -/
def quiet (loop : Loop World Work) : Loop World Work :=
  loop.modifyWorld ({ · with log := [], events := [], finished := [] })

/-- A step that does nothing: the loop runs. -/
def idle (loop : Loop World Work) : Loop World Work :=
  (quiet loop).settle program

/-- A step with all that it sets in motion, unless the loop is not to run yet. -/
def step (loop : Loop World Work) (next : Step) (settle : Bool) : Loop World Work × Answer :=
  let (loop, answer) := perform (quiet loop) next
  (if settle then loop.settle program else loop, answer)

end PackageStore.Scenario.OneClient
