import PackageStore.Proofs.Client.Frame

/-!
Contract: one client while its calls overlap.

Owns: the tasks of a client, the actions that drive them in whatever order, and the lemma that says
all that an action can do.

A task stands still while the wallet is asked for its chain or for its signer, while a connector
builds a contract handle, and while the client shuts down what it owns; the dispatch of a wallet
event also waits for its turn. Every other action may come in between. An action that no task waits
for changes nothing, so each list of actions is a run.
-/

set_option autoImplicit false

namespace PackageStore.Client

/-! ## Tasks -/

/-- The purpose of an observation that is under way. -/
def Progress.purpose? : Progress → Option Purpose
  | .needsSigner _ purpose => some purpose
  | .needsContract _ purpose => some purpose
  | .ended _ => none

theorem absorb_purpose (client : Client) (purpose : Purpose) (step : Network.Step) :
    (client.absorb purpose step).progress.purpose? = none ∨
      (client.absorb purpose step).progress.purpose? = some purpose := by
  unfold absorb
  cases step.progress with
  | ended reports => exact .inl rfl
  | needsSigner rebind => exact .inr rfl
  | needsContract rebind => exact .inr rfl

inductive Task where
  /-- The dispatch of a wallet event, which has its ticket, waits for its turn. -/
  | queued (chain : Option Chain) (ticket : Ticket)
  /-- A start waits for the wallet's chain. -/
  | asksChain
  /-- A close waits for what the client owns to be shut down. -/
  | closing
  | running (progress : Progress)
  | cancelled

namespace Task

/-- A dispatch of a wallet event that has not come to its end. -/
def isEvent : Task → Bool
  | .queued _ _ => true
  | .running progress => progress.purpose? == some .event
  | _ => false

/-- A start, or a direct observation, that has not come to its end. -/
def isDirect : Task → Bool
  | .asksChain => true
  | .running progress => progress.purpose?.any (· != .event)
  | _ => false

def isOver : Task → Bool
  | .running progress => progress.purpose?.isNone
  | .cancelled => true
  | _ => false

/-- What a cancellation makes of a task. -/
def struck (task : Task) : Task :=
  if task.isOver then task else .cancelled

/-- A task that came out of another one is of no other kind, unless it has ended. -/
structure Continues (before after : Task) : Prop where
  event : after.isEvent = true → before.isEvent = true
  direct : after.isDirect = true → before.isDirect = true

theorem Continues.refl (task : Task) : task.Continues task :=
  ⟨id, id⟩

theorem Continues.of_isOver (before : Task) {after : Task} (ended : after.isOver = true) :
    before.Continues after := by
  cases after with
  | running progress =>
      cases progress with
      | ended outcome => exact ⟨nofun, nofun⟩
      | needsSigner | needsContract => cases ended
  | cancelled => exact ⟨nofun, nofun⟩
  | queued | asksChain | closing => cases ended

theorem struck_isOver (task : Task) : task.struck.isOver = true := by
  unfold struck
  split
  next ended => exact ended
  next => rfl

theorem isEvent_of_isOver {task : Task} (ended : task.isOver = true) : task.isEvent = false := by
  cases event : task.isEvent with
  | false => rfl
  | true => exact absurd ((Continues.of_isOver .cancelled ended).event event) nofun

end Task

/-! ## Sessions -/

/-- A client with its tasks, the place of each of which is its number. -/
structure Session where
  client : Client
  tasks : List Task

namespace Session

def start (client : Client) : Session :=
  ⟨client, []⟩

inductive Action where
  /-- A start is called. The connectors and, if the client owns its wallet, the provider answer. -/
  | start (connect : Role → Option Failure) (baseline : Reading)
  /-- The wallet's chain reaches a start that waits for it. -/
  | chainRead (number : Nat) (current : Reading)
  /-- A direct observation. -/
  | observe (chain : Option Chain)
  | close
  /-- What the client owns has been shut down. -/
  | closed (number : Nat)
  /-- An injected wallet calls its subscribers. -/
  | announce (chain : Option Chain)
  /-- An owned wallet goes through a round of polling. -/
  | poll (reading : Reading)
  /-- It is the turn of a dispatch that waits for it. -/
  | begin (number : Nat)
  /-- The signer, or a failure, reaches an observation that waits for it. -/
  | signerAnswers (number : Nat) (failure : Option Failure)
  /-- The connector's call for an observation returns, or fails. -/
  | connectorAnswers (number : Nat) (failure : Option Failure)
  | cancel (number : Nat)
  /-- The end of a task is noticed. -/
  | settle (number : Nat)
  /-- An owned wallet sets up its signer. -/
  | readySigner (accounts : Except Failure (List String))
  | listen (refusal : Report → Option Failure)
  | setQuery (query : Option String)
  /-- The registry answers a refresh. -/
  | refreshed (answer : Except Failure (List Tagged))

namespace Action

/-- A start or a direct observation is called. -/
def isCall : Action → Bool
  | .start _ _ => true
  | .observe _ => true
  | _ => false

/-- The number of the observation that the action answers. -/
def answered? : Action → Option Nat
  | .chainRead number _ => some number
  | .begin number => some number
  | .signerAnswers number _ => some number
  | .connectorAnswers number _ => some number
  | _ => none

end Action

/-- A task is added, after some change of the client. -/
def spawn (session : Session) (client : Client) (task : Task) : Session :=
  ⟨client, session.tasks ++ [task]⟩

/-- Takes over a step of a task. -/
def absorb (session : Session) (number : Nat) (step : Step) : Session :=
  ⟨step.client, session.tasks.set number (.running step.progress)⟩

def callStart (session : Session) (connect : Role → Option Failure) (baseline : Reading) :
    Session :=
  if session.client.started then session.spawn session.client (.running (.ended .nothing))
  else
    let bound := session.client.bindRoles connect
    let client := { session.client with network := bound.network }
    match bound.failure with
    | some failure => session.spawn client (.running (.ended (.failed failure.leavingCall)))
    | none => session.spawn (client.goLive baseline).1 .asksChain

def chainRead (session : Session) (number : Nat) (current : Reading) : Session :=
  match session.tasks[number]? with
  | some .asksChain => session.absorb number (session.client.applyChain current)
  | _ => session

def callObserve (session : Session) (chain : Option Chain) : Session :=
  let step := session.client.observe chain .request
  session.spawn step.client (.running step.progress)

/-- A close is called: the dispatches in flight are given up at once. -/
def callClose (session : Session) : Session :=
  let (given, client) := session.client.abandon
  let tasks := session.tasks.mapIdx fun number task =>
    if number ∈ given then task.struck else task
  spawn ⟨session.client, tasks⟩ client .closing

def closed (session : Session) (number : Nat) : Session :=
  match session.tasks[number]? with
  | some .closing =>
      ⟨session.client.shutDown.1, session.tasks.set number (.running (.ended .nothing))⟩
  | _ => session

/-- The wallet calls subscribers about a chain: each call starts a dispatch. -/
def callEach (chain : Option Chain) : List Subscriber → Session → Session
  | [], session => session
  | .network :: rest, session =>
      let (ticket, client) := session.client.chainChanged session.tasks.length
      callEach chain rest (session.spawn client (.queued chain ticket))

def announce (session : Session) (chain : Option Chain) : Session :=
  match session.client.wallet with
  | .injected subscribers => callEach chain subscribers.callbacks session
  | .owned _ => session

def poll (session : Session) (reading : Reading) : Session :=
  match session.client.wallet with
  | .injected _ => session
  | .owned wallet =>
      let round := wallet.poll reading
      callEach round.chain round.calls
        { session with client := { session.client with wallet := .owned round.wallet } }

def begin (session : Session) (number : Nat) : Session :=
  match session.tasks[number]? with
  | some (.queued chain ticket) => session.absorb number (session.client.dispatch chain ticket)
  | _ => session

def signerAnswers (session : Session) (number : Nat) (failure : Option Failure) : Session :=
  match session.tasks[number]? with
  | some (.running (.needsSigner rebind purpose)) =>
      session.absorb number (session.client.signerAnswered rebind purpose failure)
  | _ => session

def connectorAnswers (session : Session) (number : Nat) (failure : Option Failure) : Session :=
  match session.tasks[number]? with
  | some (.running (.needsContract rebind purpose)) =>
      session.absorb number (session.client.contractAnswered rebind purpose failure)
  | _ => session

def cancel (session : Session) (number : Nat) : Session :=
  { session with tasks := session.tasks.modify number Task.struck }

def settle (session : Session) (number : Nat) : Session :=
  match session.tasks[number]? with
  | some task =>
      if task.isOver then
        let client := { session.client with network := session.client.network.forget number }
        { session with client }
      else session
  | none => session

def readySigner (session : Session) (accounts : Except Failure (List String)) : Session :=
  match session.client.wallet with
  | .injected _ => session
  | .owned wallet =>
      { session with
        client := { session.client with wallet := .owned (wallet.signer accounts).1 } }

def act (session : Session) : Action → Session
  | .start connect baseline => session.callStart connect baseline
  | .chainRead number current => session.chainRead number current
  | .observe chain => session.callObserve chain
  | .close => session.callClose
  | .closed number => session.closed number
  | .announce chain => session.announce chain
  | .poll reading => session.poll reading
  | .begin number => session.begin number
  | .signerAnswers number failure => session.signerAnswers number failure
  | .connectorAnswers number failure => session.connectorAnswers number failure
  | .cancel number => session.cancel number
  | .settle number => session.settle number
  | .readySigner accounts => session.readySigner accounts
  | .listen refusal =>
      { session with
        client := { session.client with network := session.client.network.listen refusal } }
  | .setQuery query => { session with client := session.client.setQuery query }
  | .refreshed answer =>
      { session with
        client := { session.client with catalog := (session.client.catalog.complete answer).1 } }

/-- Performs actions one after another. -/
def run (session : Session) (actions : List Action) : Session :=
  actions.foldl act session

/-! ## Calls without interruption -/

theorem getElem?_spawn_last (session : Session) (client : Client) (task : Task) :
    (session.spawn client task).tasks[session.tasks.length]? = some task :=
  List.getElem?_concat_length

theorem getElem?_spawn {session : Session} {client : Client} {task found : Task} {number : Nat}
    (known : (session.spawn client task).tasks[number]? = some found) :
    session.tasks[number]? = some found ∨ number = session.tasks.length ∧ found = task := by
  rw [spawn, List.getElem?_append] at known
  split at known
  next => exact .inl known
  next outside =>
    obtain ⟨within, rfl⟩ := List.getElem?_eq_some_iff.1 known
    have last : number - session.tasks.length = 0 := Nat.lt_one_iff.1 within
    exact .inr ⟨by omega, by simp [last]⟩

/-- A close that is not interrupted does what the close of the client does. -/
theorem callClose_closed (session : Session) :
    (session.callClose.closed session.tasks.length).client = session.client.close.2.1 := by
  have last : session.callClose.tasks[session.tasks.length]? = some .closing := by
    unfold callClose
    dsimp only
    rw [← List.length_mapIdx]
    exact getElem?_spawn_last ⟨session.client, _⟩ _ _
  rw [closed, last]
  rfl

/-! ## What an action can do -/

/-- Tasks that came out of others, place by place. -/
def Continue (before after : List Task) : Prop :=
  ∀ (number : Nat) (later : Task), after[number]? = some later →
    ∃ former, before[number]? = some former ∧ Task.Continues former later

theorem Continue.refl (tasks : List Task) : Continue tasks tasks :=
  fun _ later known => ⟨later, known, .refl later⟩

theorem Continue.set {tasks : List Task} {number : Nat} {former later : Task}
    (known : tasks[number]? = some former) (continues : former.Continues later) :
    Continue tasks (tasks.set number later) := by
  intro other task found
  rw [List.getElem?_set] at found
  split at found
  next same =>
    subst same
    split at found
    · cases found
      exact ⟨former, known, continues⟩
    · cases found
  next => exact ⟨task, found, .refl task⟩

theorem Continue.modify (tasks : List Task) (number : Nat) :
    Continue tasks (tasks.modify number Task.struck) := by
  intro other task found
  rw [List.getElem?_modify] at found
  obtain ⟨former, known, rfl⟩ := Option.map_eq_some_iff.1 found
  refine ⟨former, known, ?_⟩
  split
  · exact .of_isOver former former.struck_isOver
  · exact .refl former

/-- All that an action can do: to let tasks end and to change what no binding depends on; to notice
the end of a task; to bring an observation that is under way a step forward; to let the wallet
call its subscribers; to call for an observation; or to close. -/
inductive Change (action : Action) (session : Session) : Session → Prop where
  | aside {client : Client} {tasks : List Task} (slots : client.network.slots =
        session.client.network.slots) (wiring : client.wiring = session.client.wiring)
      (continued : Continue session.tasks tasks) : Change action session ⟨client, tasks⟩
  | settles {number : Nat} {task : Task} (known : session.tasks[number]? = some task)
      (ended : task.isOver = true) :
      Change action session
        (let client := { session.client with network := session.client.network.forget number }
        { session with client })
  | advances {number : Nat} {former : Task} {step : Step}
      (answers : action.answered? = some number)
      (known : session.tasks[number]? = some former)
      (underWay : former.isEvent = true ∨ former.isDirect = true)
      (continues : former.Continues (.running step.progress))
      (wiring : step.client.wiring = session.client.wiring) :
      Change action session (session.absorb number step)
  | announces {client : Client} (chain : Option Chain)
      (slots : client.network.slots = session.client.network.slots)
      (wiring : client.wiring = session.client.wiring) :
      Change action session
        (callEach chain session.client.wiring.callbacks { session with client })
  | calls {client : Client} {task : Task} (isCall : action.isCall = true)
      (event : task.isEvent = false)
      (wired : session.client.wiring.Tied →
        client.wiring.Tied ∧ client.wiring.inFlight = session.client.wiring.inFlight) :
      Change action session (session.spawn client task)
  | closes : Change action session session.callClose

theorem Change.idle {action : Action} (session : Session) : Change action session session :=
  .aside rfl rfl (.refl session.tasks)

variable {session : Session}

/-- A step with a purpose leads on to one with the same purpose, or to an end. -/
theorem absorb_continues (client : Client) {purpose : Purpose} (step : Network.Step) {task : Task}
    (event : purpose = .event → task.isEvent = true)
    (direct : purpose ≠ .event → task.isDirect = true) :
    task.Continues (.running (client.absorb purpose step).progress) := by
  rcases absorb_purpose client purpose step with ended | goesOn
  · exact .of_isOver task (by rw [Task.isOver, ended]; rfl)
  · refine ⟨fun isEvent => event ?_, fun isDirect => direct ?_⟩
    · rw [Task.isEvent, goesOn] at isEvent
      simpa using isEvent
    · rw [Task.isDirect, goesOn] at isDirect
      simpa using isDirect

/-- The same with the kinds of the purpose. -/
theorem absorb_advances {action : Action} {number : Nat} {task : Task} {purpose : Purpose}
    {step : Network.Step} (answers : action.answered? = some number)
    (known : session.tasks[number]? = some task)
    (event : purpose = .event → task.isEvent = true)
    (direct : purpose ≠ .event → task.isDirect = true)
    (wiring : (session.client.absorb purpose step).client.wiring = session.client.wiring) :
    Change action session (session.absorb number (session.client.absorb purpose step)) := by
  refine .advances answers known ?_ (absorb_continues session.client step event direct) wiring
  by_cases same : purpose = .event
  · exact .inl (event same)
  · exact .inr (direct same)

theorem begin_change (number : Nat) :
    Change (.begin number) session (session.begin number) := by
  unfold begin
  split
  next chain ticket known =>
    exact absorb_advances rfl known (fun _ => rfl) (fun other => absurd rfl other)
      (session.client.dispatch_wiring chain ticket)
  next => exact .idle session

theorem signerAnswers_change (number : Nat) (failure : Option Failure) :
    Change (.signerAnswers number failure) session (session.signerAnswers number failure) := by
  unfold signerAnswers
  split
  next rebind purpose known =>
    refine absorb_advances rfl known ?_ ?_
      (session.client.signerAnswered_wiring rebind purpose failure)
    · rintro rfl
      rfl
    · intro other
      simpa [Task.isDirect, Progress.purpose?] using other
  next => exact .idle session

theorem connectorAnswers_change (number : Nat) (failure : Option Failure) :
    Change (.connectorAnswers number failure) session
      (session.connectorAnswers number failure) := by
  unfold connectorAnswers
  split
  next rebind purpose known =>
    refine absorb_advances rfl known ?_ ?_
      (session.client.contractAnswered_wiring rebind purpose failure)
    · rintro rfl
      rfl
    · intro other
      simpa [Task.isDirect, Progress.purpose?] using other
  next => exact .idle session

theorem chainRead_change (number : Nat) (current : Reading) :
    Change (.chainRead number current) session (session.chainRead number current) := by
  unfold chainRead
  split
  next known =>
    unfold applyChain
    dsimp only
    split
    · exact .advances rfl known (.inr rfl) (.of_isOver _ rfl) rfl
    · exact .advances rfl known (.inr rfl) (.of_isOver _ rfl) rfl
    · next chain _ =>
        exact .advances rfl known (.inr rfl)
          (absorb_continues session.client _ nofun fun _ => rfl)
          (session.client.observe_wiring (some chain) (.startup chain))
  next => exact .idle session

theorem callStart_change (connect : Role → Option Failure) (baseline : Reading) :
    Change (.start connect baseline) session (session.callStart connect baseline) := by
  unfold callStart
  split
  · exact .calls rfl rfl fun tied => ⟨tied, rfl⟩
  · have wiring := session.client.bindRoles_wiring connect
    have inFlight := congrArg Wiring.inFlight wiring
    dsimp only
    split
    · exact .calls rfl rfl fun tied => ⟨wiring ▸ tied, inFlight⟩
    · refine .calls rfl rfl fun tied => ?_
      rw [goLive_wiring _ (wiring ▸ tied) baseline]
      exact ⟨rfl, inFlight⟩

theorem callObserve_change (chain : Option Chain) :
    Change (.observe chain) session (session.callObserve chain) := by
  have wiring := session.client.observe_wiring chain .request
  have direct : Task.asksChain.Continues
      (.running (session.client.observe chain .request).progress) :=
    absorb_continues session.client _ nofun fun _ => rfl
  have notEvent : (Task.running (session.client.observe chain .request).progress).isEvent = false :=
    Bool.eq_false_iff.2 fun event => nomatch direct.event event
  exact .calls rfl notEvent fun tied => ⟨wiring ▸ tied, congrArg Wiring.inFlight wiring⟩

theorem closed_change (number : Nat) : Change (.closed number) session (session.closed number) := by
  unfold closed
  split
  next known =>
    exact .aside rfl session.client.shutDown_wiring (.set known (.of_isOver _ rfl))
  next => exact .idle session

theorem announce_change (chain : Option Chain) :
    Change (.announce chain) session (session.announce chain) := by
  unfold announce
  split
  next subscribers injected =>
    have callbacks : session.client.wiring.callbacks = subscribers.callbacks := by
      rw [wiring, injected]
      rfl
    rw [← callbacks]
    exact .announces chain rfl rfl
  next => exact .idle session

theorem poll_change (reading : Reading) :
    Change (.poll reading) session (session.poll reading) := by
  unfold poll
  split
  next => exact .idle session
  next wallet owned =>
    have subscribers : wallet.subscribers = session.client.wallet.subscribers := by
      rw [owned]
      rfl
    have polled : ({ session.client with wallet := .owned (wallet.poll reading).wallet } :
        Client).wiring = session.client.wiring := by
      rw [wiring, wiring, ← subscribers, WalletLink.subscribers, wallet.poll_subscribers]
    dsimp only
    -- The subscribers are read before the round and called after it; the round changes none.
    rcases wallet.poll_calls reading with none | all
    · rw [none]
      exact .aside rfl polled (.refl session.tasks)
    · rw [all, subscribers]
      exact .announces _ rfl polled

theorem settle_change (number : Nat) : Change (.settle number) session (session.settle number) := by
  unfold settle
  split
  next task known =>
    split
    next ended => exact .settles known ended
    next => exact .idle session
  next => exact .idle session

theorem readySigner_change (accounts : Except Failure (List String)) :
    Change (.readySigner accounts) session (session.readySigner accounts) := by
  unfold readySigner
  split
  next => exact .idle session
  next wallet owned =>
    refine .aside rfl ?_ (.refl session.tasks)
    rw [wiring, wiring, owned, WalletLink.subscribers, wallet.signer_subscribers]
    rfl

theorem act_change (session : Session) (action : Action) :
    Change action session (session.act action) := by
  cases action with
  | start connect baseline => exact callStart_change connect baseline
  | chainRead number current => exact chainRead_change number current
  | observe chain => exact callObserve_change chain
  | close => exact .closes
  | closed number => exact closed_change number
  | announce chain => exact announce_change chain
  | poll reading => exact poll_change reading
  | begin number => exact begin_change number
  | signerAnswers number failure => exact signerAnswers_change number failure
  | connectorAnswers number failure => exact connectorAnswers_change number failure
  | cancel number => exact .aside rfl rfl (.modify session.tasks number)
  | settle number => exact settle_change number
  | readySigner accounts => exact readySigner_change accounts
  | listen refusal => exact .aside rfl rfl (.refl session.tasks)
  | setQuery query => exact .aside rfl rfl (.refl session.tasks)
  | refreshed answer => exact .aside rfl rfl (.refl session.tasks)

end Session

end PackageStore.Client
