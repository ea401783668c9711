import PackageStore.Proofs.Network.Slots
import PackageStore.Proofs.Network.Visit

/-!
Contract: one network while its dispatches overlap.

Owns: the dispatches of a network in the order of their tickets, the actions that drive them in
whatever order, and what every action keeps: the numbering of the tickets, and the pauses of the
dispatches.

The dispatch of a wallet event waits for its turn with the ticket that it got when the event
arrived. Every dispatch stands still wherever a binder awaits the signer or the connector, and
every other action may come in between. An action that no dispatch waits for changes nothing, so
each list of actions is a run.
-/

set_option autoImplicit false

namespace PackageStore

inductive Observer.Phase (κ : Type) where
  /-- The dispatch has its ticket, and waits for its turn. -/
  | queued
  | running (progress : Progress κ)
  | cancelled

namespace Network

/-! ## Dispatches with their history -/

/-- The dispatch of an observation: how far it has come, and at which roles the signer or the
connector answered it with a failure. -/
structure Dispatch where
  chain : Option Chain
  ticket : Ticket
  refused : List Role
  phase : Observer.Phase Role

namespace Dispatch

/-- The dispatch went on to its end. -/
def Finished (dispatch : Dispatch) : Prop :=
  ∃ reports, dispatch.phase = .running (.ended reports)

instance (dispatch : Dispatch) : Decidable dispatch.Finished :=
  match phase : dispatch.phase with
  | .running (.ended reports) => isTrue ⟨reports, phase⟩
  | .running (.needsSigner _) | .running (.needsContract _) | .queued | .cancelled =>
      isFalse fun ⟨_, ended⟩ => by rw [phase] at ended; cases ended

/-- What a dispatch that pauses still has to do. -/
def rebind? (dispatch : Dispatch) : Option (Observer.Rebind Role) :=
  match dispatch.phase with
  | .running progress => progress.rebind?
  | _ => none

/-- The signer or the connector answered the dispatch at a role. -/
def answered (dispatch : Dispatch) (role : Role) (failure : Option Failure) : Dispatch :=
  { dispatch with
    refused := if failure.isSome then role :: dispatch.refused else dispatch.refused }

/-- How far a dispatch that was not cancelled has come at a role. -/
def place? (dispatch : Dispatch) (role : Role) : Option Observer.Place :=
  match dispatch.phase with
  | .queued => some .ahead
  | .running progress => some (progress.place role)
  | .cancelled => none

end Dispatch

/-! ## Sessions -/

/-- A network with its dispatches, the place of each of which is its number. -/
structure Session where
  network : Network
  dispatches : List Dispatch

namespace Session

def start (network : Network) : Session :=
  ⟨network, []⟩

inductive Action where
  /-- An event of the wallet arrives. -/
  | chainChanged (chain : Option Chain)
  /-- It is the turn of a dispatch that waits for it. -/
  | begin (number : Nat)
  /-- A direct observation. -/
  | observe (chain : Option Chain)
  /-- The signer, or a failure, reaches a dispatch that waits for it. -/
  | signerAnswers (number : Nat) (failure : Option Failure)
  /-- The connector's call for a dispatch returns, or fails. -/
  | connectorAnswers (number : Nat) (failure : Option Failure)
  /-- A dispatch that waits for its turn or for the signer is cancelled. -/
  | cancel (number : Nat)

namespace Action

/-- What is observed, if the action is an observation. -/
def observed : Action → Option (Option Chain)
  | .chainChanged chain => some chain
  | .observe chain => some chain
  | _ => none

/-- Neither the signer nor the connector answers with a failure. -/
def Succeeds : Action → Prop
  | .signerAnswers _ failure => failure = none
  | .connectorAnswers _ failure => failure = none
  | _ => True

end Action

/-- A dispatch gets its ticket. -/
def enqueue (session : Session) (chain : Option Chain) (issued : Ticket × Network) : Session :=
  ⟨issued.2, session.dispatches ++ [⟨chain, issued.1, [], .queued⟩]⟩

/-- Takes over a step of a dispatch. Its end is noticed by the network. -/
def absorb (session : Session) (number : Nat) (dispatch : Dispatch) (step : Step) : Session where
  network := match step.progress with
    | .ended _ => step.network.forget number
    | _ => step.network
  dispatches := session.dispatches.set number { dispatch with phase := .running step.progress }

/-- A dispatch is given up where it stands. -/
def giveUp (session : Session) (number : Nat) (dispatch : Dispatch) : Session where
  network := session.network.forget number
  dispatches := session.dispatches.set number { dispatch with phase := .cancelled }

/-- A dispatch that waited for its turn begins to visit the roles. -/
def begin (session : Session) (number : Nat) : Session :=
  match session.dispatches[number]? with
  | none => session
  | some dispatch =>
      match dispatch.phase with
      | .queued =>
          session.absorb number dispatch
            (session.network.dispatch dispatch.chain dispatch.ticket)
      | _ => session

def signerAnswers (session : Session) (number : Nat) (failure : Option Failure) : Session :=
  match session.dispatches[number]? with
  | none => session
  | some dispatch =>
      match dispatch.phase with
      | .running (.needsSigner rebind) =>
          session.absorb number (dispatch.answered rebind.key failure)
            (session.network.signerAnswered rebind failure)
      | _ => session

def connectorAnswers (session : Session) (number : Nat) (failure : Option Failure) : Session :=
  match session.dispatches[number]? with
  | none => session
  | some dispatch =>
      match dispatch.phase with
      | .running (.needsContract rebind) =>
          session.absorb number (dispatch.answered rebind.key failure)
            (session.network.contractAnswered rebind failure)
      | _ => session

def cancel (session : Session) (number : Nat) : Session :=
  match session.dispatches[number]? with
  | none => session
  | some dispatch =>
      match dispatch.phase with
      | .queued => session.giveUp number dispatch
      | .running (.needsSigner _) => session.giveUp number dispatch
      | _ => session

def act (session : Session) : Action → Session
  | .chainChanged chain =>
      session.enqueue chain (session.network.chainChanged session.dispatches.length)
  | .begin number => session.begin number
  | .observe chain =>
      (session.enqueue chain session.network.issue).begin session.dispatches.length
  | .signerAnswers number failure => session.signerAnswers number failure
  | .connectorAnswers number failure => session.connectorAnswers number failure
  | .cancel number => session.cancel number

/-- Performs actions one after another. -/
def run (session : Session) (actions : List Action) : Session :=
  actions.foldl act session

/-- No dispatch is in flight, and none was cancelled. -/
def AtRest (session : Session) : Prop :=
  ∀ dispatch ∈ session.dispatches, dispatch.Finished

instance (session : Session) : Decidable session.AtRest :=
  inferInstanceAs (Decidable (∀ dispatch ∈ session.dispatches, dispatch.Finished))

/-! ## What an action can do -/

/-- A ticket is drawn, and nothing is done to the binders. -/
structure Issues (network : Network) (issued : Ticket × Network) : Prop where
  ticket : issued.1 = network.counter.last + 1
  counter : issued.2.counter.last = network.counter.last + 1
  binders : ∀ role, issued.2.binder role = network.binder role

theorem issue_issues (network : Network) : Issues network network.issue :=
  ⟨rfl, rfl, fun _ => rfl⟩

theorem chainChanged_issues (network : Network) (task : Nat) :
    Issues network (network.chainChanged task) :=
  ⟨rfl, rfl, fun _ => rfl⟩

/-- A step that a dispatch can take, in which the answer to one role is taken over. -/
structure Advances (network : Network) (dispatch : Dispatch) (answerer : Role)
    (failure : Option Failure) (step : Step) : Prop where
  counter : step.network.counter = network.counter
  fits : ∀ rebind, step.progress.rebind? = some rebind →
    rebind.IsOf dispatch.chain dispatch.ticket
  moves : ∀ role binder, network.binder role = .ok binder →
    ∃ place, dispatch.place? role = some place ∧
      Observer.MovesTo dispatch.chain dispatch.ticket role place binder
        (if answerer = role then failure else none) step.observed

/-- All that an action can do to the dispatches there are: nothing, to bring one of them a step
forward, or to give one up. If the action `succeeds`, it answers with no failure. -/
inductive Change (succeeds : Prop) (session : Session) : Session → Prop where
  | idle : Change succeeds session session
  | advances {number : Nat} {dispatch : Dispatch} {answerer : Role} {failure : Option Failure}
      {step : Step} (known : session.dispatches[number]? = some dispatch)
      (allowed : succeeds → failure = none)
      (advance : Advances session.network dispatch answerer failure step) :
      Change succeeds session (session.absorb number (dispatch.answered answerer failure) step)
  | givesUp {number : Nat} {dispatch : Dispatch}
      (known : session.dispatches[number]? = some dispatch) :
      Change succeeds session (session.giveUp number dispatch)

/-- The tickets are numbered in the order of the dispatches, and every pause is one of the
observation that its dispatch is about. -/
structure Sound (session : Session) : Prop where
  issued : session.network.counter.last = session.dispatches.length
  numbered : ∀ (number : Nat) (dispatch : Dispatch),
    session.dispatches[number]? = some dispatch → dispatch.ticket = number + 1
  fits : ∀ (number : Nat) (dispatch : Dispatch), session.dispatches[number]? = some dispatch →
    ∀ rebind, dispatch.rebind? = some rebind → rebind.IsOf dispatch.chain dispatch.ticket

variable {session : Session}

theorem dispatch_advances {network : Network} {dispatch : Dispatch} {answerer : Role}
    (queued : dispatch.phase = .queued) :
    Advances network dispatch answerer none
      (network.dispatch dispatch.chain dispatch.ticket) := by
  have takes := network.dispatch_takes dispatch.chain dispatch.ticket
  have distinct : network.observer.binders.Nodup := network.slots.distinct
  refine ⟨takes.counter, fun rebind pauses => Observer.visit_isOf distinct [] pauses, ?_⟩
  intro role binder found
  have listed : role ∈ network.observer.binders := mem_roles_of_binder found
  refine ⟨.ahead, by rw [Dispatch.place?, queued], ?_⟩
  rw [takes.observed, ite_self, ← Observer.placeAmong_of_mem listed]
  exact Observer.visit_moves distinct found []

theorem signerAnswered_advances {network : Network} {dispatch : Dispatch}
    {rebind : Observer.Rebind Role} (waits : dispatch.phase = .running (.needsSigner rebind))
    (fits : rebind.IsOf dispatch.chain dispatch.ticket) (failure : Option Failure) :
    Advances network dispatch rebind.key failure (network.signerAnswered rebind failure) := by
  have takes := network.signerAnswered_takes rebind failure
  refine ⟨takes.counter,
    fun later => (Observer.signerAnswered_continues failure).isOf fits, ?_⟩
  intro role binder found
  refine ⟨_, by rw [Dispatch.place?, waits], ?_⟩
  rw [takes.observed]
  exact Observer.signerAnswered_moves fits found failure

theorem contractAnswered_advances {network : Network} {dispatch : Dispatch}
    {rebind : Observer.Rebind Role} (waits : dispatch.phase = .running (.needsContract rebind))
    (fits : rebind.IsOf dispatch.chain dispatch.ticket) (failure : Option Failure) :
    Advances network dispatch rebind.key failure (network.contractAnswered rebind failure) := by
  have takes := network.contractAnswered_takes rebind failure
  refine ⟨takes.counter,
    fun later => (Observer.contractAnswered_continues failure).isOf fits, ?_⟩
  intro role binder found
  refine ⟨_, by rw [Dispatch.place?, waits], ?_⟩
  rw [takes.observed]
  exact Observer.contractAnswered_moves fits found failure

theorem begin_change (succeeds : Prop) (number : Nat) :
    Change succeeds session (session.begin number) := by
  unfold begin
  split
  next => exact .idle
  next dispatch known =>
    split
    next queued =>
      have advance : Advances session.network dispatch default none _ := dispatch_advances queued
      exact .advances known (fun _ => rfl) advance
    next => exact .idle

theorem signerAnswers_change (sound : session.Sound) (number : Nat) (failure : Option Failure) :
    Change (failure = none) session (session.signerAnswers number failure) := by
  unfold signerAnswers
  split
  next => exact .idle
  next dispatch known =>
    split
    next rebind waits =>
      have fits := sound.fits number dispatch known rebind (by rw [Dispatch.rebind?, waits]; rfl)
      exact .advances known id (signerAnswered_advances waits fits failure)
    next => exact .idle

theorem connectorAnswers_change (sound : session.Sound) (number : Nat)
    (failure : Option Failure) :
    Change (failure = none) session (session.connectorAnswers number failure) := by
  unfold connectorAnswers
  split
  next => exact .idle
  next dispatch known =>
    split
    next rebind waits =>
      have fits := sound.fits number dispatch known rebind (by rw [Dispatch.rebind?, waits]; rfl)
      exact .advances known id (contractAnswered_advances waits fits failure)
    next => exact .idle

theorem cancel_change (succeeds : Prop) (number : Nat) :
    Change succeeds session (session.cancel number) := by
  unfold cancel
  split
  next => exact .idle
  next dispatch known =>
    split
    next => exact .givesUp known
    next => exact .givesUp known
    next => exact .idle

/-! ## What every action keeps -/

theorem getElem?_enqueue (session : Session) (chain : Option Chain) (issued : Ticket × Network)
    (number : Nat) :
    (session.enqueue chain issued).dispatches[number]? =
      if number = session.dispatches.length then some ⟨chain, issued.1, [], .queued⟩
      else session.dispatches[number]? := by
  unfold enqueue
  by_cases last : number = session.dispatches.length
  · rw [if_pos last, last, List.getElem?_concat_length]
  · rw [if_neg last]
    rcases Nat.lt_or_gt_of_ne last with before | behind
    · rw [List.getElem?_append_left before]
    · rw [List.getElem?_eq_none (by simp; omega), List.getElem?_eq_none (by omega)]

theorem getElem?_set_known {dispatches : List Dispatch} {number : Nat} {former : Dispatch}
    (known : dispatches[number]? = some former) (later : Dispatch) (other : Nat) :
    (dispatches.set number later)[other]? =
      if number = other then some later else dispatches[other]? := by
  obtain ⟨within, _⟩ := List.getElem?_eq_some_iff.1 known
  rw [List.getElem?_set, if_pos within]

@[simp] theorem binder_absorb (session : Session) (number : Nat) (dispatch : Dispatch)
    (step : Step) (role : Role) :
    (session.absorb number dispatch step).network.binder role = step.network.binder role := by
  unfold absorb
  cases step.progress <;> rfl

@[simp] theorem counter_absorb (session : Session) (number : Nat) (dispatch : Dispatch)
    (step : Step) :
    (session.absorb number dispatch step).network.counter = step.network.counter := by
  unfold absorb
  cases step.progress <;> rfl

theorem Sound.enqueue (sound : session.Sound) (chain : Option Chain)
    {issued : Ticket × Network} (issues : Issues session.network issued) :
    (session.enqueue chain issued).Sound where
  issued := by
    rw [Session.enqueue, issues.counter, sound.issued, List.length_append, List.length_singleton]
  numbered number dispatch known := by
    rw [getElem?_enqueue] at known
    split at known
    next last =>
      cases known
      rw [issues.ticket, sound.issued, last]
    next => exact sound.numbered number dispatch known
  fits number dispatch known := by
    rw [getElem?_enqueue] at known
    split at known
    next =>
      cases known
      intro rebind pauses
      cases pauses
    next => exact sound.fits number dispatch known

/-- One dispatch may be replaced by another one with its ticket. -/
theorem Sound.replace (sound : session.Sound) {number : Nat} {former : Dispatch}
    (known : session.dispatches[number]? = some former) (later : Dispatch)
    (same : later.ticket = former.ticket)
    (fits : ∀ rebind, later.rebind? = some rebind → rebind.IsOf later.chain later.ticket)
    {network : Network} (counter : network.counter = session.network.counter) :
    Sound ⟨network, session.dispatches.set number later⟩ where
  issued := by
    rw [counter, sound.issued, List.length_set]
  numbered other dispatch found := by
    rw [getElem?_set_known known] at found
    split at found
    next here =>
      cases found
      rw [same, ← here]
      exact sound.numbered number former known
    next => exact sound.numbered other dispatch found
  fits other dispatch found := by
    rw [getElem?_set_known known] at found
    split at found
    next =>
      cases found
      exact fits
    next => exact sound.fits other dispatch found

variable {succeeds : Prop} {next : Session}

theorem Change.sound (change : Change succeeds session next) (sound : session.Sound) :
    next.Sound := by
  cases change with
  | idle => exact sound
  | @advances number dispatch answerer failure step known _ advance =>
      refine sound.replace known
        { dispatch.answered answerer failure with phase := .running step.progress } rfl
        advance.fits ?_
      rw [← advance.counter]
      exact counter_absorb session number (dispatch.answered answerer failure) step
  | @givesUp number dispatch known =>
      refine sound.replace known { dispatch with phase := .cancelled } rfl ?_ rfl
      intro rebind pauses
      cases pauses

/-- What holds and is kept where a dispatch gets its ticket and where dispatches change, is kept by
an action. -/
theorem act_keeps {motive : Session → Prop} {action : Action}
    (enqueues : ∀ session chain issued, Issues session.network issued → motive session →
      motive (session.enqueue chain issued))
    (changes : ∀ session next, session.Sound → Change action.Succeeds session next →
      motive session → motive next)
    (sound : session.Sound) (holds : motive session) :
    (session.act action).Sound ∧ motive (session.act action) := by
  have changed : ∀ {former next : Session}, former.Sound → motive former →
      Change action.Succeeds former next → next.Sound ∧ motive next :=
    fun formerSound holds change =>
      ⟨change.sound formerSound, changes _ _ formerSound change holds⟩
  cases action with
  | chainChanged chain =>
      have issues := chainChanged_issues session.network session.dispatches.length
      exact ⟨sound.enqueue chain issues, enqueues _ chain _ issues holds⟩
  | begin number => exact changed sound holds (begin_change _ number)
  | observe chain =>
      have issues := issue_issues session.network
      exact changed (sound.enqueue chain issues) (enqueues _ chain _ issues holds)
        (begin_change _ _)
  | signerAnswers number failure =>
      exact changed sound holds (signerAnswers_change sound number failure)
  | connectorAnswers number failure =>
      exact changed sound holds (connectorAnswers_change sound number failure)
  | cancel number => exact changed sound holds (cancel_change _ number)

theorem act_sound (sound : session.Sound) (action : Action) : (session.act action).Sound :=
  (act_keeps (motive := fun _ => True) (fun _ _ _ _ _ => trivial) (fun _ _ _ _ _ => trivial)
    sound trivial).1

theorem start_sound {network : Network} (fresh : network.counter = .fresh) :
    (start network).Sound where
  issued := by rw [start, fresh]; rfl
  numbered number dispatch known := by cases known
  fits number dispatch known := by cases known

theorem run_keeps {motive : Session → Prop} {actions : List Action}
    (enqueues : ∀ session chain issued, Issues session.network issued → motive session →
      motive (session.enqueue chain issued))
    (changes : ∀ action ∈ actions, ∀ session next, session.Sound →
      Change action.Succeeds session next → motive session → motive next)
    (sound : session.Sound) (initially : motive session) :
    (session.run actions).Sound ∧ motive (session.run actions) := by
  apply List.foldlRecOn (motive := fun session => session.Sound ∧ motive session)
  · exact ⟨sound, initially⟩
  · rintro session ⟨sound, holds⟩ action member
    exact act_keeps enqueues (changes action member) sound holds

theorem run_sound (sound : session.Sound) (actions : List Action) :
    (session.run actions).Sound :=
  (run_keeps (motive := fun _ => True) (fun _ _ _ _ _ => trivial) (fun _ _ _ _ _ _ _ => trivial)
    sound trivial).1

/-! ## The observations of a run -/

theorem chains_set {dispatches : List Dispatch} {number : Nat} {former later : Dispatch}
    (known : dispatches[number]? = some former) (same : later.chain = former.chain) :
    (dispatches.set number later).map Dispatch.chain = dispatches.map Dispatch.chain := by
  obtain ⟨within, found⟩ := List.getElem?_eq_some_iff.1 known
  have mapped : number < (dispatches.map Dispatch.chain).length := by
    rwa [List.length_map]
  rw [List.map_set, same, ← found, ← List.getElem_map Dispatch.chain (h := mapped),
    List.set_getElem_self]

theorem Change.chains (change : Change succeeds session next) :
    next.dispatches.map Dispatch.chain = session.dispatches.map Dispatch.chain := by
  cases change with
  | idle => rfl
  | advances known _ _ => exact chains_set known rfl
  | givesUp known => exact chains_set known rfl

theorem enqueue_chains (chain : Option Chain) (issued : Ticket × Network) :
    (session.enqueue chain issued).dispatches.map Dispatch.chain =
      session.dispatches.map Dispatch.chain ++ [chain] := by
  rw [enqueue, List.map_append, List.map_singleton]

theorem act_chains (sound : session.Sound) (action : Action) :
    (session.act action).dispatches.map Dispatch.chain =
      session.dispatches.map Dispatch.chain ++ action.observed.toList := by
  have kept : ∀ {succeeds : Prop} {next : Session}, Change succeeds session next →
      next.dispatches.map Dispatch.chain = session.dispatches.map Dispatch.chain ++ [] :=
    fun change => change.chains.trans (List.append_nil _).symm
  cases action with
  | chainChanged chain => exact enqueue_chains chain _
  | observe chain => exact (begin_change True _).chains.trans (enqueue_chains chain _)
  | begin number => exact kept (begin_change True number)
  | signerAnswers number failure => exact kept (signerAnswers_change sound number failure)
  | connectorAnswers number failure => exact kept (connectorAnswers_change sound number failure)
  | cancel number => exact kept (cancel_change True number)

/-- The dispatches of a run are about what was observed, in the order of the observations. -/
theorem run_chains (sound : session.Sound) (actions : List Action) :
    (session.run actions).dispatches.map Dispatch.chain =
      session.dispatches.map Dispatch.chain ++ actions.filterMap Action.observed := by
  induction actions generalizing session with
  | nil => exact (List.append_nil _).symm
  | cons action rest inductionHypothesis =>
      rw [run, List.foldl_cons, ← run, inductionHypothesis (act_sound sound action),
        act_chains sound action, List.append_assoc, List.filterMap_cons]
      cases action.observed <;> rfl

end Session

end Network

end PackageStore
