import PackageStore.Proofs.Network.Observing

/-!
Contract: a session of a network is one of the observer of its slots.

Owns: the session of the observer that a session of a network stands for; and that every action and
every run is that of this session, so that what holds of the runs of all observers holds of those of
all networks.

Does not own: which dispatches are noted as in flight, and which answers were failures.
-/

set_option autoImplicit false

namespace PackageStore.Network

def Dispatch.observed (dispatch : Dispatch) : Observer.Dispatch Role :=
  ⟨dispatch.chain, dispatch.ticket, dispatch.phase⟩

namespace Session

/-- The session of the observer, with what its listeners were told. -/
def observed (session : Session) (told : List (Nat × Nat × Report)) : Observer.Session Role :=
  ⟨session.network.observer, session.network.counter, session.dispatches.map Dispatch.observed,
    told⟩

variable {session : Session} {told : List (Nat × Nat × Report)}

theorem getElem?_observed (session : Session) (told : List (Nat × Nat × Report)) (number : Nat) :
    (session.observed told).dispatches[number]? =
      (session.dispatches[number]?).map Dispatch.observed :=
  List.getElem?_map

theorem enqueue_observed (session : Session) (chain : Option Chain) {issued : Ticket × Network}
    (draws : issued.1 = session.network.counter.issue.1)
    (counter : issued.2.counter = session.network.counter.issue.2)
    (same : issued.2.observer = session.network.observer) :
    (session.enqueue chain issued).observed told = (session.observed told).enqueue chain := by
  simp only [enqueue, observed, Observer.Session.enqueue, draws, counter, same, List.map_append,
    List.map_singleton]
  rfl

theorem observer_absorb (session : Session) (number : Nat) (dispatch : Dispatch) (step : Step) :
    (session.absorb number dispatch step).network.observer = step.network.observer := by
  rw [absorb]
  cases step.progress <;> rfl

variable {number : Nat} {dispatch : Dispatch} {answer : Observer.Answer}

/-- A step of the observer that the network takes over is taken over alike by the dispatch. -/
theorem absorb_observed {answered : Dispatch} {own : Observer.Step Role} {step : Step}
    (known : session.dispatches[number]? = some dispatch)
    (takes : session.network.Takes own step) (same : answered.observed = dispatch.observed)
    (goesOn : dispatch.observed.next? session.network.observer answer = some own) :
    ∃ later, (session.absorb number answered step).observed later =
      (session.observed told).advance number answer := by
  have advances : (session.observed told).advance number answer =
      (session.observed told).absorb number dispatch.observed step.observed := by
    rw [Observer.Session.advance, getElem?_observed, known, Option.map_some, takes.observed]
    simp only [observed, goesOn]
  refine ⟨((session.observed told).advance number answer).told, ?_⟩
  rw [advances, observed, observer_absorb, counter_absorb, takes.counter]
  simp only [absorb, Observer.Session.absorb, List.map_set, ← same]
  rfl

/-- An answer to a dispatch that does not exist changes nothing. -/
theorem unknown_observed (unknown : session.dispatches[number]? = none) :
    ∃ later, session.observed later = (session.observed told).advance number answer := by
  refine ⟨told, ?_⟩
  rw [Observer.Session.advance, getElem?_observed, unknown]
  rfl

/-- An answer that the dispatch does not wait for changes nothing. -/
theorem idle_observed (known : session.dispatches[number]? = some dispatch)
    (waits : dispatch.observed.next? session.network.observer answer = none) :
    ∃ later, session.observed later = (session.observed told).advance number answer := by
  refine ⟨told, ?_⟩
  rw [Observer.Session.advance, getElem?_observed, known, Option.map_some]
  simp only [observed, waits]

theorem begin_observed (session : Session) (number : Nat) :
    ∃ later, (session.begin number).observed later =
      (session.observed told).advance number .turn := by
  unfold begin
  split
  next unknown => exact unknown_observed unknown
  next dispatch known =>
    split
    next queued =>
      apply absorb_observed known (session.network.dispatch_takes dispatch.chain dispatch.ticket)
      · rfl
      · simp only [Observer.Dispatch.next?, Dispatch.observed, queued]
    next waits =>
      apply idle_observed known
      simp only [Observer.Dispatch.next?, Dispatch.observed]

theorem signerAnswers_observed (session : Session) (number : Nat) (failure : Option Failure) :
    ∃ later, (session.signerAnswers number failure).observed later =
      (session.observed told).advance number (.signer failure) := by
  unfold signerAnswers
  split
  next unknown => exact unknown_observed unknown
  next dispatch known =>
    split
    next rebind needs =>
      apply absorb_observed known (session.network.signerAnswered_takes rebind failure)
      · rfl
      · simp only [Observer.Dispatch.next?, Dispatch.observed, needs]
    next waits =>
      apply idle_observed known
      simp only [Observer.Dispatch.next?, Dispatch.observed]

theorem connectorAnswers_observed (session : Session) (number : Nat) (failure : Option Failure) :
    ∃ later, (session.connectorAnswers number failure).observed later =
      (session.observed told).advance number (.connector failure) := by
  unfold connectorAnswers
  split
  next unknown => exact unknown_observed unknown
  next dispatch known =>
    split
    next rebind needs =>
      apply absorb_observed known (session.network.contractAnswered_takes rebind failure)
      · rfl
      · simp only [Observer.Dispatch.next?, Dispatch.observed, needs]
    next waits =>
      apply idle_observed known
      simp only [Observer.Dispatch.next?, Dispatch.observed]

theorem cancel_observed (session : Session) (number : Nat) :
    (session.cancel number).observed told = (session.observed told).cancel number := by
  rw [cancel, Observer.Session.cancel, getElem?_observed]
  cases session.dispatches[number]? with
  | none => rfl
  | some dispatch =>
      obtain ⟨chain, ticket, refused, phase⟩ := dispatch
      have givenUp : ∀ dispatch : Dispatch, (session.giveUp number dispatch).observed told =
          { session.observed told with
            dispatches := (session.observed told).dispatches.set number
              { dispatch.observed with phase := .cancelled } } := by
        intro dispatch
        simp only [observed, giveUp, List.map_set]
        rfl
      cases phase with
      | queued => exact givenUp _
      | cancelled => rfl
      | running progress =>
          cases progress with
          | needsSigner rebind => exact givenUp _
          | needsContract rebind => rfl
          | ended reports => rfl

/-- Every action of a network's session is that of the observer of its slots. -/
theorem act_observed (session : Session) (told : List (Nat × Nat × Report)) (action : Action) :
    ∃ later, (session.act action).observed later = (session.observed told).act action := by
  cases action with
  | chainChanged chain => exact ⟨told, session.enqueue_observed chain rfl rfl rfl⟩
  | begin number => exact session.begin_observed number
  | observe chain =>
      have enqueued : (session.enqueue chain session.network.issue).observed told =
          (session.observed told).enqueue chain := session.enqueue_observed chain rfl rfl rfl
      have numbers : (session.observed told).dispatches.length = session.dispatches.length :=
        List.length_map ..
      rw [act, Observer.Session.act, ← enqueued, numbers]
      exact begin_observed _ _
  | signerAnswers number failure => exact session.signerAnswers_observed number failure
  | connectorAnswers number failure => exact session.connectorAnswers_observed number failure
  | cancel number => exact ⟨told, session.cancel_observed number⟩

/-- Every run over a network is one of the observer of its slots. -/
theorem run_observed (session : Session) (told : List (Nat × Nat × Report))
    (actions : List Action) :
    ∃ later, (session.run actions).observed later = (session.observed told).run actions := by
  induction actions generalizing session told with
  | nil => exact ⟨told, rfl⟩
  | cons action rest inductionHypothesis =>
      obtain ⟨next, same⟩ := session.act_observed told action
      rw [Observer.Session.run, List.foldl_cons, ← same]
      exact inductionHypothesis (session.act action) next

end Session

end PackageStore.Network
