import Mathlib.Data.List.Induction
import PackageStore.Proofs.Binding.Session

/-!
Contract: the answers that reach an observation.

Owns: which observation an action is about; that it leaves all others alone; where an answer brings
the observation that waits for it; and that an observation is noted as failed exactly if the signer
or the connector answered it with a failure while it waited for the answer.

Does not own: what an answer does to the binder.
-/

set_option autoImplicit false

namespace PackageStore.Binder.Session

/-- The observation that an action is about. -/
def Action.name? : Action → Option Nat
  | .observe name _ _ => some name
  | .signerAnswers name _ => some name
  | .connectorAnswers name _ => some name
  | .cancel name => some name
  | .issue => none

/-- The failure that the signer or the connector answers with. -/
def Action.failure? : Action → Option Failure
  | .signerAnswers _ failure => failure
  | .connectorAnswers _ failure => failure
  | _ => none

variable {session : Session} {name : Nat}

theorem absorb_elsewhere (session : Session) {name other : Nat} (different : name ≠ other)
    (chain : Option Chain) (ticket : Ticket) (failure : Option Failure)
    (paused : Observation → Stage) (step : Step) :
    (session.absorb name chain ticket failure paused step).sightings.get? other =
      session.sightings.get? other := by
  cases step with
  | ended landing =>
      rw [absorb, get?_record, if_neg different]
  | paused observation =>
      rw [absorb, get?_record, if_neg different]

/-- An action leaves the observations alone that it is not about. -/
theorem act_elsewhere (session : Session) {action : Action} {other : Nat}
    (different : action.name? ≠ some other) :
    (session.act action).sightings.get? other = session.sightings.get? other := by
  cases action with
  | observe name chain given =>
      have apart : name ≠ other := fun same => different (congrArg some same)
      simp only [act, observe]
      split
      next => rfl
      next => exact absorb_elsewhere _ apart chain _ none _ _
  | signerAnswers name failure =>
      have apart : name ≠ other := fun same => different (congrArg some same)
      simp only [act, signerAnswers]
      split
      next => exact absorb_elsewhere _ apart _ _ failure _ _
      next => rfl
  | connectorAnswers name failure =>
      have apart : name ≠ other := fun same => different (congrArg some same)
      simp only [act, connectorAnswers]
      split
      next => exact absorb_elsewhere _ apart _ _ failure _ _
      next => rfl
  | cancel name =>
      have apart : name ≠ other := fun same => different (congrArg some same)
      simp only [act, cancel]
      split
      next => rw [get?_record, if_neg apart]
      next => rfl
  | issue => rfl

/-! ## Where an answer brings an observation -/

/-- A step of an observation that is taken over brings it to where it pauses, or to its end. -/
theorem absorb_stage (session : Session) (name : Nat) (chain : Option Chain) (ticket : Ticket)
    (failure : Option Failure) (paused : Observation → Stage) (step : Step) :
    ∃ stage, (session.absorb name chain ticket failure paused step).sightings.get? name =
        some ⟨chain, ticket, stage⟩ ∧
      ((∃ observation, step = .paused observation ∧ stage = paused observation) ∨
        ∃ report, stage = .ended failure report) := by
  cases step with
  | ended landing =>
      refine ⟨_, ?_, .inr ⟨landing.report, rfl⟩⟩
      rw [absorb, get?_record, if_pos rfl]
  | paused observation =>
      refine ⟨_, ?_, .inl ⟨observation, rfl, rfl⟩⟩
      rw [absorb, get?_record, if_pos rfl]

/-! ## Failures -/

/-- The action answers an observation of the name that waits for just this answer. -/
inductive Awaited (session : Session) (name : Nat) : Action → Prop where
  | signer {chain : Option Chain} {ticket : Ticket} {observation : Observation}
      (waits : session.sightings.get? name = some ⟨chain, ticket, .awaitsSigner observation⟩)
      (failure : Option Failure) : Awaited session name (.signerAnswers name failure)
  | connector {chain : Option Chain} {ticket : Ticket} {observation : Observation}
      (waits : session.sightings.get? name = some ⟨chain, ticket, .awaitsContract observation⟩)
      (failure : Option Failure) : Awaited session name (.connectorAnswers name failure)

/-- The action brings an observation the failure of the signer, or of the connector, that it waits
for. -/
def BringsFailure (session : Session) (name : Nat) (action : Action) : Prop :=
  session.Awaited name action ∧ action.failure?.isSome = true

/-- One of the actions, performed in turn, brought an observation a failure. -/
def MetFailure (first : Session) (actions : List Action) (name : Nat) : Prop :=
  ∃ earlier action later, actions = earlier ++ action :: later ∧
    (first.run earlier).BringsFailure name action

/-- An observation of the name is noted as failed. -/
def Failed (session : Session) (name : Nat) : Prop :=
  ∃ sighting, session.sightings.get? name = some sighting ∧ sighting.failed = true

theorem failed_iff_of_known {sighting : Sighting}
    (known : session.sightings.get? name = some sighting) :
    session.Failed name ↔ sighting.failed = true := by
  simp [Failed, known]

/-- The failure that comes with a step is noted where the step ends the observation. -/
theorem failed_absorb_iff (session : Session) (name : Nat) (chain : Option Chain) (ticket : Ticket)
    (failure : Option Failure) {paused : Observation → Stage} {step : Step}
    (unended : ∀ observation, (Sighting.mk chain ticket (paused observation)).failed = false)
    (unfailed : ∀ observation, step = .paused observation → failure = none) :
    (session.absorb name chain ticket failure paused step).Failed name ↔
      failure.isSome = true := by
  obtain ⟨stage, known, next⟩ := absorb_stage session name chain ticket failure paused step
  rw [failed_iff_of_known known]
  rcases next with ⟨observation, pauses, rfl⟩ | ⟨report, rfl⟩
  · rw [unended, unfailed observation pauses]
    rfl
  · rfl

theorem Awaited.not_failed {action : Action} (awaited : session.Awaited name action) :
    ¬ session.Failed name := by
  cases awaited with
  | signer waits | connector waits => simp [failed_iff_of_known waits, Sighting.failed]

/-- An awaited answer is noted for what it is. -/
theorem Awaited.failed_act_iff {action : Action} (awaited : session.Awaited name action) :
    (session.act action).Failed name ↔ action.failure?.isSome = true := by
  cases awaited with
  | signer waits failure =>
      rw [act_signerAnswers_of_waiting waits failure]
      apply failed_absorb_iff
      · intro observation
        rfl
      · intro observation pauses
        exact (Binder.signerAnswered_paused pauses).1
  | connector waits failure =>
      rw [act_connectorAnswers_of_waiting waits failure]
      apply failed_absorb_iff
      · intro observation
        rfl
      · intro observation pauses
        cases pauses

/-- Any other action leaves it open whether the observation failed. -/
theorem failed_act_of_not_awaited {action : Action} (unawaited : ¬ session.Awaited name action) :
    (session.act action).Failed name ↔ session.Failed name := by
  by_cases about : action.name? = some name
  · cases action with
    | observe other chain given =>
        cases about
        cases known : session.sightings.get? name with
        | none =>
            rw [act_observe_of_unused known, failed_absorb_iff _ name chain _ none (fun _ => rfl)
              fun _ _ => rfl]
            simp [Failed, known]
        | some sighting =>
            have used : session.sightings.contains name = true := by
              rw [OrderedMap.contains, known]
              rfl
            simp only [act, observe, used, if_true]
    | signerAnswers other failure =>
        cases about
        simp only [act, signerAnswers]
        split
        next chain ticket observation waits => exact absurd (.signer waits failure) unawaited
        next => exact Iff.rfl
    | connectorAnswers other failure =>
        cases about
        simp only [act, connectorAnswers]
        split
        next chain ticket observation waits => exact absurd (.connector waits failure) unawaited
        next => exact Iff.rfl
    | cancel other =>
        cases about
        simp only [act, cancel]
        split
        next chain ticket observation waits =>
          have cancelled : (session.record name ⟨chain, ticket, .cancelled⟩).sightings.get? name =
              some ⟨chain, ticket, .cancelled⟩ := by
            rw [get?_record, if_pos rfl]
          rw [failed_iff_of_known waits, failed_iff_of_known cancelled]
          rfl
        next => exact Iff.rfl
    | issue => cases about
  · rw [Failed, act_elsewhere session about, Failed]

/-- An observation is failed after an action if it was so before, or if the action brings it the
failure. -/
theorem failed_act_iff (session : Session) (action : Action) (name : Nat) :
    (session.act action).Failed name ↔
      session.Failed name ∨ session.BringsFailure name action := by
  by_cases awaited : session.Awaited name action
  · rw [awaited.failed_act_iff, BringsFailure]
    simp [awaited, awaited.not_failed]
  · rw [failed_act_of_not_awaited awaited, BringsFailure]
    simp [awaited]

theorem metFailure_concat (first : Session) (actions : List Action) (action : Action) (name : Nat) :
    MetFailure first (actions ++ [action]) name ↔
      MetFailure first actions name ∨ (first.run actions).BringsFailure name action := by
  constructor
  · rintro ⟨earlier, met, later, split, brings⟩
    rcases List.eq_nil_or_concat later with rfl | ⟨rest, last, rfl⟩
    · obtain ⟨rfl, same⟩ := List.append_inj' split rfl
      cases same
      exact .inr brings
    · rw [List.concat_eq_append, ← List.cons_append, ← List.append_assoc] at split
      exact .inl ⟨earlier, met, rest, (List.append_inj' split rfl).1, brings⟩
  · rintro (⟨earlier, met, later, rfl, brings⟩ | brings)
    · exact ⟨earlier, met, later ++ [action], by simp, brings⟩
    · exact ⟨actions, action, [], rfl, brings⟩

/-- In a run, the failed observations are those that met a failure. -/
theorem failed_run_iff {first : Session} (unused : first.sightings = .empty)
    (actions : List Action) (name : Nat) :
    (first.run actions).Failed name ↔ MetFailure first actions name := by
  induction actions using List.reverseRecOn with
  | nil =>
      refine iff_of_false ?_ ?_
      · rintro ⟨sighting, known, _⟩
        rw [run, List.foldl_nil, unused] at known
        cases known
      · rintro ⟨earlier, action, later, split, _⟩
        cases earlier <;> cases split
  | append_singleton actions action inductionHypothesis =>
      rw [run_append, metFailure_concat, ← inductionHypothesis]
      exact failed_act_iff (first.run actions) action name

end PackageStore.Binder.Session
