import PackageStore.Proofs.Network.Observing

/-!
Contract: a run in which everything that fails is left out.

Owns: an observer without the binders that are not initialized and without the refusals of its
listeners; and that leaving these out commutes with every step of a dispatch, with every action and
with every run.

A binder that fails makes the dispatch go on at once, with no pause. This is why the actions that
drive one run drive the other one alike, however the dispatches overlap.
-/

set_option autoImplicit false

namespace PackageStore.Observer

variable {κ : Type}

/-! ## Leaving out what fails -/

/-- The listener without its refusals. -/
def willing (listener : Listener) : Listener :=
  ⟨listener.number, fun _ => none⟩

/-- The observer without the binders that are not initialized, and without refusals of listeners. -/
def faultless (observer : Observer κ) : Observer κ where
  role := observer.role
  binders := observer.binders.filter observer.isHeld
  listeners := observer.listeners.map willing
  binder key := (observer.binder key).mapError fun _ => default

def Rebind.within (kept : κ → Bool) (rebind : Rebind κ) : Rebind κ :=
  { rebind with ahead := rebind.ahead.filter kept }

def Progress.within (kept : κ → Bool) : Progress κ → Progress κ
  | .needsSigner rebind => .needsSigner (rebind.within kept)
  | .needsContract rebind => .needsContract (rebind.within kept)
  | .ended reports => .ended reports

def Phase.within (kept : κ → Bool) : Phase κ → Phase κ
  | .queued => .queued
  | .running progress => .running (progress.within kept)
  | .cancelled => .cancelled

def Dispatch.within (kept : κ → Bool) (dispatch : Dispatch κ) : Dispatch κ :=
  { dispatch with phase := dispatch.phase.within kept }

/-- A step, and the one that is made in its place where what fails is left out. -/
structure Step.Mirrors (step mirrored : Step κ) (kept : κ → Bool) : Prop where
  observer : mirrored.observer = step.observer.faultless
  progress : mirrored.progress = step.progress.within kept
  told : mirrored.effects.filterMap Effect.told? = step.effects.filterMap Effect.told?
  held : step.observer.isHeld = kept

theorem Step.Mirrors.after {step mirrored : Step κ} {kept : κ → Bool}
    (mirrors : step.Mirrors mirrored kept) {effects others : List Effect}
    (same : others.filterMap Effect.told? = effects.filterMap Effect.told?) :
    (step.after effects).Mirrors (mirrored.after others) kept where
  observer := mirrors.observer
  progress := mirrors.progress
  told := by
    rw [Step.after, Step.after, List.filterMap_append, List.filterMap_append, same, mirrors.told]
  held := mirrors.held

/-- Nothing is made in place of effects that tell nobody anything. -/
theorem Step.Mirrors.silently {step mirrored : Step κ} {kept : κ → Bool}
    (mirrors : step.Mirrors mirrored kept) {effects : List Effect}
    (silent : effects.filterMap Effect.told? = []) :
    (step.after effects).Mirrors mirrored kept where
  observer := mirrors.observer
  progress := mirrors.progress
  told := by rw [Step.after, List.filterMap_append, silent, mirrors.told, List.nil_append]
  held := mirrors.held

theorem told?_tell_willing (listeners : List Listener) (report : Report) :
    (tell (listeners.map willing) report).filterMap Effect.told? =
      (tell listeners report).filterMap Effect.told? := by
  rw [told?_tell, told?_tell, List.map_map]
  rfl

theorem Progress.within_ended_iff {kept : κ → Bool} {progress : Progress κ}
    {reports : List (κ × Report)} :
    progress.within kept = .ended reports ↔ progress = .ended reports := by
  cases progress <;> simp [Progress.within]

variable {observer : Observer κ} {key : κ} {binder : Binder}

theorem binder_faultless (observer : Observer κ) (key : κ) :
    observer.faultless.binder key = (observer.binder key).mapError fun _ => default :=
  rfl

theorem binder_faultless_of_ok (known : observer.binder key = .ok binder) :
    observer.faultless.binder key = .ok binder := by
  rw [binder_faultless, known]
  rfl

theorem binder_faultless_of_error {failure : Failure}
    (missing : observer.binder key = .error failure) :
    observer.faultless.binder key = .error default := by
  rw [binder_faultless, missing]
  rfl

/-! ## Sessions without what fails -/

namespace Session

/-- The session of the observer without what fails. -/
def faultless (session : Session κ) : Session κ :=
  { session with
    observer := session.observer.faultless
    dispatches := session.dispatches.map (Dispatch.within session.observer.isHeld) }

theorem enqueue_faultless (session : Session κ) (chain : Option Chain) :
    (session.enqueue chain).faultless = session.faultless.enqueue chain := by
  simp [faultless, enqueue, Dispatch.within, Phase.within]

theorem absorb_faultless (session : Session κ) (number : Nat) (dispatch : Dispatch κ)
    {step mirrored : Step κ} (mirrors : step.Mirrors mirrored session.observer.isHeld) :
    (session.absorb number dispatch step).faultless =
      session.faultless.absorb number (dispatch.within session.observer.isHeld) mirrored := by
  simp only [faultless, absorb, mirrors.observer, mirrors.progress, mirrors.told, mirrors.held,
    List.map_set]
  rfl

theorem cancel_faultless (session : Session κ) (number : Nat) :
    (session.cancel number).faultless = session.faultless.cancel number := by
  have place : session.faultless.dispatches[number]? =
      (session.dispatches[number]?).map (Dispatch.within session.observer.isHeld) :=
    List.getElem?_map
  cases known : session.dispatches[number]? with
  | none => simp only [cancel, known, place, Option.map_none]
  | some dispatch =>
      have same : (dispatch.within session.observer.isHeld).canBeCancelled =
          dispatch.canBeCancelled := by
        obtain ⟨chain, ticket, phase⟩ := dispatch
        cases phase with
        | queued => rfl
        | cancelled => rfl
        | running progress => cases progress <;> rfl
      simp only [cancel, known, place, Option.map_some, same]
      split
      · simp [faultless, Dispatch.within, Phase.within, List.map_set]
      · rfl

end Session

/-! ## Steps without what fails -/

variable [DecidableEq κ]

theorem isHeld_hold (known : observer.binder key = .ok binder) (later : Binder) :
    (observer.hold key later).isHeld = observer.isHeld := by
  funext other
  by_cases here : other = key
  · rw [here, isHeld_of_binder known, isHeld_of_binder (observer.binder_hold_self key later)]
  · simp [isHeld, hold, here]

theorem faultless_hold (known : observer.binder key = .ok binder) (later : Binder) :
    (observer.hold key later).faultless = observer.faultless.hold key later := by
  apply Observer.ext
  case role => rfl
  case binders =>
    have same := isHeld_hold known later
    simp only [faultless, same]
    rfl
  case listeners => rfl
  case binder =>
    funext other
    by_cases here : other = key
    · rw [here, binder_hold_self, binder_faultless_of_ok (observer.binder_hold_self key later)]
    · simp only [binder_faultless, hold, here, if_false]

theorem absorb_mirrors {landing : Binder.Landing} {reports : List (κ × Report)}
    {goOn mirrored : List (κ × Report) → Observer κ → Step κ}
    (known : observer.binder key = .ok binder)
    (goesOn : (goOn (reports ++ [(key, landing.report)]) (observer.hold key landing.binder)).Mirrors
      (mirrored (reports ++ [(key, landing.report)])
        (observer.hold key landing.binder).faultless) (observer.hold key landing.binder).isHeld) :
    (observer.absorb key landing reports goOn).Mirrors
      (observer.faultless.absorb key landing reports mirrored) observer.isHeld := by
  rw [isHeld_hold known, faultless_hold known] at goesOn
  apply goesOn.after
  rw [List.filterMap_append, List.filterMap_append]
  exact congrArg (_ ++ ·) (told?_tell_willing observer.listeners landing.report)

theorem visit_mirrors (chain : Option Chain) (ticket : Ticket) (ahead : List κ)
    (reports : List (κ × Report)) (observer : Observer κ) :
    (visit chain ticket ahead reports observer).Mirrors
      (visit chain ticket (ahead.filter observer.isHeld) reports observer.faultless)
      observer.isHeld := by
  induction ahead generalizing observer reports with
  | nil => exact ⟨rfl, rfl, rfl, rfl⟩
  | cons key rest inductionHypothesis =>
      cases found : observer.binder key with
      | error failure =>
          have left : (key :: rest).filter observer.isHeld = rest.filter observer.isHeld :=
            List.filter_cons_of_neg (by simp [not_isHeld_of_error found])
          simp only [left, visit, found]
          exact (inductionHypothesis reports observer).silently rfl
      | ok binder =>
          have stays : (key :: rest).filter observer.isHeld = key :: rest.filter observer.isHeld :=
            List.filter_cons_of_pos (isHeld_of_binder found)
          simp only [stays, visit, found, binder_faultless_of_ok found]
          cases binder.observe chain ticket with
          | ended landing =>
              apply absorb_mirrors found
              have goesOn := inductionHypothesis (reports ++ [(key, landing.report)])
                (observer.hold key landing.binder)
              rw [isHeld_hold found] at goesOn ⊢
              exact goesOn
          | paused observation => exact ⟨rfl, rfl, rfl, rfl⟩

variable {rebind : Rebind κ}

theorem skip_mirrors (missing : Failure) :
    (rebind.skip observer missing).Mirrors
      ((rebind.within observer.isHeld).skip observer.faultless default) observer.isHeld :=
  (visit_mirrors _ _ rebind.ahead rebind.reports observer).after rfl

theorem landed_mirrors (known : observer.binder rebind.key = .ok binder)
    (landing : Binder.Landing) :
    (observer.absorb rebind.key landing rebind.reports rebind.goOn).Mirrors
      (observer.faultless.absorb rebind.key landing rebind.reports
        (rebind.within observer.isHeld).goOn) observer.isHeld := by
  apply absorb_mirrors known
  have goesOn := visit_mirrors (some rebind.observation.chain) rebind.observation.ticket
    rebind.ahead (rebind.reports ++ [(rebind.key, landing.report)])
    (observer.hold rebind.key landing.binder)
  rw [isHeld_hold known] at goesOn ⊢
  exact goesOn

theorem signerAnswered_mirrors (observer : Observer κ) (rebind : Rebind κ)
    (failure : Option Failure) :
    (observer.signerAnswered rebind failure).Mirrors
      (observer.faultless.signerAnswered (rebind.within observer.isHeld) failure)
      observer.isHeld := by
  have place : (rebind.within observer.isHeld).key = rebind.key := rfl
  cases found : observer.binder rebind.key with
  | error missing =>
      simp only [signerAnswered, place, found, binder_faultless_of_error found]
      exact skip_mirrors missing
  | ok binder =>
      simp only [signerAnswered, place, found, binder_faultless_of_ok found]
      have observation : (rebind.within observer.isHeld).observation = rebind.observation := rfl
      rw [observation]
      cases binder.signerAnswered rebind.observation failure with
      | ended landing => exact landed_mirrors found landing
      | paused observation => exact ⟨rfl, rfl, rfl, rfl⟩

theorem contractAnswered_mirrors (observer : Observer κ) (rebind : Rebind κ)
    (failure : Option Failure) :
    (observer.contractAnswered rebind failure).Mirrors
      (observer.faultless.contractAnswered (rebind.within observer.isHeld) failure)
      observer.isHeld := by
  have place : (rebind.within observer.isHeld).key = rebind.key := rfl
  cases found : observer.binder rebind.key with
  | error missing =>
      simp only [contractAnswered, place, found, binder_faultless_of_error found]
      exact skip_mirrors missing
  | ok binder =>
      simp only [contractAnswered, place, found, binder_faultless_of_ok found]
      exact (landed_mirrors found (binder.contractAnswered rebind.observation failure)).after rfl

/-- A dispatch waits for the same answers where what fails is left out. -/
theorem next?_mirrors (dispatch : Dispatch κ) (observer : Observer κ) (answer : Answer) :
    (dispatch.next? observer answer = none ∧
      (dispatch.within observer.isHeld).next? observer.faultless answer = none) ∨
    ∃ step mirrored, dispatch.next? observer answer = some step ∧
      (dispatch.within observer.isHeld).next? observer.faultless answer = some mirrored ∧
      step.Mirrors mirrored observer.isHeld := by
  obtain ⟨chain, ticket, phase⟩ := dispatch
  cases phase with
  | cancelled => cases answer <;> exact .inl ⟨rfl, rfl⟩
  | queued =>
      cases answer with
      | turn => exact .inr ⟨_, _, rfl, rfl, visit_mirrors chain ticket observer.binders [] observer⟩
      | signer failure => exact .inl ⟨rfl, rfl⟩
      | connector failure => exact .inl ⟨rfl, rfl⟩
  | running progress =>
      cases progress with
      | ended reports => cases answer <;> exact .inl ⟨rfl, rfl⟩
      | needsSigner rebind =>
          cases answer with
          | turn => exact .inl ⟨rfl, rfl⟩
          | signer failure =>
              exact .inr ⟨_, _, rfl, rfl, signerAnswered_mirrors observer rebind failure⟩
          | connector failure => exact .inl ⟨rfl, rfl⟩
      | needsContract rebind =>
          cases answer with
          | turn => exact .inl ⟨rfl, rfl⟩
          | signer failure => exact .inl ⟨rfl, rfl⟩
          | connector failure =>
              exact .inr ⟨_, _, rfl, rfl, contractAnswered_mirrors observer rebind failure⟩

/-! ## Runs without what fails -/

namespace Session

open Network.Session (Action)

theorem advance_faultless (session : Session κ) (number : Nat) (answer : Answer) :
    (session.advance number answer).faultless = session.faultless.advance number answer := by
  have place : session.faultless.dispatches[number]? =
      (session.dispatches[number]?).map (Dispatch.within session.observer.isHeld) :=
    List.getElem?_map
  have within : session.faultless.observer = session.observer.faultless := rfl
  cases known : session.dispatches[number]? with
  | none => simp only [advance, known, place, Option.map_none]
  | some dispatch =>
      simp only [advance, known, place, Option.map_some, within]
      rcases next?_mirrors dispatch session.observer answer with
        ⟨waits, waitsToo⟩ | ⟨step, mirrored, goesOn, goesOnToo, mirrors⟩
      · rw [waits, waitsToo]
      · rw [goesOn, goesOnToo]
        exact session.absorb_faultless number dispatch mirrors

theorem act_faultless (session : Session κ) (action : Action) :
    (session.act action).faultless = session.faultless.act action := by
  cases action with
  | chainChanged chain => exact session.enqueue_faultless chain
  | begin number => exact session.advance_faultless number .turn
  | observe chain =>
      have numbers : session.faultless.dispatches.length = session.dispatches.length :=
        List.length_map ..
      rw [act, act, advance_faultless, enqueue_faultless, numbers]
  | signerAnswers number failure => exact session.advance_faultless number (.signer failure)
  | connectorAnswers number failure => exact session.advance_faultless number (.connector failure)
  | cancel number => exact session.cancel_faultless number

theorem run_faultless (session : Session κ) (actions : List Action) :
    (session.run actions).faultless = session.faultless.run actions := by
  induction actions generalizing session with
  | nil => rfl
  | cons action rest inductionHypothesis =>
      rw [run, List.foldl_cons, ← run, inductionHypothesis, act_faultless]
      rfl

end Session

end PackageStore.Observer
