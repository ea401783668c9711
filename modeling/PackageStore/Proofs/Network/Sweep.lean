import PackageStore.Proofs.Network.Announcement

/-!
Contract: what a dispatch does while it goes over a list of binders.

Owns: the ways in which an observation comes to its end at a binder; and for each operation of a
dispatch that it is a series of such ends, whose reports are all that the listeners are told, and
which goes over every initialized binder that was due, in their order.

Does not own: which dispatches there are, and the order in which they go on.
-/

set_option autoImplicit false

namespace PackageStore

/-! ## The end of an observation at a binder -/

namespace Binder

/-- What is left of the observation of a chain with a ticket, at a binder that knows an address
there. -/
structure Observation.IsOf (observation : Observation) (site : Site) (chain : Option Chain)
    (ticket : Ticket) : Prop where
  chain : chain = some observation.chain
  ticket : observation.ticket = ticket
  deployed : site.table.on? observation.chain = some observation.address

/-- The observation of a chain with a ticket comes to its end at a binder: at once, or with the
answer of the signer or of the connector that it paused for. -/
inductive Concludes (binder : Binder) (chain : Option Chain) (ticket : Ticket) :
    Landing → Prop where
  | atOnce {landing : Landing} (ended : binder.observe chain ticket = .ended landing) :
      Concludes binder chain ticket landing
  | withSigner {observation : Observation} {failure : Option Failure} {landing : Landing}
      (paused : observation.IsOf binder.site chain ticket)
      (ended : binder.signerAnswered observation failure = .ended landing) :
      Concludes binder chain ticket landing
  | withConnector {observation : Observation} (failure : Option Failure)
      (paused : observation.IsOf binder.site chain ticket) :
      Concludes binder chain ticket (binder.contractAnswered observation failure)

variable {binder : Binder} {chain : Option Chain} {ticket : Ticket} {landing : Landing}

theorem Concludes.faithful (concludes : binder.Concludes chain ticket landing) :
    binder.Faithful ticket landing := by
  cases concludes with
  | atOnce ended => exact observe_faithful ended
  | withSigner paused ended =>
      rw [← paused.ticket]
      exact signerAnswered_faithful ended
  | @withConnector observation failure paused =>
      rw [← paused.ticket]
      exact contractAnswered_faithful binder observation failure

/-- The end decides what the observation calls for at the binder, unless it comes too late. -/
theorem Concludes.settles (concludes : binder.Concludes chain ticket landing)
    (listed : binder.Listed) : ∃ failure, binder.Settles chain ticket failure landing := by
  cases concludes with
  | atOnce ended =>
      rcases observe_cases chain ticket listed with ⟨own, same, settles⟩ | ⟨observation, paused, -⟩
      · cases ended.symm.trans same
        exact ⟨none, settles⟩
      · cases ended.symm.trans paused
  | @withSigner observation failure _ paused ended =>
      rw [paused.chain, ← paused.ticket]
      rcases signerAnswered_cases failure paused.deployed with ⟨own, same, settles⟩ | ⟨-, -, goesOn⟩
      · cases ended.symm.trans same
        exact ⟨failure, settles⟩
      · cases ended.symm.trans goesOn
  | @withConnector observation failure paused =>
      rw [paused.chain, ← paused.ticket]
      exact ⟨failure, contractAnswered_settles failure paused.deployed⟩

/-- A pause is one of the observation. -/
theorem observe_isOf {observation : Observation}
    (paused : binder.observe chain ticket = .paused observation) :
    observation.IsOf binder.site chain ticket := by
  unfold observe at paused
  split at paused
  next => cases paused
  next own =>
    split at paused
    next => cases paused
    next address deployed =>
      split at paused
      next => cases paused
      next =>
        cases paused
        exact ⟨rfl, rfl, deployed⟩

end Binder

namespace Observer

variable {κ : Type}

/-! ## Steps of a dispatch -/

/-- The binders that a dispatch still has to do with. -/
def Progress.due : Progress κ → List κ
  | .needsSigner rebind => rebind.key :: rebind.ahead
  | .needsContract rebind => rebind.key :: rebind.ahead
  | .ended _ => []

/-- The reports that a dispatch has collected. -/
def Progress.reports : Progress κ → List (κ × Report)
  | .needsSigner rebind => rebind.reports
  | .needsContract rebind => rebind.reports
  | .ended reports => reports

/-- What a dispatch that pauses still has to do. -/
def Progress.rebind? : Progress κ → Option (Rebind κ)
  | .needsSigner rebind => some rebind
  | .needsContract rebind => some rebind
  | .ended _ => none

/-- The pause is at an initialized binder, and one of the observation. -/
def Rebind.Fits (rebind : Rebind κ) (observer : Observer κ) (chain : Option Chain)
    (ticket : Ticket) : Prop :=
  ∃ site, observer.site rebind.key = .ok site ∧ rebind.observation.IsOf site chain ticket

variable [DecidableEq κ]

/-- A step of a dispatch announces landings, which it adds to the reports that the dispatch had
before. -/
structure Tells (observer : Observer κ) (ticket : Ticket) (earlier : List (κ × Report))
    (step : Step κ) (landings : List (Landed κ)) : Prop where
  replays : Replays observer landings step.observer
  faithful : ∀ landed ∈ landings, landed.before.Faithful ticket landed.landing
  reports : step.progress.reports = earlier ++ landings.map Landed.entry
  told : step.effects.filterMap Effect.told? =
    tellings observer.listeners (landings.map Landed.entry)

/-- A step of a dispatch goes over binders that were due. -/
structure GoesOver (observer : Observer κ) (chain : Option Chain) (ticket : Ticket) (due : List κ)
    (earlier : List (κ × Report)) (step : Step κ) (landings : List (Landed κ)) : Prop
    extends Tells observer ticket earlier step landings where
  concludes : ∀ landed ∈ landings, landed.before.Concludes chain ticket landed.landing
  due : landings.map Landed.key ++ step.progress.due.filter observer.isHeld =
    due.filter observer.isHeld
  pauses : ∀ rebind, step.progress.rebind? = some rebind → rebind.Fits observer chain ticket

variable {observer : Observer κ} {key : κ} {binder : Binder} {chain : Option Chain}
  {ticket : Ticket} {due : List κ} {earlier : List (κ × Report)} {step : Step κ}
  {landings : List (Landed κ)}

theorem Tells.announces (tells : Tells observer ticket earlier step landings) :
    observer.Announces ticket (landings.map Landed.entry) step.observer :=
  ⟨landings, tells.replays, tells.faithful, rfl⟩

theorem Tells.keeps (tells : Tells observer ticket earlier step landings) :
    observer.Keeps step.observer :=
  tells.announces.keeps

theorem Tells.after (tells : Tells observer ticket earlier step landings) {effects : List Effect}
    (silent : effects.filterMap Effect.told? = []) :
    Tells observer ticket earlier (step.after effects) landings where
  replays := tells.replays
  faithful := tells.faithful
  reports := tells.reports
  told := by rw [Step.after, List.filterMap_append, silent, tells.told, List.nil_append]

/-- A dispatch that stands still. -/
theorem Tells.idle {progress : Progress κ} (same : progress.reports = earlier) :
    Tells observer ticket earlier ⟨observer, progress, []⟩ [] where
  replays := .nothing observer
  faithful := by simp
  reports := by simp [same]
  told := rfl

/-- An observation ends at a binder, and the dispatch goes on. -/
theorem Tells.absorb {landing : Binder.Landing} {goOn : List (κ × Report) → Observer κ → Step κ}
    (known : observer.binder key = .ok binder) (faithful : binder.Faithful ticket landing)
    (goesOn : Tells (observer.hold key landing.binder) ticket (earlier ++ [(key, landing.report)])
      (goOn (earlier ++ [(key, landing.report)]) (observer.hold key landing.binder)) landings) :
    Tells observer ticket earlier (observer.absorb key landing earlier goOn)
      (⟨key, binder, landing⟩ :: landings) where
  replays := .lands known goesOn.replays
  faithful := List.forall_mem_cons.2 ⟨faithful, goesOn.faithful⟩
  reports := by
    rw [Observer.absorb, Step.after, goesOn.reports, List.append_assoc]
    rfl
  told := by
    rw [Observer.absorb, Step.after, List.filterMap_append, List.filterMap_append, told?_logged,
      told?_tell, goesOn.told]
    rfl

theorem GoesOver.after (goesOver : GoesOver observer chain ticket due earlier step landings)
    {effects : List Effect} (silent : effects.filterMap Effect.told? = []) :
    GoesOver observer chain ticket due earlier (step.after effects) landings :=
  { goesOver with toTells := goesOver.toTells.after silent }

/-- Binders that are not initialized do not count. -/
theorem GoesOver.past {failure : Failure} (missing : observer.binder key = .error failure)
    (goesOver : GoesOver observer chain ticket due earlier step landings) :
    GoesOver observer chain ticket (key :: due) earlier step landings :=
  { goesOver with
    due := by
      rw [List.filter_cons_of_neg (by simp [not_isHeld_of_error missing])]
      exact goesOver.due }

theorem GoesOver.absorb {landing : Binder.Landing}
    {goOn : List (κ × Report) → Observer κ → Step κ} (known : observer.binder key = .ok binder)
    (concludes : binder.Concludes chain ticket landing)
    (goesOn : GoesOver (observer.hold key landing.binder) chain ticket due
      (earlier ++ [(key, landing.report)])
      (goOn (earlier ++ [(key, landing.report)]) (observer.hold key landing.binder)) landings) :
    GoesOver observer chain ticket (key :: due) earlier
      (observer.absorb key landing earlier goOn) (⟨key, binder, landing⟩ :: landings) := by
  have kept := keeps_hold known concludes.faithful.site
  refine ⟨.absorb known concludes.faithful goesOn.toTells, ?concludes, ?due, ?pauses⟩
  case concludes => exact List.forall_mem_cons.2 ⟨concludes, goesOn.concludes⟩
  case due =>
    have rest := goesOn.due
    rw [kept.isHeld] at rest
    rw [List.filter_cons_of_pos (isHeld_of_binder known), ← rest]
    rfl
  case pauses =>
    intro rebind pauses
    obtain ⟨site, known, isOf⟩ := goesOn.pauses rebind pauses
    exact ⟨site, by rw [← kept.site]; exact known, isOf⟩

/-- A dispatch that pauses at a binder. -/
theorem GoesOver.pausing {progress : Progress κ} (rebind : Rebind κ)
    (shape : progress = .needsSigner rebind ∨ progress = .needsContract rebind)
    (fits : rebind.Fits observer chain ticket) :
    GoesOver observer chain ticket (rebind.key :: rebind.ahead) rebind.reports
      ⟨observer, progress, []⟩ [] := by
  have pauses : progress.rebind? = some rebind := by rcases shape with rfl | rfl <;> rfl
  refine ⟨.idle ?reports, by simp, ?due, ?pauses⟩
  case reports => rcases shape with rfl | rfl <;> rfl
  case due => rcases shape with rfl | rfl <;> rfl
  case pauses =>
    intro other pausesToo
    cases pauses.symm.trans pausesToo
    exact fits

theorem visit_goesOver (chain : Option Chain) (ticket : Ticket) (ahead : List κ)
    (earlier : List (κ × Report)) (observer : Observer κ) :
    ∃ landings, GoesOver observer chain ticket ahead earlier
      (visit chain ticket ahead earlier observer) landings := by
  induction ahead generalizing observer earlier with
  | nil => exact ⟨[], .idle rfl, by simp, rfl, fun rebind pauses => by cases pauses⟩
  | cons key rest inductionHypothesis =>
      unfold visit
      split
      next failure missing =>
        obtain ⟨landings, goesOver⟩ := inductionHypothesis earlier observer
        exact ⟨landings, (goesOver.after rfl).past missing⟩
      next binder known =>
        split
        next landing ended =>
          obtain ⟨landings, goesOver⟩ := inductionHypothesis (earlier ++ [(key, landing.report)])
            (observer.hold key landing.binder)
          exact ⟨_, .absorb known (.atOnce ended) goesOver⟩
        next observation paused =>
          exact ⟨[], .pausing ⟨key, observation, rest, earlier⟩ (.inl rfl)
            ⟨binder.site, site_of_binder known, Binder.observe_isOf paused⟩⟩

/-! ## The answers that a paused dispatch waits for -/

/-- A paused dispatch goes on. What it announces is so whatever it paused for, and it goes over what
was due if the pause is one of the observation. -/
def Resumes (observer : Observer κ) (rebind : Rebind κ) (step : Step κ) : Prop :=
  ∃ landings, Tells observer rebind.observation.ticket rebind.reports step landings ∧
    ∀ chain ticket, rebind.Fits observer chain ticket →
      GoesOver observer chain ticket (rebind.key :: rebind.ahead) rebind.reports step landings

variable {rebind : Rebind κ}

/-- The binder of the pause is not initialized, and passed over. -/
theorem skip_resumes {missing : Failure} (unknown : observer.binder rebind.key = .error missing) :
    Resumes observer rebind (rebind.skip observer missing) := by
  obtain ⟨landings, goesOver⟩ := visit_goesOver (some rebind.observation.chain)
    rebind.observation.ticket rebind.ahead rebind.reports observer
  refine ⟨landings, goesOver.toTells.after rfl, ?_⟩
  rintro chain ticket ⟨site, known, -⟩
  obtain ⟨binder, found, -⟩ := exists_binder_of_site known
  cases unknown.symm.trans found

/-- The observation ends at the binder of the pause. -/
theorem absorb_resumes {landing : Binder.Landing} (known : observer.binder rebind.key = .ok binder)
    (faithful : binder.Faithful rebind.observation.ticket landing)
    (concludes : ∀ chain ticket, rebind.observation.IsOf binder.site chain ticket →
      binder.Concludes chain ticket landing) :
    Resumes observer rebind
      (observer.absorb rebind.key landing rebind.reports rebind.goOn) := by
  obtain ⟨landings, goesOver⟩ := visit_goesOver (some rebind.observation.chain)
    rebind.observation.ticket rebind.ahead (rebind.reports ++ [(rebind.key, landing.report)])
    (observer.hold rebind.key landing.binder)
  refine ⟨_, .absorb known faithful goesOver.toTells, ?_⟩
  rintro chain ticket ⟨site, isSite, isOf⟩
  cases isSite.symm.trans (site_of_binder known)
  obtain ⟨rfl, rfl, -⟩ := id isOf
  exact .absorb known (concludes _ _ isOf) goesOver

theorem signerAnswered_resumes (observer : Observer κ) (rebind : Rebind κ)
    (failure : Option Failure) :
    Resumes observer rebind (observer.signerAnswered rebind failure) := by
  unfold signerAnswered
  split
  next missing unknown => exact skip_resumes unknown
  next binder known =>
    split
    next landing ended =>
      exact absorb_resumes known (Binder.signerAnswered_faithful ended)
        fun _ _ isOf => .withSigner isOf ended
    next observation answered =>
      obtain ⟨-, same⟩ := Binder.signerAnswered_paused answered
      subst same
      exact ⟨[], .idle rfl, fun chain ticket fits => .pausing rebind (.inr rfl) fits⟩

theorem contractAnswered_resumes (observer : Observer κ) (rebind : Rebind κ)
    (failure : Option Failure) :
    Resumes observer rebind (observer.contractAnswered rebind failure) := by
  unfold contractAnswered
  split
  next missing unknown => exact skip_resumes unknown
  next binder known =>
    have silent : (if failure.isNone then [Effect.connected (observer.role rebind.key)]
        else []).filterMap Effect.told? = [] := by
      split <;> rfl
    obtain ⟨landings, tells, goesOver⟩ := absorb_resumes known
      (binder.contractAnswered_faithful rebind.observation failure)
      fun _ _ isOf => .withConnector failure isOf
    refine ⟨landings, tells.after silent, fun chain ticket fits => ?_⟩
    exact (goesOver chain ticket fits).after silent

end Observer

end PackageStore
