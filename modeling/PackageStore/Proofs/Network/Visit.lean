import PackageStore.Proofs.Network.Sweep

/-!
Contract: what a dispatch does to one binder.

Owns: the place of a dispatch as one binder sees it; the moves that a dispatch can make there, each
of which is a step of an observation at the binder; and for each operation of a dispatch that visits
no binder twice that it makes one move at every binder, and keeps what the dispatch is about.

Does not own: which dispatches there are, and the order in which they go on.
-/

set_option autoImplicit false

namespace PackageStore.Observer

variable {κ : Type}

/-! ## The place of a dispatch -/

/-- How far a dispatch has come at one binder. -/
inductive Place where
  | ahead
  | awaitsSigner (observation : Binder.Observation)
  | awaitsContract (observation : Binder.Observation)
  | passed
deriving DecidableEq

/-- A pause of the dispatch of an observation, which visits no binder twice. -/
structure Rebind.IsOf (rebind : Rebind κ) (chain : Option Chain) (ticket : Ticket) : Prop where
  chain : chain = some rebind.observation.chain
  ticket : rebind.observation.ticket = ticket
  distinct : (rebind.key :: rebind.ahead).Nodup

@[simp] theorem Step.after_progress (effects : List Effect) (step : Step κ) :
    (step.after effects).progress = step.progress := rfl

theorem Step.after_after (first second : List Effect) (step : Step κ) :
    (step.after first).after second = step.after (second ++ first) := by
  simp [Step.after]

/-! ## Moves -/

/-- What a dispatch of an observation can do at a binder: it stays where it is, or takes one step of
the observation. The failure is the one that the signer or the connector answered it with there. -/
inductive Moves (chain : Option Chain) (ticket : Ticket) :
    Place → Binder → Option Failure → Place → Binder → Prop where
  | stays (place : Place) (binder : Binder) : Moves chain ticket place binder none place binder
  | pauses {binder : Binder} {observation : Binder.Observation}
      (paused : binder.observe chain ticket = .paused observation) :
      Moves chain ticket .ahead binder none (.awaitsSigner observation) binder
  | lands {binder : Binder} {landing : Binder.Landing}
      (ended : binder.observe chain ticket = .ended landing) :
      Moves chain ticket .ahead binder none .passed landing.binder
  | signs {binder : Binder} {observation : Binder.Observation}
      (paused : binder.signerAnswered observation none = .paused observation) :
      Moves chain ticket (.awaitsSigner observation) binder none (.awaitsContract observation)
        binder
  | signerLands {binder : Binder} {observation : Binder.Observation} {failure : Option Failure}
      {landing : Binder.Landing}
      (ended : binder.signerAnswered observation failure = .ended landing) :
      Moves chain ticket (.awaitsSigner observation) binder failure .passed landing.binder
  | contractLands (binder : Binder) (observation : Binder.Observation)
      (failure : Option Failure) :
      Moves chain ticket (.awaitsContract observation) binder failure .passed
        (binder.contractAnswered observation failure).binder

variable {chain : Option Chain} {ticket : Ticket}

/-- A dispatch that has passed a binder leaves it alone. -/
theorem Moves.of_passed {place : Place} {failure : Option Failure} {binder after : Binder}
    (moves : Moves chain ticket .passed binder failure place after) :
    place = .passed ∧ after = binder := by
  cases moves
  exact ⟨rfl, rfl⟩

variable [DecidableEq κ]

/-- The place at a binder that is visited if it is among the ones ahead. -/
def placeAmong (ahead : List κ) (key : κ) : Place :=
  if key ∈ ahead then .ahead else .passed

/-- The place at a binder of a dispatch that pauses, which is `here` at the binder of the pause. -/
def Rebind.place (rebind : Rebind κ) (here : Place) (key : κ) : Place :=
  if rebind.key = key then here else placeAmong rebind.ahead key

def Progress.place (key : κ) : Progress κ → Place
  | .needsSigner rebind => rebind.place (.awaitsSigner rebind.observation) key
  | .needsContract rebind => rebind.place (.awaitsContract rebind.observation) key
  | .ended _ => .passed

/-- A dispatch moves a binder as it comes from a place to the one of a step. -/
def MovesTo (chain : Option Chain) (ticket : Ticket) (key : κ) (place : Place)
    (binder : Binder) (failure : Option Failure) (step : Step κ) : Prop :=
  ∃ after, step.observer.binder key = .ok after ∧
    Moves chain ticket place binder failure (step.progress.place key) after

variable {observer : Observer κ} {key : κ} {binder : Binder}

theorem placeAmong_of_mem {ahead : List κ} (member : key ∈ ahead) :
    placeAmong ahead key = .ahead :=
  if_pos member

theorem placeAmong_of_not_mem {ahead : List κ} (absent : key ∉ ahead) :
    placeAmong ahead key = .passed :=
  if_neg absent

theorem placeAmong_cons_of_ne {head : κ} {rest : List κ} (different : head ≠ key) :
    placeAmong (head :: rest) key = placeAmong rest key := by
  simp [placeAmong, Ne.symm different]

theorem Rebind.place_of_ne {rebind : Rebind κ} (here : Place) (different : rebind.key ≠ key) :
    rebind.place here key = placeAmong rebind.ahead key :=
  if_neg different

@[simp] theorem Rebind.place_self (rebind : Rebind κ) (here : Place) :
    rebind.place here rebind.key = here :=
  if_pos rfl

/-! ## The visit of the binders ahead -/

theorem visit_moves {ahead : List κ} (distinct : ahead.Nodup)
    (known : observer.binder key = .ok binder) (reports : List (κ × Report)) :
    MovesTo chain ticket key (placeAmong ahead key) binder none
      (visit chain ticket ahead reports observer) := by
  induction ahead generalizing observer binder reports with
  | nil => exact ⟨binder, known, .stays _ _⟩
  | cons head rest inductionHypothesis =>
      obtain ⟨apart, distinct⟩ := List.nodup_cons.1 distinct
      by_cases here : head = key
      · subst here
        rw [placeAmong_of_mem List.mem_cons_self]
        simp only [visit, known]
        cases seen : binder.observe chain ticket with
        | ended landing =>
            obtain ⟨after, later, moves⟩ := inductionHypothesis distinct
              (observer.binder_hold_self head landing.binder) (reports ++ [(head, landing.report)])
            rw [placeAmong_of_not_mem apart] at moves
            obtain ⟨place, same⟩ := moves.of_passed
            refine ⟨after, later, ?_⟩
            simp only [absorb, Step.after_progress]
            rw [place, same]
            exact .lands seen
        | paused observation =>
            refine ⟨binder, known, ?_⟩
            rw [Progress.place, Rebind.place_self]
            exact .pauses seen
      · rw [placeAmong_cons_of_ne here]
        unfold visit
        split
        next => exact inductionHypothesis distinct known reports
        next other _ =>
          split
          next landing _ =>
            rw [← observer.binder_hold_of_ne landing.binder here] at known
            exact inductionHypothesis distinct known (reports ++ [(head, landing.report)])
          next observation _ =>
            refine ⟨binder, known, ?_⟩
            rw [Progress.place, Rebind.place_of_ne _ here]
            exact .stays _ _

theorem visit_isOf {ahead : List κ} (distinct : ahead.Nodup) (reports : List (κ × Report))
    {rebind : Rebind κ}
    (pauses : (visit chain ticket ahead reports observer).progress.rebind? = some rebind) :
    rebind.IsOf chain ticket := by
  induction ahead generalizing observer reports with
  | nil => cases pauses
  | cons head rest inductionHypothesis =>
      unfold visit at pauses
      split at pauses
      next => exact inductionHypothesis distinct.of_cons reports pauses
      next =>
        split at pauses
        next => exact inductionHypothesis distinct.of_cons _ pauses
        next observation paused =>
          cases pauses
          obtain ⟨same, sameTicket⟩ := Binder.observe_paused paused
          exact ⟨same, sameTicket, distinct⟩

/-! ## The answers that a paused dispatch waits for -/

variable {rebind : Rebind κ}

theorem goOn_moves (isOf : rebind.IsOf chain ticket) (known : observer.binder key = .ok binder)
    (reports : List (κ × Report)) :
    MovesTo chain ticket key (placeAmong rebind.ahead key) binder none
      (rebind.goOn reports observer) := by
  obtain ⟨same, sameTicket, distinct⟩ := isOf
  rw [same, ← sameTicket]
  exact visit_moves distinct.of_cons known reports

theorem goOn_isOf (isOf : rebind.IsOf chain ticket) (reports : List (κ × Report))
    {later : Rebind κ} (pauses : (rebind.goOn reports observer).progress.rebind? = some later) :
    later.IsOf chain ticket := by
  obtain ⟨same, sameTicket, distinct⟩ := isOf
  rw [same, ← sameTicket]
  exact visit_isOf distinct.of_cons reports pauses

/-- How a paused dispatch goes on: it visits the binders ahead, with no other one changed, or it
pauses again for the same observation. -/
inductive Continues (observer : Observer κ) (rebind : Rebind κ) : Step κ → Prop where
  | goesOn (before : Observer κ) (reports : List (κ × Report)) (effects : List Effect)
      (others : ∀ key, rebind.key ≠ key → before.binder key = observer.binder key) :
      Continues observer rebind ((rebind.goOn reports before).after effects)
  | waits (effects : List Effect) :
      Continues observer rebind ⟨observer, .needsContract rebind, effects⟩

theorem Continues.after {step : Step κ} (continues : Continues observer rebind step)
    (effects : List Effect) : Continues observer rebind (step.after effects) := by
  cases continues with
  | goesOn before reports former others =>
      rw [Step.after_after]
      exact .goesOn before reports _ others
  | waits former => exact .waits _

theorem absorb_continues (landing : Binder.Landing) :
    Continues observer rebind
      (observer.absorb rebind.key landing rebind.reports rebind.goOn) :=
  .goesOn (observer.hold rebind.key landing.binder) _ _
    fun _ different => observer.binder_hold_of_ne landing.binder different

theorem skip_continues (missing : Failure) :
    Continues observer rebind (rebind.skip observer missing) :=
  .goesOn observer _ _ fun _ _ => rfl

theorem signerAnswered_continues (failure : Option Failure) :
    Continues observer rebind (observer.signerAnswered rebind failure) := by
  unfold signerAnswered
  split
  next missing _ => exact skip_continues missing
  next =>
    split
    next landing _ => exact absorb_continues landing
    next observation answered =>
      obtain ⟨_, same⟩ := Binder.signerAnswered_paused answered
      subst same
      exact .waits []

theorem contractAnswered_continues (failure : Option Failure) :
    Continues observer rebind (observer.contractAnswered rebind failure) := by
  unfold contractAnswered
  split
  next missing _ => exact skip_continues missing
  next binder _ =>
    exact (absorb_continues (binder.contractAnswered rebind.observation failure)).after _

namespace Continues

variable {step : Step κ}

theorem isOf (continues : Continues observer rebind step) (isOf : rebind.IsOf chain ticket)
    {later : Rebind κ} (pauses : step.progress.rebind? = some later) :
    later.IsOf chain ticket := by
  cases continues with
  | goesOn before reports effects _ => exact goOn_isOf isOf reports pauses
  | waits =>
      cases pauses
      exact isOf

/-- At every other binder than that of the pause, the dispatch is ahead of it or has passed it. -/
theorem elsewhere (continues : Continues observer rebind step) (isOf : rebind.IsOf chain ticket)
    (known : observer.binder key = .ok binder) (different : rebind.key ≠ key) :
    MovesTo chain ticket key (placeAmong rebind.ahead key) binder none step := by
  cases continues with
  | goesOn before reports effects others =>
      rw [← others key different] at known
      exact goOn_moves isOf known reports
  | waits =>
      refine ⟨binder, known, ?_⟩
      rw [Progress.place, Rebind.place_of_ne _ different]
      exact .stays _ _

end Continues

/-- The observation ends at the binder of the pause, and the dispatch does not come back to it. -/
theorem absorb_here (isOf : rebind.IsOf chain ticket) (landing : Binder.Landing) :
    let step := observer.absorb rebind.key landing rebind.reports rebind.goOn
    step.observer.binder rebind.key = .ok landing.binder ∧
      step.progress.place rebind.key = .passed := by
  intro step
  have held := observer.binder_hold_self rebind.key landing.binder
  obtain ⟨after, later, moves⟩ :=
    goOn_moves isOf held (rebind.reports ++ [(rebind.key, landing.report)])
  rw [placeAmong_of_not_mem (List.nodup_cons.1 isOf.distinct).1] at moves
  obtain ⟨place, same⟩ := moves.of_passed
  rw [same] at later
  exact ⟨later, place⟩

theorem signerAnswered_moves (isOf : rebind.IsOf chain ticket)
    (known : observer.binder key = .ok binder) (failure : Option Failure) :
    MovesTo chain ticket key (rebind.place (.awaitsSigner rebind.observation) key) binder
      (if rebind.key = key then failure else none)
      (observer.signerAnswered rebind failure) := by
  by_cases here : rebind.key = key
  · subst here
    rw [if_pos rfl, Rebind.place_self]
    simp only [signerAnswered, known]
    cases answered : binder.signerAnswered rebind.observation failure with
    | ended landing =>
        obtain ⟨later, place⟩ := absorb_here isOf landing
        refine ⟨landing.binder, later, ?_⟩
        rw [place]
        exact .signerLands answered
    | paused observation =>
        obtain ⟨succeeded, same⟩ := Binder.signerAnswered_paused answered
        subst succeeded same
        refine ⟨binder, known, ?_⟩
        rw [Progress.place, Rebind.place_self]
        exact .signs answered
  · rw [if_neg here, Rebind.place_of_ne _ here]
    exact (signerAnswered_continues failure).elsewhere isOf known here

theorem contractAnswered_moves (isOf : rebind.IsOf chain ticket)
    (known : observer.binder key = .ok binder) (failure : Option Failure) :
    MovesTo chain ticket key (rebind.place (.awaitsContract rebind.observation) key) binder
      (if rebind.key = key then failure else none)
      (observer.contractAnswered rebind failure) := by
  by_cases here : rebind.key = key
  · subst here
    rw [if_pos rfl, Rebind.place_self]
    simp only [contractAnswered, known]
    obtain ⟨later, place⟩ := absorb_here isOf (binder.contractAnswered rebind.observation failure)
    refine ⟨_, later, ?_⟩
    rw [Step.after_progress, place]
    exact .contractLands binder rebind.observation failure
  · rw [if_neg here, Rebind.place_of_ne _ here]
    exact (contractAnswered_continues failure).elsewhere isOf known here

end PackageStore.Observer
