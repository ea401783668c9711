import PackageStore.Proofs.Network.Session
import PackageStore.Proofs.Network.Sweep

/-!
Contract: an observer while its dispatches overlap.

Owns: the dispatches of an observer in the order of their tickets; the actions that drive them in
whatever order; what the listeners were told, by dispatch; and the account of a run: the landings of
all dispatches in their order, and how far each dispatch has come with its own.

An action that no dispatch waits for changes nothing, so each list of actions is a run.
-/

set_option autoImplicit false

namespace PackageStore.Observer

variable {κ : Type}

/-! ## Dispatches -/

/-- The dispatch of an observation, and how far it has come. -/
structure Dispatch (κ : Type) where
  chain : Option Chain
  ticket : Ticket
  phase : Phase κ

/-- What a dispatch waits for: its turn, the signer, or the connector. -/
inductive Answer where
  | turn
  | signer (failure : Option Failure)
  | connector (failure : Option Failure)

namespace Dispatch

/-- The dispatch went on to its end, with these reports. -/
def Finished (dispatch : Dispatch κ) (reports : List (κ × Report)) : Prop :=
  dispatch.phase = .running (.ended reports)

/-- What a dispatch that pauses still has to do. -/
def rebind? (dispatch : Dispatch κ) : Option (Rebind κ) :=
  match dispatch.phase with
  | .running progress => progress.rebind?
  | _ => none

/-- The binders that the dispatch of an observer still has to do with, and the reports so far; none
of a dispatch that was cancelled. -/
def standing? (dispatch : Dispatch κ) (observer : Observer κ) :
    Option (List κ × List (κ × Report)) :=
  match dispatch.phase with
  | .queued => some (observer.binders, [])
  | .running progress => some (progress.due, progress.reports)
  | .cancelled => none

/-- The step that an answer brings the dispatch forward by, if the dispatch waits for it. -/
def next? [DecidableEq κ] (dispatch : Dispatch κ) (observer : Observer κ) :
    Answer → Option (Step κ)
  | .turn =>
      match dispatch.phase with
      | .queued => some (observer.dispatch dispatch.chain dispatch.ticket)
      | _ => none
  | .signer failure =>
      match dispatch.phase with
      | .running (.needsSigner rebind) => some (observer.signerAnswered rebind failure)
      | _ => none
  | .connector failure =>
      match dispatch.phase with
      | .running (.needsContract rebind) => some (observer.contractAnswered rebind failure)
      | _ => none

/-- Whether the dispatch waits for its turn or for the signer. -/
def canBeCancelled (dispatch : Dispatch κ) : Bool :=
  match dispatch.phase with
  | .queued => true
  | .running (.needsSigner _) => true
  | _ => false

end Dispatch

/-- The entries of one dispatch. -/
def ofDispatch {α : Type} (number : Nat) (entries : List (Nat × α)) : List α :=
  entries.filterMap fun entry => if entry.1 = number then some entry.2 else none

/-! ## Sessions -/

/-- An observer with its dispatches, the place of each of which is its number, and with what the
listeners were told. -/
structure Session (κ : Type) where
  observer : Observer κ
  counter : Counter
  dispatches : List (Dispatch κ)
  told : List (Nat × Nat × Report)

namespace Session

open Network.Session (Action)

def start (observer : Observer κ) (counter : Counter) : Session κ :=
  ⟨observer, counter, [], []⟩

/-- A dispatch gets its ticket. -/
def enqueue (session : Session κ) (chain : Option Chain) : Session κ :=
  { session with
    counter := session.counter.issue.2
    dispatches := session.dispatches ++ [⟨chain, session.counter.issue.1, .queued⟩] }

/-- Takes over a step of a dispatch. -/
def absorb (session : Session κ) (number : Nat) (dispatch : Dispatch κ) (step : Step κ) :
    Session κ :=
  { session with
    observer := step.observer
    dispatches := session.dispatches.set number { dispatch with phase := .running step.progress }
    told := session.told ++ (step.effects.filterMap Effect.told?).map (number, ·) }

/-- A dispatch that waits for its turn or for the signer is given up. -/
def cancel (session : Session κ) (number : Nat) : Session κ :=
  match session.dispatches[number]? with
  | none => session
  | some dispatch =>
      if dispatch.canBeCancelled then
        { session with
          dispatches := session.dispatches.set number { dispatch with phase := .cancelled } }
      else session

variable [DecidableEq κ]

/-- An answer reaches a dispatch. -/
def advance (session : Session κ) (number : Nat) (answer : Answer) : Session κ :=
  match session.dispatches[number]? with
  | none => session
  | some dispatch =>
      match dispatch.next? session.observer answer with
      | none => session
      | some step => session.absorb number dispatch step

def act (session : Session κ) : Action → Session κ
  | .chainChanged chain => session.enqueue chain
  | .begin number => session.advance number .turn
  | .observe chain => (session.enqueue chain).advance session.dispatches.length .turn
  | .signerAnswers number failure => session.advance number (.signer failure)
  | .connectorAnswers number failure => session.advance number (.connector failure)
  | .cancel number => session.cancel number

/-- Performs actions one after another. -/
def run (session : Session κ) (actions : List Action) : Session κ :=
  actions.foldl act session

end Session

/-! ## Entries of one dispatch -/

section OfDispatch

variable {α : Type} {number other : Nat} {entries : List (Nat × α)}

theorem ofDispatch_append (number : Nat) (first second : List (Nat × α)) :
    ofDispatch number (first ++ second) = ofDispatch number first ++ ofDispatch number second :=
  List.filterMap_append

theorem ofDispatch_own (number : Nat) (items : List α) :
    ofDispatch number (items.map (number, ·)) = items := by
  induction items with
  | nil => rfl
  | cons item rest inductionHypothesis =>
      rw [List.map_cons, ofDispatch, List.filterMap_cons]
      simp only [if_true, List.cons.injEq, true_and]
      exact inductionHypothesis

theorem ofDispatch_other (different : other ≠ number) (items : List α) :
    ofDispatch number (items.map (other, ·)) = [] := by
  simp [ofDispatch, different]

end OfDispatch

/-! ## What an observer keeps -/

section Keeps

variable {opened current : Observer κ}

/-- What a dispatch has to do with does not depend on the bindings. -/
theorem Keeps.standing? (keeps : opened.Keeps current)
    (dispatch : Dispatch κ) : dispatch.standing? current = dispatch.standing? opened := by
  unfold Dispatch.standing?
  rw [keeps.binders]

theorem Keeps.fits_iff (keeps : opened.Keeps current) (rebind : Rebind κ)
    (chain : Option Chain) (ticket : Ticket) :
    rebind.Fits current chain ticket ↔ rebind.Fits opened chain ticket := by
  unfold Rebind.Fits
  rw [keeps.site]

end Keeps

/-! ## The account of a run -/

variable [DecidableEq κ]

/-- How far a dispatch has come: these landings are its own, and they are all that was due except
what it still has to do with. -/
structure Dispatch.Covers (dispatch : Dispatch κ) (opened : Observer κ)
    (landings : List (Landed κ)) (told : List (Nat × Report)) : Prop where
  concludes : ∀ landed ∈ landings,
    landed.before.Concludes dispatch.chain dispatch.ticket landed.landing
  told : told = tellings opened.listeners (landings.map Landed.entry)
  standing : ∀ due reports, dispatch.standing? opened = some (due, reports) →
    reports = landings.map Landed.entry ∧
      landings.map Landed.key ++ due.filter opened.isHeld = opened.binders.filter opened.isHeld
  pauses : ∀ rebind, dispatch.rebind? = some rebind →
    rebind.Fits opened dispatch.chain dispatch.ticket

/-- The landings of all dispatches in their order account for the session: they are all that
happened to the binders, and each dispatch has come as far as its own landings say. -/
structure Session.Accounts (session : Session κ) (opened : Observer κ)
    (history : List (Nat × Landed κ)) : Prop where
  replays : Replays opened (history.map Prod.snd) session.observer
  keeps : opened.Keeps session.observer
  covers : ∀ (number : Nat) (dispatch : Dispatch κ),
    session.dispatches[number]? = some dispatch →
      dispatch.Covers opened (ofDispatch number history) (ofDispatch number session.told)
  unused : ∀ number, session.dispatches.length ≤ number →
    ofDispatch number history = [] ∧ ofDispatch number session.told = []

variable {opened observer : Observer κ} {session : Session κ} {history : List (Nat × Landed κ)}
  {dispatch : Dispatch κ} {number : Nat}

/-- An answer that a dispatch waits for brings it over binders that were due. -/
theorem Dispatch.next?_goesOver {answer : Answer} {step : Step κ}
    (pauses : ∀ rebind, dispatch.rebind? = some rebind →
      rebind.Fits observer dispatch.chain dispatch.ticket)
    (goesOn : dispatch.next? observer answer = some step) :
    ∃ due reports landings, dispatch.standing? observer = some (due, reports) ∧
      GoesOver observer dispatch.chain dispatch.ticket due reports step landings := by
  cases answer with
  | turn =>
      rw [next?] at goesOn
      split at goesOn
      next queued =>
        cases goesOn
        obtain ⟨landings, goesOver⟩ :=
          visit_goesOver dispatch.chain dispatch.ticket observer.binders [] observer
        exact ⟨_, _, landings, by rw [standing?, queued], goesOver⟩
      next => cases goesOn
  | signer failure =>
      rw [next?] at goesOn
      split at goesOn
      next rebind waits =>
        cases goesOn
        have fits := pauses rebind (by rw [rebind?, waits]; rfl)
        obtain ⟨landings, -, goesOver⟩ := observer.signerAnswered_resumes rebind failure
        exact ⟨_, _, landings, by rw [standing?, waits]; rfl, goesOver _ _ fits⟩
      next => cases goesOn
  | connector failure =>
      rw [next?] at goesOn
      split at goesOn
      next rebind waits =>
        cases goesOn
        have fits := pauses rebind (by rw [rebind?, waits]; rfl)
        obtain ⟨landings, -, goesOver⟩ := observer.contractAnswered_resumes rebind failure
        exact ⟨_, _, landings, by rw [standing?, waits]; rfl, goesOver _ _ fits⟩
      next => cases goesOn

theorem Dispatch.Covers.advance {current : Observer κ} {due : List κ}
    {reports : List (κ × Report)} {step : Step κ} {earlier landings : List (Landed κ)}
    {told : List (Nat × Report)} (covers : dispatch.Covers opened earlier told)
    (keeps : opened.Keeps current) (stands : dispatch.standing? opened = some (due, reports))
    (goesOver : GoesOver current dispatch.chain dispatch.ticket due reports step landings) :
    Dispatch.Covers { dispatch with phase := .running step.progress } opened (earlier ++ landings)
      (told ++ step.effects.filterMap Effect.told?) := by
  obtain ⟨reported, gone⟩ := covers.standing due reports stands
  constructor
  case concludes =>
    intro landed member
    rcases List.mem_append.1 member with first | second
    · exact covers.concludes landed first
    · exact goesOver.concludes landed second
  case told =>
    rw [covers.told, goesOver.told, keeps.listeners, List.map_append, tellings_append]
  case standing =>
    intro later lastReports stands
    cases stands
    have rest := goesOver.due
    rw [keeps.isHeld] at rest
    constructor
    · rw [goesOver.reports, reported, List.map_append]
    · rw [List.map_append, List.append_assoc, rest, gone]
  case pauses =>
    intro rebind pauses
    exact (keeps.fits_iff rebind _ _).1 (goesOver.pauses rebind pauses)

namespace Session

open Network.Session (Action)

theorem start_accounts (observer : Observer κ) (counter : Counter) :
    (start observer counter).Accounts observer [] where
  replays := .nothing observer
  keeps := .refl observer
  covers number dispatch known := by simp [start] at known
  unused number _ := ⟨rfl, rfl⟩

theorem enqueue_accounts (accounts : session.Accounts opened history) (chain : Option Chain) :
    (session.enqueue chain).Accounts opened history where
  replays := accounts.replays
  keeps := accounts.keeps
  covers number dispatch known := by
    rw [enqueue, List.getElem?_append] at known
    split at known
    next => exact accounts.covers number dispatch known
    next beyond =>
      obtain ⟨unlanded, untold⟩ := accounts.unused number (Nat.le_of_not_lt beyond)
      rw [List.getElem?_singleton] at known
      split at known
      next =>
        cases known
        simp only [enqueue, unlanded, untold]
        refine ⟨by simp, rfl, ?_, ?_⟩
        · intro due reports stands
          cases stands
          exact ⟨rfl, rfl⟩
        · intro rebind pauses
          cases pauses
      next => cases known
  unused number beyond := by
    rw [enqueue, List.length_append] at beyond
    exact accounts.unused number (by omega)

/-- One dispatch is replaced, and what it did is noted under its number. -/
theorem accounts_set {former : Dispatch κ} (accounts : session.Accounts opened history)
    (known : session.dispatches[number]? = some former) (later : Dispatch κ)
    {current : Observer κ} (keeps : opened.Keeps current) (landings : List (Landed κ))
    (news : List (Nat × Report)) (replays : Replays session.observer landings current)
    (covers : later.Covers opened (ofDispatch number history ++ landings)
      (ofDispatch number session.told ++ news)) :
    Accounts { session with
      observer := current
      dispatches := session.dispatches.set number later
      told := session.told ++ news.map (number, ·) } opened
      (history ++ landings.map (number, ·)) := by
  obtain ⟨within, -⟩ := List.getElem?_eq_some_iff.1 known
  constructor
  case replays =>
    rw [List.map_append, List.map_map]
    have own : landings.map (Prod.snd ∘ fun landed => (number, landed)) = landings :=
      List.map_id landings
    rw [own]
    exact accounts.replays.append replays
  case keeps => exact keeps
  case covers =>
    intro other dispatch found
    rw [List.getElem?_set] at found
    rw [ofDispatch_append, ofDispatch_append]
    by_cases here : number = other
    · rw [if_pos here, if_pos within] at found
      cases found
      rw [← here, ofDispatch_own, ofDispatch_own]
      exact covers
    · rw [if_neg here] at found
      rw [ofDispatch_other here, ofDispatch_other here, List.append_nil, List.append_nil]
      exact accounts.covers other dispatch found
  case unused =>
    intro other beyond
    rw [List.length_set] at beyond
    have here : number ≠ other := by omega
    rw [ofDispatch_append, ofDispatch_append, ofDispatch_other here, ofDispatch_other here,
      List.append_nil, List.append_nil]
    exact accounts.unused other beyond

theorem advance_accounts (accounts : session.Accounts opened history) (number : Nat)
    (answer : Answer) :
    ∃ later, (session.advance number answer).Accounts opened (history ++ later) := by
  unfold advance
  split
  next => exact ⟨[], by rwa [List.append_nil]⟩
  next dispatch known =>
    split
    next => exact ⟨[], by rwa [List.append_nil]⟩
    next step goesOn =>
      have covers := accounts.covers number dispatch known
      have keeps := accounts.keeps
      obtain ⟨due, reports, landings, stands, goesOver⟩ :=
        Dispatch.next?_goesOver
          (fun rebind pauses => (keeps.fits_iff rebind _ _).2 (covers.pauses rebind pauses)) goesOn
      rw [keeps.standing?] at stands
      exact ⟨_, accounts_set accounts known _ (keeps.trans goesOver.keeps) landings _
        goesOver.replays (covers.advance keeps stands goesOver)⟩

theorem cancel_accounts (accounts : session.Accounts opened history) (number : Nat) :
    ∃ later, (session.cancel number).Accounts opened (history ++ later) := by
  unfold cancel
  split
  next => exact ⟨[], by rwa [List.append_nil]⟩
  next dispatch known =>
    split
    next =>
      have covers := accounts.covers number dispatch known
      have given : Dispatch.Covers { dispatch with phase := .cancelled } opened
          (ofDispatch number history ++ []) (ofDispatch number session.told ++ []) := by
        rw [List.append_nil, List.append_nil]
        refine ⟨covers.concludes, covers.told, ?_, ?_⟩
        · intro due reports stands
          cases stands
        · intro rebind pauses
          cases pauses
      have set := accounts_set accounts known _ accounts.keeps [] [] (.nothing _) given
      rw [List.map_nil, List.append_nil] at set
      exact ⟨[], set⟩
    next => exact ⟨[], by rwa [List.append_nil]⟩

theorem act_accounts (accounts : session.Accounts opened history) (action : Action) :
    ∃ later, (session.act action).Accounts opened (history ++ later) := by
  cases action with
  | chainChanged chain => exact ⟨[], by rw [List.append_nil]; exact enqueue_accounts accounts chain⟩
  | begin number => exact advance_accounts accounts number .turn
  | observe chain => exact advance_accounts (enqueue_accounts accounts chain) _ .turn
  | signerAnswers number failure => exact advance_accounts accounts number (.signer failure)
  | connectorAnswers number failure => exact advance_accounts accounts number (.connector failure)
  | cancel number => exact cancel_accounts accounts number

/-- Landings account for every run, in whatever order the dispatches are driven. -/
theorem run_accounts (accounts : session.Accounts opened history) (actions : List Action) :
    ∃ later, (session.run actions).Accounts opened (history ++ later) := by
  induction actions generalizing session history with
  | nil => exact ⟨[], by rw [List.append_nil]; exact accounts⟩
  | cons action rest inductionHypothesis =>
      obtain ⟨first, next⟩ := act_accounts accounts action
      obtain ⟨second, last⟩ := inductionHypothesis next
      refine ⟨first ++ second, ?_⟩
      rw [← List.append_assoc]
      exact last

end Session

end PackageStore.Observer
