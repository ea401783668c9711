import PackageStore.Binding.Binder
import PackageStore.OrderedMap

/-!
Contract: the run of one observation over any list of binders.

Owns: the list, which may name a binder more than once and hold several binders of one role; the
visit of the binders in order, which pauses wherever one of them needs the signer or a contract
handle, and which tells the listeners about each report; and the reports of a run by role. A binder
that is not initialized and a listener that fails are logged and passed over.

Does not own: the tickets, and who answers for the signer and for the connectors. Their answers are
arguments, and other dispatches may run during a pause.
-/

set_option autoImplicit false

namespace PackageStore

/-- Someone who is told about every report. `refusal` is the failure that telling it meets with. -/
structure Listener where
  number : Nat
  refusal : Report → Option Failure

/-- What can be seen from outside while binders are observed, in order. -/
inductive Effect where
  | logged (line : LogLine)
  | told (listener : Nat) (report : Report)
  /-- A connector was asked for the public endpoint. -/
  | provided (role : Role) (url : String)
  /-- A connector built a contract handle. -/
  | connected (role : Role)
deriving Repr

/-- A list of binders, told apart by keys, and the listeners that are told about their reports. A
binder that was not initialized fails when it is used. -/
@[ext]
structure Observer (κ : Type) where
  role : κ → Role
  binders : List κ
  listeners : List Listener
  binder : κ → Except Failure Binder

namespace Observer

/-- A dispatch that pauses at a binder: what is left of that binder's observation, the binders
ahead, and the reports so far. -/
structure Rebind (κ : Type) where
  key : κ
  observation : Binder.Observation
  ahead : List κ
  reports : List (κ × Report)
deriving Repr

/-- How far a dispatch has come. -/
inductive Progress (κ : Type) where
  | needsSigner (rebind : Rebind κ)
  | needsContract (rebind : Rebind κ)
  | ended (reports : List (κ × Report))
deriving Repr

/-- The outcome of a dispatch up to its next pause or its end. -/
structure Step (κ : Type) where
  observer : Observer κ
  progress : Progress κ
  effects : List Effect

/-- The line about a listener that failed. -/
def refusedLine (failure : Failure) : LogLine :=
  ⟨.error, s!"Error in network status listener: {failure.message}"⟩

/-- Tells listeners one after another about a report, whether or not the ones before failed. -/
def tell (listeners : List Listener) (report : Report) : List Effect :=
  listeners.flatMap fun listener =>
    .told listener.number report
      :: ((listener.refusal report).map fun failure => .logged (refusedLine failure)).toList

/-- The line about a binder that was passed over. -/
def skippedLine (role : Role) (chain : Option Chain) (failure : Failure) : LogLine :=
  ⟨.error,
    s!"Rebinding {role.name} to chain {Chain.observed chain} failed: {failure.message}"⟩

variable {κ : Type}

/-- Puts effects in front of those of a step. -/
def Step.after (effects : List Effect) (step : Step κ) : Step κ :=
  { step with effects := effects ++ step.effects }

/-- The reports of a dispatch by role. Of two reports for one role the later one counts. -/
def results (observer : Observer κ) (reports : List (κ × Report)) : OrderedMap Role Report :=
  .ofList (reports.map fun entry => (observer.role entry.1, entry.2))

/-- Whether a binder was initialized. -/
def isHeld (observer : Observer κ) (key : κ) : Bool :=
  (observer.binder key).isOk

variable [DecidableEq κ]

/-- Puts a binder in its place. -/
def hold (observer : Observer κ) (key : κ) (binder : Binder) : Observer κ :=
  { observer with
    binder := fun other => if other = key then .ok binder else observer.binder other }

@[simp] theorem binder_hold_self (observer : Observer κ) (key : κ) (binder : Binder) :
    (observer.hold key binder).binder key = .ok binder :=
  if_pos rfl

theorem binder_hold_of_ne (observer : Observer κ) {key other : κ} (binder : Binder)
    (different : other ≠ key) :
    (observer.hold other binder).binder key = observer.binder key :=
  if_neg (Ne.symm different)

/-- Takes over the end of an observation at a binder: the listeners are told, and the dispatch goes
on. -/
def absorb (observer : Observer κ) (key : κ) (landing : Binder.Landing)
    (reports : List (κ × Report)) (goOn : List (κ × Report) → Observer κ → Step κ) : Step κ :=
  (goOn (reports ++ [(key, landing.report)]) (observer.hold key landing.binder)).after
    (landing.log.map Effect.logged ++ tell observer.listeners landing.report)

/-- Visits binders in order with an observation. -/
def visit (chain : Option Chain) (ticket : Ticket) :
    List κ → List (κ × Report) → Observer κ → Step κ
  | [], reports, observer => ⟨observer, .ended reports, []⟩
  | key :: ahead, reports, observer =>
      match observer.binder key with
      | .error failure =>
          (visit chain ticket ahead reports observer).after
            [.logged (skippedLine (observer.role key) chain failure)]
      | .ok binder =>
          match binder.observe chain ticket with
          | .ended landing => observer.absorb key landing reports (visit chain ticket ahead)
          | .paused observation =>
              ⟨observer, .needsSigner ⟨key, observation, ahead, reports⟩, []⟩

/-- Begins the dispatch of an observation that has its ticket. -/
def dispatch (observer : Observer κ) (chain : Option Chain) (ticket : Ticket) : Step κ :=
  visit chain ticket observer.binders [] observer

namespace Rebind

/-- Visits the binders ahead. -/
def goOn (rebind : Rebind κ) : List (κ × Report) → Observer κ → Step κ :=
  visit (some rebind.observation.chain) rebind.observation.ticket rebind.ahead

/-- Passes over the binder, which could not be had. -/
def skip (rebind : Rebind κ) (observer : Observer κ) (failure : Failure) : Step κ :=
  (rebind.goOn rebind.reports observer).after
    [.logged (skippedLine (observer.role rebind.key) (some rebind.observation.chain) failure)]

end Rebind

/-- The wallet answered a paused dispatch: with its signer, or with a failure. -/
def signerAnswered (observer : Observer κ) (rebind : Rebind κ) (failure : Option Failure) :
    Step κ :=
  match observer.binder rebind.key with
  | .error missing => rebind.skip observer missing
  | .ok binder =>
      match binder.signerAnswered rebind.observation failure with
      | .ended landing => observer.absorb rebind.key landing rebind.reports rebind.goOn
      | .paused observation => ⟨observer, .needsContract { rebind with observation }, []⟩

/-- The connector answered a paused dispatch: with the contract handle, or with a failure. -/
def contractAnswered (observer : Observer κ) (rebind : Rebind κ) (failure : Option Failure) :
    Step κ :=
  match observer.binder rebind.key with
  | .error missing => rebind.skip observer missing
  | .ok binder =>
      (observer.absorb rebind.key (binder.contractAnswered rebind.observation failure)
        rebind.reports rebind.goOn).after
          (if failure.isNone then [.connected (observer.role rebind.key)] else [])

end Observer

end PackageStore
