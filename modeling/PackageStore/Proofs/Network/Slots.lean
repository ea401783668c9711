import PackageStore.Network.Dispatch
import PackageStore.Proofs.Network.Sweep
import PackageStore.Proofs.OrderedMap.Filling

/-!
Contract: a network is the observer of its slots.

Owns: that the slots of a network hold what they took over; and that each operation of a network's
dispatch is that of the observer and changes nothing but slots, so that what holds of all observers
holds of all networks.

Does not own: what a dispatch does at a binder.
-/

set_option autoImplicit false

namespace PackageStore

namespace Observer

variable {κ : Type} {observer opened current : Observer κ} {key : κ} {failure : Failure}

theorem site_eq_error_iff : observer.site key = .error failure ↔
    observer.binder key = .error failure := by
  unfold site
  cases observer.binder key <;> simp [Except.map]

/-- A binder that could not be had cannot be had either afterwards. -/
theorem Keeps.binder_eq_error_iff (keeps : opened.Keeps current) :
    current.binder key = .error failure ↔ opened.binder key = .error failure := by
  rw [← site_eq_error_iff, keeps.site, site_eq_error_iff]

end Observer

namespace Network

variable {network : Network} {observer : Observer Role}

/-! ## What slots take over -/

theorem binder_adopt (keeps : network.observer.Keeps observer) :
    (network.adopt observer).binder = observer.binder := by
  funext role
  rw [Network.binder, adopt, OrderedMap.get?_mapEntries]
  cases known : observer.binder role with
  | error failure =>
      have before : network.binder role = .error failure := keeps.binder_eq_error_iff.1 known
      refine Eq.trans ?_ before
      rw [Network.binder]
      cases network.slots.get? role <;> rfl
  | ok binder =>
      cases found : network.slots.get? role with
      | none =>
          have before : network.observer.binder role =
              .error (.configuration (.noBinder role)) := by
            show network.binder role = _
            rw [Network.binder, found]
          cases known.symm.trans (keeps.binder_eq_error_iff.2 before)
      | some slot => rfl

/-- The slots are then those of the observer. -/
theorem observer_adopt (keeps : network.observer.Keeps observer) :
    (network.adopt observer).observer = observer := by
  apply Observer.ext
  case role => exact keeps.role.symm
  case binders => exact (OrderedMap.keys_mapEntries _ _).trans keeps.binders.symm
  case listeners => exact keeps.listeners.symm
  case binder => exact binder_adopt keeps

/-- A slot is filled as an observer puts a binder in its place. -/
theorem binder_hold (network : Network) (role : Role) (binder : Binder) :
    (network.hold role binder).binder = (network.observer.hold role binder).binder := by
  funext other
  by_cases here : other = role
  · subst here
    rw [network.binder_hold_self, network.observer.binder_hold_self]
  · rw [network.binder_hold_of_ne binder (Ne.symm here),
      network.observer.binder_hold_of_ne binder (Ne.symm here)]
    rfl

/-- The step of the observer that a step of the network stands for. -/
def Step.observed (step : Step) : Observer.Step Role :=
  ⟨step.network.observer, step.progress, step.effects⟩

/-- A step of the network takes over a step of the observer of its slots. -/
structure Takes (network : Network) (own : Observer.Step Role) (step : Step) : Prop where
  keeps : network.observer.Keeps own.observer
  taken : step = network.takeOver own

namespace Takes

variable {own : Observer.Step Role} {step : Step}

theorem observed (takes : network.Takes own step) : step.observed = own := by
  have same : step.network.observer = own.observer := by
    rw [takes.taken]
    exact observer_adopt takes.keeps
  rw [Step.observed, same, takes.taken]
  rfl

/-- A step changes slots and nothing else. -/
theorem frame (takes : network.Takes own step) :
    step.network = { network with slots := step.network.slots } := by
  rw [takes.taken]
  rfl

theorem counter (takes : network.Takes own step) : step.network.counter = network.counter := by
  rw [takes.frame]

theorem binder (takes : network.Takes own step) (role : Role) :
    step.network.binder role = own.observer.binder role := by
  rw [← takes.observed]
  rfl

end Takes

/-- A step announces what it adds to the reports that the dispatch had before. -/
def Tells (network : Network) (ticket : Ticket) (earlier : List (Role × Report)) (step : Step) :
    Prop :=
  ∃ news, step.progress.reports = earlier ++ news ∧
    network.observer.Announces ticket news step.network.observer ∧
    step.effects.filterMap Effect.told? = Observer.tellings network.listeners news

theorem Takes.tells {own : Observer.Step Role} {step : Step} (takes : network.Takes own step)
    {ticket : Ticket} {earlier : List (Role × Report)} {landings : List (Observer.Landed Role)}
    (tells : Observer.Tells network.observer ticket earlier own landings) :
    network.Tells ticket earlier step := by
  rw [← takes.observed] at tells
  exact ⟨_, tells.reports, tells.announces, tells.told⟩

/-! ## The operations of a dispatch -/

section Operations

variable (network : Network) (rebind : Observer.Rebind Role) (failure : Option Failure)

theorem dispatch_goesOver (chain : Option Chain) (ticket : Ticket) :
    ∃ landings, Observer.GoesOver network.observer chain ticket network.roles []
      (network.observer.dispatch chain ticket) landings :=
  Observer.visit_goesOver chain ticket network.roles [] network.observer

theorem dispatch_takes (chain : Option Chain) (ticket : Ticket) :
    network.Takes (network.observer.dispatch chain ticket) (network.dispatch chain ticket) := by
  obtain ⟨landings, goesOver⟩ := network.dispatch_goesOver chain ticket
  exact ⟨goesOver.toTells.keeps, rfl⟩

theorem signerAnswered_takes :
    network.Takes (network.observer.signerAnswered rebind failure)
      (network.signerAnswered rebind failure) := by
  obtain ⟨landings, tells, -⟩ := network.observer.signerAnswered_resumes rebind failure
  exact ⟨tells.keeps, rfl⟩

theorem contractAnswered_takes :
    network.Takes (network.observer.contractAnswered rebind failure)
      (network.contractAnswered rebind failure) := by
  obtain ⟨landings, tells, -⟩ := network.observer.contractAnswered_resumes rebind failure
  exact ⟨tells.keeps, rfl⟩

theorem dispatch_tells (chain : Option Chain) (ticket : Ticket) :
    network.Tells ticket [] (network.dispatch chain ticket) := by
  obtain ⟨landings, goesOver⟩ := network.dispatch_goesOver chain ticket
  exact (network.dispatch_takes chain ticket).tells goesOver.toTells

theorem signerAnswered_tells :
    network.Tells rebind.observation.ticket rebind.reports
      (network.signerAnswered rebind failure) := by
  obtain ⟨landings, tells, -⟩ := network.observer.signerAnswered_resumes rebind failure
  exact (network.signerAnswered_takes rebind failure).tells tells

theorem contractAnswered_tells :
    network.Tells rebind.observation.ticket rebind.reports
      (network.contractAnswered rebind failure) := by
  obtain ⟨landings, tells, -⟩ := network.observer.contractAnswered_resumes rebind failure
  exact (network.contractAnswered_takes rebind failure).tells tells

end Operations

end Network

end PackageStore
