import PackageStore.Proofs.Network.Convergence
import PackageStore.Proofs.Network.Faultless
import PackageStore.Proofs.Network.Observed
import PackageStore.Proofs.OrderedMap.Filling

/-!
Contract: a dispatch is not disturbed by binders and listeners that fail.

Owns: what a dispatch has done when it is finished; which observers differ in nothing but in binders
that are not initialized and in the refusals of their listeners; and the theorem about one run and
about two of them.
-/

set_option autoImplicit false

namespace PackageStore.Observer

variable {κ : Type}

/-! ## Reports by role -/

theorem keys_results (observer : Observer κ) (reports : List (κ × Report)) :
    (observer.results reports).keys =
      (reports.map fun entry => observer.role entry.1).eraseDups := by
  have filled := OrderedMap.empty.keys_insertAll
    (reports.map fun entry => (observer.role entry.1, entry.2))
  rw [OrderedMap.keys_empty, List.nil_append, List.map_map] at filled
  exact filled

theorem get?_results (observer : Observer κ) (reports : List (κ × Report)) (role : Role) :
    (observer.results reports).get? role =
      OrderedMap.last? role (reports.map fun entry => (observer.role entry.1, entry.2)) :=
  (OrderedMap.empty.get?_insertAll _ role).trans Option.or_none

/-! ## Observers that differ in what fails -/

/-- The observers differ at most in binders that are not initialized, and in what their listeners
refuse. -/
structure Alike (one other : Observer κ) : Prop where
  role : one.role = other.role
  binders : one.binders.filter one.isHeld = other.binders.filter other.isHeld
  listeners : one.listeners.map Listener.number = other.listeners.map Listener.number
  bindings : ∀ key binder, one.binder key = .ok binder ↔ other.binder key = .ok binder

variable {one other observer : Observer κ}

theorem map_willing (listeners : List Listener) :
    listeners.map willing =
      (listeners.map Listener.number).map fun number => ⟨number, fun _ => none⟩ := by
  rw [List.map_map]
  rfl

theorem map_number_willing (listeners : List Listener) :
    (listeners.map willing).map Listener.number = listeners.map Listener.number := by
  rw [List.map_map]
  rfl

theorem binder_faultless_eq_ok_iff {key : κ} {binder : Binder} :
    observer.faultless.binder key = .ok binder ↔ observer.binder key = .ok binder := by
  cases known : observer.binder key with
  | ok own => rw [binder_faultless_of_ok known]
  | error failure =>
      rw [binder_faultless_of_error known]
      simp

/-- Observers are alike if they are one observer when what fails is left out. -/
theorem alike_iff : one.Alike other ↔ one.faultless = other.faultless := by
  constructor
  · intro alike
    apply Observer.ext
    case role => exact alike.role
    case binders => exact alike.binders
    case listeners =>
      have numbers := alike.listeners
      simp only [faultless, map_willing, numbers]
    case binder =>
      funext key
      have bindings := alike.bindings key
      rw [binder_faultless, binder_faultless]
      cases own : one.binder key with
      | ok binder => rw [(bindings binder).1 own]
      | error failure =>
          cases others : other.binder key with
          | ok binder => cases own.symm.trans ((bindings binder).2 others)
          | error failure => rfl
  · intro same
    constructor
    case role =>
      have roles := congrArg Observer.role same
      exact roles
    case binders =>
      have binders := congrArg Observer.binders same
      exact binders
    case listeners =>
      have numbers := congrArg (fun observer => observer.listeners.map Listener.number) same
      rw [← map_number_willing one.listeners, ← map_number_willing other.listeners]
      exact numbers
    case bindings =>
      intro key binder
      rw [← binder_faultless_eq_ok_iff, same, binder_faultless_eq_ok_iff]

theorem Alike.trans {third : Observer κ} (alike : one.Alike other) (alikeToo : other.Alike third) :
    one.Alike third :=
  alike_iff.2 ((alike_iff.1 alike).trans (alike_iff.1 alikeToo))

/-- A binder that is not initialized may stand anywhere on the list. -/
theorem alike_insert {key : κ} (vacant : observer.isHeld key = false) (before after : List κ) :
    Alike { observer with binders := before ++ after }
      { observer with binders := before ++ key :: after } where
  role := rfl
  binders := by
    have dropped : isHeld { observer with binders := before ++ key :: after } key = false := vacant
    rw [List.filter_append, List.filter_append, List.filter_cons_of_neg (by simp [dropped])]
    rfl
  listeners := rfl
  bindings _ _ := Iff.rfl

/-- The listeners may refuse anything. -/
theorem alike_refusing (observer : Observer κ) (refusal : Listener → Report → Option Failure) :
    observer.Alike
      { observer with
        listeners := observer.listeners.map fun listener =>
          ⟨listener.number, refusal listener⟩ } where
  role := rfl
  binders := rfl
  listeners := by
    rw [List.map_map]
    rfl
  bindings _ _ := Iff.rfl

/-! ## Finished dispatches -/

/-- What a dispatch has done when it is finished, said by its landings: the observation came to its
end at every initialized binder, in their order; the answer holds the reports by role; and every
listener was told every report, one report after another. -/
structure Dispatch.Completes (dispatch : Dispatch κ) (opened : Observer κ)
    (reports : List (κ × Report)) (landings : List (Landed κ)) (told : List (Nat × Report)) :
    Prop where
  binders : landings.map Landed.key = opened.binders.filter opened.isHeld
  concludes : ∀ landed ∈ landings,
    landed.before.Concludes dispatch.chain dispatch.ticket landed.landing
  settles : ∀ landed ∈ landings, landed.before.Listed →
    ∃ failure, landed.before.Settles dispatch.chain dispatch.ticket failure landed.landing
  numbered : ∀ landed ∈ landings, landed.report.ticket = dispatch.ticket
  answered : reports = landings.map Landed.entry
  roles : (opened.results reports).keys =
    ((opened.binders.filter opened.isHeld).map opened.role).eraseDups
  found : ∀ role, (opened.results reports).get? role =
    OrderedMap.last? role (landings.map fun landed => (opened.role landed.key, landed.report))
  told : told = landings.flatMap fun landed =>
    opened.listeners.map fun listener => (listener.number, landed.report)

namespace Session

/-- A dispatch is finished, with these reports. -/
def Finishes (session : Session κ) (number : Nat) (reports : List (κ × Report)) : Prop :=
  ∃ dispatch, session.dispatches[number]? = some dispatch ∧ dispatch.Finished reports

theorem finishes_faultless_iff {session : Session κ} {number : Nat}
    {reports : List (κ × Report)} :
    session.faultless.Finishes number reports ↔ session.Finishes number reports := by
  have place : session.faultless.dispatches[number]? =
      (session.dispatches[number]?).map (Dispatch.within session.observer.isHeld) :=
    List.getElem?_map
  have within : ∀ dispatch : Dispatch κ,
      (dispatch.within session.observer.isHeld).Finished reports ↔ dispatch.Finished reports := by
    rintro ⟨chain, ticket, phase⟩
    cases phase with
    | queued => exact iff_of_false nofun nofun
    | cancelled => exact iff_of_false nofun nofun
    | running progress =>
        simp only [Dispatch.Finished, Dispatch.within, Phase.within, Phase.running.injEq,
          Progress.within_ended_iff]
  unfold Finishes
  rw [place]
  cases session.dispatches[number]? with
  | none => simp
  | some dispatch => simp [within]

end Session

theorem Dispatch.Covers.completes {dispatch : Dispatch κ} {opened : Observer κ}
    {reports : List (κ × Report)} {landings : List (Landed κ)} {told : List (Nat × Report)}
    (covers : dispatch.Covers opened landings told) (finished : dispatch.Finished reports) :
    dispatch.Completes opened reports landings told := by
  have stands : dispatch.standing? opened = some ([], reports) := by
    rw [standing?, finished]
    rfl
  obtain ⟨reported, gone⟩ := covers.standing [] reports stands
  rw [List.filter_nil, List.append_nil] at gone
  constructor
  case binders => exact gone
  case concludes => exact covers.concludes
  case settles =>
    intro landed member
    exact (covers.concludes landed member).settles
  case numbered =>
    intro landed member
    exact (covers.concludes landed member).faithful.numbered
  case answered => exact reported
  case roles =>
    rw [keys_results, reported, ← gone, List.map_map, List.map_map]
    exact congrArg List.eraseDups rfl
  case found =>
    intro role
    rw [get?_results, reported, List.map_map]
    rfl
  case told =>
    rw [covers.told, tellings, List.flatMap_map]
    rfl

variable [DecidableEq κ]

namespace Session

open Network.Session (Action)

/-- **Dispatches are isolated from faults.** Let dispatches of an observer overlap in whatever
order. All changes of the binders are landings of the dispatches, one after another. A dispatch that
is finished has brought its observation to an end, with its ticket, at every initialized binder in
the order of the list; it answers with the reports of exactly these binders, by role; and it told
every listener every one of these reports, one after another, whether or not a listener refused.
With an observer that differs in binders that are not initialized and in what its listeners refuse,
the same actions come to the same bindings, tell every listener the same, and finish the same
dispatches with the same reports. -/
theorem faults_isolated (opened : Observer κ) (counter : Counter) (actions : List Action) :
    let session := (start opened counter).run actions
    (∃ history : List (Nat × Landed κ), Replays opened (history.map Prod.snd) session.observer ∧
      ∀ (number : Nat) (dispatch : Dispatch κ) (reports : List (κ × Report)),
        session.dispatches[number]? = some dispatch → dispatch.Finished reports →
          dispatch.Completes opened reports (ofDispatch number history)
            (ofDispatch number session.told)) ∧
    ∀ other : Observer κ, opened.Alike other →
      let varied := (start other counter).run actions
      session.observer.Alike varied.observer ∧ session.told = varied.told ∧
        ∀ number reports, session.Finishes number reports ↔ varied.Finishes number reports := by
  intro session
  constructor
  · obtain ⟨history, accounts⟩ := run_accounts (start_accounts opened counter) actions
    refine ⟨history, accounts.replays, ?_⟩
    intro number dispatch reports known finished
    exact (accounts.covers number dispatch known).completes finished
  · intro other alike varied
    have begins : (start opened counter).faultless = (start other counter).faultless := by
      simp only [faultless, start, List.map_nil, alike_iff.1 alike]
    have same : session.faultless = varied.faultless := by
      rw [run_faultless, run_faultless, begins]
    have told := congrArg Session.told same
    refine ⟨?_, told, ?_⟩
    · rw [alike_iff]
      have observers := congrArg Session.observer same
      exact observers
    · intro number reports
      rw [← finishes_faultless_iff, same, finishes_faultless_iff]

/-- A store and a registry, and a third slot that was never initialized. -/
def halfInitialized : Network :=
  { Network.Session.storeAndRegistry with
    slots := Network.Session.storeAndRegistry.slots.insert .ensRegistry
      (.vacant ⟨.ensRegistry, .empty .ensRegistry, "https://rpc.example.org"⟩) }

/-- The two initialized binders with two listeners. -/
def undisturbed : Observer Role :=
  { halfInitialized.observer with
    binders := [.packageStore, .dotOs]
    listeners := [⟨0, fun _ => none⟩, ⟨1, fun _ => none⟩] }

/-- The same with the third binder in front, and with listeners that refuse everything. -/
def disturbed : Observer Role :=
  { undisturbed with
    binders := [.ensRegistry, .packageStore, .dotOs]
    listeners := undisturbed.listeners.map fun listener =>
      ⟨listener.number, fun _ => some (.raised "ValueError" "not now")⟩ }

theorem undisturbed_alike : undisturbed.Alike disturbed := by
  have vacant : undisturbed.isHeld .ensRegistry = false := rfl
  have inserted := alike_insert vacant [] [.packageStore, .dotOs]
  exact inserted.trans (alike_refusing _ _)

/-- Two dispatches overlap, and the one that began first is finished last, with two reports. -/
theorem faults_isolated_overtaking :
    let session := (start undisturbed .fresh).run Network.Session.overtaking
    let varied := (start disturbed .fresh).run Network.Session.overtaking
    undisturbed.Alike disturbed ∧ session.told = varied.told ∧
      ∃ reports, session.Finishes 0 reports ∧ varied.Finishes 0 reports ∧
        (undisturbed.results reports).keys = [.packageStore, .dotOs] := by
  intro session varied
  obtain ⟨⟨history, -, completes⟩, twin⟩ :=
    faults_isolated undisturbed .fresh Network.Session.overtaking
  obtain ⟨-, told, finishes⟩ := twin disturbed undisturbed_alike
  have ends : ∃ dispatch reports, session.dispatches[0]? = some dispatch ∧
      dispatch.Finished reports := ⟨_, _, rfl, rfl⟩
  obtain ⟨dispatch, reports, known, finished⟩ := ends
  have done : session.Finishes 0 reports := ⟨dispatch, known, finished⟩
  refine ⟨undisturbed_alike, told, reports, done, (finishes 0 reports).1 done, ?_⟩
  rw [(completes 0 dispatch reports known finished).roles]
  decide

end Session

end PackageStore.Observer
