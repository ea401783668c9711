import PackageStore.Network.Observer
import PackageStore.Proofs.Binding.Session

/-!
Contract: what the ends of observations announce.

Owns: what every end of an observation reports of its binder, without any assumption about the
binder; a series of such ends, each at the binder that the ones before it left; what stays the same
throughout a series; and what the listeners are told about its reports.

A binder is put back and its report is told with no pause in between. This is why nothing can come
between a change of a binding and its announcement, whatever else is under way.
-/

set_option autoImplicit false

namespace PackageStore

namespace Binder

/-- The end of an observation says of the binder what is so: the report carries the binding that is
then in force and the ticket of the observation, and only a newer ticket is not stale. -/
structure Faithful (binder : Binder) (ticket : Ticket) (landing : Landing) : Prop where
  site : landing.binder.site = binder.site
  home : landing.binder.home = binder.home
  applied : landing.binder.mark.applied = max binder.mark.applied ticket
  binding : landing.report.binding = landing.binder.active
  numbered : landing.report.ticket = ticket
  newer : landing.report.status ≠ .stale → binder.mark.applied < ticket

variable {binder : Binder} {ticket : Ticket}

theorem discard_faithful (named : Option Chain) (older : ticket ≤ binder.mark.applied) :
    binder.Faithful ticket (binder.discard ticket named) where
  site := rfl
  home := rfl
  applied := (Int.max_eq_left older).symm
  binding := rfl
  numbered := rfl
  newer notStale := absurd rfl notStale

theorem guarded_faithful {landing : Landing} {signed : Option Binding} (named : Option Chain)
    (lands : landing.binder = binder.land ticket signed)
    (binding : landing.report.binding = signed.getD binder.home)
    (numbered : landing.report.ticket = ticket) :
    binder.Faithful ticket
      (if binder.mark.admits ticket then landing else binder.discard ticket named) := by
  by_cases newer : binder.mark.applied < ticket
  · rw [if_pos ((Watermark.admits_iff _ _).2 newer)]
    refine ⟨?_, ?_, ?_, ?_, numbered, fun _ => newer⟩
    · rw [lands, land_site]
    · rw [lands, land_home]
    · rw [lands, land_applied]
    · rw [lands, binding]
      rfl
  · rw [if_neg (fun admitted => newer ((Watermark.admits_iff _ _).1 admitted))]
    exact discard_faithful named (Int.not_lt.1 newer)

theorem settleReadOnly_faithful (status : Verdict) (warning : Option Undeployed) :
    binder.Faithful ticket (binder.settleReadOnly ticket status warning) :=
  guarded_faithful none rfl rfl rfl

theorem signerFailed_faithful (observation : Observation) (failure : Failure) :
    binder.Faithful observation.ticket (binder.signerFailed observation failure) :=
  guarded_faithful (some observation.chain) rfl rfl rfl

theorem confirm_faithful (chain : Chain) :
    binder.Faithful ticket (binder.confirm ticket chain) :=
  guarded_faithful (some chain) rfl rfl rfl

theorem contractAnswered_faithful (binder : Binder) (observation : Observation)
    (failure : Option Failure) :
    binder.Faithful observation.ticket (binder.contractAnswered observation failure) := by
  cases failure with
  | some failure => exact signerFailed_faithful observation failure
  | none => exact guarded_faithful (some observation.chain) rfl rfl rfl

theorem observe_faithful {chain : Option Chain} {landing : Landing}
    (ended : binder.observe chain ticket = .ended landing) : binder.Faithful ticket landing := by
  unfold observe at ended
  split at ended
  next =>
    cases ended
    exact settleReadOnly_faithful .disconnected none
  next chain =>
    split at ended
    next =>
      cases ended
      exact settleReadOnly_faithful .unsupportedNetwork _
    next =>
      split at ended
      next =>
        cases ended
        exact confirm_faithful chain
      next => cases ended

theorem signerAnswered_faithful {observation : Observation} {failure : Option Failure}
    {landing : Landing} (ended : binder.signerAnswered observation failure = .ended landing) :
    binder.Faithful observation.ticket landing := by
  unfold signerAnswered at ended
  split at ended
  next failure =>
    cases ended
    exact signerFailed_faithful observation failure
  next =>
    split at ended
    next => cases ended
    next late =>
      cases ended
      rw [Watermark.admits_iff] at late
      exact discard_faithful _ (Int.not_lt.1 late)

end Binder

/-- Whom an effect tells what, if it tells someone something. -/
def Effect.told? : Effect → Option (Nat × Report)
  | .told listener report => some (listener, report)
  | _ => none

namespace Observer

variable {κ : Type}

/-- What the listeners are told about reports: each of them every report, one report after
another. -/
def tellings (listeners : List Listener) (news : List (κ × Report)) : List (Nat × Report) :=
  news.flatMap fun entry => listeners.map fun listener => (listener.number, entry.2)

theorem tellings_append (listeners : List Listener) (first second : List (κ × Report)) :
    tellings listeners (first ++ second) = tellings listeners first ++ tellings listeners second :=
  List.flatMap_append

theorem told?_logged (lines : List LogLine) :
    (lines.map Effect.logged).filterMap Effect.told? = [] := by
  rw [List.filterMap_map, List.filterMap_eq_nil_iff]
  exact fun line _ => rfl

theorem told?_tell (listeners : List Listener) (report : Report) :
    (tell listeners report).filterMap Effect.told? =
      listeners.map fun listener => (listener.number, report) := by
  induction listeners with
  | nil => rfl
  | cons listener rest inductionHypothesis =>
      have refused : ((listener.refusal report).map fun failure =>
          Effect.logged (refusedLine failure)).toList.filterMap Effect.told? = [] := by
        cases listener.refusal report <;> rfl
      have first : Effect.told? (.told listener.number report) =
          some (listener.number, report) := rfl
      unfold tell at inductionHypothesis ⊢
      rw [List.flatMap_cons, List.filterMap_append, inductionHypothesis, List.map_cons,
        List.filterMap_cons, first, refused, List.cons_append, List.nil_append]

/-! ## What stays while binders are observed -/

/-- What a binder is for, or the failure that it is not initialized. -/
def site (observer : Observer κ) (key : κ) : Except Failure Site :=
  (observer.binder key).map Binder.site

/-- All but the bindings is as it was. -/
structure Keeps (before after : Observer κ) : Prop where
  role : after.role = before.role
  binders : after.binders = before.binders
  listeners : after.listeners = before.listeners
  site : after.site = before.site

variable {observer opened current : Observer κ} {key : κ} {binder : Binder}

theorem Keeps.refl (observer : Observer κ) : observer.Keeps observer :=
  ⟨rfl, rfl, rfl, rfl⟩

theorem Keeps.trans {between : Observer κ} (first : opened.Keeps between)
    (second : between.Keeps current) : opened.Keeps current :=
  ⟨second.role.trans first.role, second.binders.trans first.binders,
    second.listeners.trans first.listeners, second.site.trans first.site⟩

theorem site_of_binder (known : observer.binder key = .ok binder) :
    observer.site key = .ok binder.site := by
  rw [site, known]
  rfl

theorem isHeld_eq (observer : Observer κ) (key : κ) :
    observer.isHeld key = (observer.site key).isOk := by
  unfold isHeld site
  cases observer.binder key <;> rfl

theorem Keeps.isHeld (keeps : opened.Keeps current) : current.isHeld = opened.isHeld := by
  funext key
  rw [isHeld_eq, isHeld_eq, keeps.site]

theorem isHeld_of_binder (known : observer.binder key = .ok binder) :
    observer.isHeld key = true := by
  rw [isHeld, known]
  rfl

theorem not_isHeld_of_error {failure : Failure} (missing : observer.binder key = .error failure) :
    observer.isHeld key = false := by
  rw [isHeld, missing]
  rfl

/-- A binder that was initialized can be had. -/
theorem exists_binder_of_site {site : Site} (known : observer.site key = .ok site) :
    ∃ binder, observer.binder key = .ok binder ∧ binder.site = site := by
  unfold Observer.site at known
  cases found : observer.binder key with
  | error failure =>
      rw [found] at known
      cases known
  | ok binder =>
      rw [found] at known
      cases known
      exact ⟨binder, rfl, rfl⟩

variable [DecidableEq κ]

theorem keeps_hold {later : Binder} (known : observer.binder key = .ok binder)
    (same : later.site = binder.site) : observer.Keeps (observer.hold key later) := by
  refine ⟨rfl, rfl, rfl, ?_⟩
  funext other
  by_cases here : other = key
  · rw [here, site_of_binder known, site_of_binder (observer.binder_hold_self key later), same]
  · simp only [site, hold, here, if_false]

/-! ## A series of landings -/

/-- An observation ended at a binder, which was as `before` says. -/
structure Landed (κ : Type) where
  key : κ
  before : Binder
  landing : Binder.Landing

def Landed.report (landed : Landed κ) : Report :=
  landed.landing.report

def Landed.entry (landed : Landed κ) : κ × Report :=
  (landed.key, landed.report)

/-- The landings follow one another, each at the binder that the ones before it left, and there is
no other change. -/
inductive Replays : Observer κ → List (Landed κ) → Observer κ → Prop where
  | nothing (observer : Observer κ) : Replays observer [] observer
  | lands {observer after : Observer κ} {landed : Landed κ} {later : List (Landed κ)}
      (known : observer.binder landed.key = .ok landed.before)
      (rest : Replays (observer.hold landed.key landed.landing.binder) later after) :
      Replays observer (landed :: later) after

theorem Replays.append {first second : List (Landed κ)} {between : Observer κ}
    (replays : Replays opened first between) (replaysToo : Replays between second current) :
    Replays opened (first ++ second) current := by
  induction replays with
  | nothing => exact replaysToo
  | lands known _ inductionHypothesis => exact .lands known (inductionHypothesis replaysToo)

/-- Observations of one ticket end one after another at binders, with these reports, and there is
no other change. -/
def Announces (opened : Observer κ) (ticket : Ticket) (news : List (κ × Report))
    (current : Observer κ) : Prop :=
  ∃ landings : List (Landed κ), Replays opened landings current ∧
    (∀ landed ∈ landings, landed.before.Faithful ticket landed.landing) ∧
    news = landings.map Landed.entry

variable {ticket : Ticket} {news : List (κ × Report)}

/-- What holds at first and is kept where an observation ends at a binder, holds after a series. -/
theorem Announces.carries {motive : Observer κ → List (κ × Report) → Prop}
    (announces : opened.Announces ticket news current) (heard : List (κ × Report))
    (lands : ∀ observer heard key binder landing, observer.binder key = .ok binder →
      binder.Faithful ticket landing → motive observer heard →
      motive (observer.hold key landing.binder) (heard ++ [(key, landing.report)]))
    (initially : motive opened heard) : motive current (heard ++ news) := by
  obtain ⟨landings, replays, faithful, rfl⟩ := announces
  induction replays generalizing heard with
  | nothing observer =>
      rw [List.map_nil, List.append_nil]
      exact initially
  | @lands observer after landed later known rest inductionHypothesis =>
      obtain ⟨first, others⟩ := List.forall_mem_cons.1 faithful
      have next :=
        lands observer heard landed.key landed.before landed.landing known first initially
      rw [List.map_cons, List.append_cons]
      exact inductionHypothesis _ next others

/-- A series of landings leaves alone what the binders are for. -/
theorem Announces.keeps (announces : opened.Announces ticket news current) :
    opened.Keeps current := by
  refine announces.carries (motive := fun observer _ => opened.Keeps observer) [] ?_
    (.refl opened)
  intro observer _ key binder landing known faithful keeps
  exact keeps.trans (keeps_hold known faithful.site)

end Observer

end PackageStore
