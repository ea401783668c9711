import PackageStore.Proofs.Network.Session

/-!
Contract: what one role sees of a network is a session of its binder alone.

Owns: the relation between the dispatches of a network and the observations of a binder under
their numbers, its preservation by every action, and the run of the binder that it leads to.

A dispatch that reaches a role initiates an observation there, with the ticket of the dispatch. So
the binders of two roles may see the dispatches in different orders.
-/

set_option autoImplicit false

namespace PackageStore.Network

/-- What a role has seen of a dispatch that has come to a place there: nothing while the dispatch
is ahead, then an observation that has come as far, and in the end whether it failed. Of a
cancelled dispatch, an observation may be left that goes on no more. -/
inductive Seen (chain : Option Chain) (ticket : Ticket) :
    Bool → Option Observer.Place → Option Binder.Sighting → Prop where
  | ahead : Seen chain ticket false (some .ahead) none
  | awaitsSigner (observation : Binder.Observation) :
      Seen chain ticket false (some (.awaitsSigner observation))
        (some ⟨chain, ticket, .awaitsSigner observation⟩)
  | awaitsContract (observation : Binder.Observation) :
      Seen chain ticket false (some (.awaitsContract observation))
        (some ⟨chain, ticket, .awaitsContract observation⟩)
  | passed (failure : Option Failure) (report : Report) :
      Seen chain ticket failure.isSome (some .passed)
        (some ⟨chain, ticket, .ended failure report⟩)
  | left {failed : Bool} {sighting : Option Binder.Sighting}
      (own : ∀ found, sighting = some found → found.chain = chain ∧ found.ticket = ticket) :
      Seen chain ticket failed none sighting

/-- Whether the signer or the connector answered the dispatch at a role with a failure. -/
def Dispatch.failedAt (dispatch : Dispatch) (role : Role) : Bool :=
  decide (role ∈ dispatch.refused)

theorem Dispatch.failedAt_answered (dispatch : Dispatch) (answerer : Role)
    (failure : Option Failure) (role : Role) :
    (dispatch.answered answerer failure).failedAt role =
      (dispatch.failedAt role || (if answerer = role then failure else none).isSome) := by
  cases failure with
  | none => simp [answered, failedAt]
  | some failure =>
      by_cases here : answerer = role
      · simp [answered, failedAt, here]
      · simp [answered, failedAt, here, Ne.symm here]

def Dispatch.Seen (dispatch : Dispatch) (role : Role) (sighting : Option Binder.Sighting) : Prop :=
  Network.Seen dispatch.chain dispatch.ticket (dispatch.failedAt role) (dispatch.place? role)
    sighting

/-- A session of the binder of a role in which the dispatches are seen under their numbers. -/
structure Session.Mirrors (session : Session) (role : Role) (mirror : Binder.Session) : Prop where
  binder : session.network.binder role = .ok mirror.binder
  seen : ∀ (number : Nat) (dispatch : Dispatch), session.dispatches[number]? = some dispatch →
    dispatch.Seen role (mirror.sightings.get? number)
  beyond : ∀ number : Nat, session.dispatches[number]? = none →
    mirror.sightings.get? number = none

variable {chain : Option Chain} {ticket : Ticket} {failed : Bool} {role : Role}

/-- What is seen of a dispatch is about its chain, under its ticket. -/
theorem Seen.own {place : Option Observer.Place} {sighting : Option Binder.Sighting}
    (seen : Seen chain ticket failed place sighting) :
    ∀ found, sighting = some found → found.chain = chain ∧ found.ticket = ticket := by
  cases seen with
  | ahead =>
      intro found known
      cases known
  | left own => exact own
  | _ =>
      intro found known
      cases known
      exact ⟨rfl, rfl⟩

/-- A finished dispatch was seen to its end. -/
theorem Dispatch.Seen.of_finished {dispatch : Dispatch} {sighting : Option Binder.Sighting}
    (seen : dispatch.Seen role sighting) (finished : dispatch.Finished) :
    ∃ failure report, failure.isSome = dispatch.failedAt role ∧
      sighting = some ⟨dispatch.chain, dispatch.ticket, .ended failure report⟩ := by
  obtain ⟨reports, ended⟩ := finished
  have passed : dispatch.place? role = some .passed := by rw [place?, ended]; rfl
  rw [Dispatch.Seen, passed] at seen
  generalize dispatch.failedAt role = failed at seen ⊢
  cases seen with
  | passed failure report => exact ⟨failure, report, rfl, rfl⟩

/-! ## The moves at a role are steps of its binder -/

/-- A binder runs on to another one, in a way that touches the observation of one number only, of
which this much is seen in the end. -/
def RunsTo (mirror : Binder.Session) (number : Nat) (after : Binder)
    (sees : Option Binder.Sighting → Prop) : Prop :=
  ∃ actions, (mirror.run actions).binder = after ∧
    sees ((mirror.run actions).sightings.get? number) ∧
    ∀ other, number ≠ other →
      (mirror.run actions).sightings.get? other = mirror.sightings.get? other

variable {mirror : Binder.Session} {number : Nat} {failure : Option Failure}

theorem runsTo_record {action : Binder.Session.Action} {after : Binder}
    {sighting : Binder.Sighting} {sees : Option Binder.Sighting → Prop}
    (acts : mirror.act action = { mirror with binder := after }.record number sighting)
    (seen : sees (some sighting)) : RunsTo mirror number after sees := by
  have once : mirror.run [action] = _ := acts
  refine ⟨[action], ?_⟩
  rw [once]
  simp only [Binder.Session.record_binder, Binder.Session.get?_record, if_true, true_and]
  exact ⟨seen, fun other different => if_neg different⟩

/-- A move at a role is a run of its binder. -/
theorem mirrored_of_moves {place arrived : Observer.Place} {binder after : Binder}
    (moves : Observer.Moves chain ticket place binder failure arrived after)
    (same : mirror.binder = binder)
    (seen : Seen chain ticket failed (some place) (mirror.sightings.get? number)) :
    RunsTo mirror number after (Seen chain ticket (failed || failure.isSome) (some arrived)) := by
  generalize known : mirror.sightings.get? number = sighting at seen
  subst same
  cases moves with
  | stays =>
      rw [Option.isSome_none, Bool.or_false]
      exact ⟨[], rfl, known ▸ seen, fun _ _ => rfl⟩
  | @pauses _ observation paused =>
      cases seen
      have acts := Binder.Session.act_observe_of_unused known chain (some ticket)
      simp only [Binder.Session.draw, paused] at acts
      exact runsTo_record acts (.awaitsSigner observation)
  | @lands _ landing ended =>
      cases seen
      have acts := Binder.Session.act_observe_of_unused known chain (some ticket)
      simp only [Binder.Session.draw, ended] at acts
      exact runsTo_record acts (.passed none landing.report)
  | @signs _ observation paused =>
      cases seen
      have acts := Binder.Session.act_signerAnswers_of_waiting known none
      rw [paused] at acts
      exact runsTo_record acts (.awaitsContract observation)
  | @signerLands _ observation failure landing ended =>
      cases seen
      have acts := Binder.Session.act_signerAnswers_of_waiting known failure
      rw [ended] at acts
      exact runsTo_record acts (.passed failure landing.report)
  | contractLands _ observation failure =>
      cases seen
      have acts := Binder.Session.act_connectorAnswers_of_waiting known failure
      exact runsTo_record acts (.passed failure _)

/-! ## What a role sees of a run -/

namespace Session

variable {session next : Session} {succeeds : Prop}

theorem start_mirrors {network : Network} {site : Site} {chain : Chain} {address : Address}
    (initially : network.binder role = .ok ((Slot.vacant site).bindReadOnly chain address)) :
    (start network).Mirrors role (Binder.Session.start site chain address .fresh) where
  binder := initially
  seen number dispatch known := by cases known
  beyond number _ := rfl

theorem Mirrors.enqueue (mirrors : session.Mirrors role mirror) (chain : Option Chain)
    {issued : Ticket × Network} (issues : Issues session.network issued) :
    (session.enqueue chain issued).Mirrors role mirror where
  binder := (issues.binders role).trans mirrors.binder
  seen number dispatch known := by
    rw [getElem?_enqueue] at known
    split at known
    next last =>
      cases known
      rw [last, mirrors.beyond _ (List.getElem?_eq_none (Nat.le_refl _))]
      exact .ahead
    next => exact mirrors.seen number dispatch known
  beyond number unknown := by
    rw [getElem?_enqueue] at unknown
    split at unknown
    next => cases unknown
    next => exact mirrors.beyond number unknown

/-- One dispatch is replaced by another one, of which the role has seen as much. -/
theorem Mirrors.replace (mirrors : session.Mirrors role mirror) {number : Nat}
    {former : Dispatch} (known : session.dispatches[number]? = some former) {later : Dispatch}
    {network : Network} {reached : Binder.Session}
    (binder : network.binder role = .ok reached.binder)
    (seen : later.Seen role (reached.sightings.get? number))
    (others : ∀ other, number ≠ other →
      reached.sightings.get? other = mirror.sightings.get? other) :
    Mirrors ⟨network, session.dispatches.set number later⟩ role reached where
  binder := binder
  seen other dispatch found := by
    rw [getElem?_set_known known] at found
    split at found
    next here =>
      cases found
      rw [← here]
      exact seen
    next different =>
      rw [others other different]
      exact mirrors.seen other dispatch found
  beyond other unknown := by
    rw [getElem?_set_known known] at unknown
    split at unknown
    next => cases unknown
    next different =>
      rw [others other different]
      exact mirrors.beyond other unknown

theorem Mirrors.change (mirrors : session.Mirrors role mirror)
    (change : Change succeeds session next) :
    ∃ actions, next.Mirrors role (mirror.run actions) := by
  cases change with
  | idle => exact ⟨[], mirrors⟩
  | @advances number dispatch answerer failure step known _ advance =>
      obtain ⟨place, here, after, later, moves⟩ := advance.moves role mirror.binder mirrors.binder
      have before := mirrors.seen number dispatch known
      rw [Dispatch.Seen, here] at before
      obtain ⟨actions, reached, seen, others⟩ := mirrored_of_moves moves rfl before
      rw [← dispatch.failedAt_answered] at seen
      refine ⟨actions, mirrors.replace known ?_ seen others⟩
      rw [reached, ← later]
      exact binder_absorb session number (dispatch.answered answerer failure) step role
  | @givesUp number dispatch known =>
      exact ⟨[], mirrors.replace known mirrors.binder
        (.left (mirrors.seen number dispatch known).own) fun _ _ => rfl⟩

/-- Every run of the network is, as one role sees it, a run of its binder. -/
theorem run_mirrors (sound : session.Sound) (mirrors : session.Mirrors role mirror)
    (actions : List Action) :
    ∃ steps, (session.run actions).Mirrors role (mirror.run steps) := by
  refine (run_keeps (motive := fun session => ∃ steps, session.Mirrors role (mirror.run steps))
    ?_ ?_ sound ⟨[], mirrors⟩).2
  · rintro session chain issued issues ⟨steps, mirrors⟩
    exact ⟨steps, mirrors.enqueue chain issues⟩
  · rintro action _ session next _ change ⟨steps, mirrors⟩
    obtain ⟨more, mirrors⟩ := mirrors.change change
    exact ⟨steps ++ more, by rw [Binder.Session.run_append]; exact mirrors⟩

end Session

end PackageStore.Network
