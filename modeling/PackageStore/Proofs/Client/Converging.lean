import PackageStore.Proofs.Client.Course

/-!
Contract: the binder of one role while observations of it are under way and none of them fails.

Owns: what a successful move does to a binder; the invariant that the newest observation is still to
come or in force, where the others are older; its preservation by whatever can happen to the
dispatches; and what it comes to once no dispatch is under way.

Does not own: which chains are observed.
-/

set_option autoImplicit false

namespace PackageStore

namespace Observer

/-- The observation that waits at a place is the one that the dispatch is about, and its chain is
one where the site is deployed. -/
def Place.Apt (site : Site) (chain : Option Chain) (ticket : Ticket) : Place → Prop
  | .ahead => True
  | .awaitsSigner observation | .awaitsContract observation =>
      chain = some observation.chain ∧ observation.ticket = ticket ∧
        site.table.on? observation.chain = some observation.address
  | .passed => True

/-- A move without a failure lets the dispatch wait at the role, or ends its observation there. -/
theorem Moves.of_success {chain : Option Chain} {ticket : Ticket} {place arrived : Place}
    {binder after : Binder} (moves : Moves chain ticket place binder none arrived after)
    (listed : binder.Listed) (apt : place.Apt binder.site chain ticket) :
    (after = binder ∧ (arrived = .passed → place = .passed) ∧
      arrived.Apt binder.site chain ticket) ∨
    (place ≠ .passed ∧ arrived = .passed ∧
      ∃ landing, after = landing.binder ∧ binder.Settles chain ticket none landing) := by
  cases moves with
  | stays => exact .inl ⟨rfl, id, apt⟩
  | @pauses _ observation paused =>
      rcases Binder.observe_cases chain ticket listed with ⟨landing, ended, -⟩ | ⟨other, same, fits⟩
      · rw [paused] at ended
        cases ended
      · rw [paused] at same
        cases same
        exact .inl ⟨rfl, nofun, fits⟩
  | @lands _ landing ended =>
      rcases Binder.observe_cases chain ticket listed with ⟨other, same, settles⟩ | ⟨_, paused, -⟩
      · rw [ended] at same
        cases same
        exact .inr ⟨nofun, rfl, landing, rfl, settles⟩
      · rw [ended] at paused
        cases paused
  | signs => exact .inl ⟨rfl, nofun, apt⟩
  | @signerLands _ observation _ landing ended =>
      obtain ⟨rfl, rfl, deployed⟩ := apt
      rcases Binder.signerAnswered_cases none deployed with ⟨other, same, settles⟩ | ⟨_, _, paused⟩
      · rw [ended] at same
        cases same
        exact .inr ⟨nofun, rfl, landing, rfl, settles⟩
      · rw [ended] at paused
        cases paused
  | contractLands _ observation _ =>
      obtain ⟨rfl, rfl, deployed⟩ := apt
      exact .inr ⟨nofun, rfl, _, rfl, Binder.contractAnswered_settles none deployed⟩

/-- A dispatch that has not passed some role has not ended. -/
theorem Progress.dispatch?_of_place {progress : Progress Role} {role : Role}
    (ahead : progress.place role ≠ .passed) : ∃ dispatch, progress.dispatch? = some dispatch := by
  cases progress with
  | needsSigner rebind => exact ⟨_, rfl⟩
  | needsContract rebind => exact ⟨_, rfl⟩
  | ended reports => exact absurd rfl ahead

end Observer

namespace Client.Session

/-- A dispatch is under way and has not passed a role. -/
def Due (session : Session) (role : Role) (number : Nat) (dispatch : Network.Dispatch) : Prop :=
  session.underWay? number = some dispatch ∧ dispatch.place? role ≠ some .passed

/-- A binder nears what a chain calls for: the newest observation, which is of that chain, is due or
has been applied, and no other one that is due is newer. Where nothing was observed, it is there
already. -/
structure Nears (session : Session) (role : Role) (chain : Option Chain) (binder : Binder)
    (newest : Ticket) : Prop where
  known : session.client.network.binder role = .ok binder
  listed : binder.Listed
  apt : ∀ number dispatch place, session.underWay? number = some dispatch →
    dispatch.place? role = some place → place.Apt binder.site dispatch.chain dispatch.ticket
  upTo : ∀ number dispatch, session.Due role number dispatch → dispatch.ticket ≤ newest
  about : ∀ number dispatch, session.Due role number dispatch → dispatch.ticket = newest →
    dispatch.chain = chain
  applied : binder.mark.applied ≤ newest
  due : binder.mark.applied < newest →
    ∃ number dispatch, session.Due role number dispatch ∧ dispatch.ticket = newest
  inForce : binder.mark.applied = newest → binder.active = binder.decided false chain

variable {before after session : Session} {role : Role} {chain : Option Chain} {binder : Binder}
  {newest : Ticket}

theorem Nears.at_rest (nears : session.Nears role chain binder newest)
    (atRest : ∀ number, session.underWay? number = none) :
    binder.active = binder.decided false chain := by
  rcases Int.lt_or_eq_of_le nears.applied with older | last
  · obtain ⟨number, dispatch, due, -⟩ := nears.due older
    have nothing := due.1
    rw [atRest number] at nothing
    cases nothing
  · exact nears.inForce last

theorem Rests.nears (rests : Rests before after)
    (nears : before.Nears role chain binder newest) :
    after.Nears role chain binder newest := by
  have same : ∀ number dispatch,
      after.Due role number dispatch ↔ before.Due role number dispatch := by
    intro number dispatch
    rw [Due, Due, rests.same]
  refine ⟨?_, nears.listed, fun number dispatch place underWay => ?_, fun number dispatch => ?_,
    fun number dispatch => ?_, nears.applied, fun older => ?_, nears.inForce⟩
  · rw [Network.binder_of_slots rests.slots]
    exact nears.known
  · rw [rests.same] at underWay
    exact nears.apt number dispatch place underWay
  · rw [same]
    exact nears.upTo number dispatch
  · rw [same]
    exact nears.about number dispatch
  · obtain ⟨number, dispatch, due, last⟩ := nears.due older
    exact ⟨number, dispatch, (same number dispatch).2 due, last⟩

/-- A new observation is newer than all there were. -/
theorem Observes.nears {origin : Client} {observed : Option Chain}
    (observes : Observes observed before after) (ordered : before.Ordered origin)
    (nears : before.Nears role chain binder newest) :
    after.Nears role observed binder (before.client.network.counter.last + 1) := by
  obtain ⟨number, new, -, others⟩ := observes.added
  have newer : ∀ ticket : Ticket, ticket ≤ before.client.network.counter.last →
      ticket < before.client.network.counter.last + 1 :=
    fun ticket upTo => Int.lt_add_one_of_le upTo
  have applied : binder.mark.applied < before.client.network.counter.last + 1 :=
    newer _ (ordered.applied role binder nears.known)
  have older : ∀ other dispatch, number ≠ other → after.underWay? other = some dispatch →
      dispatch.ticket < before.client.network.counter.last + 1 := by
    intro other dispatch different underWay
    rw [others other different] at underWay
    exact newer _ (ordered.drawn other dispatch underWay)
  refine ⟨?_, nears.listed, fun other dispatch place underWay arrived => ?_,
    fun other dispatch due => ?_, fun other dispatch due last => ?_, Int.le_of_lt applied,
    fun _ => ⟨number, _, ⟨new, nofun⟩, rfl⟩, fun last => absurd last (Int.ne_of_lt applied)⟩
  · rw [Network.binder_of_slots observes.slots]
    exact nears.known
  · by_cases here : number = other
    · rw [← here, new] at underWay
      cases underWay
      cases arrived
      trivial
    · rw [others other here] at underWay
      exact nears.apt other dispatch place underWay arrived
  · by_cases here : number = other
    · have underWay := due.1
      rw [← here, new] at underWay
      cases underWay
      exact Int.le_refl _
    · exact Int.le_of_lt (older other dispatch here due.1)
  · by_cases here : number = other
    · have underWay := due.1
      rw [← here, new] at underWay
      cases underWay
      rfl
    · exact absurd last (Int.ne_of_lt (older other dispatch here due.1))

/-! ## A step of one dispatch -/

section Step

variable {number : Nat} {dispatch : Network.Dispatch}
  (others : ∀ other, number ≠ other → after.underWay? other = before.underWay? other)

include others

theorem due_elsewhere {other : Nat} (different : number ≠ other) (found : Network.Dispatch) :
    after.Due role other found ↔ before.Due role other found := by
  rw [Due, Due, others other different]

/-- The dispatch goes on without having ended at the role, whose binder is as it was. -/
theorem Nears.waits (nears : before.Nears role chain binder newest)
    (isKnown : after.client.network.binder role = .ok binder)
    (goesOn : ∀ found, after.underWay? number = some found → found.chain = dispatch.chain ∧
      found.ticket = dispatch.ticket ∧ ∀ place, found.place? role = some place →
        place.Apt binder.site dispatch.chain dispatch.ticket)
    (wasDue : ∀ found, after.Due role number found → before.Due role number dispatch)
    (isDue : ∀ found, before.Due role number found → ∃ later, after.Due role number later ∧
      later.ticket = found.ticket) : after.Nears role chain binder newest := by
  refine ⟨isKnown, nears.listed, fun other found place underWay arrived => ?_,
    fun other found due => ?_, fun other found due last => ?_, nears.applied, fun older => ?_,
    nears.inForce⟩
  · by_cases here : number = other
    · subst here
      obtain ⟨sameChain, sameTicket, apt⟩ := goesOn found underWay
      rw [sameChain, sameTicket]
      exact apt place arrived
    · exact nears.apt other found place (others other here ▸ underWay) arrived
  · by_cases here : number = other
    · subst here
      rw [(goesOn found due.1).2.1]
      exact nears.upTo number dispatch (wasDue found due)
    · exact nears.upTo other found ((due_elsewhere others here found).1 due)
  · by_cases here : number = other
    · subst here
      obtain ⟨sameChain, sameTicket, -⟩ := goesOn found due.1
      rw [sameChain]
      exact nears.about number dispatch (wasDue found due) (sameTicket ▸ last)
    · exact nears.about other found ((due_elsewhere others here found).1 due) last
  · obtain ⟨other, found, due, last⟩ := nears.due older
    by_cases here : number = other
    · subst here
      obtain ⟨later, stillDue, same⟩ := isDue found due
      exact ⟨number, later, stillDue, same.trans last⟩
    · exact ⟨other, found, (due_elsewhere others here found).2 due, last⟩

/-- The observation of the dispatch ends at the role. -/
theorem Nears.lands (nears : before.Nears role chain binder newest)
    (due : before.Due role number dispatch) {landing : Binder.Landing}
    (settles : binder.Settles dispatch.chain dispatch.ticket none landing)
    (isKnown : after.client.network.binder role = .ok landing.binder)
    (passed : ∀ found, after.underWay? number = some found →
      found.place? role = some .passed) : after.Nears role chain landing.binder newest := by
  have notDue : ∀ found, ¬ after.Due role number found :=
    fun found stillDue => stillDue.2 (passed found stillDue.1)
  have upTo : dispatch.ticket ≤ newest := nears.upTo number dispatch due
  refine ⟨isKnown, settles.listed nears.listed, fun other found place underWay arrived => ?_,
    fun other found stillDue => ?_, fun other found stillDue last => ?_, ?_, fun older => ?_,
    fun last => ?_⟩
  · by_cases here : number = other
    · subst here
      rw [passed found underWay] at arrived
      cases arrived
      trivial
    · rw [settles.site]
      exact nears.apt other found place (others other here ▸ underWay) arrived
  · by_cases here : number = other
    · exact absurd (here ▸ stillDue) (notDue found)
    · exact nears.upTo other found ((due_elsewhere others here found).1 stillDue)
  · by_cases here : number = other
    · exact absurd (here ▸ stillDue) (notDue found)
    · exact nears.about other found ((due_elsewhere others here found).1 stillDue) last
  · rw [settles.applied]
    exact Int.max_le.2 ⟨nears.applied, upTo⟩
  · rw [settles.applied] at older
    obtain ⟨appliedOlder, ticketOlder⟩ := Int.max_lt.1 older
    obtain ⟨other, found, stillDue, last⟩ := nears.due appliedOlder
    -- The newest observation is another one, since this one is older.
    by_cases here : number = other
    · subst here
      have same : found = dispatch := Option.some.inj (stillDue.1.symm.trans due.1)
      rw [same] at last
      exact absurd last (Int.ne_of_lt ticketOlder)
    · exact ⟨other, found, (due_elsewhere others here found).2 stillDue, last⟩
  · rw [settles.applied] at last
    rcases Int.lt_or_le binder.mark.applied dispatch.ticket with newer | older
    · rw [Int.max_eq_right (Int.le_of_lt newer)] at last
      have same : dispatch.chain = chain := nears.about number dispatch due last
      rw [(settles.inTime newer).1, same]
      rfl
    · rw [Int.max_eq_left older] at last
      rw [(settles.late older).1]
      exact nears.inForce last

end Step

/-- A step without a failure keeps the binder on its way. -/
theorem Proceeds.nears {succeeds : Prop} (proceeds : Proceeds succeeds before after)
    (holds : succeeds) (nears : before.Nears role chain binder newest) :
    ∃ later, later.site = binder.site ∧ later.home = binder.home ∧
      after.Nears role chain later newest := by
  cases proceeds with
  | rests rests => exact ⟨binder, rfl, rfl, rests.nears nears⟩
  | @advances number dispatch answerer failure step news known allowed advance _ _ _ network
      later others =>
      have succeeded : failure = none := allowed holds
      subst succeeded
      obtain ⟨place, here, moved, isMoved, moves⟩ := advance.moves role binder nears.known
      rw [ite_self] at moves
      have isKnown : after.client.network.binder role = .ok moved := network ▸ isMoved
      have wasDue : place ≠ .passed → before.Due role number dispatch := by
        intro ahead
        refine ⟨known, ?_⟩
        rw [here]
        exact fun same => ahead (Option.some.inj same)
      have placed : ∀ found, after.underWay? number = some found →
          found.chain = dispatch.chain ∧ found.ticket = dispatch.ticket ∧
            found.place? role = some (step.observed.progress.place role) := by
        intro found underWay
        rw [later] at underWay
        obtain ⟨sameChain, sameTicket, phase⟩ := advance.goesOn underWay
        refine ⟨sameChain, sameTicket, ?_⟩
        rw [Network.Dispatch.place?, phase]
        rfl
      rcases moves.of_success nears.listed (nears.apt number dispatch place known here) with
        ⟨rfl, waits, apt⟩ | ⟨ahead, passed, landing, rfl, settles⟩
      · refine ⟨moved, rfl, rfl, nears.waits others isKnown (fun found underWay => ?_)
          (fun found due => wasDue fun passed => ?_) fun found due => ?_⟩
        · obtain ⟨sameChain, sameTicket, arrived⟩ := placed found underWay
          refine ⟨sameChain, sameTicket, fun other isThere => ?_⟩
          cases arrived.symm.trans isThere
          exact apt
        · subst passed
          have arrived := (placed found due.1).2.2
          rw [moves.of_passed.1] at arrived
          exact due.2 arrived
        · have same : found = dispatch := Option.some.inj (due.1.symm.trans known)
          have ahead : step.observed.progress.place role ≠ .passed := fun passed =>
            due.2 (by rw [same, here, waits passed])
          obtain ⟨further, goesOn⟩ := Observer.Progress.dispatch?_of_place ahead
          have underWay : after.underWay? number = some further := later.trans goesOn
          obtain ⟨-, sameTicket, arrived⟩ := placed further underWay
          refine ⟨further, ⟨underWay, ?_⟩, by rw [sameTicket, same]⟩
          rw [arrived]
          exact fun passed => ahead (Option.some.inj passed)
      · refine ⟨landing.binder, settles.site, settles.home,
          nears.lands others (wasDue ahead) settles isKnown fun found underWay => ?_⟩
        rw [(placed found underWay).2.2, passed]

end Client.Session

end PackageStore
