import PackageStore.Proofs.Binding.Answers
import PackageStore.Proofs.Binding.Initialization

/-!
Contract: one observation among all that happens to a binder.

Owns: the moves of one observation, from its beginning over the signer and the connector to its end
or to its cancellation; that no action does anything else to it; and both for a session of a slot,
whose binder may be initialized again in between.

Does not own: what the report at the end of an observation says.
-/

set_option autoImplicit false

namespace PackageStore

theorem Binder.Sighting.Completed.not_pending {sighting : Binder.Sighting}
    (completed : sighting.Completed) : ¬ sighting.Pending :=
  fun pending => pending.not_completed completed

namespace Binder.Session

/-- All that an action can make of an observation: it stays as it is, or it begins, asks for the
contract handle, is cancelled, or comes to its end. -/
inductive Move (session : Session) (action : Action) (name : Nat) (former : Option Sighting) :
    Option Sighting → Prop where
  | stays : Move session action name former former
  | begins {chain : Option Chain} {given : Option Ticket} {observation : Observation}
      (begun : action = .observe name chain given) (unused : former = none) :
      Move session action name former
        (some ⟨chain, (session.draw given).1, .awaitsSigner observation⟩)
  | asks {chain : Option Chain} {ticket : Ticket} {observation : Observation}
      (answered : action = .signerAnswers name none)
      (waited : former = some ⟨chain, ticket, .awaitsSigner observation⟩)
      (newer : session.binder.mark.applied < ticket) :
      Move session action name former (some ⟨chain, ticket, .awaitsContract observation⟩)
  | cancels {chain : Option Chain} {ticket : Ticket} {observation : Observation}
      (cancelled : action = .cancel name)
      (waited : former = some ⟨chain, ticket, .awaitsSigner observation⟩) :
      Move session action name former (some ⟨chain, ticket, .cancelled⟩)
  | ends {chain : Option Chain} {ticket : Ticket} {landing : Landing}
      (about : action.name? = some name)
      (underWay : ∀ sighting, former = some sighting →
        sighting.Pending ∧ sighting.chain = chain ∧ sighting.ticket = ticket)
      (reached : action.failure?.isSome = true → ∃ number address,
        chain = some number ∧ session.binder.site.table.on? number = some address)
      (settles : session.binder.Settles chain ticket action.failure? landing)
      (lands : (session.act action).binder = landing.binder) :
      Move session action name former (some ⟨chain, ticket, .ended action.failure? landing.report⟩)

variable {session : Session} {name : Nat}

/-! ## The moves of an observation -/

theorem observe_move (sound : session.Sound) (name : Nat) (chain : Option Chain)
    (given : Option Ticket) :
    Move session (.observe name chain given) name (session.sightings.get? name)
      ((session.act (.observe name chain given)).sightings.get? name) := by
  cases known : session.sightings.get? name with
  | some sighting =>
      have present : session.sightings.contains name = true := by
        rw [OrderedMap.contains, known]
        rfl
      simp only [act, observe, present, if_true, known]
      exact .stays
  | none =>
      have acted := act_observe_of_unused known chain given
      rcases Binder.observe_cases chain (session.draw given).1 sound.listed with
        ⟨landing, ended, settles⟩ | ⟨observation, paused, -, -, -⟩
      · rw [ended, absorb] at acted
        have lands : (session.act (.observe name chain given)).binder = landing.binder := by
          rw [acted, record_binder]
        have unraised : (Action.observe name chain given).failure?.isSome = true → ∃ number address,
            chain = some number ∧ session.binder.site.table.on? number = some address := by
          intro raised
          cases raised
        rw [acted, get?_record, if_pos rfl]
        refine .ends rfl ?_ unraised settles lands
        rintro sighting ⟨⟩
      · rw [paused, absorb] at acted
        rw [acted, get?_record, if_pos rfl]
        exact .begins rfl rfl

/-- An answer that nobody waits for leaves the observation as it is. -/
theorem signerAnswers_move (sound : session.Sound) (name : Nat) (failure : Option Failure) :
    Move session (.signerAnswers name failure) name (session.sightings.get? name)
      ((session.act (.signerAnswers name failure)).sightings.get? name) := by
  cases known : session.sightings.get? name with
  | none =>
      simp only [act, signerAnswers, known]
      exact .stays
  | some sighting =>
      obtain ⟨chain, ticket, stage⟩ := sighting
      cases stage with
      | awaitsSigner observation =>
          obtain ⟨same, sameTicket, deployed⟩ := sound.fits name _ known observation rfl
          have acted := act_signerAnswers_of_waiting known failure
          rcases signerAnswered_cases failure deployed with
            ⟨landing, ended, settles⟩ | ⟨rfl, newer, paused⟩
          · rw [← same, sameTicket] at settles
            rw [ended, absorb] at acted
            have lands : (session.act (.signerAnswers name failure)).binder = landing.binder := by
              rw [acted, record_binder]
            rw [acted, get?_record, if_pos rfl]
            refine .ends rfl ?_ (fun _ => ⟨_, _, same, deployed⟩) settles lands
            rintro sighting ⟨⟩
            exact ⟨rfl, rfl, rfl⟩
          · rw [paused, absorb] at acted
            rw [acted, get?_record, if_pos rfl]
            rw [sameTicket] at newer
            exact .asks rfl rfl newer
      | awaitsContract | ended | cancelled =>
          simp only [act, signerAnswers, known]
          exact .stays

theorem connectorAnswers_move (sound : session.Sound) (name : Nat) (failure : Option Failure) :
    Move session (.connectorAnswers name failure) name (session.sightings.get? name)
      ((session.act (.connectorAnswers name failure)).sightings.get? name) := by
  cases known : session.sightings.get? name with
  | none =>
      simp only [act, connectorAnswers, known]
      exact .stays
  | some sighting =>
      obtain ⟨chain, ticket, stage⟩ := sighting
      cases stage with
      | awaitsContract observation =>
          obtain ⟨same, sameTicket, deployed⟩ := sound.fits name _ known observation rfl
          have acted := act_connectorAnswers_of_waiting known failure
          have settles : session.binder.Settles (some observation.chain) observation.ticket failure
              (session.binder.contractAnswered observation failure) :=
            contractAnswered_settles failure deployed
          rw [← same, sameTicket] at settles
          rw [absorb] at acted
          have lands : (session.act (.connectorAnswers name failure)).binder =
              (session.binder.contractAnswered observation failure).binder := by
            rw [acted, record_binder]
          rw [acted, get?_record, if_pos rfl]
          refine .ends rfl ?_ (fun _ => ⟨_, _, same, deployed⟩) settles lands
          rintro sighting ⟨⟩
          exact ⟨rfl, rfl, rfl⟩
      | awaitsSigner | ended | cancelled =>
          simp only [act, connectorAnswers, known]
          exact .stays

theorem cancel_move (session : Session) (name : Nat) :
    Move session (.cancel name) name (session.sightings.get? name)
      ((session.act (.cancel name)).sightings.get? name) := by
  cases known : session.sightings.get? name with
  | none =>
      simp only [act, cancel, known]
      exact .stays
  | some sighting =>
      obtain ⟨chain, ticket, stage⟩ := sighting
      cases stage with
      | awaitsSigner observation =>
          simp only [act, cancel, known, get?_record, if_true]
          exact .cancels rfl rfl
      | awaitsContract | ended | cancelled =>
          simp only [act, cancel, known]
          exact .stays

/-- Whatever happens, an observation makes one of its moves. -/
theorem act_move (sound : session.Sound) (action : Action) (name : Nat) :
    Move session action name (session.sightings.get? name)
      ((session.act action).sightings.get? name) := by
  by_cases about : action.name? = some name
  · cases action with
    | observe other chain given =>
        cases about
        exact observe_move sound name chain given
    | signerAnswers other failure =>
        cases about
        exact signerAnswers_move sound name failure
    | connectorAnswers other failure =>
        cases about
        exact connectorAnswers_move sound name failure
    | cancel other =>
        cases about
        exact cancel_move session name
    | issue => cases about
  · rw [act_elsewhere session about]
    exact .stays

/-- An observation keeps its chain and its ticket. -/
theorem Move.keeps {action : Action} {former : Sighting} {later : Option Sighting}
    (move : Move session action name (some former) later) :
    ∃ sighting, later = some sighting ∧ sighting.chain = former.chain ∧
      sighting.ticket = former.ticket := by
  cases move with
  | stays => exact ⟨former, rfl, rfl, rfl⟩
  | begins _ unused => cases unused
  | asks _ waited =>
      cases waited
      exact ⟨_, rfl, rfl, rfl⟩
  | cancels _ waited =>
      cases waited
      exact ⟨_, rfl, rfl, rfl⟩
  | ends _ underWay =>
      obtain ⟨-, chain, ticket⟩ := underWay former rfl
      exact ⟨_, rfl, chain.symm, ticket.symm⟩

/-- An observation that is not under way any more stays as it is. -/
theorem Move.of_not_pending {action : Action} {former : Sighting} {later : Option Sighting}
    (move : Move session action name (some former) later) (settled : ¬ former.Pending) :
    later = some former := by
  cases move with
  | stays => rfl
  | begins _ unused => cases unused
  | asks _ waited =>
      cases waited
      exact absurd rfl settled
  | cancels _ waited =>
      cases waited
      exact absurd rfl settled
  | ends _ underWay => exact absurd (underWay former rfl).1 settled

end Binder.Session

/-! ## The moves in a session of a slot -/

namespace Slot.Session

open Binder (Sighting)

/-- The session of the binder that the slot holds. -/
def within (session : Session) (binder : Binder) : Binder.Session :=
  ⟨binder, session.counter, session.sightings⟩

variable {site : Site} {session : Session} {action : Action} {name : Nat}

/-- What can become of an observation: it stays as it is, or the binder that the slot holds is
driven. -/
inductive Move (session : Session) (action : Action) (name : Nat) (former later : Option Sighting) :
    Prop where
  | apart (same : later = former)
  | driven {binder : Binder} {inner : Binder.Session.Action} (held : session.slot = .held binder)
      (drives : action = .drive inner)
      (leaves : (session.act action).slot = .held ((session.within binder).act inner).binder)
      (move : Binder.Session.Move (session.within binder) inner name former later)

theorem run_concat (session : Session) (actions : List Action) (action : Action) :
    session.run (actions ++ [action]) = (session.run actions).act action :=
  List.foldl_append

/-- A binder that the slot holds was initialized, and is as its last initialization left it, but for
its observations. -/
theorem Sound.opened (sound : session.Sound site) {binder : Binder}
    (held : session.slot = .held binder) : ∃ home, Opened site home binder := by
  cases last : session.homes.getLast? with
  | none =>
      rw [sound.vacant last] at held
      cases held
  | some home =>
      obtain ⟨other, isHeld, opened⟩ := sound.held home last
      cases held.symm.trans isHeld
      exact ⟨home, opened⟩

theorem Sound.within (sound : session.Sound site) {binder : Binder}
    (held : session.slot = .held binder) : (session.within binder).Sound := by
  obtain ⟨home, opened⟩ := sound.opened held
  have fits : ∀ name sighting, session.sightings.get? name = some sighting →
      sighting.Fits binder.site := by
    rw [opened.site]
    exact sound.fits
  exact ⟨opened.listed, fits⟩

theorem act_drive {binder : Binder} (held : session.slot = .held binder)
    (inner : Binder.Session.Action) :
    session.act (.drive inner) =
      { session with
        slot := .held ((session.within binder).act inner).binder
        counter := ((session.within binder).act inner).counter
        sightings := ((session.within binder).act inner).sightings } := by
  simp only [act, drive, held]
  rfl

theorem act_sightings_of_vacant {site : Site} (vacant : session.slot = .vacant site)
    (inner : Binder.Session.Action) :
    (session.act (.drive inner)).sightings = session.sightings := by
  simp only [act, drive, vacant]
  cases inner <;> rfl

/-- Whatever happens to the slot, an observation makes one of its moves. -/
theorem act_move (sound : session.Sound site) (action : Action) (name : Nat) :
    Move session action name (session.sightings.get? name)
      ((session.act action).sightings.get? name) := by
  cases action with
  | bindReadOnly other chain given =>
      refine .apart ?_
      simp only [act, bindReadOnly]
      split
      next => rfl
      next => split <;> rfl
  | contractBuilt other failure =>
      refine .apart ?_
      simp only [act, contractBuilt]
      split
      next => cases failure <;> rfl
      next => rfl
  | drive inner =>
      cases held : session.slot with
      | vacant site =>
          refine .apart ?_
          rw [act_sightings_of_vacant held]
      | held binder =>
          refine .driven held rfl ?_ ?_
          · rw [act_drive held]
          · rw [act_drive held]
            exact Binder.Session.act_move (sound.within held) inner name

theorem Move.keeps {former : Sighting} {later : Option Sighting}
    (move : Move session action name (some former) later) :
    ∃ sighting, later = some sighting ∧ sighting.chain = former.chain ∧
      sighting.ticket = former.ticket := by
  cases move with
  | apart same => exact ⟨former, same, rfl, rfl⟩
  | driven _ _ _ move => exact move.keeps

theorem Move.of_not_pending {former : Sighting} {later : Option Sighting}
    (move : Move session action name (some former) later) (settled : ¬ former.Pending) :
    later = some former := by
  cases move with
  | apart same => exact same
  | driven _ _ _ move => exact move.of_not_pending settled

/-- An observation that is not under way any more stays as it is in every run. -/
theorem run_of_not_pending (sound : session.Sound site) {sighting : Sighting}
    (known : session.sightings.get? name = some sighting) (settled : ¬ sighting.Pending)
    (actions : List Action) : (session.run actions).sightings.get? name = some sighting := by
  induction actions generalizing session with
  | nil => exact known
  | cons action rest inductionHypothesis =>
      have move := act_move sound action name
      rw [known] at move
      have next : (session.act action).Sound site := (act_change session action).sound sound
      exact inductionHypothesis next (move.of_not_pending settled)

/-- The slot holds a binder once an observation has begun. -/
def Occupied (session : Session) (name : Nat) : Prop :=
  ∀ sighting, session.sightings.get? name = some sighting → ∃ binder, session.slot = .held binder

theorem Change.occupied {next : Session} (change : Change session next)
    (occupied : session.Occupied name) : next.Occupied name := by
  cases change with
  | idle => exact occupied
  | binds => exact fun _ _ => ⟨_, rfl⟩
  | drives => exact fun _ _ => ⟨_, rfl⟩

theorem run_occupied (site : Site) (counter : Counter) (actions : List Action) (name : Nat) :
    ((start site counter).run actions).Occupied name := by
  refine List.foldlRecOn (motive := fun session => session.Occupied name) actions act ?_
    fun session occupied action _ => (act_change session action).occupied occupied
  intro sighting known
  cases known

end Slot.Session

end PackageStore
