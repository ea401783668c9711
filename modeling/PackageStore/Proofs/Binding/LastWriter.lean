import Mathlib.Order.Bounds.Basic
import PackageStore.Proofs.Binding.Answers

/-!
Contract: of overlapping observations, the last writer wins.

Owns: the invariant that ties the binding in force to the observations that came to their end, its
preservation by every action, and the theorem for all runs of an initialized binder.
-/

set_option autoImplicit false

namespace PackageStore.Binder.Session

/-- The observation of a name is the one whose ticket landed last. -/
structure Landed (session : Session) (name : Nat) (sighting : Sighting) : Prop where
  known : session.sightings.get? name = some sighting
  accepted : sighting.Accepted
  last : sighting.ticket = session.binder.mark.applied

/-- What every session keeps: no ticket that came to its end is newer than the applied one, no two
accepted observations share a ticket, and the signer-bound binding is what the observation that
landed last decided. -/
structure Settled (session : Session) : Prop where
  nonnegative : 0 ≤ session.binder.mark.applied
  completed : ∀ name sighting, session.sightings.get? name = some sighting →
    sighting.Completed → sighting.ticket ≤ session.binder.mark.applied
  positive : ∀ name sighting, session.sightings.get? name = some sighting →
    sighting.Accepted → 0 < sighting.ticket
  apart : ∀ left right first second, session.sightings.get? left = some first →
    session.sightings.get? right = some second → first.Accepted → second.Accepted →
    first.ticket = second.ticket → left = right
  inForce : session.binder.mark.applied = 0 ∧ session.binder.signed = none ∨
    ∃ name sighting, session.Landed name sighting ∧
      session.binder.signed = session.binder.site.signedFor sighting.failed sighting.chain

variable {session : Session}

theorem start_settled (site : Site) (chain : Chain) (address : Address) (counter : Counter) :
    (start site chain address counter).Settled where
  nonnegative := Int.le_refl 0
  completed name sighting found := by cases found
  positive name sighting found := by cases found
  apart left right first second found := by cases found
  inForce := .inl ⟨rfl, rfl⟩

/-- Only an observation that is not at its end is moved. -/
theorem Origin.not_completed {fresh : Prop} {name : Nat} {chain : Option Chain} {ticket : Ticket}
    {counter : Counter} (origin : Origin fresh session name chain ticket counter)
    {sighting : Sighting} (found : session.sightings.get? name = some sighting) :
    ¬ sighting.Completed := by
  cases origin with
  | begun given unused _ =>
      rw [unused] at found
      cases found
  | resumed _ known pending _ =>
      rw [known] at found
      cases found
      exact pending.not_completed

/-- Noting an observation that was not accepted leaves the accepted ones alone. -/
theorem Settled.record_unaccepted (settled : session.Settled) (counter : Counter) {name : Nat}
    {sighting : Sighting}
    (unended : ∀ former, session.sightings.get? name = some former → ¬ former.Completed)
    (unaccepted : ¬ sighting.Accepted)
    (older : sighting.Completed → sighting.ticket ≤ session.binder.mark.applied) :
    ({ session with counter }.record name sighting).Settled := by
  have before : ∀ other found,
      ({ session with counter }.record name sighting).sightings.get? other = some found →
      found.Accepted → session.sightings.get? other = some found := by
    intro other found known accepted
    rw [get?_record] at known
    split at known
    · cases known
      exact absurd accepted unaccepted
    · exact known
  refine ⟨settled.nonnegative, ?_, ?_, ?_, ?_⟩
  · intro other found known completed
    rw [get?_record] at known
    split at known
    · cases known
      exact older completed
    · exact settled.completed other found known completed
  · intro other found known accepted
    exact settled.positive other found (before other found known accepted) accepted
  · intro left right first second knownFirst knownSecond acceptedFirst acceptedSecond
    exact settled.apart left right first second (before left first knownFirst acceptedFirst)
      (before right second knownSecond acceptedSecond) acceptedFirst acceptedSecond
  · refine settled.inForce.imp_right ?_
    rintro ⟨other, found, landed, decided⟩
    refine ⟨other, found, ⟨?_, landed.accepted, landed.last⟩, decided⟩
    rw [get?_record, if_neg]
    · exact landed.known
    · rintro rfl
      exact unended found landed.known landed.accepted.completed

/-- An observation that comes in time becomes the one that landed last. -/
theorem Settled.record_landed (settled : session.Settled) (counter : Counter) {name : Nat}
    {chain : Option Chain} {ticket : Ticket} {failure : Option Failure} {landing : Landing}
    (settles : session.binder.Settles chain ticket failure landing)
    (newer : session.binder.mark.applied < ticket) :
    ({ session with binder := landing.binder, counter }.record name
      ⟨chain, ticket, .ended failure landing.report⟩).Settled := by
  have applied : landing.binder.mark.applied = ticket := by
    rw [settles.applied, Int.max_eq_right (Int.le_of_lt newer)]
  have accepted : (Sighting.mk chain ticket (.ended failure landing.report)).Accepted :=
    ⟨failure, landing.report, rfl, mt settles.stale_iff.1 (Int.not_le.2 newer)⟩
  have positive : 0 < ticket := Int.lt_of_le_of_lt settled.nonnegative newer
  -- Every other observation that ended is older than the new one.
  have behind : ∀ other found, session.sightings.get? other = some found → found.Completed →
      found.ticket < ticket := fun other found known completed =>
    Int.lt_of_le_of_lt (settled.completed other found known completed) newer
  refine ⟨?_, ?_, ?_, ?_, .inr ⟨name, _, ⟨?_, accepted, ?_⟩, ?_⟩⟩
  · rw [record_binder, applied]
    exact Int.le_of_lt positive
  · intro other found known completed
    rw [record_binder, applied]
    rw [get?_record] at known
    split at known
    · cases known
      exact Int.le_refl _
    · exact Int.le_of_lt (behind other found known completed)
  · intro other found known isAccepted
    rw [get?_record] at known
    split at known
    · cases known
      exact positive
    · exact settled.positive other found known isAccepted
  · intro left right first second knownFirst knownSecond acceptedFirst acceptedSecond same
    rw [get?_record] at knownFirst knownSecond
    split at knownFirst <;> split at knownSecond
    next leftIsNew rightIsNew => exact leftIsNew.symm.trans rightIsNew
    next =>
      cases knownFirst
      exact absurd same.symm (Int.ne_of_lt (behind right second knownSecond
        acceptedSecond.completed))
    next =>
      cases knownSecond
      exact absurd same (Int.ne_of_lt (behind left first knownFirst acceptedFirst.completed))
    next =>
      exact settled.apart left right first second knownFirst knownSecond acceptedFirst
        acceptedSecond same
  · rw [get?_record, if_pos rfl]
  · exact applied.symm
  · rw [record_binder, (settles.inTime newer).1]
    rfl

/-- No action unsettles a session. -/
theorem Change.settled {fresh : Prop} {next : Session} (change : Change fresh session next)
    (settled : session.Settled) : next.Settled := by
  cases change with
  | idle => exact ⟨settled.nonnegative, settled.completed, settled.positive, settled.apart,
      settled.inForce.imp_right fun ⟨name, sighting, landed, decided⟩ =>
        ⟨name, sighting, ⟨landed.known, landed.accepted, landed.last⟩, decided⟩⟩
  | halts origin stage unfinished _ =>
      exact settled.record_unaccepted _ (fun _ => origin.not_completed)
        (mt Sighting.Accepted.completed unfinished) fun completed => absurd completed unfinished
  | @lands name chain ticket counter origin failure landing settles =>
      rcases Int.lt_or_le session.binder.mark.applied ticket with newer | older
      · exact settled.record_landed counter settles newer
      · have stale := settles.stale_iff.2 older
        rw [(settles.late older).1]
        refine settled.record_unaccepted counter (fun _ => origin.not_completed) ?_ fun _ => older
        rintro ⟨_, _, ended, notStale⟩
        cases ended
        exact notStale stale

/-! ## Runs of an initialized binder -/

/-- A session that came from the initialization of a binder on a site. -/
structure Of (site : Site) (home : Binding) (session : Session) : Prop where
  site : session.binder.site = site
  home : session.binder.home = home
  sound : session.Sound
  settled : session.Settled

theorem of_run (site : Site) (chain : Chain) (address : Address) (counter : Counter)
    (actions : List Action) :
    ((start site chain address counter).run actions).Of site
      (.readOnly chain address site.rpcUrl) := by
  refine List.foldlRecOn actions act ⟨rfl, rfl, start_sound _ _ _ _, start_settled _ _ _ _⟩ ?_
  intro session holds action _
  have change := act_change holds.sound action
  exact ⟨change.site.trans holds.site, change.home.trans holds.home, change.sound holds.sound,
    change.settled holds.settled⟩

/-- The observation that landed last decides the binding in force. -/
theorem Of.active_landed {site : Site} {home : Binding} (holds : session.Of site home)
    {name : Nat} {sighting : Sighting} (landed : session.Landed name sighting) :
    session.binder.active = (site.signedFor sighting.failed sighting.chain).getD home := by
  rcases holds.settled.inForce with ⟨zero, _⟩ | ⟨other, found, lastLanded, decided⟩
  · have positive := holds.settled.positive name sighting landed.known landed.accepted
    rw [landed.last, zero] at positive
    exact absurd positive (Int.lt_irrefl 0)
  · have same : other = name := holds.settled.apart other name found sighting lastLanded.known
      landed.known lastLanded.accepted landed.accepted (lastLanded.last.trans landed.last.symm)
    have known := lastLanded.known
    rw [same, landed.known] at known
    cases known
    rw [active, decided, holds.site, holds.home]

/-- **The last writer wins.** Whatever the order in which observations begin, are answered, fail
and are cancelled, the applied ticket is the greatest of zero and the tickets of the observations
that came to their end, and the binding in force is the one that the observation accepted with
this ticket decides: signer-bound on its chain as the table has it, and otherwise the default. -/
theorem last_writer_wins (site : Site) (chain : Chain) (address : Address) (counter : Counter)
    (actions : List Action) :
    let session := (start site chain address counter).run actions
    let home := Binding.readOnly chain address site.rpcUrl
    IsGreatest
      (insert 0 {ticket | ∃ name sighting, session.sightings.get? name = some sighting ∧
        sighting.Completed ∧ sighting.ticket = ticket})
      session.binder.mark.applied ∧
    ((∀ name sighting, session.sightings.get? name = some sighting → ¬ sighting.Accepted) →
      session.binder.mark.applied = 0 ∧ session.binder.active = home) ∧
    (session.binder.mark.applied ≠ 0 → ∃ name sighting, session.Landed name sighting) ∧
    (∀ name sighting, session.Landed name sighting →
      (∀ other found, session.Landed other found → other = name) ∧
      session.binder.active = (site.signedFor sighting.failed sighting.chain).getD home) ∧
    ∀ name sighting, session.sightings.get? name = some sighting →
      (sighting.failed = true ↔ MetFailure (start site chain address counter) actions name) := by
  intro session home
  have holds : session.Of site home := of_run site chain address counter actions
  refine ⟨⟨?_, ?_⟩, ?_, ?_, ?_, ?_⟩
  · rcases holds.settled.inForce with ⟨zero, _⟩ | ⟨name, sighting, landed, _⟩
    · exact .inl zero
    · exact .inr ⟨name, sighting, landed.known, landed.accepted.completed, landed.last⟩
  · rintro ticket (rfl | ⟨name, sighting, known, completed, rfl⟩)
    · exact holds.settled.nonnegative
    · exact holds.settled.completed name sighting known completed
  · intro none
    rcases holds.settled.inForce with ⟨zero, unsigned⟩ | ⟨name, sighting, landed, _⟩
    · exact ⟨zero, by rw [active, unsigned, Option.getD_none, holds.home]⟩
    · exact absurd landed.accepted (none name sighting landed.known)
  · intro nonzero
    rcases holds.settled.inForce with ⟨zero, _⟩ | ⟨name, sighting, landed, _⟩
    · exact absurd zero nonzero
    · exact ⟨name, sighting, landed⟩
  · intro name sighting landed
    refine ⟨fun other found otherLanded => ?_, holds.active_landed landed⟩
    exact holds.settled.apart other name found sighting otherLanded.known landed.known
      otherLanded.accepted landed.accepted (otherLanded.last.trans landed.last.symm)
  · intro name sighting known
    rw [← failed_iff_of_known known]
    exact failed_run_iff rfl actions name

end PackageStore.Binder.Session
