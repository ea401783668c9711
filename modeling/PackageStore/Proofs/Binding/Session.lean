import PackageStore.OrderedMap
import PackageStore.Proofs.Binding.Decision

/-!
Contract: one binder while its observations overlap.

Owns: the observations of a binder from their beginning to their end, the actions that drive them
in whatever order, and the lemma that says all that an action can do.

An observation stands still while the wallet's signer is awaited and while the connector builds
the contract handle. Every other action may come in between; in particular a whole observation
may begin and end while the connector works for another one. An action that nobody waits for
changes nothing, so each list of actions is a run.
-/

set_option autoImplicit false

namespace PackageStore.Binder

/-! ## Observations with their history -/

/-- How far an observation has come. It ends with the failure that the signer or the connector
answered with, if one did, and with its report. -/
inductive Stage where
  | awaitsSigner (observation : Observation)
  | awaitsContract (observation : Observation)
  | ended (failure : Option Failure) (report : Report)
  | cancelled

/-- What an observation that is under way still has to do. -/
def Stage.observation? : Stage → Option Observation
  | .awaitsSigner observation => some observation
  | .awaitsContract observation => some observation
  | .ended _ _ => none
  | .cancelled => none

/-- An observation as it was initiated, and how far it has come. -/
structure Sighting where
  chain : Option Chain
  ticket : Ticket
  stage : Stage

namespace Sighting

/-- The observation is under way. -/
def Pending (sighting : Sighting) : Prop :=
  sighting.stage.observation?.isSome

/-- The observation came to its end without being cancelled. -/
def Completed (sighting : Sighting) : Prop :=
  ∃ failure report, sighting.stage = .ended failure report

/-- The observation came to its end, and its ticket was newer than all before. -/
def Accepted (sighting : Sighting) : Prop :=
  ∃ failure report, sighting.stage = .ended failure report ∧ report.status ≠ .stale

/-- Whether the signer or the connector answered the observation with a failure. -/
def failed (sighting : Sighting) : Bool :=
  match sighting.stage with
  | .ended failure _ => failure.isSome
  | _ => false

/-- An observation under way is one of its chain, at the address that the table lists. -/
def Fits (site : Site) (sighting : Sighting) : Prop :=
  ∀ observation, sighting.stage.observation? = some observation →
    sighting.chain = some observation.chain ∧ observation.ticket = sighting.ticket ∧
      site.table.on? observation.chain = some observation.address

theorem Accepted.completed {sighting : Sighting} (accepted : sighting.Accepted) :
    sighting.Completed := by
  obtain ⟨failure, report, ended, _⟩ := accepted
  exact ⟨failure, report, ended⟩

theorem Pending.not_completed {sighting : Sighting} (pending : sighting.Pending) :
    ¬ sighting.Completed := by
  rintro ⟨failure, report, ended⟩
  rw [Pending, ended] at pending
  cases pending

end Sighting

/-! ## Sessions -/

/-- A binder, the counter it draws on, and under their names the observations initiated so far, in
the order of their beginning. -/
structure Session where
  binder : Binder
  counter : Counter
  sightings : OrderedMap Nat Sighting

namespace Session

/-- The session of a binder that was just initialized. The counter may have been used before. -/
def start (site : Site) (chain : Chain) (address : Address) (counter : Counter) : Session :=
  ⟨(Slot.vacant site).bindReadOnly chain address, counter, .empty⟩

inductive Action where
  /-- An observation begins, with a given ticket or with a fresh one. -/
  | observe (name : Nat) (chain : Option Chain) (ticket : Option Ticket)
  /-- The signer, or a failure, reaches an observation that waits for it. -/
  | signerAnswers (name : Nat) (failure : Option Failure)
  /-- The connector's call for an observation returns, or fails. -/
  | connectorAnswers (name : Nat) (failure : Option Failure)
  /-- An observation that waits for the signer is cancelled. -/
  | cancel (name : Nat)
  /-- Someone else draws a ticket. -/
  | issue

/-- The observations that the action begins, if any, draw their tickets from the counter. -/
def Action.DrawsTicket : Action → Prop
  | .observe _ _ ticket => ticket = none
  | _ => True

/-- The ticket of an observation, and the counter afterwards. -/
def draw (session : Session) : Option Ticket → Ticket × Counter
  | some ticket => (ticket, session.counter)
  | none => session.counter.issue

/-- Notes how far the observation of a name has come. -/
def record (session : Session) (name : Nat) (sighting : Sighting) : Session :=
  { session with sightings := session.sightings.insert name sighting }

/-- Takes over a step of an observation. -/
def absorb (session : Session) (name : Nat) (chain : Option Chain) (ticket : Ticket)
    (failure : Option Failure) (paused : Observation → Stage) : Step → Session
  | .ended landing =>
      { session with binder := landing.binder }.record name
        ⟨chain, ticket, .ended failure landing.report⟩
  | .paused observation => session.record name ⟨chain, ticket, paused observation⟩

/-- Begins an observation under a name that is not in use. -/
def observe (session : Session) (name : Nat) (chain : Option Chain) (given : Option Ticket) :
    Session :=
  if session.sightings.contains name then session
  else
    let (ticket, counter) := session.draw given
    { session with counter }.absorb name chain ticket none .awaitsSigner
      (session.binder.observe chain ticket)

def signerAnswers (session : Session) (name : Nat) (failure : Option Failure) : Session :=
  match session.sightings.get? name with
  | some ⟨chain, ticket, .awaitsSigner observation⟩ =>
      session.absorb name chain ticket failure .awaitsContract
        (session.binder.signerAnswered observation failure)
  | _ => session

def connectorAnswers (session : Session) (name : Nat) (failure : Option Failure) : Session :=
  match session.sightings.get? name with
  | some ⟨chain, ticket, .awaitsContract observation⟩ =>
      session.absorb name chain ticket failure .awaitsContract
        (.ended (session.binder.contractAnswered observation failure))
  | _ => session

def cancel (session : Session) (name : Nat) : Session :=
  match session.sightings.get? name with
  | some ⟨chain, ticket, .awaitsSigner _⟩ => session.record name ⟨chain, ticket, .cancelled⟩
  | _ => session

def act (session : Session) : Action → Session
  | .observe name chain ticket => session.observe name chain ticket
  | .signerAnswers name failure => session.signerAnswers name failure
  | .connectorAnswers name failure => session.connectorAnswers name failure
  | .cancel name => session.cancel name
  | .issue => { session with counter := session.counter.issue.2 }

/-- Performs actions one after another. -/
def run (session : Session) (actions : List Action) : Session :=
  actions.foldl act session

theorem run_append (session : Session) (first second : List Action) :
    session.run (first ++ second) = (session.run first).run second :=
  List.foldl_append

@[simp] theorem record_binder (session : Session) (name : Nat) (sighting : Sighting) :
    (session.record name sighting).binder = session.binder := rfl

@[simp] theorem record_counter (session : Session) (name : Nat) (sighting : Sighting) :
    (session.record name sighting).counter = session.counter := rfl

@[simp] theorem get?_record (session : Session) (name other : Nat) (sighting : Sighting) :
    (session.record name sighting).sightings.get? other =
      if name = other then some sighting else session.sightings.get? other :=
  OrderedMap.get?_insert session.sightings name other sighting

/-! ## What an action does where somebody waits for it -/

variable {session : Session} {name : Nat} {chain : Option Chain} {ticket : Ticket}

theorem act_observe_of_unused (unused : session.sightings.get? name = none) (chain : Option Chain)
    (given : Option Ticket) :
    session.act (.observe name chain given) =
      { session with counter := (session.draw given).2 }.absorb name chain (session.draw given).1
        none .awaitsSigner (session.binder.observe chain (session.draw given).1) := by
  have absent : session.sightings.contains name = false := by
    rw [OrderedMap.contains, unused]
    rfl
  simp only [act, observe, absent, Bool.false_eq_true, if_false]

theorem act_signerAnswers_of_waiting {observation : Observation}
    (waits : session.sightings.get? name = some ⟨chain, ticket, .awaitsSigner observation⟩)
    (failure : Option Failure) :
    session.act (.signerAnswers name failure) =
      session.absorb name chain ticket failure .awaitsContract
        (session.binder.signerAnswered observation failure) := by
  simp only [act, signerAnswers, waits]

theorem act_connectorAnswers_of_waiting {observation : Observation}
    (waits : session.sightings.get? name = some ⟨chain, ticket, .awaitsContract observation⟩)
    (failure : Option Failure) :
    session.act (.connectorAnswers name failure) =
      session.absorb name chain ticket failure .awaitsContract
        (.ended (session.binder.contractAnswered observation failure)) := by
  simp only [act, connectorAnswers, waits]

/-! ## What an action can do -/

/-- The signer-bound binding and the observations under way are as the table has them. -/
structure Sound (session : Session) : Prop where
  listed : session.binder.Listed
  fits : ∀ name sighting, session.sightings.get? name = some sighting →
    sighting.Fits session.binder.site

/-- Where the observation that an action moves comes from, with the counter afterwards. If the
action is `fresh`, no ticket is given to an observation that begins. -/
inductive Origin (fresh : Prop) (session : Session) (name : Nat) (chain : Option Chain) :
    Ticket → Counter → Prop where
  | begun (given : Option Ticket) (unused : session.sightings.get? name = none)
      (drawn : fresh → given = none) :
      Origin fresh session name chain (session.draw given).1 (session.draw given).2
  | resumed (sighting : Sighting) (known : session.sightings.get? name = some sighting)
      (pending : sighting.Pending) (same : sighting.chain = chain) :
      Origin fresh session name chain sighting.ticket session.counter

/-- All that an action can do: nothing but to draw a ticket, to bring an observation to a point
where it waits or is cancelled, or to bring it to its end. -/
inductive Change (fresh : Prop) (session : Session) : Session → Prop where
  | idle (counter : Counter) (later : session.counter.last ≤ counter.last) :
      Change fresh session { session with counter }
  | halts {name : Nat} {chain : Option Chain} {ticket : Ticket} {counter : Counter}
      (origin : Origin fresh session name chain ticket counter) (stage : Stage)
      (unfinished : ¬ (Sighting.mk chain ticket stage).Completed)
      (fits : (Sighting.mk chain ticket stage).Fits session.binder.site) :
      Change fresh session ({ session with counter }.record name ⟨chain, ticket, stage⟩)
  | lands {name : Nat} {chain : Option Chain} {ticket : Ticket} {counter : Counter}
      (origin : Origin fresh session name chain ticket counter) {failure : Option Failure}
      {landing : Landing} (settles : session.binder.Settles chain ticket failure landing) :
      Change fresh session
        ({ session with binder := landing.binder, counter }.record name
          ⟨chain, ticket, .ended failure landing.report⟩)

theorem Change.unmoved (fresh : Prop) : Change fresh session session :=
  .idle session.counter (Nat.le_refl _)

/-- An observation halts at a point where it is still under way. -/
theorem Change.waits {fresh : Prop} {name : Nat} {chain : Option Chain} {ticket : Ticket}
    {counter : Counter} (origin : Origin fresh session name chain ticket counter) (stage : Stage)
    {observation : Observation} (under : stage.observation? = some observation)
    (same : chain = some observation.chain) (sameTicket : observation.ticket = ticket)
    (deployed : session.binder.site.table.on? observation.chain = some observation.address) :
    Change fresh session ({ session with counter }.record name ⟨chain, ticket, stage⟩) := by
  refine .halts origin stage ?_ ?_
  · apply Sighting.Pending.not_completed
    rw [Sighting.Pending, under]
    rfl
  · intro other underOther
    rw [under] at underOther
    cases underOther
    exact ⟨same, sameTicket, deployed⟩

theorem observe_change (sound : session.Sound) (name : Nat) (chain : Option Chain)
    (given : Option Ticket) :
    Change (given = none) session (session.observe name chain given) := by
  unfold observe
  by_cases used : session.sightings.contains name = true
  · rw [if_pos used]
    exact .unmoved _
  · rw [if_neg used]
    have unused : session.sightings.get? name = none := by
      simpa [OrderedMap.contains] using used
    have origin : Origin (given = none) session name chain (session.draw given).1
        (session.draw given).2 := .begun given unused id
    rcases Binder.observe_cases chain (session.draw given).1 sound.listed with
      ⟨landing, ended, settles⟩ | ⟨observation, paused, same, sameTicket, deployed⟩
    · simp only [ended, absorb]
      exact .lands origin settles
    · simp only [paused, absorb]
      exact .waits origin (.awaitsSigner observation) rfl same sameTicket deployed

theorem signerAnswers_change (sound : session.Sound) (fresh : Prop) (name : Nat)
    (failure : Option Failure) :
    Change fresh session (session.signerAnswers name failure) := by
  unfold signerAnswers
  split
  next chain ticket observation known =>
    obtain ⟨same, sameTicket, deployed⟩ := sound.fits name _ known observation rfl
    simp only at same sameTicket
    have origin : Origin fresh session name (some observation.chain) ticket session.counter :=
      .resumed _ known rfl same
    rcases signerAnswered_cases failure deployed with
      ⟨landing, ended, settles⟩ | ⟨_, _, paused⟩
    · simp only [ended, absorb, same]
      rw [sameTicket] at settles
      exact .lands origin settles
    · simp only [paused, absorb, same]
      exact .waits origin (.awaitsContract observation) rfl rfl sameTicket deployed
  next => exact .unmoved _

theorem connectorAnswers_change (sound : session.Sound) (fresh : Prop) (name : Nat)
    (failure : Option Failure) :
    Change fresh session (session.connectorAnswers name failure) := by
  unfold connectorAnswers
  split
  next chain ticket observation known =>
    obtain ⟨same, sameTicket, deployed⟩ := sound.fits name _ known observation rfl
    simp only at same sameTicket
    have origin : Origin fresh session name (some observation.chain) ticket session.counter :=
      .resumed _ known rfl same
    have settles := contractAnswered_settles failure deployed
    simp only [absorb, same]
    rw [sameTicket] at settles
    exact .lands origin settles
  next => exact .unmoved _

theorem cancel_change (fresh : Prop) (name : Nat) :
    Change fresh session (session.cancel name) := by
  unfold cancel
  split
  next chain ticket observation known =>
    refine .halts (Origin.resumed _ known rfl rfl) .cancelled ?_ ?_
    · rintro ⟨failure, report, ended⟩
      cases ended
    · intro observation under
      cases under
  next => exact .unmoved _

theorem act_change (sound : session.Sound) (action : Action) :
    Change action.DrawsTicket session (session.act action) := by
  cases action with
  | observe name chain given => exact observe_change sound name chain given
  | signerAnswers name failure => exact signerAnswers_change sound _ name failure
  | connectorAnswers name failure => exact connectorAnswers_change sound _ name failure
  | cancel name => exact cancel_change _ name
  | issue => exact .idle _ (Nat.le_succ _)

theorem Change.site {fresh : Prop} {next : Session} (change : Change fresh session next) :
    next.binder.site = session.binder.site := by
  cases change with
  | idle => rfl
  | halts => rfl
  | lands _ settles => exact settles.site

theorem Change.home {fresh : Prop} {next : Session} (change : Change fresh session next) :
    next.binder.home = session.binder.home := by
  cases change with
  | idle => rfl
  | halts => rfl
  | lands _ settles => exact settles.home

theorem Change.sound {fresh : Prop} {next : Session} (change : Change fresh session next)
    (sound : session.Sound) : next.Sound := by
  have site := change.site
  cases change with
  | idle => exact ⟨sound.listed, sound.fits⟩
  | halts _ _ _ fits =>
      refine ⟨sound.listed, fun other sighting found => ?_⟩
      rw [get?_record] at found
      split at found
      · cases found
        exact fits
      · exact sound.fits other sighting found
  | lands _ settles =>
      refine ⟨settles.listed sound.listed, fun other sighting found => ?_⟩
      rw [site]
      rw [get?_record] at found
      split at found
      · cases found
        intro observation under
        cases under
      · exact sound.fits other sighting found

theorem start_sound (site : Site) (chain : Chain) (address : Address) (counter : Counter) :
    (start site chain address counter).Sound where
  listed binding signed := by cases signed
  fits name sighting found := by cases found

end Session

end PackageStore.Binder
