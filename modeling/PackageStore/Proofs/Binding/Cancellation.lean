import PackageStore.Proofs.Binding.Course
import PackageStore.Proofs.Binding.WriteAccess

/-!
Contract: a cancelled observation leaves no trace.

Owns: runs of a slot in which an observation goes on some time after the signer answered it; the
comparison of such a run with the run in which one observation was left out; and that the two are
alike, after every action, if the observation is cancelled while it waits for the signer.

Does not own: observations that draw their tickets themselves. These leave a trace, as the counter
goes on.
-/

set_option autoImplicit false

namespace PackageStore

/-! ## Leaving out an observation, in a session of a binder -/

namespace Binder.Session

/-- The two sessions are the same, but for an observation that the second one never had. -/
structure Without (name : Nat) (whole rest : Session) : Prop where
  binder : rest.binder = whole.binder
  counter : rest.counter = whole.counter
  others : ∀ other, other ≠ name → rest.sightings.get? other = whole.sightings.get? other
  absent : rest.sightings.get? name = none

variable {name : Nat} {whole rest : Session}

theorem Without.record (without : Without name whole rest) {other : Nat} (different : other ≠ name)
    (sighting : Sighting) :
    Without name (whole.record other sighting) (rest.record other sighting) where
  binder := without.binder
  counter := without.counter
  others another apart := by
    rw [get?_record, get?_record, without.others another apart]
  absent := by
    rw [get?_record, if_neg different]
    exact without.absent

/-- What is noted of the observation that was left out does not matter. -/
theorem Without.record_own (without : Without name whole rest) (sighting : Sighting) :
    Without name (whole.record name sighting) rest where
  binder := without.binder
  counter := without.counter
  others other apart := by
    rw [get?_record, if_neg (Ne.symm apart)]
    exact without.others other apart
  absent := without.absent

theorem Without.absorb (without : Without name whole rest) {other : Nat} (different : other ≠ name)
    (chain : Option Chain) (ticket : Ticket) (failure : Option Failure)
    (paused : Observation → Stage) (step : Step) :
    Without name (whole.absorb other chain ticket failure paused step)
      (rest.absorb other chain ticket failure paused step) := by
  cases step with
  | paused observation => exact without.record different _
  | ended landing =>
      have landed : Without name { whole with binder := landing.binder }
          { rest with binder := landing.binder } :=
        ⟨rfl, without.counter, without.others, without.absent⟩
      exact landed.record different _

/-- A step of the observation that was left out does not matter unless it is its end. -/
theorem Without.absorb_own (without : Without name whole rest) (chain : Option Chain)
    (ticket : Ticket) (failure : Option Failure) (paused : Observation → Stage) (step : Step)
    (unfinished : ∀ sighting, (whole.absorb name chain ticket failure paused step).sightings.get?
      name = some sighting → ¬ sighting.Completed) :
    Without name (whole.absorb name chain ticket failure paused step) rest := by
  cases step with
  | paused observation => exact without.record_own _
  | ended landing =>
      refine absurd ⟨failure, landing.report, rfl⟩
        (unfinished ⟨chain, ticket, .ended failure landing.report⟩ ?_)
      rw [Session.absorb, get?_record, if_pos rfl]

theorem Without.draw (without : Without name whole rest) (given : Option Ticket) :
    rest.draw given = whole.draw given := by
  cases given with
  | some ticket => rw [Session.draw, Session.draw, without.counter]
  | none => rw [Session.draw, Session.draw, without.counter]

/-- An action about another observation does the same to both sessions. -/
theorem Without.act (without : Without name whole rest) {action : Action}
    (different : action.name? ≠ some name) :
    Without name (whole.act action) (rest.act action) := by
  cases action with
  | observe other chain given =>
      have apart : other ≠ name := fun same => different (congrArg some same)
      have known : rest.sightings.contains other = whole.sightings.contains other := by
        rw [OrderedMap.contains, OrderedMap.contains, without.others other apart]
      simp only [Session.act, observe, known, without.draw, without.binder]
      split
      next => exact without
      next =>
        have drawn : Without name { whole with counter := (whole.draw given).2 }
            { rest with counter := (whole.draw given).2 } :=
          ⟨without.binder, rfl, without.others, without.absent⟩
        have absorbed := drawn.absorb apart chain (whole.draw given).1 none .awaitsSigner
          (whole.binder.observe chain (whole.draw given).1)
        rwa [without.binder] at absorbed
  | signerAnswers other failure =>
      have apart : other ≠ name := fun same => different (congrArg some same)
      simp only [Session.act, signerAnswers, without.others other apart, without.binder]
      split
      next => exact without.absorb apart _ _ failure _ _
      next => exact without
  | connectorAnswers other failure =>
      have apart : other ≠ name := fun same => different (congrArg some same)
      simp only [Session.act, connectorAnswers, without.others other apart, without.binder]
      split
      next => exact without.absorb apart _ _ failure _ _
      next => exact without
  | cancel other =>
      have apart : other ≠ name := fun same => different (congrArg some same)
      simp only [Session.act, cancel, without.others other apart]
      split
      next => exact without.record apart _
      next => exact without
  | issue =>
      refine ⟨without.binder, ?_, without.others, without.absent⟩
      rw [Session.act, Session.act, without.counter]

/-- An action about the observation that was left out does not matter, unless it draws a ticket or
brings the observation to its end. -/
theorem Without.act_own (without : Without name whole rest) {action : Action}
    (about : action.name? = some name) (drawless : ∀ chain, action ≠ .observe name chain none)
    (unfinished : ∀ sighting, (whole.act action).sightings.get? name = some sighting →
      ¬ sighting.Completed) :
    Without name (whole.act action) rest := by
  cases action with
  | observe other chain given =>
      cases about
      cases given with
      | none => exact absurd rfl (drawless chain)
      | some ticket =>
          simp only [Session.act, observe, Session.draw] at unfinished ⊢
          split at unfinished
          next used =>
            rw [if_pos used]
            exact without
          next unused =>
            rw [if_neg unused]
            exact without.absorb_own _ _ _ _ _ unfinished
  | signerAnswers other failure =>
      cases about
      simp only [Session.act, signerAnswers] at unfinished ⊢
      split at unfinished
      next => exact without.absorb_own _ _ _ _ _ unfinished
      next => exact without
  | connectorAnswers other failure =>
      cases about
      simp only [Session.act, connectorAnswers] at unfinished ⊢
      split at unfinished
      next => exact without.absorb_own _ _ _ _ _ unfinished
      next => exact without
  | cancel other =>
      cases about
      simp only [Session.act, cancel]
      split
      next => exact without.record_own _
      next => exact without
  | issue => cases about

end Binder.Session

/-! ## Leaving out an observation, in a session of a slot -/

namespace Slot.Session

/-- The two sessions are the same, but for an observation that the second one never had. -/
structure Without (name : Nat) (whole rest : Session) : Prop where
  slot : rest.slot = whole.slot
  counter : rest.counter = whole.counter
  attempts : rest.attempts = whole.attempts
  homes : rest.homes = whole.homes
  others : ∀ other, other ≠ name → rest.sightings.get? other = whole.sightings.get? other
  absent : rest.sightings.get? name = none

variable {name : Nat} {whole rest : Session}

theorem Without.eq (without : Without name whole rest) :
    rest = { whole with sightings := rest.sightings } := by
  obtain ⟨slot, counter, attempts, homes, -, -⟩ := without
  rw [← slot, ← counter, ← attempts, ← homes]

/-- An initialization neither looks at the observations nor changes them. -/
theorem act_apart (session : Session) (sightings : OrderedMap Nat Binder.Sighting) {action : Action}
    (apart : ∀ inner, action ≠ .drive inner) :
    { session with sightings }.act action = { session.act action with sightings } ∧
      (session.act action).sightings = session.sightings := by
  cases action with
  | bindReadOnly name chain given =>
      simp only [act, bindReadOnly]
      split
      next => exact ⟨rfl, rfl⟩
      next => split <;> exact ⟨rfl, rfl⟩
  | contractBuilt name failure =>
      simp only [act, contractBuilt]
      split
      next => cases failure <;> exact ⟨rfl, rfl⟩
      next => exact ⟨rfl, rfl⟩
  | drive inner => exact absurd rfl (apart inner)

theorem Without.act_apart (without : Without name whole rest) {action : Action}
    (apart : ∀ inner, action ≠ .drive inner) :
    Without name (whole.act action) (rest.act action) := by
  obtain ⟨same, kept⟩ := Session.act_apart whole rest.sightings apart
  rw [without.eq, same]
  exact ⟨rfl, rfl, rfl, rfl, by rw [kept]; exact without.others, without.absent⟩

theorem Without.within (without : Without name whole rest) (binder : Binder) :
    Binder.Session.Without name (whole.within binder) (rest.within binder) :=
  ⟨rfl, without.counter, without.others, without.absent⟩

/-- An action about another observation does the same to both sessions. -/
theorem Without.drive (without : Without name whole rest) {inner : Binder.Session.Action}
    (different : inner.name? ≠ some name) :
    Without name (whole.act (.drive inner)) (rest.act (.drive inner)) := by
  cases held : whole.slot with
  | vacant site =>
      have heldRest : rest.slot = .vacant site := without.slot.trans held
      cases inner with
      | issue =>
          simp only [Session.act, Session.drive, held, heldRest, without.counter]
          exact ⟨rfl, rfl, without.attempts, without.homes, without.others, without.absent⟩
      | observe | signerAnswers | connectorAnswers | cancel =>
          simp only [Session.act, Session.drive, held, heldRest]
          exact without
  | held binder =>
      have heldRest : rest.slot = .held binder := without.slot.trans held
      have driven := (without.within binder).act different
      rw [act_drive held, act_drive heldRest]
      exact ⟨congrArg Slot.held driven.binder, driven.counter, without.attempts, without.homes,
        driven.others, driven.absent⟩

/-- An action about the observation that was left out does not matter, unless it draws a ticket or
brings the observation to its end. -/
theorem Without.drive_own (without : Without name whole rest) {inner : Binder.Session.Action}
    (about : inner.name? = some name) (drawless : ∀ chain, inner ≠ .observe name chain none)
    (unfinished : ∀ sighting, (whole.act (.drive inner)).sightings.get? name = some sighting →
      ¬ sighting.Completed) :
    Without name (whole.act (.drive inner)) rest := by
  cases held : whole.slot with
  | vacant site =>
      cases inner with
      | issue => cases about
      | observe | signerAnswers | connectorAnswers | cancel =>
          simp only [Session.act, Session.drive, held]
          exact without
  | held binder =>
      rw [act_drive held] at unfinished ⊢
      have driven := (without.within binder).act_own about drawless unfinished
      exact ⟨without.slot.trans (held.trans (congrArg Slot.held driven.binder)), driven.counter,
        without.attempts, without.homes, driven.others, driven.absent⟩

end Slot.Session

/-! ## Runs in which an observation goes on some time after the signer answered it -/

namespace Slot

/-- A session of a slot, with the answers that the signer gave so far. -/
structure Relay where
  session : Session
  answers : OrderedMap Nat (Option Failure)

namespace Relay

def start (site : Site) (counter : Counter) : Relay :=
  ⟨.start site counter, .empty⟩

/-- What can happen. Every observation comes with its ticket. -/
inductive Action where
  /-- An initialization begins, with a given address or with the one that the table lists. -/
  | bindReadOnly (name : Nat) (chain : Chain) (given : Option String)
  /-- The connector's call for an initialization returns, or fails. -/
  | contractBuilt (name : Nat) (failure : Option Failure)
  /-- Someone else draws a ticket. -/
  | issue
  | observe (name : Nat) (chain : Option Chain) (ticket : Ticket)
  /-- The signer answers an observation that waits for it, or fails. The observation does not go on
  yet. -/
  | signerReturns (name : Nat) (failure : Option Failure)
  /-- An observation goes on with the signer's answer. -/
  | goesOn (name : Nat)
  /-- The connector's call for an observation returns, or fails. -/
  | connectorReturns (name : Nat) (failure : Option Failure)
  /-- An observation that waits for the signer is cancelled, whether it was answered or not. -/
  | cancel (name : Nat)

/-- The observation that an action is about. -/
def Action.name? : Action → Option Nat
  | .observe name _ _ => some name
  | .signerReturns name _ => some name
  | .goesOn name => some name
  | .connectorReturns name _ => some name
  | .cancel name => some name
  | .bindReadOnly _ _ _ => none
  | .contractBuilt _ _ => none
  | .issue => none

/-- The observation waits for the signer and was not answered yet. -/
def awaitsAnswer (relay : Relay) (name : Nat) : Bool :=
  match relay.session.sightings.get? name with
  | some ⟨_, _, .awaitsSigner _⟩ => (relay.answers.get? name).isNone
  | _ => false

/-- What an action does to the session of the slot. -/
def conveyed (relay : Relay) : Action → Option Session.Action
  | .bindReadOnly name chain given => some (.bindReadOnly name chain given)
  | .contractBuilt name failure => some (.contractBuilt name failure)
  | .issue => some (.drive .issue)
  | .observe name chain ticket => some (.drive (.observe name chain (some ticket)))
  | .signerReturns _ _ => none
  | .goesOn name => (relay.answers.get? name).map fun answer => .drive (.signerAnswers name answer)
  | .connectorReturns name failure => some (.drive (.connectorAnswers name failure))
  | .cancel name => some (.drive (.cancel name))

/-- The answers of the signer after an action. -/
def answered (relay : Relay) : Action → OrderedMap Nat (Option Failure)
  | .signerReturns name failure =>
      if relay.awaitsAnswer name then relay.answers.insert name failure else relay.answers
  | _ => relay.answers

def act (relay : Relay) (action : Action) : Relay :=
  ⟨(relay.conveyed action).elim relay.session relay.session.act, relay.answered action⟩

/-- Performs actions one after another. -/
def run (relay : Relay) (actions : List Action) : Relay :=
  actions.foldl act relay

/-- The actions but those about one observation. -/
def leaveOut (name : Nat) (actions : List Action) : List Action :=
  actions.filter fun action => action.name? ≠ some name

/-- The two relays are the same, but for an observation that the second one never had: the binding
in force, the applied ticket and all other observations with their reports are the same. -/
structure Without (name : Nat) (whole rest : Relay) : Prop where
  session : Session.Without name whole.session rest.session
  answers : ∀ other, other ≠ name → rest.answers.get? other = whole.answers.get? other

variable {site : Site} {name : Nat} {relay whole rest : Relay} {action : Action}

theorem run_append (relay : Relay) (first second : List Action) :
    relay.run (first ++ second) = (relay.run first).run second :=
  List.foldl_append

/-- What happens to the session of the slot is a run of its own. -/
theorem run_session (relay : Relay) (actions : List Action) :
    ∃ inner, (relay.run actions).session = relay.session.run inner := by
  induction actions generalizing relay with
  | nil => exact ⟨[], rfl⟩
  | cons action rest inductionHypothesis =>
      obtain ⟨inner, same⟩ := inductionHypothesis (relay.act action)
      cases conveys : relay.conveyed action with
      | none =>
          refine ⟨inner, same.trans ?_⟩
          rw [act, conveys, Option.elim_none]
      | some first =>
          refine ⟨first :: inner, same.trans ?_⟩
          rw [act, conveys, Option.elim_some]
          rfl

theorem act_sound (sound : relay.session.Sound site) (action : Action) :
    (relay.act action).session.Sound site := by
  rw [act]
  cases relay.conveyed action with
  | none => exact sound
  | some inner => exact (Session.act_change relay.session inner).sound sound

theorem run_sound (site : Site) (counter : Counter) (actions : List Action) :
    ((start site counter).run actions).session.Sound site := by
  obtain ⟨inner, same⟩ := run_session (start site counter) actions
  rw [same]
  exact Session.run_sound site counter inner

/-- An observation that is not under way any more stays as it is. -/
theorem run_of_not_pending (sound : relay.session.Sound site) {sighting : Binder.Sighting}
    (known : relay.session.sightings.get? name = some sighting) (settled : ¬ sighting.Pending)
    (actions : List Action) :
    (relay.run actions).session.sightings.get? name = some sighting := by
  obtain ⟨inner, same⟩ := run_session relay actions
  rw [same]
  exact Session.run_of_not_pending sound known settled inner

/-! ## Both runs, action by action -/

theorem Without.conveyed (without : Without name whole rest)
    (different : action.name? ≠ some name) : rest.conveyed action = whole.conveyed action := by
  cases action with
  | goesOn other =>
      have apart : other ≠ name := fun same => different (congrArg some same)
      rw [Relay.conveyed, Relay.conveyed, without.answers other apart]
  | bindReadOnly | contractBuilt | issue | observe | signerReturns | connectorReturns | cancel =>
      rfl

theorem Without.awaitsAnswer (without : Without name whole rest) {other : Nat}
    (apart : other ≠ name) : rest.awaitsAnswer other = whole.awaitsAnswer other := by
  rw [Relay.awaitsAnswer, Relay.awaitsAnswer, without.session.others other apart,
    without.answers other apart]

theorem get?_answered_of_ne {other : Nat} (different : action.name? ≠ some other) :
    (relay.answered action).get? other = relay.answers.get? other := by
  cases action with
  | signerReturns another failure =>
      have apart : another ≠ other := fun same => different (congrArg some same)
      rw [answered]
      split
      · rw [OrderedMap.get?_insert, if_neg apart]
      · rfl
  | bindReadOnly | contractBuilt | issue | observe | goesOn | connectorReturns | cancel => rfl

theorem Without.answered (without : Without name whole rest) (different : action.name? ≠ some name)
    {other : Nat} (apart : other ≠ name) :
    (rest.answered action).get? other = (whole.answered action).get? other := by
  cases action with
  | signerReturns another failure =>
      have elsewhere : another ≠ name := fun same => different (congrArg some same)
      rw [Relay.answered, Relay.answered, without.awaitsAnswer elsewhere]
      split
      · rw [OrderedMap.get?_insert, OrderedMap.get?_insert, without.answers other apart]
      · exact without.answers other apart
  | bindReadOnly | contractBuilt | issue | observe | goesOn | connectorReturns | cancel =>
      exact without.answers other apart

/-- An action of the slot's session that is conveyed is about the same observation. -/
theorem conveyed_about {inner : Session.Action} (conveys : relay.conveyed action = some inner) :
    (action.name? = none ∧ ∀ driven, inner ≠ .drive driven) ∨ ∃ driven, inner = .drive driven ∧
      driven.name? = action.name? ∧ ∀ name chain, driven ≠ .observe name chain none := by
  cases action with
  | bindReadOnly | contractBuilt =>
      cases conveys
      exact .inl ⟨rfl, fun driven => nofun⟩
  | issue | observe | connectorReturns | cancel =>
      cases conveys
      exact .inr ⟨_, rfl, rfl, fun name chain => nofun⟩
  | signerReturns => cases conveys
  | goesOn name =>
      obtain ⟨answer, -, rfl⟩ := Option.map_eq_some_iff.1 conveys
      exact .inr ⟨_, rfl, rfl, fun name chain => nofun⟩

/-- An action about another observation does the same in both runs. -/
theorem Without.act (without : Without name whole rest) (different : action.name? ≠ some name) :
    Without name (whole.act action) (rest.act action) := by
  refine ⟨?_, fun other apart => without.answered different apart⟩
  rw [Relay.act, Relay.act, without.conveyed different]
  cases conveys : whole.conveyed action with
  | none => exact without.session
  | some inner =>
      rcases conveyed_about conveys with ⟨-, apart⟩ | ⟨driven, rfl, about, -⟩
      · exact without.session.act_apart apart
      · rw [← about] at different
        exact without.session.drive different

/-- An action about the observation that was left out does not matter unless it is its end. -/
theorem Without.act_own (without : Without name whole rest) (about : action.name? = some name)
    (unfinished : ∀ sighting, (whole.act action).session.sightings.get? name = some sighting →
      ¬ sighting.Completed) :
    Without name (whole.act action) rest := by
  refine ⟨?_, fun other apart => ?_⟩
  · rw [Relay.act] at unfinished ⊢
    cases conveys : whole.conveyed action with
    | none => exact without.session
    | some inner =>
        rw [conveys] at unfinished
        rcases conveyed_about conveys with ⟨nobody, -⟩ | ⟨driven, rfl, same, drawless⟩
        · cases about.symm.trans nobody
        · rw [about] at same
          exact without.session.drive_own same (drawless name) unfinished
  · have elsewhere : action.name? ≠ some other := by
      rw [about]
      exact fun same => apart (Option.some.inj same).symm
    rw [Relay.act, get?_answered_of_ne elsewhere]
    exact without.answers other apart

/-- The two runs stay alike as long as the observation that was left out has not come to its end. -/
theorem Without.run (without : Without name whole rest) (sound : whole.session.Sound site)
    (actions : List Action)
    (unfinished : ∀ sighting, (whole.run actions).session.sightings.get? name = some sighting →
      ¬ sighting.Completed) :
    Without name (whole.run actions) (rest.run (leaveOut name actions)) := by
  induction actions generalizing whole rest with
  | nil => exact without
  | cons action later inductionHypothesis =>
      have next : (whole.act action).session.Sound site := act_sound sound action
      by_cases about : action.name? = some name
      · -- An end is never undone, so the observation has not come to its end by now.
        have still : ∀ sighting,
            (whole.act action).session.sightings.get? name = some sighting →
              ¬ sighting.Completed := by
          intro sighting known completed
          have kept := run_of_not_pending next known completed.not_pending later
          exact unfinished sighting kept completed
        rw [leaveOut, List.filter_cons_of_neg (by simp [about])]
        exact inductionHypothesis (without.act_own about still) next unfinished
      · rw [leaveOut, List.filter_cons_of_pos (by simp [about])]
        exact inductionHypothesis (without.act about) next unfinished

theorem start_without (site : Site) (counter : Counter) (name : Nat) :
    Without name (start site counter) (start site counter) :=
  ⟨⟨rfl, rfl, rfl, rfl, fun _ _ => rfl, rfl⟩, fun _ _ => rfl⟩

/-- An observation is cancelled if it waits for the signer, whether the signer answered or not. -/
theorem act_cancel {binder : Binder} (held : relay.session.slot = .held binder)
    {chain : Option Chain} {ticket : Ticket} {observation : Binder.Observation}
    (waits : relay.session.sightings.get? name = some ⟨chain, ticket, .awaitsSigner observation⟩) :
    (relay.act (.cancel name)).session.sightings.get? name = some ⟨chain, ticket, .cancelled⟩ := by
  have waiting : (relay.session.within binder).sightings.get? name =
    some ⟨chain, ticket, .awaitsSigner observation⟩ := waits
  show (relay.session.act (.drive (.cancel name))).sightings.get? name = _
  rw [Session.act_drive held]
  simp only [Binder.Session.act, Binder.Session.cancel, waiting, Binder.Session.get?_record,
    if_true]

/-- An observation that is cancelled while it waits for the signer stays cancelled. -/
theorem run_cancelled (site : Site) (counter : Counter) (earlier later : List Action) (name : Nat)
    {chain : Option Chain} {ticket : Ticket} {observation : Binder.Observation}
    (waits : ((start site counter).run earlier).session.sightings.get? name =
      some ⟨chain, ticket, .awaitsSigner observation⟩) :
    ((start site counter).run (earlier ++ .cancel name :: later)).session.sightings.get? name =
      some ⟨chain, ticket, .cancelled⟩ := by
  obtain ⟨binder, held⟩ : ∃ binder,
      ((start site counter).run earlier).session.slot = .held binder := by
    obtain ⟨inner, same⟩ := run_session (start site counter) earlier
    rw [same] at waits ⊢
    exact Session.run_occupied site counter inner name _ waits
  have cancelled := act_cancel held waits
  have sound := act_sound (run_sound site counter earlier) (.cancel name)
  have settled : ¬ (Binder.Sighting.mk chain ticket .cancelled).Pending := nofun
  rw [run_append]
  exact run_of_not_pending sound cancelled settled later

/-- **A cancelled observation leaves no trace.** Let an observation be cancelled while it waits for
the signer, whether the signer answered it or not. Then it never comes to an end, and after every
action, before the cancellation and after it, the run is like the one in which the observation was
left out: the same binder with the same binding in force and the same applied ticket, and for every
other observation the same progress and the same report. -/
theorem cancelled_leaves_no_trace (site : Site) (counter : Counter) (earlier later : List Action)
    (name : Nat) {chain : Option Chain} {ticket : Ticket} {observation : Binder.Observation}
    (waits : ((start site counter).run earlier).session.sightings.get? name =
      some ⟨chain, ticket, .awaitsSigner observation⟩) :
    let actions := earlier ++ .cancel name :: later
    ((start site counter).run actions).session.sightings.get? name =
      some ⟨chain, ticket, .cancelled⟩ ∧
    ∀ done, done <+: actions →
      Without name ((start site counter).run done)
        ((start site counter).run (leaveOut name done)) := by
  intro actions
  have cancelled := run_cancelled site counter earlier later name waits
  refine ⟨cancelled, ?_⟩
  rintro done ⟨remaining, all⟩
  apply (start_without site counter name).run (run_sound site counter []) done
  intro sighting known completed
  have kept := run_of_not_pending (run_sound site counter done) known completed.not_pending
    remaining
  rw [← run_append, all, cancelled] at kept
  cases kept
  obtain ⟨failure, report, ended⟩ := completed
  cases ended

/-- The signer answers two observations, and neither has gone on yet. -/
def twoAnswered : List Action :=
  [.bindReadOnly 0 1 none, .contractBuilt 0 none, .observe 0 (some 10) 2,
    .signerReturns 0 none, .observe 1 (some 1) 1, .signerReturns 1 none]

/-- The first of the two would have landed with the greater ticket, but is cancelled. -/
theorem cancelled_leaves_no_trace_answered :
    let start := start Binder.Session.twoChains .fresh
    let waiting := start.run twoAnswered
    let done := twoAnswered ++ [.cancel 0, .goesOn 0, .goesOn 1, .connectorReturns 1 none]
    waiting.session.sightings.get? 0 =
        some ⟨some 10, 2, .awaitsSigner ⟨10, 2, Binder.Session.uniformAddress 2⟩⟩ ∧
      waiting.answers.get? 0 = some none ∧
      (start.run done).session.slot.binder?.map Binder.active =
        some (.signerBound 1 (Binder.Session.uniformAddress 1)) ∧
      Without 0 (start.run done) (start.run (leaveOut 0 done)) := by
  refine ⟨rfl, rfl, rfl, ?_⟩
  exact (cancelled_leaves_no_trace Binder.Session.twoChains .fresh twoAnswered
    [.goesOn 0, .goesOn 1, .connectorReturns 1 none] 0 rfl).2 _ (List.prefix_rfl)

end Relay

end Slot

end PackageStore
