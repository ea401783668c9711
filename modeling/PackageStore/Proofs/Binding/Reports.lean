import PackageStore.Proofs.Binding.Course
import PackageStore.Proofs.Binding.WriteAccess

/-!
Contract: what the report of an observation means.

Owns: the ways in which an observation that comes in time can end; the meaning of each part of a
report, in terms of what was observed, of what the signer and the connector answered, and of the
binder before and after the end of the observation; that every observation which is answered and not
cancelled comes to its end with a report; and when a contract handle is built for an observation
whose report is stale.

The ticket is looked at for the last time in the very action that ends the observation, so the
binder before this action is the one that the ticket was compared with.
-/

set_option autoImplicit false

namespace PackageStore

/-! ## The meaning of a report -/

/-- What the report of an observation of `chain` with `ticket` says. `raised` is the failure that
the signer or the connector answered it with; `before` is the binder when the ticket was looked at
for the last time, and `after` the binder when the observation had ended. -/
structure Report.Describes (report : Report) (chain : Option Chain) (ticket : Ticket)
    (raised : Option Failure) (before after : Binder) : Prop where
  numbered : report.ticket = ticket
  inForce : report.binding = after.active
  stale : report.status = .stale ↔ ticket ≤ before.mark.applied
  untouched : report.status = .stale → after = before
  disconnected : report.status ≠ .stale → (report.status = .disconnected ↔ chain = none)
  unsupported : report.status ≠ .stale → (report.status = .unsupportedNetwork ↔
    ∃ number, chain = some number ∧ before.site.table.on? number = none)
  unavailable : report.status ≠ .stale →
    (report.status = .signerUnavailable ↔ raised.isSome = true)
  bound : report.status ≠ .stale → (report.status = .bound ↔ raised = none ∧
    ∃ number address, chain = some number ∧ before.site.table.on? number = some address)
  canWrite : report.status ≠ .stale → (report.canWrite = true ↔ report.status = .bound)
  signed : report.status = .bound → ∃ number address, chain = some number ∧
    before.site.table.on? number = some address ∧ report.binding = .signerBound number address
  warning : ∀ warning, report.warning = some warning ↔
    report.status = .unsupportedNetwork ∧ warning.role = before.site.role ∧
      chain = some warning.chain
  error : ∀ failure, report.error = some failure ↔
    report.status = .signerUnavailable ∧ raised = some failure

namespace Binder

/-- The ways in which an observation that comes in time can end, with the failure that it met, the
binder that it leaves and its report. -/
inductive Ending (binder : Binder) (ticket : Ticket) :
    Option Chain → Option Failure → Binder → Report → Prop where
  | disconnected : Ending binder ticket none none (binder.land ticket none)
      ⟨.disconnected, binder.home, ticket, none, none⟩
  | undeployed {number : Chain} (absent : binder.site.table.on? number = none) :
      Ending binder ticket (some number) none (binder.land ticket none)
        ⟨.unsupportedNetwork, binder.home, ticket, some ⟨binder.site.role, number⟩, none⟩
  | refused {number : Chain} {address : Address} (failure : Failure)
      (deployed : binder.site.table.on? number = some address) :
      Ending binder ticket (some number) (some failure) (binder.land ticket none)
        ⟨.signerUnavailable, binder.home, ticket, none, some failure⟩
  | bound {number : Chain} {address : Address}
      (deployed : binder.site.table.on? number = some address) :
      Ending binder ticket (some number) none
        (binder.land ticket (some (.signerBound number address)))
        ⟨.bound, .signerBound number address, ticket, none, none⟩

variable {binder : Binder} {chain : Option Chain} {ticket : Ticket} {raised : Option Failure}

/-- An observation that comes in time ends in one of these ways, provided that it met no failure
before it had anything to ask for. -/
theorem Settles.ending {landing : Landing} (settles : binder.Settles chain ticket raised landing)
    (newer : binder.mark.applied < ticket)
    (reached : raised.isSome = true → ∃ number address,
      chain = some number ∧ binder.site.table.on? number = some address) :
    binder.Ending ticket chain raised landing.binder landing.report := by
  obtain ⟨lands, report⟩ := settles.inTime newer
  rw [lands, report]
  cases chain with
  | none =>
      cases raised with
      | none => exact .disconnected
      | some failure =>
          obtain ⟨number, address, impossible, -⟩ := reached rfl
          cases impossible
  | some number =>
      cases deployed : binder.site.table.on? number with
      | none =>
          cases raised with
          | none =>
              simp only [Site.signedFor, Site.verdictFor, Site.warningFor, decided, deployed,
                Option.getD_none]
              exact .undeployed deployed
          | some failure =>
              obtain ⟨other, address, same, listed⟩ := reached rfl
              cases same
              rw [deployed] at listed
              cases listed
      | some address =>
          cases raised with
          | none =>
              simp only [Site.signedFor, Site.verdictFor, Site.warningFor, decided, deployed,
                Option.isSome_none, Bool.false_eq_true, if_false, Option.getD_some]
              exact .bound deployed
          | some failure =>
              simp only [Site.signedFor, Site.verdictFor, Site.warningFor, decided, deployed,
                Option.isSome_some, if_true, Option.getD_none]
              exact .refused failure deployed

theorem Ending.describes {after : Binder} {report : Report}
    (ending : binder.Ending ticket chain raised after report)
    (newer : binder.mark.applied < ticket) (readOnly : binder.home.isSignerBound = false) :
    report.Describes chain ticket raised binder after := by
  have inTime : ¬ ticket ≤ binder.mark.applied := Int.not_le.2 newer
  cases ending with
  | disconnected => constructor <;> simp [inTime, readOnly, Report.canWrite, active_land]
  | @undeployed number absent =>
      have warned : ∀ warning : Undeployed, (⟨binder.site.role, number⟩ : Undeployed) = warning ↔
          warning.role = binder.site.role ∧ number = warning.chain := by
        rintro ⟨role, other⟩
        rw [Undeployed.mk.injEq, eq_comm (a := role)]
      constructor <;> simp [inTime, readOnly, Report.canWrite, active_land, absent, warned]
  | refused failure deployed =>
      constructor <;> simp [inTime, readOnly, Report.canWrite, active_land, deployed]
  | @bound number address deployed =>
      have signs : (Binding.signerBound number address).isSignerBound = true := rfl
      constructor <;> simp [inTime, signs, Report.canWrite, active_land, deployed]

/-- The report at the end of an observation means what it says. -/
theorem Settles.describes {landing : Landing}
    (settles : binder.Settles chain ticket raised landing)
    (reached : raised.isSome = true → ∃ number address,
      chain = some number ∧ binder.site.table.on? number = some address)
    (readOnly : binder.home.isSignerBound = false) :
    landing.report.Describes chain ticket raised binder landing.binder := by
  rcases Int.lt_or_le binder.mark.applied ticket with newer | older
  · exact (settles.ending newer reached).describes newer readOnly
  · obtain ⟨same, report⟩ := settles.late older
    rw [same, report]
    constructor <;> simp [older]

end Binder

namespace Binder.Session

theorem draw_ticket (session : Session) (given : Option Ticket) :
    (session.draw given).1 = given.getD (session.counter.last + 1) := by
  cases given <;> rfl

end Binder.Session

namespace Slot.Session

open Binder (Sighting)
open Binder.Session (absorb_stage act_observe_of_unused act_signerAnswers_of_waiting
  act_connectorAnswers_of_waiting draw_ticket)

variable {site : Site} {session : Session} {action : Action} {name : Nat}

/-! ## Every observation that is answered ends with a report -/

/-- An observation begins with its chain and its ticket, keeps both, and goes on with every answer
that it waits for: it ends with a report, unless it has to ask for something else. -/
structure Responsive (session : Session) : Prop where
  begins : ∀ name, session.sightings.get? name = none → ∀ chain given, ∃ stage,
    (session.act (.drive (.observe name chain given))).sightings.get? name =
      some ⟨chain, given.getD (session.counter.last + 1), stage⟩ ∧
    ((∃ observation, stage = .awaitsSigner observation) ∨ ∃ report, stage = .ended none report)
  signerAnswers : ∀ name chain ticket observation,
    session.sightings.get? name = some ⟨chain, ticket, .awaitsSigner observation⟩ →
    ∀ failure, ∃ stage,
      (session.act (.drive (.signerAnswers name failure))).sightings.get? name =
        some ⟨chain, ticket, stage⟩ ∧
      ((failure = none ∧ stage = .awaitsContract observation) ∨
        ∃ report, stage = .ended failure report)
  connectorAnswers : ∀ name chain ticket observation,
    session.sightings.get? name = some ⟨chain, ticket, .awaitsContract observation⟩ →
    ∀ failure, ∃ report,
      (session.act (.drive (.connectorAnswers name failure))).sightings.get? name =
        some ⟨chain, ticket, .ended failure report⟩
  keeps : ∀ name sighting, session.sightings.get? name = some sighting → ∀ action, ∃ later,
    (session.act action).sightings.get? name = some later ∧
      later.chain = sighting.chain ∧ later.ticket = sighting.ticket

theorem sightings_drive {binder : Binder} (held : session.slot = .held binder)
    (inner : Binder.Session.Action) :
    (session.act (.drive inner)).sightings = ((session.within binder).act inner).sightings := by
  rw [act_drive held]

theorem responsive (sound : session.Sound site) {binder : Binder}
    (held : session.slot = .held binder) : session.Responsive where
  begins name unused chain given := by
    have absent : (session.within binder).sightings.get? name = none := unused
    rw [sightings_drive held, act_observe_of_unused absent, draw_ticket]
    obtain ⟨stage, known, next⟩ := absorb_stage
      { session.within binder with counter := ((session.within binder).draw given).2 } name chain
      (given.getD (session.counter.last + 1)) none .awaitsSigner
      (binder.observe chain (given.getD (session.counter.last + 1)))
    refine ⟨stage, known, next.imp_left ?_⟩
    rintro ⟨observation, -, waits⟩
    exact ⟨observation, waits⟩
  signerAnswers name chain ticket observation waits failure := by
    have waiting : (session.within binder).sightings.get? name =
      some ⟨chain, ticket, .awaitsSigner observation⟩ := waits
    rw [sightings_drive held, act_signerAnswers_of_waiting waiting failure]
    obtain ⟨stage, known, next⟩ := absorb_stage (session.within binder) name chain ticket failure
      .awaitsContract (binder.signerAnswered observation failure)
    refine ⟨stage, known, next.imp_left ?_⟩
    rintro ⟨later, paused, now⟩
    obtain ⟨unfailed, same⟩ := Binder.signerAnswered_paused paused
    exact ⟨unfailed, same ▸ now⟩
  connectorAnswers name chain ticket observation waits failure := by
    have waiting : (session.within binder).sightings.get? name =
      some ⟨chain, ticket, .awaitsContract observation⟩ := waits
    rw [sightings_drive held, act_connectorAnswers_of_waiting waiting failure]
    obtain ⟨stage, known, ⟨later, impossible, -⟩ | ⟨report, rfl⟩⟩ :=
      absorb_stage (session.within binder) name chain ticket failure .awaitsContract
        (.ended (binder.contractAnswered observation failure))
    · cases impossible
    · exact ⟨report, known⟩
  keeps name sighting known action := by
    have move := act_move sound action name
    rw [known] at move
    exact move.keeps

/-! ## Contract handles -/

/-- The action is the one in which the connector builds the handle for an observation. -/
def BuildsHandle (session : Session) (name : Nat) (action : Action) : Prop :=
  (∃ binder, session.slot = .held binder) ∧ action = .drive (.connectorAnswers name none) ∧
    ∃ chain ticket observation,
      session.sightings.get? name = some ⟨chain, ticket, .awaitsContract observation⟩

/-- In the course of some actions, the ticket of an observation was newer than the applied one when
its connector was called, and was so no longer when the call returned. -/
def OvertakenInCall (first : Session) (actions : List Action) (name : Nat) (ticket : Ticket) :
    Prop :=
  ∃ before during failure,
    actions = before ++ .drive (.signerAnswers name none) ::
      (during ++ [.drive (.connectorAnswers name failure)]) ∧
    (∃ asked, (first.run before).slot = .held asked ∧ asked.mark.applied < ticket) ∧
    (∃ chain observation, (first.run before).sightings.get? name =
      some ⟨chain, ticket, .awaitsSigner observation⟩) ∧
    ∃ returned, (first.run (before ++ .drive (.signerAnswers name none) :: during)).slot =
      .held returned ∧ ticket ≤ returned.mark.applied

/-- An observation that waits for its handle was in time when the connector was called. -/
theorem called_in_time (site : Site) (counter : Counter) {actions : List Action}
    {chain : Option Chain} {ticket : Ticket} {observation : Binder.Observation}
    (waits : ((start site counter).run actions).sightings.get? name =
      some ⟨chain, ticket, .awaitsContract observation⟩) :
    ∃ before during, actions = before ++ .drive (.signerAnswers name none) :: during ∧
      (∃ asked, ((start site counter).run before).slot = .held asked ∧
        asked.mark.applied < ticket) ∧
      ∃ chain observation, ((start site counter).run before).sightings.get? name =
        some ⟨chain, ticket, .awaitsSigner observation⟩ := by
  induction actions using List.reverseRecOn generalizing chain ticket observation with
  | nil => cases waits
  | append_singleton actions action inductionHypothesis =>
      have move := act_move (run_sound site counter actions) action name
      rw [run_concat] at waits
      rw [waits] at move
      cases move with
      | apart same =>
          obtain ⟨before, during, rfl, asked⟩ := inductionHypothesis same.symm
          exact ⟨before, during ++ [action], by simp, asked⟩
      | driven held drives _ move =>
          generalize former : ((start site counter).run actions).sightings.get? name = before
            at move
          cases move with
          | stays =>
              obtain ⟨before, during, rfl, asked⟩ := inductionHypothesis former
              exact ⟨before, during ++ [action], by simp, asked⟩
          | asks answered waited newer =>
              rw [waited] at former
              exact ⟨actions, [], by rw [drives, answered], ⟨_, held, newer⟩, _, _, former⟩

/-- A handle is built at the end of an observation. -/
theorem BuildsHandle.completes {site : Site} (sound : session.Sound site)
    (builds : session.BuildsHandle name action) :
    ∃ sighting, (session.act action).sightings.get? name = some sighting ∧
      sighting.Completed := by
  obtain ⟨⟨binder, held⟩, rfl, chain, ticket, observation, waits⟩ := builds
  obtain ⟨report, ended⟩ :=
    (responsive sound held).connectorAnswers name chain ticket observation waits none
  exact ⟨_, ended, none, report, rfl⟩

/-- Before the end of an observation no handle is built for it. -/
theorem not_buildsHandle_before (site : Site) (counter : Counter) {earlier later : List Action}
    {next : Action}
    (unfinished : ∀ former, ((start site counter).run (earlier ++ next :: later)).sightings.get?
      name = some former → ¬ former.Completed) :
    ¬ ((start site counter).run earlier).BuildsHandle name next := by
  intro builds
  have sound : ((start site counter).run earlier).Sound site := run_sound site counter earlier
  obtain ⟨sighting, known, completed⟩ := builds.completes sound
  have kept := run_of_not_pending ((act_change _ next).sound sound) known completed.not_pending
    later
  refine unfinished sighting ?_ completed
  rw [run, List.foldl_append, List.foldl_cons]
  exact kept

/-! ## The theorem -/

theorem Sound.home_readOnly (sound : session.Sound site) {binder : Binder}
    (held : session.slot = .held binder) : binder.home.isSignerBound = false := by
  obtain ⟨home, opened⟩ := sound.opened held
  rw [opened.home]
  rfl

/-- The end of an observation is an action about it, and its report means what it says. -/
theorem ends_described (sound : session.Sound site) {chain : Option Chain} {ticket : Ticket}
    {failure : Option Failure} {report : Report}
    (unfinished : ∀ former, session.sightings.get? name = some former → ¬ former.Completed)
    (ended : (session.act action).sightings.get? name =
      some ⟨chain, ticket, .ended failure report⟩) :
    ∃ inner before after, action = .drive inner ∧ inner.name? = some name ∧
      session.slot = .held before ∧ (session.act action).slot = .held after ∧
      report.Describes chain ticket inner.failure? before after := by
  have move := act_move sound action name
  rw [ended] at move
  cases move with
  | apart same => exact absurd ⟨failure, report, rfl⟩ (unfinished _ same.symm)
  | @driven binder inner held drives leaves move =>
      generalize former : session.sightings.get? name = before at move
      cases move with
      | stays => exact absurd ⟨failure, report, rfl⟩ (unfinished _ former)
      | @ends _ _ landing about _ reached settles lands =>
          refine ⟨inner, binder, landing.binder, drives, about, held, by rw [leaves, lands], ?_⟩
          exact settles.describes reached (sound.home_readOnly held)

/-- **What a report means.** Whatever initializations and observations were mixed, an observation of
an initialized binder that is answered and not cancelled comes to its end with a report. The report
bears the ticket and shows the binding in force. It is stale exactly when the ticket is not newer
than the applied one, and then the observation changed nothing, and no contract handle was built for
it unless it was overtaken while the connector worked for it. Otherwise the status says whether
there was no chain, no deployment, a failure of the signer or of the connector, or none of these,
and exactly in the last case there is write access, on the chain that was observed. -/
theorem report_meaning (site : Site) (counter : Counter) (actions : List Action) :
    let session := (start site counter).run actions
    (∀ binder, session.slot = .held binder → session.Responsive) ∧
    ∀ action name chain ticket failure report,
      (∀ former, session.sightings.get? name = some former → ¬ former.Completed) →
      (session.act action).sightings.get? name = some ⟨chain, ticket, .ended failure report⟩ →
      ∃ inner before after, action = .drive inner ∧ inner.name? = some name ∧
        session.slot = .held before ∧ (session.act action).slot = .held after ∧
        report.Describes chain ticket inner.failure? before after ∧
        (report.status = .stale →
          (∀ earlier next later, actions ++ [action] = earlier ++ next :: later →
            ¬ ((start site counter).run earlier).BuildsHandle name next) ∨
          OvertakenInCall (start site counter) (actions ++ [action]) name ticket) := by
  intro session
  have sound : session.Sound site := run_sound site counter actions
  refine ⟨fun binder held => responsive sound held, ?_⟩
  intro action name chain ticket failure report unfinished ended
  obtain ⟨inner, before, after, drives, about, held, leaves, describes⟩ :=
    ends_described sound unfinished ended
  refine ⟨inner, before, after, drives, about, held, leaves, describes, fun stale => ?_⟩
  by_cases builds : session.BuildsHandle name action
  · obtain ⟨-, rfl, formerChain, formerTicket, observation, waits⟩ := builds
    have kept := act_move sound (.drive (.connectorAnswers name none)) name
    rw [waits, ended] at kept
    obtain ⟨_, ⟨⟩, -, same⟩ := kept.keeps
    cases same
    obtain ⟨earlier, during, split, asked, waited⟩ := called_in_time site counter waits
    refine .inr ⟨earlier, during, none, ?_, asked, waited, before, ?_, describes.stale.1 stale⟩
    · rw [split, List.append_assoc, List.cons_append]
    · rw [← split]
      exact held
  · refine .inl fun earlier next later split => ?_
    rcases List.eq_nil_or_concat later with rfl | ⟨rest, last, rfl⟩
    · obtain ⟨rfl, ⟨⟩⟩ := List.append_inj' split rfl
      exact builds
    · rw [List.concat_eq_append, ← List.cons_append, ← List.append_assoc] at split
      obtain ⟨rfl, -⟩ := List.append_inj' split rfl
      exact not_buildsHandle_before site counter unfinished

/-- The wallet is disconnected while the connector works for an observation. -/
def disconnecting : List Action :=
  [.bindReadOnly 0 1 none, .contractBuilt 0 none, .drive (.observe 0 (some 10) (some 1)),
    .drive (.signerAnswers 0 none), .drive (.observe 1 none (some 2))]

theorem report_meaning_disconnecting :
    let session := (start Binder.Session.twoChains .fresh).run disconnecting
    (∀ former, session.sightings.get? 0 = some former → ¬ former.Completed) ∧
    ∃ report, (session.act (.drive (.connectorAnswers 0 none))).sightings.get? 0 =
        some ⟨some 10, 1, .ended none report⟩ ∧ report.status = .stale ∧
      OvertakenInCall (start Binder.Session.twoChains .fresh)
        (disconnecting ++ [.drive (.connectorAnswers 0 none)]) 0 1 := by
  intro session
  have waits : session.sightings.get? 0 =
      some ⟨some 10, 1, .awaitsContract ⟨10, 1, Binder.Session.uniformAddress 2⟩⟩ := rfl
  have unfinished : ∀ former, session.sightings.get? 0 = some former → ¬ former.Completed := by
    rintro former known ⟨failure, report, ended⟩
    cases waits.symm.trans known
    cases ended
  obtain ⟨report, ended, stale⟩ : ∃ report,
      (session.act (.drive (.connectorAnswers 0 none))).sightings.get? 0 =
        some ⟨some 10, 1, .ended none report⟩ ∧ report.status = .stale := ⟨_, rfl, rfl⟩
  refine ⟨unfinished, report, ended, stale, ?_⟩
  obtain ⟨-, -, -, -, -, -, -, -, built⟩ := (report_meaning Binder.Session.twoChains .fresh
    disconnecting).2 (.drive (.connectorAnswers 0 none)) 0 (some 10) 1 none report unfinished ended
  refine (built stale).resolve_left fun never => ?_
  exact never disconnecting _ [] rfl ⟨⟨_, rfl⟩, rfl, _, _, _, waits⟩

end Slot.Session

end PackageStore
