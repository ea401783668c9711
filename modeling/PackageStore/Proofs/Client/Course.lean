import PackageStore.Proofs.Client.Assembly
import PackageStore.Proofs.Client.Session
import PackageStore.Proofs.Network.Announcement
import PackageStore.Proofs.Network.Session

/-!
Contract: the observations that are under way in a client, and how they proceed.

Owns: the dispatch that a task stands for; the four things that an action can do to the dispatches,
which are to leave them alone, to give some up, to let an observation draw its ticket, and to bring
one of them a step forward; and what every run keeps, restarts included: the sites of the roles, and
that no ticket is newer than the last one drawn.

Does not own: what the wallet makes of its readings.
-/

set_option autoImplicit false

namespace PackageStore

namespace Observer

section Applied

variable {κ : Type} [DecidableEq κ] {observer opened current : Observer κ} {newest : Ticket}

/-- No binder has applied a ticket newer than this one. -/
def AppliedUpTo (observer : Observer κ) (newest : Ticket) : Prop :=
  ∀ key binder, observer.binder key = .ok binder → binder.mark.applied ≤ newest

theorem AppliedUpTo.hold (upTo : observer.AppliedUpTo newest) (key : κ) {binder : Binder}
    (applied : binder.mark.applied ≤ newest) : (observer.hold key binder).AppliedUpTo newest := by
  intro other later known
  by_cases here : key = other
  · subst here
    rw [observer.binder_hold_self] at known
    cases known
    exact applied
  · rw [observer.binder_hold_of_ne binder here] at known
    exact upTo other later known

theorem Announces.upTo {ticket : Ticket} {news : List (κ × Report)}
    (announces : opened.Announces ticket news current) (drawn : ticket ≤ newest)
    (upTo : opened.AppliedUpTo newest) : current.AppliedUpTo newest := by
  refine announces.carries (motive := fun observer _ => observer.AppliedUpTo newest) [] ?_ upTo
  intro observer _ key binder landing known faithful before
  have applied : landing.binder.mark.applied ≤ newest := by
    rw [faithful.applied]
    exact Int.max_le.2 ⟨before key binder known, drawn⟩
  exact before.hold key applied

end Applied

/-- The dispatch that has come so far, unless it has ended. Of its past, only what it is about
counts. -/
def Progress.dispatch? (progress : Progress Role) : Option Network.Dispatch :=
  progress.rebind?.map fun rebind =>
    ⟨some rebind.observation.chain, rebind.observation.ticket, [], .running progress⟩

end Observer

namespace Network

variable {network : Network}

theorem appliedUpTo_of_slots {other : Network} {newest : Ticket}
    (slots : other.slots = network.slots) (upTo : network.observer.AppliedUpTo newest) :
    other.observer.AppliedUpTo newest := by
  intro role binder known
  exact upTo role binder ((binder_of_slots slots role).symm.trans known)

/-- A step of a dispatch leaves alone what the slots are for. -/
theorem Takes.site? {own : Observer.Step Role} {step : Step} (takes : network.Takes own step)
    (role : Role) : step.network.site? role = network.site? role := by
  have same := congrFun takes.keeps.site role
  rw [takes.taken, Network.site?, Network.site?, takeOver, adopt, OrderedMap.get?_mapEntries]
  cases found : network.slots.get? role with
  | none => rfl
  | some slot =>
      cases known : own.observer.binder role with
      | error failure => rfl
      | ok binder =>
          rw [Observer.site_of_binder known] at same
          obtain ⟨former, isFormer, site⟩ := Observer.exists_binder_of_site same.symm
          have held : network.site? role = some former.site := site?_of_binder isFormer
          rw [Network.site?, found] at held
          rw [held, site]
          rfl

namespace Session

/-- A dispatch that goes on is about the same observation, and has come as far as the step did. -/
theorem Advances.goesOn {dispatch later : Dispatch} {answerer : Role} {failure : Option Failure}
    {step : Step} (advance : Advances network dispatch answerer failure step)
    (goesOn : step.progress.dispatch? = some later) :
    later.chain = dispatch.chain ∧ later.ticket = dispatch.ticket ∧
      later.phase = .running step.progress := by
  obtain ⟨rebind, pauses, rfl⟩ := Option.map_eq_some_iff.1 goesOn
  have fits := advance.fits rebind pauses
  exact ⟨fits.chain.symm, fits.ticket, rfl⟩

end Session

end Network

namespace Client

theorem bindReadOnly_applied {network : Network} {role : Role} {slot : Slot} {newest : Nat}
    (found : network.slots.get? role = some slot) (upTo : network.observer.AppliedUpTo newest)
    (home : Chain) (address : Address) :
    (slot.bindReadOnly home address).mark.applied ≤ newest := by
  cases slot with
  | vacant site => exact Int.natCast_nonneg newest
  | held binder =>
      have known : network.binder role = .ok binder := by
        rw [Network.binder, found]
        rfl
      exact upTo role binder known

/-! ## The dispatches of a session -/

/-- The dispatch that a task stands for, if one is under way. -/
def Task.dispatch? : Task → Option Network.Dispatch
  | .queued chain ticket => some ⟨chain, ticket, [], .queued⟩
  | .running (.needsSigner rebind _) => (Observer.Progress.needsSigner rebind).dispatch?
  | .running (.needsContract rebind _) => (Observer.Progress.needsContract rebind).dispatch?
  | _ => none

theorem Task.dispatch?_of_isOver {task : Task} (ended : task.isOver = true) :
    task.dispatch? = none := by
  cases task with
  | running progress =>
      cases progress with
      | ended outcome => rfl
      | needsSigner | needsContract => cases ended
  | cancelled => rfl
  | queued | asksChain | closing => cases ended

theorem Task.dispatch?_struck (task : Task) : task.struck.dispatch? = none :=
  dispatch?_of_isOver task.struck_isOver

theorem dispatch?_absorb (client : Client) (purpose : Purpose) (step : Network.Step) :
    (Task.running (client.absorb purpose step).progress).dispatch? =
      step.progress.dispatch? := by
  unfold absorb
  cases step.progress <;> rfl

namespace Session

/-- The dispatch under a number, if it is under way. -/
def underWay? (session : Session) (number : Nat) : Option Network.Dispatch :=
  session.tasks[number]?.bind Task.dispatch?

theorem underWay?_of_task {session : Session} {number : Nat} {task : Task}
    (known : session.tasks[number]? = some task) : session.underWay? number = task.dispatch? := by
  rw [underWay?, known]
  rfl

theorem underWay?_spawn (session : Session) (client : Client) (task : Task) (number : Nat) :
    (session.spawn client task).underWay? number =
      if number = session.tasks.length then task.dispatch? else session.underWay? number := by
  by_cases last : number = session.tasks.length
  · rw [if_pos last, last]
    exact underWay?_of_task (session.getElem?_spawn_last client task)
  · rw [if_neg last, underWay?, underWay?, spawn]
    congr 1
    rcases Nat.lt_or_gt_of_ne last with before | behind
    · rw [List.getElem?_append_left before]
    · rw [List.getElem?_eq_none (by simp; omega), List.getElem?_eq_none (by omega)]

theorem underWay?_set {session : Session} {number : Nat} {former : Task}
    (known : session.tasks[number]? = some former) (client : Client) (later : Task)
    (other : Nat) :
    underWay? ⟨client, session.tasks.set number later⟩ other =
      if number = other then later.dispatch? else session.underWay? other := by
  obtain ⟨within, -⟩ := List.getElem?_eq_some_iff.1 known
  rw [underWay?, underWay?, List.getElem?_set, if_pos within]
  by_cases here : number = other
  · rw [if_pos here, if_pos here]
    rfl
  · rw [if_neg here, if_neg here]

theorem underWay?_beyond {session : Session} {number : Nat}
    (beyond : session.tasks.length ≤ number) : session.underWay? number = none := by
  rw [underWay?, List.getElem?_eq_none beyond]
  rfl

/-! ## What an action can do to the dispatches -/

/-- What the bindings depend on, the dispatches apart, is left alone. -/
structure Aside (before after : Session) : Prop where
  settings : after.client.settings = before.client.settings
  slots : after.client.network.slots = before.client.network.slots
  counter : after.client.network.counter = before.client.network.counter

/-- All dispatches are left alone. -/
structure Rests (before after : Session) : Prop extends Aside before after where
  same : ∀ number, after.underWay? number = before.underWay? number

/-- Some dispatches are given up. -/
structure Drops (before after : Session) : Prop extends Aside before after where
  left : ∀ number, after.underWay? number = before.underWay? number ∨
    after.underWay? number = none

/-- An observation draws its ticket. -/
structure Observes (chain : Option Chain) (before after : Session) : Prop where
  settings : after.client.settings = before.client.settings
  slots : after.client.network.slots = before.client.network.slots
  counter : after.client.network.counter.last = before.client.network.counter.last + 1
  added : ∃ number, after.underWay? number =
      some ⟨chain, before.client.network.counter.last + 1, [], .queued⟩ ∧
    before.underWay? number = none ∧
    ∀ other, number ≠ other → after.underWay? other = before.underWay? other

/-- One dispatch takes a step, or all of them are left alone. If the step `succeeds`, it is no
answer with a failure. -/
inductive Proceeds (succeeds : Prop) (before after : Session) : Prop where
  | rests (rests : Rests before after)
  | advances {number : Nat} {dispatch : Network.Dispatch} {answerer : Role}
      {failure : Option Failure} {step : Network.Step} {news : List (Role × Report)}
      (known : before.underWay? number = some dispatch)
      (allowed : succeeds → failure = none)
      (advance : Network.Session.Advances before.client.network dispatch answerer failure step)
      (announces : before.client.network.observer.Announces dispatch.ticket news
        step.network.observer)
      (sites : ∀ role, step.network.site? role = before.client.network.site? role)
      (settings : after.client.settings = before.client.settings)
      (network : after.client.network = step.network)
      (later : after.underWay? number = step.progress.dispatch?)
      (others : ∀ other, number ≠ other → after.underWay? other = before.underWay? other)

variable {before after session : Session} {number : Nat}

theorem Rests.refl (session : Session) : Rests session session :=
  ⟨⟨rfl, rfl, rfl⟩, fun _ => rfl⟩

theorem Rests.drops (rests : Rests before after) : Drops before after :=
  ⟨rests.toAside, fun number => .inl (rests.same number)⟩

theorem Rests.of_tasks (aside : Aside before after) (tasks : after.tasks = before.tasks) :
    Rests before after := by
  refine ⟨aside, fun number => ?_⟩
  rw [underWay?, underWay?, tasks]

/-- A task that stands for no dispatch is added. -/
theorem Rests.spawn {client : Client} {task : Task} (aside : Aside before ⟨client, before.tasks⟩)
    (nothing : task.dispatch? = none) : Rests before (before.spawn client task) := by
  refine ⟨⟨aside.settings, aside.slots, aside.counter⟩, fun number => ?_⟩
  rw [underWay?_spawn]
  split
  next last => rw [nothing, last, underWay?_beyond (Nat.le_refl _)]
  next => rfl

/-- A task that stands for no dispatch ends. -/
theorem Rests.ends {client : Client} {task : Task} (outcome : Outcome)
    (known : before.tasks[number]? = some task) (nothing : task.dispatch? = none)
    (aside : Aside before ⟨client, before.tasks⟩) :
    Rests before ⟨client, before.tasks.set number (.running (.ended outcome))⟩ := by
  refine ⟨⟨aside.settings, aside.slots, aside.counter⟩, fun other => ?_⟩
  rw [underWay?_set known]
  split
  next here =>
    rw [← here, underWay?_of_task known, nothing]
    rfl
  next => rfl

/-- A task takes a step of the dispatch that it stands for. -/
theorem absorb_proceeds {succeeds : Prop} {task : Task} {dispatch : Network.Dispatch}
    {answerer : Role} {failure : Option Failure} {step : Network.Step}
    {earlier : List (Role × Report)} (purpose : Purpose)
    (known : session.tasks[number]? = some task) (underWay : task.dispatch? = some dispatch)
    (allowed : succeeds → failure = none)
    (advance : Network.Session.Advances session.client.network dispatch answerer failure step)
    (sites : ∀ role, step.network.site? role = session.client.network.site? role)
    (tells : session.client.network.Tells dispatch.ticket earlier step) :
    Proceeds succeeds session (session.absorb number (session.client.absorb purpose step)) := by
  obtain ⟨news, -, announces, -⟩ := tells
  have underWayNow : session.underWay? number = some dispatch :=
    (underWay?_of_task known).trans underWay
  refine .advances underWayNow allowed advance announces sites ?_ ?_ ?_ ?_
  · rw [absorb, absorb_client]
  · rw [absorb, absorb_client]
  · rw [absorb, underWay?_set known, if_pos rfl]
    exact dispatch?_absorb session.client purpose step
  · intro other different
    rw [absorb, underWay?_set known, if_neg different]

/-- It is the turn of a dispatch that waited for it. -/
theorem dispatch_proceeds {chain : Option Chain} {ticket : Ticket} (purpose : Purpose)
    (queued : session.tasks[number]? = some (.queued chain ticket)) :
    Proceeds True session (session.absorb number
      (session.client.absorb purpose (session.client.network.dispatch chain ticket))) := by
  have advance : Network.Session.Advances session.client.network ⟨chain, ticket, [], .queued⟩
      default none (session.client.network.dispatch chain ticket) :=
    Network.Session.dispatch_advances rfl
  exact absorb_proceeds purpose queued rfl (fun _ => rfl) advance
    (Network.dispatch_takes _ chain ticket).site? (Network.dispatch_tells _ chain ticket)

theorem begin_proceeds (session : Session) (number : Nat) :
    Proceeds True session (session.begin number) := by
  unfold begin
  split
  next chain ticket queued => exact dispatch_proceeds .event queued
  next => exact .rests (.refl session)

/-- The pauses of the dispatches are those of the observations that they are about. -/
def Fits (session : Session) : Prop :=
  ∀ number dispatch, session.underWay? number = some dispatch →
    ∀ rebind, dispatch.rebind? = some rebind → rebind.IsOf dispatch.chain dispatch.ticket

theorem signerAnswers_proceeds (fits : session.Fits) (number : Nat) (failure : Option Failure) :
    Proceeds (failure = none) session (session.signerAnswers number failure) := by
  unfold signerAnswers
  split
  next rebind purpose waits =>
    have own := fits number _ (underWay?_of_task waits) rebind rfl
    exact absorb_proceeds purpose waits rfl id
      (Network.Session.signerAnswered_advances rfl own failure)
      (Network.signerAnswered_takes _ rebind failure).site?
      (Network.signerAnswered_tells _ rebind failure)
  next => exact .rests (.refl session)

theorem connectorAnswers_proceeds (fits : session.Fits) (number : Nat)
    (failure : Option Failure) :
    Proceeds (failure = none) session (session.connectorAnswers number failure) := by
  unfold connectorAnswers
  split
  next rebind purpose waits =>
    have own := fits number _ (underWay?_of_task waits) rebind rfl
    exact absorb_proceeds purpose waits rfl id
      (Network.Session.contractAnswered_advances rfl own failure)
      (Network.contractAnswered_takes _ rebind failure).site?
      (Network.contractAnswered_tells _ rebind failure)
  next => exact .rests (.refl session)

/-! ## Observations -/

/-- The wallet calls the network: an observation draws its ticket. -/
theorem chainChanged_observes (session : Session) (chain : Option Chain) :
    Observes chain session
      (session.spawn (session.client.chainChanged session.tasks.length).2
        (.queued chain (session.client.chainChanged session.tasks.length).1)) := by
  refine ⟨rfl, rfl, rfl, session.tasks.length, ?_, underWay?_beyond (Nat.le_refl _), ?_⟩
  · rw [underWay?_spawn, if_pos rfl]
    rfl
  · intro other different
    rw [underWay?_spawn, if_neg (Ne.symm different)]

/-- A start that knows the chain observes it: the observation draws its ticket and has its turn at
once. -/
theorem startup_observes (chain : Option Chain) (purpose : Purpose)
    (asks : session.tasks[number]? = some .asksChain) :
    ∃ middle, Observes chain session middle ∧
      Proceeds True middle (session.absorb number (session.client.observe chain purpose)) := by
  let ticket := session.client.network.issue.1
  let middle : Session := ⟨{ session.client with network := session.client.network.issue.2 },
    session.tasks.set number (.queued chain ticket)⟩
  have queued : middle.tasks[number]? = some (.queued chain ticket) := by
    obtain ⟨within, -⟩ := List.getElem?_eq_some_iff.1 asks
    rw [List.getElem?_set, if_pos rfl, if_pos within]
  have turn : middle.absorb number
      (middle.client.absorb purpose (middle.client.network.dispatch chain ticket)) =
        session.absorb number (session.client.observe chain purpose) := by
    unfold Session.absorb
    rw [List.set_set]
    rfl
  refine ⟨middle, ⟨rfl, rfl, rfl, number, ?_, underWay?_of_task asks, ?_⟩,
    turn ▸ dispatch_proceeds purpose queued⟩
  · exact underWay?_of_task queued
  · intro other different
    rw [underWay?_set asks, if_neg different]

/-- A direct observation does so too. -/
theorem callObserve_observes (session : Session) (chain : Option Chain) :
    ∃ middle, Observes chain session middle ∧
      Proceeds True middle (session.callObserve chain) := by
  let ticket := session.client.network.issue.1
  let middle : Session := session.spawn
    { session.client with network := session.client.network.issue.2 } (.queued chain ticket)
  have queued : middle.tasks[session.tasks.length]? = some (.queued chain ticket) :=
    session.getElem?_spawn_last _ _
  have turn : middle.absorb session.tasks.length
      (middle.client.absorb .request (middle.client.network.dispatch chain ticket)) =
        session.callObserve chain := by
    unfold Session.absorb callObserve
    rw [show middle.tasks = session.tasks ++ [.queued chain ticket] from rfl,
      List.set_append_right _ _ (Nat.le_refl _), Nat.sub_self]
    rfl
  refine ⟨middle, ⟨rfl, rfl, rfl, session.tasks.length, ?_, ?_, ?_⟩,
    turn ▸ dispatch_proceeds .request queued⟩
  · exact underWay?_of_task queued
  · exact underWay?_beyond (Nat.le_refl _)
  · intro other different
    rw [underWay?_spawn, if_neg (Ne.symm different)]

/-! ## What every run keeps -/

/-- What every action keeps: the settings and the sites of the roles are those of the client as it
was put together, no ticket that was applied or is under way is newer than the last one drawn, and
the dispatches pause where they should. -/
structure Ordered (origin : Client) (session : Session) : Prop where
  settings : session.client.settings = origin.settings
  sites : ∀ role, session.client.network.site? role = origin.network.site? role
  applied : session.client.network.observer.AppliedUpTo session.client.network.counter.last
  drawn : ∀ number dispatch, session.underWay? number = some dispatch →
    dispatch.ticket ≤ session.client.network.counter.last
  fits : session.Fits

variable {origin : Client} {chain : Option Chain} {succeeds : Prop}

theorem Drops.ordered (drops : Drops before after) (ordered : before.Ordered origin) :
    after.Ordered origin where
  settings := drops.settings.trans ordered.settings
  sites role := (Network.site?_of_slots drops.slots role).trans (ordered.sites role)
  applied := by
    rw [drops.counter]
    exact Network.appliedUpTo_of_slots drops.slots ordered.applied
  drawn number dispatch known := by
    rw [drops.counter]
    rcases drops.left number with same | gone
    · exact ordered.drawn number dispatch (same ▸ known)
    · rw [gone] at known
      cases known
  fits number dispatch known := by
    rcases drops.left number with same | gone
    · exact ordered.fits number dispatch (same ▸ known)
    · rw [gone] at known
      cases known

theorem Observes.ordered (observes : Observes chain before after)
    (ordered : before.Ordered origin) : after.Ordered origin := by
  obtain ⟨number, new, -, others⟩ := observes.added
  refine ⟨observes.settings.trans ordered.settings,
    fun role => (Network.site?_of_slots observes.slots role).trans (ordered.sites role),
    fun role binder known => ?_, fun other dispatch known => ?_, fun other dispatch known => ?_⟩
  · have before := Network.appliedUpTo_of_slots observes.slots ordered.applied role binder known
    have counter := observes.counter
    unfold Ticket at *
    omega
  · have counter := observes.counter
    by_cases here : number = other
    · rw [← here, new] at known
      cases known
      have last : (before.client.network.counter.last : Int) + 1 ≤
          after.client.network.counter.last := by omega
      exact last
    · rw [others other here] at known
      have before := ordered.drawn other dispatch known
      unfold Ticket at *
      omega
  · by_cases here : number = other
    · rw [← here, new] at known
      cases known
      intro rebind pauses
      cases pauses
    · rw [others other here] at known
      exact ordered.fits other dispatch known

theorem Proceeds.ordered (proceeds : Proceeds succeeds before after)
    (ordered : before.Ordered origin) : after.Ordered origin := by
  cases proceeds with
  | rests rests => exact rests.drops.ordered ordered
  | @advances number dispatch answerer failure step news known _ advance announces sites settings
      network later others =>
      have own : dispatch.ticket ≤ before.client.network.counter.last :=
        ordered.drawn number dispatch known
      have counter : after.client.network.counter = before.client.network.counter := by
        rw [network, advance.counter]
      refine ⟨settings.trans ordered.settings, fun role => ?_, ?_, fun other found isKnown => ?_,
        fun other found isKnown => ?_⟩
      · rw [network, sites]
        exact ordered.sites role
      · rw [counter, network]
        exact announces.upTo own ordered.applied
      · rw [counter]
        by_cases here : number = other
        · rw [← here, later] at isKnown
          rw [(advance.goesOn isKnown).2.1]
          exact own
        · exact ordered.drawn other found (others other here ▸ isKnown)
      · by_cases here : number = other
        · rw [← here, later] at isKnown
          obtain ⟨chain, ticket, phase⟩ := advance.goesOn isKnown
          intro rebind pauses
          rw [Network.Dispatch.rebind?, phase] at pauses
          rw [chain, ticket]
          exact advance.fits rebind pauses
        · exact ordered.fits other found (others other here ▸ isKnown)

/-- The session once the roles are bound. -/
def rolesBound (session : Session) (connect : Role → Option Failure) : Session :=
  ⟨{ session.client with network := (session.client.bindRoles connect).network }, session.tasks⟩

theorem rolesBound_counter (session : Session) (connect : Role → Option Failure) :
    (session.rolesBound connect).client.network.counter = session.client.network.counter := by
  show (session.client.bindRoles connect).network.counter = _
  rw [bindRoles, bindReadOnly_frame]

theorem rolesBound_ordered (ordered : session.Ordered origin) (connect : Role → Option Failure) :
    (session.rolesBound connect).Ordered origin := by
  have kept : (∀ role, (session.client.bindRoles connect).network.site? role =
      origin.network.site? role) ∧
      (session.client.bindRoles connect).network.observer.AppliedUpTo
        session.client.network.counter.last := by
    refine bindReadOnly_keeps (motive := fun network =>
      (∀ role, network.site? role = origin.network.site? role) ∧
        network.observer.AppliedUpTo session.client.network.counter.last) connect _ ?_
        ⟨ordered.sites, ordered.applied⟩
    intro network role _ slot address found ⟨sites, upTo⟩
    have bound := upTo.hold role
      (bindReadOnly_applied found upTo session.client.settings.defaultChain address)
    refine ⟨fun other => ?_, fun other binder known => bound other binder ?_⟩
    · rw [network.site?_hold (by rw [Network.site?, found]; rfl)]
      exact sites other
    · rw [← network.binder_hold]
      exact known
  have counter := session.rolesBound_counter connect
  refine ⟨ordered.settings, kept.1, ?_, ?_, ordered.fits⟩
  · rw [counter]
    exact kept.2
  · rw [counter]
    exact ordered.drawn

/-- A start whose roles are all bound goes live and asks for the wallet's chain. -/
theorem callStart_live {connect : Role → Option Failure}
    (notStarted : session.client.started = false)
    (through : (session.client.bindRoles connect).failure = none) (baseline : Reading) :
    session.callStart connect baseline =
      (session.rolesBound connect).spawn
        ((session.rolesBound connect).client.goLive baseline).1 .asksChain := by
  rw [callStart, notStarted, if_neg Bool.false_ne_true]
  dsimp only
  rw [through]
  rfl

/-- What of a client that has gone live the dispatches depend on is as before. -/
theorem goLive_aside (session : Session) (baseline : Reading) :
    Aside session ⟨(session.client.goLive baseline).1, session.tasks⟩ := by
  have network := session.client.goLive_network baseline
  refine ⟨rfl, ?_, ?_⟩
  · rw [network]
  · rw [network]

theorem callStart_ordered (ordered : session.Ordered origin) (connect : Role → Option Failure)
    (baseline : Reading) : (session.callStart connect baseline).Ordered origin := by
  have bound := rolesBound_ordered ordered connect
  cases started : session.client.started with
  | true =>
      have rests : Rests session (session.spawn session.client (.running (.ended .nothing))) :=
        .spawn ⟨rfl, rfl, rfl⟩ rfl
      rw [callStart, started, if_pos rfl]
      exact rests.drops.ordered ordered
  | false =>
      cases through : (session.client.bindRoles connect).failure with
      | none =>
          rw [callStart_live started through]
          exact (Rests.spawn (goLive_aside _ baseline) rfl).drops.ordered bound
      | some failure =>
          have rests : Rests (session.rolesBound connect) ((session.rolesBound connect).spawn
              (session.rolesBound connect).client
              (.running (.ended (.failed failure.leavingCall)))) :=
            .spawn ⟨rfl, rfl, rfl⟩ rfl
          rw [callStart, started, if_neg Bool.false_ne_true]
          dsimp only
          rw [through]
          exact rests.drops.ordered bound

theorem callEach_ordered (chain : Option Chain) (callbacks : List Subscriber)
    (ordered : session.Ordered origin) : (callEach chain callbacks session).Ordered origin := by
  induction callbacks generalizing session with
  | nil => exact ordered
  | cons callback rest inductionHypothesis =>
      exact inductionHypothesis ((chainChanged_observes session chain).ordered ordered)

theorem callClose_drops (session : Session) : Drops session session.callClose := by
  let struck := session.tasks.mapIdx fun number task =>
    if number ∈ session.client.network.inFlight then task.struck else task
  have closes : session.callClose =
      spawn ⟨session.client, struck⟩ session.client.abandon.2 .closing := rfl
  refine ⟨⟨rfl, rfl, rfl⟩, fun number => ?_⟩
  rw [closes, underWay?_spawn]
  split
  next => exact .inr rfl
  next =>
    rw [underWay?, underWay?, List.getElem?_mapIdx]
    cases session.tasks[number]? with
    | none => exact .inl rfl
    | some task =>
        rw [Option.map_some, Option.bind_some, Option.bind_some]
        split
        next => exact .inr task.dispatch?_struck
        next => exact .inl rfl

theorem cancel_drops (session : Session) (number : Nat) :
    Drops session (session.cancel number) := by
  refine ⟨⟨rfl, rfl, rfl⟩, fun other => ?_⟩
  rw [cancel, underWay?, underWay?, List.getElem?_modify]
  cases session.tasks[other]? with
  | none => exact .inl rfl
  | some task =>
      rw [Option.map_eq_map, Option.map_some, Option.bind_some, Option.bind_some]
      split
      next => exact .inr task.dispatch?_struck
      next => exact .inl rfl

theorem settle_rests (session : Session) (number : Nat) :
    Rests session (session.settle number) := by
  unfold settle
  split
  next =>
    split
    next => exact .of_tasks ⟨rfl, rfl, rfl⟩ rfl
    next => exact .refl session
  next => exact .refl session

theorem readySigner_rests (session : Session) (accounts : Except Failure (List String)) :
    Rests session (session.readySigner accounts) := by
  unfold readySigner
  split
  next => exact .refl session
  next => exact .of_tasks ⟨rfl, rfl, rfl⟩ rfl

theorem chainRead_ordered (ordered : session.Ordered origin) (number : Nat) (current : Reading) :
    (session.chainRead number current).Ordered origin := by
  unfold chainRead
  split
  next asks =>
    unfold applyChain
    dsimp only
    split
    next => exact (Rests.ends _ asks rfl ⟨rfl, rfl, rfl⟩).drops.ordered ordered
    next => exact (Rests.ends _ asks rfl ⟨rfl, rfl, rfl⟩).drops.ordered ordered
    next chain _ =>
      obtain ⟨middle, observes, proceeds⟩ := startup_observes (some chain) (.startup chain) asks
      exact proceeds.ordered (observes.ordered ordered)
  next => exact ordered

theorem closed_rests (session : Session) (number : Nat) :
    Rests session (session.closed number) := by
  unfold closed
  split
  next known => exact .ends .nothing known rfl ⟨rfl, rfl, rfl⟩
  next => exact .refl session

theorem poll_ordered (ordered : session.Ordered origin) (reading : Reading) :
    (session.poll reading).Ordered origin := by
  unfold poll
  split
  next => exact ordered
  next wallet _ =>
    have rests : Rests session ⟨{ session.client with
        wallet := .owned (wallet.poll reading).wallet }, session.tasks⟩ :=
      .of_tasks ⟨rfl, rfl, rfl⟩ rfl
    exact callEach_ordered _ _ (rests.drops.ordered ordered)

theorem act_ordered (ordered : session.Ordered origin) (action : Action) :
    (session.act action).Ordered origin := by
  have rested : ∀ {next : Session}, Rests session next → next.Ordered origin :=
    fun rests => rests.drops.ordered ordered
  cases action with
  | start connect baseline => exact callStart_ordered ordered connect baseline
  | chainRead number current => exact chainRead_ordered ordered number current
  | observe chain =>
      obtain ⟨middle, observes, proceeds⟩ := session.callObserve_observes chain
      exact proceeds.ordered (observes.ordered ordered)
  | close => exact session.callClose_drops.ordered ordered
  | closed number => exact rested (session.closed_rests number)
  | announce chain =>
      simp only [act, announce]
      split
      next => exact callEach_ordered chain _ ordered
      next => exact ordered
  | poll reading => exact poll_ordered ordered reading
  | begin number => exact (session.begin_proceeds number).ordered ordered
  | signerAnswers number failure =>
      exact (signerAnswers_proceeds ordered.fits number failure).ordered ordered
  | connectorAnswers number failure =>
      exact (connectorAnswers_proceeds ordered.fits number failure).ordered ordered
  | cancel number => exact (session.cancel_drops number).ordered ordered
  | settle number => exact rested (session.settle_rests number)
  | readySigner accounts => exact rested (session.readySigner_rests accounts)
  | listen refusal => exact rested (.of_tasks ⟨rfl, rfl, rfl⟩ rfl)
  | setQuery query => exact rested (.of_tasks ⟨rfl, rfl, rfl⟩ rfl)
  | refreshed answer => exact rested (.of_tasks ⟨rfl, rfl, rfl⟩ rfl)

theorem run_ordered (ordered : session.Ordered origin) (actions : List Action) :
    (session.run actions).Ordered origin := by
  induction actions generalizing session with
  | nil => exact ordered
  | cons action rest inductionHypothesis => exact inductionHypothesis (act_ordered ordered action)

theorem start_ordered {settings : Settings} {given : Option Deployments.Tables} {roles : List Role}
    {wallet : WalletLink} {client : Client}
    (built : Client.ofSettings settings given roles wallet = .ok client) :
    (start client).Ordered client := by
  refine ⟨rfl, fun _ => rfl, fun role binder known => ?_, fun number dispatch known => ?_,
    fun number dispatch known => ?_⟩
  · exact absurd known (no_binder_built built role binder)
  · cases known
  · cases known

end Session

end Client

end PackageStore
