import Mathlib.Data.List.Pairwise
import PackageStore.Proofs.Client.Closing
import PackageStore.Proofs.Client.Pass

/-!
Contract: what the listeners of a client know of its bindings.

Owns: the report of a role that was announced last, and the tickets of the reports of a role that
are not stale; the invariant that ties both to the binder of the role; and the theorem for every run
without a start.

Does not own: a start. It binds every role anew without telling anyone, so the reports that were
announced before it say nothing about the bindings after it.
-/

set_option autoImplicit false

namespace PackageStore

namespace Network

/-- The report of a role that was announced last. -/
def lastReport (role : Role) (heard : List (Role × Report)) : Option Report :=
  ((heard.filter fun entry => decide (entry.1 = role)).map Prod.snd).getLast?

/-- The tickets of the announced reports of a role that are not stale, in order. -/
def acceptedTickets (role : Role) (heard : List (Role × Report)) : List Ticket :=
  (heard.filter fun entry => decide (entry.1 = role ∧ entry.2.status ≠ .stale)).map
    fun entry => entry.2.ticket

theorem lastReport_concat (heard : List (Role × Report)) (role other : Role) (report : Report) :
    lastReport other (heard ++ [(role, report)]) =
      if role = other then some report else lastReport other heard := by
  unfold lastReport
  by_cases same : role = other
  · simp [same]
  · simp [same]

theorem acceptedTickets_concat (heard : List (Role × Report)) (role other : Role)
    (report : Report) :
    acceptedTickets other (heard ++ [(role, report)]) =
      acceptedTickets other heard ++
        if role = other ∧ report.status ≠ .stale then [report.ticket] else [] := by
  unfold acceptedTickets
  rw [List.filter_append, List.map_append]
  by_cases accepted : role = other ∧ report.status ≠ .stale
  · rw [if_pos accepted, List.filter_cons_of_pos (by simpa using accepted)]
    rfl
  · rw [if_neg accepted, List.filter_cons_of_neg (by simpa using accepted)]
    rfl

end Network

namespace Observer

open Network (lastReport acceptedTickets lastReport_concat acceptedTickets_concat)

/-- What was heard fits the binders: the last report of a role carries the binding in force, and
the accepted tickets of a role rise up to the one that its binder applied. -/
structure Informed (observer : Observer Role) (heard : List (Role × Report)) : Prop where
  current : ∀ role report, lastReport role heard = some report →
    ∃ binder, observer.binder role = .ok binder ∧ report.binding = binder.active
  ascending : ∀ role, (acceptedTickets role heard).Pairwise (· < ·)
  applied : ∀ role binder, observer.binder role = .ok binder →
    ∀ ticket ∈ acceptedTickets role heard, ticket ≤ binder.mark.applied

variable {observer current : Observer Role} {heard : List (Role × Report)}

theorem nothing_informed (observer : Observer Role) : observer.Informed [] where
  current role report last := by cases last
  ascending role := List.Pairwise.nil
  applied role binder known ticket member := by cases member

/-- What the listeners know is a matter of the binders. -/
theorem Informed.of_binder (informed : observer.Informed heard)
    (same : current.binder = observer.binder) : current.Informed heard := by
  refine ⟨fun role report last => ?_, informed.ascending, fun role binder known => ?_⟩
  · rw [same]
    exact informed.current role report last
  · rw [same] at known
    exact informed.applied role binder known

/-- The end of an observation, with its report announced, leaves nobody behind. -/
theorem Informed.lands (informed : observer.Informed heard) {ticket : Ticket} {role : Role}
    {binder : Binder} {landing : Binder.Landing} (known : observer.binder role = .ok binder)
    (faithful : binder.Faithful ticket landing) :
    (observer.hold role landing.binder).Informed (heard ++ [(role, landing.report)]) := by
  have behind : ∀ earlier ∈ acceptedTickets role heard, earlier ≤ binder.mark.applied :=
    informed.applied role binder known
  refine ⟨fun other report last => ?_, fun other => ?_, fun other later isHeld => ?_⟩
  · rw [lastReport_concat] at last
    by_cases here : role = other
    · subst here
      rw [if_pos rfl] at last
      cases last
      exact ⟨landing.binder, observer.binder_hold_self role landing.binder, faithful.binding⟩
    · rw [if_neg here] at last
      rw [observer.binder_hold_of_ne landing.binder here]
      exact informed.current other report last
  · rw [acceptedTickets_concat]
    by_cases accepted : role = other ∧ landing.report.status ≠ .stale
    · obtain ⟨rfl, notStale⟩ := accepted
      rw [if_pos ⟨rfl, notStale⟩, List.pairwise_append]
      refine ⟨informed.ascending role, List.pairwise_singleton _ _, ?_⟩
      intro earlier member last isLast
      rw [List.mem_singleton.1 isLast, faithful.numbered]
      exact Int.lt_of_le_of_lt (behind earlier member) (faithful.newer notStale)
    · rw [if_neg accepted, List.append_nil]
      exact informed.ascending other
  · by_cases here : role = other
    · subst here
      rw [observer.binder_hold_self] at isHeld
      cases isHeld
      have grown : binder.mark.applied ≤ landing.binder.mark.applied := by
        rw [faithful.applied]
        exact Int.le_max_left _ _
      have reached : landing.report.ticket ≤ landing.binder.mark.applied := by
        rw [faithful.applied, faithful.numbered]
        exact Int.le_max_right _ _
      intro ticket member
      rw [acceptedTickets_concat] at member
      rcases List.mem_append.1 member with before | last
      · exact Int.le_trans (behind ticket before) grown
      · split at last
        · rw [List.mem_singleton.1 last]
          exact reached
        · cases last
    · rw [observer.binder_hold_of_ne landing.binder here] at isHeld
      rw [acceptedTickets_concat, if_neg (fun accepted => here accepted.1), List.append_nil]
      exact informed.applied other later isHeld

theorem Announces.informed {ticket : Ticket} {news : List (Role × Report)}
    (announces : observer.Announces ticket news current) (informed : observer.Informed heard) :
    current.Informed (heard ++ news) :=
  announces.carries heard (fun _ _ _ _ _ known faithful before => before.lands known faithful)
    informed

end Observer

namespace Client

theorem canWrite_of_binder {client : Client} {role : Role} {binder : Binder}
    (known : client.network.binder role = .ok binder) :
    client.canWrite role = binder.canWrite := by
  rw [canWrite, Network.canWrite, Network.get?_of_binder known]
  rfl

end Client

namespace Client.Session

open Network (lastReport acceptedTickets)

variable {session : Session} {earlier : List (Role × Report)}

theorem act_informed {action : Action} (noStart : action.isStart = false)
    (informed : session.client.network.observer.Informed earlier) :
    (session.act action).client.network.observer.Informed
      (earlier ++ session.announced action) := by
  unfold announced
  cases makes : session.pass? action with
  | none =>
      rw [Option.map_none, Option.getD_none, List.append_nil]
      exact informed.of_binder (funext (Network.binder_of_slots (slots_of_no_pass makes noStart)))
  | some pass =>
      obtain ⟨fits, -⟩ := act_of_pass makes
      have found : pass.network.observer.Informed earlier :=
        informed.of_binder (funext (Network.binder_of_slots (by rw [fits.frame])))
      rw [network_of_pass makes, Option.map_some, Option.getD_some]
      exact fits.announces.informed found

theorem run_informed {actions : List Action}
    (noStart : ∀ action ∈ actions, action.isStart = false)
    (informed : session.client.network.observer.Informed earlier) :
    (session.run actions).client.network.observer.Informed (earlier ++ session.heard actions) := by
  induction actions generalizing session earlier with
  | nil =>
      rw [heard, List.append_nil]
      exact informed
  | cons action rest inductionHypothesis =>
      obtain ⟨first, others⟩ := List.forall_mem_cons.1 noStart
      rw [heard, ← List.append_assoc]
      exact inductionHypothesis others (act_informed first informed)

/-- **The listeners are never behind.** From any point of a session up to the next start, whatever
events, direct observations, answers, failures and cancellations come in between: the report of a
role that was announced last carries the binding in force, so that it agrees with the client on
write access, and the reports of a role that are not stale bear rising tickets. Every report that
an action announces is told to each listener, and nothing else is. -/
theorem listeners_keep_up (session : Session) (actions : List Action)
    (noStart : ∀ action ∈ actions, action.isStart = false) :
    let later := session.run actions
    (∀ role report, lastReport role (session.heard actions) = some report →
      later.client.binding role = .ok report.binding ∧
        later.client.canWrite role = report.canWrite) ∧
    (∀ role, (acceptedTickets role (session.heard actions)).Pairwise (· < ·)) ∧
    ∀ action, (later.shown action).filterMap Effect.told? =
      (later.announced action).flatMap fun entry =>
        later.client.network.listeners.map fun listener => (listener.number, entry.2) := by
  intro later
  have informed : later.client.network.observer.Informed (session.heard actions) :=
    run_informed noStart (Observer.nothing_informed session.client.network.observer)
  refine ⟨fun role report last => ?_, informed.ascending, told_shown later⟩
  obtain ⟨binder, inForce, current⟩ := informed.current role report last
  have known : later.client.network.binder role = .ok binder := inForce
  constructor
  · rw [Client.binding, known, current]
    rfl
  · rw [Client.canWrite_of_binder known, Report.canWrite, current]
    rfl

/-- A client that has started without a connection, and one listener. -/
def attended : Session :=
  (start soleClient).run
    [.start (fun _ => none) (.ok none), .chainRead 0 (.ok none), .listen fun _ => none]

/-- Two events of the wallet, of which the later one lands first and the earlier one too late. -/
def overtakenEvents : List Action :=
  [.announce (some 1), .announce (some 10), .begin 1, .begin 2, .signerAnswers 2 none,
    .connectorAnswers 2 none, .signerAnswers 1 none]

theorem listeners_keep_up_overtaken :
    (∀ action ∈ overtakenEvents, action.isStart = false) ∧
      ∃ report, lastReport .packageStore (attended.heard overtakenEvents) = some report ∧
        report.status = .stale ∧ report.canWrite = true ∧
        (attended.run overtakenEvents).client.binding .packageStore = .ok report.binding := by
  have noStart : ∀ action ∈ overtakenEvents, action.isStart = false := by
    simp [overtakenEvents, Action.isStart]
  refine ⟨noStart, _, rfl, rfl, rfl, ?_⟩
  exact ((listeners_keep_up attended overtakenEvents noStart).1 .packageStore _ rfl).1

end Client.Session

end PackageStore
