import Mathlib.Data.List.Induction
import PackageStore.Proofs.Catalog.View

/-!
Contract: the state of an index as a function of what its refreshes brought.

Owns: what an answer of the registry amounts to; which refreshes of a run complete; the invariant
that ties the fields of an index to the answers in the order of completion; and the theorem for all
runs.

The order in which refreshes begin does not enter the state of the index, and neither does a
refresh that was cancelled.
-/

set_option autoImplicit false

namespace PackageStore

namespace Catalog

/-- The error that a refresh ends with after an answer of the registry. -/
def faultOf : Except Failure (List Tagged) → Option FetchFault
  | .ok _ => none
  | .error failure => some failure.asFetchFault

/-! ## The operations of an index, the view apart -/

theorem updateView_rest (catalog : Catalog) :
    ∃ view viewKey searches, catalog.updateView = { catalog with view, viewKey, searches } := by
  rcases catalog.updateView_cases with ⟨_, same⟩ | ⟨_, _, computed⟩ | ⟨_, _, computed⟩
  · exact ⟨_, _, _, same⟩
  · exact ⟨_, _, _, computed⟩
  · exact ⟨_, _, _, computed⟩

theorem setQuery_rest (catalog : Catalog) (query : Option Text) :
    ∃ view viewKey searches, catalog.setQuery query =
      { catalog with query := query.getD "", view, viewKey, searches } :=
  updateView_rest _

/-- A refresh that succeeds replaces the collection under the next version. -/
theorem complete_ok (catalog : Catalog) (tagged : List Tagged) :
    (∃ view viewKey searches, (catalog.complete (.ok tagged)).1 =
      { catalog with
        shelves := .ofTagged tagged
        version := catalog.version + 1
        lastError := none
        view
        viewKey
        searches }) ∧
      (catalog.complete (.ok tagged)).2.1 = ⟨catalog.version + 1, none⟩ := by
  obtain ⟨view, viewKey, searches, updated⟩ := updateView_rest
    { catalog with
      shelves := .ofTagged tagged
      version := catalog.version + 1
      lastError := none }
  have replaced : (catalog.complete (.ok tagged)).1 = _ := updated
  refine ⟨⟨view, viewKey, searches, replaced⟩, ?_⟩
  have reported : (catalog.complete (.ok tagged)).2.1 =
      ⟨(catalog.complete (.ok tagged)).1.version, none⟩ := rfl
  rw [reported, replaced]

namespace Completion

/-- The action that completed the refresh. -/
def action (completion : Completion) : Session.Action :=
  .answer completion.number completion.answer

/-- The version that a refresh reports if it succeeded. -/
def version? (completion : Completion) : Option Nat :=
  if completion.report.ok then some completion.report.version else none

end Completion

namespace Session

namespace Action

def isRefresh : Action → Bool
  | .refresh => true
  | _ => false

/-- The query that the action stores, if it stores one. -/
def query? : Action → Option (Option Text)
  | .setQuery query => some query
  | _ => none

end Action

/-- The query stored last; no query is the empty one. -/
def lastQuery (actions : List Action) : Text :=
  (actions.filterMap Action.query?).getLast?.join.getD ""

/-- What the registry answered, in the order of completion. -/
def answers (session : Session) : List (Except Failure (List Tagged)) :=
  session.history.map Completion.answer

/-- The packages that successful refreshes brought, in the order of completion. -/
def payloads (session : Session) : List (List Tagged) :=
  session.answers.filterMap Except.toOption

theorem run_concat (session : Session) (actions : List Action) (action : Action) :
    session.run (actions ++ [action]) = (session.run actions).act action := by
  rw [run, run, List.foldl_append, List.foldl_cons, List.foldl_nil]

/-! ## Which refreshes complete -/

/-- The history of a run: every refresh that began waits, has completed once or was cancelled, and
the completions are answers of the registry, in the order of the run. -/
structure Traced (actions : List Action) (session : Session) : Prop where
  begun : session.started = actions.countP Action.isRefresh
  waiting : ∀ number ∈ session.waiting, number < session.started
  completed : ∀ number ∈ session.history.map Completion.number,
    number < session.started ∧ number ∉ session.waiting
  accounted : ∀ number < session.started, number ∈ session.waiting ∨
    number ∈ session.history.map Completion.number ∨ .cancel number ∈ actions
  once : (session.history.map Completion.number).Nodup
  inOrder : (session.history.map Completion.action).Sublist actions

variable {session : Session} {actions : List Action}

theorem mem_withdraw {number other : Nat} :
    other ∈ (session.withdraw number).waiting ↔ other ∈ session.waiting ∧ other ≠ number := by
  rw [withdraw, List.mem_filter, decide_eq_true_iff]

/-- A refresh completes as soon as it is answered. -/
theorem answered_of_waiting {number : Nat} (waits : number ∈ session.waiting)
    (answer : Except Failure (List Tagged)) :
    ∃ report, (session.act (.answer number answer)).history =
      session.history ++ [⟨number, answer, report⟩] := by
  rw [act, if_pos waits]
  exact ⟨_, rfl⟩

theorem Traced.refresh (traced : session.Traced actions) :
    session.refresh.Traced (actions ++ [.refresh]) where
  begun := by
    rw [Session.refresh, traced.begun, List.countP_append]
    rfl
  waiting number member := by
    rcases List.mem_append.1 member with before | new
    · exact Nat.lt_succ_of_lt (traced.waiting number before)
    · rw [List.mem_singleton.1 new]
      exact Nat.lt_succ_self _
  completed number member := by
    obtain ⟨before, absent⟩ := traced.completed number member
    refine ⟨Nat.lt_succ_of_lt before, fun waits => ?_⟩
    rcases List.mem_append.1 waits with old | new
    · exact absent old
    · exact Nat.ne_of_lt before (List.mem_singleton.1 new)
  accounted number began := by
    rcases Nat.lt_succ_iff_lt_or_eq.1 began with before | rfl
    · exact (traced.accounted number before).imp (List.mem_append_left _)
        (Or.imp id (List.mem_append_left _))
    · exact .inl (List.mem_append_right _ (List.mem_singleton_self _))
  once := traced.once
  inOrder := traced.inOrder.trans (List.sublist_append_left _ _)

/-- No refresh begins and none completes, but one may be cancelled. -/
theorem Traced.cancel (traced : session.Traced actions) (number : Nat) :
    (session.withdraw number).Traced (actions ++ [.cancel number]) where
  begun := by
    rw [withdraw, traced.begun, List.countP_append]
    rfl
  waiting other member := traced.waiting other (mem_withdraw.1 member).1
  completed other member := by
    obtain ⟨before, absent⟩ := traced.completed other member
    exact ⟨before, fun waits => absent (mem_withdraw.1 waits).1⟩
  accounted other began := by
    rcases traced.accounted other began with waits | completed | cancelled
    · by_cases same : other = number
      · rw [same]
        exact .inr (.inr (List.mem_append_right _ (List.mem_singleton_self _)))
      · exact .inl (mem_withdraw.2 ⟨waits, same⟩)
    · exact .inr (.inl completed)
    · exact .inr (.inr (List.mem_append_left _ cancelled))
  once := traced.once
  inOrder := traced.inOrder.trans (List.sublist_append_left _ _)

/-- Nothing is done to the refreshes. -/
theorem Traced.idle (traced : session.Traced actions) {next : Session} {action : Action}
    (other : action.isRefresh = false) (history : next.history = session.history)
    (waiting : next.waiting = session.waiting) (started : next.started = session.started) :
    next.Traced (actions ++ [action]) where
  begun := by
    rw [started, traced.begun, List.countP_append, List.countP_singleton, other]
    rfl
  waiting := by
    rw [waiting, started]
    exact traced.waiting
  completed := by
    rw [history, waiting, started]
    exact traced.completed
  accounted number began := by
    rw [history, waiting]
    rw [started] at began
    exact (traced.accounted number began).imp id (Or.imp id (List.mem_append_left _))
  once := by
    rw [history]
    exact traced.once
  inOrder := by
    rw [history]
    exact traced.inOrder.trans (List.sublist_append_left _ _)

theorem Traced.complete (traced : session.Traced actions) {number : Nat}
    (waits : number ∈ session.waiting) (answer : Except Failure (List Tagged)) :
    ((session.withdraw number).complete number answer).Traced
      (actions ++ [.answer number answer]) where
  begun := by
    rw [Session.complete, withdraw, traced.begun, List.countP_append]
    rfl
  waiting other member := traced.waiting other (mem_withdraw.1 member).1
  completed other member := by
    rw [Session.complete, List.map_append, List.mem_append] at member
    rcases member with before | new
    · obtain ⟨began, absent⟩ := traced.completed other before
      exact ⟨began, fun still => absent (mem_withdraw.1 still).1⟩
    · rw [List.mem_singleton.1 new]
      exact ⟨traced.waiting number waits, fun still => (mem_withdraw.1 still).2 rfl⟩
  accounted other began := by
    rw [Session.complete, List.map_append]
    rcases traced.accounted other began with still | completed | cancelled
    · by_cases same : other = number
      · rw [same]
        exact .inr (.inl (List.mem_append_right _ (List.mem_singleton_self _)))
      · exact .inl (mem_withdraw.2 ⟨still, same⟩)
    · exact .inr (.inl (List.mem_append_left _ completed))
    · exact .inr (.inr (List.mem_append_left _ cancelled))
  once := by
    rw [Session.complete, List.map_append, List.nodup_append]
    refine ⟨traced.once, List.pairwise_singleton _ _, ?_⟩
    -- What has completed no longer waits, so the refresh that completes now is a new one.
    rintro other before new last rfl
    rw [List.mem_singleton.1 last] at before
    exact (traced.completed number before).2 waits
  inOrder := by
    rw [Session.complete, List.map_append]
    exact traced.inOrder.append (List.Sublist.refl _)

theorem Traced.act (traced : session.Traced actions) (action : Action) :
    (session.act action).Traced (actions ++ [action]) := by
  cases action with
  | refresh => exact traced.refresh
  | answer number answer =>
      by_cases waits : number ∈ session.waiting
      · rw [Session.act, if_pos waits]
        exact traced.complete waits answer
      · rw [Session.act, if_neg waits]
        exact traced.idle rfl rfl rfl rfl
  | cancel number => exact traced.cancel number
  | setQuery query => exact traced.idle rfl rfl rfl rfl

theorem run_traced (actions : List Action) : (start.run actions).Traced actions := by
  induction actions using List.reverseRecOn with
  | nil =>
      refine ⟨rfl, ?_, ?_, ?_, List.nodup_nil, List.Sublist.refl _⟩
      · intro number member
        cases member
      · intro number member
        cases member
      · intro number began
        cases began
  | append_singleton actions action inductionHypothesis =>
      rw [run_concat]
      exact inductionHypothesis.act action

/-! ## What the completions make of an index -/

/-- The fields of an index and the reports of its refreshes, as the answers of the registry
determine them. -/
structure Recorded (session : Session) : Prop where
  shelves : session.catalog.shelves =
    (session.payloads.getLast?.map Shelves.ofTagged).getD .empty
  version : session.catalog.version = session.payloads.length
  lastError : session.catalog.lastError = session.answers.getLast?.bind faultOf
  errors : ∀ completion ∈ session.history, completion.report.error = faultOf completion.answer
  versions : session.history.filterMap Completion.version? =
    List.range' 1 session.payloads.length

theorem answers_complete (session : Session) (number : Nat)
    (answer : Except Failure (List Tagged)) :
    (session.complete number answer).answers = session.answers ++ [answer] := by
  rw [answers, Session.complete, List.map_append]
  rfl

theorem Recorded.complete (recorded : session.Recorded) (number : Nat)
    (answer : Except Failure (List Tagged)) : (session.complete number answer).Recorded := by
  have answers := answers_complete session number answer
  have history : (session.complete number answer).history =
      session.history ++ [⟨number, answer, (session.catalog.complete answer).2.1⟩] := rfl
  have catalog : (session.complete number answer).catalog =
      (session.catalog.complete answer).1 := rfl
  cases answer with
  | ok tagged =>
      obtain ⟨⟨view, viewKey, searches, replaced⟩, report⟩ := session.catalog.complete_ok tagged
      have payloads : (session.complete number (.ok tagged)).payloads =
          session.payloads ++ [tagged] := by
        rw [Session.payloads, answers, List.filterMap_append]
        rfl
      refine ⟨?_, ?_, ?_, ?_, ?_⟩
      · rw [catalog, replaced, payloads, List.getLast?_concat]
        rfl
      · rw [catalog, replaced, payloads, List.length_append, recorded.version]
        rfl
      · rw [catalog, replaced, answers, List.getLast?_concat]
        rfl
      · intro completion member
        rw [history, List.mem_append] at member
        rcases member with before | new
        · exact recorded.errors completion before
        · rw [List.mem_singleton.1 new, report]
          rfl
      · rw [history, report, List.filterMap_append, recorded.versions, payloads,
          List.length_append, List.length_singleton, List.range'_concat, recorded.version,
          Nat.add_comm, Nat.one_mul]
        rfl
  | error failure =>
      obtain ⟨failed, report⟩ := session.catalog.complete_failure failure
      -- A failure brings no packages, so the numbering of the versions stands still.
      have payloads : (session.complete number (.error failure)).payloads = session.payloads := by
        rw [Session.payloads, answers, List.filterMap_append]
        exact List.append_nil _
      refine ⟨?_, ?_, ?_, ?_, ?_⟩
      · rw [catalog, failed, payloads, ← recorded.shelves]
      · rw [catalog, failed, payloads, ← recorded.version]
      · rw [catalog, failed, answers, List.getLast?_concat]
        rfl
      · intro completion member
        rw [history, List.mem_append] at member
        rcases member with before | new
        · exact recorded.errors completion before
        · rw [List.mem_singleton.1 new, report]
          rfl
      · rw [history, report, List.filterMap_append, recorded.versions, payloads]
        exact List.append_nil _

theorem Recorded.act (recorded : session.Recorded) (action : Action) :
    (session.act action).Recorded := by
  cases action with
  | refresh => exact ⟨recorded.shelves, recorded.version, recorded.lastError, recorded.errors,
      recorded.versions⟩
  | answer number answer =>
      by_cases waits : number ∈ session.waiting
      · rw [Session.act, if_pos waits]
        have withdrawn : (session.withdraw number).Recorded := ⟨recorded.shelves,
          recorded.version, recorded.lastError, recorded.errors, recorded.versions⟩
        exact withdrawn.complete number answer
      · rw [Session.act, if_neg waits]
        exact recorded
  | cancel number => exact ⟨recorded.shelves, recorded.version, recorded.lastError,
      recorded.errors, recorded.versions⟩
  | setQuery query =>
      obtain ⟨view, viewKey, searches, stored⟩ := session.catalog.setQuery_rest query
      have catalog : (session.act (.setQuery query)).catalog = _ := stored
      refine ⟨?_, ?_, ?_, recorded.errors, recorded.versions⟩
      · rw [catalog]
        exact recorded.shelves
      · rw [catalog]
        exact recorded.version
      · rw [catalog]
        exact recorded.lastError

theorem run_recorded (actions : List Action) : (start.run actions).Recorded := by
  refine List.foldlRecOn actions act ?_ fun session recorded action _ => recorded.act action
  refine ⟨rfl, rfl, rfl, ?_, rfl⟩
  intro completion member
  cases member

theorem complete_query (catalog : Catalog) (answer : Except Failure (List Tagged)) :
    (catalog.complete answer).1.query = catalog.query := by
  cases answer with
  | ok tagged =>
      obtain ⟨⟨view, viewKey, searches, replaced⟩, _⟩ := catalog.complete_ok tagged
      rw [replaced]
  | error failure => rw [(catalog.complete_failure failure).1]

/-- Only the action that stores a query changes it. -/
theorem act_query (session : Session) (action : Action) :
    (session.act action).catalog.query =
      (action.query?.map (·.getD "")).getD session.catalog.query := by
  cases action with
  | refresh => rfl
  | answer number answer =>
      by_cases waits : number ∈ session.waiting
      · rw [act, if_pos waits]
        exact complete_query session.catalog answer
      · rw [act, if_neg waits]
        rfl
  | cancel number => rfl
  | setQuery query =>
      obtain ⟨view, viewKey, searches, stored⟩ := session.catalog.setQuery_rest query
      exact congrArg Catalog.query stored

theorem lastQuery_concat (actions : List Action) (action : Action) :
    lastQuery (actions ++ [action]) =
      (action.query?.map (·.getD "")).getD (lastQuery actions) := by
  rw [lastQuery, List.filterMap_append]
  cases stored : action.query? with
  | none => simp [lastQuery, stored]
  | some query => simp [stored]

theorem run_query (actions : List Action) :
    (start.run actions).catalog.query = lastQuery actions := by
  induction actions using List.reverseRecOn with
  | nil => rfl
  | append_singleton actions action inductionHypothesis =>
      rw [run_concat, act_query, inductionHypothesis, lastQuery_concat]

/-- **The state of an index is a function of its completions.** In every run, the history holds the
refreshes that completed, in the order of completion; the collection is what the last successful
one brought, the version counts the successful ones, the last error is that of the last one, and
the query is the one stored last; the successful reports bear the versions 1, 2, 3, ... So two runs
in which the registry's answers arrive in the same order come to the same state, in whatever order
the refreshes began. -/
theorem state_of_completions (actions : List Action) :
    let session := start.run actions
    session.Traced actions ∧
    (∀ number ∈ session.waiting, ∀ answer, ∃ report,
      (session.act (.answer number answer)).history =
        session.history ++ [⟨number, answer, report⟩]) ∧
    session.Recorded ∧
    session.catalog.query = lastQuery actions ∧
    ∀ others : List Action, (start.run others).answers = session.answers →
      let other := (start.run others).catalog
      other.shelves = session.catalog.shelves ∧ other.version = session.catalog.version ∧
        other.lastError = session.catalog.lastError := by
  intro session
  have recorded : session.Recorded := run_recorded actions
  refine ⟨run_traced actions, fun number waits answer => answered_of_waiting waits answer,
    recorded, run_query actions, ?_⟩
  intro others same
  have otherRecorded := run_recorded others
  have payloads : (start.run others).payloads = session.payloads := by
    rw [Session.payloads, same, ← Session.payloads]
  refine ⟨?_, ?_, ?_⟩
  · rw [otherRecorded.shelves, recorded.shelves, payloads]
  · rw [otherRecorded.version, recorded.version, payloads]
  · rw [otherRecorded.lastError, recorded.lastError, same]

/-- Two refreshes are under way; the later one completes first, with the packages `early`. -/
def overtaking (early late : List Tagged) : List Action :=
  [.refresh, .refresh, .answer 1 (.ok early), .answer 0 (.ok late)]

/-- The same answers arrive, each before the next refresh begins. -/
def inTurn (early late : List Tagged) : List Action :=
  [.refresh, .answer 0 (.ok early), .refresh, .answer 1 (.ok late)]

theorem state_of_completions_overtaking :
    let session := start.run (overtaking [] [(.system, default)])
    let other := start.run (inTurn [] [(.system, default)])
    other.answers = session.answers ∧ other.catalog.shelves = session.catalog.shelves ∧
      other.catalog.version = session.catalog.version ∧
      other.catalog.lastError = session.catalog.lastError :=
  ⟨rfl, (state_of_completions (overtaking [] [(.system, default)])).2.2.2.2 (inTurn [] _) rfl⟩

end Session

end Catalog

end PackageStore
