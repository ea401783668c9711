import PackageStore.Catalog.Index

/-!
Contract: one index while its refreshes overlap.

Owns: the refreshes that wait for the registry, the history of those that completed, the actions
that drive an index in whatever order, and the lemma that every action is a search, a refresh that
completes, or nothing to the index.

A refresh does nothing to the index until the registry has answered it. Every other action may come
in between. An answer or a cancellation that meets no waiting refresh changes nothing, so each list
of actions is a run.
-/

set_option autoImplicit false

namespace PackageStore.Catalog

/-- A refresh that completed: what the registry answered, and what was reported. -/
structure Completion where
  number : Nat
  answer : Except Failure (List Tagged)
  report : RefreshReport

/-- An index with the refreshes begun on it, numbered in the order of their beginning. The history
is in the order of completion. -/
structure Session where
  catalog : Catalog
  started : Nat
  waiting : List Nat
  history : List Completion

namespace Session

/-- The session of a new index. -/
def start : Session :=
  ⟨.empty, 0, [], []⟩

inductive Action where
  | refresh
  /-- The registry answers the refresh of a number, or fails. -/
  | answer (number : Nat) (answer : Except Failure (List Tagged))
  | cancel (number : Nat)
  | setQuery (query : Option Text)

/-- A refresh begins, and waits for the registry. -/
def refresh (session : Session) : Session :=
  { session with
    started := session.started + 1
    waiting := session.waiting ++ [session.started] }

/-- A refresh no longer waits. -/
def withdraw (session : Session) (number : Nat) : Session :=
  { session with waiting := session.waiting.filter (· ≠ number) }

/-- The index goes on with what the registry answered. -/
def complete (session : Session) (number : Nat) (answer : Except Failure (List Tagged)) : Session :=
  let (catalog, report, _) := session.catalog.complete answer
  { session with catalog, history := session.history ++ [⟨number, answer, report⟩] }

def act (session : Session) : Action → Session
  | .refresh => session.refresh
  | .answer number answer =>
      if number ∈ session.waiting then (session.withdraw number).complete number answer else session
  | .cancel number => session.withdraw number
  | .setQuery query => { session with catalog := session.catalog.setQuery query }

/-- Performs actions one after another. -/
def run (session : Session) (actions : List Action) : Session :=
  actions.foldl act session

/-- What an action does to the index. -/
inductive Change (session : Session) : Session → Prop where
  /-- Nothing. -/
  | idle {next : Session} (same : next.catalog = session.catalog) : Change session next
  /-- It gets another query. -/
  | searches {next : Session} (query : Option Text)
      (searched : next.catalog = session.catalog.setQuery query) : Change session next
  /-- A refresh completes. -/
  | completes {next : Session} (answer : Except Failure (List Tagged))
      (completed : next.catalog = (session.catalog.complete answer).1) : Change session next

theorem act_change (session : Session) (action : Action) : Change session (session.act action) := by
  cases action with
  | refresh => exact .idle rfl
  | answer number answer =>
      by_cases waits : number ∈ session.waiting
      · rw [act, if_pos waits]
        exact .completes answer rfl
      · rw [act, if_neg waits]
        exact .idle rfl
  | cancel number => exact .idle rfl
  | setQuery query => exact .searches query rfl

end Session

end PackageStore.Catalog
