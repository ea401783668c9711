import PackageStore.Proofs.Catalog.Session

/-!
Contract: the view of an index is the answer to its query.

Owns: the law that the version and the folded query determine the view, the invariant that ties the
view to the key it was computed for, its preservation by every action, and the theorem for all runs.

The view is not computed again while its key stays the same. This is sound because a search reads
of its query no more than the folded form, and because a collection is never replaced without a new
version.
-/

set_option autoImplicit false

namespace PackageStore

/-- The failed fetch that a failure is reported as: itself, if it is one. -/
def Failure.asFetchFault : Failure → FetchFault
  | .fetch fault => fault
  | failure => .unexpected failure.message

namespace Shelves

variable {query : Option Text}

/-- Nothing is built for the empty search, and for no other one. -/
theorem found?_eq_none_iff (shelves : Shelves) :
    shelves.found? query = none ↔ foldQuery query = [] := by
  simp [found?]

/-- Queries that fold alike find the same packages. -/
theorem search_congr (shelves : Shelves) {other : Option Text}
    (alike : foldQuery query = foldQuery other) : shelves.search query = shelves.search other := by
  simp only [search, found?, alike]

theorem search_of_empty (shelves : Shelves) (everything : foldQuery query = []) :
    shelves.search query = shelves := by
  rw [search, shelves.found?_eq_none_iff.2 everything]
  rfl

end Shelves

namespace Catalog

/-- What the view is computed from: the version, and the folded query. -/
def key (catalog : Catalog) : Nat × List CodePoint :=
  (catalog.version, foldQuery (some catalog.query))

/-- The view is the answer to the query. -/
def Answers (catalog : Catalog) : Prop :=
  catalog.view.shelves = catalog.shelves.search (some catalog.query)

/-- The view bears the mark of the key that it was computed for: the collection of a version, or a
search result that was counted. -/
structure Labelled (catalog : Catalog) : Prop where
  whole : catalog.viewKey.2 = [] → catalog.view.origin = .whole catalog.viewKey.1
  found : catalog.viewKey.2 ≠ [] →
    ∃ serial < catalog.searches, catalog.view.origin = .found serial

/-- What every index keeps between its actions. -/
structure Coherent (catalog : Catalog) : Prop where
  current : catalog.viewKey = catalog.key
  labelled : catalog.Labelled
  answers : catalog.Answers

/-- The view stays the same object exactly while its key stays the same, and an object does not
change. -/
structure Follows (before after : Catalog) : Prop where
  replaced : after.view.origin = before.view.origin ↔ after.key = before.key
  constant : after.view.origin = before.view.origin → after.view = before.view

variable {catalog : Catalog}

theorem empty_coherent : Catalog.empty.Coherent where
  current := rfl
  labelled := ⟨fun _ => rfl, fun searched => absurd rfl searched⟩
  answers := rfl

theorem Coherent.viewIsWhole_iff (coherent : catalog.Coherent) :
    catalog.viewIsWhole = true ↔ foldQuery (some catalog.query) = [] := by
  have labelled := coherent.labelled
  rw [viewIsWhole, decide_eq_true_iff]
  constructor
  · intro whole
    by_cases everything : catalog.viewKey.2 = []
    · rw [coherent.current] at everything
      exact everything
    · obtain ⟨serial, _, found⟩ := labelled.found everything
      rw [found] at whole
      cases whole
  · intro everything
    rw [labelled.whole (by rw [coherent.current]; exact everything), coherent.current]
    rfl

/-! ## Bringing the view up to date -/

theorem updateView_cases (catalog : Catalog) :
    catalog.viewKey = catalog.key ∧ catalog.updateView = catalog ∨
    catalog.viewKey ≠ catalog.key ∧ catalog.key.2 = [] ∧
      catalog.updateView = { catalog with
        view := ⟨catalog.shelves, .whole catalog.version⟩
        viewKey := catalog.key } ∨
    catalog.viewKey ≠ catalog.key ∧ catalog.key.2 ≠ [] ∧
      catalog.updateView = { catalog with
        view := ⟨catalog.shelves.search (some catalog.query), .found catalog.searches⟩
        viewKey := catalog.key
        searches := catalog.searches + 1 } := by
  by_cases current : catalog.viewKey = catalog.key
  · exact .inl ⟨current, if_pos current.symm⟩
  · have stale : (catalog.version, foldQuery (some catalog.query)) ≠ catalog.viewKey :=
      Ne.symm current
    have searched : catalog.shelves.found? (some catalog.query) = none ↔ catalog.key.2 = [] :=
      catalog.shelves.found?_eq_none_iff
    refine .inr ?_
    unfold updateView
    rw [if_neg stale]
    cases found : catalog.shelves.found? (some catalog.query) with
    | none => exact .inl ⟨current, searched.1 found, rfl⟩
    | some shelves =>
        have answer : catalog.shelves.search (some catalog.query) = shelves := by
          rw [Shelves.search, found, Option.getD_some]
        refine .inr ⟨current, fun everything => ?_, by rw [answer]; rfl⟩
        cases found.symm.trans (searched.2 everything)

/-- The view becomes coherent, provided that it answers the query if its key is current. -/
theorem updateView_coherent (labelled : catalog.Labelled)
    (covered : catalog.viewKey = catalog.key → catalog.Answers) :
    catalog.updateView.Coherent := by
  rcases catalog.updateView_cases with
    ⟨current, same⟩ | ⟨_, everything, computed⟩ | ⟨_, searched, computed⟩
  · rw [same]
    exact ⟨current, labelled, covered current⟩
  · rw [computed]
    exact ⟨rfl, ⟨fun _ => rfl, fun searched => absurd everything searched⟩,
      (Shelves.search_of_empty _ everything).symm⟩
  · rw [computed]
    exact ⟨rfl, ⟨fun everything => absurd everything searched,
      fun _ => ⟨catalog.searches, Nat.lt_succ_self _, rfl⟩⟩, rfl⟩

/-- A view that is computed is another one than before. -/
theorem updateView_origin_iff (labelled : catalog.Labelled) :
    catalog.updateView.view.origin = catalog.view.origin ↔ catalog.key = catalog.viewKey := by
  rcases catalog.updateView_cases with
    ⟨current, same⟩ | ⟨stale, everything, computed⟩ | ⟨stale, _, computed⟩
  · rw [same]
    exact iff_of_true rfl current.symm
  · rw [computed]
    refine iff_of_false (fun same => stale ?_) (Ne.symm stale)
    by_cases before : catalog.viewKey.2 = []
    · rw [labelled.whole before] at same
      exact Prod.ext (ViewOrigin.whole.inj same).symm (before.trans everything.symm)
    · obtain ⟨serial, _, found⟩ := labelled.found before
      rw [found] at same
      cases same
  · rw [computed]
    refine iff_of_false (fun same => ?_) (Ne.symm stale)
    by_cases before : catalog.viewKey.2 = []
    · rw [labelled.whole before] at same
      cases same
    · obtain ⟨serial, counted, found⟩ := labelled.found before
      rw [found] at same
      cases same
      exact Nat.lt_irrefl _ counted

theorem updateView_key (catalog : Catalog) : catalog.updateView.key = catalog.key := by
  rcases catalog.updateView_cases with ⟨_, same⟩ | ⟨_, _, computed⟩ | ⟨_, _, computed⟩
  · rw [same]
  · rw [computed]
    rfl
  · rw [computed]
    rfl

/-- Whatever was changed beside the view, the view is replaced only for a new key. -/
theorem updateView_follows {before : Catalog} (coherent : before.Coherent)
    (labelled : catalog.Labelled) (view : catalog.view = before.view)
    (viewKey : catalog.viewKey = before.viewKey) : before.Follows catalog.updateView where
  replaced := by
    rw [← view, updateView_origin_iff labelled, updateView_key, viewKey, coherent.current]
  constant same := by
    rw [← view, updateView_origin_iff labelled] at same
    rw [← view]
    exact congrArg Catalog.view (if_pos same)

/-! ## The operations of an index -/

/-- An operation on a coherent index leaves a coherent one, whose view followed its key. -/
def Keeps (before after : Catalog) : Prop :=
  before.Coherent → after.Coherent ∧ before.Follows after

theorem keeps_setQuery (catalog : Catalog) (query : Option Text) :
    catalog.Keeps (catalog.setQuery query) := by
  intro coherent
  have labelled : ({ catalog with query := query.getD "" } : Catalog).Labelled :=
    ⟨coherent.labelled.whole, coherent.labelled.found⟩
  refine ⟨updateView_coherent labelled fun same => ?_, updateView_follows coherent labelled rfl rfl⟩
  -- The key is the old one, so the old query folds like the new one.
  have alike := congrArg Prod.snd (coherent.current.symm.trans same)
  exact coherent.answers.trans (Shelves.search_congr _ alike)

theorem keeps_replace (catalog : Catalog) (tagged : List Tagged) :
    catalog.Keeps (catalog.replace tagged).1 := by
  intro coherent
  have labelled : ({ catalog with
      shelves := (Shelves.sort tagged).1
      version := catalog.version + 1
      lastError := none } : Catalog).Labelled :=
    ⟨coherent.labelled.whole, coherent.labelled.found⟩
  refine ⟨updateView_coherent labelled fun same => ?_, updateView_follows coherent labelled rfl rfl⟩
  -- The version is a new one, and so is the key.
  have versions := congrArg Prod.fst (coherent.current.symm.trans same)
  exact absurd versions (Nat.ne_of_lt (Nat.lt_succ_self _))

/-- A refresh that fails leaves its error, and everything else as it was. -/
theorem complete_failure (catalog : Catalog) (failure : Failure) :
    (catalog.complete (.error failure)).1 =
      { catalog with lastError := some failure.asFetchFault } ∧
      (catalog.complete (.error failure)).2.1 =
        ⟨catalog.version, some failure.asFetchFault⟩ := by
  cases failure with
  | fetch fault => exact ⟨rfl, rfl⟩
  | _ => exact ⟨rfl, rfl⟩

theorem keeps_complete (catalog : Catalog) (answer : Except Failure (List Tagged)) :
    catalog.Keeps (catalog.complete answer).1 := by
  cases answer with
  | ok tagged => exact catalog.keeps_replace tagged
  | error failure =>
      intro coherent
      rw [(catalog.complete_failure failure).1]
      exact ⟨⟨coherent.current, ⟨coherent.labelled.whole, coherent.labelled.found⟩,
        coherent.answers⟩, ⟨iff_of_true rfl rfl, fun _ => rfl⟩⟩

namespace Session

theorem Change.keeps {session next : Session} (change : Change session next) :
    session.catalog.Keeps next.catalog := by
  cases change with
  | idle same =>
      intro coherent
      rw [same]
      exact ⟨coherent, ⟨iff_of_true rfl rfl, fun _ => rfl⟩⟩
  | searches query searched =>
      rw [searched]
      exact keeps_setQuery _ query
  | completes answer completed =>
      rw [completed]
      exact keeps_complete _ answer

theorem run_coherent (actions : List Action) : (start.run actions).catalog.Coherent := by
  refine List.foldlRecOn (motive := fun session => session.catalog.Coherent) actions act ?_ ?_
  · exact empty_coherent
  · intro session coherent action _
    exact ((session.act_change action).keeps coherent).1

/-- **The view is coherent.** Whatever was refreshed and searched for, and in whatever order the
refreshes ended, the view is the answer of the collection to the query; it is the collection itself
exactly when the folded query is empty; and an action replaces it exactly when it changes the
version or the folded query. -/
theorem view_coherent (actions : List Action) :
    let session := start.run actions
    session.catalog.view.shelves = session.catalog.shelves.search (some session.catalog.query) ∧
    (session.catalog.viewIsWhole = true ↔ foldQuery (some session.catalog.query) = []) ∧
    ∀ action, session.catalog.Follows (session.act action).catalog := by
  intro session
  have coherent : session.catalog.Coherent := run_coherent actions
  exact ⟨coherent.answers, coherent.viewIsWhole_iff,
    fun action => ((session.act_change action).keeps coherent).2⟩

end Session

end Catalog

end PackageStore
