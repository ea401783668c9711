import PackageStore.Proofs.Catalog.Accounting

/-!
Contract: sorting does not see how the categories are interleaved.

Owns: the filing of a list, entry by entry, behind the records of each category; that two lists are
filed alike exactly if each category reports the same records in the same order in both, which is
the case exactly if one list comes from the other by exchanging neighbours of different categories;
and that lists that are filed alike are sorted alike, with the same warnings.

Does not own: what the sorted collection holds.
-/

set_option autoImplicit false

namespace PackageStore.Shelves

/-! ## Filing -/

/-- Puts a record behind the others of its category. -/
def file (filed : Shelves) (entry : Tagged) : Shelves :=
  ofFunction fun category =>
    if entry.1 = category then filed.on category ++ [entry.2] else filed.on category

/-- The records of a list, filed one after another. -/
def filed (tagged : List Tagged) : Shelves :=
  tagged.foldl file empty

variable {left middle right tagged : List Tagged} {category : Category} {first second : Tagged}

theorem on_file (boxes : Shelves) (entry : Tagged) (category : Category) :
    (boxes.file entry).on category = boxes.on category ++ tagged? category [entry] := by
  rw [file, on_ofFunction]
  by_cases here : entry.1 = category
  · simp [tagged?, here]
  · simp [tagged?, here]

/-- Two records of different categories are filed in either order. -/
theorem file_comm (boxes : Shelves) (apart : first.1 ≠ second.1) :
    (boxes.file first).file second = (boxes.file second).file first := by
  apply ext_on
  intro category
  simp only [on_file, List.append_assoc]
  by_cases here : first.1 = category
  · have other : tagged? category [second] = [] := by
      simp [tagged?, here ▸ apart.symm]
    rw [other, List.append_nil, List.nil_append]
  · have other : tagged? category [first] = [] := by
      simp [tagged?, here]
    rw [other, List.append_nil, List.nil_append]

theorem on_foldl_file (boxes : Shelves) (tagged : List Tagged) (category : Category) :
    (tagged.foldl file boxes).on category = boxes.on category ++ tagged? category tagged := by
  induction tagged generalizing boxes with
  | nil => simp [tagged?]
  | cons entry rest inductionHypothesis =>
      have split : tagged? category (entry :: rest) =
          tagged? category [entry] ++ tagged? category rest := by
        rw [tagged?, ← List.singleton_append, List.filterMap_append]
        rfl
      rw [List.foldl_cons, inductionHypothesis, on_file, split, List.append_assoc]

theorem on_filed (tagged : List Tagged) (category : Category) :
    (filed tagged).on category = tagged? category tagged := by
  rw [filed, on_foldl_file]
  cases category <;> rfl

/-- The entries of a category, from its filed records. -/
theorem filter_eq_map_filed (tagged : List Tagged) (category : Category) :
    tagged.filter (·.1 = category) = ((filed tagged).on category).map (Prod.mk category) := by
  rw [on_filed]
  induction tagged with
  | nil => rfl
  | cons entry rest inductionHypothesis =>
      by_cases here : entry.1 = category
      · subst here
        simpa [tagged?] using inductionHypothesis
      · simpa [tagged?, here] using inductionHypothesis

theorem filed_eq_iff :
    filed left = filed right ↔
      ∀ category, left.filter (·.1 = category) = right.filter (·.1 = category) := by
  constructor
  · intro same category
    rw [filter_eq_map_filed, filter_eq_map_filed, same]
  · intro same
    apply ext_on
    intro category
    have entries := same category
    rw [filter_eq_map_filed, filter_eq_map_filed] at entries
    exact (List.map_inj_right fun _ _ pairs => congrArg Prod.snd pairs).1 entries

/-- The choice of the categories starts from the filed records. -/
theorem sort_eq_of_filed (same : filed left = filed right) : sort left = sort right := by
  simp only [sort, ← on_filed, same]

/-! ## Exchanging neighbours -/

/-- A list comes from another one by exchanges of neighbours that have different categories. -/
inductive Reshuffled : List Tagged → List Tagged → Prop where
  | refl (tagged : List Tagged) : Reshuffled tagged tagged
  | exchange (before : List Tagged) {after result : List Tagged} {first second : Tagged}
      (apart : first.1 ≠ second.1)
      (later : Reshuffled (before ++ second :: first :: after) result) :
      Reshuffled (before ++ first :: second :: after) result

namespace Reshuffled

theorem trans (reshuffled : Reshuffled left middle) (again : Reshuffled middle right) :
    Reshuffled left right := by
  induction reshuffled with
  | refl => exact again
  | exchange before apart _ inductionHypothesis =>
      exact .exchange before apart (inductionHypothesis again)

theorem cons (entry : Tagged) (reshuffled : Reshuffled left right) :
    Reshuffled (entry :: left) (entry :: right) := by
  induction reshuffled with
  | refl => exact .refl _
  | exchange before apart _ inductionHypothesis =>
      exact .exchange (entry :: before) apart inductionHypothesis

/-- An entry moves in front of entries of other categories. -/
theorem move (entry : Tagged) {before : List Tagged} (after : List Tagged)
    (apart : ∀ other ∈ before, other.1 ≠ entry.1) :
    Reshuffled (before ++ entry :: after) (entry :: (before ++ after)) := by
  induction before with
  | nil => exact .refl _
  | cons head rest inductionHypothesis =>
      obtain ⟨apartHead, apartRest⟩ := List.forall_mem_cons.1 apart
      have moved := (inductionHypothesis apartRest).cons head
      exact moved.trans (.exchange [] apartHead (.refl _))

theorem filed (reshuffled : Reshuffled left right) : filed left = filed right := by
  induction reshuffled with
  | refl => rfl
  | exchange before apart _ inductionHypothesis =>
      rw [← inductionHypothesis]
      simp only [Shelves.filed, List.foldl_append, List.foldl_cons, file_comm _ apart]

end Reshuffled

/-- Nothing but the interleaving is lost by filing. -/
theorem reshuffled_of_filter
    (same : ∀ category, left.filter (·.1 = category) = right.filter (·.1 = category)) :
    Reshuffled left right := by
  induction right generalizing left with
  | nil =>
      have empty : left = [] := by
        apply List.eq_nil_iff_forall_not_mem.2
        intro entry member
        have listed : entry ∈ left.filter (·.1 = entry.1) :=
          List.mem_filter.2 ⟨member, decide_eq_true rfl⟩
        rw [same] at listed
        cases listed
      rw [empty]
      exact .refl _
  | cons head rest inductionHypothesis =>
      have own : left.filter (·.1 = head.1) = head :: rest.filter (·.1 = head.1) := by
        rw [same, List.filter_cons, if_pos (decide_eq_true rfl)]
      rw [List.filter_eq_cons_iff] at own
      obtain ⟨before, after, rfl, others, -, rest_eq⟩ := own
      have apart : ∀ other ∈ before, other.1 ≠ head.1 := by
        intro other member
        simpa using others other member
      -- The head is the first of its category, so it can be moved to the front and left out.
      have remaining : ∀ category,
          (before ++ after).filter (·.1 = category) = rest.filter (·.1 = category) := by
        intro category
        by_cases here : head.1 = category
        · subst here
          have none : before.filter (·.1 = head.1) = [] := by
            simpa using apart
          rw [List.filter_append, none, List.nil_append, rest_eq]
        · have entries := same category
          simpa [List.filter_append, List.filter_cons, here] using entries
      exact (Reshuffled.move head after apart).trans ((inductionHypothesis remaining).cons head)

theorem reshuffled_iff :
    Reshuffled left right ↔
      ∀ category, left.filter (·.1 = category) = right.filter (·.1 = category) :=
  ⟨fun reshuffled => filed_eq_iff.1 reshuffled.filed, reshuffled_of_filter⟩

/-! ## The order inside a category -/

/-- Of two records in one category, the first one comes first in the collection. -/
theorem head?_on_ofTagged_pair (category : Category) (first second : Package) :
    ((ofTagged [(category, first), (category, second)]).on category).head? = some first := by
  have listed : tagged? category [(category, first), (category, second)] = [first, second] := by
    simp [tagged?]
  have unclaimed : Unclaimed [(category, first), (category, second)] category first.id := by
    simp [Unclaimed]
  rw [on_ofTagged, listed, keepFirst, ownerOf_ownersAbove_eq_none_iff.2 unclaimed]
  rfl

/-- **The interleaving of the categories is ignored.** If two lists report the same records in the
same order under each category, then they are sorted into the same collection with the same
warnings, and a refresh makes the same of both. These are the lists that come from one another by
exchanges of neighbours of different categories. To exchange two different records of one category
changes the collection. -/
theorem interleaving_ignored :
    (∀ left right : List Tagged,
      (∀ category, left.filter (·.1 = category) = right.filter (·.1 = category)) →
        ofTagged left = ofTagged right ∧ warnings left = warnings right ∧
          ∀ catalog : Catalog, catalog.replace left = catalog.replace right) ∧
    (∀ left right : List Tagged, Reshuffled left right ↔
      ∀ category, left.filter (·.1 = category) = right.filter (·.1 = category)) ∧
    ∀ (category : Category) (first second : Package), first ≠ second →
      ofTagged [(category, first), (category, second)] ≠
        ofTagged [(category, second), (category, first)] := by
  refine ⟨?_, fun left right => reshuffled_iff, ?_⟩
  · intro left right same
    have sorted : sort left = sort right := sort_eq_of_filed (filed_eq_iff.2 same)
    refine ⟨congrArg Prod.fst sorted, ?_, fun catalog => ?_⟩
    · rw [warnings, warnings, sorted]
    · rw [Catalog.replace, Catalog.replace, sorted]
  · intro category first second different same
    have heads := head?_on_ofTagged_pair category first second
    rw [same, head?_on_ofTagged_pair] at heads
    exact different (Option.some.inj heads).symm

/-- A game that three categories report, one of them twice, the lowest category first. -/
def lowestFirst : List Tagged :=
  let game (version : Text) : Package :=
    ⟨⟨"template.os", "chess"⟩, some ⟨none, none, none, none, some version⟩⟩
  [(.system, game "1"), (.installed, game "2"), (.installed, game "3"), (.downloaded, game "4")]

/-- The same reports, the highest category first. -/
def highestFirst : List Tagged :=
  let game (version : Text) : Package :=
    ⟨⟨"template.os", "chess"⟩, some ⟨none, none, none, none, some version⟩⟩
  [(.downloaded, game "4"), (.installed, game "2"), (.system, game "1"), (.installed, game "3")]

theorem interleaving_ignored_lowestFirst :
    (∀ category, lowestFirst.filter (·.1 = category) = highestFirst.filter (·.1 = category)) ∧
    lowestFirst ≠ highestFirst ∧ ofTagged lowestFirst = ofTagged highestFirst ∧
    warnings lowestFirst = warnings highestFirst := by
  have same : ∀ category,
      lowestFirst.filter (·.1 = category) = highestFirst.filter (·.1 = category) := by
    intro category
    cases category <;> rfl
  obtain ⟨sorted, warned, -⟩ := interleaving_ignored.1 lowestFirst highestFirst same
  exact ⟨same, by decide, sorted, warned⟩

end PackageStore.Shelves
