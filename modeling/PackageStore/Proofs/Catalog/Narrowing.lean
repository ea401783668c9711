import Mathlib.Data.List.Basic
import PackageStore.Proofs.Catalog.View

/-!
Contract: a longer search finds less.

Owns: what a record answers, with the short cut for the empty search taken away; that a search for
more text finds a part of what a search for less text finds; and that searching what was found is
searching for both texts at once, so that the order of two searches does not matter.

Does not own: which characters fold to which. Of folding, only one law counts here: a text that
stands inside another one still stands there when both are folded. A character may fold to several,
but it does so whatever stands around it.
-/

set_option autoImplicit false

namespace PackageStore

namespace Text

variable {short long : List CodePoint}

theorem foldText_isInfix (inside : short <:+: long) : foldText short <:+: foldText long := by
  obtain ⟨before, after, rfl⟩ := inside
  rw [foldText_append, foldText_append]
  exact List.infix_append _ _ _

end Text

/-- A query is typed on at both ends. -/
theorem foldQuery_isInfix (before query after : Text) :
    foldQuery (some query) <:+: foldQuery (some (before ++ query ++ after)) := by
  apply Text.foldText_isInfix
  simp only [Option.getD_some, Text.codes_append]
  exact List.infix_append _ _ _

namespace Package

variable {record : Package} {short long folded : List CodePoint}

/-- A search is answered by the text that it stands in. The empty search stands in every name, so
it needs no case of its own. -/
theorem answers_iff :
    record.answers folded = true ↔
      folded <:+: Text.foldText record.id.package.codes ∨
        ∃ description, record.description = some description ∧
          folded <:+: Text.foldText description.codes := by
  simp only [answers, Bool.or_eq_true, List.isEmpty_iff, Option.any_eq_true,
    Text.contains_iff_isInfix]
  constructor
  · rintro ((rfl | name) | description)
    · exact .inl List.nil_infix
    · exact .inl name
    · exact .inr description
  · rintro (name | description)
    · exact .inl (.inr name)
    · exact .inr description

theorem answers_of_isInfix (inside : short <:+: long) (answered : record.answers long = true) :
    record.answers short = true := by
  rw [answers_iff] at answered ⊢
  rcases answered with name | ⟨description, given, found⟩
  · exact .inl (inside.trans name)
  · exact .inr ⟨description, given, inside.trans found⟩

end Package

namespace Shelves

variable {short long : Option Text}

/-- A search picks the records that answer it. The empty search, which leaves the collection as it
is, is no exception: every record answers it. -/
theorem on_search (shelves : Shelves) (query : Option Text) (category : Category) :
    (shelves.search query).on category =
      (shelves.on category).filter (·.answers (foldQuery query)) := by
  by_cases everything : foldQuery query = []
  · have all : ∀ record ∈ shelves.on category, record.answers (foldQuery query) = true := by
      intro record _
      rw [everything]
      exact Package.answers_iff.2 (.inl List.nil_infix)
    rw [search_of_empty shelves everything, List.filter_eq_self.2 all]
  · rw [search, found?, if_neg (mt List.isEmpty_iff.1 everything), Option.getD_some, answering,
      on_ofFunction]

/-- Searching what was found is searching for both. -/
theorem on_search_search (shelves : Shelves) (first second : Option Text)
    (category : Category) :
    ((shelves.search first).search second).on category =
      (shelves.on category).filter fun record =>
        record.answers (foldQuery second) && record.answers (foldQuery first) := by
  rw [on_search, on_search, List.filter_filter]

theorem search_comm (shelves : Shelves) (first second : Option Text) :
    (shelves.search first).search second = (shelves.search second).search first := by
  apply ext_on
  intro category
  simp only [on_search_search, Bool.and_comm]

/-- A search for more text finds a part of what is found for less, in the same order. -/
theorem on_search_sublist (shelves : Shelves) (inside : foldQuery short <:+: foldQuery long)
    (category : Category) :
    ((shelves.search long).on category).Sublist ((shelves.search short).on category) := by
  rw [on_search, on_search]
  apply List.monotone_filter_right
  intro record answered
  exact Package.answers_of_isInfix inside answered

/-- What is found for more text can be looked for among what was found for less. -/
theorem search_search (shelves : Shelves) (inside : foldQuery short <:+: foldQuery long) :
    (shelves.search short).search long = shelves.search long := by
  apply ext_on
  intro category
  rw [on_search_search, on_search]
  apply List.filter_congr
  intro record _
  cases answered : record.answers (foldQuery long) with
  | false => rfl
  | true => rw [Package.answers_of_isInfix inside answered]; rfl

/-- **Typing more only narrows.** Whatever is typed in front of a query or behind it, each category
of the new view is a part of the old one in the same order, and the new view is found as well in
the old view as in the whole collection. And of any two searches, either can be made first. -/
theorem typing_narrows (shelves : Shelves) (before query after : Text) :
    (∀ category, ((shelves.search (some (before ++ query ++ after))).on category).Sublist
      ((shelves.search (some query)).on category)) ∧
    (shelves.search (some query)).search (some (before ++ query ++ after)) =
      shelves.search (some (before ++ query ++ after)) ∧
    ∀ first second : Option Text,
      (shelves.search first).search second = (shelves.search second).search first := by
  have inside := foldQuery_isInfix before query after
  exact ⟨shelves.on_search_sublist inside, shelves.search_search inside, shelves.search_comm⟩

/-- A sharp s folds to two characters, of which a query may type one. -/
example :
    let street : Package := ⟨⟨"maps.os", "Straße"⟩, none⟩
    let shelves : Shelves := ⟨[street], [⟨⟨"sys", "terminal"⟩, none⟩], [], []⟩
    shelves.search (some "AS") = ⟨[street], [], [], []⟩ ∧
      (shelves.search (some "AS")).search (some "RASSE") = ⟨[street], [], [], []⟩ := by
  decide

end Shelves

end PackageStore
