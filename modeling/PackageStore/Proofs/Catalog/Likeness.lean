import Mathlib.Data.List.Forall2
import PackageStore.Proofs.Catalog.Narrowing

/-!
Contract: what a search sees of a record.

Owns: that a record is found by whatever folds like a piece of its name or of its description; when
two records are alike to every search; and that collections which are alike record by record have
views which are alike record by record.

A piece is cut from a text as it is written, so a cut never falls inside what one character folds
to. A query need not be a piece itself: it is enough that it folds like one.
-/

set_option autoImplicit false

namespace PackageStore

namespace Text

/-- Two texts are equal up to case: they fold to the same text. -/
def SameFolded (left right : Text) : Prop :=
  foldText left.codes = foldText right.codes

instance (left right : Text) : Decidable (SameFolded left right) :=
  inferInstanceAs (Decidable (_ = _))

end Text

namespace Package

variable {record left right : Package} {query piece : Text}

/-- The text stands, as one contiguous piece, in the name of the package or in its description. -/
def Shows (record : Package) (piece : Text) : Prop :=
  piece.codes <:+: record.id.package.codes ∨
    ∃ description, record.description = some description ∧ piece.codes <:+: description.codes

/-- Two records that no search tells apart. Their names are equal up to case, and either both lack a
description or both descriptions are equal up to case. Nothing else of a record counts, and neither
does whether a description is lacking because there is no metadata at all. -/
structure Alike (left right : Package) : Prop where
  name : Text.SameFolded left.id.package right.id.package
  description : Option.Rel Text.SameFolded left.description right.description

/-- A record is found by whatever folds like a piece of it. -/
theorem answers_of_shows (shows : record.Shows piece) (same : Text.SameFolded query piece) :
    record.answers (foldQuery (some query)) = true := by
  have folded : foldQuery (some query) = Text.foldText piece.codes := same
  rw [folded, answers_iff]
  rcases shows with name | ⟨description, given, inside⟩
  · exact .inl (Text.foldText_isInfix name)
  · exact .inr ⟨description, given, Text.foldText_isInfix inside⟩

theorem Alike.answers_eq (alike : left.Alike right) (folded : List CodePoint) :
    left.answers folded = right.answers folded := by
  obtain ⟨name, description⟩ := alike
  rw [Bool.eq_iff_iff, answers_iff, answers_iff, name]
  generalize left.description = first at description
  generalize right.description = second at description
  cases description with
  | none => rfl
  | @some firstText secondText same =>
      have folded : Text.foldText firstText.codes = Text.foldText secondText.codes := same
      simp only [Option.some.injEq, exists_eq_left', folded]

end Package

namespace Shelves

theorem mem_search_iff (shelves : Shelves) (query : Option Text) (category : Category)
    (record : Package) :
    record ∈ (shelves.search query).on category ↔
      record ∈ shelves.on category ∧ record.answers (foldQuery query) = true := by
  rw [on_search, List.mem_filter]

/-- What is found among alike records is alike. -/
theorem search_alike {left right : Shelves}
    (alike : ∀ category, List.Forall₂ Package.Alike (left.on category) (right.on category))
    (query : Option Text) (category : Category) :
    List.Forall₂ Package.Alike ((left.search query).on category)
      ((right.search query).on category) := by
  rw [on_search, on_search]
  refine List.rel_filter ?_ (alike category)
  intro first second same
  exact Iff.of_eq (congrArg (· = true) (same.answers_eq (foldQuery query)))

/-- **A search sees the folded name and the folded description, and nothing else.** A query that is
equal up to case to a piece of a record's name or of its description finds the record, in whatever
collection and category it stands. Records that are alike are found by the same queries, so that
collections which are alike record by record have views which are alike record by record. -/
theorem search_sees_folded_texts :
    (∀ (record : Package) (query piece : Text),
      record.Shows piece → Text.SameFolded query piece →
        record.answers (foldQuery (some query)) = true ∧
          ∀ (shelves : Shelves) (category : Category), record ∈ shelves.on category →
            record ∈ (shelves.search (some query)).on category) ∧
    (∀ left right : Package, left.Alike right →
      ∀ folded, left.answers folded = right.answers folded) ∧
    ∀ left right : Shelves,
      (∀ category, List.Forall₂ Package.Alike (left.on category) (right.on category)) →
        ∀ query category, List.Forall₂ Package.Alike ((left.search query).on category)
          ((right.search query).on category) := by
  refine ⟨?_, fun _ _ alike => alike.answers_eq, fun _ _ alike => search_alike alike⟩
  intro record query piece shows same
  have answered := Package.answers_of_shows shows same
  refine ⟨answered, ?_⟩
  intro shelves category member
  exact (shelves.mem_search_iff (some query) category record).2 ⟨member, answered⟩

/-- A record without metadata, whose name ends in a piece that folds to three characters, and a
record with metadata that lacks a description. -/
theorem search_sees_folded_texts_street :
    let street : Package := ⟨⟨"maps.os", "Straße"⟩, none⟩
    let avenue : Package := ⟨⟨"roads.os", "STRASSE"⟩, some ⟨some "Map", none, none, none, none⟩⟩
    street ∈ ((⟨[street], [], [], []⟩ : Shelves).search (some "SsE")).on .downloaded ∧
      (∀ folded, street.answers folded = avenue.answers folded) ∧
      List.Forall₂ Package.Alike
        (((⟨[street], [], [], []⟩ : Shelves).search (some "aS")).on .downloaded)
        (((⟨[avenue], [], [], []⟩ : Shelves).search (some "aS")).on .downloaded) := by
  intro street avenue
  have alike : street.Alike avenue := ⟨by decide, .none⟩
  obtain ⟨finds, blind, views⟩ := search_sees_folded_texts
  refine ⟨?_, blind street avenue alike, views _ _ ?_ _ _⟩
  · have ends : street.Shows "ße" := .inl ⟨(Text.ofString "Stra").codes, [], by decide⟩
    exact (finds street "SsE" "ße" ends (by decide)).2 _ .downloaded List.mem_cons_self
  · intro category
    cases category with
    | downloaded => exact .cons alike .nil
    | installed => exact .nil
    | localOnly => exact .nil
    | system => exact .nil

end Shelves

end PackageStore
