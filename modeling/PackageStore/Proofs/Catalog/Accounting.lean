import Mathlib.Data.List.Forall2
import Mathlib.Data.List.Perm.Basic
import PackageStore.Catalog.Index
import PackageStore.Proofs.Catalog.Sorting

/-!
Contract: every record is kept or warned about.

Owns: the warnings of a sorting and their two forms; which records are rejected, in the order of the
warnings; that the kept and the rejected records together are the records of the list; and that each
warning names the category that holds the identity in the sorted collection.

A warning is written while the higher categories have chosen and the lower ones have not. The owner
that it names is nevertheless the final one: an identity never changes its owner, and an identity
that no higher category holds goes to the category that is choosing.
-/

set_option autoImplicit false

namespace PackageStore.Shelves

/-! ## The warnings -/

/-- What is logged of a sorting, in order. -/
def warnings (tagged : List Tagged) : List Text :=
  (sort tagged).2.map Duplicate.text

/-- A refresh logs the warnings of its sorting, and after them no other warning. -/
theorem warnings_of_replace (catalog : Catalog) (tagged : List Tagged) :
    ((catalog.replace tagged).2.2.filter (·.severity = .warning)).map LogLine.text =
      warnings tagged := by
  simp [Catalog.replace, warnings, List.filter_map, Function.comp_def]

/-- The warning about a second record in the category that holds its identity. -/
def listedTwice (id : Identity) (category : Category) : Text :=
  .ofString "Package " ++ id.text ++ .ofString s!" listed twice in {category.name}; keeping first"

/-- The warning about a record of a category below the one that holds its identity. -/
def reportedAsBoth (id : Identity) (owner category : Category) : Text :=
  .ofString "Package " ++ id.text ++ (.ofString <| s!" reported as both {owner.name} and "
    ++ s!"{category.name}; keeping {owner.name}")

/-- No warning has both forms: they end in different letters. -/
theorem listedTwice_ne_reportedAsBoth (id other : Identity) (category owner lower : Category) :
    listedTwice id category ≠ reportedAsBoth other owner lower := by
  have first : (listedTwice id category).codes.getLast? = some 't'.toNat := by
    simp only [listedTwice, Text.codes_append, Text.codes_ofString_append, List.getLast?_append]
    rfl
  have named : (reportedAsBoth other owner lower).codes.getLast? =
      (Text.ofString owner.name).codes.getLast? := by
    simp only [reportedAsBoth, Text.codes_append, Text.codes_ofString_append, List.getLast?_append]
    cases owner <;> rfl
  intro same
  rw [same, named] at first
  cases owner <;> exact absurd first (by decide)

/-! ## Who holds an identity -/

/-- A category of a collection holds an identity. -/
def Holds (shelves : Shelves) (category : Category) (id : Identity) : Prop :=
  ∃ record ∈ shelves.on category, record.id = id

/-- A warning tells why a record was rejected, in view of what was kept: for a second record in the
category that holds its identity, or else with the name of the higher category that holds it. -/
structure Explains (kept : Shelves) (entry : Tagged) (warning : Text) : Prop where
  twice_iff : (∃ id category, warning = listedTwice id category) ↔ kept.Holds entry.1 entry.2.id
  twice : kept.Holds entry.1 entry.2.id → warning = listedTwice entry.2.id entry.1
  owned : ¬ kept.Holds entry.1 entry.2.id → ∃ owner, kept.Holds owner entry.2.id ∧
    owner.rank < entry.1.rank ∧ warning = reportedAsBoth entry.2.id owner entry.1

variable {tagged : List Tagged} {category owner : Category} {id : Identity} {entry : Tagged}

theorem Holds.unique {other : Category} (holds : (ofTagged tagged).Holds category id)
    (holdsToo : (ofTagged tagged).Holds other id) : category = other := by
  obtain ⟨record, kept, same⟩ := holds
  obtain ⟨second, keptToo, sameToo⟩ := holdsToo
  exact category_unique kept keptToo (same.trans sameToo.symm)

/-- The first hit in a list of categories in the order of precedence is the highest one. -/
theorem rank_le_of_find? {categories : List Category} {hit : Category → Bool}
    (ordered : categories.Pairwise fun left right => left.rank < right.rank)
    (found : categories.find? hit = some owner) :
    ∀ other ∈ categories, hit other = true → owner.rank ≤ other.rank := by
  induction categories with
  | nil => cases found
  | cons first rest inductionHypothesis =>
      obtain ⟨above, ordered⟩ := List.pairwise_cons.1 ordered
      intro other member isHit
      rw [List.find?_cons] at found
      cases firstHit : hit first with
      | true =>
          rw [firstHit] at found
          cases found
          rcases List.mem_cons.1 member with rfl | later
          · exact Nat.le_refl _
          · exact Nat.le_of_lt (above other later)
      | false =>
          rw [firstHit] at found
          rcases List.mem_cons.1 member with rfl | later
          · rw [firstHit] at isHit
            cases isHit
          · exact inductionHypothesis ordered found other later isHit

/-- The owner of an identity before a category chooses is a higher category, and holds the identity
in the end. -/
theorem holds_of_ownersAbove (owned : ownerOf id (ownersAbove tagged category) = some owner) :
    owner.rank < category.rank ∧ (ofTagged tagged).Holds owner id := by
  rw [ownersAbove, ownerOf_foldl, ownerOf, Option.none_or] at owned
  have above := (mem_take_rank_iff category owner).1 (List.mem_of_find?_eq_some owned)
  have ordered : (Category.all.take category.rank).Pairwise
      fun left right => left.rank < right.rank :=
    List.Pairwise.sublist (List.take_sublist _ _) (by decide)
  have reported : id ∈ (tagged? owner tagged).map Package.id := by
    simpa using List.find?_some owned
  obtain ⟨record, listed, rfl⟩ := List.mem_map.1 reported
  rw [mem_tagged?_iff] at listed
  have unclaimed : Unclaimed tagged owner record.id := by
    intro other member same
    by_contra higher
    have before := (mem_take_rank_iff category other.1).2 (by omega)
    refine higher (rank_le_of_find? ordered owned other.1 before (decide_eq_true ?_))
    exact List.mem_map.2 ⟨other.2, mem_tagged?_iff.2 member, same⟩
  exact ⟨above, exists_kept_of_unclaimed listed unclaimed⟩

/-! ## The rejected records -/

/-- The records that are not kept, in the order in which they are warned about. -/
def rejected (tagged : List Tagged) : List Tagged :=
  Category.all.flatMap fun category => (losers tagged category).map (Prod.mk category)

/-- The entries of a category at some of its places, with the places forgotten. -/
theorem map_picked (tagged : List Tagged) (category : Category) (picked : Tagged × Nat → Prop)
    [DecidablePred picked] :
    ((tagged.zipIdx.filter fun spot => decide (spot.1.1 = category ∧ picked spot)).map
        fun spot => spot.1.2).map (Prod.mk category) =
      ((tagged.zipIdx.filter fun spot => spot.1.1 = category).filter
        fun spot => picked spot).map Prod.fst := by
  have both : ∀ spot : Tagged × Nat, decide (spot.1.1 = category ∧ picked spot) =
      (decide (picked spot) && decide (spot.1.1 = category)) := by
    intro spot
    rw [Bool.decide_and, Bool.and_comm]
  simp only [both, List.filter_filter, List.map_map]
  apply List.map_congr_left
  intro spot found
  have here : picked spot ∧ spot.1.1 = category := by
    simpa using (List.mem_filter.1 found).2
  rw [← here.2]
  rfl

/-- Each entry of a category wins or loses. -/
theorem winners_append_losers_perm (tagged : List Tagged) (category : Category) :
    ((winners tagged category).map (Prod.mk category) ++
      (losers tagged category).map (Prod.mk category)).Perm (tagged.filter (·.1 = category)) := by
  have won := map_picked tagged category fun spot => Wins tagged spot.2 spot.1
  have lost := map_picked tagged category fun spot => ¬ Wins tagged spot.2 spot.1
  rw [winners, losers, won, lost, ← List.map_append]
  have entries : tagged.filter (·.1 = category) =
      (tagged.zipIdx.filter fun spot => spot.1.1 = category).map Prod.fst := by
    conv_lhs => rw [← List.zipIdx_map_fst 0 tagged]
    rw [List.filter_map]
    rfl
  rw [entries]
  apply List.Perm.map
  simp only [decide_not]
  exact List.filter_append_perm _ _

theorem flatMap_filter_perm (tagged : List Tagged) :
    (Category.all.flatMap fun category => tagged.filter (·.1 = category)).Perm tagged := by
  rw [List.perm_iff_count]
  intro entry
  have counted : ∀ category, List.count entry (tagged.filter (·.1 = category)) =
      if entry.1 = category then List.count entry tagged else 0 := by
    intro category
    split
    · next here => exact List.count_filter (decide_eq_true here)
    · next apart =>
        refine List.count_eq_zero_of_not_mem fun found => apart ?_
        exact of_decide_eq_true (List.mem_filter.1 found).2
  simp only [Category.all, List.flatMap_cons, List.flatMap_nil, List.append_nil, List.count_append,
    counted]
  cases entry.1 <;> simp

/-- The records that are kept and those that are rejected are all the records. -/
theorem tagged_append_rejected_perm (tagged : List Tagged) :
    ((ofTagged tagged).tagged ++ rejected tagged).Perm tagged := by
  have kept : (ofTagged tagged).tagged =
      Category.all.flatMap fun category => (winners tagged category).map (Prod.mk category) := by
    simp only [Shelves.tagged, on_ofTagged_eq_winners]
  rw [kept, rejected]
  refine (List.flatMap_append_perm _ _ _).trans (.trans ?_ (flatMap_filter_perm tagged))
  exact List.Perm.flatMap_left _ fun category _ => winners_append_losers_perm tagged category

theorem mem_of_mem_rejected (member : entry ∈ rejected tagged) : entry ∈ tagged :=
  (tagged_append_rejected_perm tagged).subset (List.mem_append_right _ member)

/-! ## What is said about them -/

/-- The account of a rejected record: its identity had an owner above its category, or else belongs
to the category itself. -/
def account (tagged : List Tagged) (entry : Tagged) : Duplicate :=
  ⟨entry.2.id, (ownerOf entry.2.id (ownersAbove tagged entry.1)).getD entry.1, entry.1⟩

theorem sort_dropped_eq_map_account (tagged : List Tagged) :
    (sort tagged).2 = (rejected tagged).map (account tagged) := by
  rw [sort_dropped, rejected, List.map_flatMap]
  simp only [dropped_eq_losers, List.map_map]
  rfl

theorem account_explains (member : entry ∈ tagged) :
    (ofTagged tagged).Explains entry (account tagged entry).text := by
  cases owned : ownerOf entry.2.id (ownersAbove tagged entry.1) with
  | none =>
      have unclaimed := ownerOf_ownersAbove_eq_none_iff.1 owned
      have holds : (ofTagged tagged).Holds entry.1 entry.2.id :=
        exists_kept_of_unclaimed member unclaimed
      have text : (account tagged entry).text = listedTwice entry.2.id entry.1 := by
        rw [account, owned, Option.getD_none, Duplicate.text, if_pos rfl]
        rfl
      rw [text]
      exact ⟨iff_of_true ⟨_, _, rfl⟩ holds, fun _ => rfl, fun lacks => absurd holds lacks⟩
  | some owner =>
      obtain ⟨above, holds⟩ := holds_of_ownersAbove owned
      have lacks : ¬ (ofTagged tagged).Holds entry.1 entry.2.id := by
        intro holdsToo
        rw [holds.unique holdsToo] at above
        exact Nat.lt_irrefl _ above
      have apart : owner ≠ entry.1 := by
        rintro rfl
        exact lacks holds
      have text : (account tagged entry).text = reportedAsBoth entry.2.id owner entry.1 := by
        rw [account, owned, Option.getD_some, Duplicate.text, if_neg apart]
        rfl
      rw [text]
      refine ⟨iff_of_false ?_ lacks, fun holdsToo => absurd holdsToo lacks,
        fun _ => ⟨owner, holds, above, rfl⟩⟩
      rintro ⟨id, category, same⟩
      exact listedTwice_ne_reportedAsBoth _ _ _ _ _ same.symm

/-- One warning is logged about each rejected record, in this order. -/
theorem warnings_explain (tagged : List Tagged) :
    List.Forall₂ (ofTagged tagged).Explains (rejected tagged) (warnings tagged) := by
  rw [warnings, sort_dropped_eq_map_account, List.map_map, List.forall₂_map_right_iff,
    List.forall₂_same]
  intro entry member
  exact account_explains (mem_of_mem_rejected member)

theorem length_tagged (shelves : Shelves) : shelves.tagged.length = shelves.total := by
  simp [Shelves.tagged, total, records, List.length_flatMap]

/-- **No record is dropped silently.** The records that are kept and the rejected ones are together
the records of the list, so as many records are kept or warned about as the list has. The warnings
explain the rejected records one by one: a record whose own category holds its identity in the
sorted collection is said to be listed twice, and only such a record is; any other is said to be
reported as both, with the higher category that holds its identity as the owner. No two categories
hold one identity. A refresh logs these warnings and no others. -/
theorem nothing_dropped_silently (tagged : List Tagged) :
    let kept := ofTagged tagged
    kept.total + (warnings tagged).length = tagged.length ∧
    (kept.tagged ++ rejected tagged).Perm tagged ∧
    List.Forall₂ kept.Explains (rejected tagged) (warnings tagged) ∧
    (∀ id category other, kept.Holds category id → kept.Holds other id → category = other) ∧
    ∀ catalog : Catalog,
      ((catalog.replace tagged).2.2.filter (·.severity = .warning)).map LogLine.text =
        warnings tagged := by
  intro kept
  have explained := warnings_explain tagged
  have whole := tagged_append_rejected_perm tagged
  refine ⟨?_, whole, explained, fun id category other => Holds.unique,
    fun catalog => warnings_of_replace catalog tagged⟩
  rw [← explained.length_eq, ← length_tagged, ← List.length_append]
  exact whole.length_eq

/-- A package that is in the system, local and local again, in this order. -/
example :
    let chess : Package := ⟨⟨"template.os", "chess"⟩, none⟩
    warnings [(.system, chess), (.localOnly, chess), (.localOnly, chess)] =
      ["Package chess:template.os listed twice in local; keeping first",
        "Package chess:template.os reported as both local and system; keeping local"] := by
  decide

end PackageStore.Shelves
