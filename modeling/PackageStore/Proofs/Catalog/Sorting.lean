import Mathlib.Data.List.Nodup
import PackageStore.Catalog.Shelves

/-!
Contract: which records a sorted collection holds.

Owns: the records that win their identity, said of the places of a tagged list; that sorting keeps
exactly these and drops the others, in the order of the list; and that sorting a sorted collection
again drops nothing.

Does not own: the texts about dropped records.

A category chooses after the ones above it. What these hold is all that a category sees of them, so
the identities held before a category chooses are tied to the tagged list first, and the choice of
one category is an induction over the places of the list.
-/

set_option autoImplicit false

namespace PackageStore.Shelves

/-! ## Winners -/

/-- No entry of a higher category bears the identity. -/
def Unclaimed (tagged : List Tagged) (category : Category) (id : Identity) : Prop :=
  ∀ other ∈ tagged, other.2.id = id → category.rank ≤ other.1.rank

instance (tagged : List Tagged) (category : Category) (id : Identity) :
    Decidable (Unclaimed tagged category id) :=
  inferInstanceAs (Decidable (∀ other ∈ tagged, other.2.id = id → category.rank ≤ other.1.rank))

/-- The entry at a place wins its identity: no higher category bears it, and no earlier entry of
the same category does. -/
def Wins (tagged : List Tagged) (place : Nat) (entry : Tagged) : Prop :=
  Unclaimed tagged entry.1 entry.2.id ∧
    ∀ earlier ∈ tagged.take place, earlier.1 = entry.1 → earlier.2.id ≠ entry.2.id

instance (tagged : List Tagged) (place : Nat) (entry : Tagged) :
    Decidable (Wins tagged place entry) :=
  inferInstanceAs (Decidable (_ ∧ _))

/-- The winners of a category, in the order of the list. -/
def winners (tagged : List Tagged) (category : Category) : List Package :=
  (tagged.zipIdx.filter fun spot => decide (spot.1.1 = category ∧ Wins tagged spot.2 spot.1)).map
    fun spot => spot.1.2

/-- The entries of a category that do not win, in the order of the list. -/
def losers (tagged : List Tagged) (category : Category) : List Package :=
  (tagged.zipIdx.filter fun spot => decide (spot.1.1 = category ∧ ¬ Wins tagged spot.2 spot.1)).map
    fun spot => spot.1.2

variable {tagged : List Tagged} {category : Category} {record : Package} {id : Identity}

theorem mem_tagged?_iff : record ∈ tagged? category tagged ↔ (category, record) ∈ tagged := by
  rw [tagged?, List.mem_filterMap]
  constructor
  · rintro ⟨⟨other, found⟩, member, same⟩
    by_cases here : other = category
    · rw [if_pos here] at same
      cases same
      exact here ▸ member
    · rw [if_neg here] at same
      cases same
  · intro member
    exact ⟨(category, record), member, if_pos rfl⟩

theorem rank_injective {left right : Category} (same : left.rank = right.rank) :
    left = right := by
  cases left <;> cases right <;> simp [Category.rank] at same ⊢

theorem mem_take_rank_iff (category other : Category) :
    other ∈ Category.all.take category.rank ↔ other.rank < category.rank := by
  cases category <;> cases other <;> decide

/-! ## The identities that are held before a category chooses -/

theorem ownerOf_keepFirst (category : Category) (owners : Owners) (records : List Package)
    (id : Identity) :
    ownerOf id (keepFirst category owners records).owners =
      (ownerOf id owners).or (if id ∈ records.map Package.id then some category else none) := by
  induction records generalizing owners with
  | nil => simp [keepFirst]
  | cons record rest inductionHypothesis =>
      unfold keepFirst
      cases held : ownerOf record.id owners with
      | none =>
          dsimp only
          rw [inductionHypothesis, ownerOf]
          by_cases here : record.id = id
          · subst here
            simp [held]
          · simp [here, Ne.symm here]
      | some owner =>
          dsimp only
          rw [inductionHypothesis]
          by_cases here : record.id = id
          · subst here
            simp [held]
          · simp [Ne.symm here]

/-- The identities that are held when the categories above have chosen. -/
def ownersAbove (tagged : List Tagged) (category : Category) : Owners :=
  (Category.all.take category.rank).foldl
    (fun owners higher => (keepFirst higher owners (tagged? higher tagged)).owners) []

theorem ownerOf_foldl (tagged : List Tagged) (categories : List Category) (owners : Owners)
    (id : Identity) :
    ownerOf id (categories.foldl
        (fun owners higher => (keepFirst higher owners (tagged? higher tagged)).owners) owners) =
      (ownerOf id owners).or
        (categories.find? fun higher => decide (id ∈ (tagged? higher tagged).map Package.id)) := by
  induction categories generalizing owners with
  | nil => simp
  | cons higher rest inductionHypothesis =>
      rw [List.foldl_cons, inductionHypothesis, ownerOf_keepFirst, Option.or_assoc,
        List.find?_cons]
      by_cases reported : id ∈ (tagged? higher tagged).map Package.id
      · simp only [reported, if_true, decide_true, Option.some_or]
      · simp only [reported, if_false, decide_false, Option.none_or]

theorem ownerOf_ownersAbove_eq_none_iff :
    ownerOf id (ownersAbove tagged category) = none ↔ Unclaimed tagged category id := by
  rw [ownersAbove, ownerOf_foldl, ownerOf, Option.none_or, List.find?_eq_none]
  simp only [mem_take_rank_iff, decide_eq_true_eq, List.mem_map, mem_tagged?_iff]
  constructor
  · intro unreported other member same
    by_contra above
    exact unreported other.1 (Nat.lt_of_not_le above) ⟨other.2, member, same⟩
  · rintro unclaimed higher above ⟨record, member, same⟩
    exact Nat.not_le_of_lt above (unclaimed (higher, record) member same)

/-! ## What one category keeps -/

theorem keepFirst_kept_unheld (category : Category) (owners : Owners) (records : List Package) :
    ∀ record ∈ (keepFirst category owners records).kept, ownerOf record.id owners = none := by
  induction records generalizing owners with
  | nil => simp [keepFirst]
  | cons first rest inductionHypothesis =>
      intro record kept
      unfold keepFirst at kept
      cases held : ownerOf first.id owners with
      | none =>
          simp only [held, List.mem_cons] at kept
          rcases kept with rfl | later
          · exact held
          · have unheld := inductionHypothesis _ record later
            rw [ownerOf] at unheld
            split at unheld
            · cases unheld
            · exact unheld
      | some owner =>
          simp only [held] at kept
          exact inductionHypothesis owners record kept

theorem keepFirst_kept_nodup (category : Category) (owners : Owners) (records : List Package) :
    ((keepFirst category owners records).kept.map Package.id).Nodup := by
  induction records generalizing owners with
  | nil => exact List.nodup_nil
  | cons first rest inductionHypothesis =>
      unfold keepFirst
      cases held : ownerOf first.id owners with
      | none =>
          dsimp only
          rw [List.map_cons, List.nodup_cons]
          refine ⟨fun again => ?_, inductionHypothesis _⟩
          obtain ⟨record, kept, same⟩ := List.mem_map.1 again
          have unheld := keepFirst_kept_unheld category _ rest record kept
          simp [ownerOf, same] at unheld
      | some owner => exact inductionHypothesis owners

/-- Nothing is dropped where the identities are different and none is held. -/
theorem keepFirst_of_unheld (category : Category) {owners : Owners} {records : List Package}
    (unheld : ∀ record ∈ records, ownerOf record.id owners = none)
    (distinct : (records.map Package.id).Nodup) :
    (keepFirst category owners records).kept = records ∧
      (keepFirst category owners records).dropped = [] := by
  induction records generalizing owners with
  | nil => exact ⟨rfl, rfl⟩
  | cons first rest inductionHypothesis =>
      rw [List.map_cons, List.nodup_cons] at distinct
      obtain ⟨apart, distinct⟩ := distinct
      have later : ∀ record ∈ rest, ownerOf record.id ((first.id, category) :: owners) = none := by
        intro record member
        have different : first.id ≠ record.id := fun same =>
          apart (List.mem_map.2 ⟨record, member, same.symm⟩)
        rw [ownerOf, if_neg different]
        exact unheld record (List.mem_cons_of_mem _ member)
      obtain ⟨kept, dropped⟩ := inductionHypothesis later distinct
      unfold keepFirst
      rw [unheld first List.mem_cons_self]
      exact ⟨congrArg (first :: ·) kept, dropped⟩

/-- The identities that are held where a category has come to the end of the entries in front: those
of the categories above, and those of its own entries. -/
def HoldsFront (tagged before : List Tagged) (category : Category) (owners : Owners) : Prop :=
  ∀ id, ownerOf id owners = none ↔ Unclaimed tagged category id ∧
    ∀ earlier ∈ before, earlier.1 = category → earlier.2.id ≠ id

namespace HoldsFront

variable {before rest : List Tagged} {owners : Owners} {entry : Tagged}

theorem wins_iff (holds : HoldsFront tagged before category owners)
    (split : tagged = before ++ rest) (here : entry.1 = category) :
    Wins tagged before.length entry ↔ ownerOf entry.2.id owners = none := by
  have front : tagged.take before.length = before := by
    rw [split, List.take_left]
  rw [Wins, front, here, holds entry.2.id]

/-- The category comes to an entry of its own, and holds its identity from there on. -/
theorem claim (holds : HoldsFront tagged before category owners) (here : entry.1 = category) :
    HoldsFront tagged (before ++ [entry]) category ((entry.2.id, category) :: owners) := by
  intro id
  rw [List.forall_mem_append, List.forall_mem_singleton, ← and_assoc, ← holds id, ownerOf]
  by_cases same : entry.2.id = id <;> simp [same, here]

/-- The category comes to an entry that is none of its own, or whose identity is held already. -/
theorem pass (holds : HoldsFront tagged before category owners)
    (held : entry.1 = category → ownerOf entry.2.id owners ≠ none) :
    HoldsFront tagged (before ++ [entry]) category owners := by
  intro id
  rw [List.forall_mem_append, List.forall_mem_singleton, ← and_assoc, ← holds id, iff_self_and]
  rintro unheld here rfl
  exact held here unheld

end HoldsFront

/-- What a category keeps of the rest of the list are its winners there. What it drops are its
losers, each with the category that held its identity before, or else with the category itself. -/
theorem keepFirst_tagged? {before rest : List Tagged} {owners : Owners}
    (split : tagged = before ++ rest) (holds : HoldsFront tagged before category owners) :
    (keepFirst category owners (tagged? category rest)).kept =
      ((rest.zipIdx before.length).filter fun spot =>
        decide (spot.1.1 = category ∧ Wins tagged spot.2 spot.1)).map (fun spot => spot.1.2) ∧
    (keepFirst category owners (tagged? category rest)).dropped =
      ((rest.zipIdx before.length).filter fun spot =>
        decide (spot.1.1 = category ∧ ¬ Wins tagged spot.2 spot.1)).map fun spot =>
          ⟨spot.1.2.id, (ownerOf spot.1.2.id owners).getD category, category⟩ := by
  induction rest generalizing before owners with
  | nil => exact ⟨rfl, rfl⟩
  | cons entry rest inductionHypothesis =>
      have splitLater : tagged = (before ++ [entry]) ++ rest := by
        rw [split, List.append_assoc, List.singleton_append]
      have length : before.length + 1 = (before ++ [entry]).length := by simp
      rw [List.zipIdx_cons, List.filter_cons, List.filter_cons, length]
      by_cases here : entry.1 = category
      · have listed : tagged? category (entry :: rest) = entry.2 :: tagged? category rest := by
          simp [tagged?, here]
        have wins := holds.wins_iff split here
        rw [listed, keepFirst]
        cases held : ownerOf entry.2.id owners with
        | none =>
            obtain ⟨kept, dropped⟩ := inductionHypothesis splitLater (holds.claim here)
            -- The identity that is added was not held, so the category itself counts as before.
            have claimed : ∀ id, (ownerOf id ((entry.2.id, category) :: owners)).getD category =
                (ownerOf id owners).getD category := by
              intro id
              rw [ownerOf]
              by_cases same : entry.2.id = id
              · rw [if_pos same, ← same, held]
                rfl
              · rw [if_neg same]
            simp only [claimed] at dropped
            simp only [here, wins, held, not_true_eq_false, and_true, and_false, decide_true,
              decide_false, if_true, Bool.false_eq_true, if_false, List.map_cons]
            exact ⟨congrArg (entry.2 :: ·) kept, dropped⟩
        | some owner =>
            have passed := holds.pass fun _ => by rw [held]; exact Option.some_ne_none owner
            obtain ⟨kept, dropped⟩ := inductionHypothesis splitLater passed
            simp only [here, wins, held, reduceCtorEq, not_false_eq_true, and_true, and_false,
              decide_true, decide_false, if_true, Bool.false_eq_true, if_false, List.map_cons,
              Option.getD_some]
            exact ⟨kept, congrArg (_ :: ·) dropped⟩
      · have listed : tagged? category (entry :: rest) = tagged? category rest := by
          simp [tagged?, here]
        have passed := holds.pass fun same => absurd same here
        simp only [listed, here, false_and, decide_false, Bool.false_eq_true, if_false]
        exact inductionHypothesis splitLater passed

/-! ## The sorted collection -/

theorem on_ofTagged (tagged : List Tagged) (category : Category) :
    (ofTagged tagged).on category =
      (keepFirst category (ownersAbove tagged category) (tagged? category tagged)).kept := by
  cases category <;> rfl

theorem sort_dropped (tagged : List Tagged) :
    (sort tagged).2 = Category.all.flatMap fun category =>
      (keepFirst category (ownersAbove tagged category) (tagged? category tagged)).dropped := by
  simp only [Category.all, List.flatMap_cons, List.flatMap_nil, List.append_nil,
    ← List.append_assoc]
  rfl

theorem holdsFront_nil (tagged : List Tagged) (category : Category) :
    HoldsFront tagged [] category (ownersAbove tagged category) := by
  intro id
  simp [ownerOf_ownersAbove_eq_none_iff]

theorem on_ofTagged_eq_winners (tagged : List Tagged) (category : Category) :
    (ofTagged tagged).on category = winners tagged category := by
  have whole : tagged = [] ++ tagged := rfl
  rw [on_ofTagged, winners]
  exact (keepFirst_tagged? whole (holdsFront_nil tagged category)).1

theorem dropped_eq_losers (tagged : List Tagged) (category : Category) :
    (keepFirst category (ownersAbove tagged category) (tagged? category tagged)).dropped =
      (losers tagged category).map fun record =>
        ⟨record.id, (ownerOf record.id (ownersAbove tagged category)).getD category, category⟩ := by
  have whole : tagged = [] ++ tagged := rfl
  rw [losers, List.map_map]
  exact (keepFirst_tagged? whole (holdsFront_nil tagged category)).2

theorem mem_winners_iff :
    record ∈ winners tagged category ↔ Unclaimed tagged category record.id ∧
      (tagged.find? fun entry => decide (entry.1 = category ∧ entry.2.id = record.id)) =
        some (category, record) := by
  rw [winners, List.mem_map, List.find?_eq_some_iff_getElem]
  constructor
  · rintro ⟨⟨entry, place⟩, member, rfl⟩
    obtain ⟨listed, here, unclaimed, first⟩ :=
      (List.mem_filter.1 member).imp_right of_decide_eq_true
    have found := List.mk_mem_zipIdx_iff_getElem?.1 listed
    obtain ⟨within, atPlace⟩ := List.getElem?_eq_some_iff.1 found
    dsimp only at here
    subst here
    refine ⟨unclaimed, by simp, place, within, atPlace, fun earlier before => ?_⟩
    have inFront : tagged[earlier] ∈ tagged.take place :=
      List.mem_take_iff_getElem.2 ⟨earlier, by omega, rfl⟩
    have apart := first _ inFront
    simpa [imp_iff_not_or] using apart
  · rintro ⟨unclaimed, -, place, within, atPlace, first⟩
    refine ⟨((category, record), place), List.mem_filter.2 ⟨?_, ?_⟩, rfl⟩
    · rw [List.mk_mem_zipIdx_iff_getElem?, List.getElem?_eq_getElem within, atPlace]
    · refine decide_eq_true ⟨rfl, unclaimed, fun earlier inFront => ?_⟩
      obtain ⟨number, before, rfl⟩ := List.mem_take_iff_getElem.1 inFront
      have apart := first number (by omega)
      simpa [imp_iff_not_or] using apart

theorem mem_on_ofTagged_iff :
    record ∈ (ofTagged tagged).on category ↔ Unclaimed tagged category record.id ∧
      (tagged.find? fun entry => decide (entry.1 = category ∧ entry.2.id = record.id)) =
        some (category, record) := by
  rw [on_ofTagged_eq_winners, mem_winners_iff]

theorem mem_of_mem_on_ofTagged (kept : record ∈ (ofTagged tagged).on category) :
    (category, record) ∈ tagged :=
  List.mem_of_find?_eq_some (mem_on_ofTagged_iff.1 kept).2

/-- An identity is kept in one category only. -/
theorem category_unique {other : Category} {left right : Package}
    (kept : left ∈ (ofTagged tagged).on category) (keptToo : right ∈ (ofTagged tagged).on other)
    (same : left.id = right.id) : category = other := by
  have below := (mem_on_ofTagged_iff.1 kept).1 _ (mem_of_mem_on_ofTagged keptToo) same.symm
  have above := (mem_on_ofTagged_iff.1 keptToo).1 _ (mem_of_mem_on_ofTagged kept) same
  exact rank_injective (Nat.le_antisymm below above)

theorem ids_eq_flatMap (shelves : Shelves) :
    shelves.ids = Category.all.flatMap fun category => (shelves.on category).map Package.id := by
  rw [ids, records, List.map_flatMap]

theorem ids_ofTagged_nodup (tagged : List Tagged) : (ofTagged tagged).ids.Nodup := by
  rw [ids_eq_flatMap, List.nodup_flatMap]
  constructor
  · intro category _
    rw [on_ofTagged]
    exact keepFirst_kept_nodup _ _ _
  · have different : Category.all.Nodup := by decide
    refine different.imp fun {left right} apart id heldLeft heldRight => apart ?_
    obtain ⟨record, kept, rfl⟩ := List.mem_map.1 heldLeft
    obtain ⟨other, keptToo, same⟩ := List.mem_map.1 heldRight
    exact category_unique kept keptToo same.symm

/-- A reported identity is unclaimed by the categories above the highest one that reports it. -/
theorem exists_unclaimed {entry : Tagged} (member : entry ∈ tagged) :
    ∃ winner ∈ tagged, winner.2.id = entry.2.id ∧ Unclaimed tagged winner.1 entry.2.id := by
  generalize bound : entry.1.rank = rank
  induction rank using Nat.strongRecOn generalizing entry with
  | ind rank inductionHypothesis =>
      by_cases unclaimed : Unclaimed tagged entry.1 entry.2.id
      · exact ⟨entry, member, rfl, unclaimed⟩
      · simp only [Unclaimed, not_forall, Nat.not_le] at unclaimed
        obtain ⟨higher, listed, same, above⟩ := unclaimed
        obtain ⟨winner, found, sameToo, highest⟩ :=
          inductionHypothesis higher.1.rank (bound ▸ above) listed rfl
        exact ⟨winner, found, sameToo.trans same, same ▸ highest⟩

/-- The highest category that reports an identity keeps it. -/
theorem exists_kept_of_unclaimed {entry : Tagged} (member : entry ∈ tagged)
    (unclaimed : Unclaimed tagged entry.1 entry.2.id) :
    ∃ record ∈ (ofTagged tagged).on entry.1, record.id = entry.2.id := by
  have reported : (tagged.find? fun other =>
      decide (other.1 = entry.1 ∧ other.2.id = entry.2.id)).isSome = true := by
    rw [List.find?_isSome]
    exact ⟨entry, member, decide_eq_true ⟨rfl, rfl⟩⟩
  obtain ⟨first, found⟩ := Option.isSome_iff_exists.1 reported
  have bears : first.1 = entry.1 ∧ first.2.id = entry.2.id := by
    simpa using List.find?_some found
  refine ⟨first.2, ?_, bears.2⟩
  rw [mem_on_ofTagged_iff, bears.2, found, ← bears.1]
  exact ⟨bears.1 ▸ unclaimed, rfl⟩

theorem mem_ids_ofTagged_iff :
    id ∈ (ofTagged tagged).ids ↔ ∃ entry ∈ tagged, entry.2.id = id := by
  simp only [ids_eq_flatMap, List.mem_flatMap, List.mem_map]
  constructor
  · rintro ⟨category, -, record, kept, same⟩
    exact ⟨(category, record), mem_of_mem_on_ofTagged kept, same⟩
  · rintro ⟨entry, member, rfl⟩
    obtain ⟨winner, listed, same, unclaimed⟩ := exists_unclaimed member
    rw [← same] at unclaimed ⊢
    exact ⟨winner.1, winner.1.mem_all, exists_kept_of_unclaimed listed unclaimed⟩

/-! ## Sorting again -/

theorem mem_tagged_iff {shelves : Shelves} {entry : Tagged} :
    entry ∈ shelves.tagged ↔ entry.2 ∈ shelves.on entry.1 := by
  simp only [Shelves.tagged, List.mem_flatMap, List.mem_map]
  constructor
  · rintro ⟨category, -, record, kept, rfl⟩
    exact kept
  · intro kept
    exact ⟨entry.1, entry.1.mem_all, entry.2, kept, rfl⟩

theorem tagged?_tagged (shelves : Shelves) (category : Category) :
    tagged? category shelves.tagged = shelves.on category := by
  have own : ∀ records : List Package, tagged? category (records.map (category, ·)) = records := by
    intro records
    simp [tagged?, List.filterMap_map]
  have others : ∀ (other : Category) (records : List Package), other ≠ category →
      tagged? category (records.map (other, ·)) = [] := by
    intro other records different
    simp [tagged?, different]
  have parts : tagged? category shelves.tagged =
      Category.all.flatMap fun other => tagged? category ((shelves.on other).map (other, ·)) := by
    simp [tagged?, Shelves.tagged, List.filterMap_flatMap]
  rw [parts]
  cases category <;>
    simp only [Category.all, List.flatMap_cons, List.flatMap_nil, own, others, ne_eq, reduceCtorEq,
      not_false_eq_true, List.append_nil, List.nil_append]

/-- A collection without duplicates is sorted already. -/
theorem sort_tagged_of_sorted (tagged : List Tagged) :
    sort (ofTagged tagged).tagged = (ofTagged tagged, []) := by
  have settled : ∀ category,
      (keepFirst category (ownersAbove (ofTagged tagged).tagged category)
        ((ofTagged tagged).on category)).kept = (ofTagged tagged).on category ∧
      (keepFirst category (ownersAbove (ofTagged tagged).tagged category)
        ((ofTagged tagged).on category)).dropped = [] := by
    intro category
    refine keepFirst_of_unheld category (fun record kept => ?_) ?_
    · rw [ownerOf_ownersAbove_eq_none_iff]
      intro other listed same
      exact Nat.le_of_eq (congrArg Category.rank
        (category_unique kept (mem_tagged_iff.1 listed) same.symm))
    · rw [on_ofTagged]
      exact keepFirst_kept_nodup _ _ _
  refine Prod.ext (ext_on fun category => ?_) ?_
  · change (ofTagged (ofTagged tagged).tagged).on category = _
    rw [on_ofTagged, tagged?_tagged]
    exact (settled category).1
  · rw [sort_dropped]
    refine List.flatMap_eq_nil_iff.2 fun category _ => ?_
    rw [tagged?_tagged]
    exact (settled category).2

/-- **Sorting goes by precedence.** Each category holds, in the order of the list, the records that
are the first of their identity in it and whose identity no higher category reports. So the
identities of the list are the ones of the collection, each once; the record that keeps one is the
first in the highest category that reports it; and sorting the collection again changes nothing and
drops nothing. -/
theorem sorts_by_precedence (tagged : List Tagged) :
    (∀ category, (ofTagged tagged).on category = winners tagged category) ∧
    (ofTagged tagged).ids.Nodup ∧
    (∀ id, id ∈ (ofTagged tagged).ids ↔ ∃ entry ∈ tagged, entry.2.id = id) ∧
    (∀ category record, record ∈ (ofTagged tagged).on category ↔
      Unclaimed tagged category record.id ∧
        (tagged.find? fun entry => decide (entry.1 = category ∧ entry.2.id = record.id)) =
          some (category, record)) ∧
    sort (ofTagged tagged).tagged = (ofTagged tagged, []) :=
  ⟨on_ofTagged_eq_winners tagged, ids_ofTagged_nodup tagged, fun _ => mem_ids_ofTagged_iff,
    fun _ _ => mem_on_ofTagged_iff, sort_tagged_of_sorted tagged⟩

/-- A game that is reported twice as installed and once as downloaded, in this order. -/
example :
    let game (version : String) : Package :=
      ⟨⟨"template.os", "chess"⟩, some ⟨none, none, none, none, some version⟩⟩
    let shell : Package := ⟨⟨"sys", "terminal"⟩, none⟩
    sort [(.installed, game "1"), (.installed, shell), (.installed, game "2"),
        (.downloaded, game "3"), (.downloaded, game "4")] =
      (⟨[game "3"], [shell], [], []⟩,
        [⟨⟨"template.os", "chess"⟩, .downloaded, .downloaded⟩,
          ⟨⟨"template.os", "chess"⟩, .downloaded, .installed⟩,
          ⟨⟨"template.os", "chess"⟩, .downloaded, .installed⟩]) := by
  decide

end PackageStore.Shelves
