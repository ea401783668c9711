import Mathlib.Data.List.Induction
import PackageStore.OrderedMap

/-!
Contract: maps that are filled entry by entry.

Owns: the keys of a filled map, in the order of their first occurrence; the value under a key, which
is that of the last entry; that a map is determined by its keys in order and by what is found under
them; and that filling with the entries of a filled map is filling with the entries themselves.

Keys and values follow opposite rules, first occurrence and last entry. So neither determines where
an entry stands among all entries, and two fillings are compared by both of them and never entry by
entry.
-/

set_option autoImplicit false

namespace PackageStore.OrderedMap

/-! ## First occurrences -/

section FirstOccurrence

variable {α : Type} [DecidableEq α]

theorem eraseDups_concat (items : List α) (item : α) :
    (items ++ [item]).eraseDups =
      if item ∈ items then items.eraseDups else items.eraseDups ++ [item] := by
  have single : [item].eraseDups = [item] := rfl
  rw [List.eraseDups_append]
  by_cases present : item ∈ items <;> simp [List.removeAll, present, single]

theorem eraseDups_eq_self {items : List α} (distinct : items.Nodup) :
    items.eraseDups = items := by
  induction items using List.reverseRecOn with
  | nil => rfl
  | append_singleton items item inductionHypothesis =>
      rw [List.nodup_append] at distinct
      obtain ⟨before, _, apart⟩ := distinct
      have fresh : item ∉ items := fun present =>
        apart item present item (List.mem_singleton_self item) rfl
      rw [eraseDups_concat, if_neg fresh, inductionHypothesis before]

/-- What is repeated at the end does not matter. -/
theorem eraseDups_append_eraseDups (first second : List α) :
    (first ++ second.eraseDups).eraseDups = (first ++ second).eraseDups := by
  induction second using List.reverseRecOn with
  | nil => rfl
  | append_singleton items item inductionHypothesis =>
      rw [eraseDups_concat, ← List.append_assoc, eraseDups_concat]
      by_cases present : item ∈ items
      · rw [if_pos present, if_pos (List.mem_append_right first present), inductionHypothesis]
      · have same : item ∈ first ++ items.eraseDups ↔ item ∈ first ++ items := by
          rw [List.mem_append, List.mem_append, List.mem_eraseDups]
        rw [if_neg present, ← List.append_assoc, eraseDups_concat, inductionHypothesis]
        exact if_congr same rfl rfl

/-- What is there already keeps its place, and the rest comes behind it. -/
theorem eraseDups_append_of_nodup {first : List α} (distinct : first.Nodup) (second : List α) :
    (first ++ second).eraseDups = first ++ (second.filter (· ∉ first)).eraseDups := by
  rw [List.eraseDups_append, eraseDups_eq_self distinct]
  congr 2
  apply List.filter_congr
  intro item _
  simp

/-- What is looked for is found at a first occurrence. -/
theorem findSome?_eraseDups {β : Type} (found? : α → Option β) (items : List α) :
    items.eraseDups.findSome? found? = items.findSome? found? := by
  induction items using List.reverseRecOn with
  | nil => rfl
  | append_singleton items item inductionHypothesis =>
      rw [eraseDups_concat, List.findSome?_append]
      by_cases present : item ∈ items
      · rw [if_pos present, inductionHypothesis]
        cases earlier : items.findSome? found? with
        | some found => rfl
        | none => simp [List.findSome?_eq_none_iff.1 earlier item present]
      · rw [if_neg present, List.findSome?_append, inductionHypothesis]

end FirstOccurrence

/-! ## The last entry of a key -/

section LastEntry

variable {κ α : Type} [DecidableEq κ] {entries : List (κ × α)} {key : κ} {value : α}

/-- The value of the last entry with this key. -/
def last? (key : κ) (entries : List (κ × α)) : Option α :=
  (entries.findRev? fun entry => entry.1 = key).map Prod.snd

theorem last?_append (key : κ) (first second : List (κ × α)) :
    last? key (first ++ second) = (last? key second).or (last? key first) := by
  simp only [last?, List.findRev?_eq_find?_reverse, List.reverse_append, List.find?_append,
    Option.map_or]

theorem last?_singleton (key : κ) (entry : κ × α) :
    last? key [entry] = if entry.1 = key then some entry.2 else none := by
  by_cases here : entry.1 = key <;> simp [last?, List.findRev?, here]

theorem mem_of_last? (found : last? key entries = some value) : (key, value) ∈ entries := by
  rw [last?, Option.map_eq_some_iff] at found
  obtain ⟨entry, known, rfl⟩ := found
  rw [List.findRev?_eq_find?_reverse] at known
  have here := List.find?_some known
  rw [← of_decide_eq_true here]
  exact List.mem_reverse.1 (List.mem_of_find?_eq_some known)

theorem last?_eq_none_iff : last? key entries = none ↔ key ∉ entries.map Prod.fst := by
  rw [last?, Option.map_eq_none_iff, List.findRev?_eq_find?_reverse, List.find?_eq_none]
  simp only [List.mem_reverse, decide_eq_true_eq, List.mem_map, not_exists, not_and]

end LastEntry

/-! ## Filled maps -/

section Filled

variable {κ α β : Type} [DecidableEq κ]

/-- The map with entries inserted one after another. -/
def insertAll (map : OrderedMap κ α) (entries : List (κ × α)) : OrderedMap κ α :=
  entries.foldl (fun map entry => map.insert entry.1 entry.2) map

theorem insertAll_append (map : OrderedMap κ α) (first second : List (κ × α)) :
    map.insertAll (first ++ second) = (map.insertAll first).insertAll second :=
  List.foldl_append ..

theorem insertAll_concat (map : OrderedMap κ α) (entries : List (κ × α)) (entry : κ × α) :
    map.insertAll (entries ++ [entry]) = (map.insertAll entries).insert entry.1 entry.2 :=
  map.insertAll_append entries [entry]

omit [DecidableEq κ] in
theorem nodup_keys (map : OrderedMap κ α) : map.keys.Nodup :=
  map.distinct

/-- The keys stand in the order in which they first occur. -/
theorem keys_insertAll (map : OrderedMap κ α) (entries : List (κ × α)) :
    (map.insertAll entries).keys = (map.keys ++ entries.map Prod.fst).eraseDups := by
  induction entries using List.reverseRecOn with
  | nil =>
      rw [List.map_nil, List.append_nil, eraseDups_eq_self map.nodup_keys]
      rfl
  | append_singleton entries entry inductionHypothesis =>
      rw [insertAll_concat, keys_insert, inductionHypothesis, List.map_append, List.map_singleton,
        ← List.append_assoc, eraseDups_concat]
      exact if_congr List.mem_eraseDups rfl rfl

/-- Under a key stands the value of its last entry, or what stood there before. -/
theorem get?_insertAll (map : OrderedMap κ α) (entries : List (κ × α)) (key : κ) :
    (map.insertAll entries).get? key = (last? key entries).or (map.get? key) := by
  induction entries using List.reverseRecOn with
  | nil => rfl
  | append_singleton entries entry inductionHypothesis =>
      rw [insertAll_concat, get?_insert, inductionHypothesis, last?_append, last?_singleton]
      by_cases here : entry.1 = key <;> simp [here]

/-! ## What determines a map -/

theorem find_eq_some_of_mem {entries : List (κ × α)} (distinct : (entries.map Prod.fst).Nodup)
    {entry : κ × α} (member : entry ∈ entries) : find entry.1 entries = some entry.2 := by
  induction entries with
  | nil => cases member
  | cons head rest inductionHypothesis =>
      rw [List.map_cons, List.nodup_cons] at distinct
      rcases List.mem_cons.1 member with rfl | later
      · rw [find, if_pos rfl]
      · have apart : head.1 ≠ entry.1 := fun same =>
          distinct.1 (same ▸ List.mem_map_of_mem later)
        rw [find, if_neg apart, inductionHypothesis distinct.2 later]

theorem get?_of_mem (map : OrderedMap κ α) {entry : κ × α} (member : entry ∈ map.entries) :
    map.get? entry.1 = some entry.2 :=
  find_eq_some_of_mem map.distinct member

theorem ext_get? {left right : OrderedMap κ α} (keys : left.keys = right.keys)
    (values : ∀ key, left.get? key = right.get? key) : left = right := by
  have lengths : left.entries.length = right.entries.length := by
    have same := congrArg List.length keys
    rwa [OrderedMap.keys, OrderedMap.keys, List.length_map, List.length_map] at same
  have entries : left.entries = right.entries := by
    refine List.ext_getElem lengths ?_
    intro place inLeft inRight
    have key : left.entries[place].1 = right.entries[place].1 := by
      have same := congrArg (·[place]?) keys
      simpa [OrderedMap.keys, inLeft, inRight] using same
    have value := values left.entries[place].1
    rw [left.get?_of_mem (List.getElem_mem inLeft), key,
      right.get?_of_mem (List.getElem_mem inRight)] at value
    exact Prod.ext key (Option.some.inj value)
  cases left
  cases right
  cases entries
  rfl

/-- Among the entries of a map, the last one of a key is the only one. -/
theorem last?_entries (map : OrderedMap κ α) (key : κ) : last? key map.entries = map.get? key := by
  cases found : last? key map.entries with
  | some value => exact (map.get?_of_mem (mem_of_last? found)).symm
  | none =>
      cases known : map.get? key with
      | none => rfl
      | some value => exact absurd (mem_keys_of_get? known) (last?_eq_none_iff.1 found)

/-- Filling with the entries of a filled map is filling with the entries themselves. -/
theorem insertAll_entries_ofList (map : OrderedMap κ α) (entries : List (κ × α)) :
    map.insertAll (ofList entries).entries = map.insertAll entries := by
  have filled : ofList entries = empty.insertAll entries := rfl
  apply ext_get?
  · have keys : (ofList entries).entries.map Prod.fst = (entries.map Prod.fst).eraseDups :=
      empty.keys_insertAll entries
    rw [keys_insertAll, keys_insertAll, keys, eraseDups_append_eraseDups]
  · intro key
    rw [get?_insertAll, get?_insertAll, last?_entries, filled, get?_insertAll, get?_empty,
      Option.or_none]

/-- A map is filled from its own entries. -/
theorem ofList_entries (map : OrderedMap κ α) : ofList map.entries = map := by
  apply ext_get?
  · have filled : (ofList map.entries).keys = map.keys.eraseDups := empty.keys_insertAll map.entries
    rw [filled, eraseDups_eq_self map.nodup_keys]
  · intro key
    have filled : (ofList map.entries).get? key = (last? key map.entries).or none :=
      empty.get?_insertAll map.entries key
    rw [filled, last?_entries, Option.or_none]

/-- A map filled with its own entries is the same map. -/
theorem insertAll_entries (map : OrderedMap κ α) : map.insertAll map.entries = map := by
  apply ext_get?
  · have none : map.keys.filter (· ∉ map.keys) = [] :=
      List.filter_eq_nil_iff.2 fun key present => by simp [present]
    have again : (map.keys ++ map.keys).eraseDups = map.keys := by
      rw [eraseDups_append_of_nodup map.nodup_keys, none, List.eraseDups_nil, List.append_nil]
    exact (map.keys_insertAll map.entries).trans again
  · intro key
    rw [get?_insertAll, last?_entries, Option.or_self]

/-! ## Replaced values -/

omit [DecidableEq κ] in
@[simp] theorem keys_mapEntries (f : κ → α → β) (map : OrderedMap κ α) :
    (map.mapEntries f).keys = map.keys :=
  List.map_map ..

theorem find_map (f : κ → α → β) (key : κ) (entries : List (κ × α)) :
    find key (entries.map fun entry => (entry.1, f entry.1 entry.2)) =
      (find key entries).map (f key) := by
  induction entries with
  | nil => rfl
  | cons entry rest inductionHypothesis =>
      by_cases here : entry.1 = key
      · simp [find, here]
      · simpa [find, here] using inductionHypothesis

@[simp] theorem get?_mapEntries (f : κ → α → β) (map : OrderedMap κ α) (key : κ) :
    (map.mapEntries f).get? key = (map.get? key).map (f key) :=
  find_map f key map.entries

omit [DecidableEq κ] in
@[simp] theorem keys_mapValues (f : α → β) (map : OrderedMap κ α) :
    (map.mapValues f).keys = map.keys :=
  keys_mapEntries _ map

@[simp] theorem get?_mapValues (f : α → β) (map : OrderedMap κ α) (key : κ) :
    (map.mapValues f).get? key = (map.get? key).map f :=
  get?_mapEntries _ map key

end Filled

end PackageStore.OrderedMap
