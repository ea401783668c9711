/-!
Contract: finite maps that remember the order of first insertion.

Owns: insertion, which keeps the place of a key that is present and replaces its value, look-up,
and the laws that say what an insertion does to the keys and to look-up.
-/

set_option autoImplicit false

namespace PackageStore

/-- Entries with pairwise different keys, in order of first insertion. -/
structure OrderedMap (κ α : Type) where
  entries : List (κ × α)
  distinct : (entries.map Prod.fst).Nodup
deriving Repr

namespace OrderedMap

variable {κ α : Type} [DecidableEq κ]

def empty : OrderedMap κ α :=
  ⟨[], List.nodup_nil⟩

def keys (map : OrderedMap κ α) : List κ :=
  map.entries.map Prod.fst

def size (map : OrderedMap κ α) : Nat :=
  map.entries.length

/-- The entries with one value replaced, or with a new entry at the end. -/
def insertEntry (key : κ) (value : α) : List (κ × α) → List (κ × α)
  | [] => [(key, value)]
  | entry :: rest =>
      if entry.1 = key then (key, value) :: rest else entry :: insertEntry key value rest

theorem keys_insertEntry (key : κ) (value : α) (entries : List (κ × α)) :
    (insertEntry key value entries).map Prod.fst =
      if key ∈ entries.map Prod.fst then entries.map Prod.fst
      else entries.map Prod.fst ++ [key] := by
  induction entries with
  | nil => simp [insertEntry]
  | cons entry rest inductionHypothesis =>
      by_cases here : entry.1 = key
      · simp [insertEntry, here]
      · have there : ¬ key = entry.1 := fun equal => here equal.symm
        by_cases later : key ∈ rest.map Prod.fst
        · simp only [later, if_true] at inductionHypothesis
          simp only [insertEntry, here, if_false, List.map_cons, inductionHypothesis,
            List.mem_cons, there, later, or_true, if_true]
        · simp only [later, if_false] at inductionHypothesis
          simp only [insertEntry, here, if_false, List.map_cons, inductionHypothesis,
            List.mem_cons, there, later, or_false, List.cons_append]

def insert (map : OrderedMap κ α) (key : κ) (value : α) : OrderedMap κ α where
  entries := insertEntry key value map.entries
  distinct := by
    rw [keys_insertEntry]
    by_cases present : key ∈ map.entries.map Prod.fst
    · rw [if_pos present]
      exact map.distinct
    · rw [if_neg present, List.nodup_append]
      refine ⟨map.distinct, by simp, ?_⟩
      intro first member second last equal
      rw [List.mem_singleton.1 last] at equal
      exact present (equal ▸ member)

/-- The map of entries inserted one after another. -/
def ofList (entries : List (κ × α)) : OrderedMap κ α :=
  entries.foldl (fun map entry => map.insert entry.1 entry.2) empty

/-- The map with every value replaced in view of its key. -/
def mapEntries {β : Type} (f : κ → α → β) (map : OrderedMap κ α) : OrderedMap κ β where
  entries := map.entries.map fun entry => (entry.1, f entry.1 entry.2)
  distinct := by
    rw [List.map_map]
    exact map.distinct

/-- The map with every value replaced. -/
def mapValues {β : Type} (f : α → β) (map : OrderedMap κ α) : OrderedMap κ β :=
  map.mapEntries fun _ => f

/-- The value under a key among entries. -/
def find (key : κ) : List (κ × α) → Option α
  | [] => none
  | entry :: rest => if entry.1 = key then some entry.2 else find key rest

def get? (map : OrderedMap κ α) (key : κ) : Option α :=
  find key map.entries

def contains (map : OrderedMap κ α) (key : κ) : Bool :=
  (map.get? key).isSome

theorem find_insertEntry (key other : κ) (value : α) (entries : List (κ × α)) :
    find other (insertEntry key value entries) =
      if key = other then some value else find other entries := by
  induction entries with
  | nil => simp [insertEntry, find]
  | cons entry rest inductionHypothesis =>
      by_cases here : entry.1 = key
      · by_cases same : key = other
        · simp [insertEntry, find, here, same]
        · simp [insertEntry, find, here, same]
      · by_cases same : key = other
        · subst same
          simp [insertEntry, find, here, inductionHypothesis]
        · simp [insertEntry, find, here, inductionHypothesis, same]

theorem get?_insert (map : OrderedMap κ α) (key other : κ) (value : α) :
    (map.insert key value).get? other = if key = other then some value else map.get? other :=
  find_insertEntry key other value map.entries

theorem mem_of_find {key : κ} {value : α} {entries : List (κ × α)}
    (found : find key entries = some value) : (key, value) ∈ entries := by
  induction entries with
  | nil => cases found
  | cons entry rest inductionHypothesis =>
      rw [find] at found
      split at found
      next here =>
        cases found
        rw [← here]
        exact List.mem_cons_self
      next => exact List.mem_cons_of_mem _ (inductionHypothesis found)

theorem mem_entries_of_get? {map : OrderedMap κ α} {key : κ} {value : α}
    (found : map.get? key = some value) : (key, value) ∈ map.entries :=
  mem_of_find found

theorem mem_keys_of_get? {map : OrderedMap κ α} {key : κ} {value : α}
    (found : map.get? key = some value) : key ∈ map.keys :=
  List.mem_map_of_mem (mem_entries_of_get? found)

theorem keys_insert (map : OrderedMap κ α) (key : κ) (value : α) :
    (map.insert key value).keys =
      if key ∈ map.keys then map.keys else map.keys ++ [key] :=
  keys_insertEntry key value map.entries

@[simp] theorem get?_empty (key : κ) : (empty : OrderedMap κ α).get? key = none := rfl

omit [DecidableEq κ] in
@[simp] theorem keys_empty : (empty : OrderedMap κ α).keys = [] := rfl

/-- Whether two maps hold the same entries, in whatever order. -/
def sameEntries [DecidableEq α] (left right : OrderedMap κ α) : Bool :=
  left.size == right.size && left.entries.all fun entry => right.get? entry.1 = some entry.2

end OrderedMap

end PackageStore
