import PackageStore.Package

/-!
Contract: packages sorted into the four categories.

Owns: the sorted collection, sorting a tagged list into it with the duplicates that were dropped,
and the part of a collection that answers a search.

A package is kept once: by the first record of the highest category that reports it.
-/

set_option autoImplicit false

namespace PackageStore

structure Shelves where
  downloaded : List Package
  installed : List Package
  localOnly : List Package
  system : List Package
deriving DecidableEq, Repr, Inhabited

namespace Shelves

def empty : Shelves := ⟨[], [], [], []⟩

/-- The records of one category. -/
def on (shelves : Shelves) : Category → List Package
  | .downloaded => shelves.downloaded
  | .installed => shelves.installed
  | .localOnly => shelves.localOnly
  | .system => shelves.system

/-- The collection with given records in each category. -/
def ofFunction (records : Category → List Package) : Shelves :=
  ⟨records .downloaded, records .installed, records .localOnly, records .system⟩

@[simp] theorem on_ofFunction (records : Category → List Package) (category : Category) :
    (ofFunction records).on category = records category := by
  cases category <;> rfl

theorem ext_on {left right : Shelves} (same : ∀ category, left.on category = right.on category) :
    left = right := by
  cases left
  cases right
  have downloaded := same .downloaded
  have installed := same .installed
  have localOnly := same .localOnly
  have system := same .system
  simp only [on] at downloaded installed localOnly system
  subst downloaded installed localOnly system
  rfl

/-- All records, category by category. -/
def records (shelves : Shelves) : List Package :=
  Category.all.flatMap shelves.on

/-- All records with their categories, category by category. -/
def tagged (shelves : Shelves) : List Tagged :=
  Category.all.flatMap fun category => (shelves.on category).map fun record => (category, record)

def total (shelves : Shelves) : Nat :=
  shelves.records.length

/-- All identities, category by category. -/
def ids (shelves : Shelves) : List Identity :=
  shelves.records.map Package.id

/-! ## Sorting -/

/-- A record that was dropped: its category and the one that already holds its identity. -/
structure Duplicate where
  id : Identity
  owner : Category
  category : Category
deriving DecidableEq, Repr

def Duplicate.text (duplicate : Duplicate) : Text :=
  .ofString "Package " ++ duplicate.id.text ++
    if duplicate.owner = duplicate.category then
      .ofString s!" listed twice in {duplicate.category.name}; keeping first"
    else
      .ofString <| s!" reported as both {duplicate.owner.name} and "
        ++ s!"{duplicate.category.name}; keeping {duplicate.owner.name}"

/-- The identities kept so far, each with the category that holds it. -/
abbrev Owners := List (Identity × Category)

/-- The category that holds an identity. -/
def ownerOf (id : Identity) : Owners → Option Category
  | [] => none
  | entry :: rest => if entry.1 = id then some entry.2 else ownerOf id rest

/-- What became of the records of a category. -/
structure Sorted where
  kept : List Package
  owners : Owners
  dropped : List Duplicate
deriving Repr

/-- Keeps the records of one category whose identity is not held yet. -/
def keepFirst (category : Category) (owners : Owners) : List Package → Sorted
  | [] => ⟨[], owners, []⟩
  | record :: rest =>
      match ownerOf record.id owners with
      | none =>
          let later := keepFirst category ((record.id, category) :: owners) rest
          { later with kept := record :: later.kept }
      | some owner =>
          let later := keepFirst category owners rest
          { later with dropped := ⟨record.id, owner, category⟩ :: later.dropped }

/-- The records tagged with one category, in order. -/
def tagged? (category : Category) (tagged : List Tagged) : List Package :=
  tagged.filterMap fun entry => if entry.1 = category then some entry.2 else none

/-- Sorts a tagged list. The higher categories choose first. -/
def sort (tagged : List Tagged) : Shelves × List Duplicate :=
  let first := keepFirst .downloaded [] (tagged? .downloaded tagged)
  let second := keepFirst .installed first.owners (tagged? .installed tagged)
  let third := keepFirst .localOnly second.owners (tagged? .localOnly tagged)
  let fourth := keepFirst .system third.owners (tagged? .system tagged)
  (⟨first.kept, second.kept, third.kept, fourth.kept⟩,
    first.dropped ++ second.dropped ++ third.dropped ++ fourth.dropped)

/-- The sorted collection of a tagged list. -/
def ofTagged (tagged : List Tagged) : Shelves :=
  (sort tagged).1

/-! ## Searching -/

/-- The records that answer a folded search. -/
def answering (shelves : Shelves) (folded : List CodePoint) : Shelves :=
  ofFunction fun category => (shelves.on category).filter (·.answers folded)

/-- What is built for a search: the part of the collection that answers it. For the empty search
nothing is built. -/
def found? (shelves : Shelves) (query : Option Text) : Option Shelves :=
  if (foldQuery query).isEmpty then none else some (shelves.answering (foldQuery query))

/-- The answer to a search: what is built for it, else the collection itself. -/
def search (shelves : Shelves) (query : Option Text) : Shelves :=
  (shelves.found? query).getD shelves

end Shelves

end PackageStore
