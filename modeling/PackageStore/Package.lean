import PackageStore.Text.Fold

/-!
Contract: packages and the categories they are kept in.

Owns: identities, descriptive fields, records, the four categories in order of precedence, and the
test whether a record answers a search.
-/

set_option autoImplicit false

namespace PackageStore

/-- Who published a package and under which name. -/
structure Identity where
  publisher : Text
  package : Text
deriving DecidableEq, Repr, Inhabited

/-- The key under which a package is displayed. -/
def Identity.text (id : Identity) : Text :=
  id.package ++ ":" ++ id.publisher

/-- What the registry says about a package. -/
structure Metadata where
  name : Option Text
  description : Option Text
  image : Option Text
  externalUrl : Option Text
  currentVersion : Option Text
deriving DecidableEq, Repr, Inhabited

structure Package where
  id : Identity
  metadata : Option Metadata
deriving DecidableEq, Repr, Inhabited

namespace Package

def description (record : Package) : Option Text :=
  record.metadata.bind Metadata.description

/-- Whether the record answers a search that is already folded: the search stands in the folded
name of the package or in its folded description. The empty search is answered by every record. -/
def answers (record : Package) (folded : List CodePoint) : Bool :=
  folded.isEmpty
    || Text.contains folded (Text.foldText record.id.package.codes)
    || record.description.any fun text => Text.contains folded (Text.foldText text.codes)

end Package

/-- The folded form of a search; no search is the empty one. -/
def foldQuery (query : Option Text) : List CodePoint :=
  Text.foldText (query.getD "").codes

/-- The categories, the one of highest precedence first. -/
inductive Category where
  | downloaded
  | installed
  | localOnly
  | system
deriving DecidableEq, Repr, Inhabited

namespace Category

def all : List Category :=
  [.downloaded, .installed, .localOnly, .system]

/-- The place in the order of precedence, the highest first. -/
def rank : Category → Nat
  | .downloaded => 0
  | .installed => 1
  | .localOnly => 2
  | .system => 3

def name : Category → String
  | .downloaded => "downloaded"
  | .installed => "installed"
  | .localOnly => "local"
  | .system => "system"

def ofName? (name : String) : Option Category :=
  all.find? (·.name == name)

theorem mem_all (category : Category) : category ∈ all := by
  cases category <;> decide

end Category

/-- A record with the category it was reported in. -/
abbrev Tagged := Category × Package

end PackageStore
