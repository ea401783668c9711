import PackageStore.Catalog.Shelves
import PackageStore.Failure

/-!
Contract: the searchable index of the user's packages.

Owns: the collection with its version, the query, the view that answers the query, and the error
of the last refresh. A refresh that succeeds replaces the collection, one that fails keeps it. The
view is computed again only when the version or the folded query has changed.
-/

set_option autoImplicit false

namespace PackageStore

/-- Which object a view is: the collection of a version itself, or a search result by number. -/
inductive ViewOrigin where
  | whole (version : Nat)
  | found (serial : Nat)
deriving DecidableEq, Repr

structure View where
  shelves : Shelves
  origin : ViewOrigin
deriving DecidableEq, Repr

structure Catalog where
  version : Nat
  shelves : Shelves
  query : Text
  view : View
  /-- The version and the folded query that the view was computed for. -/
  viewKey : Nat × List CodePoint
  /-- How many search results were computed. -/
  searches : Nat
  lastError : Option FetchFault
deriving Repr

/-- The outcome of a refresh: the version in force, and the error if the refresh failed. -/
structure RefreshReport where
  version : Nat
  error : Option FetchFault
deriving DecidableEq, Repr

namespace RefreshReport

def ok (result : RefreshReport) : Bool :=
  result.error.isNone

def statusName (result : RefreshReport) : String :=
  if result.ok then "ok" else "failed"

end RefreshReport

namespace Catalog

def empty : Catalog where
  version := 0
  shelves := .empty
  query := ""
  view := ⟨.empty, .whole 0⟩
  viewKey := (0, [])
  searches := 0
  lastError := none

/-- Whether the view is the collection itself. -/
def viewIsWhole (catalog : Catalog) : Bool :=
  catalog.view.origin = .whole catalog.version

/-- Brings the view up to date. -/
def updateView (catalog : Catalog) : Catalog :=
  let folded := foldQuery (some catalog.query)
  if (catalog.version, folded) = catalog.viewKey then catalog
  else
    match catalog.shelves.found? (some catalog.query) with
    | none =>
        { catalog with
          view := ⟨catalog.shelves, .whole catalog.version⟩
          viewKey := (catalog.version, folded) }
    | some shelves =>
        { catalog with
          view := ⟨shelves, .found catalog.searches⟩
          viewKey := (catalog.version, folded)
          searches := catalog.searches + 1 }

/-- Stores a query; no query is the empty one. -/
def setQuery (catalog : Catalog) (query : Option Text) : Catalog :=
  updateView { catalog with query := query.getD "" }

/-- A refresh failed. -/
def fail (catalog : Catalog) (fault : FetchFault) : Catalog × RefreshReport × LogLine :=
  ({ catalog with lastError := some fault },
    { version := catalog.version, error := some fault },
    ⟨.error, s!"Catalog refresh failed, keeping version {catalog.version}: {fault.message}"⟩)

/-- A refresh received its packages. -/
def replace (catalog : Catalog) (tagged : List Tagged) :
    Catalog × RefreshReport × List LogLine :=
  let (shelves, dropped) := Shelves.sort tagged
  let replaced := updateView
    { catalog with shelves, version := catalog.version + 1, lastError := none }
  (replaced, { version := replaced.version, error := none },
    dropped.map (fun duplicate => ⟨.warning, duplicate.text⟩) ++
      [⟨.info, s!"Catalog refreshed to version {replaced.version} with {shelves.total} packages"⟩])

/-- Completes a refresh with what the registry answered. A failure that is no failed fetch is
reported as an unexpected one. -/
def complete (catalog : Catalog) (answer : Except Failure (List Tagged)) :
    Catalog × RefreshReport × List LogLine :=
  match answer with
  | .ok tagged => catalog.replace tagged
  | .error (.fetch fault) =>
      let (catalog, result, line) := catalog.fail fault
      (catalog, result, [line])
  | .error failure =>
      let (catalog, result, line) := catalog.fail (.unexpected failure.message)
      (catalog, result, [⟨.error, "Unexpected registry failure"⟩, line])

end Catalog

end PackageStore
