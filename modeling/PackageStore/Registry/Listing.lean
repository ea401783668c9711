import PackageStore.Package
import PackageStore.Schema.Checked

/-!
Contract: the registry's listing of packages.

Owns: the shape of a listing. It is an object that may hold an array of packages for each
category; a package has a name, a publisher and perhaps metadata. Unknown members are ignored, and
nothing is converted: a text is a text, and a list is a list.
-/

set_option autoImplicit false

namespace PackageStore.Registry

open Schema Schema.Checked

/-- An optional text among members; null counts as absent. -/
def optionalText (name : String) (members : List (Text × Json)) :
    Checked (Option Text) :=
  optional name none checkOptionalText members

def checkMetadata : Json → Checked Metadata
  | .object members =>
      both (fun names links => ⟨names.1, names.2, links.1, links.2.1, links.2.2⟩)
        (both Prod.mk (optionalText "name" members) (optionalText "description" members))
        (both Prod.mk (optionalText "image" members)
          (both Prod.mk (optionalText "external_url" members)
            (optionalText "current_version" members)))
  | _ => fault (.notAModel "RegistryAppMetadata")

/-- Metadata, or null for none. -/
def checkOptionalMetadata : Json → Checked (Option Metadata)
  | .null => .ok none
  | value => (checkMetadata value).map some

def checkPackage : Json → Checked Package
  | .object members =>
      both (fun id metadata => ⟨id, metadata⟩)
        (both (fun package publisher => ⟨publisher, package⟩)
          (required "package" checkText members) (required "publisher" checkText members))
        (optional "metadata" none checkOptionalMetadata members)
  | _ => fault (.notAModel "RegistryApp")

/-- The packages listed under one category. -/
def checkCategory (members : List (Text × Json)) (category : Category) :
    Checked (List Tagged) :=
  (optional category.name [] (checkList checkPackage) members).map
    fun packages => packages.map fun package => (category, package)

/-- The packages of several categories, one after another. -/
def checkCategories (members : List (Text × Json)) : List Category → Checked (List Tagged)
  | [] => .ok []
  | category :: rest =>
      both (· ++ ·) (checkCategory members category) (checkCategories members rest)

/-- The packages of a listing, category by category and in the order of each array. -/
def checkListing : Json → Checked (List Tagged)
  | .object members => checkCategories members Category.all
  | _ => fault (.notAModel "RegistryAppsResponse")

end PackageStore.Registry
