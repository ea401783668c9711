import PackageStore.Number.Binary64
import PackageStore.Text.CodePoint

/-!
Contract: values of the JSON data format.

Owns: the values, with integers and floating-point numbers kept apart, and objects as members in
order of first occurrence.
-/

set_option autoImplicit false

namespace PackageStore

inductive Json where
  | null
  | bool (value : Bool)
  | int (value : Int)
  | float (value : Binary64)
  | string (value : Text)
  | array (items : List Json)
  | object (members : List (Text × Json))
deriving Repr, Inhabited

namespace Json

/-- Adds a member. A name that is present keeps its place and takes the new value. -/
def insertMember (name : Text) (value : Json) :
    List (Text × Json) → List (Text × Json)
  | [] => [(name, value)]
  | (other, old) :: rest =>
      if other = name then (other, value) :: rest
      else (other, old) :: insertMember name value rest

/-- The object whose members were written in this order. -/
def ofMembers (written : List (Text × Json)) : Json :=
  .object (written.foldl (fun members member => insertMember member.1 member.2 members) [])

/-- The value of the member `name`. -/
def lookup (name : String) : List (Text × Json) → Option Json
  | [] => none
  | (other, value) :: rest =>
      if other = .ofString name then some value else lookup name rest

/-- The member `name` of an object. -/
def member? (name : String) : Json → Option Json
  | .object members => lookup name members
  | _ => none

def text (value : String) : Json :=
  .string (.ofString value)

def string? : Json → Option Text
  | .string value => some value
  | _ => none

/-- The text that the value is, if no lone surrogate stands in it. -/
def text? (value : Json) : Option String :=
  value.string?.bind Text.plain?

@[simp] theorem text?_string (value : Text) : (string value).text? = value.plain? := rfl

@[simp] theorem text?_text (value : String) : (text value).text? = some value :=
  Text.plain?_ofString value

def int? : Json → Option Int
  | .int value => some value
  | _ => none

def bool? : Json → Option Bool
  | .bool value => some value
  | _ => none

def items? : Json → Option (List Json)
  | .array items => some items
  | _ => none

/-- The value, with null read as no value. -/
def present? : Json → Option Json
  | .null => none
  | value => some value

end Json

end PackageStore
