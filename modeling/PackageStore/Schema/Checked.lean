import PackageStore.Json.Basic
import PackageStore.Schema.Issue

/-!
Contract: checking that a value has a given shape, with every issue reported.

Owns: the result of a check, how results of parts combine, and the checks of strings, of lists and
of fields that may be absent.
-/

set_option autoImplicit false

namespace PackageStore.Schema

/-- What was read from a value, or all issues in the order of the parts. -/
abbrev Checked (α : Type) := Except (List Issue) α

namespace Checked

variable {α β γ : Type}

/-- A single issue with the value as a whole. -/
def fault (kind : IssueKind) : Checked α :=
  .error [⟨[], kind⟩]

/-- Combines the results of two parts. The issues of both are kept. -/
def both (combine : α → β → γ) (left : Checked α) (right : Checked β) : Checked γ :=
  match left, right with
  | .ok first, .ok second => .ok (combine first second)
  | .error issues, .ok _ => .error issues
  | .ok _, .error issues => .error issues
  | .error first, .error second => .error (first ++ second)

/-- The result seen from the value that holds the present one under `step`. -/
def under (step : Step) (checked : Checked α) : Checked α :=
  match checked with
  | .ok value => .ok value
  | .error issues => .error (issues.map (Issue.under step))

/-- Checks the items of a list, counted from `position`. -/
def items (check : Json → Checked α) (position : Nat) : List Json → Checked (List α)
  | [] => .ok []
  | item :: rest =>
      both (· :: ·) (under (.index position) (check item)) (items check (position + 1) rest)

end Checked

open Checked

/-- A text. A string with lone surrogates is one too, and no string is changed. -/
def checkText : Json → Checked Text
  | .string text => .ok text
  | _ => fault .notAString

/-- A text, or null for none. -/
def checkOptionalText : Json → Checked (Option Text)
  | .null => .ok none
  | value => (checkText value).map some

def checkList {α : Type} (check : Json → Checked α) : Json → Checked (List α)
  | .array values => items check 0 values
  | _ => fault .notAList

/-- The field `name` among members, which has to be there. -/
def required {α : Type} (name : String) (check : Json → Checked α)
    (members : List (Text × Json)) : Checked α :=
  under (.field name) <|
    match Json.lookup name members with
    | some value => check value
    | none => fault .missing

/-- The field `name` among members, with a value for its absence. -/
def optional {α : Type} (name : String) (absent : α) (check : Json → Checked α)
    (members : List (Text × Json)) : Checked α :=
  match Json.lookup name members with
  | some value => under (.field name) (check value)
  | none => .ok absent

end PackageStore.Schema
