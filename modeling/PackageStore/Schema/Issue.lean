/-!
Contract: what is wrong with a value that should have a given shape.

Owns: the kinds of issues with their codes and texts, where in the value an issue stands, and the
one-line summary of a list of issues.
-/

set_option autoImplicit false

namespace PackageStore.Schema

/-- A step from a value into one of its parts. -/
inductive Step where
  | field (name : String)
  | index (position : Nat)
  | chain (number : Int)
deriving DecidableEq, Repr

inductive IssueKind where
  | missing
  | notAString
  | notUnicode
  | notAList
  | notADictionary
  | notAModel (model : String)
  | notAnInteger
  | unreadableInteger
  | integerTooLong
  | fractionalInteger
  | notFinite
  | notANumber
  | unreadableNumber
  | refused (reason : String)
deriving DecidableEq, Repr

namespace IssueKind

def code : IssueKind → String
  | .missing => "missing"
  | .notAString => "string_type"
  | .notUnicode => "string_unicode"
  | .notAList => "list_type"
  | .notADictionary => "dict_type"
  | .notAModel _ => "model_type"
  | .notAnInteger => "int_type"
  | .unreadableInteger => "int_parsing"
  | .integerTooLong => "int_parsing_size"
  | .fractionalInteger => "int_from_float"
  | .notFinite => "finite_number"
  | .notANumber => "float_type"
  | .unreadableNumber => "float_parsing"
  | .refused _ => "value_error"

def text : IssueKind → String
  | .missing => "Field required"
  | .notAString => "Input should be a valid string"
  | .notUnicode =>
      "Input should be a valid string, unable to parse raw data as a unicode string"
  | .notAList => "Input should be a valid list"
  | .notADictionary => "Input should be a valid dictionary"
  | .notAModel model => s!"Input should be a valid dictionary or instance of {model}"
  | .notAnInteger => "Input should be a valid integer"
  | .unreadableInteger => "Input should be a valid integer, unable to parse string as an integer"
  | .integerTooLong =>
      "Unable to parse input string as an integer, exceeded maximum size"
  | .fractionalInteger => "Input should be a valid integer, got a number with a fractional part"
  | .notFinite => "Input should be a finite number"
  | .notANumber => "Input should be a valid number"
  | .unreadableNumber => "Input should be a valid number, unable to parse string as a number"
  | .refused reason => s!"Value error, {reason}"

end IssueKind

/-- An issue and the way from the whole value to where it stands. -/
structure Issue where
  place : List Step
  kind : IssueKind
deriving DecidableEq, Repr

/-- The issue seen from the value that holds the present one under `step`. -/
def Issue.under (step : Step) (issue : Issue) : Issue :=
  { issue with place := step :: issue.place }

/-- The first line that reports a list of issues. -/
def summary (issues : List Issue) (model : String) : String :=
  let noun := if issues.length = 1 then "error" else "errors"
  s!"{issues.length} validation {noun} for {model}"

end PackageStore.Schema
