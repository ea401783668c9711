import PackageStore.Text.Alphanumeric
import PackageStore.Text.Digit

/-!
Contract: texts that report a list of issues.

Owns: whether a text holds the heading of such a list, and how much of it is shown then: what
stands in front of its first line break.
-/

set_option autoImplicit false

namespace PackageStore.Schema

/-- The rest of a text behind its first characters. -/
def dropStart? (start text : List Char) : Option (List Char) :=
  if start.isPrefixOf text then some (text.drop start.length) else none

/-- Whether a text goes on, behind a number, like the heading of a list of issues: "validation
error", perhaps in the plural, "for" and the name of a model. -/
def continuesHeading (text : List Char) : Bool :=
  let behindNoun :=
    (dropStart? " validation errors".toList text).orElse fun _ =>
      dropStart? " validation error".toList text
  match behindNoun.bind (dropStart? " for ".toList) with
  | some (c :: _) => Text.isAlphanumeric c || c = '_'
  | _ => false

/-- Whether a text holds the heading of a list of issues. -/
def hasHeading : List Char → Bool
  | [] => false
  | c :: rest => ((Text.digitValue? c).isSome && continuesHeading rest) || hasHeading rest

/-- A text as reports show it: with the heading of a list of issues only its first line. -/
def shown (text : String) : String :=
  if hasHeading text.toList then String.ofList (text.toList.takeWhile (· != '\n')) else text

end PackageStore.Schema
