import PackageStore.Number.Numeral
import PackageStore.OrderedMap
import PackageStore.Schema.Checked

/-!
Contract: checking values that may be converted.

Owns: integers and numbers, which truth values and texts may stand for, and maps from integers to
texts. A floating-point number stands for an integer when it has no fraction and fits in 64 bits.
-/

set_option autoImplicit false

namespace PackageStore.Schema

open Checked

def checkInteger : Json → Checked Int
  | .int value => .ok value
  | .bool value => .ok (if value then 1 else 0)
  | .float value =>
      match value.truncate? with
      | none => fault .notFinite
      | some whole =>
          if !value.isIntegral then fault .fractionalInteger
          else if whole.natAbs < Nat.pow 2 63 then .ok whole
          else fault .integerTooLong
  | .string text =>
      match text.plain? with
      | none => fault .notUnicode
      | some numeral =>
          match Number.readIntegerText numeral.toList with
          | .number value => .ok value
          | .tooLong => fault .integerTooLong
          | .unreadable => fault .unreadableInteger
  | _ => fault .notAnInteger

def checkNumber : Json → Checked Binary64
  | .float value => .ok value
  | .bool value => .ok (.ofInt (if value then 1 else 0))
  | .int value =>
      match Binary64.ofInt value with
      | .infinite _ => fault .notANumber
      | number => .ok number
  | .string text =>
      match text.plain? with
      | none => fault .notUnicode
      | some numeral =>
          match Number.readDecimalText numeral.toList with
          | some value => .ok value
          | none => fault .unreadableNumber
  | _ => fault .notANumber

/-- The step into a member. Issues show its name with substitutes for lone surrogates. -/
def memberStep (name : Text) : Step :=
  .field (Text.legible name.codes)

/-- Checks the members of a map from integers to texts. -/
def checkEntries : List (Text × Json) → Checked (List (Int × Text))
  | [] => .ok []
  | (name, value) :: rest =>
      both (· :: ·)
        (under (memberStep name)
          (both Prod.mk (under (.field "[key]") (checkInteger (.string name))) (checkText value)))
        (checkEntries rest)

/-- A map from integers to texts. Of members with equal keys the first gives the place and the
last the value. -/
def checkIntegerMap : Json → Checked (OrderedMap Int Text)
  | .object members => (checkEntries members).map OrderedMap.ofList
  | _ => fault .notADictionary

end PackageStore.Schema
