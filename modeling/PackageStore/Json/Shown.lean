import PackageStore.Json.Basic
import PackageStore.Number.Integer
import PackageStore.Number.Shortest

/-!
Contract: JSON values as messages show them, and as documents write them.

Owns: the spelling of values inside error messages, where strings are quoted and null reads
`None`; which values have one; the name of a value's kind; and the written form of a value as an
ASCII document.
-/

set_option autoImplicit false

namespace PackageStore.Json

/-- The spelling of a truth value in messages. -/
def shownBool (value : Bool) : String :=
  if value then "True" else "False"

mutual

/-- The value as a message shows it. -/
def shown : Json → String
  | .null => "None"
  | .bool value => shownBool value
  | .int value => toString value
  | .float value => value.text
  | .string text => Text.quotedCodes text.codes
  | .array items => "[" ++ String.intercalate ", " (shownItems items) ++ "]"
  | .object members => "\x7b" ++ String.intercalate ", " (shownMembers members) ++ "\x7d"

def shownItems : List Json → List String
  | [] => []
  | item :: rest => shown item :: shownItems rest

def shownMembers : List (Text × Json) → List String
  | [] => []
  | (name, value) :: rest =>
      (Text.quotedCodes name.codes ++ ": " ++ shown value) :: shownMembers rest

end

mutual

/-- Whether every integer inside the value can be written. -/
def isWritable : Json → Bool
  | .int value => Number.isWritable value
  | .array items => areItemsWritable items
  | .object members => areMembersWritable members
  | _ => true

def areItemsWritable : List Json → Bool
  | [] => true
  | item :: rest => isWritable item && areItemsWritable rest

def areMembersWritable : List (Text × Json) → Bool
  | [] => true
  | (_, value) :: rest => isWritable value && areMembersWritable rest

end

@[simp] theorem isWritable_string (value : Text) : (string value).isWritable = true := rfl

/-- The kind of the value, by name. -/
def kindName : Json → String
  | .null => "NoneType"
  | .bool _ => "bool"
  | .int _ => "int"
  | .float _ => "float"
  | .string _ => "str"
  | .array _ => "list"
  | .object _ => "dict"

/-- One UTF-16 unit as a four-digit escape. -/
def unitEscape (unit : Nat) : List Char :=
  '\\' :: 'u' :: Text.hexPadded 4 unit

/-- One code point of a written string. -/
def writtenCode (c : CodePoint) : List Char :=
  if c = 34 then ['\\', '"']
  else if c = 92 then ['\\', '\\']
  else if 32 ≤ c && c ≤ 126 then [Char.ofNat c]
  else if c < 0x10000 then unitEscape c
  else
    unitEscape (0xD800 + (c - 0x10000) / 0x400) ++ unitEscape (0xDC00 + (c - 0x10000) % 0x400)

def writtenString (value : Text) : String :=
  String.ofList ('"' :: value.codes.flatMap writtenCode ++ ['"'])

mutual

/-- The value as an ASCII document on one line. -/
def written : Json → String
  | .null => "null"
  | .bool value => if value then "true" else "false"
  | .int value => toString value
  | .float .nan => "NaN"
  | .float (.infinite negative) => if negative then "-Infinity" else "Infinity"
  | .float value => value.text
  | .string value => writtenString value
  | .array items => "[" ++ String.intercalate "," (writtenItems items) ++ "]"
  | .object members => "\x7b" ++ String.intercalate "," (writtenMembers members) ++ "\x7d"

def writtenItems : List Json → List String
  | [] => []
  | item :: rest => written item :: writtenItems rest

def writtenMembers : List (Text × Json) → List String
  | [] => []
  | (name, value) :: rest =>
      (writtenString name ++ ":" ++ written value) :: writtenMembers rest

end

end PackageStore.Json
