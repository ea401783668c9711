import PackageStore.Json.Shown
import PackageStore.Number.Integer
import PackageStore.Role

/-!
Contract: keys under which a deployment may be listed.

Owns: the kinds of keys, the chain that a key stands for, the keys that count as equal, and the
spelling of a key in messages.
-/

set_option autoImplicit false

namespace PackageStore

/-- A key of a listing: a chain as a number, a numeral, or something that is no chain. -/
inductive ChainKey where
  | int (value : Int)
  | float (value : Binary64)
  | bool (value : Bool)
  | text (value : String)
  | null
deriving DecidableEq, Repr, Inhabited

namespace ChainKey

/-- Why a key stands for no chain. -/
inductive Fault where
  | notAChain
  | unbounded
deriving DecidableEq, Repr

/-- The chain that a key stands for: numbers lose their fraction and texts are read as numerals. -/
def chain : ChainKey → Except Fault Chain
  | .int value => .ok value
  | .bool value => .ok (if value then 1 else 0)
  | .float value =>
      match value.truncate? with
      | some chain => .ok chain
      | none => if value = .nan then .error .notAChain else .error .unbounded
  | .text value =>
      match Number.readInteger value.toList with
      | some chain => .ok chain
      | none => .error .notAChain
  | .null => .error .notAChain

/-- Whether the key is equal to a chain as a number. -/
def denotes (chain : Chain) : ChainKey → Bool
  | .int value => value == chain
  | .bool value => (if value then 1 else 0) == chain
  | .float value => value.equalsInt chain
  | .text _ => false
  | .null => false

/-- The number that a key is, a floating-point number apart. -/
def integer? : ChainKey → Option Int
  | .int value => some value
  | .bool value => some (if value then 1 else 0)
  | _ => none

/-- Whether two keys count as one: numbers by value, other keys by identity. -/
def agrees : ChainKey → ChainKey → Bool
  | .float left, .float right => left.equals right
  | .float left, right => (right.integer?.map left.equalsInt).getD false
  | left, .float right => (left.integer?.map right.equalsInt).getD false
  | left, right =>
      match left.integer?, right.integer? with
      | some left, some right => left == right
      | none, none => left == right
      | _, _ => false

def ofJson? : Json → Option ChainKey
  | .int value => some (.int value)
  | .float value => some (.float value)
  | .bool value => some (.bool value)
  | .string value => value.plain?.map .text
  | .null => some .null
  | _ => none

def toJson : ChainKey → Json
  | .int value => .int value
  | .float value => .float value
  | .bool value => .bool value
  | .text value => .text value
  | .null => .null

/-- The key quoted inside a message. -/
def shown (key : ChainKey) : String :=
  key.toJson.shown

/-- The key as part of a sentence: a text stands there without quotes. -/
def plain : ChainKey → String
  | .text value => value
  | key => key.shown

end ChainKey

/-- Adds an entry to a listing. A key that agrees with a present one keeps that key and its place
and takes the new value. -/
def insertListed {α : Type} (key : ChainKey) (value : α) :
    List (ChainKey × α) → List (ChainKey × α)
  | [] => [(key, value)]
  | entry :: rest =>
      if entry.1.agrees key then (entry.1, value) :: rest
      else entry :: insertListed key value rest

/-- The listing of entries written in this order. -/
def listing {α : Type} (entries : List (ChainKey × α)) : List (ChainKey × α) :=
  entries.foldl (fun listed entry => insertListed entry.1 entry.2 listed) []

end PackageStore
