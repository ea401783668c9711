import PackageStore.Abi.Entry
import PackageStore.Json.Reader

/-!
Contract: descriptions of the interface of a contract.

Owns: which descriptions can be used. A description is a list of entries, each of which has a type,
and may be written as a document. No two functions have one selector, no entry takes a name that
handles use themselves, functions and events have names under which a handle can offer them, and
parameters have types.

Does not own: the encoding of calls.
-/

set_option autoImplicit false

namespace PackageStore.Abi

/-! ## Faults -/

/-- What is wrong with a description. -/
inductive Fault where
  /-- It is no list of typed entries, or two functions share a selector. -/
  | malformed (description : Json)
  /-- The type of a parameter of a function cannot be told. -/
  | misshapen (description : Json)
  /-- An entry has a name of the handle's own. -/
  | reserved (name : String)
  | entry (fault : EntryFault)
deriving Repr, Inhabited

def Fault.message : Fault → String
  | .malformed description => s!"Could not format invalid value {description.shown} as field 'abi'"
  | .misshapen description => s!"Could not format invalid type {description.shown} as field 'abi'"
  | .reserved name =>
      s!"Contract contains a reserved word `{name}` and could not be instantiated."
  | .entry fault => fault.message

/-! ## Lists of entries -/

/-- Whether a description says nothing: null, false, zero, or without content. -/
def saysNothing : Json → Bool
  | .null => true
  | .bool value => !value
  | .int number => number == 0
  | .float number => number.equalsInt 0
  | .string text => text.codes.isEmpty
  | .array entries => entries.isEmpty
  | .object members => members.isEmpty

/-- The list that a description is, or is written as. -/
def list? : Json → Option (List Json)
  | .array entries => some entries
  | value =>
      match value.text?.map Json.ofText with
      | some (.ok value) => value.items?
      | _ => none

/-- The selector of a function of a description. -/
def selector (description function : Json) : Except Fault (List UInt8) :=
  match signature function with
  | .error (.untyped _) => .error (.misshapen description)
  | .error (.notAList _) => .error (.misshapen description)
  | .error fault => .error (.entry fault)
  | .ok signature =>
      match selector? signature with
      | some bytes => .ok bytes
      | none => .error (.malformed description)

/-- The typed entries of a description, of which no two functions share a selector. -/
def entries (description : Json) : Except Fault (List Json) :=
  match list? description with
  | none => .error (.malformed description)
  | some entries =>
      if entries.all fun entry => (entry.member? "type").isSome then
        match (entries.filter (hasType "function")).mapM (selector description) with
        | .error fault => .error fault
        | .ok selectors =>
            if selectors.eraseDups.length < selectors.length then .error (.malformed description)
            else .ok entries
      else .error (.malformed description)

/-! ## Handles -/

/-- The names that handles use themselves. -/
def reservedNames : List String := ["abi", "address"]

/-- The first reserved name among entries. -/
def reservedName? (entries : List Json) : Option String :=
  entries.findSome? fun entry =>
    ((entry.member? "name").bind Json.text?).filter reservedNames.contains

/-- Why a handle cannot offer an entry under a name. -/
def nameFault? : Json → Option EntryFault
  | .string _ => none
  | .array items => some (.unusableName (.array items))
  | .object members => some (.unusableName (.object members))
  | name => some (.nameNotText name)

/-- Why a handle cannot offer a function or an event. -/
def memberFault? (member : Member) : Option EntryFault :=
  match signature member.entry with
  | .error fault => some fault
  | .ok signature =>
      if signature.contains 0 then some .nullCharacter
      else (namesFault? member.entry).orElse fun _ => nameFault? member.name

/-- Why a handle cannot offer the entries of one type, which it takes in order. -/
def membersFault? (type : String) (entries : List Json) : Option EntryFault :=
  match sorted (entries.filter (hasType type)) with
  | .error fault => some fault
  | .ok members => members.findSome? memberFault?

/-- Why a handle cannot offer the first entry of a type that has no name. -/
def namelessFault? (type : String) (entries : List Json) : Option EntryFault :=
  (entries.find? (hasType type)).bind fun entry =>
    (namesFault? entry).orElse fun _ =>
      match itemTypes (inputs entry) with
      | .error fault => some fault
      | .ok _ => none

/-- What is wrong with a handle for entries, if anything is. -/
def handleFault? (entries : List Json) : Option Fault :=
  match reservedName? entries with
  | some name => some (.reserved name)
  | none =>
      let fault := (membersFault? "function" entries).orElse fun _ =>
        (membersFault? "event" entries).orElse fun _ =>
          (namelessFault? "fallback" entries).orElse fun _ => namelessFault? "receive" entries
      fault.map .entry

/-- The entries of a description that can be used. One that says nothing has none. -/
def read (description : Json) : Except Fault (List Json) :=
  if saysNothing description then .ok []
  else
    match entries description with
    | .error fault => .error fault
    | .ok entries =>
        match handleFault? entries with
        | some fault => .error fault
        | none => .ok entries

end PackageStore.Abi
