import PackageStore.Hash.Keccak
import PackageStore.Json.Shown

/-!
Contract: the entries of a description of the interface of a contract.

Owns: the signature of an entry, made of its name and the types of its parameters; the order of
entries by name and number of parameters; and what is wrong with an entry.

Does not own: whether the entries make a description.
-/

set_option autoImplicit false

namespace PackageStore.Abi

/-! ## Faults -/

/-- What is wrong with an entry. -/
inductive EntryFault where
  | missing (key : String)
  /-- A value in the place of a list. -/
  | notAList (value : Json)
  /-- A value of which items are counted. -/
  | uncountable (value : Json)
  | notAParameter (value : Json)
  | untyped (type : Json)
  | incomparable (left right : Json)
  /-- A signature with the null character. -/
  | nullCharacter
  | unusableName (name : Json)
  | nameNotText (name : Json)
deriving Repr, Inhabited

def EntryFault.message : EntryFault → String
  | .missing key => Text.quoted key
  | .notAList value => s!"'{value.kindName}' object is not iterable"
  | .uncountable value => s!"object of type '{value.kindName}' has no len()"
  | .notAParameter value => s!"'{value.kindName}' object has no attribute 'get'"
  | .untyped type =>
      s!"The 'type' must be a string, but got {type.shown} of type <class '{type.kindName}'>"
  | .incomparable left right =>
      s!"'<' not supported between instances of '{left.kindName}' and '{right.kindName}'"
  | .nullCharacter => "type name must not contain null characters"
  | .unusableName name => s!"unhashable type: '{name.kindName}'"
  | .nameNotText name => s!"attribute name must be string, not '{name.kindName}'"

/-! ## Parameters -/

/-- The items of a value: those of a list, the characters of a text, the names of an object. -/
def items? : Json → Option (List Json)
  | .array items => some items
  | .string text => some (text.codes.map fun code => .string ⟨[code]⟩)
  | .object members => some (members.map fun member => .string member.1)
  | _ => none

/-- The parameters of an entry, as they were written. -/
def inputs (entry : Json) : Json :=
  (entry.member? "inputs").getD (.array [])

/-- Texts with commas between them. -/
def listed (texts : List (List CodePoint)) : List CodePoint :=
  List.intercalate [44] texts

/-- The texts between brackets. -/
def bracketed (texts : List (List CodePoint)) : List CodePoint :=
  40 :: listed texts ++ [41]

/-- The start of the type of a tuple. -/
def tupleMark : List CodePoint :=
  "tuple".toList.map Char.toNat

mutual

/-- The type of a parameter; a tuple is spelled with the types of its components. A text stands for
itself. -/
def parameterType : Json → Except EntryFault (List CodePoint)
  | .string text => .ok text.codes
  | .object members =>
      match Json.lookup "type" members with
      | some (.string text) =>
          if tupleMark.isPrefixOf text.codes then
            (componentTypes members).map fun types =>
              bracketed types ++ text.codes.drop tupleMark.length
          else .ok text.codes
      | type => .error (.untyped (type.getD .null))
  | value => .error (.notAParameter value)

/-- The types of the components among the members of a tuple. -/
def componentTypes : List (Text × Json) → Except EntryFault (List (List CodePoint))
  | [] => .error (.missing "components")
  | (name, value) :: rest =>
      if name = .ofString "components" then itemTypes value else componentTypes rest

/-- The types of the items of a value. -/
def itemTypes : Json → Except EntryFault (List (List CodePoint))
  | .array items => parameterTypes items
  | .string text => .ok (text.codes.map fun code => [code])
  | .object members => .ok (members.map fun member => member.1.codes)
  | value => .error (.notAList value)

/-- The types of parameters. -/
def parameterTypes : List Json → Except EntryFault (List (List CodePoint))
  | [] => .ok []
  | item :: rest =>
      match parameterType item, parameterTypes rest with
      | .error fault, _ => .error fault
      | .ok _, .error fault => .error fault
      | .ok type, .ok types => .ok (type :: types)

end

/-- Whether a value has members, as parameters have. -/
def hasMembers : Json → Bool
  | .object _ => true
  | _ => false

/-- What is wrong with the parameters of an entry whose names are asked for. -/
def namesFault? (entry : Json) : Option EntryFault :=
  match items? (inputs entry) with
  | none => some (.notAList (inputs entry))
  | some parameters =>
      (parameters.find? (!hasMembers ·)).map .notAParameter

/-! ## Entries -/

def hasType (type : String) (entry : Json) : Bool :=
  (entry.member? "type").bind Json.text? == some type

/-- The name of an entry as part of its signature; the type stands for a name that is missing. -/
def signatureName (entry : Json) : List CodePoint :=
  match (entry.member? "name").orElse fun _ => entry.member? "type" with
  | some (.string name) => name.codes
  | some name => name.shown.toList.map Char.toNat
  | none => []

/-- The name and the types of the parameters. -/
def signature (entry : Json) : Except EntryFault (List CodePoint) :=
  (itemTypes (inputs entry)).map fun types => signatureName entry ++ bracketed types

/-- The first bytes of the hash of a signature, without its spaces; none if the signature is no
text. -/
def selector? (signature : List CodePoint) : Option (List UInt8) :=
  if signature.any CodePoint.isSurrogate then none
  else
    let text := String.ofList ((signature.filter (· != 32)).map Char.ofNat)
    some ((Keccak.hash256 text.toUTF8.toList).take 4)

/-! ## Order -/

/-- An entry with its name and the number of its parameters. -/
structure Member where
  entry : Json
  name : Json
  size : Nat
deriving Repr, Inhabited

def Member.ofEntry (entry : Json) : Except EntryFault Member :=
  match entry.member? "name" with
  | none => .error (.missing "name")
  | some name =>
      match items? (inputs entry) with
      | none => .error (.uncountable (inputs entry))
      | some items => .ok ⟨entry, name, items.length⟩

/-- The whole number that a name is. -/
def wholeName? : Json → Option Int
  | .int number => some number
  | .bool value => some (if value then 1 else 0)
  | _ => none

/-- How one name compares with another. Numbers with a fraction and lists keep the order in which
they stand. -/
def compareNames (left right : Json) : Except EntryFault Ordering :=
  match left, right with
  | .string left, .string right => .ok (compare left.codes right.codes)
  | .array _, .array _ => .ok .eq
  | .float _, .float _ => .ok .eq
  | left, right =>
      match wholeName? left, wholeName? right with
      | some left, some right => .ok (compare left right)
      | some _, none =>
          if right matches .float _ then .ok .eq else .error (.incomparable left right)
      | none, some _ =>
          if left matches .float _ then .ok .eq else .error (.incomparable left right)
      | none, none =>
          if left.shown = right.shown then .ok .eq else .error (.incomparable left right)

/-- Whether one entry stands in front of another. -/
def Member.precedes (left right : Member) : Except EntryFault Bool :=
  (compareNames left.name right.name).map fun order =>
    order.then (compare left.size right.size) == .lt

/-- Puts a member behind those that it does not precede. The members are given from their end. -/
def Member.insert (member : Member) : List Member → Except EntryFault (List Member)
  | [] => .ok [member]
  | last :: before =>
      match member.precedes last with
      | .error fault => .error fault
      | .ok true => (insert member before).map (last :: ·)
      | .ok false => .ok (member :: last :: before)

/-- Entries in the order of their names, and of the numbers of their parameters where the names
are equal. -/
def sorted (entries : List Json) : Except EntryFault (List Member) :=
  match entries.mapM Member.ofEntry with
  | .error fault => .error fault
  | .ok members =>
      (members.foldlM (fun done (member : Member) => member.insert done) []).map List.reverse

end PackageStore.Abi
