import PackageStore.Json.Encoding
import PackageStore.Number.Integer

/-!
Contract: reading JSON documents.

Owns: the reader over code points, the value of numerals and strings, and the first fault with its
place. Not-a-number and the infinities are read by name. A name that an object repeats keeps its
first place and takes its last value.
-/

set_option autoImplicit false

namespace PackageStore.Json

/-- What the reader missed. -/
inductive ReadFault where
  | value
  | name
  | colon
  | comma
  | closingQuote
  | controlCharacter
  | badEscape
  | badUnicodeEscape
  | extraData
  | tooManyDigits (count : Nat)
deriving DecidableEq, Repr

/-- A fault, and how many code points were left where it stands. -/
structure ReadStop where
  fault : ReadFault
  left : Nat
deriving DecidableEq, Repr

/-- Stops at the code points `rest`. -/
def stopAt {α : Type} (fault : ReadFault) (rest : List CodePoint) : Except ReadStop α :=
  .error { fault, left := rest.length }

def code (c : Char) : CodePoint := c.toNat

def isSpace (c : CodePoint) : Bool :=
  c == 32 || c == 9 || c == 10 || c == 13

def skipSpace (input : List CodePoint) : List CodePoint :=
  input.dropWhile isSpace

def isDigit (c : CodePoint) : Bool :=
  48 ≤ c && c ≤ 57

def hexValue? (c : CodePoint) : Option Nat :=
  if isDigit c then some (c - 48)
  else if 97 ≤ c && c ≤ 102 then some (c - 87)
  else if 65 ≤ c && c ≤ 70 then some (c - 55)
  else none

/-- The number that four hexadecimal digits spell. -/
def hex4? (a b c d : CodePoint) : Option Nat := do
  let a ← hexValue? a
  let b ← hexValue? b
  let c ← hexValue? c
  let d ← hexValue? d
  return ((a * 16 + b) * 16 + c) * 16 + d

/-- The character that a one-letter escape stands for. -/
def escape? (c : CodePoint) : Option CodePoint :=
  if c = code '"' then some (code '"')
  else if c = code '\\' then some (code '\\')
  else if c = code '/' then some (code '/')
  else if c = code 'b' then some 8
  else if c = code 'f' then some 12
  else if c = code 'n' then some 10
  else if c = code 'r' then some 13
  else if c = code 't' then some 9
  else none

/-- The number of a second escape of the four-digit form at the front of the input, if such an
escape stands there and the string goes on behind it. -/
def followingEscape : List CodePoint → Option (Option Nat)
  | 92 :: 117 :: a :: b :: c :: d :: _ :: _ => some (hex4? a b c d)
  | _ => none

/-- The body of a string, up to and with the closing quote. `opened` is what was left at the
opening quote and `codes` the string so far, last code point first. -/
def readString (opened : Nat) (codes : List CodePoint) :
    List CodePoint → Except ReadStop (List CodePoint × List CodePoint)
  | [] => .error { fault := .closingQuote, left := opened }
  | 34 :: rest => .ok (codes.reverse, rest)
  | [92] => .error { fault := .closingQuote, left := opened }
  | 92 :: 117 :: a :: b :: c :: d :: e :: rest =>
      match hex4? a b c d with
      | none => stopAt .badUnicodeEscape (117 :: a :: b :: c :: d :: e :: rest)
      | some high =>
          if isHighSurrogate high then
            match followingEscape (e :: rest) with
            | some none => stopAt .badUnicodeEscape rest
            | some (some low) =>
                if isLowSurrogate low then
                  readString opened (joinSurrogates high low :: codes) (rest.drop 5)
                else readString opened (high :: codes) (e :: rest)
            | none => readString opened (high :: codes) (e :: rest)
          else readString opened (high :: codes) (e :: rest)
  | 92 :: 117 :: rest => stopAt .badUnicodeEscape (117 :: rest)
  | 92 :: letter :: rest =>
      match escape? letter with
      | some plain => readString opened (plain :: codes) rest
      | none => stopAt .badEscape (92 :: letter :: rest)
  | c :: rest =>
      if c ≤ 31 then stopAt .controlCharacter (c :: rest)
      else readString opened (c :: codes) rest
termination_by input => input.length
decreasing_by all_goals simp [List.length_drop]; try omega

/-- The parts of a numeral: sign, digits of the integer part, and, when it is no integer, the
digits of the fraction and the exponent. -/
structure Numeral where
  negative : Bool
  whole : List CodePoint
  inexact : Option (List CodePoint × Int)
deriving DecidableEq, Repr

def digitValues (digits : List CodePoint) : List Nat :=
  digits.map (· - 48)

/-- The exponent at the front of the input, if a mark with at least one digit stands there. -/
def readExponent : List CodePoint → Option (Int × List CodePoint)
  | mark :: rest =>
      if mark = code 'e' || mark = code 'E' then
        let (negative, body) :=
          match rest with
          | sign :: more =>
              if sign = code '-' then (true, more)
              else if sign = code '+' then (false, more)
              else (false, rest)
          | [] => (false, rest)
        let digits := body.takeWhile isDigit
        if digits.isEmpty then none
        else
          let magnitude : Int := Number.ofDigits (digitValues digits)
          some (if negative then -magnitude else magnitude, body.dropWhile isDigit)
      else none
  | [] => none

/-- The fraction at the front of the input, if a point with at least one digit stands there. -/
def readFraction : List CodePoint → Option (List CodePoint × List CodePoint)
  | point :: rest =>
      let digits := rest.takeWhile isDigit
      if point = code '.' && !digits.isEmpty then some (digits, rest.dropWhile isDigit) else none
  | [] => none

/-- The numeral at the front of the input. -/
def readNumeral (input : List CodePoint) : Option (Numeral × List CodePoint) :=
  let (negative, body) :=
    match input with
    | sign :: rest => if sign = code '-' then (true, rest) else (false, input)
    | [] => (false, input)
  let (whole, afterWhole) :=
    match body with
    | first :: rest =>
        if first = code '0' then ([first], rest)
        else (body.takeWhile isDigit, body.dropWhile isDigit)
    | [] => ([], body)
  if whole.isEmpty then none
  else
    match readFraction afterWhole with
    | some (fraction, rest) =>
        match readExponent rest with
        | some (exponent, rest) => some (⟨negative, whole, some (fraction, exponent)⟩, rest)
        | none => some (⟨negative, whole, some (fraction, 0)⟩, rest)
    | none =>
        match readExponent afterWhole with
        | some (exponent, rest) => some (⟨negative, whole, some ([], exponent)⟩, rest)
        | none => some (⟨negative, whole, none⟩, afterWhole)

/-- The value of a numeral. An integer may not have more than `Number.maxDigits` digits. -/
def Numeral.value (numeral : Numeral) : Except ReadStop Json :=
  match numeral.inexact with
  | some (fraction, exponent) =>
      let digits := Number.ofDigits (digitValues (numeral.whole ++ fraction))
      .ok (.float (.ofDecimal numeral.negative digits (exponent - fraction.length)))
  | none =>
      if Number.maxDigits < numeral.whole.length then
        .error { fault := .tooManyDigits numeral.whole.length, left := 0 }
      else
        let magnitude : Int := Number.ofDigits (digitValues numeral.whole)
        .ok (.int (if numeral.negative then -magnitude else magnitude))

/-- The values that are written by name. -/
def namedValues : List (String × Json) :=
  [("null", .null), ("true", .bool true), ("false", .bool false), ("NaN", .float .nan),
    ("Infinity", .float (.infinite false)), ("-Infinity", .float (.infinite true))]

/-- The named value at the front of the input. -/
def readNamed (input : List CodePoint) : Option (Json × List CodePoint) :=
  namedValues.findSome? fun named =>
    let name := named.1.toList.map code
    if name.isPrefixOf input then some (named.2, input.drop name.length) else none

mutual

/-- The value at the front of the input. -/
def readValue (fuel : Nat) (input : List CodePoint) :
    Except ReadStop (Json × List CodePoint) :=
  match fuel with
  | 0 => stopAt .value input
  | fuel + 1 =>
      match input with
      | [] => stopAt .value input
      | first :: rest =>
          if first = code '"' then do
            let (codes, rest) ← readString input.length [] rest
            return (.string ⟨codes⟩, rest)
          else if first = code '[' then
            match skipSpace rest with
            | next :: more =>
                if next = code ']' then .ok (.array [], more)
                else readItems fuel [] (next :: more)
            | [] => stopAt .value []
          else if first = code '{' then
            match skipSpace rest with
            | next :: more =>
                if next = code '}' then .ok (.object [], more)
                else readMembers fuel [] (next :: more)
            | [] => stopAt .name []
          else
            match readNamed input with
            | some found => .ok found
            | none =>
                match readNumeral input with
                | some (numeral, rest) => do
                    let value ← numeral.value
                    return (value, rest)
                | none => stopAt .value input

/-- The items of an array from the next one on; `items` are those before, last first. -/
def readItems (fuel : Nat) (items : List Json) (input : List CodePoint) :
    Except ReadStop (Json × List CodePoint) :=
  match fuel with
  | 0 => stopAt .value input
  | fuel + 1 => do
      let (item, rest) ← readValue fuel input
      match skipSpace rest with
      | next :: more =>
          if next = code ']' then return (.array (item :: items).reverse, more)
          else if next = code ',' then readItems fuel (item :: items) (skipSpace more)
          else stopAt .comma (next :: more)
      | [] => stopAt .comma []

/-- The members of an object from the next one on; `members` are those before, last first. -/
def readMembers (fuel : Nat) (members : List (Text × Json)) (input : List CodePoint) :
    Except ReadStop (Json × List CodePoint) :=
  match fuel with
  | 0 => stopAt .value input
  | fuel + 1 =>
      match input with
      | [] => stopAt .name []
      | first :: rest =>
          if first ≠ code '"' then stopAt .name input
          else do
            let (codes, rest) ← readString input.length [] rest
            match skipSpace rest with
            | [] => stopAt .colon []
            | colon :: rest =>
                if colon ≠ code ':' then stopAt .colon (colon :: rest)
                else
                  let (value, rest) ← readValue fuel (skipSpace rest)
                  let members := (⟨codes⟩, value) :: members
                  match skipSpace rest with
                  | next :: more =>
                      if next = code '}' then return (.ofMembers members.reverse, more)
                      else if next = code ',' then readMembers fuel members (skipSpace more)
                      else stopAt .comma (next :: more)
                  | [] => stopAt .comma []

end

/-- The value of a whole document. -/
def readCodes (input : List CodePoint) : Except ReadStop Json := do
  let (value, rest) ← readValue (2 * input.length + 2) (skipSpace input)
  match skipSpace rest with
  | [] => return value
  | rest => stopAt .extraData rest

/-- Why a document has no value. -/
inductive DocumentFault where
  | undecodable (fault : DecodeFault)
  | malformed (fault : ReadFault) (line column position : Nat)
deriving DecidableEq, Repr

/-- The fault of a document, placed by line, column and position. -/
def ReadStop.locate (stop : ReadStop) (input : List CodePoint) : DocumentFault :=
  let before := input.take (input.length - stop.left)
  .malformed stop.fault (before.count 10 + 1) ((before.reverse.takeWhile (· != 10)).length + 1)
    before.length

/-- The value of a document given as code points. -/
def ofCodes (input : List CodePoint) : Except DocumentFault Json :=
  match readCodes input with
  | .ok value => .ok value
  | .error stop => .error (stop.locate input)

/-- The value of a document given as text. -/
def ofText (text : String) : Except DocumentFault Json :=
  ofCodes (text.toList.map code)

/-- The value of a document given as bytes. -/
def ofBytes (bytes : List UInt8) : Except DocumentFault Json :=
  match decode bytes with
  | .ok input => ofCodes input
  | .error fault => .error (.undecodable fault)

def ReadFault.text : ReadFault → String
  | .value => "Expecting value"
  | .name => "Expecting property name enclosed in double quotes"
  | .colon => "Expecting ':' delimiter"
  | .comma => "Expecting ',' delimiter"
  | .closingQuote => "Unterminated string starting at"
  | .controlCharacter => "Invalid control character at"
  | .badEscape => "Invalid \\escape"
  | .badUnicodeEscape => "Invalid \\uXXXX escape"
  | .extraData => "Extra data"
  | .tooManyDigits count =>
      s!"Exceeds the limit ({Number.maxDigits} digits) for integer string conversion: "
        ++ s!"value has {count} digits; use sys.set_int_max_str_digits() to increase the limit"

def DocumentFault.message : DocumentFault → String
  | .undecodable fault => fault.message
  | .malformed (.tooManyDigits count) _ _ _ => (ReadFault.tooManyDigits count).text
  | .malformed fault line column position =>
      s!"{fault.text}: line {line} column {column} (char {position})"

end PackageStore.Json
