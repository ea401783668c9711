import PackageStore.Number.Binary64
import PackageStore.Number.Integer

/-!
Contract: numbers given as text in a configuration.

Owns: the grammar of integer texts and of decimal texts. Both may be padded with blanks or hold
underscores between other characters. An integer text may have a plus or a minus, leading zeros,
and a fraction of zeros only. A decimal text may have an exponent, or name an infinity or
not-a-number.
-/

set_option autoImplicit false

namespace PackageStore.Number

def isAsciiDigit (c : Char) : Bool :=
  '0' ≤ c && c ≤ '9'

/-- Whether two underscores stand side by side. -/
def hasDoubleUnderscore : List Char → Bool
  | '_' :: '_' :: _ => true
  | _ :: rest => hasDoubleUnderscore rest
  | [] => false

/-- The text without underscores. None may stand at an end or beside another one; a text where
one does is left as it is. -/
def dropUnderscores (text : List Char) : List Char :=
  if text.head? = some '_' || text.getLast? = some '_' || hasDoubleUnderscore text then text
  else text.filter (· != '_')

/-- The text without the zeros, and underscores between them, that lead it; the last of them
stays in front of a point or at the end. The zeros may lead a minus too. A text that starts with
anything but a digit, or whose leading zeros end elsewhere, has no such form. -/
def dropLeadingZeros : List Char → Option (List Char)
  | '0' :: rest =>
      let leading := '0' :: rest.takeWhile fun c => c == '0' || c == '_'
      let last := leading.getLastD '0'
      match rest.dropWhile fun c => c == '0' || c == '_' with
      | [] => some [last]
      | '.' :: fraction => some (last :: '.' :: fraction)
      | c :: digits => if c = '-' || isAsciiDigit c then some (c :: digits) else none
  | c :: rest => if isAsciiDigit c then some (c :: rest) else none
  | [] => none

/-- The text in front of the point when zeros, and nothing else, stand behind it. -/
def dropZeroFraction (text : List Char) : List Char :=
  let fraction := (text.dropWhile (· != '.')).drop 1
  if !fraction.isEmpty && fraction.all (· == '0') then text.takeWhile (· != '.') else text

/-- What an integer text stands for. -/
inductive IntegerReading where
  | number (value : Int)
  | tooLong
  | unreadable
deriving DecidableEq, Repr

/-- The digit values of a text of ASCII digits only, at least one. -/
def asciiDigits? (text : List Char) : Option (List Nat) :=
  if !text.isEmpty && text.all isAsciiDigit then some (text.map fun c => c.toNat - 48) else none

/-- The sign and the digit values of a plain integer: perhaps a minus, then digits of which the
first is zero only if it stands alone. -/
def plainInteger? (text : List Char) : Option (Bool × List Nat) :=
  let (negative, body) :=
    match text with
    | '-' :: rest => (true, rest)
    | rest => (false, rest)
  match asciiDigits? body with
  | some (0 :: _ :: _) => none
  | some digits => some (negative, digits)
  | none => none

/-- The unsigned part of an integer text, without leading zeros, fraction and underscores. -/
def cleanedDigits (text : List Char) : Option (List Char) :=
  (dropLeadingZeros text).map fun digits => dropUnderscores (dropZeroFraction digits)

/-- The plain integer that an integer text spells with more characters. -/
def cleanedInteger (text : List Char) : Option (List Char) :=
  match Text.trimBy isPadding text with
  | '+' :: '-' :: _ => none
  | '+' :: rest => cleanedDigits rest
  | '-' :: rest => (cleanedDigits rest).map ('-' :: ·)
  | rest => cleanedDigits rest

/-- Whether a text starts like a plain integer of more than `maxDigits` characters, a minus
counted. What stands behind the digits does not matter. -/
def startsTooLong (text : List Char) : Bool :=
  let (sign, body) :=
    match text with
    | '-' :: rest => (1, rest)
    | rest => (0, rest)
  let digits := body.takeWhile isAsciiDigit
  digits.head? != some '0' && maxDigits < sign + digits.length

def signedNumber (negative : Bool) (digits : List Nat) : Int :=
  if negative then -(ofDigits digits : Int) else ofDigits digits

/-- The number that a plain integer stands for. -/
def readPlainInteger (text : List Char) : Option Int :=
  (plainInteger? text).map fun (negative, digits) => signedNumber negative digits

/-- Reads an integer text. -/
def readIntegerText (text : List Char) : IntegerReading :=
  if startsTooLong text then .tooLong
  else
    match readPlainInteger text with
    | some value => .number value
    | none =>
        match cleanedInteger text with
        | some cleaned =>
            if startsTooLong cleaned then .unreadable
            else (readPlainInteger cleaned).elim .unreadable .number
        | none => .unreadable

/-- The sign in front of a text, and the rest. -/
def splitSign : List Char → Bool × List Char
  | '-' :: rest => (true, rest)
  | '+' :: rest => (false, rest)
  | text => (false, text)

/-- The exponent that a text consists of: a mark, perhaps a sign, and digits. No text is zero. -/
def readExponentText : List Char → Option Int
  | [] => some 0
  | mark :: rest =>
      if mark = 'e' || mark = 'E' then
        let (negative, digits) := splitSign rest
        (asciiDigits? digits).map (signedNumber negative)
      else none

/-- The value of an unsigned decimal numeral: digits before or behind a point, and an exponent. -/
def readDecimalDigits (negative : Bool) (text : List Char) : Option Binary64 :=
  let whole := text.takeWhile isAsciiDigit
  let afterWhole := text.dropWhile isAsciiDigit
  let (fraction, rest) :=
    match afterWhole with
    | '.' :: more => (more.takeWhile isAsciiDigit, more.dropWhile isAsciiDigit)
    | _ => ([], afterWhole)
  let digits := whole ++ fraction
  if digits.isEmpty then none
  else
    (readExponentText rest).map fun exponent =>
      .ofDecimal negative (ofDigits (digits.map fun c => c.toNat - 48))
        (exponent - fraction.length)

/-- The value of a decimal text without padding. -/
def readBareDecimal (text : List Char) : Option Binary64 :=
  let (negative, body) := splitSign text
  let name := String.ofList (body.map Char.toLower)
  if name = "inf" || name = "infinity" then some (.infinite negative)
  else if name = "nan" then some .nan
  else readDecimalDigits negative body

/-- The value of a decimal text: either padded, or with underscores between its characters. -/
def readDecimalText (text : List Char) : Option Binary64 :=
  match readBareDecimal (Text.trimBy isPadding text) with
  | some value => some value
  | none => readBareDecimal (dropUnderscores text)

end PackageStore.Number
