import PackageStore.Number.Numeral

/-!
Contract: characters that a URL spells with escapes.

Owns: which characters stand for themselves in a host, in a path and in a query, and the escape of
any other one: a percent sign and two capital hexadecimal digits for each byte of its UTF-8 form.
The percent sign stands for itself, so that escaping a text again changes nothing.
-/

set_option autoImplicit false

namespace PackageStore.Url

/-- Whether a character of ASCII has a shape of its own. -/
def isVisible (c : Char) : Bool :=
  '!' ≤ c && c ≤ '~'

def isQueryCharacter (c : Char) : Bool :=
  isVisible c && ['"', '#', '<', '>'].all (· != c)

def isPathCharacter (c : Char) : Bool :=
  isQueryCharacter c && ['?', '`', '\x7b', '\x7d'].all (· != c)

def isHostCharacter (c : Char) : Bool :=
  isVisible c && ['#', '/', ':', '<', '>', '?', '@', '[', ']', '^'].all (· != c)

/-- The capital hexadecimal digit of a number below 16. -/
def hexCapital (number : Nat) : Char :=
  if number < 10 then Char.ofNat (48 + number) else Char.ofNat (55 + number)

def escapeByte (byte : UInt8) : List Char :=
  ['%', hexCapital (byte.toNat / 16), hexCapital (byte.toNat % 16)]

def escapeChar (c : Char) : List Char :=
  (String.singleton c).toUTF8.toList.flatMap escapeByte

/-- The text with an escape for each character that does not stand for itself. -/
def escape (standsForItself : Char → Bool) (text : List Char) : List Char :=
  text.flatMap fun c => if standsForItself c then [c] else escapeChar c

end PackageStore.Url
