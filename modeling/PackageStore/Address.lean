import PackageStore.Hash.Keccak
import PackageStore.Text.Blank
import PackageStore.Text.Quoted

/-!
Contract: account addresses.

Owns: the twenty bytes of an address as forty hexadecimal digits, the mixed-case text whose
letters carry a checksum, the check whether a text with or without the mark `0x` has the form of an
address, and reading an address from a text.

The check looks at the form of the text and reads no digit. That it holds of exactly the texts that
can be read is proved, not built in.
-/

set_option autoImplicit false

namespace PackageStore

/-- An address: forty hexadecimal digits, each below 16. -/
structure Address where
  digits : List (Fin 16)
  length_eq : digits.length = 40
deriving DecidableEq, Repr

namespace Address

def lowerDigit (digit : Fin 16) : Char :=
  if digit.val < 10 then Char.ofNat (48 + digit.val) else Char.ofNat (87 + digit.val)

def upperDigit (digit : Fin 16) : Char :=
  if digit.val < 10 then Char.ofNat (48 + digit.val) else Char.ofNat (55 + digit.val)

/-- The value of a hexadecimal digit in either case. -/
def digitValue? (c : Char) : Option (Fin 16) :=
  if '0' ≤ c ∧ c ≤ '9' then some (Fin.ofNat 16 (c.toNat - 48))
  else if 'a' ≤ c ∧ c ≤ 'f' then some (Fin.ofNat 16 (c.toNat - 87))
  else if 'A' ≤ c ∧ c ≤ 'F' then some (Fin.ofNat 16 (c.toNat - 55))
  else none

/-- The half bytes of a byte string, high half first. -/
def halves (bytes : List UInt8) : List Nat :=
  bytes.flatMap fun byte => [byte.toNat / 16, byte.toNat % 16]

/-- Which digits are written as capitals: those whose place in the hash of the lower-case digits
holds at least 8. -/
def capitals (digits : List (Fin 16)) : List Bool :=
  (halves (Keccak.hash256 (digits.map fun digit => (lowerDigit digit).toNat.toUInt8))).map
    (8 ≤ ·)

/-- The digits in mixed case. A digit beyond the hash stays in lower case. -/
def mixedCase : List (Fin 16) → List Bool → List Char
  | [], _ => []
  | digit :: digits, [] => lowerDigit digit :: mixedCase digits []
  | digit :: digits, capital :: rest =>
      (if capital then upperDigit digit else lowerDigit digit) :: mixedCase digits rest

/-- The checksummed text of an address. -/
def text (address : Address) : String :=
  String.ofList ('0' :: 'x' :: mixedCase address.digits (capitals address.digits))

/-- A text without its mark `0x` or `0X`. -/
def withoutMark : List Char → List Char
  | '0' :: 'x' :: rest => rest
  | '0' :: 'X' :: rest => rest
  | text => text

def hasMark : List Char → Bool
  | '0' :: 'x' :: _ => true
  | '0' :: 'X' :: _ => true
  | _ => false

/-- The text without surrounding blanks, with the mark in front. -/
def marked (text : String) : String :=
  let trimmed := Text.trim text.toList
  if hasMark trimmed then String.ofList trimmed else String.ofList ('0' :: 'x' :: trimmed)

/-- Why a text is no address. -/
inductive ReadFault where
  | notHexadecimal (text : String)
  | wrongLength (text : String)
deriving DecidableEq, Repr

def ReadFault.message : ReadFault → String
  | .notHexadecimal text =>
      "when sending a str, it must be a hex string. Got: " ++ Text.quoted text
  | .wrongLength text =>
      s!"Unknown format {Text.quoted text}, attempted to normalize to "
        ++ Text.quoted (String.ofList (text.toList.map Char.toLower))

/-- The address that a text stands for. -/
def read (text : String) : Except ReadFault Address :=
  let marked := marked text
  match (withoutMark marked.toList).mapM digitValue? with
  | none => .error (.notHexadecimal marked)
  | some digits =>
      if length_eq : digits.length = 40 then .ok ⟨digits, length_eq⟩
      else .error (.wrongLength marked)

/-- Whether a character is a hexadecimal digit in either case. -/
def isHexDigit (c : Char) : Bool :=
  ('0' ≤ c && c ≤ '9') || ('a' ≤ c && c ≤ 'f') || ('A' ≤ c && c ≤ 'F')

/-- Whether a text has the form of an address: forty hexadecimal digits behind the mark. -/
def isValid (text : String) : Bool :=
  let digits := withoutMark (marked text).toList
  digits.length == 40 && digits.all isHexDigit

end Address

end PackageStore
