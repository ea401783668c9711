import PackageStore.Text.Blank
import PackageStore.Text.Digit

/-!
Contract: integer numerals.

Owns: the grammar of a numeral that stands for a chain id: padding, an optional sign, and decimal
digits of any script in which single underscores may separate digits. A numeral of more than
`maxDigits` digits is refused, and an integer of more digits is not written as one.
-/

set_option autoImplicit false

namespace PackageStore.Number

/-- The most digits a numeral may have. -/
def maxDigits : Nat := 4300

/-- Whether an integer has few enough digits to be written. -/
@[irreducible] def isWritable (number : Int) : Bool :=
  number.natAbs < Nat.pow 10 maxDigits

theorem isWritable_of_lt {number : Int} (digits : Nat) (few : digits ≤ maxDigits)
    (small : number.natAbs < Nat.pow 10 digits) : isWritable number = true := by
  unfold isWritable
  -- The limit is kept closed, so that its power is never computed.
  generalize maxDigits = limit at few
  exact decide_eq_true (Nat.lt_of_lt_of_le small (Nat.pow_le_pow_right (by decide) few))

theorem isWritable_eq_false {number : Int} (long : Nat.pow 10 maxDigits ≤ number.natAbs) :
    isWritable number = false := by
  unfold isWritable
  exact decide_eq_false (Nat.not_lt.2 long)

/-- The characters that may pad a numeral: the blanks without the four ASCII separators. -/
def isPadding (c : Char) : Bool :=
  Text.isBlank c && !(28 ≤ c.toNat && c.toNat ≤ 31)

/-- The digit values of a run of digits in which single underscores may stand between two
digits. -/
def digitRun : List Char → Option (List Nat)
  | [] => none
  | [c] => (Text.digitValue? c).map ([·])
  | c :: '_' :: rest => do
      let digit ← Text.digitValue? c
      let digits ← digitRun rest
      return digit :: digits
  | c :: rest => do
      let digit ← Text.digitValue? c
      let digits ← digitRun rest
      return digit :: digits

/-- The number that decimal digits spell. -/
def ofDigits (digits : List Nat) : Nat :=
  digits.foldl (fun number digit => 10 * number + digit) 0

/-- The integer that a numeral stands for, `none` for any other text. -/
def readInteger (text : List Char) : Option Int :=
  let signed := Text.trimBy isPadding text
  let (negative, body) :=
    match signed with
    | '-' :: rest => (true, rest)
    | '+' :: rest => (false, rest)
    | rest => (false, rest)
  match digitRun body with
  | some digits =>
      if maxDigits < digits.length then none
      else if negative then some (-(ofDigits digits : Int))
      else some (ofDigits digits)
  | none => none

end PackageStore.Number
