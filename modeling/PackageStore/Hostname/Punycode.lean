import PackageStore.Text.CodePoint

/-!
Contract: labels spelled with ASCII characters.

Owns: the spelling of a text as its ASCII characters followed by the places of the others, and the
text that such a spelling stands for. A place is a number in digits of base 36 whose thresholds
adapt to the numbers before.
-/

set_option autoImplicit false

namespace PackageStore.Hostname.Punycode

/-! ## Numbers -/

/-- The value of a digit: letters come before numerals. -/
def digitValue? (c : Char) : Option Nat :=
  if 'a' ≤ c && c ≤ 'z' then some (c.toNat - 97)
  else if '0' ≤ c && c ≤ '9' then some (c.toNat - 22)
  else none

/-- The least value that does not end a number at a place, which is counted in steps of 36. -/
def threshold (place bias : Nat) : Nat :=
  if place ≤ bias then 1 else if bias + 26 ≤ place then 26 else place - bias

theorem threshold_pos (place bias : Nat) : 1 ≤ threshold place bias := by
  grind [threshold]

/-- Divides by 35 until at most 455 is left; answers what is left and 36 for each division. -/
def shrink (delta places : Nat) : Nat × Nat :=
  if 455 < delta then shrink (delta / 35) (places + 36) else (delta, places)
termination_by delta
decreasing_by exact Nat.div_lt_self (by omega) (by omega)

/-- The bias behind a number. `size` counts the characters placed so far. -/
def adapt (delta size : Nat) (isFirst : Bool) : Nat :=
  let scaled := if isFirst then delta / 700 else delta / 2
  let (rest, places) := shrink (scaled + scaled / size) 0
  places + 36 * rest / (rest + 38)

/-- How many digits a number takes. -/
def digitCount (bias place number : Nat) : Nat :=
  let least := threshold place bias
  if number < least then 1
  else 1 + digitCount bias (place + 36) ((number - least) / (36 - least))
termination_by number
decreasing_by
  have := threshold_pos place bias
  exact Nat.lt_of_le_of_lt (Nat.div_le_self _ _) (by omega)

/-! ## The length of a spelling -/

/-- A spelling in progress: its length, the number that is due, the bias, and how many characters
have their place. -/
structure Spelling where
  length : Nat
  delta : Nat
  bias : Nat
  placed : Nat

/-- Passes one character of the text while `code` is being placed. -/
def Spelling.pass (basic code : Nat) (spelling : Spelling) (c : Char) : Spelling :=
  if c.toNat < code then { spelling with delta := spelling.delta + 1 }
  else if c.toNat = code then
    { length := spelling.length + digitCount spelling.bias 36 spelling.delta
      delta := 0
      bias := adapt spelling.delta (spelling.placed + 1) (spelling.placed == basic)
      placed := spelling.placed + 1 }
  else spelling

/-- Places every occurrence of the given code points, which ascend from `next`. -/
def Spelling.place (text : List Char) (basic : Nat) : List Nat → Nat → Spelling → Spelling
  | [], _, spelling => spelling
  | code :: rest, next, spelling =>
      let ahead :=
        { spelling with delta := spelling.delta + (code - next) * (spelling.placed + 1) }
      let passed := text.foldl (Spelling.pass basic code) ahead
      place text basic rest (code + 1) { passed with delta := passed.delta + 1 }

/-- The length of the spelling of a text. -/
def length (text : List Char) : Nat :=
  let basic := (text.filter (·.toNat < 128)).length
  let codes := ((text.map Char.toNat).filter (128 ≤ ·)).mergeSort.eraseDups
  let start : Spelling := ⟨if basic = 0 then 0 else basic + 1, 0, 72, basic⟩
  (start.place text basic codes 128).length

/-! ## Reading a spelling -/

/-- Reads a number: the sum of `sum` and its digits with the weight `weight`, and the rest. -/
def readNumber (bias : Nat) : List Char → Nat → Nat → Nat → Option (Nat × List Char)
  | [], _, _, _ => none
  | c :: rest, place, weight, sum =>
      match digitValue? c with
      | none => none
      | some digit =>
          let least := threshold place bias
          if digit < least then some (sum + digit * weight, rest)
          else readNumber bias rest (place + 36) (weight * (36 - least)) (sum + digit * weight)

theorem readNumber_length {bias : Nat} {text : List Char} {place weight sum : Nat}
    {found : Nat × List Char} (read : readNumber bias text place weight sum = some found) :
    found.2.length < text.length := by
  induction text generalizing place weight sum with
  | nil => simp [readNumber] at read
  | cons c rest inductionHypothesis =>
      rw [readNumber] at read
      split at read
      · simp at read
      · dsimp only at read
        split at read
        · cases read
          simp
        · have := inductionHypothesis read
          simp only [List.length_cons]
          omega

/-- Puts the code points of a spelling in their places. Lone surrogates are code points too. -/
def insertAll (bias code index : Nat) (text : List CodePoint) (spelling : List Char) :
    Option (List CodePoint) :=
  if spelling.isEmpty then some text
  else
    match _ : readNumber bias spelling 36 1 index with
    | none => none
    | some (sum, rest) =>
        let size := text.length + 1
        let code' := code + sum / size
        if code' ≤ 0x10FFFF then
          insertAll (adapt (sum - index) size (index == 0)) code'
            (sum % size + 1) (text.insertIdx (sum % size) code') rest
        else none
termination_by spelling.length
decreasing_by exact readNumber_length (by assumption)

/-- The ASCII characters that a spelling starts with; its last hyphen ends them. -/
def basicPart (spelling : List Char) : List Char :=
  (spelling.reverse.dropWhile (· != '-')).tail.reverse

/-- The code points that a spelling stands for. -/
def read (spelling : List Char) : Option (List CodePoint) :=
  insertAll 72 128 0 ((basicPart spelling).map Char.toNat)
    (spelling.reverse.takeWhile (· != '-')).reverse

/-- Whether a hyphen ends ASCII characters of which there are none. A text is never spelled so. -/
def endsNothing (spelling : List Char) : Bool :=
  spelling.contains '-' && (basicPart spelling).isEmpty

end PackageStore.Hostname.Punycode
