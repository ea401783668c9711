import PackageStore.Hostname.Composed
import PackageStore.Hostname.Context
import PackageStore.Hostname.Direction
import PackageStore.Hostname.Punycode

/-!
Contract: labels of internationalised host names.

Owns: what is wrong with a label, or with a label spelled in ASCII that stands for another one, and
how long a label is in ASCII.
-/

set_option autoImplicit false

namespace PackageStore.Hostname

/-! ## Faults -/

/-- What is wrong with a label. -/
inductive LabelFault where
  | empty
  | notComposed
  /-- Hyphens in the third and the fourth place. -/
  | innerHyphens
  /-- A hyphen at an end. -/
  | outerHyphen
  | leadingMark
  /-- A character, by the number of those in front of it. -/
  | character (label : List CodePoint) (index : Nat) (fault : CharacterFault)
  | direction (label : List CodePoint) (fault : DirectionFault)
  /-- A spelling of nothing. -/
  | noSpelling
  /-- A spelling with a hyphen at its end. -/
  | spellingHyphen
  | unreadableSpelling
  /-- A spelling that is not the one of the label it stands for. -/
  | otherSpelling
deriving DecidableEq, Repr, Inhabited

/-- The message about a character of a label. -/
def CharacterFault.message (label : List CodePoint) (index : Nat) (fault : CharacterFault) :
    String :=
  let name := Text.codeName (label.getD index 0)
  let place := index + 1
  let shown := Text.quotedCodes label
  match fault with
  | .forbidden => s!"Codepoint {name} at position {place} of {shown} not allowed"
  | .misplaced => s!"Codepoint {name} not allowed at position {place} in {shown}"
  | .misplacedJoiner => s!"Joiner {name} not allowed at position {place} in {shown}"
  | .namelessNeighbour =>
      s!"Unknown codepoint adjacent to joiner {name} at position {place} in {shown}"

/-- The message about the directions in a label. -/
def DirectionFault.message (label : List CodePoint) : DirectionFault → String
  | .unknown place =>
      s!"Unknown directionality in label {Text.quotedCodes label} at position {place}"
  | .unsettled =>
      s!"First codepoint in label {Text.quotedCodes label} must be directionality L, R or AL"
  | .against place isRightToLeft =>
      let kind := if isRightToLeft then "right-to-left" else "left-to-right"
      s!"Invalid direction for codepoint at position {place} in a {kind} label"
  | .mixedDigits => "Can not mix numeral types in a right-to-left label"
  | .badEnd => "Label ends with illegal codepoint directionality"

def LabelFault.message : LabelFault → String
  | .empty => "Empty Label"
  | .notComposed => "Label must be in Normalization Form C"
  | .innerHyphens => "Label has disallowed hyphens in 3rd and 4th position"
  | .outerHyphen => "Label must not start or end with a hyphen"
  | .leadingMark => "Label begins with an illegal combining character"
  | .character label index fault => fault.message label index
  | .direction label fault => fault.message label
  | .noSpelling => "Malformed A-label, no Punycode eligible content found"
  | .spellingHyphen => "A-label must not end with a hyphen"
  | .unreadableSpelling => "Invalid A-label"
  | .otherSpelling => "A-label is not the canonical Punycode encoding of its U-label"

/-! ## Labels -/

/-- The first fault of a label. A lone surrogate counts as the null character, which no label may
hold. -/
def labelFault? (codes : List CodePoint) : Option LabelFault :=
  let label := codes.map Char.ofNat
  if label.isEmpty then some .empty
  else if !isComposed label then some .notComposed
  else if (label.drop 2).take 2 == ['-', '-'] then some .innerHyphens
  else if label.head? == some '-' || label.getLast? == some '-' then some .outerHyphen
  else if label.head?.any isMark then some .leadingMark
  else
    match firstFault? [] label with
    | some (index, fault) => some (.character codes index fault)
    | none => (directionFault? (label.map direction)).map (.direction codes)

/-- The first fault of a spelling. -/
def spellingFault? (spelling : List Char) : Option LabelFault :=
  if spelling.isEmpty then some .noSpelling
  else if spelling.getLast? == some '-' then some .spellingHyphen
  else
    match Punycode.read spelling with
    | none => some .unreadableSpelling
    | some codes =>
        match labelFault? codes with
        | some fault => some fault
        | none => if Punycode.endsNothing spelling then some .otherSpelling else none

/-- The start of a label that is spelled in ASCII and stands for another one. -/
def spellingMark : List Char := ['x', 'n', '-', '-']

/-- The first fault of a label of ASCII characters. -/
def plainFault? (label : List Char) : Option LabelFault :=
  if spellingMark.isPrefixOf label then spellingFault? (label.drop spellingMark.length)
  else labelFault? (label.map Char.toNat)

/-! ## Lengths -/

/-- The most characters that a label has in ASCII. -/
def maxLabelLength : Nat := 63

/-- The length in ASCII of a label, `none` if the label is not well formed or too long. -/
def labelLength? (label : List Char) : Option Nat :=
  let (fault, length) :=
    if label.all (·.toNat < 128) then (plainFault? label, label.length)
    else (labelFault? (label.map Char.toNat), spellingMark.length + Punycode.length label)
  if fault.isNone && length ≤ maxLabelLength then some length else none

end PackageStore.Hostname
