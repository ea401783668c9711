import PackageStore.Hostname.Mark

/-!
Contract: labels with letters that run from right to left.

Owns: the direction of the characters of host names, and the rule that such a label keeps: it
starts with a letter, which settles its direction, holds only what that direction admits, does not
mix the digits of two scripts, and ends with a letter or digit, marks aside.
-/

set_option autoImplicit false

namespace PackageStore.Hostname

/-! ## Characters -/

inductive Direction where
  | leftToRight
  | rightToLeft
  | arabicDigit
  | digit
  | mark
  | neutral
  | unknown
deriving DecidableEq, Repr

/-- The ranges of letters that run from right to left. -/
def rightToLeftRanges : List (Nat × Nat) :=
  [
    (1488, 1524), (1568, 1610), (1646, 1647), (1649, 1749), (1765, 1766), (1774, 1775),
    (1786, 1808), (1810, 1839), (1869, 1957), (1969, 2026), (2036, 2037), (2048, 2069),
    (2074, 2074), (2084, 2084), (2088, 2088), (2112, 2136), (2144, 2190), (2208, 2249),
    (65139, 65139), (67584, 68096), (68112, 68149), (68192, 68324), (68352, 68899),
    (69248, 69289), (69296, 69445), (69488, 69505), (69552, 69622), (124928, 125124),
    (125218, 125251), (125259, 125273)]

/-- The ranges of digits that stand in texts that run from right to left. -/
def arabicDigitRanges : List (Nat × Nat) :=
  [
    (1632, 1641), (68912, 68921)]

/-- The ranges of other digits. -/
def digitRanges : List (Nat × Nat) :=
  [
    (48, 57), (1776, 1785)]

/-- The ranges of characters without a direction of their own. -/
def neutralRanges : List (Nat × Nat) :=
  [
    (45, 45), (183, 183), (697, 698), (710, 719), (748, 748), (885, 885), (8204, 8205),
    (11823, 11823), (12539, 12539), (42623, 42623), (42775, 42783), (42888, 42888)]

/-- The direction of a character. -/
def direction (c : Char) : Direction :=
  if isUnknown c then .unknown
  else if isNonspacing c then .mark
  else if isWithin rightToLeftRanges c then .rightToLeft
  else if isWithin arabicDigitRanges c then .arabicDigit
  else if isWithin digitRanges c then .digit
  else if isWithin neutralRanges c then .neutral
  else .leftToRight

/-! ## Labels -/

/-- What is wrong with the directions in a label. Places are counted from one. -/
inductive DirectionFault where
  | unknown (place : Nat)
  /-- The label starts with something else than a letter. -/
  | unsettled
  /-- A character runs against the direction of the label. -/
  | against (place : Nat) (isRightToLeft : Bool)
  | mixedDigits
  | badEnd
deriving DecidableEq, Repr

/-- Whether a character makes a label one of those that have to keep the rule. -/
def Direction.isBinding (direction : Direction) : Bool :=
  direction = .rightToLeft || direction = .arabicDigit

/-- The first fault among directions that start at `place` in a label that runs from right to left.
`digits` are the digits in front. -/
def leftwardFault? (place : Nat) (digits : Option Direction) :
    List Direction → Option DirectionFault
  | [] => none
  | direction :: rest =>
      if direction = .leftToRight then some (.against place true)
      else if direction = .digit || direction = .arabicDigit then
        if digits.any (· != direction) then some .mixedDigits
        else leftwardFault? (place + 1) (some direction) rest
      else leftwardFault? (place + 1) digits rest

/-- Whether directions that are not marks end with a letter or a digit. -/
def endsFirmly (directions : List Direction) : Bool :=
  match (directions.filter (· != .mark)).getLast? with
  | some last => last != .neutral
  | none => false

/-- What is wrong with a label, given by the directions of its characters. Nothing is wrong with
one in which nothing runs from right to left. -/
def directionFault? (directions : List Direction) : Option DirectionFault :=
  match directions.findIdx? (· = .unknown) with
  | some index => some (.unknown (index + 1))
  | none =>
      match directions.findIdx? Direction.isBinding with
      | none => none
      | some index =>
          match directions.head? with
          | some .rightToLeft =>
              match leftwardFault? 1 none directions with
              | some fault => some fault
              | none => if endsFirmly directions then none else some .badEnd
          | some .leftToRight => some (.against (index + 1) false)
          | _ => some .unsettled

end PackageStore.Hostname
