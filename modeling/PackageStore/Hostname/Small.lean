import PackageStore.Hostname.Mark
import PackageStore.Text.Fold

/-!
Contract: host names in small letters.

Owns: the small form of the characters of host names. A capital sigma at the end of a word has a
small form of its own.

Does not own: other characters than those of host names and the separators of labels, which stand
for themselves.
-/

set_option autoImplicit false

namespace PackageStore.Hostname

/-! ## Single characters -/

/-- The small form of a Cherokee capital. Cherokee letters fold to their capitals. -/
def smallCherokee? (c : Char) : Option Char :=
  if '\u13a0' ≤ c && c ≤ '\u13ef' then some (Char.ofNat (c.toNat + 38864))
  else if '\u13f0' ≤ c && c ≤ '\u13f5' then some (Char.ofNat (c.toNat + 8))
  else none

/-- Small letters and marks that fold to other characters. -/
def isFoldedVariant (c : Char) : Bool :=
  ['\u00b5', '\u017f', '\u0345', '\u03d0', '\u03d1', '\u03d5', '\u03d6', '\u03f0', '\u03f1',
    '\u03f5', '\u1e9b', '\u1fbe'].contains c
    || ('\u13f8' ≤ c && c ≤ '\u13fd') || ('\u1c80' ≤ c && c ≤ '\u1c88')
    || ('\uab70' ≤ c && c ≤ '\uabbf')

/-- The small form of a character, as far as a label may hold it; any other character stands for
itself. -/
def smallForm (c : Char) : List Char :=
  if c = '\u0130' then ['i', '\u0307']
  else if c = '\u1e9e' then ['ß']
  else
    match smallCherokee? c with
    | some small => [small]
    | none =>
        if isPermitted c || isFoldedVariant c then [c]
        else
          match Text.foldCode c.toNat with
          | [small] => [Char.ofNat small]
          | _ => [c]

/-! ## The end of a word -/

/-- The ranges of characters that have a case. They may run over code points that no host name
holds. -/
def casedRanges : List (Nat × Nat) :=
  [
    (65, 122), (192, 442), (444, 447), (461, 659), (661, 687), (880, 883), (886, 1153),
    (1162, 1366), (1376, 1416), (4256, 4351), (7312, 7359), (7424, 7467), (7531, 7578),
    (7680, 8186), (8486, 11502), (11506, 11565), (42560, 42605), (42624, 42651),
    (42786, 42887), (42891, 42894), (42896, 42954), (42960, 42969), (42997, 42998),
    (43002, 43002), (43824, 43880), (66560, 66639), (66736, 66811), (66928, 67004),
    (68736, 68850), (71840, 71903), (93760, 93823), (122624, 122633), (122635, 122654),
    (125184, 125251)]

/-- The ranges of characters that case passes over, marks without room aside. They may run over
code points that no host name holds. -/
def caselessRanges : List (Nat × Nat) :=
  [
    (46, 46), (183, 183), (697, 750), (885, 885), (1369, 1369), (1524, 1524), (1765, 1766),
    (2036, 2037), (2074, 2074), (2084, 2084), (2088, 2088), (2249, 2249), (2417, 2417),
    (3263, 3263), (3270, 3270), (3654, 3654), (3782, 3782), (6103, 6103), (6211, 6211),
    (6823, 6823), (7288, 7293), (7471, 7502), (8204, 8205), (11823, 11823), (12293, 12293),
    (12445, 12446), (12540, 12542), (40981, 40981), (42232, 42237), (42508, 42508),
    (42623, 42623), (42775, 42783), (42888, 42888), (43471, 43471), (43494, 43494),
    (43632, 43632), (43741, 43741), (43763, 43764), (65294, 65294), (67456, 67456),
    (72199, 72200), (72767, 72767), (92992, 92995), (94099, 94179), (110576, 110590),
    (123191, 123197), (125259, 125259)]

/-- Whether the first character that case does not pass over has a case. -/
def meetsCase (text : List Char) : Bool :=
  match text.find? fun c => !(isNonspacing c || isWithin caselessRanges c) with
  | some c => isWithin casedRanges c
  | none => false

/-- The small form of `after`, where `before`, given from its end, stands in front. -/
def smallAfter (before : List Char) : List Char → List Char
  | [] => []
  | c :: after =>
      let endsWord := c = 'Σ' && meetsCase before && !meetsCase after
      (if endsWord then ['ς'] else smallForm c) ++ smallAfter (c :: before) after

/-- The small form of a name. -/
def small (name : List Char) : List Char :=
  smallAfter [] name

end PackageStore.Hostname
