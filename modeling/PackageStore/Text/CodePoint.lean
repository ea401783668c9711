import PackageStore.Text.Quoted

/-!
Contract: code points, lone surrogates among them, and texts of them.

Owns: which code points are no characters; texts as they come from outside, which may hold such code
points; how a text is quoted; and which characters stand in their place where only characters can be
shown.

A text is carried, joined and searched as its code points. Only where characters are called for it
is asked for them with `plain?`.
-/

set_option autoImplicit false

namespace PackageStore

/-- A number of Unicode. Lone surrogates have one too, although they are no characters. -/
abbrev CodePoint := Nat

def CodePoint.isSurrogate (code : CodePoint) : Bool :=
  0xD800 ≤ code && code ≤ 0xDFFF

/-- A text, in which lone surrogates may stand. -/
structure Text where
  codes : List CodePoint
deriving DecidableEq, Repr, Inhabited

namespace Text

def ofString (text : String) : Text :=
  ⟨text.toList.map Char.toNat⟩

instance : Coe String Text := ⟨ofString⟩

instance : Append Text := ⟨fun left right => ⟨left.codes ++ right.codes⟩⟩

/-- The characters of a text in which no lone surrogate stands. -/
def plain? (text : Text) : Option String :=
  if text.codes.all fun code => decide code.isValidChar then
    some (String.ofList (text.codes.map Char.ofNat))
  else none

theorem codes_injective {left right : Text} (same : left.codes = right.codes) : left = right := by
  cases left
  cases right
  cases same
  rfl

@[simp] theorem codes_append (left right : Text) :
    (left ++ right).codes = left.codes ++ right.codes := rfl

theorem codes_ofString_append (left right : String) :
    (ofString (left ++ right)).codes = (ofString left).codes ++ (ofString right).codes := by
  simp [ofString]

@[simp] theorem plain?_ofString (text : String) : (ofString text).plain? = some text := by
  have valid : (ofString text).codes.all (fun code => decide code.isValidChar) = true := by
    simp only [ofString, List.all_map, List.all_eq_true]
    intro c _
    exact decide_eq_true c.valid
  have back : (ofString text).codes.map Char.ofNat = text.toList := by
    simp [ofString, Function.comp_def]
  rw [plain?, if_pos valid, back, String.ofList_toList]

@[simp] theorem ofString_inj {left right : String} :
    ofString left = ofString right ↔ left = right := by
  constructor
  · intro same
    simpa using congrArg plain? same
  · exact congrArg ofString

/-- The code points between quotes; a lone surrogate is shown by its number. -/
def quotedCodes (codes : List CodePoint) : String :=
  let quote := quoteFor (codes.map Char.ofNat)
  let body := codes.flatMap fun c =>
    if c.isSurrogate then '\\' :: 'u' :: hexPadded 4 c else quoteChar quote (Char.ofNat c)
  String.ofList (quote :: body ++ [quote])

/-- The code points as characters; three substitutes stand for each lone surrogate. -/
def legible (codes : List CodePoint) : String :=
  String.ofList <| codes.flatMap fun code =>
    if code.isSurrogate then List.replicate 3 '\ufffd' else [Char.ofNat code]

/-- The number of a code point in capitals, with at least four digits. -/
def codeName (code : CodePoint) : String :=
  String.ofList ('U' :: '+' :: (hexPadded 4 code).map Char.toUpper)

end Text

end PackageStore
