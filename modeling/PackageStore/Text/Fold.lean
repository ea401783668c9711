import PackageStore.Text.CodePoint
import PackageStore.Text.FoldTable

/-!
Contract: caseless comparison of texts.

Owns: full case folding, one code point at a time, and the search for one text inside another. A
lone surrogate folds to itself. `contains_iff_isInfix` says that the search finds exactly the
contiguous pieces, and `foldText_append` that folding works piece by piece.
-/

namespace PackageStore.Text

/-- The folded form of one code point. -/
def foldCode (code : CodePoint) : List CodePoint :=
  if code < 128 then
    if 65 ≤ code && code ≤ 90 then [code + 32] else [code]
  else
    match foldRuns.find? (·.covers code) with
    | some run => [((code : Int) + run.shift).toNat]
    | none =>
        match foldExpansions.find? (·.1 == code) with
        | some expansion => expansion.2
        | none => [code]

/-- The folded form of a text. -/
def foldText (codes : List CodePoint) : List CodePoint :=
  codes.flatMap foldCode

@[simp] theorem foldText_nil : foldText [] = [] := rfl

@[simp] theorem foldText_append (left right : List CodePoint) :
    foldText (left ++ right) = foldText left ++ foldText right := by
  simp [foldText]

/-- Whether `needle` stands somewhere in `text` as one contiguous piece. -/
def contains (needle : List CodePoint) : List CodePoint → Bool
  | [] => needle.isEmpty
  | head :: tail => needle.isPrefixOf (head :: tail) || contains needle tail

theorem contains_iff_isInfix (needle text : List CodePoint) :
    contains needle text = true ↔ needle <:+: text := by
  induction text with
  | nil => simp [contains]
  | cons head tail inductionHypothesis =>
      simp [contains, inductionHypothesis, List.infix_cons_iff]

end PackageStore.Text
