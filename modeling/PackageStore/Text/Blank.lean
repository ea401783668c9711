/-!
Contract: blank characters and trimming.

Owns: the class of blanks and the removal of blanks from both ends of a text.
-/

namespace PackageStore.Text

/-- The blanks: ASCII white space with the four separators U+001C to U+001F, and every space,
line and paragraph separator of Unicode 14. -/
def isBlank (c : Char) : Bool :=
  let code := c.toNat
  (9 ≤ code && code ≤ 13) || (28 ≤ code && code ≤ 32) || code == 133 || code == 160
    || code == 5760 || (8192 ≤ code && code ≤ 8202) || code == 8232 || code == 8233
    || code == 8239 || code == 8287 || code == 12288

/-- Drops what satisfies `drop` from both ends. -/
def trimBy (drop : Char → Bool) (text : List Char) : List Char :=
  (((text.dropWhile drop).reverse).dropWhile drop).reverse

theorem dropWhile_eq_self {drop : Char → Bool} {text : List Char}
    (kept : ∀ c ∈ text, drop c = false) : text.dropWhile drop = text := by
  cases text with
  | nil => rfl
  | cons head tail =>
      apply List.dropWhile_cons_of_neg
      rw [kept head List.mem_cons_self]
      exact Bool.false_ne_true

/-- A text in which nothing may be dropped keeps both its ends. -/
theorem trimBy_eq_self {drop : Char → Bool} {text : List Char}
    (kept : ∀ c ∈ text, drop c = false) : trimBy drop text = text := by
  have keptReversed : ∀ c ∈ text.reverse, drop c = false := by
    intro c member
    exact kept c (List.mem_reverse.1 member)
  rw [trimBy, dropWhile_eq_self kept, dropWhile_eq_self keptReversed, List.reverse_reverse]

/-- Drops the blanks from both ends. -/
def trim (text : List Char) : List Char :=
  trimBy isBlank text

end PackageStore.Text
