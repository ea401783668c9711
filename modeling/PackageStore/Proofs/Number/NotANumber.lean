import Mathlib.Algebra.Order.Field.Power
import Mathlib.Data.EReal.Basic
import Mathlib.Data.List.TakeWhile
import PackageStore.Number.Numeral

/-!
Contract: not-a-number among the floating-point values.

Owns: the extended real number that a value stands for, which only not-a-number has none of; that
the two comparisons with zero are those of these numbers, so that not-a-number fails both; that no
conversion of a ratio, a decimal or an integer comes to not-a-number; and which texts name it.
-/

set_option autoImplicit false

namespace PackageStore

namespace Binary64

/-! ## Comparison with zero -/

/-- The magnitude of a finite value. -/
noncomputable def magnitude (significand : Nat) (exponent : Int) : ℝ :=
  significand * 2 ^ exponent

/-- The extended real number that a value stands for. -/
noncomputable def number? : Binary64 → Option EReal
  | .nan => none
  | .infinite negative => some (if negative then ⊥ else ⊤)
  | .finite negative significand exponent =>
      some (if negative then -magnitude significand exponent
        else magnitude significand exponent : ℝ)

theorem number?_eq_none_iff {value : Binary64} : value.number? = none ↔ value = .nan := by
  cases value <;> simp [number?]

theorem magnitude_nonneg (significand : Nat) (exponent : Int) :
    0 ≤ magnitude significand exponent := by
  unfold magnitude
  positivity

theorem magnitude_pos_iff (significand : Nat) (exponent : Int) :
    0 < magnitude significand exponent ↔ significand ≠ 0 := by
  have power : (0 : ℝ) < 2 ^ exponent := by positivity
  rw [magnitude, mul_pos_iff_of_pos_right power, Nat.cast_pos, Nat.pos_iff_ne_zero]

theorem isAtMostZero_iff (value : Binary64) :
    value.isAtMostZero = true ↔ ∃ number, value.number? = some number ∧ number ≤ 0 := by
  cases value with
  | nan => simp [isAtMostZero, number?]
  | infinite negative => cases negative <;> simp [isAtMostZero, number?]
  | finite negative significand exponent =>
      cases negative with
      | true => simpa [isAtMostZero, number?] using magnitude_nonneg significand exponent
      | false =>
          have zero := not_congr (magnitude_pos_iff significand exponent)
          rw [not_lt, not_ne_iff] at zero
          simp [isAtMostZero, number?, zero]

theorem isPositive_iff (value : Binary64) :
    value.isPositive = true ↔ ∃ number, value.number? = some number ∧ 0 < number := by
  cases value with
  | nan => simp [isPositive, number?]
  | infinite negative => cases negative <;> simp [isPositive, number?]
  | finite negative significand exponent =>
      cases negative with
      | true => simpa [isPositive, number?] using magnitude_nonneg significand exponent
      | false => simp [isPositive, number?, magnitude_pos_iff]

/-- Of two opposite comparisons exactly one holds of a number, and none of not-a-number. -/
theorem isPositive_iff_not_isAtMostZero (value : Binary64) :
    value.isPositive = true ↔ value ≠ .nan ∧ value.isAtMostZero = false := by
  rw [← Bool.not_eq_true, isAtMostZero_iff, isPositive_iff, ne_eq, ← number?_eq_none_iff]
  cases value.number? with
  | none => simp
  | some number => simp

/-! ## Conversions -/

theorem pack_ne_nan (negative : Bool) (significand : Nat) (exponent : Int) :
    pack negative significand exponent ≠ .nan := by
  unfold pack
  dsimp only
  split_ifs <;> simp

theorem ofRatio_ne_nan (negative : Bool) (numerator denominator : Nat) :
    ofRatio negative numerator denominator ≠ .nan := by
  unfold ofRatio
  dsimp only
  split_ifs
  · simp [zero]
  · exact pack_ne_nan _ _ _
  · exact pack_ne_nan _ _ _

theorem ofInt_ne_nan (number : Int) : ofInt number ≠ .nan :=
  ofRatio_ne_nan _ _ _

theorem ofDecimal_ne_nan (negative : Bool) (digits : Nat) (scale : Int) :
    ofDecimal negative digits scale ≠ .nan := by
  unfold ofDecimal
  dsimp only
  split_ifs
  · simp [zero]
  · simp
  · exact ofRatio_ne_nan _ _ _

end Binary64

namespace Number

/-! ## Texts that name not-a-number -/

/-- The name of not-a-number in capitals or small letters, perhaps behind a sign. -/
def NamesNan (text : List Char) : Prop :=
  (splitSign text).2.map Char.toLower = ['n', 'a', 'n']

/-- What reading digits comes to, whatever the digits and the rest behind them are. -/
theorem readDecimalDigits_parts (negative : Bool) (text : List Char) :
    ∃ fraction rest, readDecimalDigits negative text =
        (if (text.takeWhile isAsciiDigit ++ fraction).isEmpty then none
        else
          (readExponentText rest).map fun exponent =>
            .ofDecimal negative
              (ofDigits ((text.takeWhile isAsciiDigit ++ fraction).map fun c => c.toNat - 48))
              (exponent - fraction.length)) ∧
      ∀ c ∈ fraction, c ∈ text ∧ isAsciiDigit c = true := by
  unfold readDecimalDigits
  dsimp only
  split
  · next more point =>
      refine ⟨more.takeWhile isAsciiDigit, more.dropWhile isAsciiDigit, rfl, ?_⟩
      intro c member
      have behind : c ∈ text.dropWhile isAsciiDigit := by
        rw [point]
        exact List.mem_cons_of_mem _ (List.takeWhile_sublist _ |>.mem member)
      exact ⟨List.dropWhile_sublist _ |>.mem behind, List.mem_takeWhile_imp member⟩
  · exact ⟨[], text.dropWhile isAsciiDigit, rfl, nofun⟩

theorem readDecimalDigits_ne_nan (negative : Bool) (text : List Char) :
    readDecimalDigits negative text ≠ some .nan := by
  obtain ⟨fraction, rest, parts, _⟩ := readDecimalDigits_parts negative text
  rw [parts]
  split
  · simp
  · simp [Binary64.ofDecimal_ne_nan]

/-- Where no digit stands, there is no numeral. -/
theorem readDecimalDigits_of_no_digit (negative : Bool) {text : List Char}
    (noDigit : ∀ c ∈ text, isAsciiDigit c = false) : readDecimalDigits negative text = none := by
  obtain ⟨fraction, rest, parts, digits⟩ := readDecimalDigits_parts negative text
  have none : ∀ c ∈ text.takeWhile isAsciiDigit ++ fraction, False := by
    intro c member
    rcases List.mem_append.1 member with whole | behind
    · have digit := List.mem_takeWhile_imp whole
      rw [noDigit c (List.takeWhile_sublist _ |>.mem whole)] at digit
      cases digit
    · obtain ⟨inside, digit⟩ := digits c behind
      rw [noDigit c inside] at digit
      cases digit
  rw [parts, List.eq_nil_iff_forall_not_mem.2 none]
  rfl

theorem readBareDecimal_eq_nan_iff (text : List Char) :
    readBareDecimal text = some .nan ↔ NamesNan text := by
  have named : String.ofList ((splitSign text).2.map Char.toLower) = "nan" ↔ NamesNan text :=
    String.ofList_inj
  rw [← named]
  unfold readBareDecimal
  dsimp only
  split
  · next infinite =>
      simp only [Bool.or_eq_true, decide_eq_true_eq] at infinite
      rcases infinite with name | name <;> simp [name]
  · split
    · next name => simp [name]
    · next other => simp [other, readDecimalDigits_ne_nan]

/-- A text that a configuration takes for not-a-number: without its padding, or without its
underscores, it is the name. -/
def SpellsNan (text : List Char) : Prop :=
  NamesNan (Text.trimBy isPadding text) ∨ NamesNan (dropUnderscores text)

/-- The characters of which the name may consist. -/
def nanLetters : List Char :=
  ['+', '-', 'n', 'N', 'a', 'A']

theorem mem_nanLetters_of_toLower {c : Char} (lower : c.toLower = 'n' ∨ c.toLower = 'a') :
    c ∈ nanLetters := by
  unfold Char.toLower at lower
  simp only [nanLetters, List.mem_cons, List.not_mem_nil, or_false, Char.ext_iff] at lower ⊢
  split at lower
  · next capital =>
      simp only [UInt32.le_iff_toNat_le, ← UInt32.toNat_inj, UInt32.toNat_add] at capital lower ⊢
      simp at capital lower ⊢
      omega
  · rcases lower with same | same <;> simp [same]

theorem NamesNan.letters {text : List Char} (names : NamesNan text) :
    ∀ c ∈ text, c ∈ nanLetters := by
  have body : ∀ rest : List Char, rest.map Char.toLower = ['n', 'a', 'n'] →
      ∀ c ∈ rest, c ∈ nanLetters := by
    intro rest spelled c member
    have lower : c.toLower ∈ rest.map Char.toLower := List.mem_map_of_mem member
    rw [spelled] at lower
    apply mem_nanLetters_of_toLower
    simp only [List.mem_cons, List.not_mem_nil, or_false] at lower
    tauto
  unfold NamesNan splitSign at names
  split at names
  · next rest => exact List.forall_mem_cons.2 ⟨by decide, body rest names⟩
  · next rest => exact List.forall_mem_cons.2 ⟨by decide, body rest names⟩
  · exact body text names

/-- No such character is padding, a digit or part of another name, and neither is an underscore. -/
theorem nanLetters_harmless {c : Char} (member : c ∈ '_' :: nanLetters) :
    isPadding c = false ∧ isAsciiDigit c = false ∧ c.toLower ≠ 'i' := by
  simp only [nanLetters, List.mem_cons, List.not_mem_nil, or_false] at member
  rcases member with rfl | rfl | rfl | rfl | rfl | rfl | rfl <;> decide

/-- Underscores in a text that spells the name keep it from being read as anything else. -/
theorem readBareDecimal_of_dropUnderscores {text : List Char}
    (names : NamesNan (dropUnderscores text)) :
    Text.trimBy isPadding text = text ∧
      (readBareDecimal text = none ∨ readBareDecimal text = some .nan) := by
  have letters : ∀ c ∈ text, c ∈ '_' :: nanLetters := by
    intro c member
    by_cases underscore : c = '_'
    · exact underscore ▸ List.mem_cons_self
    · apply List.mem_cons_of_mem
      apply names.letters
      unfold dropUnderscores
      split
      · exact member
      · exact List.mem_filter.2 ⟨member, by simpa using underscore⟩
  have body : ∀ c ∈ (splitSign text).2, c ∈ text := by
    unfold splitSign
    split
    · exact fun c member => List.mem_cons_of_mem _ member
    · exact fun c member => List.mem_cons_of_mem _ member
    · exact fun c member => member
  refine ⟨Text.trimBy_eq_self fun c member => (nanLetters_harmless (letters c member)).1, ?_⟩
  have noNumeral := readDecimalDigits_of_no_digit (splitSign text).1 fun c member =>
    (nanLetters_harmless (letters c (body c member))).2.1
  have notInfinite : 'i' ∉ (splitSign text).2.map Char.toLower := by
    intro listed
    obtain ⟨c, member, lower⟩ := List.mem_map.1 listed
    exact (nanLetters_harmless (letters c (body c member))).2.2 lower
  unfold readBareDecimal
  dsimp only
  split
  · next infinite =>
      simp only [Bool.or_eq_true, decide_eq_true_eq] at infinite
      exfalso
      rcases infinite with name | name
      · have spelled : (splitSign text).2.map Char.toLower = ['i', 'n', 'f'] :=
          String.ofList_inj.1 name
        rw [spelled] at notInfinite
        exact notInfinite List.mem_cons_self
      · have spelled :
            (splitSign text).2.map Char.toLower = ['i', 'n', 'f', 'i', 'n', 'i', 't', 'y'] :=
          String.ofList_inj.1 name
        rw [spelled] at notInfinite
        exact notInfinite List.mem_cons_self
  · split
    · exact .inr rfl
    · exact .inl noNumeral

/-- A text is read as not-a-number exactly if it spells its name. -/
theorem readDecimalText_eq_nan_iff (text : List Char) :
    readDecimalText text = some .nan ↔ SpellsNan text := by
  unfold SpellsNan
  rw [← readBareDecimal_eq_nan_iff]
  constructor
  · intro read
    unfold readDecimalText at read
    split at read
    · next value trimmed => exact .inl (trimmed.trans read)
    · exact .inr ((readBareDecimal_eq_nan_iff _).1 read)
  · rintro (trimmed | names)
    · rw [readDecimalText, trimmed]
    · obtain ⟨same, unread | read⟩ := readBareDecimal_of_dropUnderscores names
      · rw [readDecimalText, same, unread]
        exact (readBareDecimal_eq_nan_iff _).2 names
      · rw [readDecimalText, same, read]

end Number

end PackageStore
