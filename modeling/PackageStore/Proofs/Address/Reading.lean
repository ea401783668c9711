import Mathlib.Data.List.Forall2
import PackageStore.Proofs.Address.Checksum

/-!
Contract: what may be read as an address, and what is read.

Owns: the core of a text, which is the text without surrounding blanks and without one mark; that
the check and the reading accept the same texts, those whose core is forty hexadecimal digits; that
the address read has the digits of the core; and that the checksummed text of an address is read as
this address again.

The check and the reading share only the step that sets the mark. The check looks at the form of
each character, the reading at its value, so both are compared with a third description: the list of
the twenty-two characters that are hexadecimal digits.
-/

set_option autoImplicit false

namespace PackageStore

namespace Address

/-! ## The core of a text -/

/-- The text without surrounding blanks and without one mark. -/
def core (text : String) : List Char :=
  withoutMark (Text.trim text.toList)

/-- The hexadecimal digits in both cases. -/
def hexDigits : List Char :=
  "0123456789abcdefABCDEF".toList

/-- Forty hexadecimal digits, each in either case. -/
def FortyDigits (digits : List Char) : Prop :=
  digits.length = 40 ∧ ∀ digit ∈ digits, digit ∈ hexDigits

instance (digits : List Char) : Decidable (FortyDigits digits) :=
  inferInstanceAs (Decidable (_ ∧ _))

theorem withoutMark_eq_self {text : List Char} (unmarked : hasMark text = false) :
    withoutMark text = text := by
  unfold hasMark at unmarked
  unfold withoutMark
  split at unmarked
  · cases unmarked
  · cases unmarked
  · rfl

/-- Whether the mark was there or has been set, the core stands behind it. -/
theorem withoutMark_marked (text : String) : withoutMark (marked text).toList = core text := by
  unfold marked core
  by_cases present : hasMark (Text.trim text.toList) = true
  · rw [if_pos present, String.toList_ofList]
  · rw [if_neg present, String.toList_ofList, withoutMark,
      withoutMark_eq_self (Bool.eq_false_iff.2 present)]

/-! ## Digits -/

theorem isHexDigit_eq_true_iff (c : Char) : isHexDigit c = true ↔ c ∈ hexDigits := by
  constructor
  · intro isDigit
    -- Every hexadecimal digit is at most `f`, so there are finitely many characters to look at.
    have below : c.toNat < 103 := by
      simp only [isHexDigit, Bool.or_eq_true, Bool.and_eq_true, decide_eq_true_iff,
        Char.le_def, UInt32.le_iff_toNat_le] at isDigit
      change c.val.toNat < 103
      have bounds : '9'.val.toNat = 57 ∧ 'f'.val.toNat = 102 ∧ 'F'.val.toNat = 70 := by decide
      omega
    have listed : ∀ code < 103, isHexDigit (Char.ofNat code) = true →
        Char.ofNat code ∈ hexDigits := by
      decide
    have member := listed c.toNat below
    rw [Char.ofNat_toNat] at member
    exact member isDigit
  · have all : hexDigits.all isHexDigit = true := by decide
    exact List.all_eq_true.1 all c

theorem digitValue?_isSome (c : Char) : (digitValue? c).isSome = isHexDigit c := by
  unfold digitValue? isHexDigit
  split
  · next decimal => simp [decimal]
  · next notDecimal =>
      split
      · next lower => simp [lower]
      · next notLower =>
          split
          · next upper => simp [upper]
          · next notUpper =>
              simp only [← Bool.decide_and, decide_eq_false notDecimal, decide_eq_false notLower,
                decide_eq_false notUpper]
              rfl

/-- The value of a digit is that of its small form. -/
theorem map_lowerDigit_digitValue? :
    ∀ digit ∈ hexDigits, (digitValue? digit).map lowerDigit = some digit.toLower := by
  have all : hexDigits.all fun digit =>
      (digitValue? digit).map lowerDigit = some digit.toLower := by
    decide
  intro digit member
  exact of_decide_eq_true (List.all_eq_true.1 all digit member)

theorem digitValue?_spelled :
    ∀ digit capital, digitValue? (spelled digit capital) = some digit := by
  decide

theorem lowerDigit_injective : ∀ left right, lowerDigit left = lowerDigit right → left = right := by
  decide

/-! ## Reading digit by digit -/

variable {text other : String} {address left right : Address}

theorem eq_iff_digits : left = right ↔ left.digits = right.digits := by
  cases left
  cases right
  exact Iff.of_eq (mk.injEq ..)

theorem mapM_eq_some_iff {α β : Type} {f : α → Option β} {items : List α} {values : List β} :
    items.mapM f = some values ↔ items.map f = values.map some := by
  induction items generalizing values with
  | nil => cases values <;> simp
  | cons item rest inductionHypothesis =>
      rw [List.mapM_cons]
      cases values with
      | nil => simp [Option.bind_eq_some_iff]
      | cons value others =>
          simp [Option.bind_eq_some_iff, inductionHypothesis]

/-- An address is read from a text whose core spells its digits. -/
theorem read_eq_ok_iff :
    read text = .ok address ↔ (core text).map digitValue? = address.digits.map some := by
  rw [← mapM_eq_some_iff, ← withoutMark_marked]
  unfold read
  dsimp only
  split
  · next unread => simp [unread]
  · next digits known =>
      rw [known]
      split
      · next forty => simp [eq_iff_digits]
      · next notForty =>
          constructor
          · intro impossible
            cases impossible
          · intro equal
            cases Option.some.inj equal
            exact absurd address.length_eq notForty

/-- What can be read has a core of forty hexadecimal digits, and nothing else is asked of it. -/
theorem exists_read_iff : (∃ address, read text = .ok address) ↔ FortyDigits (core text) := by
  constructor
  · rintro ⟨address, known⟩
    have spelled := read_eq_ok_iff.1 known
    have forty := congrArg List.length spelled
    rw [List.length_map, List.length_map, address.length_eq] at forty
    refine ⟨forty, ?_⟩
    intro digit member
    have valued : digitValue? digit ∈ address.digits.map some := by
      rw [← spelled]
      exact List.mem_map_of_mem member
    obtain ⟨value, _, known⟩ := List.mem_map.1 valued
    rw [← isHexDigit_eq_true_iff, ← digitValue?_isSome, ← known, Option.isSome_some]
  · rintro ⟨forty, digits⟩
    let values := (core text).map fun digit => (digitValue? digit).getD 0
    refine ⟨⟨values, (List.length_map ..).trans forty⟩, read_eq_ok_iff.2 ?_⟩
    rw [List.map_map]
    apply List.map_congr_left
    intro digit member
    have valued : (digitValue? digit).isSome = true := by
      rw [digitValue?_isSome, isHexDigit_eq_true_iff]
      exact digits digit member
    obtain ⟨value, known⟩ := Option.isSome_iff_exists.1 valued
    rw [Function.comp_apply, known, Option.getD_some]

/-- The check finds the texts whose core is forty hexadecimal digits. -/
theorem isValid_iff : isValid text = true ↔ FortyDigits (core text) := by
  simp only [isValid, withoutMark_marked, FortyDigits, Bool.and_eq_true, beq_iff_eq,
    List.all_eq_true, isHexDigit_eq_true_iff]

theorem isValid_iff_exists_read : isValid text = true ↔ ∃ address, read text = .ok address :=
  isValid_iff.trans exists_read_iff.symm

theorem isValid_eq_isOk (text : String) : isValid text = (read text).isOk := by
  rw [Bool.eq_iff_iff, isValid_iff_exists_read]
  cases read text <;> simp [Except.isOk, Except.toBool]

/-- The address has the digits of the core, in small letters. -/
theorem map_toLower_core (known : read text = .ok address) :
    (core text).map Char.toLower = address.digits.map lowerDigit := by
  have digits := (exists_read_iff.1 ⟨address, known⟩).2
  have spelled := congrArg (List.map (Option.map lowerDigit)) (read_eq_ok_iff.1 known)
  rw [List.map_map, List.map_map] at spelled
  apply List.map_injective_iff.2 fun _ _ => Option.some.inj
  rw [List.map_map, List.map_map]
  calc
    (core text).map (some ∘ Char.toLower)
        = (core text).map (Option.map lowerDigit ∘ digitValue?) := by
          apply List.map_congr_left
          intro digit member
          exact (map_lowerDigit_digitValue? digit (digits digit member)).symm
    _ = address.digits.map (some ∘ lowerDigit) := spelled

/-! ## Reading what was written -/

theorem exists_spelled_of_mem {digits : List (Fin 16)} {chosen : List Bool} {c : Char}
    (member : c ∈ mixedCase digits chosen) : ∃ digit capital, c = spelled digit capital := by
  obtain ⟨place, found⟩ := List.mem_iff_getElem?.1 member
  rw [getElem?_mixedCase, Option.map_eq_some_iff] at found
  obtain ⟨digit, _, written⟩ := found
  exact ⟨digit, _, written.symm⟩

theorem isBlank_spelled : ∀ digit capital, Text.isBlank (spelled digit capital) = false := by
  decide

/-- The core of a written address is what stands behind the mark. -/
theorem core_text (address : Address) :
    core address.text = mixedCase address.digits (capitals address.digits) := by
  have unblank : ∀ c ∈ '0' :: 'x' :: mixedCase address.digits (capitals address.digits),
      Text.isBlank c = false := by
    intro c member
    rcases List.mem_cons.1 member with rfl | later
    · decide
    · rcases List.mem_cons.1 later with rfl | written
      · decide
      · obtain ⟨digit, capital, rfl⟩ := exists_spelled_of_mem written
        exact isBlank_spelled digit capital
  rw [core, text, String.toList_ofList, Text.trim, Text.trimBy_eq_self unblank, withoutMark]

theorem map_digitValue?_mixedCase (digits : List (Fin 16)) (chosen : List Bool) :
    (mixedCase digits chosen).map digitValue? = digits.map some := by
  apply List.ext_getElem?
  intro place
  rw [List.getElem?_map, List.getElem?_map, getElem?_mixedCase, Option.map_map]
  exact congrArg (Option.map · digits[place]?)
    (funext fun digit => digitValue?_spelled digit _)

/-- A written address is read as this address. -/
theorem read_text (address : Address) : read address.text = .ok address := by
  rw [read_eq_ok_iff, core_text, map_digitValue?_mixedCase]

theorem fortyDigits_mixedCase (address : Address) :
    FortyDigits (mixedCase address.digits (capitals address.digits)) := by
  rw [← core_text]
  exact exists_read_iff.1 ⟨address, read_text address⟩

theorem text_injective (same : left.text = right.text) : left = right := by
  have read := read_text left
  rw [same, read_text right] at read
  exact (Except.ok.inj read).symm

/-- Two texts are read as one address exactly if their cores differ in case only. -/
theorem eq_iff_map_toLower_core (first : read text = .ok left) (second : read other = .ok right) :
    left = right ↔ (core text).map Char.toLower = (core other).map Char.toLower := by
  rw [map_toLower_core first, map_toLower_core second,
    (List.map_injective_iff.2 lowerDigit_injective).eq_iff, eq_iff_digits]

/-- **The check and the reading agree.** A text passes the check exactly if it can be read, and
exactly if its core is forty hexadecimal digits. What is then written is the mark and forty
hexadecimal digits, which are those of the core up to case; it passes the check, and it is read as
the same address, so that writing it again changes nothing. Two texts that can be read are written
alike exactly if their cores differ in case only. -/
theorem check_and_reading_agree (text : String) :
    (isValid text = true ↔ ∃ address, read text = .ok address) ∧
    (isValid text = true ↔ FortyDigits (core text)) ∧
    (∀ address, read text = .ok address →
      (∃ digits, address.text.toList = '0' :: 'x' :: digits ∧ FortyDigits digits ∧
        digits.map Char.toLower = (core text).map Char.toLower) ∧
      isValid address.text = true ∧ read address.text = .ok address) ∧
    ∀ other left right, read text = .ok left → read other = .ok right →
      (left.text = right.text ↔
        (core text).map Char.toLower = (core other).map Char.toLower) := by
  refine ⟨isValid_iff_exists_read, isValid_iff, ?_, ?_⟩
  · intro address known
    have readAgain := read_text address
    refine ⟨⟨_, String.toList_ofList, fortyDigits_mixedCase address, ?_⟩,
      isValid_iff_exists_read.2 ⟨address, readAgain⟩, readAgain⟩
    rw [toLower_mixedCase, map_toLower_core known]
  · intro other left right first second
    rw [← eq_iff_map_toLower_core first second]
    exact ⟨text_injective, congrArg Address.text⟩

/-- A text with blanks and a mark in capitals, and the bare digits in small letters. -/
theorem check_and_reading_agree_capitals :
    ∃ left right,
      read " 0XCA5B5811C0C40AAB3295F932B1B5112EB7BB4BD6\n" = .ok left ∧
      read "ca5b5811c0c40aab3295f932b1b5112eb7bb4bd6" = .ok right ∧
      isValid left.text = true ∧ read left.text = .ok left ∧ left.text = right.text := by
  have padded := check_and_reading_agree " 0XCA5B5811C0C40AAB3295F932B1B5112EB7BB4BD6\n"
  have bare := check_and_reading_agree "ca5b5811c0c40aab3295f932b1b5112eb7bb4bd6"
  obtain ⟨accepts, _, written, alike⟩ := padded
  obtain ⟨left, first⟩ := accepts.1 (by decide)
  obtain ⟨right, second⟩ := bare.1.1 (by decide)
  obtain ⟨_, valid, again⟩ := written left first
  exact ⟨left, right, first, second, valid, again, (alike _ left right first second).2 (by decide)⟩

/-- Only one mark is taken away, and blanks inside are not. -/
example :
    isValid "0x0xca5b5811c0c40aab3295f932b1b5112eb7bb4bd6" = false ∧
      isValid "0x ca5b5811c0c40aab3295f932b1b5112eb7bb4bd6" = false := by
  decide

end Address

end PackageStore
