import PackageStore.Address

/-!
Contract: the text of an address carries its checksum.

Owns: the mixed-case form of a text, said from the text alone; the length of the hash that the form
refers to; and the theorem that every address is written in this form.
-/

set_option autoImplicit false

namespace PackageStore

namespace Keccak

theorem tabulate_length (f : Nat → Nat → UInt64) : (tabulate f).length = 25 := by
  rw [tabulate, List.length_map, List.length_range]

theorem iota_length (constant : UInt64) (state : State) :
    (iota constant state).length = state.length := by
  cases state <;> rfl

theorem permute_length {state : State} (lanes : state.length = 25) :
    (permute state).length = 25 := by
  unfold permute
  generalize roundConstants = constants
  induction constants generalizing state with
  | nil => exact lanes
  | cons constant rest inductionHypothesis =>
      apply inductionHypothesis
      rw [iota_length]
      exact tabulate_length _

theorem absorb_length {state : State} (lanes : state.length = 25) (message : List UInt8)
    (count : Nat) : (absorb state message count).length = 25 := by
  induction count generalizing state message with
  | zero => exact lanes
  | succ count inductionHypothesis =>
      exact inductionHypothesis (permute_length (tabulate_length _)) _

theorem bytesOfLane_length (word : UInt64) : (bytesOfLane word).length = 8 := by
  rw [bytesOfLane, List.length_map, List.length_range]

theorem flatMap_bytesOfLane_length (lanes : List UInt64) :
    (lanes.flatMap bytesOfLane).length = 8 * lanes.length := by
  induction lanes with
  | nil => rfl
  | cons lane rest inductionHypothesis =>
      rw [List.flatMap_cons, List.length_append, bytesOfLane_length, inductionHypothesis,
        List.length_cons]
      omega

theorem hash256_length (message : List UInt8) : (hash256 message).length = 32 := by
  unfold hash256
  rw [flatMap_bytesOfLane_length, List.length_take,
    absorb_length (List.length_replicate ..)]
  rfl

end Keccak

namespace Address

theorem halves_length (bytes : List UInt8) : (halves bytes).length = 2 * bytes.length := by
  induction bytes with
  | nil => rfl
  | cons byte rest inductionHypothesis =>
      rw [halves, List.flatMap_cons, List.length_append, ← halves, inductionHypothesis,
        List.length_cons, List.length_cons, List.length_cons, List.length_nil]
      omega

/-! ## The mixed-case form -/

/-- The half bytes of the hash of a text in lower case. -/
def checksum (digits : List Char) : List Nat :=
  halves (Keccak.hash256 (digits.map fun digit => digit.toLower.toNat.toUInt8))

/-- The mixed-case form of an address: the mark and forty hexadecimal digits, among which a letter
is a capital exactly if the half byte at its place in the hash of the lower-case digits is at
least 8. -/
def Checksummed (text : String) : Prop :=
  ∃ digits, text.toList = '0' :: 'x' :: digits ∧ digits.length = 40 ∧
    ∀ (place : Nat) (digit : Char), digits[place]? = some digit →
      digit.toLower ∈ "0123456789abcdef".toList ∧
        (digit.isAlpha = true → ∃ half, (checksum digits)[place]? = some half ∧
          (digit.isUpper = true ↔ 8 ≤ half))

/-- A digit as it is written, as a capital or not. -/
def spelled (digit : Fin 16) (capital : Bool) : Char :=
  if capital then upperDigit digit else lowerDigit digit

theorem toLower_spelled :
    ∀ digit capital, (spelled digit capital).toLower = lowerDigit digit := by
  decide

theorem lowerDigit_mem : ∀ digit, lowerDigit digit ∈ "0123456789abcdef".toList := by
  decide

theorem isUpper_spelled :
    ∀ digit capital, (spelled digit capital).isAlpha = true →
      (spelled digit capital).isUpper = capital := by
  decide

theorem getElem?_mixedCase (digits : List (Fin 16)) (chosen : List Bool) (place : Nat) :
    (mixedCase digits chosen)[place]? =
      digits[place]?.map fun digit => spelled digit (chosen[place]?.getD false) := by
  induction digits generalizing chosen place with
  | nil => rfl
  | cons digit rest inductionHypothesis =>
      cases chosen with
      | nil =>
          cases place with
          | zero => rfl
          | succ place => exact inductionHypothesis [] place
      | cons capital later =>
          cases place with
          | zero => rfl
          | succ place => exact inductionHypothesis later place

theorem mixedCase_length (digits : List (Fin 16)) (chosen : List Bool) :
    (mixedCase digits chosen).length = digits.length := by
  induction digits generalizing chosen with
  | nil => rfl
  | cons digit rest inductionHypothesis =>
      cases chosen with
      | nil => exact congrArg (· + 1) (inductionHypothesis [])
      | cons capital later => exact congrArg (· + 1) (inductionHypothesis later)

theorem toLower_mixedCase (digits : List (Fin 16)) (chosen : List Bool) :
    (mixedCase digits chosen).map Char.toLower = digits.map lowerDigit := by
  apply List.ext_getElem?
  intro place
  rw [List.getElem?_map, List.getElem?_map, getElem?_mixedCase, Option.map_map]
  exact congrArg (Option.map · digits[place]?) (funext fun digit => toLower_spelled digit _)

/-- The text has the checksum that its capitals were chosen by. -/
theorem checksum_mixedCase (digits : List (Fin 16)) (chosen : List Bool) :
    (checksum (mixedCase digits chosen)).map (fun half => decide (8 ≤ half)) =
      capitals digits := by
  have lower := congrArg (List.map fun digit => digit.toNat.toUInt8)
    (toLower_mixedCase digits chosen)
  rw [List.map_map, List.map_map] at lower
  exact congrArg (fun bytes => (halves (Keccak.hash256 bytes)).map fun half => decide (8 ≤ half))
    lower

/-- **Every address is written with its checksum.** -/
theorem text_checksummed (address : Address) : Checksummed address.text := by
  have forty := (mixedCase_length address.digits (capitals address.digits)).trans
    address.length_eq
  refine ⟨_, String.toList_ofList, forty, ?_⟩
  intro place digit found
  have reaches :
      place < (checksum (mixedCase address.digits (capitals address.digits))).length := by
    have within := (List.getElem?_eq_some_iff.1 found).1
    rw [checksum, halves_length, Keccak.hash256_length]
    omega
  obtain ⟨half, known⟩ :
      ∃ half, (checksum (mixedCase address.digits (capitals address.digits)))[place]? = some half :=
    ⟨_, List.getElem?_eq_getElem reaches⟩
  have chosen : (capitals address.digits)[place]? = some (decide (8 ≤ half)) := by
    rw [← checksum_mixedCase address.digits (capitals address.digits), List.getElem?_map, known]
    rfl
  rw [getElem?_mixedCase, chosen, Option.getD_some, Option.map_eq_some_iff] at found
  obtain ⟨value, _, rfl⟩ := found
  refine ⟨?_, fun letter => ⟨half, known, ?_⟩⟩
  · rw [toLower_spelled]
    exact lowerDigit_mem value
  · rw [isUpper_spelled value _ letter, decide_eq_true_iff]

end Address

end PackageStore
