import PackageStore.Proofs.Number.NotANumber
import PackageStore.Proofs.Schema.Decides
import PackageStore.Settings

/-!
Contract: the intervals among the settings.

Owns: which value is given to a field that is not a map, which values stand for not-a-number, and
that the intervals of loaded settings are positive exactly where no such value is given to them.
-/

set_option autoImplicit false

namespace PackageStore

namespace Schema

/-! ## Numbers -/

/-- The number not-a-number, or a text that spells its name. -/
def StandsForNan : Json → Prop
  | .float value => value = .nan
  | .string text => ∃ name, text.plain? = some name ∧ Number.SpellsNan name.toList
  | _ => False

theorem checkNumber_eq_nan_iff (value : Json) :
    checkNumber value = .ok .nan ↔ StandsForNan value := by
  cases value with
  | null | array | object => simp [checkNumber, StandsForNan, Checked.fault]
  | bool value => simp [checkNumber, StandsForNan, Binary64.ofInt_ne_nan]
  | int value =>
      have number := Binary64.ofInt_ne_nan value
      simp only [checkNumber, StandsForNan, iff_false]
      split
      · simp [Checked.fault]
      · simpa using number
  | float value => simp [checkNumber, StandsForNan]
  | string text =>
      simp only [checkNumber, StandsForNan, ← Number.readDecimalText_eq_nan_iff]
      cases text.plain? with
      | none => simp [Checked.fault]
      | some name =>
          simp only [Option.some.injEq, exists_eq_left']
          cases Number.readDecimalText name.toList <;> simp [Checked.fault]

end Schema

namespace Settings

open Schema

/-! ## Given values -/

section Given

variable {environment : List (String × String)} {arguments : List (Text × Json)}

/-- The value given to a field that is not a map: the one among the arguments, else the text in the
environment. -/
def given? (environment : List (String × String)) (arguments : List (Text × Json))
    (field : String) : Option Json :=
  (argumentValue arguments field).or ((environmentText? environment field).map Json.text)

theorem overlay_text (text : Option String) (above : Option Json) :
    overlay (text.map Json.text) above = above.or (text.map Json.text) := by
  cases text <;> cases above <;> rfl

/-- What is collected for a field, and nothing for the names that are not asked for. -/
theorem lookup_collect {names : List String} {values : List (Text × Json)}
    (collected : collect environment arguments names = .ok values) (field : String) :
    (field ∉ names → Json.lookup field values = none) ∧
      (field ∈ names → ∃ below, environmentValue environment field = .ok below ∧
        Json.lookup field values = overlay below (argumentValue arguments field)) := by
  induction names generalizing values with
  | nil =>
      cases collected
      exact ⟨fun _ => rfl, nofun⟩
  | cons name rest inductionHypothesis =>
      simp only [collect] at collected
      split at collected
      · cases collected
      next below read =>
      split at collected
      · cases collected
      next later collectedLater =>
      obtain ⟨absent, listed⟩ := inductionHypothesis collectedLater
      by_cases same : name = field
      · subst same
        refine ⟨fun outside => absurd List.mem_cons_self outside, fun _ => ⟨below, read, ?_⟩⟩
        split at collected
        · next value laid =>
            cases collected
            simp [Json.lookup, laid]
        · next laid =>
            cases collected
            rw [laid]
            -- A name that is asked for twice has no value the second time either.
            by_cases again : name ∈ rest
            · obtain ⟨belowAgain, readAgain, found⟩ := listed again
              rw [found]
              cases read.symm.trans readAgain
              exact laid
            · exact absent again
      · have skipped : Json.lookup field values = Json.lookup field later := by
          split at collected
          · cases collected
            simp [Json.lookup, same]
          · cases collected
            rfl
        rw [skipped, List.mem_cons, or_iff_right (Ne.symm same)]
        exact ⟨absent, listed⟩

theorem lookup_given {values : List (Text × Json)} {field : String}
    (collected : collect environment arguments fields = .ok values) (listed : field ∈ fields)
    (notMap : field ≠ fields.addressField) :
    Json.lookup field values = given? environment arguments field := by
  obtain ⟨below, read, found⟩ := (lookup_collect collected field).2 listed
  have text : below = (environmentText? environment field).map Json.text := by
    unfold environmentValue at read
    split at read
    · next absent =>
        cases read
        rw [absent]
        rfl
    · next present =>
        rw [if_neg notMap] at read
        cases read
        rw [present]
        rfl
  rw [found, text, overlay_text, given?]

end Given

/-! ## Intervals -/

theorem intervals_of_check {values : List (Text × Json)} {settings : Settings}
    (checked : check values = .ok settings) :
    optional "request_timeout" default.requestTimeout checkInterval values =
        .ok settings.requestTimeout ∧
      optional "wallet_poll_interval" default.pollInterval checkInterval values =
        .ok settings.pollInterval := by
  simp only [check, Checked.both_eq_ok_iff] at checked
  obtain ⟨_, _, _, ⟨timeout, _, timeoutRead, ⟨interval, _, intervalRead, _, rfl⟩, rfl⟩, rfl⟩ :=
    checked
  exact ⟨timeoutRead, intervalRead⟩

/-- The value given to a field stands for not-a-number. -/
def GivenAsNan (environment : List (String × String)) (arguments : List (Text × Json))
    (field : String) : Prop :=
  ∃ value, given? environment arguments field = some value ∧ StandsForNan value

/-- An interval compares as greater than zero exactly where its field is not given as
not-a-number, and is not-a-number elsewhere. -/
structure PositiveUnlessNan (environment : List (String × String))
    (arguments : List (Text × Json)) (field : String) (interval : Binary64) : Prop where
  positive_iff : interval.isPositive = true ↔ ¬ GivenAsNan environment arguments field
  nan_iff : interval = .nan ↔ GivenAsNan environment arguments field

theorem checkInterval_eq_ok_iff (value : Json) (interval : Binary64) :
    checkInterval value = .ok interval ↔
      checkNumber value = .ok interval ∧ interval.isAtMostZero = false := by
  unfold checkInterval
  cases checkNumber value with
  | error issues => simp
  | ok number =>
      dsimp only
      split
      · next small =>
          simp only [Checked.fault, reduceCtorEq, Except.ok.injEq, false_iff]
          rintro ⟨rfl, large⟩
          rw [small] at large
          cases large
      · next large =>
          simp only [Except.ok.injEq]
          constructor
          · rintro rfl
            exact ⟨rfl, by simpa using large⟩
          · exact And.left

/-- One interval, whatever its field and its default are. -/
theorem positive_unless_nan {environment : List (String × String)}
    {arguments values : List (Text × Json)} {field : String} {absent interval : Binary64}
    (found : Json.lookup field values = given? environment arguments field)
    (read : optional field absent checkInterval values = .ok interval)
    (absentPositive : absent.isPositive = true) :
    PositiveUnlessNan environment arguments field interval := by
  have notSmall : interval.isAtMostZero = false ∧
      (interval = .nan ↔ GivenAsNan environment arguments field) := by
    unfold GivenAsNan
    unfold Schema.optional at read
    rw [found] at read
    cases present : given? environment arguments field with
    | none =>
        rw [present] at read
        obtain rfl := Except.ok.inj read
        obtain ⟨number, large⟩ := (Binary64.isPositive_iff_not_isAtMostZero _).1 absentPositive
        exact ⟨large, by simpa using number⟩
    | some value =>
        rw [present] at read
        obtain ⟨number, large⟩ :=
          (checkInterval_eq_ok_iff value interval).1 (Checked.under_eq_ok_iff.1 read)
        refine ⟨large, ?_⟩
        simp only [Option.some.injEq, exists_eq_left', ← checkNumber_eq_nan_iff, number,
          Except.ok.injEq]
  obtain ⟨large, nan⟩ := notSmall
  refine ⟨?_, nan⟩
  rw [Binary64.isPositive_iff_not_isAtMostZero, ← nan]
  simp [large]

/-- The intervals of loaded settings are positive, unless they are given as not-a-number. -/
theorem load_intervals {environment : List (String × String)}
    {arguments : List (Text × Json)} {settings : Settings}
    (loaded : load environment arguments = .ok settings) :
    PositiveUnlessNan environment arguments "request_timeout" settings.requestTimeout ∧
      PositiveUnlessNan environment arguments "wallet_poll_interval" settings.pollInterval := by
  unfold load at loaded
  split at loaded
  · cases loaded
  next values collected =>
  split at loaded
  · next checked =>
      cases loaded
      obtain ⟨timeoutRead, intervalRead⟩ := intervals_of_check checked
      exact ⟨positive_unless_nan (lookup_given collected (by decide) (by decide)) timeoutRead
          (by decide),
        positive_unless_nan (lookup_given collected (by decide) (by decide)) intervalRead
          (by decide)⟩
  · cases loaded

/-- A timeout with underscores among the arguments, beside a padded name in the environment. -/
theorem load_intervals_named :
    let environment := [("PKGSTORE_WALLET_POLL_INTERVAL", " NaN ")]
    let arguments := [((.ofString "request_timeout" : Text), .text "1_0e-1")]
    load environment arguments =
        .ok { default with requestTimeout := .ofInt 1, pollInterval := .nan } ∧
      PositiveUnlessNan environment arguments "request_timeout" (.ofInt 1) ∧
      PositiveUnlessNan environment arguments "wallet_poll_interval" .nan := by
  have loaded : load [("PKGSTORE_WALLET_POLL_INTERVAL", " NaN ")]
      [((.ofString "request_timeout" : Text), .text "1_0e-1")] =
        .ok { default with requestTimeout := .ofInt 1, pollInterval := .nan } := by
    rfl
  exact ⟨loaded, load_intervals loaded⟩

/-- The interval between two polls need not be a positive number. -/
theorem loads_nan_interval :
    ¬ ∀ environment arguments settings, load environment arguments = .ok settings →
      settings.requestTimeout.isPositive = true ∧ settings.pollInterval.isPositive = true := by
  intro positive
  have loaded : load [("PKGSTORE_WALLET_POLL_INTERVAL", "nan")] [] =
      .ok { default with pollInterval := .nan } := by
    rfl
  have interval := (positive _ _ _ loaded).2
  cases interval

end Settings

end PackageStore
