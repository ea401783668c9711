import PackageStore.Proofs.Deployment.Rejection

/-!
Contract: which exceptions building and merging a table let through.

Owns: the outcomes that a caller is to expect, a table or a refusal of the configuration; what it
is to reach an entry of a listing; and that building and merging come to another outcome exactly if
they reach an entry that escapes.

Building goes through a listing entry by entry. Merging first goes through the keys alone, and then
builds the table of what is left. So the two reach different entries of one listing.
-/

set_option autoImplicit false

namespace PackageStore.Deployments

variable {role : Role} {table : Deployments} {entries rest : Listing} {entry : ChainKey × Json}

/-- The outcome is a table or a refusal of the configuration. -/
def IsOrderly (outcome : Except Failure Deployments) : Prop :=
  (∃ table, outcome = .ok table) ∨ IsRefused outcome

theorem isOrderly_ok (table : Deployments) : IsOrderly (.ok table) :=
  .inl ⟨table, rfl⟩

theorem isOrderly_error_iff {failure : Failure} :
    IsOrderly (.error failure) ↔ ∃ fault, failure = .configuration fault := by
  simp [IsOrderly, IsRefused]

/-! ## Listings that reach an entry -/

/-- The listing holds an entry of the second kind behind entries of the first kind only. -/
def Reaches (passes stops : ChainKey × Json → Prop) (entries : Listing) : Prop :=
  ∃ before entry after, entries = before ++ entry :: after ∧ (∀ earlier ∈ before, passes earlier) ∧
    stops entry

section Reaches

variable {passes stops : ChainKey × Json → Prop}

theorem not_reaches_nil : ¬ Reaches passes stops [] := by
  rintro ⟨before, entry, after, same, -⟩
  simp at same

theorem reaches_cons :
    Reaches passes stops (entry :: rest) ↔
      stops entry ∨ passes entry ∧ Reaches passes stops rest := by
  constructor
  · rintro ⟨before, found, after, same, passed, stop⟩
    cases before with
    | nil =>
        cases same
        exact .inl stop
    | cons first before =>
        cases same
        obtain ⟨own, others⟩ := List.forall_mem_cons.1 passed
        exact .inr ⟨own, before, found, after, rfl, others, stop⟩
  · rintro (stop | ⟨own, before, found, after, rfl, passed, stop⟩)
    · exact ⟨[], entry, rest, rfl, List.forall_mem_nil _, stop⟩
    · exact ⟨entry :: before, found, after, rfl, List.forall_mem_cons.2 ⟨own, passed⟩, stop⟩

theorem not_reaches_of_forall (never : ∀ entry ∈ entries, ¬ stops entry) :
    ¬ Reaches passes stops entries := by
  rintro ⟨before, entry, after, rfl, -, stop⟩
  exact never entry (by simp) stop

theorem reaches_congr {halts : ChainKey × Json → Prop}
    (same : ∀ entry ∈ entries, stops entry ↔ halts entry) :
    Reaches passes stops entries ↔ Reaches passes halts entries := by
  induction entries with
  | nil => exact iff_of_false not_reaches_nil not_reaches_nil
  | cons entry rest inductionHypothesis =>
      obtain ⟨own, others⟩ := List.forall_mem_cons.1 same
      rw [reaches_cons, reaches_cons, own, inductionHypothesis others]

end Reaches

/-- The first refused entry decides whether something else is raised. -/
theorem isConfiguration_findSome?_iff {failure : Failure}
    (first : entries.findSome? (refusal? role) = some failure) :
    (∃ fault, failure = .configuration fault) ↔ ¬ Reaches IsDeployment Escapes entries := by
  induction entries with
  | nil => cases first
  | cons entry rest inductionHypothesis =>
      rw [List.findSome?_cons] at first
      rw [reaches_cons]
      cases refused : refusal? role entry with
      | none =>
          have deployment := (refusal?_eq_none_iff role).1 refused
          have passes : ¬ Escapes entry := fun escapes => escapes.not_isDeployment deployment
          rw [refused] at first
          simp only [passes, deployment, true_and, false_or]
          exact inductionHypothesis first
      | some own =>
          have notDeployment : ¬ IsDeployment entry := by
            rw [← refusal?_eq_none_iff role, refused]
            exact Option.some_ne_none own
          rw [refused, Option.some.injEq] at first
          simp only [notDeployment, false_and, or_false]
          exact (raises_of_refusal? (first ▸ refused)).isConfiguration_iff

/-! ## Building -/

theorem ofListing_of_first_refused {failure : Failure}
    (first : entries.findSome? (refusal? role) = some failure) :
    ofListing role entries = .error failure := by
  rw [ofListing, addEntries_of_refused first]

theorem ofListing_isOrderly_iff :
    IsOrderly (ofListing role entries) ↔ ¬ Reaches IsDeployment Escapes entries := by
  cases first : entries.findSome? (refusal? role) with
  | none =>
      have deployments := (findSome?_refusal?_eq_none_iff role).1 first
      obtain ⟨addresses, built, _⟩ := ofListing_of_deployments role deployments
      rw [built]
      apply iff_of_true (isOrderly_ok _)
      apply not_reaches_of_forall
      intro entry member escapes
      exact escapes.not_isDeployment (deployments entry member)
  | some failure =>
      rw [ofListing_of_first_refused first, isOrderly_error_iff]
      exact isConfiguration_findSome?_iff first

/-! ## Merging -/

theorem merged_of_refused {failure : Failure}
    (laid : overlay table.role table.texts entries = .error failure) :
    table.merged entries = .error failure := by
  rw [merged, laid]

theorem merged_of_laid {combined : OrderedMap Chain Json}
    (laid : overlay table.role table.texts entries = .ok combined) :
    table.merged entries = ofListing table.role (listed combined) := by
  rw [merged, laid]

/-- Behind keys that all stand for chains, the first other one decides what is reached. -/
theorem reaches_isInfinite_iff {before after : Listing} {bad : ChainKey × Json}
    (converts : ∀ entry ∈ before, Converts entry) (unconverted : ¬ Converts bad) :
    Reaches Converts IsInfinite (before ++ bad :: after) ↔ IsInfinite bad := by
  induction before with
  | nil =>
      rw [List.nil_append, reaches_cons]
      simp only [unconverted, false_and, or_false]
  | cons entry rest inductionHypothesis =>
      obtain ⟨own, others⟩ := List.forall_mem_cons.1 converts
      have finite : ¬ IsInfinite entry := fun infinite => infinite.not_converts own
      rw [List.cons_append, reaches_cons, inductionHypothesis others]
      simp only [finite, own, true_and, false_or]

theorem merged_isOrderly_iff :
    IsOrderly (table.merged entries) ↔
      ¬ Reaches Converts IsInfinite entries ∧
        ((∀ entry ∈ entries, Converts entry) →
          ¬ Reaches IsDeployment IsUnwritable
            (listed (table.texts.insertAll (named entries)))) := by
  cases laid : overlay table.role table.texts entries with
  | error failure =>
      obtain ⟨before, bad, after, rfl, converts, unconverted, raised⟩ :=
        exists_unconverted_of_overlay laid
      have notAll : ¬ ∀ entry ∈ before ++ bad :: after, Converts entry :=
        fun all => unconverted (all bad (by simp))
      rw [merged_of_refused laid, isOrderly_error_iff,
        (raises_of_refusal? raised).isConfiguration_iff,
        reaches_isInfinite_iff converts unconverted]
      simp only [notAll, false_imp_iff, and_true, Escapes, mt IsUnwritable.converts unconverted,
        or_false]
  | ok combined =>
      rw [merged_of_laid laid]
      obtain ⟨converts, rfl⟩ := overlay_eq_ok_iff.1 laid
      have finite : ¬ Reaches Converts IsInfinite entries :=
        not_reaches_of_forall fun entry member infinite =>
          infinite.not_converts (converts entry member)
      -- The keys of the combined listing are numbers again, so that none of them is infinite.
      have whole : Reaches IsDeployment Escapes (listed (table.texts.insertAll (named entries))) ↔
          Reaches IsDeployment IsUnwritable (listed (table.texts.insertAll (named entries))) := by
        apply reaches_congr
        intro entry member
        have converted : ¬ IsInfinite entry := fun infinite =>
          infinite.not_converts (converts_listed _ entry member)
        simp only [Escapes, converted, false_or]
      rw [ofListing_isOrderly_iff, whole, and_iff_right finite]
      exact ⟨fun unreached _ => unreached, fun unreached => unreached converts⟩

/-! ## Everything that may be raised -/

/-- The outcome is a table, a refusal of the configuration, or one of two other failures. -/
def IsForeseen (outcome : Except Failure Deployments) : Prop :=
  IsOrderly outcome ∨ outcome = .error .unboundedChain ∨ outcome = .error .tooManyDigits

theorem Raises.isForeseen {failure : Failure} (raises : Raises role entry failure) :
    IsForeseen (.error failure) := by
  unfold IsForeseen
  rw [isOrderly_error_iff, Except.error.injEq, Except.error.injEq]
  cases raises with
  | forKey | forValue => exact .inl ⟨_, rfl⟩
  | unwritten => exact .inr (.inr rfl)
  | unbounded => exact .inr (.inl rfl)

theorem ofListing_isForeseen (role : Role) (entries : Listing) :
    IsForeseen (ofListing role entries) := by
  cases first : entries.findSome? (refusal? role) with
  | none =>
      obtain ⟨addresses, built, _⟩ :=
        ofListing_of_deployments role ((findSome?_refusal?_eq_none_iff role).1 first)
      rw [built]
      exact .inl (isOrderly_ok _)
  | some failure =>
      obtain ⟨bad, _, refused⟩ := List.exists_of_findSome?_eq_some first
      rw [ofListing_of_first_refused first]
      exact (raises_of_refusal? refused).isForeseen

theorem merged_isForeseen (table : Deployments) (entries : Listing) :
    IsForeseen (table.merged entries) := by
  cases laid : overlay table.role table.texts entries with
  | error failure =>
      obtain ⟨_, bad, _, _, _, _, raised⟩ := exists_unconverted_of_overlay laid
      rw [merged_of_refused laid]
      exact (raises_of_refusal? raised).isForeseen
  | ok combined =>
      rw [merged_of_laid laid]
      exact ofListing_isForeseen table.role (listed combined)

/-- **A table or a refusal, unless an infinite key or a number of too many digits is reached.**
Building comes to a table or a refusal of the configuration, except where behind deployments alone
an entry stands whose key is infinite, or whose value is no address while the value or the chain
cannot be written in the message. Merging does except where an infinite key stands behind keys that
all stand for chains; or where all keys stand for chains, and building fails so on what the entries
leave of themselves and of the table. The only other failures are those to convert the infinite key
and to write the number. Neither is met if no entry of the listing is of these two kinds. -/
theorem orderly_unless_escape_reached (role : Role) (table : Deployments) (entries : Listing) :
    (IsOrderly (ofListing role entries) ↔ ¬ Reaches IsDeployment Escapes entries) ∧
    (IsOrderly (table.merged entries) ↔
      ¬ Reaches Converts IsInfinite entries ∧
        ((∀ entry ∈ entries, Converts entry) →
          ¬ Reaches IsDeployment IsUnwritable (listed (table.texts.insertAll (named entries))))) ∧
    IsForeseen (ofListing role entries) ∧ IsForeseen (table.merged entries) ∧
    ((∀ entry ∈ entries, ¬ Escapes entry) →
      IsOrderly (ofListing role entries) ∧ IsOrderly (table.merged entries)) := by
  refine ⟨ofListing_isOrderly_iff, merged_isOrderly_iff, ofListing_isForeseen role entries,
    table.merged_isForeseen entries, ?_⟩
  intro harmless
  constructor
  · rw [ofListing_isOrderly_iff]
    exact not_reaches_of_forall harmless
  · rw [merged_isOrderly_iff]
    constructor
    · apply not_reaches_of_forall
      intro entry member infinite
      exact harmless entry member (.inl infinite)
    · intro _
      exact not_reaches_of_forall fun entry member unwritable =>
        not_escapes_listed harmless entry member (.inr unwritable)

/-- Nothing at all under a number of too many digits. -/
theorem escapes_of_long {number : Int} (long : Number.isWritable number = false) :
    Escapes (.int number, .null) :=
  .inr ⟨number, rfl, rfl, by rw [long, Bool.and_false]⟩

/-- A text that is no address, and behind it an address under an infinite key. -/
def infiniteBehind : Listing :=
  [(.int 1, .text "0x44"),
    (.float (.infinite false), .text "0x1111111111111111111111111111111111111111")]

/-- The first entry alone is harmless. With the infinite key behind it, building refuses the first
entry, and merging fails on the key that building does not reach. A number of too many digits is
refused by neither. -/
theorem orderly_unless_escape_reached_infinite :
    (∀ entry ∈ infiniteBehind.take 1, ¬ Escapes entry) ∧
      IsOrderly ((empty .packageStore).merged (infiniteBehind.take 1)) ∧
      IsOrderly (ofListing .packageStore infiniteBehind) ∧
      ¬ IsOrderly ((empty .packageStore).merged infiniteBehind) ∧
      ¬ IsOrderly (ofListing .packageStore [(.int (Nat.pow 10 Number.maxDigits), .null)]) := by
  have harmless : ∀ entry ∈ infiniteBehind.take 1, ¬ Escapes entry := by
    simp only [infiniteBehind, List.take_succ_cons, List.take_zero, List.forall_mem_singleton]
    exact not_escapes_short (by decide)
  obtain ⟨built, extended, -⟩ :=
    orderly_unless_escape_reached .packageStore (empty .packageStore) infiniteBehind
  refine ⟨harmless, ?_, ?_, ?_, ?_⟩
  · obtain ⟨-, -, -, -, orderly⟩ :=
      orderly_unless_escape_reached .packageStore (empty .packageStore) (infiniteBehind.take 1)
    exact (orderly harmless).2
  · rw [built, infiniteBehind, reaches_cons, not_or]
    refine ⟨harmless _ (by simp [infiniteBehind]), ?_⟩
    rintro ⟨deployment, -⟩
    exact not_isDeployment_short _ deployment
  · rw [extended, not_and_or, not_not]
    have converts : ∀ earlier ∈ infiniteBehind.take 1, Converts earlier := by
      simp [infiniteBehind, Converts, ChainKey.chain]
    exact .inl ⟨infiniteBehind.take 1, _, [], rfl, converts, false, rfl⟩
  · rw [(orderly_unless_escape_reached .packageStore (empty .packageStore) _).1, not_not,
      reaches_cons]
    have long : Number.isWritable (Nat.pow 10 Number.maxDigits) = false :=
      Number.isWritable_eq_false (Nat.le_of_eq (Int.natAbs_natCast _).symm)
    exact .inl (escapes_of_long long)

/-- Bad entries are not always refused as invalid configuration. -/
theorem infinite_key_escapes :
    ¬ ∀ (role : Role) (table : Deployments) (entries : Listing),
      IsOrderly (ofListing role entries) ∧ IsOrderly (table.merged entries) := by
  intro orderly
  have built := (orderly .packageStore (empty .packageStore) (infiniteBehind.drop 1)).1
  have raised : ofListing .packageStore (infiniteBehind.drop 1) = .error .unboundedChain := rfl
  rw [raised, isOrderly_error_iff] at built
  obtain ⟨fault, impossible⟩ := built
  cases impossible

end PackageStore.Deployments
