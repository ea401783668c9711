import PackageStore.Proofs.Deployment.Merging

/-!
Contract: which listings are refused, as tables of their own and as entries of a merge.

Owns: where the last value under a chain stands in a listing; which bad entries are hidden behind
later ones; that a listing is refused for any bad entry, and a merge only for one that is not
hidden; and the listings on which the two differ.

A table is built entry by entry, and every value is checked as it comes. A merge converts all keys
first, so that under each chain only the last value is left when the values are checked.
-/

set_option autoImplicit false

namespace PackageStore.Deployments

variable {role : Role} {table : Deployments} {entries before after : Listing}
  {bad : ChainKey × Json}

/-- The outcome is a refusal of the configuration. -/
def IsRefused (outcome : Except Failure Deployments) : Prop :=
  ∃ fault, outcome = .error (.configuration fault)

/-! ## Where the last value under a chain stands -/

theorem latest?_eq_none_iff {chain : Chain} :
    latest? chain entries = none ↔ chain ∉ chains entries :=
  OrderedMap.last?_eq_none_iff

/-- A single entry decides about the chain that its key stands for. -/
theorem latest?_singleton {key : ChainKey} {chain : Chain} {value given : Json} :
    latest? chain [(key, given)] = some value ↔ key.chain = .ok chain ∧ given = value := by
  cases known : key.chain with
  | error reason =>
      have nothing : named [(key, given)] = [] := by
        rw [named, List.filterMap_cons, known]
        rfl
      rw [latest?, nothing]
      constructor
      · intro decided
        cases decided
      · rintro ⟨converted, -⟩
        cases converted
  | ok own =>
      have one : named [(key, given)] = [(own, given)] := named_cons known given []
      rw [latest?, one, OrderedMap.last?_singleton, Except.ok.injEq]
      by_cases same : own = chain <;> simp [same]

/-- An entry decides about its chain if no later entry names the chain. -/
theorem latest?_of_last {key : ChainKey} {chain : Chain} (known : key.chain = .ok chain)
    (value : Json) (last : chain ∉ chains after) :
    latest? chain (before ++ (key, value) :: after) = some value := by
  have single : latest? chain [(key, value)] = some value := latest?_singleton.2 ⟨known, rfl⟩
  rw [latest?_append, ← List.singleton_append, latest?_append, latest?_eq_none_iff.2 last, single]
  rfl

/-- The last value under a chain stands in an entry for the chain, behind which no entry names the
chain. -/
theorem exists_last_of_latest? {chain : Chain} {value : Json}
    (latest : latest? chain entries = some value) :
    ∃ before key after, entries = before ++ (key, value) :: after ∧ key.chain = .ok chain ∧
      chain ∉ chains after := by
  induction entries with
  | nil => cases latest
  | cons entry rest inductionHypothesis =>
      rw [← List.singleton_append, latest?_append] at latest
      cases later : latest? chain rest with
      | some found =>
          rw [later, Option.some_or] at latest
          obtain ⟨before, key, after, same, known, last⟩ := inductionHypothesis (later.trans latest)
          exact ⟨entry :: before, key, after, by rw [same]; rfl, known, last⟩
      | none =>
          obtain ⟨key, given⟩ := entry
          rw [later, Option.none_or] at latest
          obtain ⟨known, rfl⟩ := latest?_singleton.1 latest
          exact ⟨[], key, rest, rfl, known, latest?_eq_none_iff.1 later⟩

/-! ## Bad entries, and bad entries that are hidden -/

/-- A later entry names the chain that this one stands for. -/
def Hidden (entry : ChainKey × Json) (after : Listing) : Prop :=
  ∃ chain, entry.1.chain = .ok chain ∧ chain ∈ chains after

/-- What can be merged are the listings in which every bad entry is hidden. -/
theorem mergeable_iff_hidden :
    Mergeable entries ↔ ∀ before bad after, entries = before ++ bad :: after →
      ¬ IsDeployment bad → Hidden bad after := by
  constructor
  · intro mergeable before bad after same notDeployment
    obtain ⟨chain, known⟩ := mergeable.keys bad (by simp [same])
    by_contra exposed
    have last : chain ∉ chains after := fun named => exposed ⟨chain, known, named⟩
    have decides : latest? chain entries = some bad.2 := by
      rw [same]
      exact latest?_of_last known bad.2 last
    exact notDeployment ⟨⟨chain, known⟩, mergeable.values chain bad.2 decides⟩
  · intro hidden
    constructor
    · intro entry member
      obtain ⟨before, after, same⟩ := List.append_of_mem member
      by_cases deployment : IsDeployment entry
      · exact deployment.key
      · obtain ⟨chain, known, _⟩ := hidden before entry after same deployment
        exact ⟨chain, known⟩
    · intro chain value latest
      obtain ⟨before, key, after, same, known, last⟩ := exists_last_of_latest? latest
      by_contra notAddress
      have notDeployment : ¬ IsDeployment (key, value) := fun deployment =>
        notAddress deployment.value
      obtain ⟨other, knownToo, named⟩ := hidden before (key, value) after same notDeployment
      cases known.symm.trans knownToo
      exact last named

/-! ## What is refused -/

/-- A listing without entries that escape is refused as invalid configuration or not at all. -/
theorem ofListing_refused_iff (harmless : ∀ entry ∈ entries, ¬ Escapes entry) :
    IsRefused (ofListing role entries) ↔ ∃ bad ∈ entries, ¬ IsDeployment bad := by
  constructor
  · rintro ⟨fault, refused⟩
    by_contra allGood
    have deployments : ∀ entry ∈ entries, IsDeployment entry := by simpa using allGood
    obtain ⟨addresses, built, _⟩ := ofListing_of_deployments role deployments
    cases built.symm.trans refused
  · rintro ⟨bad, member, notDeployment⟩
    have refusal : entries.findSome? (refusal? role) ≠ none := fun unrefused =>
      notDeployment ((findSome?_refusal?_eq_none_iff role).1 unrefused bad member)
    obtain ⟨failure, first⟩ := Option.ne_none_iff_exists'.1 refusal
    obtain ⟨refused, isMember, raised⟩ := List.exists_of_findSome?_eq_some first
    obtain ⟨fault, rfl⟩ :=
      (raises_of_refusal? raised).isConfiguration_iff.2 (harmless refused isMember)
    exact ⟨fault, by rw [ofListing, addEntries_of_refused first]⟩

/-- A merge that does not come to the values is refused for its first key that stands for no
chain. -/
theorem exists_unconverted_of_overlay {values : OrderedMap Chain Json} {failure : Failure}
    (refused : overlay role values entries = .error failure) :
    ∃ before bad after, entries = before ++ bad :: after ∧ (∀ entry ∈ before, Converts entry) ∧
      ¬ Converts bad ∧ refusal? role bad = some failure := by
  induction entries generalizing values with
  | nil => cases refused
  | cons entry rest inductionHypothesis =>
      obtain ⟨key, value⟩ := entry
      unfold overlay chainOf at refused
      cases known : key.chain with
      | ok chain =>
          simp only [known] at refused
          obtain ⟨before, bad, after, same, converts, raised⟩ := inductionHypothesis refused
          refine ⟨(key, value) :: before, bad, after, by rw [same]; rfl, ?_, raised⟩
          exact List.forall_mem_cons.2 ⟨⟨chain, known⟩, converts⟩
      | error reason =>
          refine ⟨[], (key, value), rest, rfl, List.forall_mem_nil _, ?_, ?_⟩
          · rintro ⟨chain, converted⟩
            cases known.symm.trans converted
          · cases reason <;> simpa [refusal?, known] using refused

/-- What is left of harmless entries over a table is harmless. -/
theorem not_escapes_listed (harmless : ∀ entry ∈ entries, ¬ Escapes entry) :
    ∀ entry ∈ listed (table.texts.insertAll (named entries)), ¬ Escapes entry := by
  rintro entry member (infinite | unwritable)
  · exact infinite.not_converts (converts_listed _ entry member)
  · obtain ⟨⟨chain, value⟩, inside, rfl⟩ := List.mem_map.1 member
    obtain ⟨own, converted, invalid, long⟩ := unwritable
    cases converted
    have found := OrderedMap.get?_of_mem _ inside
    rw [get?_insertAll_named, Option.or_eq_some_iff] at found
    rcases found with given | ⟨_, kept⟩
    · obtain ⟨before, key, after, rfl, known, _⟩ := exists_last_of_latest? given
      exact harmless (key, value) (by simp) (.inr ⟨chain, known, invalid, long⟩)
    · exact Bool.false_ne_true (invalid.symm.trans (table.isAddress_of_texts kept))

/-- Entries of which none escapes are merged or refused as invalid configuration. -/
theorem merged_refused_iff (harmless : ∀ entry ∈ entries, ¬ Escapes entry) :
    IsRefused (table.merged entries) ↔ ¬ Mergeable entries := by
  constructor
  · rintro ⟨fault, refused⟩ mergeable
    obtain ⟨merged, merges⟩ := table.exists_merged_iff.2 mergeable
    cases merges.symm.trans refused
  · intro notMergeable
    cases laid : overlay table.role table.texts entries with
    | error failure =>
        obtain ⟨before, bad, after, rfl, -, -, raised⟩ := exists_unconverted_of_overlay laid
        obtain ⟨fault, rfl⟩ :=
          (raises_of_refusal? raised).isConfiguration_iff.2 (harmless bad (by simp))
        exact ⟨fault, by rw [merged, laid]⟩
    | ok combined =>
        have outcome : table.merged entries = ofListing table.role (listed combined) := by
          rw [merged, laid]
        obtain ⟨_, rfl⟩ := overlay_eq_ok_iff.1 laid
        rw [outcome, ofListing_refused_iff (not_escapes_listed harmless)]
        by_contra allGood
        have deployments :
            ∀ entry ∈ listed (table.texts.insertAll (named entries)), IsDeployment entry := by
          simpa using allGood
        obtain ⟨addresses, built, _⟩ := ofListing_of_deployments table.role deployments
        exact notMergeable (mergeable_of_merged (outcome.trans built))

/-! ## Where the two differ -/

/-- Something in the listing is bad, and all that is bad is hidden. -/
structure Masked (entries : Listing) : Prop where
  isBad : ∃ bad ∈ entries, ¬ IsDeployment bad
  hidden : ∀ before bad after, entries = before ++ bad :: after →
    ¬ IsDeployment bad → Hidden bad after

/-- A listing whose bad entries are all hidden is merged, and refused as a table of its own. -/
theorem Masked.outcomes (masked : Masked entries)
    (harmless : ∀ entry ∈ entries, ¬ Escapes entry) (table : Deployments) :
    (∃ merged, table.merged entries = .ok merged) ∧
      IsRefused (ofListing table.role entries) := by
  constructor
  · rw [exists_merged_iff, mergeable_iff_hidden]
    exact masked.hidden
  · rw [ofListing_refused_iff harmless]
    exact masked.isBad

/-- **A merge overlooks bad entries that are hidden.** Let no key be infinite, and let the refusal
of every bad value be one that can be written. A listing is refused as a table of its own exactly if
some entry is no deployment. Merged into a table, whatever the table holds, it is refused exactly if
some entry is no deployment and no later entry names its chain. So the two agree on every listing
except one whose bad entries are all hidden, and this one is merged. -/
theorem merging_refuses_exposed (table : Deployments) (entries : Listing)
    (harmless : ∀ entry ∈ entries, ¬ Escapes entry) :
    (IsRefused (ofListing table.role entries) ↔ ∃ bad ∈ entries, ¬ IsDeployment bad) ∧
    (IsRefused (table.merged entries) ↔
      ∃ before bad after, entries = before ++ bad :: after ∧ ¬ IsDeployment bad ∧
        ¬ Hidden bad after) ∧
    ((IsRefused (table.merged entries) ↔ IsRefused (ofListing table.role entries)) ↔
      ¬ Masked entries) ∧
    (Masked entries → ∃ merged, table.merged entries = .ok merged) := by
  have construction : IsRefused (ofListing table.role entries) ↔
      ∃ bad ∈ entries, ¬ IsDeployment bad := ofListing_refused_iff harmless
  have merging : IsRefused (table.merged entries) ↔
      ∃ before bad after, entries = before ++ bad :: after ∧ ¬ IsDeployment bad ∧
        ¬ Hidden bad after := by
    rw [merged_refused_iff harmless, mergeable_iff_hidden]
    simp only [not_forall, exists_prop]
  refine ⟨construction, merging, ?_, fun masked => (masked.outcomes harmless table).1⟩
  constructor
  · intro agree masked
    obtain ⟨before, bad, after, same, notDeployment, exposed⟩ :=
      merging.1 (agree.2 (masked.outcomes harmless table).2)
    exact exposed (masked.hidden before bad after same notDeployment)
  · intro unmasked
    constructor
    · intro refused
      obtain ⟨before, bad, after, same, notDeployment, _⟩ := merging.1 refused
      exact construction.2 ⟨bad, by simp [same], notDeployment⟩
    · intro refused
      rw [merged_refused_iff harmless, mergeable_iff_hidden]
      intro hidden
      exact unmasked ⟨construction.1 refused, hidden⟩

/-- A text that is no address under chain 1, which the next entry names by another key. -/
def maskedListing : Listing :=
  [(.text "1", .text "0x44"), (.int 1, .text "0x1111111111111111111111111111111111111111")]

theorem maskedListing_harmless : ∀ entry ∈ maskedListing, ¬ Escapes entry := by
  have long : IsDeployment (.int 1, .text "0x1111111111111111111111111111111111111111") :=
    ⟨⟨1, rfl⟩, by decide⟩
  intro entry member
  rcases List.mem_cons.1 member with rfl | second
  · exact not_escapes_short (by decide)
  · rw [List.mem_singleton.1 second]
    exact fun escapes => escapes.not_isDeployment long

theorem maskedListing_masked : Masked maskedListing := by
  have long : IsDeployment (.int 1, .text "0x1111111111111111111111111111111111111111") :=
    ⟨⟨1, rfl⟩, by decide⟩
  constructor
  · exact ⟨_, List.mem_cons_self, not_isDeployment_short _⟩
  · intro before bad after same notDeployment
    match before, same with
    | [], same =>
        cases same
        exact ⟨1, by decide, by decide⟩
    | [_], same =>
        cases same
        exact absurd long notDeployment
    | _ :: _ :: _, same => simp [maskedListing] at same

/-- A merge refuses the short text alone, and overlooks it behind the entry that hides it. -/
theorem merging_refuses_exposed_hidden :
    (∀ entry ∈ maskedListing, ¬ Escapes entry) ∧
      IsRefused ((empty .packageStore).merged (maskedListing.take 1)) ∧
      IsRefused (ofListing .packageStore maskedListing) ∧
      ∃ merged, (empty .packageStore).merged maskedListing = .ok merged := by
  have alone : ∀ entry ∈ maskedListing.take 1, ¬ Escapes entry := fun entry member =>
    maskedListing_harmless entry (List.mem_of_mem_take member)
  obtain ⟨-, exposed, -, -⟩ :=
    merging_refuses_exposed (empty .packageStore) (maskedListing.take 1) alone
  obtain ⟨construction, -, -, merges⟩ :=
    merging_refuses_exposed (empty .packageStore) maskedListing maskedListing_harmless
  have shown : ¬ Hidden (.text "1", .text "0x44") [] := by
    rintro ⟨chain, -, named⟩
    cases named
  exact ⟨maskedListing_harmless,
    exposed.2 ⟨[], _, [], rfl, not_isDeployment_short _, shown⟩,
    construction.2 maskedListing_masked.isBad, merges maskedListing_masked⟩

/-- With integers and texts as keys, a merge does not refuse everything that a table of its own
refuses. -/
theorem merges_refused_listing :
    ¬ ∀ (table : Deployments) (entries : Listing),
      (∀ entry ∈ entries, (∃ number, entry.1 = .int number) ∨ ∃ text, entry.1 = .text text) →
        (IsRefused (table.merged entries) ↔ IsRefused (ofListing table.role entries)) := by
  intro agree
  have keys : ∀ entry ∈ maskedListing,
      (∃ number, entry.1 = .int number) ∨ ∃ text, entry.1 = .text text := by
    intro entry member
    rcases List.mem_cons.1 member with rfl | second
    · exact .inr ⟨"1", rfl⟩
    · rw [List.mem_singleton.1 second]
      exact .inl ⟨1, rfl⟩
  obtain ⟨⟨merged, merges⟩, refused⟩ :=
    maskedListing_masked.outcomes maskedListing_harmless (empty .packageStore)
  obtain ⟨fault, failed⟩ := (agree (empty .packageStore) maskedListing keys).2 refused
  cases merges.symm.trans failed

end PackageStore.Deployments
