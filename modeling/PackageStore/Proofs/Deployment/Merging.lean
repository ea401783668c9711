import PackageStore.Proofs.Deployment.Construction

/-!
Contract: a table with further entries laid over it.

Owns: which entries can be merged into a table, which does not depend on the table; what the merged
table holds, in which order; that merging nothing, and merging a table's own entries, changes
nothing; and that two merges one after the other are one merge of both listings, if the keys are
whole numbers.

A merge builds a table anew, from the texts of the old addresses and the given values. That these
texts are read as the same addresses again is what makes merges compose: below further entries,
values count only for the addresses that they stand for (`Reads.insertAll_iff`).
-/

set_option autoImplicit false

namespace PackageStore

/-! ## Whole numbers as keys -/

namespace ChainKey

variable {key other : ChainKey} {number value : Int}

theorem chain_of_integer? (whole : key.integer? = some number) : key.chain = .ok number := by
  cases key with
  | int value => cases whole; rfl
  | bool value => cases whole; rfl
  | float value => cases whole
  | text value => cases whole
  | null => cases whole

theorem agrees_of_integer? (whole : key.integer? = some number)
    (wholeToo : other.integer? = some value) : key.agrees other = (number == value) := by
  cases key <;> cases whole <;> cases other <;> cases wholeToo <;> rfl

end ChainKey

namespace Deployments

variable {role : Role} {table merged both : Deployments} {entries first second : Listing}

/-- Every key is a whole number. -/
def WholeKeys (entries : Listing) : Prop :=
  ∀ entry ∈ entries, ∃ number, entry.1.integer? = some number

theorem WholeKeys.append (wholeFirst : WholeKeys first) (wholeSecond : WholeKeys second) :
    WholeKeys (first ++ second) := by
  intro entry member
  rcases List.mem_append.1 member with inFirst | inSecond
  · exact wholeFirst entry inFirst
  · exact wholeSecond entry inSecond

/-- Whole numbers are chains. -/
theorem WholeKeys.converts (whole : WholeKeys entries) :
    ∀ entry ∈ entries, ∃ chain, entry.1.chain = .ok chain := by
  intro entry member
  obtain ⟨number, known⟩ := whole entry member
  exact ⟨number, ChainKey.chain_of_integer? known⟩

theorem wholeKeys_insertListed {key : ChainKey} {number : Int} (whole : key.integer? = some number)
    (value : Json) (wholeKeys : WholeKeys entries) :
    WholeKeys (insertListed key value entries) := by
  induction entries with
  | nil =>
      intro entry member
      rw [insertListed, List.mem_singleton] at member
      exact ⟨number, member ▸ whole⟩
  | cons head rest inductionHypothesis =>
      have rests : WholeKeys rest := fun entry member =>
        wholeKeys entry (List.mem_cons_of_mem _ member)
      rw [insertListed]
      split
      · intro entry member
        rcases List.mem_cons.1 member with rfl | later
        · exact wholeKeys head List.mem_cons_self
        · exact rests entry later
      · intro entry member
        rcases List.mem_cons.1 member with rfl | later
        · exact wholeKeys entry List.mem_cons_self
        · exact inductionHypothesis rests entry later

/-- Among whole numbers, keys that count as one are keys of one chain. -/
theorem named_insertListed {key : ChainKey} {number : Int} (whole : key.integer? = some number)
    (value : Json) (wholeKeys : WholeKeys entries) :
    named (insertListed key value entries) =
      OrderedMap.insertEntry number value (named entries) := by
  induction entries with
  | nil => exact named_cons (ChainKey.chain_of_integer? whole) value []
  | cons head rest inductionHypothesis =>
      obtain ⟨other, old⟩ := head
      obtain ⟨present, wholeToo⟩ := wholeKeys (other, old) List.mem_cons_self
      have chain := ChainKey.chain_of_integer? wholeToo
      have later := inductionHypothesis fun entry member =>
        wholeKeys entry (List.mem_cons_of_mem _ member)
      rw [insertListed, ChainKey.agrees_of_integer? wholeToo whole, named_cons chain,
        OrderedMap.insertEntry]
      by_cases here : present = number
      · rw [if_pos (beq_iff_eq.2 here), if_pos here, named_cons chain, here]
      · rw [if_neg (mt beq_iff_eq.1 here), if_neg here, named_cons chain, later]

/-- A listing whose keys are whole numbers names what a map of its entries holds. -/
theorem named_listing (wholeKeys : WholeKeys entries) :
    WholeKeys (listing entries) ∧
      named (listing entries) = (OrderedMap.ofList (named entries)).entries := by
  induction entries using List.reverseRecOn with
  | nil => exact ⟨nofun, rfl⟩
  | append_singleton entries entry inductionHypothesis =>
      obtain ⟨number, whole⟩ := wholeKeys entry (by simp)
      obtain ⟨listedWhole, listedNamed⟩ := inductionHypothesis fun earlier member =>
        wholeKeys earlier (List.mem_append_left _ member)
      have listed : listing (entries ++ [entry]) =
          insertListed entry.1 entry.2 (listing entries) :=
        List.foldl_append ..
      have chained : named (entries ++ [entry]) = named entries ++ [(number, entry.2)] := by
        rw [named_append]
        exact congrArg (named entries ++ ·)
          (named_cons (ChainKey.chain_of_integer? whole) entry.2 [])
      refine ⟨listed ▸ wholeKeys_insertListed whole entry.2 listedWhole, ?_⟩
      rw [listed, named_insertListed whole entry.2 listedWhole, listedNamed, chained]
      exact congrArg OrderedMap.entries
        (OrderedMap.empty.insertAll_concat (named entries) (number, entry.2)).symm

/-! ## Which entries can be merged -/

/-- Entries that can be merged into a table: every key stands for a chain, and the last value under
each chain is the text of an address. Values that are overridden do not count. -/
structure Mergeable (entries : Listing) : Prop where
  keys : ∀ entry ∈ entries, ∃ chain, entry.1.chain = .ok chain
  values : ∀ chain value, latest? chain entries = some value → isAddress value = true

theorem overlay_eq_ok_iff {values combined : OrderedMap Chain Json} :
    overlay role values entries = .ok combined ↔
      (∀ entry ∈ entries, ∃ chain, entry.1.chain = .ok chain) ∧
        combined = values.insertAll (named entries) := by
  induction entries generalizing values with
  | nil => simp [overlay, named, OrderedMap.insertAll, eq_comm]
  | cons entry rest inductionHypothesis =>
      obtain ⟨key, value⟩ := entry
      unfold overlay chainOf
      cases known : key.chain with
      | error fault =>
          constructor
          · intro laid
            cases fault <;> cases laid
          · rintro ⟨keys, -⟩
            obtain ⟨chain, converts⟩ := keys (key, value) List.mem_cons_self
            cases known.symm.trans converts
      | ok chain =>
          rw [named_cons known]
          simp only [inductionHypothesis, List.forall_mem_cons, known]
          simp [OrderedMap.insertAll]

/-- What a merge lays under the entries is always read. -/
theorem isAddress_of_texts (table : Deployments) {chain : Chain} {value : Json}
    (found : table.texts.get? chain = some value) : isAddress value = true := by
  rw [texts, OrderedMap.get?_mapValues, Option.map_eq_some_iff] at found
  obtain ⟨address, _, rfl⟩ := found
  rw [← address?_isSome, address?_text, Option.isSome_some]

/-- Mergeable entries are merged, and the addresses are read from the values laid over the table. -/
theorem merged_of_mergeable (mergeable : Mergeable entries) (table : Deployments) :
    ∃ addresses, table.merged entries = .ok ⟨table.role, addresses⟩ ∧
      Reads (table.texts.insertAll (named entries)) addresses := by
  have laid : overlay table.role table.texts entries =
      .ok (table.texts.insertAll (named entries)) :=
    overlay_eq_ok_iff.2 ⟨mergeable.keys, rfl⟩
  have deployments : ∀ entry ∈ listed (table.texts.insertAll (named entries)),
      IsDeployment entry := by
    intro entry member
    obtain ⟨⟨chain, value⟩, inside, rfl⟩ := List.mem_map.1 member
    refine ⟨⟨chain, rfl⟩, ?_⟩
    have found := OrderedMap.get?_of_mem _ inside
    rw [get?_insertAll_named, Option.or_eq_some_iff] at found
    rcases found with given | ⟨_, kept⟩
    · exact mergeable.values chain value given
    · exact table.isAddress_of_texts kept
  obtain ⟨addresses, built, reads⟩ := ofListing_of_deployments table.role deployments
  rw [named_listed, OrderedMap.ofList_entries] at reads
  refine ⟨addresses, ?_, reads⟩
  rw [Deployments.merged, laid]
  exact built

/-- Only mergeable entries are merged. -/
theorem mergeable_of_merged (merges : table.merged entries = .ok merged) : Mergeable entries := by
  unfold Deployments.merged at merges
  split at merges
  · cases merges
  · next combined laid =>
      obtain ⟨keys, rfl⟩ := overlay_eq_ok_iff.1 laid
      refine ⟨keys, ?_⟩
      intro chain value last
      have found : (table.texts.insertAll (named entries)).get? chain = some value := by
        rw [get?_insertAll_named, last, Option.some_or]
      exact (deployments_of_ofListing merges (.int chain, value)
        (List.mem_map_of_mem (OrderedMap.mem_entries_of_get? found))).value

theorem exists_merged_iff (table : Deployments) :
    (∃ merged, table.merged entries = .ok merged) ↔ Mergeable entries := by
  constructor
  · rintro ⟨merged, merges⟩
    exact mergeable_of_merged merges
  · intro mergeable
    obtain ⟨addresses, merges, _⟩ := merged_of_mergeable mergeable table
    exact ⟨_, merges⟩

/-- What a merge comes to, said without the way in which the table is built. -/
theorem merged_eq_ok_iff :
    table.merged entries = .ok merged ↔
      Mergeable entries ∧ merged.role = table.role ∧
        Reads (table.texts.insertAll (named entries)) merged.addresses := by
  constructor
  · intro merges
    have mergeable := mergeable_of_merged merges
    obtain ⟨addresses, mergesToo, reads⟩ := merged_of_mergeable mergeable table
    cases merges.symm.trans mergesToo
    exact ⟨mergeable, rfl, reads⟩
  · rintro ⟨mergeable, role, reads⟩
    obtain ⟨addresses, merges, readsToo⟩ := merged_of_mergeable mergeable table
    rw [merges, readsToo.unique reads, ← role]

/-! ## What the merged table holds -/

/-- The merged table is the old one with the entries laid over it. -/
structure Overrides (table : Deployments) (entries : Listing) (merged : Deployments) : Prop where
  role : merged.role = table.role
  keys : merged.addresses.keys = table.addresses.keys ++
    ((chains entries).filter (· ∉ table.addresses.keys)).eraseDups
  given : ∀ chain value, latest? chain entries = some value →
    ∃ address, address? value = some address ∧ merged.at? (.int chain) = some address
  kept : ∀ chain, latest? chain entries = none →
    merged.at? (.int chain) = table.at? (.int chain)

theorem overrides_of_merged (merges : table.merged entries = .ok merged) :
    table.Overrides entries merged := by
  obtain ⟨mergeable, role, reads⟩ := merged_eq_ok_iff.1 merges
  have under := table.reads_texts
  refine ⟨role, ?_, ?_, ?_⟩
  · rw [reads.keys, OrderedMap.keys_insertAll, ← under.keys]
    exact OrderedMap.eraseDups_append_of_nodup table.addresses.nodup_keys (chains entries)
  · intro chain value last
    have valid := mergeable.values chain value last
    rw [← address?_isSome] at valid
    obtain ⟨address, read⟩ := Option.isSome_iff_exists.1 valid
    refine ⟨address, read, ?_⟩
    rw [at?_int, on?, reads.found, get?_insertAll_named, last, Option.some_or, Option.bind_some,
      read]
  · intro chain unnamed
    rw [at?_int, at?_int, on?, on?, reads.found, get?_insertAll_named, unnamed, Option.none_or,
      under.found]

/-- Merging nothing changes nothing. -/
theorem merged_nil (table : Deployments) : table.merged [] = .ok table :=
  merged_eq_ok_iff.2 ⟨⟨nofun, nofun⟩, rfl, table.reads_texts⟩

/-- Merging a table's own entries changes nothing. -/
theorem merged_items (table : Deployments) : table.merged table.items = .ok table := by
  have own : named table.items = table.texts.entries := named_listed table.texts
  refine merged_eq_ok_iff.2 ⟨⟨converts_listed table.texts, ?_⟩, rfl, ?_⟩
  · intro chain value last
    rw [latest?, own, OrderedMap.last?_entries] at last
    exact table.isAddress_of_texts last
  · rw [own, OrderedMap.insertAll_entries]
    exact table.reads_texts

/-! ## One merge after the other -/

/-- Below further entries, values count only for the addresses that they stand for. -/
theorem Reads.insertAll_iff {values others : OrderedMap Chain Json}
    {addresses filled : OrderedMap Chain Address} (reads : Reads values addresses)
    (readsToo : Reads others addresses) (above : List (Chain × Json)) :
    Reads (values.insertAll above) filled ↔ Reads (others.insertAll above) filled := by
  have keys : (values.insertAll above).keys = (others.insertAll above).keys := by
    rw [OrderedMap.keys_insertAll, OrderedMap.keys_insertAll, ← reads.keys, ← readsToo.keys]
  have found : ∀ chain, ((values.insertAll above).get? chain).bind address? =
      ((others.insertAll above).get? chain).bind address? := by
    intro chain
    rw [OrderedMap.get?_insertAll, OrderedMap.get?_insertAll]
    cases OrderedMap.last? chain above with
    | some value => rfl
    | none => rw [Option.none_or, Option.none_or, ← reads.found, ← readsToo.found]
  constructor
  · intro reads
    exact ⟨reads.keys.trans keys, fun chain => (reads.found chain).trans (found chain)⟩
  · intro reads
    exact ⟨reads.keys.trans keys.symm, fun chain => (reads.found chain).trans (found chain).symm⟩

/-- What a listing of both says of a chain. -/
theorem latest?_listing (wholeFirst : WholeKeys first) (wholeSecond : WholeKeys second)
    (chain : Chain) :
    latest? chain (listing (first ++ second)) =
      (latest? chain second).or (latest? chain first) := by
  rw [latest?, (named_listing (wholeFirst.append wholeSecond)).2, OrderedMap.last?_entries,
    get?_ofList_named, latest?_append]

/-- Over entries that can be merged, others can be merged alone exactly if both can together. -/
theorem mergeable_listing_iff (wholeFirst : WholeKeys first) (wholeSecond : WholeKeys second)
    (mergeable : Mergeable first) : Mergeable (listing (first ++ second)) ↔ Mergeable second := by
  have listedWhole := (named_listing (wholeFirst.append wholeSecond)).1
  constructor
  · intro together
    refine ⟨wholeSecond.converts, fun chain value last => together.values chain value ?_⟩
    rw [latest?_listing wholeFirst wholeSecond, last, Option.some_or]
  · intro alone
    refine ⟨listedWhole.converts, fun chain value last => ?_⟩
    rw [latest?_listing wholeFirst wholeSecond, Option.or_eq_some_iff] at last
    rcases last with above | ⟨_, below⟩
    · exact alone.values chain value above
    · exact mergeable.values chain value below

/-- Two merges one after the other are one merge of both listings. -/
theorem merged_merged_iff (wholeFirst : WholeKeys first) (wholeSecond : WholeKeys second)
    (merges : table.merged first = .ok merged) :
    merged.merged second = .ok both ↔ table.merged (listing (first ++ second)) = .ok both := by
  obtain ⟨mergeable, role, reads⟩ := merged_eq_ok_iff.1 merges
  have laid : table.texts.insertAll (named (listing (first ++ second))) =
      (table.texts.insertAll (named first)).insertAll (named second) := by
    rw [(named_listing (wholeFirst.append wholeSecond)).2, OrderedMap.insertAll_entries_ofList, named_append,
      OrderedMap.insertAll_append]
  rw [merged_eq_ok_iff, merged_eq_ok_iff, mergeable_listing_iff wholeFirst wholeSecond mergeable,
    role, laid, merged.reads_texts.insertAll_iff reads]

/-- **Merging lays entries over a table.** A merged table has the role of the old one. Its chains
are the old ones in their order, and behind them the new ones in the order in which the entries
first name them. Under a chain that the entries name stands the address of the last entry that names
it, and under any other chain what stood there before. Merging nothing, and merging a table's own
entries, changes nothing. Let the keys be whole numbers. Over a table into which entries have been
merged, others can be merged exactly if they can be merged into the table as it was; and the outcome
is that of merging the first listing overridden by the second one. -/
theorem merging_overrides (table : Deployments) :
    (∀ entries merged, table.merged entries = .ok merged → table.Overrides entries merged) ∧
    table.merged [] = .ok table ∧
    table.merged table.items = .ok table ∧
    ∀ first second merged, WholeKeys first → WholeKeys second →
      table.merged first = .ok merged →
        ((∃ both, merged.merged second = .ok both) ↔ ∃ alone, table.merged second = .ok alone) ∧
        ∀ both, merged.merged second = .ok both ↔
          table.merged (listing (first ++ second)) = .ok both := by
  refine ⟨fun _ _ => overrides_of_merged, table.merged_nil, table.merged_items, ?_⟩
  intro first second merged wholeFirst wholeSecond merges
  refine ⟨?_, fun both => merged_merged_iff wholeFirst wholeSecond merges⟩
  rw [exists_merged_iff, exists_merged_iff]

/-- Entries of which two stand for chain 5 and one for a chain of the table; and two merges with
whole numbers as keys, of which the second one overrides an entry of the first, and the listing that
does both. -/
theorem merging_overrides_collisions :
    let table : Deployments :=
      ⟨.packageStore, .ofList
        [(10, ⟨List.replicate 40 1, rfl⟩), (1, ⟨List.replicate 40 2, rfl⟩)]⟩
    let entries : Listing :=
      [(.int 5, .text "0x3333333333333333333333333333333333333333"),
        (.text " 1", .text "4444444444444444444444444444444444444444"),
        (.text "0_5", .text "0X5555555555555555555555555555555555555555")]
    let first : Listing :=
      [(.int 5, .text "0x6666666666666666666666666666666666666666"),
        (.int 7, .text "0x7777777777777777777777777777777777777777")]
    let second : Listing :=
      [(.int 3, .text "0x8888888888888888888888888888888888888888"),
        (.int 5, .text " 0x9999999999999999999999999999999999999999")]
    (∃ merged, table.merged entries = .ok merged ∧ merged.addresses.keys = [10, 1, 5] ∧
      (merged.at? (.int 5)).map Address.digits = some (List.replicate 40 5) ∧
      (merged.at? (.int 10)).map Address.digits = some (List.replicate 40 1)) ∧
    ∃ merged both, table.merged first = .ok merged ∧ merged.merged second = .ok both ∧
      table.merged (listing (first ++ second)) = .ok both ∧
      both.addresses.keys = [10, 1, 5, 7, 3] := by
  intro table entries first second
  have mergeable : ∀ listed : Listing,
      (∀ entry ∈ listed, entry.1.chain.isOk) → (∀ entry ∈ named listed, isAddress entry.2) →
      Mergeable listed := by
    intro listed keys values
    refine ⟨fun entry member => ?_, fun chain value last => ?_⟩
    · have converts := keys entry member
      cases known : entry.1.chain with
      | ok chain => exact ⟨chain, rfl⟩
      | error fault =>
          rw [known] at converts
          cases converts
    · exact values (chain, value) (OrderedMap.mem_of_last? last)
  have whole : ∀ listed : Listing, (∀ entry ∈ listed, entry.1.integer?.isSome) →
      WholeKeys listed :=
    fun listed keys entry member => Option.isSome_iff_exists.1 (keys entry member)
  obtain ⟨overrides, -, -, composes⟩ := merging_overrides table
  refine ⟨?_, ?_⟩
  · obtain ⟨merged, merges⟩ :=
      table.exists_merged_iff.2 (mergeable entries (by decide) (by decide))
    have laid := overrides entries merged merges
    refine ⟨merged, merges, laid.keys.trans (by decide), ?_, ?_⟩
    · obtain ⟨address, read, found⟩ := laid.given 5
        (.text "0X5555555555555555555555555555555555555555") (by rfl)
      rw [found, ← read]
      decide
    · rw [laid.kept 10 (by rfl)]
      decide
  · obtain ⟨merged, merges⟩ := table.exists_merged_iff.2 (mergeable first (by decide) (by decide))
    obtain ⟨alone, together⟩ :=
      composes first second merged (whole first (by decide)) (whole second (by decide)) merges
    obtain ⟨both, done⟩ := alone.2
      (table.exists_merged_iff.2 (mergeable second (by decide) (by decide)))
    refine ⟨merged, both, merges, done, (together both).1 done, ?_⟩
    exact (overrides _ both ((together both).1 done)).keys.trans (by decide)

end Deployments

end PackageStore
