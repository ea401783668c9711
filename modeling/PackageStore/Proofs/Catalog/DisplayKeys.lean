import PackageStore.Proofs.Catalog.Sorting

/-!
Contract: when the keys under which packages are displayed tell them apart.

Owns: which two identities have the same key; that the keys of a sorted collection are different
exactly if no two reported identities are one text split at two places; and that a collection may
show two packages under one key.

Sorting keeps every identity once. A key joins the two names of an identity, each of which may hold
the separator, so that different identities may have one key.
-/

set_option autoImplicit false

namespace PackageStore

namespace Identity

/-- The code point between the two names of a key. -/
def separator : CodePoint := ':'.toNat

/-- The key of the other identity, split at a later separator. -/
def SplitsLater (id other : Identity) : Prop :=
  ∃ middle : Text, id.package = other.package ++ ":" ++ middle ∧
    other.publisher = middle ++ ":" ++ id.publisher

variable {id other : Identity}

theorem codes_text (id : Identity) :
    id.text.codes = id.package.codes ++ separator :: id.publisher.codes := by
  simp [text, separator, Text.ofString]

theorem SplitsLater.codes_package (splits : id.SplitsLater other) :
    ∃ middle, id.package.codes = other.package.codes ++ separator :: middle ∧
      other.publisher.codes = middle ++ separator :: id.publisher.codes := by
  obtain ⟨middle, package, publisher⟩ := splits
  refine ⟨middle.codes, ?_, ?_⟩
  · simp [package, separator, Text.ofString]
  · simp [publisher, separator, Text.ofString]

theorem SplitsLater.text_eq (splits : id.SplitsLater other) : id.text = other.text := by
  obtain ⟨middle, package, publisher⟩ := splits.codes_package
  apply Text.codes_injective
  rw [codes_text, codes_text, package, publisher]
  simp only [List.append_assoc, List.cons_append]

/-- The name of the package gets longer. -/
theorem SplitsLater.ne (splits : id.SplitsLater other) : id ≠ other := by
  obtain ⟨middle, package, -⟩ := splits.codes_package
  intro same
  have longer := congrArg List.length package
  rw [same] at longer
  simp only [List.length_append, List.length_cons] at longer
  omega

/-- A package name that goes on behind another one does so with a separator. -/
theorem splitsLater_of_append {rest : List CodePoint} (further : rest ≠ [])
    (package : id.package.codes = other.package.codes ++ rest)
    (publisher : separator :: other.publisher.codes = rest ++ separator :: id.publisher.codes) :
    id.SplitsLater other := by
  cases rest with
  | nil => exact absurd rfl further
  | cons first middle =>
      rw [List.cons_append, List.cons.injEq] at publisher
      obtain ⟨rfl, publisher⟩ := publisher
      refine ⟨⟨middle⟩, ?_, ?_⟩
      · apply Text.codes_injective
        simp [package, separator, Text.ofString]
      · apply Text.codes_injective
        simp [publisher, separator, Text.ofString]

/-- Two identities have one key if they are equal, or if they split it at different separators. -/
theorem text_eq_text_iff :
    id.text = other.text ↔ id = other ∨ id.SplitsLater other ∨ other.SplitsLater id := by
  constructor
  · intro sameText
    have joined := congrArg Text.codes sameText
    rw [codes_text, codes_text] at joined
    by_cases same : id = other
    · exact .inl same
    · have samePackage : id.package = other.package → id = other := by
        intro package
        rw [package, List.append_cancel_left_eq, List.cons.injEq] at joined
        have publisher := Text.codes_injective joined.2
        cases id
        cases other
        simp_all
      have further : ∀ {rest : List CodePoint} {left right : Identity},
          left.package.codes = right.package.codes ++ rest → left.package ≠ right.package →
            rest ≠ [] := by
        rintro rest left right package different rfl
        rw [List.append_nil] at package
        exact different (Text.codes_injective package)
      have different : id.package ≠ other.package := fun package => same (samePackage package)
      rcases List.append_eq_append_iff.1 joined with
        ⟨rest, package, publisher⟩ | ⟨rest, package, publisher⟩
      · exact .inr (.inr (splitsLater_of_append (further package different.symm) package publisher))
      · exact .inr (.inl (splitsLater_of_append (further package different) package publisher))
  · rintro (rfl | splits | splits)
    · rfl
    · exact splits.text_eq
    · exact splits.text_eq.symm

/-- Without a separator in the name of the package, its key is split nowhere else. -/
theorem SplitsLater.mem_package (splits : id.SplitsLater other) :
    separator ∈ id.package.codes := by
  obtain ⟨middle, package, -⟩ := splits.codes_package
  simp [package]

theorem SplitsLater.mem_publisher (splits : id.SplitsLater other) :
    separator ∈ other.publisher.codes := by
  obtain ⟨middle, -, publisher⟩ := splits.codes_package
  simp [publisher]

end Identity

namespace Shelves

/-- The keys under which the records of a collection are displayed, category by category. -/
def keys (shelves : Shelves) : List Text :=
  shelves.records.map fun record => record.id.text

theorem keys_eq (shelves : Shelves) : shelves.keys = shelves.ids.map Identity.text := by
  rw [keys, ids, List.map_map]
  rfl

/-- **Keys are different as long as no two identities split one text at two places.** The keys of
the records in a sorted collection are pairwise different exactly if no reported identity splits the
key of another one at a later separator. In particular they are if no reported package name holds a
separator, and if no reported publisher does. -/
theorem keys_distinct_iff (tagged : List Tagged) :
    ((ofTagged tagged).keys.Nodup ↔
      ∀ first ∈ tagged, ∀ second ∈ tagged, ¬ first.2.id.SplitsLater second.2.id) ∧
    ((∀ entry ∈ tagged, Identity.separator ∉ entry.2.id.package.codes) →
      (ofTagged tagged).keys.Nodup) ∧
    ((∀ entry ∈ tagged, Identity.separator ∉ entry.2.id.publisher.codes) →
      (ofTagged tagged).keys.Nodup) := by
  have exactly : (ofTagged tagged).keys.Nodup ↔
      ∀ first ∈ tagged, ∀ second ∈ tagged, ¬ first.2.id.SplitsLater second.2.id := by
    rw [keys_eq, List.nodup_map_iff_inj_on (ids_ofTagged_nodup tagged)]
    constructor
    · intro injective first member second memberToo splits
      have kept := mem_ids_ofTagged_iff.2 ⟨first, member, rfl⟩
      have keptToo := mem_ids_ofTagged_iff.2 ⟨second, memberToo, rfl⟩
      exact splits.ne (injective _ kept _ keptToo splits.text_eq)
    · intro unsplit id kept other keptToo sameText
      obtain ⟨first, member, rfl⟩ := mem_ids_ofTagged_iff.1 kept
      obtain ⟨second, memberToo, rfl⟩ := mem_ids_ofTagged_iff.1 keptToo
      rcases Identity.text_eq_text_iff.1 sameText with same | splits | splits
      · exact same
      · exact absurd splits (unsplit first member second memberToo)
      · exact absurd splits (unsplit second memberToo first member)
  refine ⟨exactly, fun plain => exactly.2 ?_, fun plain => exactly.2 ?_⟩
  · intro first member second _ splits
    exact plain first member splits.mem_package
  · intro first _ second memberToo splits
    exact plain second memberToo splits.mem_publisher

/-- Two packages with a separator in a name, of two publishers. -/
def clashing : List Tagged :=
  [(.downloaded, ⟨⟨"os", "chess:beta"⟩, none⟩), (.installed, ⟨⟨"beta:os", "chess"⟩, none⟩)]

/-- Each of the two packages is displayed under a key of its own when it comes alone, and both have
the same key. -/
theorem keys_distinct_iff_clashing :
    (ofTagged (clashing.take 1)).keys.Nodup ∧ (ofTagged (clashing.drop 1)).keys.Nodup ∧
      ¬ (ofTagged clashing).keys.Nodup := by
  refine ⟨?_, ?_, ?_⟩
  · exact (keys_distinct_iff (clashing.take 1)).2.2 (by decide)
  · exact (keys_distinct_iff (clashing.drop 1)).2.1 (by decide)
  · rw [(keys_distinct_iff clashing).1]
    intro unsplit
    apply unsplit (.downloaded, ⟨⟨"os", "chess:beta"⟩, none⟩) (by simp [clashing])
      (.installed, ⟨⟨"beta:os", "chess"⟩, none⟩) (by simp [clashing])
    exact ⟨"beta", by decide, by decide⟩

/-- The keys of a sorted collection are not always different. -/
theorem displays_two_under_one_key : ¬ ∀ tagged : List Tagged, (ofTagged tagged).keys.Nodup := by
  intro distinct
  have different := distinct clashing
  revert different
  decide

end Shelves

end PackageStore
