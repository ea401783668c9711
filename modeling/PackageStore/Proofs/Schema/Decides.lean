import PackageStore.Schema.Checked
import Mathlib.Data.List.Forall2

/-!
Contract: what a check of a value decides.

Owns: what it is for a check to come to exactly the contents that a description of the value allows,
one lemma for each way in which checks are put together, and the fields that may be left out.

Does not own: the shapes that are checked.
-/

set_option autoImplicit false

namespace PackageStore.Schema

variable {α β γ : Type}

namespace Checked

theorem both_eq_ok_iff {combine : α → β → γ} {left : Checked α} {right : Checked β} {whole : γ} :
    both combine left right = .ok whole ↔
      ∃ first second, left = .ok first ∧ right = .ok second ∧ combine first second = whole := by
  cases left <;> cases right <;> simp [both]

theorem under_eq_ok_iff {step : Step} {checked : Checked α} {content : α} :
    under step checked = .ok content ↔ checked = .ok content := by
  cases checked <;> simp [under]

end Checked

/-- A check comes to a content exactly when `meant` says so, and a check that comes to none reports
at least one issue. -/
structure Decides (checked : Checked α) (meant : α → Prop) : Prop where
  ok_iff : ∀ content, checked = .ok content ↔ meant content
  reports : checked ≠ .error []

namespace Decides

variable {checked : Checked α} {meant : α → Prop}

theorem congr {other : α → Prop} (decides : Decides checked meant)
    (same : ∀ content, meant content ↔ other content) : Decides checked other :=
  ⟨fun content => (decides.ok_iff content).trans (same content), decides.reports⟩

theorem ok (value : α) : Decides (.ok value) (· = value) where
  ok_iff := fun content => by rw [Except.ok.injEq, eq_comm]
  reports := nofun

theorem fault (kind : IssueKind) (none : ∀ content, ¬ meant content) :
    Decides (Checked.fault kind) meant where
  ok_iff := fun content => ⟨nofun, fun held => absurd held (none content)⟩
  reports := nofun

theorem both {other : Checked β} {meantOther : β → Prop} (combine : α → β → γ)
    (first : Decides checked meant) (second : Decides other meantOther) :
    Decides (Checked.both combine checked other)
      (fun whole => ∃ left right, meant left ∧ meantOther right ∧ combine left right = whole) where
  ok_iff := by
    intro whole
    simp only [← first.ok_iff, ← second.ok_iff, Checked.both_eq_ok_iff]
  reports := by
    have firstReports := first.reports
    have secondReports := second.reports
    cases checked <;> cases other <;> simp_all [Checked.both]

theorem under (step : Step) (decides : Decides checked meant) :
    Decides (Checked.under step checked) meant where
  ok_iff := by
    intro content
    rw [← decides.ok_iff, Checked.under_eq_ok_iff]
  reports := by
    have reports := decides.reports
    cases checked <;> simp_all [Checked.under]

theorem map (into : α → β) (decides : Decides checked meant) :
    Decides (checked.map into) (fun whole => ∃ content, meant content ∧ into content = whole) where
  ok_iff := by
    intro whole
    simp only [← decides.ok_iff]
    cases checked <;> simp [Except.map]
  reports := by
    have reports := decides.reports
    cases checked <;> simp_all [Except.map]

/-- The items of a list are decided one by one. -/
theorem items {check : Json → Checked α} {held : Json → α → Prop}
    (each : ∀ value, Decides (check value) (held value)) (position : Nat) (values : List Json) :
    Decides (Checked.items check position values) (List.Forall₂ held values) := by
  induction values generalizing position with
  | nil =>
      refine (ok []).congr fun contents => ?_
      rw [List.forall₂_nil_left_iff]
  | cons value rest inductionHypothesis =>
      have item := (each value).under (.index position)
      refine (item.both (· :: ·) (inductionHypothesis (position + 1))).congr fun contents => ?_
      rw [List.forall₂_cons_left_iff]
      exact exists₂_congr fun content others => and_congr_right' (and_congr_right' eq_comm)

end Decides

/-! ## Fields -/

variable {check : Json → Checked α} {held : Json → α → Prop}

/-- What a field that may be left out holds: absent and null are no content. -/
inductive HeldOrNot (held : Json → α → Prop) : Option Json → Option α → Prop
  | absent : HeldOrNot held none none
  | null : HeldOrNot held (some .null) none
  | given {value : Json} {content : α} (holds : held value content) :
      HeldOrNot held (some value) (some content)

theorem HeldOrNot.holds_of_ne_null {value : Json} {content : Option α}
    (field : HeldOrNot held (some value) content) (present : value ≠ .null) :
    ∃ inner, content = some inner ∧ held value inner := by
  cases field with
  | null => exact absurd rfl present
  | given holds => exact ⟨_, rfl, holds⟩

/-- What a field that has to be there holds. -/
def HeldIn (held : Json → α → Prop) (field : Option Json) (content : α) : Prop :=
  ∃ value, field = some value ∧ held value content

theorem required_decides (name : String) (members : List (Text × Json))
    (each : ∀ value, Decides (check value) (held value)) :
    Decides (required name check members) (HeldIn held (Json.lookup name members)) := by
  unfold required HeldIn
  cases Json.lookup name members with
  | none => exact (Decides.fault .missing (fun _ => nofun)).under (.field name)
  | some value =>
      refine ((each value).under (.field name)).congr fun content => ?_
      simp

/-- A field that may be left out and may be null, as its check reads it. -/
theorem optional_decides {checkOrNull : Json → Checked (Option α)} (name : String)
    (members : List (Text × Json))
    (each : ∀ value, Decides (checkOrNull value) (HeldOrNot held (some value))) :
    Decides (optional name none checkOrNull members)
      (HeldOrNot held (Json.lookup name members)) := by
  unfold optional
  cases Json.lookup name members with
  | none =>
      refine (Decides.ok none).congr fun content => ⟨?_, ?_⟩
      · rintro rfl
        exact .absent
      · rintro ⟨⟩
        rfl
  | some value => exact (each value).under (.field name)

/-- A check that lets null pass as no content, in front of one that refuses null. -/
theorem heldOrNot_decides {checkOrNull : Json → Checked (Option α)} {value : Json}
    (null : value = .null → checkOrNull value = .ok none)
    (other : value ≠ .null → checkOrNull value = (check value).map some)
    (each : Decides (check value) (held value)) (refused : ∀ content, ¬ held .null content) :
    Decides (checkOrNull value) (HeldOrNot held (some value)) := by
  by_cases absent : value = .null
  · rw [null absent]
    subst absent
    refine (Decides.ok none).congr fun content => ⟨?_, ?_⟩
    · rintro rfl
      exact .null
    · rintro (_ | _ | holds)
      · rfl
      · exact absurd holds (refused _)
  · rw [other absent]
    refine (each.map some).congr fun content => ⟨?_, ?_⟩
    · rintro ⟨content, holds, rfl⟩
      exact .given holds
    · rintro (_ | _ | holds)
      · exact absurd rfl absent
      · exact ⟨_, holds, rfl⟩

/-- A check that refuses all values but objects, against a shape that only objects have. -/
theorem model_decides (model : String)
    (objects : ∀ members, Decides (check (.object members)) (held (.object members)))
    (others : ∀ value, (∀ members, value ≠ .object members) →
      check value = Checked.fault (.notAModel model))
    (shape : ∀ value content, held value content → ∃ members, value = .object members)
    (value : Json) : Decides (check value) (held value) := by
  by_cases isObject : ∃ members, value = .object members
  · obtain ⟨members, rfl⟩ := isObject
    exact objects members
  · rw [others value fun members same => isObject ⟨members, same⟩]
    exact .fault _ fun content holds => isObject (shape value content holds)

end PackageStore.Schema
