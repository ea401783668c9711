import Mathlib.Tactic.SplitIfs
import PackageStore.Json.Basic

/-!
Contract: the members of an object in terms of what was written.

Owns: the look-up of a name among members, and that of members written under one name the last one
counts.
-/

set_option autoImplicit false

namespace PackageStore.Json

theorem lookup_insertMember (name : String) (other : Text) (value : Json)
    (members : List (Text × Json)) :
    lookup name (insertMember other value members) =
      if other = .ofString name then some value else lookup name members := by
  induction members with
  | nil => rfl
  | cons member rest inductionHypothesis =>
      obtain ⟨first, old⟩ := member
      by_cases same : first = other
      · subst same
        simp only [insertMember, lookup, if_true]
        split <;> rfl
      · rw [insertMember, if_neg same, lookup, lookup, inductionHypothesis]
        split_ifs with here there
        · exact absurd (here.trans there.symm) same
        all_goals rfl

/-- A member of an object has the value that was written last under its name. -/
theorem member?_ofMembers (name : String) (written : List (Text × Json)) :
    (ofMembers written).member? name =
      (written.reverse.find? fun member => member.1 = .ofString name).map Prod.snd := by
  suffices general : ∀ members, lookup name
      (written.foldl (fun members member => insertMember member.1 member.2 members) members) =
        ((written.reverse.find? fun member => member.1 = .ofString name).map Prod.snd).or
          (lookup name members) by
    rw [ofMembers, member?, general, lookup, Option.or_none]
  induction written with
  | nil => exact fun members => rfl
  | cons member rest inductionHypothesis =>
      intro members
      rw [List.foldl_cons, inductionHypothesis, lookup_insertMember, List.reverse_cons,
        List.find?_append, Option.map_or, Option.or_assoc]
      congr 1
      split_ifs with named <;> simp [named]

end PackageStore.Json
