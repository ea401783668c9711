import PackageStore.Failure

/-!
Contract: those who are called when the wallet's network changes.

Owns: the list of subscribed callbacks, in which one may stand several times, and a round of calls,
in which a callback that fails does not keep the others from being called.
-/

set_option autoImplicit false

namespace PackageStore

/-- Subscribed callbacks in the order of subscription. -/
structure Subscribers (κ : Type) where
  callbacks : List κ
deriving DecidableEq, Repr, Inhabited

namespace Subscribers

variable {κ ω : Type}

def none : Subscribers κ :=
  ⟨[]⟩

def add (subscribers : Subscribers κ) (callback : κ) : Subscribers κ :=
  ⟨subscribers.callbacks ++ [callback]⟩

/-- Takes out the oldest subscription of a callback, if there is one. -/
def remove [DecidableEq κ] (subscribers : Subscribers κ) (callback : κ) : Subscribers κ :=
  ⟨subscribers.callbacks.erase callback⟩

/-- How often a callback is subscribed. -/
def count [DecidableEq κ] (subscribers : Subscribers κ) (callback : κ) : Nat :=
  subscribers.callbacks.count callback

theorem count_add [DecidableEq κ] (subscribers : Subscribers κ) (callback other : κ) :
    (subscribers.add callback).count other =
      subscribers.count other + if callback = other then 1 else 0 := by
  by_cases same : callback = other <;> simp [add, count, same]

theorem count_remove [DecidableEq κ] (subscribers : Subscribers κ) (callback other : κ) :
    (subscribers.remove callback).count other =
      subscribers.count other - if callback = other then 1 else 0 := by
  by_cases same : callback = other
  · simp [remove, count, same, List.count_erase_self]
  · have different : other ≠ callback := fun equal => same equal.symm
    simp [remove, count, same, List.count_erase_of_ne different]

/-- The line about a callback that failed. -/
def failedLine (failure : Failure) : LogLine :=
  ⟨.error, s!"Error in chain change callback: {failure.message}"⟩

/-- Calls callbacks one after another, whether or not the ones before failed. What a callback does
is `call`, on a state of the caller. -/
def callEach (call : κ → ω → ω × Option Failure) : List κ → ω → ω × List LogLine
  | [], state => (state, [])
  | callback :: rest, state =>
      let (called, failure) := call callback state
      let (final, lines) := callEach call rest called
      (final, (failure.map failedLine).toList ++ lines)

end Subscribers

end PackageStore
