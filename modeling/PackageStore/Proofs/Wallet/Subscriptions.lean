import Mathlib.Data.List.Induction
import PackageStore.Proofs.Wallet.Notifications

/-!
Contract: whose subscription an unsubscribe takes out.

Owns: the subscriptions of a wallet by their numbers, beside the list of callbacks that the wallet
keeps; the calls that concern subscriptions, from outside or from a callback that is being called;
when a callback stands on the list once for each of its live subscriptions; and the theorem that
says how often a round of polling calls it.

The list holds callbacks and no numbers, and an unsubscribe takes out the oldest equal callback. As
long as every unsubscribe is called once, the list has a place for each live subscription. An
unsubscribe that is called again finds the place of another subscription of the same callback.
-/

set_option autoImplicit false

namespace PackageStore.PollingWallet

variable {κ : Type} [DecidableEq κ]

/-! ## Subscriptions by their numbers -/

/-- A subscription: whose it is, and whether its own unsubscribe was called. -/
structure Subscription (κ : Type) where
  callback : κ
  ended : Bool
deriving DecidableEq, Repr

/-- A call that concerns subscriptions. Every subscription hands out an unsubscribe of its own,
which goes by the number of the subscription and may be called any number of times. -/
inductive Move (κ : Type) where
  | subscribe (callback : κ)
  | unsubscribe (number : Nat)
deriving DecidableEq, Repr

/-- The list of callbacks that is kept, and the subscriptions in the order in which they were
made. -/
structure Ledger (κ : Type) where
  subscribers : Subscribers κ
  subscriptions : List (Subscription κ)

namespace Ledger

def move (ledger : Ledger κ) : Move κ → Ledger κ
  | .subscribe callback =>
      ⟨ledger.subscribers.add callback, ledger.subscriptions ++ [⟨callback, false⟩]⟩
  | .unsubscribe number =>
      match ledger.subscriptions[number]? with
      | none => ledger
      | some subscription =>
          ⟨ledger.subscribers.remove subscription.callback,
            ledger.subscriptions.set number { subscription with ended := true }⟩

def ofMoves (moves : List (Move κ)) : Ledger κ :=
  moves.foldl move ⟨.none, []⟩

/-- How many subscriptions of a callback there are whose own unsubscribe was never called. -/
def live (ledger : Ledger κ) (callback : κ) : Nat :=
  ledger.subscriptions.count ⟨callback, false⟩

/-- The callback stands on the list once for each of its live subscriptions. -/
def InStep (ledger : Ledger κ) (callback : κ) : Prop :=
  ledger.subscribers.count callback = ledger.live callback

/-- An unsubscribe is called again while another subscription of its callback is live. -/
def Robs (ledger : Ledger κ) (callback : κ) (move : Move κ) : Prop :=
  ∃ number, move = .unsubscribe number ∧
    ledger.subscriptions[number]? = some ⟨callback, true⟩ ∧ 0 < ledger.live callback

variable {ledger : Ledger κ} {callback : κ}

/-! ## What one call does -/

theorem live_subscribe (ledger : Ledger κ) (own callback : κ) :
    (ledger.move (.subscribe own)).live callback =
      ledger.live callback + if own = callback then 1 else 0 := by
  by_cases same : own = callback <;> simp [move, live, same]

theorem count_subscribe (ledger : Ledger κ) (own callback : κ) :
    (ledger.move (.subscribe own)).subscribers.count callback =
      ledger.subscribers.count callback + if own = callback then 1 else 0 :=
  ledger.subscribers.count_add own callback

theorem move_unsubscribe {number : Nat} {subscription : Subscription κ}
    (known : ledger.subscriptions[number]? = some subscription) :
    ledger.move (.unsubscribe number) =
      ⟨ledger.subscribers.remove subscription.callback,
        ledger.subscriptions.set number { subscription with ended := true }⟩ := by
  simp only [move, known]

theorem live_unsubscribe {number : Nat} {subscription : Subscription κ}
    (known : ledger.subscriptions[number]? = some subscription) (callback : κ) :
    (ledger.move (.unsubscribe number)).live callback =
      ledger.live callback - if subscription = ⟨callback, false⟩ then 1 else 0 := by
  obtain ⟨within, found⟩ := List.getElem?_eq_some_iff.1 known
  rw [move_unsubscribe known, live, live, List.count_set within, found]
  simp

theorem count_unsubscribe {number : Nat} {subscription : Subscription κ}
    (known : ledger.subscriptions[number]? = some subscription) (callback : κ) :
    (ledger.move (.unsubscribe number)).subscribers.count callback =
      ledger.subscribers.count callback - if subscription.callback = callback then 1 else 0 := by
  rw [move_unsubscribe known]
  exact ledger.subscribers.count_remove subscription.callback callback

/-- A subscription that has not ended is live. -/
theorem live_pos {number : Nat} (known : ledger.subscriptions[number]? = some ⟨callback, false⟩) :
    0 < ledger.live callback :=
  List.count_pos_iff.2 (List.mem_of_getElem? known)

/-- What an unsubscribe does to the place and to the live subscriptions of a callback. -/
theorem unsubscribe_cases (ledger : Ledger κ) (number : Nat) (callback : κ) :
    let after := ledger.move (.unsubscribe number)
    (after.subscribers.count callback = ledger.subscribers.count callback ∧
      after.live callback = ledger.live callback ∧
      ledger.subscriptions[number]? ≠ some ⟨callback, true⟩) ∨
    (after.subscribers.count callback = ledger.subscribers.count callback - 1 ∧
      after.live callback = ledger.live callback - 1 ∧ 0 < ledger.live callback ∧
      ledger.subscriptions[number]? = some ⟨callback, false⟩) ∨
    (after.subscribers.count callback = ledger.subscribers.count callback - 1 ∧
      after.live callback = ledger.live callback ∧
      ledger.subscriptions[number]? = some ⟨callback, true⟩) := by
  intro after
  cases known : ledger.subscriptions[number]? with
  | none =>
      have unmoved : after = ledger := by simp only [after, move, known]
      exact .inl ⟨by rw [unmoved], by rw [unmoved], by simp⟩
  | some subscription =>
      have counted := count_unsubscribe known callback
      have lived := live_unsubscribe known callback
      obtain ⟨own, ended⟩ := subscription
      by_cases same : own = callback
      · subst same
        cases ended with
        | false =>
            exact .inr (.inl
              ⟨by simpa using counted, by simpa using lived, live_pos known, rfl⟩)
        | true => exact .inr (.inr ⟨by simpa using counted, by simpa using lived, rfl⟩)
      · exact .inl ⟨by simpa [same] using counted, by simpa [same] using lived, by simp [same]⟩

/-- A callback never stands on the list more often than it has live subscriptions. -/
theorem move_bounded (bounded : ledger.subscribers.count callback ≤ ledger.live callback)
    (move : Move κ) :
    (ledger.move move).subscribers.count callback ≤ (ledger.move move).live callback := by
  cases move with
  | subscribe own =>
      rw [count_subscribe, live_subscribe]
      omega
  | unsubscribe number =>
      have cases := ledger.unsubscribe_cases number callback
      omega

/-- The list stays in step unless an unsubscribe is called again and finds another subscription. -/
theorem inStep_move_iff (inStep : ledger.InStep callback) (move : Move κ) :
    (ledger.move move).InStep callback ↔ ¬ ledger.Robs callback move := by
  unfold InStep at *
  cases move with
  | subscribe own =>
      rw [count_subscribe, live_subscribe]
      refine iff_of_true (by omega) ?_
      rintro ⟨number, isUnsubscribe, -⟩
      cases isUnsubscribe
  | unsubscribe number =>
      have robs : ledger.Robs callback (.unsubscribe number) ↔
          ledger.subscriptions[number]? = some ⟨callback, true⟩ ∧ 0 < ledger.live callback := by
        simp [Robs]
      rw [robs]
      rcases ledger.unsubscribe_cases number callback with
        ⟨counted, lived, other⟩ | ⟨counted, lived, positive, first⟩ | ⟨counted, lived, again⟩
      · exact iff_of_true (by omega) fun robbed => other robbed.1
      · exact iff_of_true (by omega) fun robbed => by simp [first] at robbed
      · rw [counted, lived, again]
        simp
        omega

/-! ## What a sequence of calls comes to -/

theorem ofMoves_concat (moves : List (Move κ)) (last : Move κ) :
    ofMoves (moves ++ [last]) = (ofMoves moves).move last :=
  List.foldl_append

theorem count_le_live (moves : List (Move κ)) (callback : κ) :
    (ofMoves moves).subscribers.count callback ≤ (ofMoves moves).live callback := by
  induction moves using List.reverseRecOn with
  | nil => exact Nat.le_refl 0
  | append_singleton earlier last inductionHypothesis =>
      rw [ofMoves_concat]
      exact move_bounded inductionHypothesis last

/-- Among the calls is one by which an unsubscribe takes out another subscription of the
callback. -/
def Robbed (callback : κ) (moves : List (Move κ)) : Prop :=
  ∃ earlier last later, moves = earlier ++ last :: later ∧ (ofMoves earlier).Robs callback last

/-- The list is in step all the time exactly if no unsubscribe takes out another subscription. -/
theorem inStep_throughout_iff (moves : List (Move κ)) (callback : κ) :
    (∀ earlier, earlier <+: moves → (ofMoves earlier).InStep callback) ↔
      ¬ Robbed callback moves := by
  constructor
  · rintro throughout ⟨earlier, last, later, rfl, robs⟩
    have before : (ofMoves earlier).InStep callback := throughout earlier (List.prefix_append _ _)
    have after := throughout (earlier ++ [last]) ⟨later, by simp⟩
    rw [ofMoves_concat, inStep_move_iff before] at after
    exact after robs
  · intro unrobbed earlier isStart
    induction earlier using List.reverseRecOn with
    | nil => rfl
    | append_singleton first last inductionHypothesis =>
        have before := inductionHypothesis ((List.prefix_append first [last]).trans isStart)
        rw [ofMoves_concat, inStep_move_iff before]
        intro robs
        obtain ⟨later, same⟩ := isStart
        exact unrobbed ⟨first, last, later, by rw [← same]; simp, robs⟩

/-- A subscription has ended only by a call of its unsubscribe. -/
theorem unsubscribed_of_ended {moves : List (Move κ)} {number : Nat}
    (known : (ofMoves moves).subscriptions[number]? = some ⟨callback, true⟩) :
    .unsubscribe number ∈ moves := by
  induction moves using List.reverseRecOn with
  | nil => simp [ofMoves] at known
  | append_singleton earlier last inductionHypothesis =>
      rw [ofMoves_concat] at known
      cases last with
      | subscribe own =>
          rw [move, List.getElem?_append] at known
          split at known
          · exact List.mem_append_left _ (inductionHypothesis known)
          · simp [List.getElem?_singleton] at known
      | unsubscribe other =>
          by_cases here : other = number
          · simp [here]
          · apply List.mem_append_left
            apply inductionHypothesis
            rw [move] at known
            split at known
            · exact known
            · simpa [List.getElem?_set_ne here] using known

/-- Nobody is robbed as long as every unsubscribe is called at most once. -/
theorem not_robbed_of_once {moves : List (Move κ)}
    (once : ∀ number, moves.count (.unsubscribe number) ≤ 1) : ¬ Robbed callback moves := by
  rintro ⟨earlier, last, later, rfl, number, rfl, ended, -⟩
  have before := List.count_pos_iff.2 (unsubscribed_of_ended ended)
  have atMostOnce := once number
  rw [List.count_append, List.count_cons_self] at atMostOnce
  omega

end Ledger

/-! ## A wallet at which subscriptions are made -/

/-- All calls that concerned subscriptions, and all calls of callbacks, in order. -/
structure Notes (κ : Type) where
  history : List (Move κ)
  calls : Calls κ

def Notes.ledger (notes : Notes κ) : Ledger κ :=
  .ofMoves notes.history

/-- A wallet, and what was noted of it. -/
abbrev Attended (κ : Type) := PollingWallet κ × Notes κ

/-- What a callback does when it is told a chain: it makes subscriptions and calls unsubscribes, and
then may fail. All of it may depend on what was noted so far. -/
structure Habits (κ : Type) where
  moves : κ → Option Chain → Notes κ → List (Move κ)
  failure : κ → Option Chain → Notes κ → Option Failure

namespace Attended

/-- A wallet at which no subscription was made yet. -/
def opened (wallet : PollingWallet κ) : Attended κ :=
  (wallet.withSubscribers .none, ⟨[], []⟩)

def move (attended : Attended κ) (made : Move κ) : Attended κ :=
  (match made with
    | .subscribe callback => attended.1.subscribe callback
    | .unsubscribe number =>
        match attended.2.ledger.subscriptions[number]? with
        | none => attended.1
        | some subscription => attended.1.unsubscribe subscription.callback,
    { attended.2 with history := attended.2.history ++ [made] })

/-- A callback is called. -/
def call (habits : Habits κ) (chain : Option Chain) (callback : κ) (attended : Attended κ) :
    Attended κ × Option Failure :=
  let notes := { attended.2 with calls := attended.2.calls ++ [(callback, chain)] }
  ((habits.moves callback chain notes).foldl move (attended.1, notes),
    habits.failure callback chain notes)

inductive Event (κ : Type) where
  | move (made : Move κ)
  | poll (reading : Reading)
  | start (reading : Reading)
  | stop
  | signer (accounts : Except Failure (List String))

def act (habits : Habits κ) (attended : Attended κ) : Event κ → Attended κ
  | .move made => attended.move made
  | .poll reading => (attended.1.pollOnce (call habits) reading attended.2).2.1
  | .start reading => ((attended.1.start reading).1, attended.2)
  | .stop => (attended.1.stop.1, attended.2)
  | .signer accounts => ((attended.1.signer accounts).1, attended.2)

def run (habits : Habits κ) (attended : Attended κ) (events : List (Event κ)) : Attended κ :=
  events.foldl (act habits) attended

/-- The chains that a callback was told, in order. -/
def callsOf (attended : Attended κ) (callback : κ) : List (Option Chain) :=
  (attended.2.calls.filter fun call => call.1 = callback).map Prod.snd

/-- The wallet keeps the list that the calls so far have led to. -/
def Kept (attended : Attended κ) : Prop :=
  attended.1.subscribers = attended.2.ledger.subscribers

variable {attended : Attended κ}

theorem move_kept (kept : attended.Kept) (made : Move κ) : (attended.move made).Kept := by
  have later : (attended.move made).2.ledger = attended.2.ledger.move made :=
    Ledger.ofMoves_concat attended.2.history made
  unfold Kept at *
  rw [later]
  cases made with
  | subscribe callback => exact congrArg (·.add callback) kept
  | unsubscribe number =>
      rw [move, Ledger.move]
      split
      · exact kept
      · next subscription _ => exact congrArg (·.remove subscription.callback) kept

theorem moves_kept (kept : attended.Kept) (moves : List (Move κ)) :
    (moves.foldl move attended).Kept := by
  induction moves generalizing attended with
  | nil => exact kept
  | cons made rest inductionHypothesis => exact inductionHypothesis (move_kept kept made)

theorem moves_calls (attended : Attended κ) (moves : List (Move κ)) :
    (moves.foldl move attended).2.calls = attended.2.calls := by
  induction moves generalizing attended with
  | nil => rfl
  | cons made rest inductionHypothesis => exact inductionHypothesis (attended.move made)

theorem callEach_kept (habits : Habits κ) (chain : Option Chain) (callbacks : List κ)
    (kept : attended.Kept) :
    Kept (Subscribers.callEach (call habits chain) callbacks attended).1 := by
  induction callbacks generalizing attended with
  | nil => exact kept
  | cons callback rest inductionHypothesis =>
      apply inductionHypothesis
      apply moves_kept
      exact kept

/-- Everyone on the list is called once, whatever the ones before did. -/
theorem callEach_notes (habits : Habits κ) (chain : Option Chain) (callbacks : List κ)
    (attended : Attended κ) :
    (Subscribers.callEach (call habits chain) callbacks attended).1.2.calls =
      attended.2.calls ++ callbacks.map fun callback => (callback, chain) := by
  induction callbacks generalizing attended with
  | nil => simp [Subscribers.callEach]
  | cons callback rest inductionHypothesis =>
      simp [Subscribers.callEach, inductionHypothesis, call, moves_calls]

theorem act_kept (habits : Habits κ) (kept : attended.Kept) (event : Event κ) :
    (attended.act habits event).Kept := by
  cases event with
  | move made => exact move_kept kept made
  | poll reading =>
      apply callEach_kept
      exact (attended.1.poll_subscribers reading).trans kept
  | start reading => exact (attended.1.start_subscribers reading).trans kept
  | stop => exact attended.1.stop_subscribers.trans kept
  | signer accounts => exact (attended.1.signer_subscribers accounts).trans kept

/-- Whatever happens, the wallet keeps the list that the calls have led to. -/
theorem run_kept (habits : Habits κ) (kept : attended.Kept) (events : List (Event κ)) :
    (attended.run habits events).Kept := by
  induction events generalizing attended with
  | nil => exact kept
  | cons event rest inductionHypothesis => exact inductionHypothesis (act_kept habits kept event)

/-- A round that reads another chain calls a callback once for each place on the list. -/
theorem callsOf_round (habits : Habits κ) (kept : attended.Kept) {reading : Reading}
    (moved : (chainOf reading).1 ≠ attended.1.lastChain) (callback : κ) :
    (attended.act habits (.poll reading)).callsOf callback =
      attended.callsOf callback ++
        List.replicate (attended.2.ledger.subscribers.count callback) (chainOf reading).1 := by
  obtain ⟨-, chain, calls⟩ := attended.1.poll_moved moved
  have noted : (attended.act habits (.poll reading)).2.calls =
      attended.2.calls ++ attended.1.subscribers.callbacks.map fun callback =>
        (callback, (chainOf reading).1) := by
    rw [← chain, ← calls]
    exact callEach_notes habits _ _ _
  rw [callsOf, noted, List.filter_append, List.map_append, Session.callsOf_eq_replicate, ← kept]
  rfl

/-- **An unsubscribe that is called again takes out another subscription.** Let subscriptions be
made at a wallet, and unsubscribes be called, in whatever order, from outside or by callbacks,
between rounds of polling and whatever else the wallet does. Then the next round that reads another
chain calls a callback once for each place on the list, which is at most once for each live
subscription. It was as often as there were live subscriptions all the time exactly if no
unsubscribe was called again while another subscription of the callback was live. In particular this
is so if no unsubscribe was called more than once. -/
theorem calls_per_live_subscription (wallet : PollingWallet κ) (habits : Habits κ)
    (events : List (Event κ)) (callback : κ) :
    let attended := (opened wallet).run habits events
    let history := attended.2.history
    (∀ reading, (chainOf reading).1 ≠ attended.1.lastChain →
      (attended.act habits (.poll reading)).callsOf callback =
        attended.callsOf callback ++ List.replicate
          ((Ledger.ofMoves history).subscribers.count callback) (chainOf reading).1) ∧
    (Ledger.ofMoves history).subscribers.count callback ≤ (Ledger.ofMoves history).live callback ∧
    ((∀ earlier, earlier <+: history → (Ledger.ofMoves earlier).InStep callback) ↔
      ¬ Ledger.Robbed callback history) ∧
    ((∀ number, history.count (.unsubscribe number) ≤ 1) → ¬ Ledger.Robbed callback history) := by
  intro attended history
  have opens : (opened wallet).Kept := rfl
  have kept : attended.Kept := run_kept habits opens events
  refine ⟨?_, ?_, ?_, ?_⟩
  · intro reading moved
    exact callsOf_round habits kept moved callback
  · exact Ledger.count_le_live history callback
  · exact Ledger.inStep_throughout_iff history callback
  · exact Ledger.not_robbed_of_once

/-- Two views of one application. -/
inductive Pane where
  | balance
  | activity
deriving DecidableEq

def idle : Habits Pane where
  moves _ _ _ := []
  failure _ _ _ := none

/-- The balance is subscribed twice and the activity once, and the first subscription ends. -/
def oneLeft : List (Event Pane) :=
  [.move (.subscribe .balance), .move (.subscribe .activity), .move (.subscribe .balance),
    .move (.unsubscribe 0)]

/-- The balance is told of a change once, and no more when the same unsubscribe is called again. -/
theorem calls_per_live_subscription_twice :
    let left := (opened (ofAccount none)).run idle oneLeft
    let robbed := (opened (ofAccount none)).run idle (oneLeft ++ [.move (.unsubscribe 0)])
    (left.act idle (.poll (.ok (some .optimism)))).callsOf .balance = [some .optimism] ∧
      ¬ Ledger.Robbed .balance left.2.history ∧
      (robbed.act idle (.poll (.ok (some .optimism)))).callsOf .balance = [] ∧
      robbed.2.ledger.live .balance = 1 := by
  intro left robbed
  obtain ⟨told, -, -, once⟩ :=
    calls_per_live_subscription (ofAccount none) idle oneLeft .balance
  obtain ⟨untold, -, -, -⟩ :=
    calls_per_live_subscription (ofAccount none) idle (oneLeft ++ [.move (.unsubscribe 0)]) .balance
  refine ⟨told _ (by decide), once ?_, untold _ (by decide), by decide⟩
  intro number
  have called : left.2.history.count (.unsubscribe number) = if 0 = number then 1 else 0 := by
    by_cases first : 0 = number <;> simp [left, run, opened, oneLeft, act, move, first]
  rw [called]
  split <;> omega

/-- A change of the chain is not told once for each live subscription. -/
theorem live_subscription_untold :
    ¬ ∀ (wallet : PollingWallet Pane) (habits : Habits Pane) (events : List (Event Pane))
        (callback : Pane) (reading : Reading),
      let attended := (opened wallet).run habits events
      (chainOf reading).1 ≠ attended.1.lastChain →
        (attended.act habits (.poll reading)).callsOf callback =
          attended.callsOf callback ++
            List.replicate (attended.2.ledger.live callback) (chainOf reading).1 := by
  intro claim
  have told := claim (ofAccount none) idle (oneLeft ++ [.move (.unsubscribe 0)]) .balance
    (.ok (some .optimism)) (by decide)
  revert told
  decide

end Attended

end PackageStore.PollingWallet
