import PackageStore.Proofs.Wallet.Operations

/-!
Contract: the life of a polling wallet with those who subscribe to it.

Owns: what callbacks may do when they are called; the actions of a session, of which a round of
polling calls everyone who is subscribed when it begins; and for every action, and for a whole run,
what becomes of the chain that was read last, of the polling, and of the subscriptions of a callback
that nobody touches.

A callback may subscribe others, or unsubscribe itself and others, while the round goes on. This
does not change who is called in the round.
-/

set_option autoImplicit false

namespace PackageStore

namespace PollingWallet

variable {κ : Type} [DecidableEq κ]

/-! ## Callbacks -/

/-- A change of the subscriptions. -/
inductive Edit (κ : Type) where
  | subscribe (callback : κ)
  | unsubscribe (callback : κ)
deriving DecidableEq, Repr

namespace Edit

/-- Whose subscriptions are changed. -/
def callback : Edit κ → κ
  | .subscribe callback => callback
  | .unsubscribe callback => callback

def apply (wallet : PollingWallet κ) : Edit κ → PollingWallet κ
  | .subscribe callback => wallet.subscribe callback
  | .unsubscribe callback => wallet.unsubscribe callback

end Edit

/-- Calls of callbacks with the chain that they were told, in order. -/
abbrev Calls (κ : Type) := List (κ × Option Chain)

/-- What a callback does when it is told a chain: it changes subscriptions, and then may fail. Both
may depend on all calls so far, its own included. -/
structure Conduct (κ : Type) where
  edits : κ → Option Chain → Calls κ → List (Edit κ)
  failure : κ → Option Chain → Calls κ → Option Failure

namespace Conduct

def call (conduct : Conduct κ) (chain : Option Chain) (callback : κ)
    (state : PollingWallet κ × Calls κ) : (PollingWallet κ × Calls κ) × Option Failure :=
  let calls := state.2 ++ [(callback, chain)]
  (((conduct.edits callback chain calls).foldl Edit.apply state.1, calls),
    conduct.failure callback chain calls)

/-- Nobody changes the subscriptions of a callback when called. -/
def Spares (conduct : Conduct κ) (subscriber : κ) : Prop :=
  ∀ callback chain calls, ∀ edit ∈ conduct.edits callback chain calls, edit.callback ≠ subscriber

end Conduct

/-! ## Sessions -/

/-- A wallet, all calls of callbacks, and what the rounds of polling have answered. -/
structure Session (κ : Type) where
  wallet : PollingWallet κ
  calls : Calls κ
  answers : List (Option Chain)

inductive Action (κ : Type) where
  | poll (reading : Reading)
  | start (reading : Reading)
  | stop
  | signer (accounts : Except Failure (List String))
  | edit (edit : Edit κ)

namespace Session

omit [DecidableEq κ] in
def ofWallet (wallet : PollingWallet κ) : Session κ :=
  ⟨wallet, [], []⟩

def act (conduct : Conduct κ) (session : Session κ) : Action κ → Session κ
  | .poll reading =>
      let (chain, (wallet, calls), _) :=
        session.wallet.pollOnce conduct.call reading session.calls
      { wallet, calls, answers := session.answers ++ [chain] }
  | .start reading => { session with wallet := (session.wallet.start reading).1 }
  | .stop => { session with wallet := session.wallet.stop.1 }
  | .signer accounts => { session with wallet := (session.wallet.signer accounts).1 }
  | .edit edit => { session with wallet := edit.apply session.wallet }

def run (conduct : Conduct κ) (session : Session κ) (actions : List (Action κ)) : Session κ :=
  actions.foldl (act conduct) session

/-- The chains that a callback was told, in order. -/
def callsOf (session : Session κ) (subscriber : κ) : List (Option Chain) :=
  (session.calls.filter fun call => call.1 = subscriber).map Prod.snd

end Session

/-! ## What callbacks leave alone -/

omit [DecidableEq κ] in
/-- The wallet with other subscriptions. -/
def withSubscribers (wallet : PollingWallet κ) (subscribers : Subscribers κ) : PollingWallet κ :=
  { wallet with subscribers }

namespace Session

section Callbacks

variable {conduct : Conduct κ} {subscriber : κ}

/-- Changes of the subscriptions change nothing else. -/
theorem edits_frame (edits : List (Edit κ)) (wallet : PollingWallet κ) :
    edits.foldl Edit.apply wallet =
      wallet.withSubscribers (edits.foldl Edit.apply wallet).subscribers := by
  induction edits generalizing wallet with
  | nil => rfl
  | cons edit rest inductionHypothesis =>
      rw [List.foldl_cons, inductionHypothesis]
      cases edit <;> rfl

theorem apply_count {edit : Edit κ} (other : edit.callback ≠ subscriber)
    (wallet : PollingWallet κ) :
    (edit.apply wallet).subscribers.count subscriber = wallet.subscribers.count subscriber := by
  cases edit with
  | subscribe callback =>
      show (wallet.subscribers.add callback).count subscriber = _
      rw [Subscribers.count_add]
      exact congrArg (_ + ·) (if_neg other)
  | unsubscribe callback =>
      show (wallet.subscribers.remove callback).count subscriber = _
      rw [Subscribers.count_remove]
      exact congrArg (_ - ·) (if_neg other)

theorem edits_count {edits : List (Edit κ)} (others : ∀ edit ∈ edits, edit.callback ≠ subscriber)
    (wallet : PollingWallet κ) :
    (edits.foldl Edit.apply wallet).subscribers.count subscriber =
      wallet.subscribers.count subscriber := by
  induction edits generalizing wallet with
  | nil => rfl
  | cons edit rest inductionHypothesis =>
      obtain ⟨other, others⟩ := List.forall_mem_cons.1 others
      rw [List.foldl_cons, inductionHypothesis others, apply_count other]

variable (conduct) (chain : Option Chain)

/-- Everyone on the list is called once, whatever the ones before did. -/
theorem callEach_calls (callbacks : List κ) (state : PollingWallet κ × Calls κ) :
    (Subscribers.callEach (conduct.call chain) callbacks state).1.2 =
      state.2 ++ callbacks.map fun callback => (callback, chain) := by
  induction callbacks generalizing state with
  | nil => simp [Subscribers.callEach]
  | cons callback rest inductionHypothesis =>
      simp [Subscribers.callEach, inductionHypothesis, Conduct.call]

theorem callEach_frame (callbacks : List κ) (state : PollingWallet κ × Calls κ) :
    (Subscribers.callEach (conduct.call chain) callbacks state).1.1 =
      state.1.withSubscribers
        (Subscribers.callEach (conduct.call chain) callbacks state).1.1.subscribers := by
  induction callbacks generalizing state with
  | nil => rfl
  | cons callback rest inductionHypothesis =>
      simp only [Subscribers.callEach]
      rw [inductionHypothesis, Conduct.call, edits_frame]
      rfl

theorem callEach_count (spares : conduct.Spares subscriber) (callbacks : List κ)
    (state : PollingWallet κ × Calls κ) :
    (Subscribers.callEach (conduct.call chain) callbacks state).1.1.subscribers.count subscriber =
      state.1.subscribers.count subscriber := by
  induction callbacks generalizing state with
  | nil => rfl
  | cons callback rest inductionHypothesis =>
      simp only [Subscribers.callEach]
      rw [inductionHypothesis, Conduct.call]
      exact edits_count (spares callback chain _) state.1

end Callbacks

/-! ## What a round of polling does -/

section Round

variable (conduct : Conduct κ) (session : Session κ) (reading : Reading)

theorem act_poll_calls :
    (session.act conduct (.poll reading)).calls =
      session.calls ++ (session.wallet.poll reading).calls.map fun callback =>
        (callback, (chainOf reading).1) := by
  rw [← session.wallet.poll_chain reading]
  exact callEach_calls conduct _ _ _

/-- But for the subscriptions, the callbacks leave the wallet as the reading makes it. -/
theorem act_poll_wallet :
    (session.act conduct (.poll reading)).wallet =
      (session.wallet.poll reading).wallet.withSubscribers
        (session.act conduct (.poll reading)).wallet.subscribers :=
  callEach_frame conduct _ _ _

theorem act_poll_lastChain :
    (session.act conduct (.poll reading)).wallet.lastChain = (chainOf reading).1 := by
  rw [act_poll_wallet, poll_wallet]
  rfl

theorem act_poll_polling :
    (session.act conduct (.poll reading)).wallet.polling = session.wallet.polling := by
  rw [act_poll_wallet, poll_wallet]
  rfl

theorem act_poll_count {subscriber : κ} (spares : conduct.Spares subscriber) :
    (session.act conduct (.poll reading)).wallet.subscribers.count subscriber =
      session.wallet.subscribers.count subscriber := by
  rw [← session.wallet.poll_subscribers reading]
  exact callEach_count conduct _ spares _ _

theorem act_poll_answers :
    (session.act conduct (.poll reading)).answers = session.answers ++ [(chainOf reading).1] := by
  rw [← session.wallet.poll_chain reading]
  rfl

end Round

end Session

end PollingWallet

end PackageStore
