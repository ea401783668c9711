import Mathlib.Data.List.Chain
import PackageStore.Proofs.Wallet.Session

/-!
Contract: what a subscriber is told of the readings of the wallet's chain.

Owns: the readings that a session takes, those of rounds of polling and the silent ones with which
polling starts; which of them differ from the one before; and the theorem that a callback with one
subscription is told exactly the latter, whatever the other callbacks do.

A reading with which polling starts is compared with later ones and told to nobody. This is why
readings are paired with the ones before over both kinds, and the silent ones are left out
afterwards.
-/

set_option autoImplicit false

namespace PackageStore.PollingWallet

variable {κ : Type} [DecidableEq κ]

/-! ## Readings -/

/-- A chain that was read, by a round of polling or silently at the start of polling. -/
structure Sighting where
  chain : Option Chain
  silent : Bool
deriving DecidableEq, Repr

namespace Action

variable (polling : Bool)

/-- What an action reads, of a wallet that polls or does not. -/
def sightings : Action κ → List Sighting
  | .poll reading => [⟨(chainOf reading).1, false⟩]
  | .start reading => if polling then [] else [⟨(chainOf reading).1, true⟩]
  | _ => []

/-- Whether the wallet polls afterwards. -/
def polls : Action κ → Bool
  | .start _ => true
  | .stop => false
  | _ => polling

/-- What a round of polling has to answer. -/
def answer? : Action κ → Option (Option Chain)
  | .poll reading => some (chainOf reading).1
  | _ => none

/-- The action does not change the subscriptions of a callback. -/
def Spares (subscriber : κ) : Action κ → Prop
  | .edit change => change.callback ≠ subscriber
  | _ => True

end Action

/-- What actions read, one after another. -/
def sightings : Bool → List (Action κ) → List Sighting
  | _, [] => []
  | polling, action :: rest => action.sightings polling ++ sightings (action.polls polling) rest

/-- The chain read last, or the one from before. -/
def lastSeen (before : Option Chain) (seen : List Sighting) : Option Chain :=
  seen.foldl (fun _ sighting => sighting.chain) before

/-- The readings of rounds of polling that differ from the reading before them. -/
def changes (before : Option Chain) (seen : List Sighting) : List (Option Chain) :=
  ((before :: seen.map Sighting.chain).zip seen).filterMap fun (former, sighting) =>
    if sighting.silent ∨ sighting.chain = former then none else some sighting.chain

theorem changes_cons (before : Option Chain) (sighting : Sighting) (rest : List Sighting) :
    changes before (sighting :: rest) =
      (if sighting.silent ∨ sighting.chain = before then [] else [sighting.chain]) ++
        changes sighting.chain rest := by
  unfold changes
  rw [List.map_cons, List.zip_cons_cons, List.filterMap_cons]
  by_cases untold : sighting.silent ∨ sighting.chain = before
  · simp only [if_pos untold, List.nil_append]
  · simp only [if_neg untold, List.singleton_append]

theorem lastSeen_append (before : Option Chain) (first second : List Sighting) :
    lastSeen before (first ++ second) = lastSeen (lastSeen before first) second :=
  List.foldl_append ..

theorem changes_append (before : Option Chain) (first second : List Sighting) :
    changes before (first ++ second) =
      changes before first ++ changes (lastSeen before first) second := by
  induction first generalizing before with
  | nil => rfl
  | cons sighting rest inductionHypothesis =>
      rw [List.cons_append, changes_cons, changes_cons, inductionHypothesis, List.append_assoc]
      rfl

/-- Without silent readings, no two changes that follow one another are the same. -/
theorem changes_isChain {seen : List Sighting} (loud : ∀ sighting ∈ seen, sighting.silent = false)
    (before : Option Chain) : (before :: changes before seen).IsChain (· ≠ ·) := by
  induction seen generalizing before with
  | nil => exact List.isChain_singleton before
  | cons sighting rest inductionHypothesis =>
      obtain ⟨isLoud, loud⟩ := List.forall_mem_cons.1 loud
      have later := inductionHypothesis loud sighting.chain
      rw [changes_cons]
      by_cases same : sighting.chain = before
      · rw [if_pos (.inr same), List.nil_append]
        rw [same] at later ⊢
        exact later
      · rw [if_neg (by simp [isLoud, same]), List.singleton_append]
        exact List.isChain_cons_cons.2 ⟨Ne.symm same, later⟩

/-! ## Sessions -/

namespace Session

section Subscribed

variable {conduct : Conduct κ} {session : Session κ} {subscriber : κ}

theorem act_polling (conduct : Conduct κ) (session : Session κ) (action : Action κ) :
    (session.act conduct action).wallet.polling = action.polls session.wallet.polling := by
  cases action with
  | poll reading => exact session.act_poll_polling conduct reading
  | start reading => exact session.wallet.start_polling reading
  | stop => exact session.wallet.stop_polling
  | signer accounts => exact session.wallet.signer_polling accounts
  | edit change => cases change <;> rfl

/-- The chain that polling compares with is the one read last. -/
theorem act_lastChain (conduct : Conduct κ) (session : Session κ) (action : Action κ) :
    (session.act conduct action).wallet.lastChain =
      lastSeen session.wallet.lastChain (action.sightings session.wallet.polling) := by
  cases action with
  | poll reading => exact session.act_poll_lastChain conduct reading
  | start reading =>
      show (session.wallet.start reading).1.lastChain = _
      rw [start_lastChain, Action.sightings]
      split <;> rfl
  | stop => exact session.wallet.stop_lastChain
  | signer accounts => exact session.wallet.signer_lastChain accounts
  | edit change => cases change <;> rfl

theorem act_answers (conduct : Conduct κ) (session : Session κ) (action : Action κ) :
    (session.act conduct action).answers = session.answers ++ action.answer?.toList := by
  cases action with
  | poll reading => exact session.act_poll_answers conduct reading
  | start | stop | signer | edit => exact (List.append_nil _).symm

theorem act_count (spares : conduct.Spares subscriber) {action : Action κ}
    (spared : action.Spares subscriber) :
    (session.act conduct action).wallet.subscribers.count subscriber =
      session.wallet.subscribers.count subscriber := by
  cases action with
  | poll reading => exact session.act_poll_count conduct reading spares
  | start reading => exact congrArg (·.count subscriber) (session.wallet.start_subscribers reading)
  | stop => exact congrArg (·.count subscriber) session.wallet.stop_subscribers
  | signer accounts =>
      exact congrArg (·.count subscriber) (session.wallet.signer_subscribers accounts)
  | edit change => exact apply_count spared session.wallet

theorem callsOf_eq_replicate (callbacks : List κ) (chain : Option Chain)
    (subscriber : κ) :
    ((callbacks.map fun callback => (callback, chain)).filter
        fun call => call.1 = subscriber).map Prod.snd =
      List.replicate (callbacks.count subscriber) chain := by
  induction callbacks with
  | nil => rfl
  | cons callback rest inductionHypothesis =>
      by_cases same : callback = subscriber
      · simp [same, List.replicate_succ, inductionHypothesis]
      · simp [same, inductionHypothesis]

/-- An action tells a callback with one subscription what it reads aloud, if this differs from the
reading before. -/
theorem act_callsOf (once : session.wallet.subscribers.count subscriber = 1)
    (conduct : Conduct κ) (action : Action κ) :
    (session.act conduct action).callsOf subscriber =
      session.callsOf subscriber ++
        changes session.wallet.lastChain (action.sightings session.wallet.polling) := by
  cases action with
  | poll reading =>
      rw [callsOf, act_poll_calls, List.filter_append, List.map_append, callsOf_eq_replicate,
        Action.sightings, changes_cons, callsOf]
      by_cases unmoved : (chainOf reading).1 = session.wallet.lastChain
      · rw [(session.wallet.poll_unmoved unmoved).2, if_pos (.inr unmoved)]
        rfl
      · have calls := (session.wallet.poll_moved unmoved).2.2
        have told : session.wallet.subscribers.callbacks.count subscriber = 1 := once
        rw [calls, told, if_neg (by simp [unmoved])]
        rfl
  | start reading =>
      rw [Action.sightings]
      split
      · exact (List.append_nil _).symm
      · rw [changes_cons, if_pos (.inl rfl)]
        exact (List.append_nil _).symm
  | stop | signer | edit => exact (List.append_nil _).symm

/-! ## Runs -/

theorem run_cons (conduct : Conduct κ) (session : Session κ) (action : Action κ)
    (rest : List (Action κ)) :
    session.run conduct (action :: rest) = (session.act conduct action).run conduct rest :=
  rfl

theorem run_lastChain (conduct : Conduct κ) (session : Session κ) (actions : List (Action κ)) :
    (session.run conduct actions).wallet.lastChain =
      lastSeen session.wallet.lastChain (sightings session.wallet.polling actions) := by
  induction actions generalizing session with
  | nil => rfl
  | cons action rest inductionHypothesis =>
      rw [run_cons, inductionHypothesis, act_lastChain, act_polling, sightings, lastSeen_append]

theorem run_answers (conduct : Conduct κ) (session : Session κ) (actions : List (Action κ)) :
    (session.run conduct actions).answers =
      session.answers ++ actions.filterMap Action.answer? := by
  induction actions generalizing session with
  | nil => exact (List.append_nil _).symm
  | cons action rest inductionHypothesis =>
      rw [run_cons, inductionHypothesis, act_answers, List.append_assoc, List.filterMap_cons]
      cases action.answer? <;> rfl

/-- A run tells a callback with one subscription the readings that differ from the ones before. -/
theorem run_callsOf (spares : conduct.Spares subscriber) {actions : List (Action κ)}
    (spared : ∀ action ∈ actions, action.Spares subscriber)
    (once : session.wallet.subscribers.count subscriber = 1) :
    (session.run conduct actions).callsOf subscriber =
      session.callsOf subscriber ++
        changes session.wallet.lastChain (sightings session.wallet.polling actions) := by
  induction actions generalizing session with
  | nil => exact (List.append_nil _).symm
  | cons action rest inductionHypothesis =>
      obtain ⟨isSpared, spared⟩ := List.forall_mem_cons.1 spared
      have stillOnce : (session.act conduct action).wallet.subscribers.count subscriber = 1 :=
        (act_count spares isSpared).trans once
      rw [run_cons, inductionHypothesis spared stillOnce, act_callsOf once, act_lastChain,
        act_polling, sightings, changes_append, List.append_assoc]

/-- **Subscribers are told exactly the changes.** Take a new wallet and whatever was done with it
earlier, until a callback has one subscription; let nobody change this subscription afterwards. Then
rounds of polling tell the callback, in order, the readings that differ from the reading before
them, where the first one is compared with the chain read last: nothing for a wallet that has read
none, or the silent reading with which polling started. As long as no reading is silent, two
readings told one after the other differ, and the first one told differs from the chain read before.
Every round answers what it reads, for which a failure counts as no connection. The other callbacks
may fail, and may change the subscriptions of all but this one. -/
theorem told_exactly_changes (account : Option String) (conduct : Conduct κ) (subscriber : κ)
    (spares : conduct.Spares subscriber) (earlier actions : List (Action κ))
    (once : ((ofWallet (ofAccount account)).run conduct earlier).wallet.subscribers.count subscriber
      = 1)
    (spared : ∀ action ∈ actions, action.Spares subscriber) :
    let before := (ofWallet (ofAccount account)).run conduct earlier
    let after := before.run conduct actions
    let baseline := lastSeen none (sightings false earlier)
    let seen := sightings before.wallet.polling actions
    after.callsOf subscriber = before.callsOf subscriber ++ changes baseline seen ∧
      ((∀ sighting ∈ seen, sighting.silent = false) →
        (baseline :: changes baseline seen).IsChain (· ≠ ·)) ∧
      after.answers = before.answers ++ actions.filterMap Action.answer? := by
  intro before after baseline seen
  have isLast : before.wallet.lastChain = baseline := run_lastChain conduct _ earlier
  refine ⟨?_, fun loud => changes_isChain loud baseline, run_answers conduct before actions⟩
  rw [← isLast]
  exact run_callsOf spares spared once

end Subscribed

/-- Subscribers of one wallet: one listens, one fails whenever it is called, and one takes out its
own subscription. -/
inductive Neighbor where
  | listening
  | failing
  | leaving
deriving DecidableEq

def neighborly : Conduct Neighbor where
  edits callback _ _ := if callback = .leaving then [.unsubscribe .leaving] else []
  failure callback _ _ := if callback = .failing then some (.raised "OSError" "gone") else none

/-- A failed reading counts as no connection, and the listener hears of both only once. -/
theorem told_exactly_changes_neighbors :
    let earlier : List (Action Neighbor) := [.edit (.subscribe .leaving),
      .edit (.subscribe .failing), .edit (.subscribe .listening), .start (.ok (some .mainnet))]
    let rounds : List (Action Neighbor) := [.poll (.ok (some .mainnet)),
      .poll (.ok (some .optimism)), .poll (.error (.raised "OSError" "gone")), .poll (.ok none),
      .poll (.ok (some .optimism))]
    let before := (ofWallet (ofAccount none)).run neighborly earlier
    let after := before.run neighborly rounds
    before.wallet.subscribers.count .listening = 1 ∧
      after.callsOf .listening = [some .optimism, none, some .optimism] ∧
      after.callsOf .leaving = [some .optimism] := by
  intro earlier rounds before after
  have spares : neighborly.Spares .listening := by
    intro callback chain calls edit member
    cases callback with
    | leaving => simp_all [neighborly, Edit.callback]
    | listening | failing => cases member
  have spared : ∀ action ∈ rounds, action.Spares Neighbor.listening := by
    simp [rounds, Action.Spares]
  obtain ⟨told, -, -⟩ := told_exactly_changes none neighborly .listening spares earlier rounds
    rfl spared
  exact ⟨by decide, told.trans (by decide), by decide⟩

end Session

end PackageStore.PollingWallet
