import PackageStore.Proofs.Binding.WriteAccess
import PackageStore.Proofs.Client.Session

/-!
Contract: what a close gives up, and what it does not.

Owns: the invariant that every dispatch of a wallet event is in flight until it ends; the state that
a close leaves, which every later action keeps until the next call of a start or of a direct
observation; and the theorem which bindings can change after a close.

A close gives up the dispatches that wallet events started. It leaves alone the starts and the
direct observations that are under way, and these land as if there had been no close.
-/

set_option autoImplicit false

namespace PackageStore.Client.Session

open Binder.Session (twoChains)

/-! ## Before a close -/

/-- What every session keeps: the wallet calls the network just while it is subscribed, and every
dispatch of a wallet event is in flight until it has ended. -/
structure Sound (session : Session) : Prop where
  tied : session.client.wiring.Tied
  tracked : ∀ (number : Nat) (task : Task), session.tasks[number]? = some task →
    task.isEvent = true → number ∈ session.client.wiring.inFlight

variable {session next : Session} {action : Action}

theorem Sound.of_continue (sound : session.Sound) (wiring : next.client.wiring =
    session.client.wiring) (continued : Continue session.tasks next.tasks) : next.Sound where
  tied := by
    rw [wiring]
    exact sound.tied
  tracked number task known event := by
    obtain ⟨former, before, continues⟩ := continued number task known
    rw [wiring]
    exact sound.tracked number former before (continues.event event)

theorem Sound.callEach (chain : Option Chain) (callbacks : List Subscriber)
    (sound : session.Sound) : (callEach chain callbacks session).Sound := by
  induction callbacks generalizing session with
  | nil => exact sound
  | cons callback rest inductionHypothesis =>
      refine inductionHypothesis ⟨sound.tied, fun number task known event => ?_⟩
      rcases getElem?_spawn known with before | ⟨last, -⟩
      · exact List.mem_append_left _ (sound.tracked number task before event)
      · rw [last]
        exact List.mem_append_right _ (List.mem_singleton_self _)

/-- A close ends the tasks in flight and leaves the others as they are. -/
theorem getElem?_callClose {number : Nat} {task : Task}
    (known : session.callClose.tasks[number]? = some task) :
    (∃ former, session.tasks[number]? = some former ∧
      task = if number ∈ session.client.wiring.inFlight then former.struck else former) ∨
    task = .closing := by
  unfold callClose at known
  rcases getElem?_spawn known with before | ⟨-, closing⟩
  · rw [List.getElem?_mapIdx] at before
    obtain ⟨former, isKnown, same⟩ := Option.map_eq_some_iff.1 before
    exact .inl ⟨former, isKnown, same.symm⟩
  · exact .inr closing

/-- After a close no dispatch of a wallet event is left. -/
theorem Sound.callClose_events (sound : session.Sound) {number : Nat} {task : Task}
    (known : session.callClose.tasks[number]? = some task) : task.isEvent = false := by
  rcases getElem?_callClose known with ⟨former, before, same⟩ | rfl
  · split at same
    next => exact same ▸ Task.isEvent_of_isOver former.struck_isOver
    next apart =>
      -- A dispatch that the close left alone was not in flight, so it was none of a wallet event.
      subst same
      exact Bool.eq_false_iff.2 fun event => apart (sound.tracked number task before event)
  · rfl

theorem Change.sound (change : Change action session next) (sound : session.Sound) :
    next.Sound := by
  cases change with
  | aside _ wiring continued => exact sound.of_continue wiring continued
  | @settles number task known ended =>
      refine ⟨sound.tied, fun other found isKnown event => ?_⟩
      -- What is forgotten has ended, so it is another task than the one in question.
      have different : other ≠ number := by
        rintro rfl
        cases known.symm.trans isKnown
        rw [Task.isEvent_of_isOver ended] at event
        cases event
      exact (List.mem_erase_of_ne different).2 (sound.tracked other found isKnown event)
  | advances _ known _ continues wiring => exact sound.of_continue wiring (.set known continues)
  | @announces client chain _ wiring =>
      exact Sound.callEach chain _ (sound.of_continue wiring (.refl session.tasks))
  | @calls client task _ notEvent wired =>
      obtain ⟨tied, inFlight⟩ := wired sound.tied
      refine ⟨tied, fun number found known event => ?_⟩
      rcases getElem?_spawn known with before | ⟨-, rfl⟩
      · exact inFlight ▸ sound.tracked number found before event
      · rw [notEvent] at event
        cases event
  | closes =>
      refine ⟨?_, fun number task known event => ?_⟩
      · have wiring := session.client.abandon_wiring sound.tied
        exact wiring ▸ rfl
      · rw [sound.callClose_events known] at event
        cases event

theorem act_sound (sound : session.Sound) (action : Action) : (session.act action).Sound :=
  (act_change session action).sound sound

theorem run_sound (sound : session.Sound) (actions : List Action) :
    (session.run actions).Sound := by
  induction actions generalizing session with
  | nil => exact sound
  | cons action rest inductionHypothesis => exact inductionHypothesis (act_sound sound action)

/-- The session of a client that was just put together, with a wallet that nobody subscribed to. -/
theorem start_sound {settings : Settings} {given : Option Deployments.Tables} {roles : List Role}
    {wallet : WalletLink} {client : Client}
    (built : Client.ofSettings settings given roles wallet = .ok client)
    (unused : wallet.subscribers = .none) : (start client).Sound := by
  have wiring : client.wiring = ⟨[], false, []⟩ := by
    unfold Client.ofSettings at built
    dsimp only at built
    split at built
    next => cases built
    next =>
      split at built
      next => cases built
      next =>
        cases built
        rw [Client.wiring, unused]
        rfl
  refine ⟨?_, fun number task known _ => ?_⟩
  · rw [start, wiring]
    rfl
  · cases known

/-! ## After a close -/

/-- What a close brings about and every later action keeps, as long as no start and no direct
observation is called: the wallet calls nobody, no dispatch of a wallet event is left, and what is
under way was under way when the session was `closed`. -/
structure Quiet (closed session : Session) : Prop where
  silent : session.client.wiring.callbacks = []
  noEvents : ∀ (number : Nat) (task : Task), session.tasks[number]? = some task →
    task.isEvent = false
  direct : ∀ (number : Nat) (task : Task), session.tasks[number]? = some task →
    task.isDirect = true → ∃ former, closed.tasks[number]? = some former ∧ former.isDirect = true

variable {closed : Session}

theorem Sound.callClose_quiet (sound : session.Sound) :
    Quiet session.callClose session.callClose where
  silent := congrArg Wiring.callbacks (session.client.abandon_wiring sound.tied)
  noEvents _ _ known := sound.callClose_events known
  direct _ task known isDirect := ⟨task, known, isDirect⟩

theorem Quiet.of_continue (quiet : Quiet closed session)
    (silent : next.client.wiring.callbacks = session.client.wiring.callbacks)
    (continued : Continue session.tasks next.tasks) : Quiet closed next where
  silent := silent.trans quiet.silent
  noEvents number task known := by
    obtain ⟨former, before, continues⟩ := continued number task known
    refine Bool.eq_false_iff.2 fun event => ?_
    exact absurd (continues.event event) (Bool.eq_false_iff.1 (quiet.noEvents number former before))
  direct number task known isDirect := by
    obtain ⟨former, before, continues⟩ := continued number task known
    exact quiet.direct number former before (continues.direct isDirect)

/-- Another close leaves it at that. -/
theorem Quiet.callClose (quiet : Quiet closed session) : Quiet closed session.callClose where
  silent := session.client.abandon_silent quiet.silent
  noEvents number task known := by
    rcases getElem?_callClose known with ⟨former, before, same⟩ | rfl
    · split at same
      · exact same ▸ Task.isEvent_of_isOver former.struck_isOver
      · exact same ▸ quiet.noEvents number former before
    · rfl
  direct number task known isDirect := by
    rcases getElem?_callClose known with ⟨former, before, same⟩ | rfl
    · split at same
      · have continues : former.Continues former.struck := .of_isOver former former.struck_isOver
        exact quiet.direct number former before (continues.direct (same ▸ isDirect))
      · exact quiet.direct number former before (same ▸ isDirect)
    · cases isDirect

theorem Change.quiet (change : Change action session next) (quiet : Quiet closed session)
    (noCall : action.isCall = false) : Quiet closed next := by
  cases change with
  | aside _ wiring continued =>
      exact quiet.of_continue (congrArg Wiring.callbacks wiring) continued
  | settles => exact quiet.of_continue rfl (.refl session.tasks)
  | advances _ known _ continues wiring =>
      exact quiet.of_continue (congrArg Wiring.callbacks wiring) (.set known continues)
  | announces chain _ wiring =>
      rw [quiet.silent]
      exact quiet.of_continue (congrArg Wiring.callbacks wiring) (.refl session.tasks)
  | calls isCall => rw [noCall] at isCall; cases isCall
  | closes => exact quiet.callClose

/-- An action changes a binding only if it answers what was under way when the session was
closed. -/
theorem Change.binding (change : Change action session next) (quiet : Quiet closed session)
    (noCall : action.isCall = false) (role : Role)
    (changed : next.client.binding role ≠ session.client.binding role) :
    ∃ number former, action.answered? = some number ∧
      closed.tasks[number]? = some former ∧ former.isDirect = true := by
  cases change with
  | aside slots => exact absurd (Client.binding_of_slots slots role) changed
  | settles => exact absurd rfl changed
  | @advances number former step answers known underWay =>
      -- No dispatch of a wallet event is left, so what goes on is a direct observation.
      have isDirect : former.isDirect = true := by
        rcases underWay with event | direct
        · rw [quiet.noEvents number former known] at event
          cases event
        · exact direct
      obtain ⟨atClose, isKnown, wasDirect⟩ := quiet.direct number former known isDirect
      exact ⟨number, atClose, answers, isKnown, wasDirect⟩
  | announces chain slots =>
      rw [quiet.silent] at changed
      exact absurd (Client.binding_of_slots slots role) changed
  | calls isCall => rw [noCall] at isCall; cases isCall
  | closes => exact absurd rfl changed

theorem Quiet.run (quiet : Quiet closed session) {actions : List Action}
    (noCalls : ∀ action ∈ actions, action.isCall = false) :
    Quiet closed (session.run actions) := by
  induction actions generalizing session with
  | nil => exact quiet
  | cons action rest inductionHypothesis =>
      obtain ⟨first, others⟩ := List.forall_mem_cons.1 noCalls
      exact inductionHypothesis ((act_change session action).quiet quiet first) others

theorem Quiet.binding_run (quiet : Quiet closed session) {actions : List Action}
    (noCalls : ∀ action ∈ actions, action.isCall = false)
    (nothing : ∀ task ∈ closed.tasks, task.isDirect = false) (role : Role) :
    (session.run actions).client.binding role = session.client.binding role := by
  induction actions generalizing session with
  | nil => rfl
  | cons action rest inductionHypothesis =>
      obtain ⟨first, others⟩ := List.forall_mem_cons.1 noCalls
      have change := act_change session action
      refine (inductionHypothesis (change.quiet quiet first) others).trans ?_
      refine Classical.byContradiction fun changed => ?_
      obtain ⟨number, former, -, known, isDirect⟩ := change.binding quiet first role changed
      rw [nothing former (List.mem_of_getElem? known)] at isDirect
      cases isDirect

/-- **A close gives up the dispatches of wallet events, and only these.** After a close, and until a
start or a direct observation is called, no dispatch of a wallet event is left; an action changes a
binding only by answering a start or a direct observation that was under way at the close; and no
binding changes at all if none was. -/
theorem close_gives_up_events {settings : Settings} {given : Option Deployments.Tables}
    {roles : List Role} {wallet : WalletLink} {client : Client}
    (built : Client.ofSettings settings given roles wallet = .ok client)
    (unused : wallet.subscribers = .none) (before after : List Action)
    (noCalls : ∀ action ∈ after, action.isCall = false) :
    let closed := ((start client).run before).act .close
    let session := closed.run after
    (∀ task ∈ session.tasks, task.isEvent = false) ∧
    (∀ action : Action, action.isCall = false → ∀ role,
      (session.act action).client.binding role ≠ session.client.binding role →
        ∃ number task, action.answered? = some number ∧
          closed.tasks[number]? = some task ∧ task.isDirect = true) ∧
    ((∀ task ∈ closed.tasks, task.isDirect = false) → ∀ role,
      session.client.binding role = closed.client.binding role) := by
  intro closed session
  have sound := run_sound (start_sound built unused) before
  have atClose : Quiet closed closed := sound.callClose_quiet
  have quiet : Quiet closed session := atClose.run noCalls
  refine ⟨fun task member => ?_, fun action noCall role => ?_, fun nothing role => ?_⟩
  · obtain ⟨number, known⟩ := List.mem_iff_getElem?.1 member
    exact quiet.noEvents number task known
  · exact (act_change session action).binding quiet noCall role
  · exact atClose.binding_run noCalls nothing role

/-! ## An observation that outlives a close -/

def soleSettings : Settings :=
  { Settings.default with defaultChain := 1, rpcUrl := twoChains.rpcUrl }

/-- A client of one role, with an injected wallet. -/
def soleClient : Client where
  settings := soleSettings
  network := .ofSites [twoChains]
  catalog := .empty
  wallet := .injected .none
  started := false
  registryClosed := false

theorem soleClient_built :
    Client.ofSettings soleSettings (some [(.packageStore, twoChains.table)]) [.packageStore]
      (.injected .none) = .ok soleClient := rfl

/-- The client starts without a connection, and a direct observation waits for the signer. -/
def observing : List Action :=
  [.start (fun _ => none) (.ok none), .chainRead 0 (.ok none), .observe (some 1)]

theorem close_gives_up_events_observing :
    Client.ofSettings soleSettings (some [(.packageStore, twoChains.table)]) [.packageStore]
        (.injected .none) = .ok soleClient ∧
      (∀ action ∈ [Action.signerAnswers 1 none], action.isCall = false) ∧
      ∃ number task, (Action.connectorAnswers 1 none).answered? = some number ∧
        (((start soleClient).run observing).act .close).tasks[number]? = some task ∧
        task.isDirect = true := by
  have noCalls : ∀ action ∈ [Action.signerAnswers 1 none], action.isCall = false := by
    simp [Action.isCall]
  refine ⟨soleClient_built, noCalls, ?_⟩
  refine (close_gives_up_events soleClient_built rfl observing [.signerAnswers 1 none] noCalls).2.1
    (.connectorAnswers 1 none) rfl .packageStore fun same => ?_
  exact absurd (congrArg (fun bound => bound.toOption.map Binding.access) same) (by decide)

/-- A close does not give up everything: a direct observation lands after it. -/
theorem observation_outlives_close :
    ¬ ∀ (settings : Settings) (given : Option Deployments.Tables) (roles : List Role)
      (wallet : WalletLink) (client : Client) (before after : List Action),
      Client.ofSettings settings given roles wallet = .ok client → wallet.subscribers = .none →
      (∀ action ∈ after, action.isCall = false) →
      let closed := ((start client).run before).act .close
      ∀ role, (closed.run after).client.binding role = closed.client.binding role := by
  intro claim
  have same := claim soleSettings _ _ _ soleClient observing
    [.signerAnswers 1 none, .connectorAnswers 1 none] soleClient_built rfl
    (by simp [Action.isCall]) .packageStore
  exact absurd (congrArg (fun bound => bound.toOption.map Binding.access) same) (by decide)

end PackageStore.Client.Session
