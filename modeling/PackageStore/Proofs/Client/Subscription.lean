import PackageStore.Proofs.Client.Assembly
import PackageStore.Proofs.Client.Closing
import PackageStore.Proofs.Client.Standing

/-!
Contract: the one subscription of a client whose wallet belongs to someone else.

Owns: the actions of such a client, for which a close is over as soon as it is called; the invariant
that it is subscribed just while it is started; and the theorem how often the wallet has its
callback, and what a change of the wallet's chain then does.

Does not own: a client that owns its wallet. Its close stands still while the wallet and the
registry are shut down, and a start may come in between.
-/

set_option autoImplicit false

namespace PackageStore.Client.Session

/-! ## A client that owns nothing -/

/-- An action of a client that owns nothing: there is nothing that a close would have to wait
for. -/
def actUnowned (session : Session) : Action → Session
  | .close => session.callClose.closed session.tasks.length
  | .closed _ => session
  | action => session.act action

def runUnowned (session : Session) (actions : List Action) : Session :=
  actions.foldl actUnowned session

/-- What a client that owns nothing keeps: its wallet calls the network just while that is
subscribed, and it is subscribed just while the client is started. -/
structure Unowned (session : Session) : Prop where
  sound : session.Sound
  unowned : session.client.standing.owned = false
  inStep : session.client.standing.subscribed = session.client.standing.started

variable {session : Session}

theorem Unowned.of_standing {next : Session} (unowned : session.Unowned) (sound : next.Sound)
    (same : next.client.standing = session.client.standing) : next.Unowned := by
  refine ⟨sound, ?_, ?_⟩
  · rw [same]
    exact unowned.unowned
  · rw [same]
    exact unowned.inStep

theorem Unowned.callStart (unowned : session.Unowned) (connect : Role → Option Failure)
    (baseline : Reading) : (session.callStart connect baseline).Unowned := by
  have sound : (session.callStart connect baseline).Sound :=
    act_sound unowned.sound (.start connect baseline)
  have standing := session.callStart_standing connect baseline
  split at standing
  next => exact unowned.of_standing sound standing
  next =>
    refine ⟨sound, ?_, ?_⟩
    · rw [standing]
      exact unowned.unowned
    · rw [standing]
      rfl

theorem Unowned.close (unowned : session.Unowned) :
    (session.callClose.closed session.tasks.length).Unowned := by
  have sound : (session.callClose.closed session.tasks.length).Sound :=
    act_sound (act_sound unowned.sound .close) (.closed session.tasks.length)
  have standing : (session.callClose.closed session.tasks.length).client.standing =
      ⟨session.client.standing.owned, false, false, false⟩ := by
    have down := session.client.abandon.2.shutDown_standing
    rw [abandon_standing] at down
    rw [callClose_closed]
    exact down
  refine ⟨sound, ?_, ?_⟩
  · rw [standing]
    exact unowned.unowned
  · rw [standing]

theorem actUnowned_of_steady {action : Action} (steady : action.isSwitch = false) :
    session.actUnowned action = session.act action := by
  cases action with
  | close => cases steady
  | closed number => cases steady
  | _ => rfl

theorem actUnowned_unowned (unowned : session.Unowned) (action : Action) :
    (session.actUnowned action).Unowned := by
  cases switch : action.isSwitch with
  | false =>
      rw [actUnowned_of_steady switch]
      exact unowned.of_standing (act_sound unowned.sound action) (session.act_standing switch)
  | true =>
      cases action with
      | start connect baseline => exact unowned.callStart connect baseline
      | close => exact unowned.close
      | closed number => exact unowned
      | _ => cases switch

theorem runUnowned_unowned (unowned : session.Unowned) (actions : List Action) :
    (session.runUnowned actions).Unowned := by
  induction actions generalizing session with
  | nil => exact unowned
  | cons action rest inductionHypothesis =>
      exact inductionHypothesis (actUnowned_unowned unowned action)

theorem start_unowned {settings : Settings} {given : Option Deployments.Tables}
    {roles : List Role} {client : Client}
    (built : Client.ofSettings settings given roles (.injected .none) = .ok client) :
    (start client).Unowned := by
  have sound := start_sound built rfl
  obtain ⟨tables, sites, -, -, rfl⟩ := ofSettings_parts built
  exact ⟨sound, rfl, rfl⟩

/-! ## The subscription -/

theorem Unowned.callbacks (unowned : session.Unowned) :
    session.client.wallet.subscribers.callbacks =
      if session.client.started then [.network] else [] := by
  have tied : session.client.wallet.subscribers.callbacks =
      if session.client.network.subscribed then [.network] else [] := unowned.sound.tied
  have inStep : session.client.network.subscribed = session.client.started := unowned.inStep
  rw [tied, inStep]

theorem Unowned.announce (unowned : session.Unowned) (chain : Option Chain) :
    session.act (.announce chain) =
      if session.client.started then
        session.spawn (session.client.chainChanged session.tasks.length).2
          (.queued chain (session.client.chainChanged session.tasks.length).1)
      else session := by
  have calls : session.act (.announce chain) =
      callEach chain session.client.wallet.subscribers.callbacks session := by
    have notOwned : session.client.wallet.isOwned = false := unowned.unowned
    simp only [act, Session.announce]
    cases wallet : session.client.wallet with
    | injected subscribers => rfl
    | owned polled =>
        rw [wallet] at notOwned
        cases notOwned
  rw [calls, unowned.callbacks]
  cases session.client.started <;> rfl

/-- **Exactly one live subscription.** Whatever starts, closes, observations, answers, cancellations
and wallet events there were, in whatever order: the wallet has the callback of the network once if
the client is started and not at all otherwise. So a change of the wallet's chain draws one ticket
and begins one dispatch while the client is started, and does nothing while it is not. -/
theorem subscribed_while_started {settings : Settings} {given : Option Deployments.Tables}
    {roles : List Role} {client : Client}
    (built : Client.ofSettings settings given roles (.injected .none) = .ok client)
    (actions : List Action) :
    let session := (start client).runUnowned actions
    session.client.wallet.subscribers.count .network =
      (if session.client.started then 1 else 0) ∧
    ∀ chain, let later := session.act (.announce chain)
      (session.client.started = true →
        later.client.network.counter.last = session.client.network.counter.last + 1 ∧
        later.client.network.inFlight =
          session.client.network.inFlight ++ [session.tasks.length] ∧
        later.tasks = session.tasks ++
          [.queued chain (session.client.network.counter.last + 1)]) ∧
      (session.client.started = false → later = session) := by
  intro session
  have unowned : session.Unowned := runUnowned_unowned (start_unowned built) actions
  refine ⟨?_, fun chain => ⟨fun started => ?_, fun notStarted => ?_⟩⟩
  · rw [Subscribers.count, unowned.callbacks]
    cases session.client.started <;> rfl
  · rw [unowned.announce, if_pos started]
    exact ⟨rfl, rfl, rfl⟩
  · rw [unowned.announce, if_neg (Bool.eq_false_iff.1 notStarted)]

/-- A close overtakes a start that waits for the wallet's chain, and the client is started again. -/
def restarting : List Action :=
  [.start (fun _ => none) (.ok none), .close, .start (fun _ => none) (.ok none),
    .chainRead 0 (.ok (some 1)), .cancel 0]

theorem subscribed_while_started_restarting :
    Client.ofSettings soleSettings (some [(.packageStore, Binder.Session.twoChains.table)])
        [.packageStore] (.injected .none) = .ok soleClient ∧
      ((start soleClient).runUnowned restarting).client.wallet.subscribers.count .network = 1 :=
  ⟨soleClient_built, (subscribed_while_started soleClient_built restarting).1⟩

end PackageStore.Client.Session
