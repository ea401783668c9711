import PackageStore.Proofs.Client.Session

/-!
Contract: the standing of a client, which only a start and a close change.

Owns: whether a client owns its wallet, polls it, is started and is subscribed; what a start and the
two parts of a close make of that; and that every other action leaves it as it is.

Does not own: the list of subscribers, which the wiring of a client ties to its subscription.
-/

set_option autoImplicit false

namespace PackageStore

def WalletLink.isPolling : WalletLink → Bool
  | .injected _ => false
  | .owned wallet => wallet.polling

namespace Client

structure Standing where
  owned : Bool
  polling : Bool
  started : Bool
  subscribed : Bool
deriving DecidableEq

/-- A client that has gone live polls what it owns. -/
def Standing.live (standing : Standing) : Standing :=
  ⟨standing.owned, standing.owned, true, true⟩

def standing (client : Client) : Standing :=
  ⟨client.wallet.isOwned, client.wallet.isPolling, client.started, client.network.subscribed⟩

/-- What a dispatch does to its network does not touch the standing. -/
theorem standing_of_frame (client : Client) {network : Network}
    (frame : network.subscribed = client.network.subscribed) :
    ({ client with network } : Client).standing = client.standing := by
  rw [standing, frame]
  rfl

theorem absorb_standing (client : Client) (purpose : Purpose) {step : Network.Step}
    (frame : step.network.subscribed = client.network.subscribed) :
    (client.absorb purpose step).client.standing = client.standing := by
  rw [absorb_client]
  exact client.standing_of_frame frame

theorem goLive_standing (client : Client) (baseline : Reading) :
    (client.goLive baseline).1.standing = client.standing.live := by
  have subscribed : client.network.subscribe.1.subscribed = true := by
    unfold Network.subscribe
    split
    next already => exact already
    next => rfl
  have polling : ∀ link : WalletLink,
      (link.start baseline).1.isOwned = link.isOwned ∧
        (link.start baseline).1.isPolling = link.isOwned := by
    intro link
    cases link with
    | injected subscribers => exact ⟨rfl, rfl⟩
    | owned wallet =>
        refine ⟨rfl, ?_⟩
        simp only [WalletLink.start, WalletLink.isPolling, PollingWallet.start]
        split
        next already => exact already
        next => rfl
  have owned : client.subscribe.1.wallet.isOwned = client.wallet.isOwned := by
    simp only [subscribe]
    split
    next => rfl
    next => cases client.wallet <;> rfl
  have goesLive : (client.goLive baseline).1.standing =
      ⟨(client.subscribe.1.wallet.start baseline).1.isOwned,
        (client.subscribe.1.wallet.start baseline).1.isPolling, true,
        client.network.subscribe.1.subscribed⟩ := rfl
  rw [goesLive, (polling _).1, (polling _).2, owned, subscribed]
  rfl

theorem abandon_standing (client : Client) :
    client.abandon.2.standing = { client.standing with subscribed := false } := by
  have same : client.abandon.2.wallet.isOwned = client.wallet.isOwned ∧
      client.abandon.2.wallet.isPolling = client.wallet.isPolling := by
    simp only [abandon]
    split
    next => cases client.wallet <;> exact ⟨rfl, rfl⟩
    next => exact ⟨rfl, rfl⟩
  have abandoned : client.abandon.2.standing =
      ⟨client.abandon.2.wallet.isOwned, client.abandon.2.wallet.isPolling, client.started,
        false⟩ := rfl
  rw [abandoned, same.1, same.2]
  rfl

theorem shutDown_standing (client : Client) :
    client.shutDown.1.standing = { client.standing with polling := false, started := false } := by
  have stopped : client.wallet.stop.1.isOwned = client.wallet.isOwned ∧
      client.wallet.stop.1.isPolling = false := by
    cases client.wallet with
    | injected subscribers => exact ⟨rfl, rfl⟩
    | owned wallet =>
        refine ⟨rfl, ?_⟩
        simp only [WalletLink.stop, WalletLink.isPolling, PollingWallet.stop]
        split
        next => rfl
        next silent => exact Bool.eq_false_iff.2 silent
  have down : client.shutDown.1.standing =
      ⟨client.wallet.stop.1.isOwned, client.wallet.stop.1.isPolling, false,
        client.network.subscribed⟩ := rfl
  rw [down, stopped.1, stopped.2]
  rfl

/-- Binding the roles read-only does not touch the standing. -/
theorem bindRoles_standing (client : Client) (connect : Role → Option Failure) :
    ({ client with network := (client.bindRoles connect).network } : Client).standing =
      client.standing := by
  refine client.standing_of_frame ?_
  rw [bindRoles, bindReadOnly_frame]

theorem applyChain_standing (client : Client) (current : Reading) :
    (client.applyChain current).client.standing = client.standing := by
  simp only [applyChain, Step.after]
  split
  next => rfl
  next => rfl
  next chain _ =>
    exact client.absorb_standing _ rfl

namespace Session

/-- A start or a part of a close. -/
def Action.isSwitch : Action → Bool
  | .start _ _ => true
  | .close => true
  | .closed _ => true
  | _ => false

variable (session : Session)

theorem callStart_standing (connect : Role → Option Failure) (baseline : Reading) :
    (session.callStart connect baseline).client.standing =
      if session.client.started || (session.client.bindRoles connect).failure.isSome then
        session.client.standing
      else session.client.standing.live := by
  have bound := session.client.bindRoles_standing connect
  unfold callStart
  cases started : session.client.started with
  | true => rfl
  | false =>
      rw [if_neg Bool.false_ne_true]
      dsimp only
      cases (session.client.bindRoles connect).failure with
      | some failure => exact bound
      | none =>
          rw [← bound]
          exact goLive_standing _ baseline

theorem callClose_standing :
    session.callClose.client.standing = { session.client.standing with subscribed := false } :=
  session.client.abandon_standing

theorem closed_standing (number : Nat) :
    (session.closed number).client.standing = session.client.standing ∨
      (session.closed number).client.standing =
        { session.client.standing with polling := false, started := false } := by
  unfold closed
  split
  next => exact .inr session.client.shutDown_standing
  next => exact .inl rfl

theorem callEach_standing (chain : Option Chain) (callbacks : List Subscriber) :
    (callEach chain callbacks session).client.standing = session.client.standing := by
  induction callbacks generalizing session with
  | nil => rfl
  | cons callback rest inductionHypothesis =>
      unfold callEach
      rw [inductionHypothesis]
      rfl

theorem chainRead_standing (number : Nat) (current : Reading) :
    (session.chainRead number current).client.standing = session.client.standing := by
  unfold chainRead
  split
  next => exact session.client.applyChain_standing current
  next => rfl

theorem poll_standing (reading : Reading) :
    (session.poll reading).client.standing = session.client.standing := by
  unfold poll
  split
  next => rfl
  next wallet owned =>
    have polling : (wallet.poll reading).wallet.polling = wallet.polling := by
      unfold PollingWallet.poll
      dsimp only
      split <;> rfl
    dsimp only
    rw [callEach_standing, standing, standing, owned, WalletLink.isPolling, polling]
    rfl

theorem readySigner_standing (accounts : Except Failure (List String)) :
    (session.readySigner accounts).client.standing = session.client.standing := by
  unfold readySigner
  split
  next => rfl
  next wallet owned =>
    have polling : (wallet.signer accounts).1.polling = wallet.polling := by
      unfold PollingWallet.signer
      split
      · rfl
      · split
        · rfl
        · split <;> rfl
    rw [standing, standing, owned, WalletLink.isPolling, polling]
    rfl

/-- Only a start and a close change the standing. -/
theorem act_standing {action : Action} (steady : action.isSwitch = false) :
    (session.act action).client.standing = session.client.standing := by
  cases action with
  | start connect baseline => cases steady
  | close => cases steady
  | closed number => cases steady
  | chainRead number current => exact session.chainRead_standing number current
  | poll reading => exact session.poll_standing reading
  | readySigner accounts => exact session.readySigner_standing accounts
  | observe chain => exact session.client.absorb_standing .request rfl
  | announce chain =>
      simp only [act, announce]
      split
      next => exact session.callEach_standing chain _
      next => rfl
  | begin number =>
      simp only [act, begin]
      split
      next => exact session.client.absorb_standing .event rfl
      next => rfl
  | signerAnswers number failure =>
      simp only [act, signerAnswers]
      split
      next rebind purpose _ => exact session.client.absorb_standing purpose rfl
      next => rfl
  | connectorAnswers number failure =>
      simp only [act, connectorAnswers]
      split
      next rebind purpose _ => exact session.client.absorb_standing purpose rfl
      next => rfl
  | settle number =>
      simp only [act, settle]
      split
      next => split <;> rfl
      next => rfl
  | cancel number => rfl
  | listen refusal => rfl
  | setQuery query => rfl
  | refreshed answer => rfl

end Session

end Client

end PackageStore
