import PackageStore.Proofs.Client.Session
import PackageStore.Proofs.Network.Slots

/-!
Contract: the actions of a session that let an observation go over the roles.

Owns: the pass that an action makes, if it makes one; that such an action does nothing else to the
network, and that the other actions, a start apart, leave the slots as they are; and the reports
that the actions of a session announce.
-/

set_option autoImplicit false

namespace PackageStore.Client

/-- A pass over the roles: what it is made for, the network and the reports that it finds, the
ticket of the observation, and the step that it comes to. -/
structure Pass where
  purpose : Purpose
  network : Network
  ticket : Ticket
  earlier : List (Role × Report)
  step : Network.Step

namespace Pass

/-- The first pass of an observation, which draws its ticket. -/
def ofObservation (network : Network) (chain : Option Chain) (purpose : Purpose) : Pass :=
  let (ticket, issued) := network.issue
  ⟨purpose, issued, ticket, [], issued.dispatch chain ticket⟩

/-- The reports that a pass adds to those that it finds. -/
def news (pass : Pass) : List (Role × Report) :=
  pass.step.progress.reports.drop pass.earlier.length

/-- A pass announces its news to the listeners of a network, from which it has drawn a ticket at
most. -/
structure Fits (network : Network) (pass : Pass) : Prop where
  frame : pass.network = { network with counter := pass.network.counter }
  announces : pass.network.observer.Announces pass.ticket pass.news pass.step.network.observer
  told : pass.step.effects.filterMap Effect.told? =
    Observer.tellings network.listeners pass.news

theorem Fits.of_tells {network : Network} {pass : Pass}
    (frame : pass.network = { network with counter := pass.network.counter })
    (tells : pass.network.Tells pass.ticket pass.earlier pass.step) : pass.Fits network := by
  obtain ⟨news, reports, announces, told⟩ := tells
  have same : pass.news = news := by rw [Pass.news, reports, List.drop_left]
  have listeners : pass.network.listeners = network.listeners := by rw [frame]
  refine ⟨frame, ?_, ?_⟩
  · rw [same]
    exact announces
  · rw [same, told, listeners]

theorem ofObservation_fits (network : Network) (chain : Option Chain) (purpose : Purpose) :
    (ofObservation network chain purpose).Fits network :=
  .of_tells rfl (network.issue.2.dispatch_tells chain network.issue.1)

end Pass

namespace Session

/-- The pass that an action makes. -/
def pass? (session : Session) : Action → Option Pass
  | .chainRead number current =>
      match session.tasks[number]? with
      | some .asksChain =>
          match (session.client.wallet.currentChain current).1 with
          | .ok (some chain) =>
              some (.ofObservation session.client.network (some chain) (.startup chain))
          | _ => none
      | _ => none
  | .observe chain => some (.ofObservation session.client.network chain .request)
  | .begin number =>
      match session.tasks[number]? with
      | some (.queued chain ticket) =>
          some ⟨.event, session.client.network, ticket, [],
            session.client.network.dispatch chain ticket⟩
      | _ => none
  | .signerAnswers number failure =>
      match session.tasks[number]? with
      | some (.running (.needsSigner rebind purpose)) =>
          some ⟨purpose, session.client.network, rebind.observation.ticket, rebind.reports,
            session.client.network.signerAnswered rebind failure⟩
      | _ => none
  | .connectorAnswers number failure =>
      match session.tasks[number]? with
      | some (.running (.needsContract rebind purpose)) =>
          some ⟨purpose, session.client.network, rebind.observation.ticket, rebind.reports,
            session.client.network.contractAnswered rebind failure⟩
      | _ => none
  | _ => none

/-- A start is called. -/
def Action.isStart : Action → Bool
  | .start _ _ => true
  | _ => false

/-- The reports that an action announces. -/
def announced (session : Session) (action : Action) : List (Role × Report) :=
  ((session.pass? action).map Pass.news).getD []

/-- What can be seen of the pass that an action makes. -/
def shown (session : Session) (action : Action) : List Effect :=
  match session.pass? action with
  | some pass => (session.client.absorb pass.purpose pass.step).effects
  | none => []

/-- The reports that are announced in the course of a run. -/
def heard (session : Session) : List Action → List (Role × Report)
  | [] => []
  | action :: rest => session.announced action ++ (session.act action).heard rest

variable {session : Session} {action : Action}

/-- A pass announces its news to the listeners, and is all that its action does to the client. -/
theorem act_of_pass {pass : Pass} (makes : session.pass? action = some pass) :
    pass.Fits session.client.network ∧
      (session.act action).client = (session.client.absorb pass.purpose pass.step).client := by
  cases action with
  | chainRead number current =>
      simp only [pass?] at makes
      split at makes
      next asks =>
        split at makes
        next chain known =>
          cases makes
          refine ⟨Pass.ofObservation_fits _ _ _, ?_⟩
          simp only [act, chainRead, asks, absorb, applyChain, known, Client.Step.after]
          rfl
        next => cases makes
      next => cases makes
  | observe chain =>
      cases makes
      exact ⟨Pass.ofObservation_fits _ _ _, rfl⟩
  | begin number =>
      simp only [pass?] at makes
      split at makes
      next chain ticket queued =>
        cases makes
        refine ⟨.of_tells rfl (Network.dispatch_tells _ chain ticket), ?_⟩
        simp only [act, begin, queued]
        rfl
      next => cases makes
  | signerAnswers number failure =>
      simp only [pass?] at makes
      split at makes
      next rebind purpose waits =>
        cases makes
        refine ⟨.of_tells rfl (Network.signerAnswered_tells _ rebind failure), ?_⟩
        simp only [act, signerAnswers, waits]
        rfl
      next => cases makes
  | connectorAnswers number failure =>
      simp only [pass?] at makes
      split at makes
      next rebind purpose waits =>
        cases makes
        refine ⟨.of_tells rfl (Network.contractAnswered_tells _ rebind failure), ?_⟩
        simp only [act, connectorAnswers, waits]
        rfl
      next => cases makes
  | _ => cases makes

theorem network_of_pass {pass : Pass} (makes : session.pass? action = some pass) :
    (session.act action).client.network = pass.step.network := by
  rw [(act_of_pass makes).2, absorb_client]

theorem callEach_slots (chain : Option Chain) (callbacks : List Subscriber) (session : Session) :
    (callEach chain callbacks session).client.network.slots = session.client.network.slots := by
  induction callbacks generalizing session with
  | nil => rfl
  | cons callback rest inductionHypothesis => exact inductionHypothesis _

/-- An action that makes no pass leaves the slots alone, unless it is a start. -/
theorem slots_of_no_pass (makes : session.pass? action = none) (noStart : action.isStart = false) :
    (session.act action).client.network.slots = session.client.network.slots := by
  cases action with
  | start connect baseline => cases noStart
  | chainRead number current =>
      simp only [pass?] at makes
      simp only [act, chainRead]
      split
      next asks =>
        rw [asks] at makes
        simp only [absorb, applyChain, Client.Step.after]
        split
        next => rfl
        next => rfl
        next chain known =>
          rw [known] at makes
          cases makes
      next => rfl
  | observe chain => cases makes
  | close => rfl
  | closed number =>
      simp only [act, closed]
      split <;> rfl
  | announce chain =>
      simp only [act, announce]
      split
      next => exact callEach_slots chain _ session
      next => rfl
  | poll reading =>
      simp only [act, poll]
      split
      next => rfl
      next => exact callEach_slots _ _ _
  | begin number =>
      simp only [pass?] at makes
      simp only [act, begin]
      split
      next queued =>
        rw [queued] at makes
        cases makes
      next => rfl
  | signerAnswers number failure =>
      simp only [pass?] at makes
      simp only [act, signerAnswers]
      split
      next waits =>
        rw [waits] at makes
        cases makes
      next => rfl
  | connectorAnswers number failure =>
      simp only [pass?] at makes
      simp only [act, connectorAnswers]
      split
      next waits =>
        rw [waits] at makes
        cases makes
      next => rfl
  | cancel number => rfl
  | settle number =>
      simp only [act, settle]
      split
      next => split <;> rfl
      next => rfl
  | readySigner accounts =>
      simp only [act, readySigner]
      split <;> rfl
  | listen refusal => rfl
  | setQuery query => rfl
  | refreshed answer => rfl

theorem told_shown (session : Session) (action : Action) :
    (session.shown action).filterMap Effect.told? =
      Observer.tellings session.client.network.listeners (session.announced action) := by
  unfold shown announced
  cases makes : session.pass? action with
  | none => rfl
  | some pass =>
      have told := (act_of_pass makes).1.told
      have concluding : ∀ reports,
          (conclude pass.purpose reports).2.filterMap Effect.told? = [] := by
        intro reports
        cases pass.purpose <;> rfl
      simp only [Option.map_some, Option.getD_some, Client.absorb]
      cases pass.step.progress with
      | ended reports =>
          dsimp only
          rw [List.filterMap_append, concluding, List.append_nil, told]
      | needsSigner rebind => exact told
      | needsContract rebind => exact told

end Session

end PackageStore.Client
