import PackageStore.Proofs.Client.Course
import PackageStore.Proofs.Client.FailedStart
import PackageStore.Proofs.Settings.Tables

/-!
Contract: from settings to a client that has started.

Owns: the slots of a client that is put together from settings; a start with all that follows while
it waits for answers; and how a start ends, which the settings decide role by role: not at all for a
configured address that is invalid, with the first role that has no address on the default chain,
or with every role bound read-only to its own address.

Does not own: other calls while a start waits.
-/

set_option autoImplicit false

namespace PackageStore

/-- Where observations end, default bindings stay. -/
theorem Observer.Announces.home {κ : Type} [DecidableEq κ] {opened current : Observer κ}
    {ticket : Ticket} {news : List (κ × Report)} {key : κ} {binder : Binder}
    (announces : opened.Announces ticket news current) (known : opened.binder key = .ok binder) :
    ∃ later, current.binder key = .ok later ∧ later.home = binder.home := by
  refine announces.carries (motive := fun observer _ =>
    ∃ later, observer.binder key = .ok later ∧ later.home = binder.home) [] ?_ ⟨binder, known, rfl⟩
  rintro observer - other moved landing isMoved faithful ⟨former, isFormer, same⟩
  by_cases here : other = key
  · subst here
    cases isMoved.symm.trans isFormer
    exact ⟨landing.binder, observer.binder_hold_self other landing.binder,
      faithful.home.trans same⟩
  · exact ⟨former, (observer.binder_hold_of_ne landing.binder here).trans isFormer, same⟩

namespace Network

/-! ## The slots of sites -/

variable {network : Network} {chain : Option Chain} {ticket : Ticket} {role : Role}
  {binder : Binder}

/-- A step of a dispatch leaves default bindings as they are. -/
theorem Tells.home {earlier : List (Role × Report)} {step : Step}
    (tells : network.Tells ticket earlier step) (known : network.binder role = .ok binder) :
    ∃ later, step.network.binder role = .ok later ∧ later.home = binder.home := by
  obtain ⟨news, -, announces, -⟩ := tells
  exact announces.home known

/-- Without a signer-bound binding, an observation that lands at once leaves the default one. -/
theorem observe_unsigned {landing : Binder.Landing} (unsigned : binder.signed = none)
    (ended : binder.observe chain ticket = .ended landing) : landing.binder.signed = none := by
  have settles : ∀ status warning,
      (binder.settleReadOnly ticket status warning).binder.signed = none := by
    intro status warning
    unfold Binder.settleReadOnly
    split
    · rfl
    · exact unsigned
  unfold Binder.observe at ended
  split at ended
  · cases ended
    exact settles _ _
  · split at ended
    · cases ended
      exact settles _ _
    · rw [unsigned] at ended
      cases ended

/-- A fresh observation leaves bindings as they are where no signer was bound before. -/
theorem binder_observe (known : network.binder role = .ok binder) (unsigned : binder.signed = none)
    (chain : Option Chain) :
    ∃ later, (network.observe chain).network.binder role = .ok later ∧ later.signed = none ∧
      later.home = binder.home := by
  have issued : network.issue.2.observer.binder role = .ok binder := known
  have member : role ∈ network.issue.2.observer.binders := mem_roles_of_binder issued
  have distinct : network.issue.2.observer.binders.Nodup := OrderedMap.nodup_keys _
  have visited : Observer.MovesTo chain network.issue.1 role _ binder none _ :=
    Observer.visit_moves distinct issued []
  obtain ⟨later, isLater, moves⟩ := visited
  have takes := network.issue.2.dispatch_takes chain network.issue.1
  refine ⟨later, (takes.binder role).trans isLater, ?_⟩
  rw [Observer.placeAmong_of_mem member] at moves
  generalize Observer.Progress.place role _ = arrived at moves
  cases moves with
  | stays => exact ⟨unsigned, rfl⟩
  | pauses => exact ⟨unsigned, rfl⟩
  | lands ended => exact ⟨observe_unsigned unsigned ended, (Binder.observe_faithful ended).home⟩

end Network

/-- The first of several roles without an address on the default chain. -/
def Settings.FirstMissing (settings : Settings) (roles : List Role) (role : Role) : Prop :=
  ∃ before after, roles = before ++ role :: after ∧
    (∀ other ∈ before, settings.address? other settings.defaultChain ≠ none) ∧
    settings.address? role settings.defaultChain = none

namespace Client

/-! ## A client put together from settings -/

section Built

variable {settings : Settings} {roles : List Role} {wallet : WalletLink}

/-- A client that is put together from settings: its slots are those of its roles, all vacant, each
with a table that lists the addresses which the settings have for its role. -/
structure Prepared (settings : Settings) (roles : List Role) (wallet : WalletLink)
    (client : Client) : Prop where
  configured : client.settings = settings
  linked : client.wallet = wallet
  unstarted : client.started = false
  named : client.network.roles = roles.eraseDups
  vacant : ∀ role ∈ roles, ∃ table : Deployments,
    client.network.slots.get? role = some (.vacant ⟨role, table, settings.rpcUrl⟩) ∧
      table.role = role ∧ ∀ chain, table.on? chain = settings.address? role chain

end Built

/-! ## A start with all that follows -/

/-- What a start comes to, step by step: it begins, and wherever it waits for the signer or for a
contract handle, it goes on with an answer. -/
inductive Starting (client : Client) (answers : StartAnswers) : Step → Prop where
  | begins : Starting client answers (client.start answers)
  | signerAnswers {step : Step} {rebind : Observer.Rebind Role} {purpose : Purpose}
      (before : Starting client answers step)
      (waits : step.progress = .needsSigner rebind purpose) (failure : Option Failure) :
      Starting client answers (step.client.signerAnswered rebind purpose failure)
  | connectorAnswers {step : Step} {rebind : Observer.Rebind Role} {purpose : Purpose}
      (before : Starting client answers step)
      (waits : step.progress = .needsContract rebind purpose) (failure : Option Failure) :
      Starting client answers (step.client.contractAnswered rebind purpose failure)

variable {client : Client} {answers : StartAnswers}

/-- The answers that a start waits for leave default bindings as they are. -/
theorem Starting.home {step : Step} (starting : client.Starting answers step) {role : Role}
    {binder : Binder} (known : (client.start answers).client.network.binder role = .ok binder) :
    ∃ later, step.client.network.binder role = .ok later ∧ later.home = binder.home := by
  induction starting with
  | begins => exact ⟨binder, known, rfl⟩
  | @signerAnswers step rebind purpose before waits failure inductionHypothesis =>
      obtain ⟨former, isFormer, sameFormer⟩ := inductionHypothesis
      obtain ⟨later, isLater, same⟩ :=
        (Network.signerAnswered_tells _ rebind failure).home isFormer
      refine ⟨later, ?_, same.trans sameFormer⟩
      rw [signerAnswered, absorb_client]
      exact isLater
  | @connectorAnswers step rebind purpose before waits failure inductionHypothesis =>
      obtain ⟨former, isFormer, sameFormer⟩ := inductionHypothesis
      obtain ⟨later, isLater, same⟩ :=
        (Network.contractAnswered_tells _ rebind failure).home isFormer
      refine ⟨later, ?_, same.trans sameFormer⟩
      rw [contractAnswered, absorb_client]
      exact isLater

/-- What is done with the wallet's chain leaves the bindings as they are where no signer was bound
before. -/
theorem binder_applyChain {role : Role} {binder : Binder}
    (known : client.network.binder role = .ok binder) (unsigned : binder.signed = none)
    (current : Reading) :
    ∃ later, (client.applyChain current).client.network.binder role = .ok later ∧
      later.signed = none ∧ later.home = binder.home := by
  unfold applyChain
  dsimp only [Step.after]
  split
  · exact ⟨binder, known, unsigned, rfl⟩
  · exact ⟨binder, known, unsigned, rfl⟩
  · next chain _ =>
      rw [observe, absorb_client]
      exact Network.binder_observe known unsigned (some chain)

/-! ## How a start ends -/

section Ends

variable {settings : Settings} {roles : List Role} {wallet : WalletLink} {role : Role}

/-- What is raised for a role without an address on a chain. -/
def missing (role : Role) (chain : Chain) : Failure :=
  (ConfigurationFault.missingAddress role (.int chain)).raised

/-- A role refuses exactly if the settings have no address for it on the default chain. -/
theorem Prepared.refusal?_role (prepared : Prepared settings roles wallet client)
    {connect : Role → Option Failure} (connected : ∀ role, connect role = none)
    (member : role ∈ roles) :
    client.network.refusal? connect client.settings.defaultChain role =
      match settings.address? role settings.defaultChain with
      | some _ => none
      | none => some (missing role settings.defaultChain) := by
  obtain ⟨table, vacant, named, lists⟩ := prepared.vacant role member
  have site : client.network.site? role = some ⟨role, table, settings.rpcUrl⟩ := by
    rw [Network.site?, vacant]
    rfl
  simp only [Network.refusal?, site, Deployments.require, Deployments.at?_int, lists,
    prepared.configured, named, connected]
  cases settings.address? role settings.defaultChain <;> rfl

/-- The refusal that stops a start is that of the first role without an address. -/
theorem Prepared.refusal?_eq_some_iff (prepared : Prepared settings roles wallet client)
    {connect : Role → Option Failure} (connected : ∀ role, connect role = none)
    (failure : Failure) :
    client.refusal? connect = some failure ↔
      ∃ role, settings.FirstMissing roles role ∧ failure = missing role settings.defaultChain := by
  have willing : ∀ role ∈ roles,
      client.network.refusal? connect client.settings.defaultChain role = none ↔
        settings.address? role settings.defaultChain ≠ none := by
    intro role member
    rw [prepared.refusal?_role connected member]
    cases settings.address? role settings.defaultChain <;> simp
  have refuses : ∀ role ∈ roles,
      client.network.refusal? connect client.settings.defaultChain role = some failure ↔
        settings.address? role settings.defaultChain = none ∧
          failure = missing role settings.defaultChain := by
    intro role member
    rw [prepared.refusal?_role connected member]
    cases settings.address? role settings.defaultChain <;> simp [eq_comm]
  rw [Client.refusal?, prepared.named, OrderedMap.findSome?_eraseDups, List.findSome?_eq_some_iff]
  constructor
  · rintro ⟨before, role, after, same, refused, others⟩
    obtain ⟨missing, reported⟩ := (refuses role (by simp [same])).1 refused
    refine ⟨role, ⟨before, after, same, fun other earlier => ?_, missing⟩, reported⟩
    exact (willing other (by simp [same, earlier])).1 (others other earlier)
  · rintro ⟨role, ⟨before, after, same, others, missing⟩, reported⟩
    refine ⟨before, role, after, same, ?_, fun other earlier => ?_⟩
    · exact (refuses role (by simp [same])).2 ⟨missing, reported⟩
    · exact (willing other (by simp [same, earlier])).2 (others other earlier)

/-- If every role has an address, none refuses. -/
theorem Prepared.willing (prepared : Prepared settings roles wallet client)
    {connect : Role → Option Failure} (connected : ∀ role, connect role = none)
    (served : ∀ role ∈ roles, settings.address? role settings.defaultChain ≠ none) :
    client.refusal? connect = none := by
  cases refused : client.refusal? connect with
  | none => rfl
  | some failure =>
      obtain ⟨role, ⟨before, after, same, -, missing⟩, -⟩ :=
        (prepared.refusal?_eq_some_iff connected failure).1 refused
      exact absurd missing (served role (by simp [same]))

/-- Roles that all have an address are bound to it read-only when a start begins. -/
theorem Prepared.bound (prepared : Prepared settings roles wallet client)
    (willing : client.refusal? answers.connect = none) (member : role ∈ roles) :
    ∃ address binder, settings.address? role settings.defaultChain = some address ∧
      (client.start answers).client.network.binder role = .ok binder ∧ binder.signed = none ∧
      binder.home = .readOnly settings.defaultChain address settings.rpcUrl := by
  obtain ⟨table, vacant, -, lists⟩ := prepared.vacant role member
  have listed : role ∈ client.network.roles := by
    rw [prepared.named]
    exact List.mem_eraseDups.2 member
  have through : (client.bindRoles answers.connect).failure = none :=
    (client.bindRoles_failure answers.connect).trans willing
  obtain ⟨address, required, isBound⟩ :=
    bindReadOnly_bound (OrderedMap.nodup_keys _) through listed vacant
  rw [Deployments.require, Deployments.at?_int, prepared.configured] at required
  have known : settings.address? role settings.defaultChain = some address := by
    rw [← lists]
    split at required
    · next found =>
        cases required
        exact found
    · cases required
  have live : (client.live answers).network.binder role = .ok
      ((Slot.vacant ⟨role, table, settings.rpcUrl⟩).bindReadOnly client.settings.defaultChain
        address) := by
    rw [Client.live, goLive_network]
    exact isBound
  obtain ⟨later, isLater, unsigned, home⟩ := binder_applyChain live rfl answers.current
  refine ⟨address, later, known, ?_, unsigned, ?_⟩
  · obtain ⟨effects, started⟩ := startup_of_willing willing
    rw [start_startup prepared.unstarted, started]
    exact isLater
  · rw [home, prepared.configured]
    rfl

end Ends

end Client

end PackageStore
