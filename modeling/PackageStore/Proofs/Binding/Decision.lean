import PackageStore.Binding.Binder

/-!
Contract: what the steps of an observation do to a binder.

Owns: the binding that an observation decides, said from its chain and from whether it met a
failure; the report that it deserves; and for each operation of a binder one lemma that says all
that the operation does to the binder and how it reports it.

Does not own: the order in which the steps of several observations follow one another.
-/

set_option autoImplicit false

namespace PackageStore

/-! ## What an observation decides -/

namespace Site

/-- The signer-bound binding that an observation leads to. There is none for a disconnected
wallet, on a chain where the contract is not deployed, and after a failure. -/
def signedFor (site : Site) (failed : Bool) : Option Chain → Option Binding
  | none => none
  | some chain =>
      match site.table.on? chain with
      | none => none
      | some address => if failed then none else some (.signerBound chain address)

/-- How an observation that comes in time is reported. -/
def verdictFor (site : Site) (failed : Bool) : Option Chain → Verdict
  | none => .disconnected
  | some chain =>
      match site.table.on? chain with
      | none => .unsupportedNetwork
      | some _ => if failed then .signerUnavailable else .bound

/-- The warning that goes with an observation of a chain where the contract is not deployed. -/
def warningFor (site : Site) : Option Chain → Option Undeployed
  | none => none
  | some chain =>
      match site.table.on? chain with
      | none => some ⟨site.role, chain⟩
      | some _ => none

variable {site : Site} {chain : Chain} {address : Address}

theorem signedFor_deployed (deployed : site.table.on? chain = some address) :
    site.signedFor false (some chain) = some (.signerBound chain address) := by
  simp [signedFor, deployed]

theorem signedFor_failed (site : Site) (chain : Option Chain) :
    site.signedFor true chain = none := by
  unfold signedFor
  split
  · rfl
  · split <;> rfl

/-- A signer-bound binding stands in the table under the chain that was observed. -/
theorem signedFor_eq_some {failed : Bool} {chain : Option Chain} {binding : Binding}
    (signed : site.signedFor failed chain = some binding) :
    failed = false ∧ chain = some binding.chain ∧
      site.table.on? binding.chain = some binding.address ∧
      binding = .signerBound binding.chain binding.address := by
  cases chain with
  | none => cases signed
  | some chain =>
      cases deployed : site.table.on? chain with
      | none => simp [signedFor, deployed] at signed
      | some address =>
          cases failed with
          | true => simp [signedFor_failed] at signed
          | false =>
              rw [signedFor_deployed deployed] at signed
              cases signed
              exact ⟨rfl, rfl, deployed, rfl⟩

theorem verdictFor_ne_stale (site : Site) (failed : Bool) (chain : Option Chain) :
    site.verdictFor failed chain ≠ .stale := by
  unfold verdictFor
  split
  · decide
  · split
    · decide
    · cases failed <;> decide

end Site

namespace Binder

/-- The binding that an observation decides: a signer-bound one, or else the default one. -/
def decided (binder : Binder) (failed : Bool) (chain : Option Chain) : Binding :=
  (binder.site.signedFor failed chain).getD binder.home

/-- The signer-bound binding, if there is one, is the one that the table lists for its chain. -/
def Listed (binder : Binder) : Prop :=
  ∀ binding, binder.signed = some binding →
    binder.site.signedFor false (some binding.chain) = some binding

variable {binder : Binder}

@[simp] theorem land_site (ticket : Ticket) (signed : Option Binding) :
    (binder.land ticket signed).site = binder.site := rfl

@[simp] theorem land_home (ticket : Ticket) (signed : Option Binding) :
    (binder.land ticket signed).home = binder.home := rfl

theorem active_land (ticket : Ticket) (signed : Option Binding) :
    (binder.land ticket signed).active = signed.getD binder.home := rfl

@[simp] theorem land_applied (ticket : Ticket) (signed : Option Binding) :
    (binder.land ticket signed).mark.applied = max binder.mark.applied ticket :=
  Watermark.applied_present binder.mark ticket

/-! ## What an end of an observation amounts to -/

/-- An observation ended: a ticket in time lands with what the observation decides, and a late one
changes nothing. -/
structure Settles (binder : Binder) (chain : Option Chain) (ticket : Ticket)
    (failure : Option Failure) (landing : Landing) : Prop where
  inTime : binder.mark.applied < ticket →
    landing.binder = binder.land ticket (binder.site.signedFor failure.isSome chain) ∧
      landing.report = ⟨binder.site.verdictFor failure.isSome chain,
        binder.decided failure.isSome chain, ticket, binder.site.warningFor chain, failure⟩
  late : ticket ≤ binder.mark.applied →
    landing.binder = binder ∧ landing.report = ⟨.stale, binder.active, ticket, none, none⟩

namespace Settles

variable {chain : Option Chain} {ticket : Ticket} {failure : Option Failure} {landing : Landing}

theorem site (settles : binder.Settles chain ticket failure landing) :
    landing.binder.site = binder.site := by
  rcases Int.lt_or_le binder.mark.applied ticket with newer | older
  · rw [(settles.inTime newer).1, land_site]
  · rw [(settles.late older).1]

theorem home (settles : binder.Settles chain ticket failure landing) :
    landing.binder.home = binder.home := by
  rcases Int.lt_or_le binder.mark.applied ticket with newer | older
  · rw [(settles.inTime newer).1, land_home]
  · rw [(settles.late older).1]

theorem applied (settles : binder.Settles chain ticket failure landing) :
    landing.binder.mark.applied = max binder.mark.applied ticket := by
  rcases Int.lt_or_le binder.mark.applied ticket with newer | older
  · rw [(settles.inTime newer).1, land_applied]
  · rw [(settles.late older).1, Int.max_eq_left older]

/-- An observation is reported as stale exactly when its ticket is late. -/
theorem stale_iff (settles : binder.Settles chain ticket failure landing) :
    landing.report.status = .stale ↔ ticket ≤ binder.mark.applied := by
  rcases Int.lt_or_le binder.mark.applied ticket with newer | older
  · rw [(settles.inTime newer).2]
    exact iff_of_false (Site.verdictFor_ne_stale _ _ _) (Int.not_le.2 newer)
  · rw [(settles.late older).2]
    exact iff_of_true rfl older

theorem listed (settles : binder.Settles chain ticket failure landing)
    (listed : binder.Listed) : landing.binder.Listed := by
  rcases Int.lt_or_le binder.mark.applied ticket with newer | older
  · intro binding signed
    rw [(settles.inTime newer).1] at signed ⊢
    obtain ⟨_, _, deployed, shape⟩ := Site.signedFor_eq_some signed
    rw [land_site, Site.signedFor_deployed deployed, ← shape]
  · rw [(settles.late older).1]
    exact listed

end Settles

/-! ## The operations of a binder -/

theorem discard_settles {ticket : Ticket} (chain named : Option Chain) (failure : Option Failure)
    (older : ticket ≤ binder.mark.applied) :
    binder.Settles chain ticket failure (binder.discard ticket named) where
  inTime newer := absurd newer (Int.not_lt.2 older)
  late _ := ⟨rfl, rfl⟩

/-- Every end of an observation is guarded by its ticket, so that only the accepted end is to be
looked at. -/
theorem guarded_settles {chain named : Option Chain} {ticket : Ticket} {failure : Option Failure}
    {landing : Landing}
    (binding : landing.binder = binder.land ticket (binder.site.signedFor failure.isSome chain))
    (report : landing.report = ⟨binder.site.verdictFor failure.isSome chain,
      binder.decided failure.isSome chain, ticket, binder.site.warningFor chain, failure⟩) :
    binder.Settles chain ticket failure
      (if binder.mark.admits ticket then landing else binder.discard ticket named) := by
  by_cases newer : binder.mark.applied < ticket
  · rw [if_pos ((Watermark.admits_iff _ _).2 newer)]
    exact ⟨fun _ => ⟨binding, report⟩, fun older => absurd newer (Int.not_lt.2 older)⟩
  · rw [if_neg (fun admitted => newer ((Watermark.admits_iff _ _).1 admitted))]
    exact discard_settles chain named failure (Int.not_lt.1 newer)

/-- A disconnected wallet and an undeployed chain settle on the default binding. -/
theorem settleReadOnly_settles {chain : Option Chain} {ticket : Ticket} {status : Verdict}
    {warning : Option Undeployed} (unsigned : binder.site.signedFor false chain = none)
    (verdict : binder.site.verdictFor false chain = status)
    (warned : binder.site.warningFor chain = warning) :
    binder.Settles chain ticket none (binder.settleReadOnly ticket status warning) := by
  apply guarded_settles
  · rw [Option.isSome_none, unsigned]
  · rw [Option.isSome_none, verdict, warned, decided, unsigned, Option.getD_none]

theorem signerFailed_settles {observation : Observation} (failure : Failure)
    (deployed : binder.site.table.on? observation.chain = some observation.address) :
    binder.Settles (some observation.chain) observation.ticket (some failure)
      (binder.signerFailed observation failure) := by
  apply guarded_settles
  · rw [Option.isSome_some, Site.signedFor_failed]
  · simp only [Option.isSome_some, decided, Site.signedFor_failed, Site.verdictFor,
      Site.warningFor, deployed, Option.getD_none, if_true]

/-- Confirming keeps the signer-bound binding, which is the one that the chain decides. -/
theorem confirm_settles {chain : Chain} {ticket : Ticket} {address : Address}
    (listed : binder.Listed) (deployed : binder.site.table.on? chain = some address)
    (bound : binder.signed.any (·.chain == chain) = true) :
    binder.Settles (some chain) ticket none (binder.confirm ticket chain) := by
  have decision : binder.site.signedFor false (some chain) = binder.signed := by
    cases signed : binder.signed with
    | none => simp [signed] at bound
    | some binding =>
        have same : binding.chain = chain := by simpa [signed] using bound
        rw [← same]
        exact listed binding signed
  apply guarded_settles
  · rw [Option.isSome_none, decision]
  · simp only [Option.isSome_none, decided, decision, active, Site.verdictFor, Site.warningFor,
      deployed, Bool.false_eq_true, if_false]

theorem contractAnswered_settles {observation : Observation} (failure : Option Failure)
    (deployed : binder.site.table.on? observation.chain = some observation.address) :
    binder.Settles (some observation.chain) observation.ticket failure
      (binder.contractAnswered observation failure) := by
  cases failure with
  | some failure => exact signerFailed_settles failure deployed
  | none =>
      apply guarded_settles
      · rw [Option.isSome_none, Site.signedFor_deployed deployed]
      · simp only [Option.isSome_none, decided, Site.signedFor_deployed deployed, Site.verdictFor,
          Site.warningFor, deployed, Option.getD_some, Bool.false_eq_true, if_false]

/-- An observation ends as it begins, or it pauses on a deployed chain. -/
theorem observe_cases (chain : Option Chain) (ticket : Ticket) (listed : binder.Listed) :
    (∃ landing, binder.observe chain ticket = .ended landing ∧
      binder.Settles chain ticket none landing) ∨
    ∃ observation, binder.observe chain ticket = .paused observation ∧
      chain = some observation.chain ∧ observation.ticket = ticket ∧
      binder.site.table.on? observation.chain = some observation.address := by
  cases chain with
  | none => exact .inl ⟨_, rfl, settleReadOnly_settles rfl rfl rfl⟩
  | some chain =>
      cases deployed : binder.site.table.on? chain with
      | none =>
          refine .inl ⟨_, by simp only [observe, deployed]; rfl, settleReadOnly_settles ?_ ?_ ?_⟩
          · simp only [Site.signedFor, deployed]
          · simp only [Site.verdictFor, deployed]
          · simp only [Site.warningFor, deployed]
      | some address =>
          by_cases bound : binder.signed.any (·.chain == chain) = true
          · refine .inl ⟨_, ?_, confirm_settles listed deployed bound⟩
            simp only [observe, deployed, bound, if_true]
          · refine .inr ⟨⟨chain, ticket, address⟩, ?_, rfl, rfl, deployed⟩
            simp only [observe, deployed, bound, Bool.false_eq_true, if_false]

/-- The signer's answer ends an observation, unless it is the signer and comes in time. -/
theorem signerAnswered_cases {observation : Observation} (failure : Option Failure)
    (deployed : binder.site.table.on? observation.chain = some observation.address) :
    (∃ landing, binder.signerAnswered observation failure = .ended landing ∧
      binder.Settles (some observation.chain) observation.ticket failure landing) ∨
    failure = none ∧ binder.mark.applied < observation.ticket ∧
      binder.signerAnswered observation failure = .paused observation := by
  cases failure with
  | some failure => exact .inl ⟨_, rfl, signerFailed_settles failure deployed⟩
  | none =>
      unfold signerAnswered
      by_cases newer : binder.mark.applied < observation.ticket
      · exact .inr ⟨rfl, newer, if_pos ((Watermark.admits_iff _ _).2 newer)⟩
      · refine .inl ⟨_, if_neg fun admitted => newer ((Watermark.admits_iff _ _).1 admitted), ?_⟩
        exact discard_settles _ _ _ (Int.not_lt.1 newer)

/-- A pause knows what was observed, whatever the binder. -/
theorem observe_paused {chain : Option Chain} {ticket : Ticket} {observation : Observation}
    (paused : binder.observe chain ticket = .paused observation) :
    chain = some observation.chain ∧ observation.ticket = ticket := by
  unfold observe at paused
  split at paused
  next => cases paused
  next chain =>
    split at paused
    next => cases paused
    next address deployed =>
      split at paused
      next => cases paused
      next =>
        cases paused
        exact ⟨rfl, rfl⟩

theorem signerAnswered_paused {observation next : Observation} {failure : Option Failure}
    (paused : binder.signerAnswered observation failure = .paused next) :
    failure = none ∧ next = observation := by
  unfold signerAnswered at paused
  split at paused
  next => cases paused
  next =>
    split at paused
    next =>
      cases paused
      exact ⟨rfl, rfl⟩
    next => cases paused

end Binder

end PackageStore
