import PackageStore.Proofs.Binding.WriteAccess
import PackageStore.Proofs.Network.Projection

/-!
Contract: all roles converge to the newest observation.

Owns: networks whose binders were just initialized; the binding that the newest observation decides
for a role; and the theorem that at rest it is in force at every role, whatever the order in which
the dispatches went on.
-/

set_option autoImplicit false

namespace PackageStore.Network

/-- No ticket was drawn yet, and every binder was just initialized. -/
structure Ready (network : Network) : Prop where
  fresh : network.counter = .fresh
  initialized : ∀ role slot, network.slots.get? role = some slot →
    ∃ site chain address, slot = .held ((Slot.vacant site).bindReadOnly chain address)

theorem Ready.binder {network : Network} (ready : network.Ready) {role : Role} {binder : Binder}
    (initially : network.binder role = .ok binder) :
    ∃ site chain address, binder = (Slot.vacant site).bindReadOnly chain address := by
  cases found : network.slots.get? role with
  | none => simp [Network.binder, found] at initially
  | some slot =>
      obtain ⟨site, chain, address, rfl⟩ := ready.initialized role slot found
      simp only [Network.binder, found, Slot.binder, Except.ok.injEq] at initially
      exact ⟨site, chain, address, initially.symm⟩

namespace Session

/-- What the newest observation decides for the binder of a role: the default binding if there was
none. -/
def decision (session : Session) (role : Role) (binder : Binder) : Binding :=
  match session.dispatches.getLast? with
  | none => binder.home
  | some newest => binder.decided (newest.failedAt role) newest.chain

variable {session : Session} {role : Role} {mirror : Binder.Session} {site : Site}
  {home : Binding}

/-- Every observation that a role has seen holds a ticket that is numbered like its dispatch. -/
theorem Mirrors.ticket (mirrors : session.Mirrors role mirror) (sound : session.Sound)
    {number : Nat} {sighting : Binder.Sighting}
    (known : mirror.sightings.get? number = some sighting) :
    sighting.ticket = number + 1 ∧ number < session.dispatches.length := by
  cases found : session.dispatches[number]? with
  | none =>
      rw [mirrors.beyond number found] at known
      cases known
  | some dispatch =>
      obtain ⟨_, same⟩ := (mirrors.seen number dispatch found).own sighting known
      obtain ⟨within, _⟩ := List.getElem?_eq_some_iff.1 found
      exact ⟨same.trans (sound.numbered number dispatch found), within⟩

/-- With no dispatch, a binder is as it was. -/
theorem Mirrors.unmoved (mirrors : session.Mirrors role mirror) (holds : mirror.Of site home)
    (nothing : session.dispatches = []) :
    mirror.binder.mark.applied = 0 ∧ mirror.binder.active = home := by
  rcases holds.settled.inForce with ⟨zero, unsigned⟩ | ⟨number, sighting, landed, _⟩
  · refine ⟨zero, ?_⟩
    rw [Binder.active, unsigned, Option.getD_none, holds.home]
  · have unseen := mirrors.beyond number (by rw [nothing]; rfl)
    rw [landed.known] at unseen
    cases unseen

/-- The newest dispatch, once it has ended, has landed last at every role. -/
theorem Mirrors.newest_landed (mirrors : session.Mirrors role mirror) (sound : session.Sound)
    (holds : mirror.Of site home) {newest : Dispatch}
    (last : session.dispatches.getLast? = some newest) (finished : newest.Finished) :
    mirror.binder.mark.applied = session.dispatches.length ∧
      mirror.binder.active = (site.signedFor (newest.failedAt role) newest.chain).getD home := by
  have known : session.dispatches[session.dispatches.length - 1]? = some newest := by
    rw [← List.getLast?_eq_getElem?, last]
  obtain ⟨failure, report, failed, seen⟩ := (mirrors.seen _ newest known).of_finished finished
  have newestTicket : newest.ticket = (session.dispatches.length - 1 : Nat) + 1 :=
    (mirrors.ticket sound seen).1
  have within := (mirrors.ticket sound seen).2
  have atLeast : newest.ticket ≤ mirror.binder.mark.applied :=
    holds.settled.completed _ _ seen ⟨failure, report, rfl⟩
  rcases holds.settled.inForce with ⟨zero, _⟩ | ⟨other, sighting, landed, _⟩
  · unfold Ticket at *
    omega
  · obtain ⟨landedTicket, before⟩ := mirrors.ticket sound landed.known
    have landedLast := landed.last
    unfold Ticket at *
    -- The newest dispatch bears the greatest ticket there is, so it is the one that landed last.
    have same : other = session.dispatches.length - 1 := by omega
    refine ⟨by omega, ?_⟩
    have active := holds.active_landed landed
    have seenLast := landed.known
    rw [same, seen] at seenLast
    cases seenLast
    rw [active, ← failed]
    rfl

/-! ## Runs of a network that was ready -/

variable {network : Network} {binder : Binder} {actions : List Action}

/-- At rest, the newest observation is in force at a role. -/
theorem role_at_rest (ready : network.Ready) (initially : network.binder role = .ok binder)
    (atRest : ((start network).run actions).AtRest) :
    ∃ settled, ((start network).run actions).network.binder role = .ok settled ∧
      settled.mark.applied = ((start network).run actions).network.counter.last ∧
      settled.active = ((start network).run actions).decision role binder := by
  have sound := run_sound (start_sound ready.fresh) actions
  obtain ⟨site, chain, address, rfl⟩ := ready.binder initially
  obtain ⟨steps, mirrors⟩ :=
    run_mirrors (start_sound ready.fresh) (start_mirrors initially) actions
  have holds := Binder.Session.of_run site chain address .fresh steps
  refine ⟨_, mirrors.binder, ?_⟩
  rw [sound.issued, decision]
  cases last : ((start network).run actions).dispatches.getLast? with
  | none =>
      have nothing := List.getLast?_eq_none_iff.1 last
      rw [nothing]
      exact mirrors.unmoved holds nothing
  | some newest =>
      exact mirrors.newest_landed sound holds last (atRest newest (List.mem_of_getLast? last))

/-- If every answer is a success, no dispatch was refused anywhere. -/
theorem unrefused (ready : network.Ready) (succeeds : ∀ action ∈ actions, action.Succeeds) :
    ∀ dispatch ∈ ((start network).run actions).dispatches, dispatch.refused = [] := by
  refine (run_keeps (motive := fun session => ∀ dispatch ∈ session.dispatches,
    dispatch.refused = []) ?_ ?_ (start_sound ready.fresh) ?_).2
  · intro session chain issued _ before dispatch member
    rcases List.mem_append.1 member with old | new
    · exact before dispatch old
    · rw [List.mem_singleton.1 new]
  · intro action member session next _ change before dispatch found
    cases change with
    | idle => exact before dispatch found
    | @advances number former answerer failure step known allowed _ =>
        rcases List.mem_or_eq_of_mem_set found with old | rfl
        · exact before dispatch old
        · rw [allowed (succeeds action member)]
          exact before former (List.mem_of_getElem? known)
    | @givesUp number former known =>
        rcases List.mem_or_eq_of_mem_set found with old | rfl
        · exact before dispatch old
        · exact before former (List.mem_of_getElem? known)
  · intro dispatch member
    cases member

/-- If every answer is a success, nothing but the newest observation counts. -/
theorem decision_of_succeeds (ready : network.Ready)
    (succeeds : ∀ action ∈ actions, action.Succeeds) (role : Role) (binder : Binder) :
    ((start network).run actions).decision role binder =
      match (actions.filterMap Action.observed).getLast? with
      | none => binder.home
      | some chain => binder.decided false chain := by
  have chains := run_chains (start_sound ready.fresh) actions
  rw [show (start network).dispatches.map Dispatch.chain = [] from rfl, List.nil_append] at chains
  rw [← chains, List.getLast?_map, decision]
  cases last : ((start network).run actions).dispatches.getLast? with
  | none => rfl
  | some newest =>
      have none := unrefused ready succeeds newest (List.mem_of_getLast? last)
      simp [Dispatch.failedAt, none]

/-- **All roles converge.** At rest, whatever the order in which the dispatches went on, the binder
of every role has applied the last ticket, and the binding in force is the one that the newest
observation decides: the default if it was disconnected, undeployed or refused at this role, and
otherwise signer-bound on its chain as the table of the role has it. So two runs without failures
that end with the same observation come to the same bindings. -/
theorem roles_converge (ready : network.Ready) (actions : List Action)
    (atRest : ((start network).run actions).AtRest) :
    let session := (start network).run actions
    session.dispatches.map Dispatch.chain = actions.filterMap Action.observed ∧
    (∀ role binder, network.binder role = .ok binder →
      ∃ settled, session.network.binder role = .ok settled ∧
        settled.mark.applied = session.network.counter.last ∧
        settled.active = session.decision role binder) ∧
    ∀ others : List Action, ((start network).run others).AtRest →
      (∀ action ∈ actions ++ others, action.Succeeds) →
      (others.filterMap Action.observed).getLast? =
        (actions.filterMap Action.observed).getLast? →
      ∀ role binder, network.binder role = .ok binder →
        ∃ left right, session.network.binder role = .ok left ∧
          ((start network).run others).network.binder role = .ok right ∧
          left.active = right.active := by
  intro session
  refine ⟨run_chains (start_sound ready.fresh) actions,
    fun role binder initially => role_at_rest ready initially atRest, ?_⟩
  intro others otherAtRest succeeds sameNewest role binder initially
  have succeedsHere : ∀ action ∈ actions, action.Succeeds := fun action member =>
    succeeds action (List.mem_append_left _ member)
  have succeedsThere : ∀ action ∈ others, action.Succeeds := fun action member =>
    succeeds action (List.mem_append_right _ member)
  obtain ⟨left, here, _, activeHere⟩ := role_at_rest ready initially atRest
  obtain ⟨right, there, _, activeThere⟩ := role_at_rest ready initially otherAtRest
  refine ⟨left, right, here, there, ?_⟩
  rw [activeHere, activeThere, decision_of_succeeds ready succeedsHere,
    decision_of_succeeds ready succeedsThere, sameNewest]

/-! ## Two roles that see two dispatches end in different orders -/

open Binder.Session (uniformAddress)

/-- The binder of a role on a table, just initialized on the first chain. -/
def initialized (role : Role) (table : List (Chain × Address)) : Binder :=
  (Slot.vacant ⟨role, ⟨role, .ofList table⟩, "https://rpc.example.org"⟩).bindReadOnly 1
    (uniformAddress 1)

/-- A store that is deployed on two chains, and a registry that is deployed on one of them. -/
def storeAndRegistry : Network where
  slots := .ofList
    [(.packageStore, .held (initialized .packageStore
      [(1, uniformAddress 1), (10, uniformAddress 2)])),
    (.dotOs, .held (initialized .dotOs [(1, uniformAddress 3)]))]
  counter := .fresh
  listeners := []
  subscribed := true
  inFlight := []

/-- The wallet leaves the first chain while its dispatch awaits the signer at the store. The later
dispatch ends first. -/
def overtaking : List Action :=
  [.chainChanged (some 1), .begin 0, .observe (some 10), .signerAnswers 1 none,
    .connectorAnswers 1 none, .signerAnswers 0 none, .signerAnswers 0 none]

theorem storeAndRegistry_ready : storeAndRegistry.Ready where
  fresh := rfl
  initialized role slot found := by
    have listed := OrderedMap.mem_entries_of_get? found
    rcases List.mem_cons.1 listed with first | rest
    · cases first
      exact ⟨_, _, _, rfl⟩
    · cases List.mem_singleton.1 rest
      exact ⟨_, _, _, rfl⟩

theorem roles_converge_overtaking :
    storeAndRegistry.Ready ∧ ((start storeAndRegistry).run overtaking).AtRest ∧
      ∃ settled,
        ((start storeAndRegistry).run overtaking).network.binder .packageStore = .ok settled ∧
        settled.active = .signerBound 10 ⟨List.replicate 40 2, rfl⟩ := by
  have atRest : ((start storeAndRegistry).run overtaking).AtRest := by decide
  refine ⟨storeAndRegistry_ready, atRest, ?_⟩
  obtain ⟨settled, found, _, active⟩ :=
    (roles_converge storeAndRegistry_ready overtaking atRest).2.1 .packageStore _ rfl
  exact ⟨settled, found, active.trans rfl⟩

end Session

end PackageStore.Network
