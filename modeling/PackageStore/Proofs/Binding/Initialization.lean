import PackageStore.Proofs.Binding.Session
import PackageStore.Proofs.Deployment.Construction

/-!
Contract: a slot whose binder is initialized again and again.

Owns: runs of a slot in which initializations, which may fail and may come while observations are
under way, are mixed with observations; the form of a binding in force; and the theorem that after
the first successful initialization the binding always has this form.

An initialization stands still while the connector builds its contract handle, and observations and
other initializations may come in between. The binder is replaced only when the handle is there.
-/

set_option autoImplicit false

namespace PackageStore

/-! ## The form of a binding -/

namespace Binder

/-- The binding in force is the default one, read-only with a handle for its own address at the
public endpoint, or a signer-bound one with the address that the table lists for its chain and a
handle for this address with the signer. -/
def WellBound (binder : Binder) : Prop :=
  binder.active = binder.home ∧ binder.home.access = .readOnly ∧
      binder.home.contract = ⟨binder.home.address, .endpoint binder.site.rpcUrl⟩ ∨
    binder.active.access = .signerBound ∧
      binder.site.table.on? binder.active.chain = some binder.active.address ∧
      binder.active.contract = ⟨binder.active.address, .signer⟩

theorem Listed.wellBound {binder : Binder} (listed : binder.Listed) {chain : Chain}
    {address : Address} (home : binder.home = .readOnly chain address binder.site.rpcUrl) :
    binder.WellBound := by
  cases signed : binder.signed with
  | none =>
      refine .inl ⟨?_, ?_, ?_⟩
      · rw [active, signed, Option.getD_none]
      · rw [home]
        rfl
      · rw [home]
        rfl
  | some binding =>
      obtain ⟨_, _, deployed, shape⟩ := Site.signedFor_eq_some (listed binding signed)
      have inForce : binder.active = binding := by
        rw [active, signed, Option.getD_some]
      refine .inr ⟨?_, ?_, ?_⟩
      · rw [inForce, shape]
        rfl
      · rw [inForce]
        exact deployed
      · rw [inForce, shape]
        rfl

end Binder

namespace Slot

/-! ## Which initializations fail before the connector is asked -/

/-- The address of the default binding is missing if none is given and the table lists none, and it
is invalid if the given text is no address. -/
theorem homeAddress_error_iff (slot : Slot) (chain : Chain) (given : Option String) :
    (∃ failure, slot.homeAddress chain given = .error failure) ↔
      given = none ∧ slot.site.table.on? chain = none ∨
        ∃ text, given = some text ∧ Address.isValid text = false := by
  cases given with
  | none =>
      rw [homeAddress, Deployments.require, Deployments.at?_int]
      cases slot.site.table.on? chain <;> simp
  | some text =>
      rw [homeAddress]
      cases read : Address.read text <;>
        simp [Address.isValid_eq_isOk, read, Except.isOk, Except.toBool]

/-! ## Sessions -/

/-- How far an initialization has come. -/
inductive Attempt where
  | awaitsContract (chain : Chain) (address : Address)
  | succeeded
  | raised (failure : Failure)

/-- A slot, the counter it draws on, its observations and its initializations under their names,
and the chain and the address of each successful initialization, in the order of success. -/
structure Session where
  slot : Slot
  counter : Counter
  sightings : OrderedMap Nat Binder.Sighting
  attempts : OrderedMap Nat Attempt
  homes : List (Chain × Address)

namespace Session

/-- The session of a new slot. The counter may have been used before. -/
def start (site : Site) (counter : Counter) : Session :=
  ⟨.vacant site, counter, .empty, .empty, []⟩

inductive Action where
  /-- An initialization begins, with a given address or with the one that the table lists. -/
  | bindReadOnly (name : Nat) (chain : Chain) (given : Option String)
  /-- The connector's call for an initialization returns, or fails. -/
  | contractBuilt (name : Nat) (failure : Option Failure)
  /-- An action on the observations. -/
  | drive (action : Binder.Session.Action)

/-- Notes how far the initialization of a name has come. -/
def record (session : Session) (name : Nat) (attempt : Attempt) : Session :=
  { session with attempts := session.attempts.insert name attempt }

/-- Begins an initialization under a name that is not in use. -/
def bindReadOnly (session : Session) (name : Nat) (chain : Chain) (given : Option String) :
    Session :=
  if session.attempts.contains name then session
  else
    match session.slot.homeAddress chain given with
    | .error failure => session.record name (.raised failure)
    | .ok address => session.record name (.awaitsContract chain address)

/-- The slot is bound read-only. -/
def bind (session : Session) (chain : Chain) (address : Address) : Session :=
  { session with
    slot := .held (session.slot.bindReadOnly chain address)
    homes := session.homes ++ [(chain, address)] }

def contractBuilt (session : Session) (name : Nat) (failure : Option Failure) : Session :=
  match session.attempts.get? name with
  | some (.awaitsContract chain address) =>
      match failure with
      | some failure => session.record name (.raised failure)
      | none => (session.bind chain address).record name .succeeded
  | _ => session

/-- Acts on the observations of the binder. Without a binder, a ticket can be drawn and nothing can
be observed. -/
def drive (session : Session) (action : Binder.Session.Action) : Session :=
  match session.slot with
  | .held binder =>
      let driven := (Binder.Session.mk binder session.counter session.sightings).act action
      { session with
        slot := .held driven.binder
        counter := driven.counter
        sightings := driven.sightings }
  | .vacant _ =>
      match action with
      | .issue => { session with counter := session.counter.issue.2 }
      | _ => session

def act (session : Session) : Action → Session
  | .bindReadOnly name chain given => session.bindReadOnly name chain given
  | .contractBuilt name failure => session.contractBuilt name failure
  | .drive action => session.drive action

/-- Performs actions one after another. -/
def run (session : Session) (actions : List Action) : Session :=
  actions.foldl act session

/-! ## What an action can do -/

/-- All that an action can do to the slot: nothing, to bind it read-only, or what an action on the
observations of its binder does. An initialization that raises does nothing to it. -/
inductive Change (session : Session) : Session → Prop where
  | idle (counter : Counter) (attempts : OrderedMap Nat Attempt) :
      Change session { session with counter, attempts }
  | binds {name : Nat} {chain : Chain} {address : Address}
      (awaited : session.attempts.get? name = some (.awaitsContract chain address)) :
      Change session ((session.bind chain address).record name .succeeded)
  | drives {binder : Binder} (held : session.slot = .held binder)
      (action : Binder.Session.Action) :
      Change session
        (let driven := (Binder.Session.mk binder session.counter session.sightings).act action
        { session with
          slot := .held driven.binder
          counter := driven.counter
          sightings := driven.sightings })

variable {session : Session}

theorem act_change (session : Session) (action : Action) :
    Change session (session.act action) := by
  have unmoved : Change session session := .idle session.counter session.attempts
  cases action with
  | bindReadOnly name chain given =>
      rw [act, bindReadOnly]
      split
      · exact unmoved
      · split
        · exact .idle _ _
        · exact .idle _ _
  | contractBuilt name failure =>
      rw [act, contractBuilt]
      split
      next chain address awaited =>
        cases failure with
        | some failure => exact .idle _ _
        | none => exact .binds awaited
      next => exact unmoved
  | drive action =>
      rw [act]
      unfold drive
      split
      next binder held => exact .drives held action
      next =>
        split
        · exact .idle _ _
        · exact unmoved

/-- A binder of a site after its initialization: its default binding is the one that was made, and
its signer-bound binding is one that the table lists. -/
structure Opened (site : Site) (home : Chain × Address) (binder : Binder) : Prop where
  home : binder.home = .readOnly home.1 home.2 site.rpcUrl
  listed : binder.Listed
  site : binder.site = site

/-- What every session keeps: without a successful initialization the slot is vacant, and after the
last one it holds a binder with the default binding that this one made. -/
structure Sound (site : Site) (session : Session) : Prop where
  vacant : session.homes.getLast? = none → session.slot = .vacant site
  held : ∀ home, session.homes.getLast? = some home →
    ∃ binder, session.slot = .held binder ∧ Opened site home binder
  fits : ∀ name sighting, session.sightings.get? name = some sighting → sighting.Fits site

variable {site : Site}

theorem Sound.slot_site (sound : session.Sound site) : session.slot.site = site := by
  cases last : session.homes.getLast? with
  | none =>
      rw [sound.vacant last]
      rfl
  | some home =>
      obtain ⟨binder, held, opened⟩ := sound.held home last
      rw [held]
      exact opened.site

theorem Change.sound {next : Session} (change : Change session next)
    (sound : session.Sound site) : next.Sound site := by
  cases change with
  | idle => exact ⟨sound.vacant, sound.held, sound.fits⟩
  | @binds name chain address _ =>
      have last : (session.homes ++ [(chain, address)]).getLast? = some (chain, address) :=
        List.getLast?_concat
      refine ⟨fun nothing => ?_, fun home isLast => ?_, sound.fits⟩
      · cases last.symm.trans nothing
      · cases last.symm.trans isLast
        refine ⟨_, rfl, ?_, ?_, sound.slot_site⟩
        · rw [Slot.bindReadOnly, sound.slot_site]
        · intro binding signed
          cases signed
  | @drives binder held action =>
      cases last : session.homes.getLast? with
      | none =>
          rw [sound.vacant last] at held
          cases held
      | some home =>
          obtain ⟨other, isHeld, opened⟩ := sound.held home last
          cases held.symm.trans isHeld
          -- Between two initializations the binder goes through a session of its own. Observations
          -- begun before the last one are part of it: they fit the site, which never changes.
          have inner : (Binder.Session.mk binder session.counter session.sightings).Sound :=
            ⟨opened.listed, by rw [opened.site]; exact sound.fits⟩
          have driven := Binder.Session.act_change inner action
          have later := driven.sound inner
          have site := driven.site.trans opened.site
          refine ⟨fun nothing => ?_, fun final isLast => ?_, ?_⟩
          · cases last.symm.trans nothing
          · cases last.symm.trans isLast
            exact ⟨_, rfl, driven.home.trans opened.home, later.listed, site⟩
          · rw [← site]
            exact later.fits

theorem run_sound (site : Site) (counter : Counter) (actions : List Action) :
    ((start site counter).run actions).Sound site := by
  refine List.foldlRecOn actions act ?_ fun session sound action _ =>
    (act_change session action).sound sound
  refine ⟨fun _ => rfl, fun home last => ?_, fun name sighting known => ?_⟩
  · cases last
  · cases known

/-! ## Initializations that raise, and others -/

@[simp] theorem get?_record (session : Session) (name other : Nat) (attempt : Attempt) :
    (session.record name attempt).attempts.get? other =
      if name = other then some attempt else session.attempts.get? other :=
  OrderedMap.get?_insert session.attempts name other attempt

/-- An initialization raises at once exactly for want of an address. -/
theorem raises_iff {name : Nat} (unused : session.attempts.get? name = none) (chain : Chain)
    (given : Option String) :
    (∃ failure, (session.act (.bindReadOnly name chain given)).attempts.get? name =
      some (.raised failure)) ↔
      given = none ∧ session.slot.site.table.on? chain = none ∨
        ∃ text, given = some text ∧ Address.isValid text = false := by
  have absent : session.attempts.contains name = false := by
    rw [OrderedMap.contains, unused]
    rfl
  rw [← homeAddress_error_iff, act, bindReadOnly, if_neg (by rw [absent]; exact Bool.false_ne_true)]
  cases session.slot.homeAddress chain given with
  | error failure => simp
  | ok address => simp

/-- Where an initialization raises, the slot is left as it was. -/
theorem Change.slot_of_raised {next : Session} (change : Change session next) {name : Nat}
    {failure : Failure} (before : session.attempts.get? name ≠ some (.raised failure))
    (raised : next.attempts.get? name = some (.raised failure)) : next.slot = session.slot := by
  cases change with
  | idle => rfl
  | @binds other chain address _ =>
      rw [get?_record] at raised
      split at raised
      · cases raised
      · exact absurd raised before
  | drives => exact absurd raised before

/-- An initialization whose contract handle is there puts its own binding in force. -/
theorem contractBuilt_of_awaited {name : Nat} {chain : Chain} {address : Address}
    (awaited : session.attempts.get? name = some (.awaitsContract chain address)) :
    session.act (.contractBuilt name none) =
      (session.bind chain address).record name .succeeded := by
  simp only [act, contractBuilt, awaited]

/-- **A binding is always well formed.** Whatever initializations and observations were mixed, the
slot is vacant until an initialization succeeds; from then on the default binding is the one that
the last successful initialization made, the binding in force is this one or the one that the table
lists for its chain, each with a handle for its own address, and its address is written with its
checksum. An initialization raises for want of an address or when the connector fails, and then
leaves the slot, with its bindings and its applied ticket, as it was. -/
theorem always_well_bound (site : Site) (counter : Counter) (actions : List Action) :
    let session := (start site counter).run actions
    (session.homes = [] → session.slot = .vacant site) ∧
    (∀ home, session.homes.getLast? = some home →
      ∃ binder, session.slot = .held binder ∧ binder.site = site ∧
        binder.home = .readOnly home.1 home.2 site.rpcUrl ∧ binder.WellBound ∧
        Address.Checksummed binder.active.address.text) ∧
    (∀ name, session.attempts.get? name = none → ∀ chain given,
      (∃ failure, (session.act (.bindReadOnly name chain given)).attempts.get? name =
        some (.raised failure)) ↔
        given = none ∧ site.table.on? chain = none ∨
          ∃ text, given = some text ∧ Address.isValid text = false) ∧
    (∀ name chain address,
      session.attempts.get? name = some (.awaitsContract chain address) →
      (session.act (.contractBuilt name none)).homes = session.homes ++ [(chain, address)] ∧
      ∀ failure, (session.act (.contractBuilt name (some failure))).attempts.get? name =
        some (.raised failure)) ∧
    ∀ action name failure, session.attempts.get? name ≠ some (.raised failure) →
      (session.act action).attempts.get? name = some (.raised failure) →
      (session.act action).slot = session.slot := by
  intro session
  have sound : session.Sound site := run_sound site counter actions
  refine ⟨fun none => sound.vacant (List.getLast?_eq_none_iff.2 none), ?_, ?_, ?_, ?_⟩
  · intro home last
    obtain ⟨binder, held, opened⟩ := sound.held home last
    have made : binder.home = .readOnly home.1 home.2 binder.site.rpcUrl := by
      rw [opened.site]
      exact opened.home
    exact ⟨binder, held, opened.site, opened.home, opened.listed.wellBound made,
      Address.text_checksummed _⟩
  · intro name unused chain given
    rw [raises_iff unused, sound.slot_site]
  · intro name chain address awaited
    refine ⟨by rw [contractBuilt_of_awaited awaited]; rfl, fun failure => ?_⟩
    simp only [act, contractBuilt, awaited, get?_record, if_true]
  · intro action name failure before raised
    exact (act_change session action).slot_of_raised before raised

end Session

end Slot

end PackageStore
