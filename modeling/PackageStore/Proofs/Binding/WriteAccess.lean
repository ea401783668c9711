import Mathlib.Data.List.MinMax
import PackageStore.Proofs.Binding.LastWriter
import PackageStore.Proofs.OrderedMap.Filling

/-!
Contract: write access follows the wallet, and when it lags behind.

Owns: sessions in which every observation draws a fresh ticket; the chain on which the binding in
force gives write access once the newest observation has come to its end; the condition under
which it does so on a chain that the newest observation has left; and a run that meets it.

The newest observation takes effect at its end only. Until then the signer-bound binding of an
older one stays in force, and an older one that is still under way may even bring it about.
-/

set_option autoImplicit false

namespace PackageStore.Binder.Session

/-- The observation of a name holds the greatest ticket. -/
structure Newest (session : Session) (name : Nat) (sighting : Sighting) : Prop where
  known : session.sightings.get? name = some sighting
  greatest : ∀ entry ∈ session.sightings.entries, entry.2.ticket ≤ sighting.ticket

/-- There is write access on a chain that the newest observation has left. -/
def Lags (session : Session) : Prop :=
  session.binder.canWrite = true ∧ ∃ name newest, session.Newest name newest ∧
    newest.chain ≠ some session.binder.active.chain

/-- Tickets are drawn from the counter, so each observation has one of its own. -/
structure Drawn (session : Session) : Prop where
  issued : ∀ name sighting, session.sightings.get? name = some sighting →
    sighting.ticket ≤ session.counter.last
  apart : ∀ left right first second, session.sightings.get? left = some first →
    session.sightings.get? right = some second → first.ticket = second.ticket → left = right

variable {session : Session}

theorem Drawn.record (drawn : session.Drawn) {name : Nat} {chain : Option Chain}
    {ticket : Ticket} {counter : Counter} (origin : Origin True session name chain ticket counter)
    (binder : Binder) (stage : Stage) :
    ({ session with binder, counter }.record name ⟨chain, ticket, stage⟩).Drawn := by
  -- An observation that begins takes the next ticket; one that goes on keeps its own.
  obtain ⟨later, within, own⟩ : session.counter.last ≤ counter.last ∧ ticket ≤ counter.last ∧
      ∀ other found, session.sightings.get? other = some found → found.ticket = ticket →
        other = name := by
    cases origin with
    | begun given unused fresh =>
        cases fresh trivial
        refine ⟨Nat.le_succ _, Int.le_refl _, fun other found known same => ?_⟩
        have issued := drawn.issued other found known
        rw [same] at issued
        exact absurd issued (Int.not_le.2 (Int.lt_succ _))
    | resumed sighting known _ _ =>
        refine ⟨Nat.le_refl _, drawn.issued name sighting known, ?_⟩
        intro other found foundKnown same
        exact drawn.apart other name found sighting foundKnown known same
  refine ⟨?_, ?_⟩
  · intro other found known
    rw [record_counter]
    rw [get?_record] at known
    split at known
    · cases known
      exact within
    · exact Int.le_trans (drawn.issued other found known) (Int.ofNat_le.2 later)
  · intro left right first second knownFirst knownSecond same
    rw [get?_record] at knownFirst knownSecond
    split at knownFirst <;> split at knownSecond
    next leftIsNew rightIsNew => exact leftIsNew.symm.trans rightIsNew
    next leftIsNew _ =>
      cases knownFirst
      exact leftIsNew.symm.trans (own right second knownSecond same.symm).symm
    next _ rightIsNew =>
      cases knownSecond
      exact (own left first knownFirst same).trans rightIsNew
    next => exact drawn.apart left right first second knownFirst knownSecond same

theorem Change.drawn {next : Session} (change : Change True session next)
    (drawn : session.Drawn) : next.Drawn := by
  cases change with
  | idle counter later =>
      exact ⟨fun name sighting known =>
        Int.le_trans (drawn.issued name sighting known) (Int.ofNat_le.2 later), drawn.apart⟩
  | halts origin stage _ _ => exact drawn.record origin session.binder stage
  | lands origin _ => exact drawn.record origin _ _

theorem drawn_run (site : Site) (chain : Chain) (address : Address) (counter : Counter)
    {actions : List Action} (fresh : ∀ action ∈ actions, action.DrawsTicket) :
    ((start site chain address counter).run actions).Drawn := by
  suffices both : ((start site chain address counter).run actions).Sound ∧
      ((start site chain address counter).run actions).Drawn from both.2
  refine List.foldlRecOn (motive := fun session => session.Sound ∧ session.Drawn) actions act ?_ ?_
  · refine ⟨start_sound _ _ _ _, ?_, ?_⟩
    · intro name sighting known
      cases known
    · intro left right first second known
      cases known
  · rintro session ⟨sound, drawn⟩ action member
    have change := act_change sound action
    rw [eq_true (fresh action member)] at change
    exact ⟨change.sound sound, change.drawn drawn⟩

/-- Write access comes from an observation that landed last and succeeded. -/
theorem Of.canWrite_iff {site : Site} {chain : Chain} {address : Address} {url : String}
    (holds : session.Of site (.readOnly chain address url)) :
    session.binder.canWrite = true ↔ ∃ name sighting, session.Landed name sighting ∧
      site.signedFor sighting.failed sighting.chain = some session.binder.active := by
  constructor
  · intro writes
    rcases holds.settled.inForce with ⟨_, unsigned⟩ | ⟨name, sighting, landed, decided⟩
    · rw [canWrite, active, unsigned, Option.getD_none, holds.home] at writes
      cases writes
    · refine ⟨name, sighting, landed, ?_⟩
      rw [holds.site] at decided
      rw [canWrite, active, decided, holds.home] at writes
      rw [active, decided]
      cases signed : site.signedFor sighting.failed sighting.chain with
      | none =>
          rw [signed] at writes
          cases writes
      | some binding => rfl
  · rintro ⟨name, sighting, _, signed⟩
    obtain ⟨_, _, _, shape⟩ := Site.signedFor_eq_some signed
    rw [canWrite, shape]
    rfl

/-- Once an observation was initiated, one of them is the newest. -/
theorem exists_newest {name : Nat} {sighting : Sighting}
    (known : session.sightings.get? name = some sighting) :
    ∃ latest newest, session.Newest latest newest := by
  cases found : session.sightings.entries.argmax fun entry => entry.2.ticket with
  | none =>
      have member := OrderedMap.mem_entries_of_get? known
      rw [List.argmax_eq_none.1 found] at member
      cases member
  | some entry =>
      exact ⟨entry.1, entry.2, session.sightings.get?_of_mem (List.argmax_mem found),
        fun _ member =>
          List.le_of_mem_argmax (f := fun entry : Nat × Sighting => entry.2.ticket) member found⟩

/-- With tickets of their own, only one observation is the newest. -/
theorem Drawn.newest_unique (drawn : session.Drawn) {left right : Nat} {first second : Sighting}
    (isFirst : session.Newest left first) (isSecond : session.Newest right second) :
    left = right := by
  apply drawn.apart left right first second isFirst.known isSecond.known
  apply Int.le_antisymm
  · exact isSecond.greatest _ (OrderedMap.mem_entries_of_get? isFirst.known)
  · exact isFirst.greatest _ (OrderedMap.mem_entries_of_get? isSecond.known)

/-- The newest observation is the one that landed last, if it came to its end and any landed. -/
theorem Drawn.newest_landed (drawn : session.Drawn) (settled : session.Settled)
    {name other : Nat} {newest landed : Sighting} (isNewest : session.Newest name newest)
    (completed : newest.Completed) (landedLast : session.Landed other landed) :
    newest = landed := by
  have atMost := settled.completed name newest isNewest.known completed
  have atLeast := isNewest.greatest _ (OrderedMap.mem_entries_of_get? landedLast.known)
  rw [← landedLast.last] at atMost
  have same := drawn.apart name other newest landed isNewest.known landedLast.known
    (Int.le_antisymm atMost atLeast)
  have known := isNewest.known
  rw [same, landedLast.known] at known
  exact (Option.some.inj known).symm

/-- **Write access follows the newest observation once it has come to its end.** With fresh
tickets, while there is write access there is just one newest observation, and it is of the bound
chain unless it has not come to its end; and write access is on another chain than the newest
observation's exactly while this one has not come to its end and the observation that landed last
succeeded on another chain. -/
theorem canWrite_follows_newest (site : Site) (chain : Chain) (address : Address)
    (counter : Counter) (actions : List Action) (fresh : ∀ action ∈ actions, action.DrawsTicket) :
    let session := (start site chain address counter).run actions
    (session.binder.canWrite = true → ∃ name newest, session.Newest name newest ∧
      (∀ other found, session.Newest other found → other = name) ∧
      (newest.Completed → newest.chain = some session.binder.active.chain)) ∧
    (session.Lags ↔
      ∃ name newest, session.Newest name newest ∧ ¬ newest.Completed ∧
        ∃ other landed, session.Landed other landed ∧
          (site.signedFor landed.failed landed.chain).isSome = true ∧
          newest.chain ≠ landed.chain) := by
  intro session
  have holds : session.Of site (.readOnly chain address site.rpcUrl) :=
    of_run site chain address counter actions
  have drawn : session.Drawn := drawn_run site chain address counter fresh
  refine ⟨fun writes => ?_, ?_, ?_⟩
  · obtain ⟨other, landed, landedLast, signed⟩ := holds.canWrite_iff.1 writes
    obtain ⟨_, onChain, _, _⟩ := Site.signedFor_eq_some signed
    obtain ⟨name, newest, isNewest⟩ := exists_newest landedLast.known
    refine ⟨name, newest, isNewest, fun _ _ found => drawn.newest_unique found isNewest, ?_⟩
    intro completed
    rw [drawn.newest_landed holds.settled isNewest completed landedLast]
    exact onChain
  · rintro ⟨writes, name, newest, isNewest, elsewhere⟩
    obtain ⟨other, landed, landedLast, signed⟩ := holds.canWrite_iff.1 writes
    obtain ⟨_, onChain, _, _⟩ := Site.signedFor_eq_some signed
    refine ⟨name, newest, isNewest, ?_, other, landed, landedLast, by rw [signed]; rfl, ?_⟩
    · intro completed
      rw [drawn.newest_landed holds.settled isNewest completed landedLast] at elsewhere
      exact elsewhere onChain
    · rw [onChain]
      exact elsewhere
  · rintro ⟨name, newest, isNewest, _, other, landed, landedLast, signed, elsewhere⟩
    obtain ⟨binding, signed⟩ := Option.isSome_iff_exists.1 signed
    have inForce : session.binder.active = binding := by
      rw [holds.active_landed landedLast, signed, Option.getD_some]
    refine ⟨holds.canWrite_iff.2 ⟨other, landed, landedLast, by rw [signed, inForce]⟩,
      name, newest, isNewest, ?_⟩
    obtain ⟨_, onChain, _, _⟩ := Site.signedFor_eq_some signed
    rw [inForce, ← onChain]
    exact elsewhere

/-! ## A wallet that has moved on -/

/-- The address whose digits are all the same. -/
def uniformAddress (digit : Nat) : Address :=
  ⟨List.replicate 40 ⟨digit % 16, Nat.mod_lt digit (Nat.succ_pos 15)⟩, List.length_replicate⟩

/-- A contract that is deployed on two chains. -/
def twoChains : Site where
  role := .packageStore
  table := ⟨.packageStore, .ofList [(1, uniformAddress 1), (10, uniformAddress 2)]⟩
  rpcUrl := "https://rpc.example.org"

/-- One chain is bound with the signer, and the observation of another one waits for the signer. -/
def movingOn : List Action :=
  [.observe 0 (some 1) none, .signerAnswers 0 none, .connectorAnswers 0 none,
    .observe 1 (some 10) none]

/-- The state that `movingOn` leads to. -/
def movedOn : Session :=
  (start twoChains 1 (uniformAddress 1) .fresh).run movingOn

theorem movingOn_fresh : ∀ action ∈ movingOn, action.DrawsTicket := by
  simp [movingOn, Action.DrawsTicket]

theorem movedOn_newest :
    movedOn.Newest 1 ⟨some 10, 2, .awaitsSigner ⟨10, 2, uniformAddress 2⟩⟩ where
  known := rfl
  greatest := by decide

theorem canWrite_follows_newest_movingOn :
    (∀ action ∈ movingOn, action.DrawsTicket) ∧
      movedOn.Lags := by
  refine ⟨movingOn_fresh, ?_⟩
  refine (canWrite_follows_newest twoChains 1 (uniformAddress 1) .fresh movingOn
    movingOn_fresh).2.2 ⟨1, _, movedOn_newest, ?_, 0, _, ⟨rfl, ⟨none, _, rfl, ?_⟩, rfl⟩, rfl, ?_⟩
  · rintro ⟨failure, report, ended⟩
    cases ended
  · decide
  · decide

/-- Write access is not confined to the chain of the newest observation. -/
theorem canWrite_off_newest_chain :
    ¬ ∀ (site : Site) (chain : Chain) (address : Address) (counter : Counter)
      (actions : List Action), (∀ action ∈ actions, action.DrawsTicket) →
      let session := (start site chain address counter).run actions
      session.binder.canWrite = true → ∀ name newest, session.Newest name newest →
        newest.chain = some session.binder.active.chain := by
  intro claim
  have confined := claim twoChains 1 (uniformAddress 1) .fresh movingOn movingOn_fresh rfl
    1 _ movedOn_newest
  revert confined
  decide

end PackageStore.Binder.Session
