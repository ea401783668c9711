import PackageStore.Proofs.Client.Closing
import PackageStore.Proofs.Client.Converging
import PackageStore.Proofs.Client.Standing

/-!
Contract: how a client that owns its wallet follows the readings of the wallet's chain.

Owns: that such a client polls just while it is started; what the rounds of polling tell the
network; the theorem which binding every role ends up with, from one start on, whatever came before
it; and the run in which it is not the one for the last reading.

A start reads the chain twice: polling compares later readings with the first one, and the roles
follow the second one. Where the two differ, a chain that polling finds as it was at first is not
observed by anyone.
-/

set_option autoImplicit false

namespace PackageStore

namespace Client.Session

/-! ## What is told of the readings -/

/-- The chain that the network was told of last: by a start that read `current`, and then by rounds
of polling, in which a reading like the one before, `baseline` at first, is not told. -/
def noted (baseline current : Option Chain) : List (Option Chain) → Option Chain
  | [] => current
  | reading :: rest =>
      if reading = baseline then noted baseline current rest else noted reading reading rest

theorem noted_of_all {baseline current : Option Chain} {readings : List (Option Chain)}
    (unmoved : ∀ reading ∈ readings, reading = baseline) :
    noted baseline current readings = current := by
  induction readings with
  | nil => rfl
  | cons reading rest inductionHypothesis =>
      obtain ⟨same, others⟩ := List.forall_mem_cons.1 unmoved
      rw [noted, if_pos same]
      exact inductionHypothesis others

/-- What was told and what polling compares with do not differ any more once they agree. -/
theorem noted_self (last : Option Chain) (readings : List (Option Chain)) :
    noted last last readings = readings.getLastD last := by
  induction readings generalizing last with
  | nil => rfl
  | cons reading rest inductionHypothesis =>
      rw [noted, List.getLastD_cons]
      by_cases same : reading = last
      · rw [if_pos same, inductionHypothesis, same]
      · rw [if_neg same, inductionHypothesis]

theorem noted_of_move {baseline current : Option Chain} {readings : List (Option Chain)}
    (moved : ∃ reading ∈ readings, reading ≠ baseline) (other : Option Chain) :
    noted baseline current readings = readings.getLastD other := by
  obtain ⟨reading, member, different⟩ := moved
  induction readings generalizing other with
  | nil => cases member
  | cons first rest inductionHypothesis =>
      rw [noted, List.getLastD_cons]
      by_cases same : first = baseline
      · have later : reading ∈ rest :=
          (List.mem_cons.1 member).resolve_left fun here => different (here.trans same)
        rw [if_pos same]
        exact inductionHypothesis first later
      · rw [if_neg same, noted_self]

/-! ## A client that owns its wallet -/

/-- What a client that owns its wallet keeps: it polls just while it is started. -/
structure Owning (session : Session) : Prop where
  owned : session.client.standing.owned = true
  inStep : session.client.standing.polling = session.client.standing.started

variable {session next : Session} {origin : Client}

theorem Owning.of_standing (owning : session.Owning)
    (same : next.client.standing = session.client.standing) : next.Owning := by
  refine ⟨?_, ?_⟩
  · rw [same]
    exact owning.owned
  · rw [same]
    exact owning.inStep

theorem act_owning (owning : session.Owning) (action : Action) : (session.act action).Owning := by
  cases switch : action.isSwitch with
  | false => exact owning.of_standing (session.act_standing switch)
  | true =>
      cases action with
      | start connect baseline =>
          have standing := session.callStart_standing connect baseline
          split at standing
          next => exact owning.of_standing standing
          next =>
            have live : (session.act (.start connect baseline)).client.standing =
              session.client.standing.live := standing
            refine ⟨?_, ?_⟩
            · rw [live]
              exact owning.owned
            · rw [live]
              exact owning.owned
      | close =>
          have standing := session.callClose_standing
          refine ⟨?_, ?_⟩
          · exact (congrArg Standing.owned standing).trans owning.owned
          · exact (congrArg Standing.polling standing).trans
              (owning.inStep.trans (congrArg Standing.started standing).symm)
      | closed number =>
          rcases session.closed_standing number with same | down
          · exact owning.of_standing same
          · refine ⟨?_, ?_⟩
            · exact (congrArg Standing.owned down).trans owning.owned
            · exact (congrArg Standing.polling down).trans
                (congrArg Standing.started down).symm
      | _ => cases switch

theorem run_owning (owning : session.Owning) (actions : List Action) :
    (session.run actions).Owning := by
  induction actions generalizing session with
  | nil => exact owning
  | cons action rest inductionHypothesis => exact inductionHypothesis (act_owning owning action)

theorem start_owning {settings : Settings} {given : Option Deployments.Tables}
    {roles : List Role} {account : Option String} {client : Client}
    (built : Client.ofSettings settings given roles (.owned (.ofAccount account)) = .ok client) :
    (start client).Owning := by
  obtain ⟨tables, sites, -, -, rfl⟩ := ofSettings_parts built
  exact ⟨rfl, rfl⟩

/-! ## The wallet of a started client -/

/-- The wallet of a started client calls the network, and polling compares with this reading. -/
structure Watches (session : Session) (last : Option Chain) : Prop where
  started : session.client.started = true
  wallet : ∃ wallet, session.client.wallet = .owned wallet ∧ wallet.lastChain = last ∧
    wallet.subscribers.callbacks = [.network]

variable {last chain : Option Chain}

theorem Watches.of_same (watches : session.Watches last)
    (started : next.client.started = session.client.started)
    (wallet : next.client.wallet = session.client.wallet) : next.Watches last := by
  refine ⟨?_, ?_⟩
  · rw [started]
    exact watches.started
  · rw [wallet]
    exact watches.wallet

/-! ## Following the readings -/

namespace Action

/-- A round of polling, or something else that may happen while the readings are followed: no answer
is a failure, nothing is cancelled, and no direct observation is made. -/
def follows : Action → Bool
  | .start _ _ | .announce _ | .poll _ | .begin _ | .settle _ | .readySigner _ | .listen _
  | .setQuery _ | .refreshed _ => true
  | .signerAnswers _ failure | .connectorAnswers _ failure => failure.isNone
  | _ => false

/-- What a round of polling reads. -/
def polled? : Action → Option (Option Chain)
  | .poll reading => some (PollingWallet.chainOf reading).1
  | _ => none

theorem polled?_eq_some {action : Action} {chain : Option Chain}
    (polled : action.polled? = some chain) :
    ∃ reading, action = .poll reading ∧ chain = (PollingWallet.chainOf reading).1 := by
  cases action with
  | poll reading =>
      cases polled
      exact ⟨reading, rfl, rfl⟩
  | _ => cases polled

end Action

/-- A started client that compares its readings with `last` and nears what `chain` calls for at a
role, whose site and default binding are these. -/
structure Following (origin : Client) (role : Role) (site : Site) (home : Binding)
    (last chain : Option Chain) (session : Session) : Prop where
  ordered : session.Ordered origin
  watches : session.Watches last
  near : ∃ binder newest, binder.site = site ∧ binder.home = home ∧
    session.Nears role chain binder newest

variable {role : Role} {site : Site} {home : Binding}

theorem Following.rests (following : session.Following origin role site home last chain)
    (rests : Rests session next) {now : Option Chain} (watches : next.Watches now) :
    next.Following origin role site home now chain := by
  obtain ⟨binder, newest, isSite, isHome, nears⟩ := following.near
  exact ⟨rests.drops.ordered following.ordered, watches, binder, newest, isSite, isHome,
    rests.nears nears⟩

theorem Following.proceeds {succeeds : Prop}
    (following : session.Following origin role site home last chain)
    (proceeds : Proceeds succeeds session next) (holds : succeeds) (watches : next.Watches last) :
    next.Following origin role site home last chain := by
  obtain ⟨binder, newest, isSite, isHome, nears⟩ := following.near
  obtain ⟨later, sameSite, sameHome, nears⟩ := proceeds.nears holds nears
  exact ⟨proceeds.ordered following.ordered, watches, later, newest, sameSite.trans isSite,
    sameHome.trans isHome, nears⟩

theorem Following.observes {observed : Option Chain}
    (following : session.Following origin role site home last chain)
    (observes : Observes observed session next) {now : Option Chain} (watches : next.Watches now) :
    next.Following origin role site home now observed := by
  obtain ⟨binder, newest, isSite, isHome, nears⟩ := following.near
  exact ⟨observes.ordered following.ordered, watches, binder, _, isSite, isHome,
    observes.nears following.ordered nears⟩

/-- What a dispatch does leaves the wallet alone. -/
theorem Watches.absorb (watches : session.Watches last) (number : Nat) (purpose : Purpose)
    (step : Network.Step) :
    (session.absorb number (session.client.absorb purpose step)).Watches last := by
  refine watches.of_same ?_ ?_
  · rw [Session.absorb, absorb_client]
  · rw [Session.absorb, absorb_client]

theorem Following.begin (following : session.Following origin role site home last chain)
    (number : Nat) : (session.begin number).Following origin role site home last chain := by
  refine following.proceeds (session.begin_proceeds number) trivial ?_
  unfold Session.begin
  split
  next => exact following.watches.absorb number .event _
  next => exact following.watches

theorem Following.signerAnswers (following : session.Following origin role site home last chain)
    (number : Nat) : (session.signerAnswers number none).Following origin role site home last
      chain := by
  refine following.proceeds (signerAnswers_proceeds following.ordered.fits number none) rfl ?_
  unfold Session.signerAnswers
  split
  next rebind purpose _ => exact following.watches.absorb number purpose _
  next => exact following.watches

theorem Following.connectorAnswers
    (following : session.Following origin role site home last chain) (number : Nat) :
    (session.connectorAnswers number none).Following origin role site home last chain := by
  refine following.proceeds (connectorAnswers_proceeds following.ordered.fits number none) rfl ?_
  unfold Session.connectorAnswers
  split
  next rebind purpose _ => exact following.watches.absorb number purpose _
  next => exact following.watches

theorem Following.readySigner (following : session.Following origin role site home last chain)
    (accounts : Except Failure (List String)) :
    (session.readySigner accounts).Following origin role site home last chain := by
  refine following.rests (session.readySigner_rests accounts) ?_
  obtain ⟨wallet, owned, isLast, callbacks⟩ := following.watches.wallet
  have ready : session.readySigner accounts =
      { session with
        client := { session.client with wallet := .owned (wallet.signer accounts).1 } } := by
    rw [Session.readySigner, owned]
  rw [ready]
  refine ⟨following.watches.started, _, rfl, ?_, ?_⟩
  · rw [wallet.signer_lastChain, isLast]
  · rw [wallet.signer_subscribers, callbacks]

theorem Following.settle (following : session.Following origin role site home last chain)
    (number : Nat) : (session.settle number).Following origin role site home last chain := by
  refine following.rests (session.settle_rests number) ?_
  unfold Session.settle
  split
  next =>
    split
    next => exact following.watches.of_same rfl rfl
    next => exact following.watches
  next => exact following.watches

/-- A round of polling is told if it reads something else than the one before. -/
theorem Following.poll (following : session.Following origin role site home last chain)
    (reading : Reading) :
    (session.poll reading).Following origin role site home (PollingWallet.chainOf reading).1
      (if (PollingWallet.chainOf reading).1 = last then chain
        else (PollingWallet.chainOf reading).1) := by
  obtain ⟨wallet, owned, rfl, callbacks⟩ := following.watches.wallet
  let polled : Session := ⟨{ session.client with wallet := .owned (wallet.poll reading).wallet },
    session.tasks⟩
  have round : session.poll reading =
      callEach (wallet.poll reading).chain (wallet.poll reading).calls polled := by
    rw [Session.poll, owned]
  have rests : Rests session polled := .of_tasks ⟨rfl, rfl, rfl⟩ rfl
  by_cases unmoved : (PollingWallet.chainOf reading).1 = wallet.lastChain
  · obtain ⟨same, silent⟩ := wallet.poll_unmoved unmoved
    rw [if_pos unmoved, unmoved, round, silent]
    refine following.rests rests (following.watches.of_same rfl ?_)
    rw [owned]
    exact congrArg WalletLink.owned same
  · obtain ⟨read, isChain, calls⟩ := wallet.poll_moved unmoved
    rw [if_neg unmoved, round, isChain, calls, callbacks]
    have watches : polled.Watches (PollingWallet.chainOf reading).1 := by
      refine ⟨following.watches.started, _, rfl, ?_, ?_⟩
      · rw [read]
      · rw [read]
        exact callbacks
    have observes := chainChanged_observes polled (PollingWallet.chainOf reading).1
    exact (following.rests rests watches).observes observes (watches.of_same rfl rfl)

theorem Following.steady (following : session.Following origin role site home last chain)
    {action : Action} (follows : action.follows = true) (unread : action.polled? = none) :
    (session.act action).Following origin role site home last chain := by
  cases action with
  | poll reading => cases unread
  | begin number => exact following.begin number
  | signerAnswers number failure =>
      cases failure with
      | none => exact following.signerAnswers number
      | some failure => cases follows
  | connectorAnswers number failure =>
      cases failure with
      | none => exact following.connectorAnswers number
      | some failure => cases follows
  | readySigner accounts => exact following.readySigner accounts
  | settle number => exact following.settle number
  | start connect baseline =>
      have again : session.act (.start connect baseline) =
          session.spawn session.client (.running (.ended .nothing)) := by
        rw [act, callStart, following.watches.started, if_pos rfl]
      rw [again]
      exact following.rests (.spawn ⟨rfl, rfl, rfl⟩ rfl) (following.watches.of_same rfl rfl)
  | announce chain =>
      have ignored : session.act (.announce chain) = session := by
        obtain ⟨wallet, owned, -⟩ := following.watches.wallet
        rw [act, announce, owned]
      rw [ignored]
      exact following
  | listen refusal =>
      have rests : Rests session (session.act (.listen refusal)) := .of_tasks ⟨rfl, rfl, rfl⟩ rfl
      exact following.rests rests (following.watches.of_same rfl rfl)
  | setQuery query =>
      have rests : Rests session (session.act (.setQuery query)) := .of_tasks ⟨rfl, rfl, rfl⟩ rfl
      exact following.rests rests (following.watches.of_same rfl rfl)
  | refreshed answer =>
      have rests : Rests session (session.act (.refreshed answer)) := .of_tasks ⟨rfl, rfl, rfl⟩ rfl
      exact following.rests rests (following.watches.of_same rfl rfl)
  | observe | chainRead | close | closed | cancel => cases follows

theorem Following.run (following : session.Following origin role site home last chain)
    {actions : List Action} (follow : ∀ action ∈ actions, action.follows = true) :
    ∃ now, (session.run actions).Following origin role site home now
      (noted last chain (actions.filterMap Action.polled?)) := by
  induction actions generalizing session last chain with
  | nil => exact ⟨last, following⟩
  | cons action rest inductionHypothesis =>
      obtain ⟨first, others⟩ := List.forall_mem_cons.1 follow
      cases polled : action.polled? with
      | none =>
          rw [List.filterMap_cons_none polled]
          exact inductionHypothesis (following.steady first polled) others
      | some reading =>
          obtain ⟨read, rfl, rfl⟩ := Action.polled?_eq_some polled
          rw [List.filterMap_cons_some polled, noted]
          have round := following.poll read
          split at round
          next same =>
            rw [if_pos same]
            rw [same] at round
            exact inductionHypothesis round others
          next different =>
            rw [if_neg different]
            exact inductionHypothesis round others

/-! ## A start -/

/-- No task is left. -/
def AtRest (session : Session) : Prop :=
  ∀ task ∈ session.tasks, task.isOver = true

instance (session : Session) : Decidable session.AtRest :=
  inferInstanceAs (Decidable (∀ task ∈ session.tasks, task.isOver = true))

theorem AtRest.underWay? (atRest : session.AtRest) (number : Nat) :
    session.underWay? number = none := by
  cases known : session.tasks[number]? with
  | none =>
      rw [Session.underWay?, known]
      rfl
  | some task =>
      rw [underWay?_of_task known]
      exact Task.dispatch?_of_isOver (atRest task (List.mem_of_getElem? known))

/-- A start of a client that owns its wallet, which answers at once. -/
def startAtOnce (session : Session) (connect : Role → Option Failure)
    (baseline current : Reading) : Session :=
  (session.act (.start connect baseline)).act (.chainRead session.tasks.length current)

/-- The wallet of a client that goes live is polled from its first reading on. -/
theorem goLive_watches {client : Client} {wallet : PollingWallet Subscriber}
    (owned : client.wallet = .owned wallet) (silent : wallet.polling = false)
    (tied : client.wiring.Tied) (baseline : Reading) (tasks : List Task) :
    Watches ⟨(client.goLive baseline).1, tasks⟩ (PollingWallet.chainOf baseline).1 := by
  have callbacks : (client.goLive baseline).1.wallet.subscribers.callbacks = [.network] :=
    congrArg Wiring.callbacks (client.goLive_wiring tied baseline)
  have live : ∃ later, (client.goLive baseline).1.wallet = .owned later ∧
      later.lastChain = (PollingWallet.chainOf baseline).1 := by
    have subscribed : ∃ first, client.subscribe.1.wallet = .owned first ∧
        first.polling = false := by
      simp only [Client.subscribe]
      split
      next => exact ⟨wallet, owned, silent⟩
      next =>
        rw [owned]
        exact ⟨_, rfl, silent⟩
    obtain ⟨first, isFirst, silentFirst⟩ := subscribed
    have starts : (client.goLive baseline).1.wallet = .owned (first.start baseline).1 := by
      show (client.subscribe.1.wallet.start baseline).1 = _
      rw [isFirst]
      rfl
    refine ⟨_, starts, ?_⟩
    rw [PollingWallet.start, silentFirst]
    rfl
  obtain ⟨later, isOwned, isLast⟩ := live
  rw [isOwned] at callbacks
  exact ⟨rfl, later, isOwned, isLast, callbacks⟩

/-- Once all roles are bound, nothing has been observed, and every role has its default binding. -/
theorem callStart_following (ordered : session.Ordered origin) (sound : session.Sound)
    (owning : session.Owning) (stopped : session.client.started = false)
    (atRest : session.AtRest) {connect : Role → Option Failure}
    (through : (session.client.bindRoles connect).failure = none) (baseline : Reading)
    (isSite : session.client.network.site? role = some site) :
    ∃ address, site.table.require (.int session.client.settings.defaultChain) = .ok address ∧
      (session.callStart connect baseline).Following origin role site
        (.readOnly session.client.settings.defaultChain address site.rpcUrl)
        (PollingWallet.chainOf baseline).1 none := by
  obtain ⟨slot, found, rfl⟩ := Option.map_eq_some_iff.1 isSite
  obtain ⟨address, isHome, isBound⟩ := bindReadOnly_bound session.client.network.slots.distinct
    through (OrderedMap.mem_keys_of_get? found) found
  have live := callStart_live stopped through baseline
  have rests : Rests (session.rolesBound connect) (session.callStart connect baseline) := by
    rw [live]
    exact .spawn (goLive_aside _ baseline) rfl
  have nothing : ∀ number, (session.callStart connect baseline).underWay? number = none :=
    fun number => (rests.same number).trans (atRest.underWay? number)
  have notDue : ∀ number dispatch,
      ¬ (session.callStart connect baseline).Due role number dispatch := by
    intro number dispatch due
    have underWay := due.1
    rw [nothing] at underWay
    cases underWay
  refine ⟨address, isHome, callStart_ordered ordered connect baseline, ?_, _, _, rfl, rfl,
    (?_ : Nears _ role none (slot.bindReadOnly session.client.settings.defaultChain address)
      (slot.bindReadOnly session.client.settings.defaultChain address).mark.applied)⟩
  · have tied : (session.rolesBound connect).client.wiring.Tied :=
      session.client.bindRoles_wiring connect ▸ sound.tied
    have polls : session.client.wallet.isPolling = false := owning.inStep.trans stopped
    have isOwned : session.client.wallet.isOwned = true := owning.owned
    cases owned : session.client.wallet with
    | injected subscribers =>
        rw [owned] at isOwned
        cases isOwned
    | owned wallet =>
        have stillOwned : (session.rolesBound connect).client.wallet = .owned wallet := owned
        rw [owned] at polls
        rw [live]
        exact goLive_watches stillOwned polls tied baseline _
  · refine ⟨?_, nofun, fun number dispatch place underWay => ?_,
      fun number dispatch due => absurd due (notDue number dispatch),
      fun number dispatch due => absurd due (notDue number dispatch), Int.le_refl _,
      fun older => absurd older (Int.lt_irrefl _), fun _ => rfl⟩
    · rw [Network.binder_of_slots rests.slots]
      exact isBound
    · rw [nothing] at underWay
      cases underWay

theorem applyChain_disconnected {client : Client} {current : Reading}
    (read : (client.wallet.currentChain current).1 = .ok none) :
    (client.applyChain current).client = client ∧
      (client.applyChain current).progress = .ended .nothing := by
  simp only [applyChain, Client.Step.after, read]
  exact ⟨trivial, trivial⟩

theorem applyChain_connected {client : Client} {current : Reading} {chain : Chain}
    (read : (client.wallet.currentChain current).1 = .ok (some chain)) :
    (client.applyChain current).client =
        (client.observe (some chain) (.startup chain)).client ∧
      (client.applyChain current).progress =
        (client.observe (some chain) (.startup chain)).progress := by
  simp only [applyChain, Client.Step.after, read]
  exact ⟨trivial, trivial⟩

/-- The start observes the wallet's chain, unless there is no connection. -/
theorem Following.chainRead (following : session.Following origin role site home last none)
    {number : Nat} (asks : session.tasks[number]? = some .asksChain) (current : Reading) :
    (session.chainRead number current).Following origin role site home last
      (PollingWallet.chainOf current).1 := by
  obtain ⟨wallet, owned, -⟩ := following.watches.wallet
  have read : (session.client.wallet.currentChain current).1 =
      .ok (PollingWallet.chainOf current).1 := by
    rw [owned]
    rfl
  rw [Session.chainRead, asks]
  dsimp only
  cases known : (PollingWallet.chainOf current).1 with
  | none =>
      obtain ⟨sameClient, ended⟩ := applyChain_disconnected (read.trans (congrArg _ known))
      rw [Session.absorb, sameClient, ended]
      have rests : Rests session
          ⟨session.client, session.tasks.set number (.running (.ended .nothing))⟩ :=
        .ends .nothing asks rfl ⟨rfl, rfl, rfl⟩
      exact following.rests rests (following.watches.of_same rfl rfl)
  | some chain =>
      obtain ⟨sameClient, sameProgress⟩ := applyChain_connected (read.trans (congrArg _ known))
      have turn : session.absorb number (session.client.applyChain current) =
          session.absorb number (session.client.observe (some chain) (.startup chain)) := by
        rw [Session.absorb, sameClient, sameProgress]
        rfl
      obtain ⟨middle, observes, proceeds⟩ := startup_observes (some chain) (.startup chain) asks
      obtain ⟨binder, newest, isSite, isHome, nears⟩ := following.near
      have observed := observes.nears following.ordered nears
      obtain ⟨later, sameSite, sameHome, goesOn⟩ := proceeds.nears trivial observed
      rw [turn]
      exact ⟨proceeds.ordered (observes.ordered following.ordered),
        following.watches.absorb number (.startup chain) _, later, _, sameSite.trans isSite,
        sameHome.trans isHome, goesOn⟩

/-! ## From a start on -/

/-- The binding in force of a role is the one that a reading of the wallet's chain calls for: with
the signer as the table of the role has it, or else the read-only one on the default chain. -/
def BoundFor (origin : Client) (role : Role) (reading : Option Chain) (session : Session) : Prop :=
  ∃ site address, origin.network.site? role = some site ∧
    site.table.require (.int origin.settings.defaultChain) = .ok address ∧
    session.client.binding role = .ok ((site.signedFor false reading).getD
      (.readOnly origin.settings.defaultChain address site.rpcUrl))

theorem Following.boundFor {address : Address} {reading : Option Chain}
    (following : session.Following origin role site
      (.readOnly origin.settings.defaultChain address site.rpcUrl) last reading)
    (isSite : origin.network.site? role = some site)
    (isHome : site.table.require (.int origin.settings.defaultChain) = .ok address)
    (atRest : session.AtRest) : session.BoundFor origin role reading := by
  obtain ⟨binder, newest, sameSite, sameHome, nears⟩ := following.near
  refine ⟨site, address, isSite, isHome, ?_⟩
  have active := nears.at_rest atRest.underWay?
  rw [Client.binding, nears.known]
  show Except.ok binder.active = _
  rw [active, Binder.decided, sameSite, sameHome]

/-- **Which reading a client that polls ends up with.** A client that owns its wallet is started,
whatever came before, and everything that was under way then is over. From then on the wallet is
polled any number of times, nothing fails, and nothing but the start and the polling observes the
chain. Once nothing is under way, the binding of every role is the one for the chain that the start
read last, if polling never read another chain than the start read first; and otherwise it is the
one for the last reading. So it is the one for the last reading in any case if the start read the
same chain twice. -/
theorem bound_for_readings {settings : Settings} {given : Option Deployments.Tables}
    {roles : List Role} {account : Option String} {client : Client}
    (built : Client.ofSettings settings given roles (.owned (.ofAccount account)) = .ok client)
    (before : List Action) (stopped : ((start client).run before).client.started = false)
    (idle : ((start client).run before).AtRest) (connect : Role → Option Failure)
    (through : (((start client).run before).client.bindRoles connect).failure = none)
    (baseline current : Reading) (after : List Action)
    (follow : ∀ action ∈ after, action.follows = true)
    (atRest : ((((start client).run before).startAtOnce connect baseline current).run
      after).AtRest) :
    let later := (((start client).run before).startAtOnce connect baseline current).run after
    let readings := after.filterMap Action.polled?
    ∀ role ∈ roles,
      ((∀ reading ∈ readings, reading = (PollingWallet.chainOf baseline).1) →
        later.BoundFor client role (PollingWallet.chainOf current).1) ∧
      ∀ last, readings.getLast? = some last →
        ((PollingWallet.chainOf current).1 = (PollingWallet.chainOf baseline).1 ∨
          ∃ reading ∈ readings, reading ≠ (PollingWallet.chainOf baseline).1) →
        later.BoundFor client role last := by
  intro later readings role member
  have ordered := run_ordered (start_ordered built) before
  have sound := run_sound (start_sound built rfl) before
  have owning := run_owning (start_owning built) before
  obtain ⟨tables, site, -, isSite, -⟩ := site?_built built member
  have stillSite : ((start client).run before).client.network.site? role = some site :=
    (ordered.sites role).trans isSite
  obtain ⟨address, isHome, called⟩ :=
    callStart_following ordered sound owning stopped idle through baseline stillSite
  rw [ordered.settings] at isHome called
  have asks : (((start client).run before).callStart connect baseline).tasks[
      ((start client).run before).tasks.length]? = some .asksChain := by
    rw [callStart_live stopped through]
    exact getElem?_spawn_last (((start client).run before).rolesBound connect) _ _
  obtain ⟨now, followed⟩ := (called.chainRead asks current).run follow
  have boundFor := followed.boundFor isSite isHome atRest
  refine ⟨fun unmoved => ?_, fun last newest moved => ?_⟩
  · rw [noted_of_all unmoved] at boundFor
    exact boundFor
  · have isLast : noted (PollingWallet.chainOf baseline).1 (PollingWallet.chainOf current).1
        readings = last := by
      have ends : readings.getLastD (PollingWallet.chainOf baseline).1 = last := by
        rw [List.getLastD_eq_getLast?, newest]
        rfl
      rcases moved with same | elsewhere
      · rw [same, noted_self, ends]
      · rw [noted_of_move elsewhere, ends]
    rw [isLast] at boundFor
    exact boundFor

/-! ## A reading that nobody is told of -/

/-- A client of one role that polls its wallet. -/
def pollingClient : Client :=
  { soleClient with wallet := .owned (.ofAccount none) }

theorem pollingClient_built :
    Client.ofSettings soleSettings (some [(.packageStore, Binder.Session.twoChains.table)])
      [.packageStore] (.owned (.ofAccount none)) = .ok pollingClient := rfl

/-- An earlier life of the client: a start without a connection, and a close. -/
def earlierLife : List Action :=
  [.start (fun _ => none) (.ok none), .chainRead 0 (.ok none), .close, .closed 1]

/-- The wallet moves on to another chain while the roles are still bound for the first one. -/
def switching : List Action :=
  [.poll (.ok (some 10)), .signerAnswers 2 none, .begin 3, .connectorAnswers 2 none,
    .signerAnswers 3 none, .connectorAnswers 3 none]

theorem bound_for_readings_switching :
    ((start pollingClient).run earlierLife).client.started = false ∧
      ((start pollingClient).run earlierLife).AtRest ∧
      (((start pollingClient).run earlierLife).client.bindRoles fun _ => none).failure = none ∧
      (∀ action ∈ switching, action.follows = true) ∧
      ((((start pollingClient).run earlierLife).startAtOnce (fun _ => none) (.ok (some 1))
        (.ok (some 1))).run switching).AtRest ∧
      ((((start pollingClient).run earlierLife).startAtOnce (fun _ => none) (.ok (some 1))
        (.ok (some 1))).run switching).BoundFor pollingClient .packageStore (some 10) := by
  have stopped : ((start pollingClient).run earlierLife).client.started = false := by decide
  have idle : ((start pollingClient).run earlierLife).AtRest := by decide
  have through : (((start pollingClient).run earlierLife).client.bindRoles
      fun _ => none).failure = none := by decide
  have follow : ∀ action ∈ switching, action.follows = true := by decide
  have atRest : ((((start pollingClient).run earlierLife).startAtOnce (fun _ => none)
      (.ok (some 1)) (.ok (some 1))).run switching).AtRest := by decide
  refine ⟨stopped, idle, through, follow, atRest, ?_⟩
  exact (bound_for_readings pollingClient_built earlierLife stopped idle _ through _ _ switching
    follow atRest .packageStore (by decide)).2 (some 10) rfl (.inl rfl)

/-- The start reads the first chain and then loses the connection. Polling finds the first chain as
it was, so that nobody is told of it. -/
theorem reading_untold :
    ¬ ∀ (settings : Settings) (given : Option Deployments.Tables) (roles : List Role)
      (account : Option String) (client : Client) (connect : Role → Option Failure)
      (baseline current : Reading) (after : List Action),
      Client.ofSettings settings given roles (.owned (.ofAccount account)) = .ok client →
      ((start client).client.bindRoles connect).failure = none →
      (∀ action ∈ after, action.follows = true) →
      let later := ((start client).startAtOnce connect baseline current).run after
      later.AtRest →
      ∀ last, (after.filterMap Action.polled?).getLast? = some last →
        ∀ role ∈ roles, later.BoundFor client role last := by
  intro claim
  obtain ⟨site, address, isSite, -, bound⟩ := claim soleSettings _ _ none pollingClient
    (fun _ => none) (.ok (some 1)) (.ok none) [.poll (.ok (some 1))] pollingClient_built
    (by decide) (by decide) (by decide) (some 1) rfl .packageStore (by decide)
  cases isSite
  have different : some Access.readOnly = some Access.signerBound :=
    congrArg (fun bound => bound.toOption.map Binding.access) bound
  cases different

end Client.Session

end PackageStore
