import Mathlib.Data.List.Induction
import PackageStore.Proofs.Wallet.Session

/-!
Contract: the signer of a polling wallet is set up once.

Owns: the account that a call of the signer has to sign with; the three outcomes of a call; what a
session has done for signing, which its first call with an account decides; and the theorem about
layers, calls that fail, and later calls.

Does not own: the provider. Its accounts, and its failures to name them, are arguments of the calls,
and may be others at every call.
-/

set_option autoImplicit false

namespace PackageStore.PollingWallet

variable {κ : Type}

/-! ## One call of the signer -/

/-- The account that a call of the signer has to sign with: the local one, or the first that the
provider names. -/
def signatory? (localAccount : Option String) (accounts : Except Failure (List String)) :
    Option String :=
  localAccount.or (accounts.toOption.bind List.head?)

/-- Why a call without an account fails: the provider names none, or fails to answer. -/
inductive Unsigned : Except Failure (List String) → Failure → Prop where
  | unnamed : Unsigned (.ok []) noAccount
  | unanswered (failure : Failure) : Unsigned (.error failure) failure.leavingCall

/-- The wallet with its signer set up for an account. Only a local account takes a layer. -/
def setUp (wallet : PollingWallet κ) (account : String) : PollingWallet κ :=
  { wallet with
    ready := true
    defaultAccount := some account
    signingLayers := wallet.signingLayers + if wallet.account.isSome then 1 else 0 }

/-- What a call of the signer comes to: the wallet afterwards, and the answer. -/
inductive Signing (wallet : PollingWallet κ) (accounts : Except Failure (List String)) :
    PollingWallet κ → Except Failure Unit → Prop where
  | repeated (ready : wallet.ready = true) : Signing wallet accounts wallet (.ok ())
  | first {account : String} (unready : wallet.ready = false)
      (found : signatory? wallet.account accounts = some account) :
      Signing wallet accounts (wallet.setUp account) (.ok ())
  | refused {failure : Failure} (unready : wallet.ready = false)
      (missing : signatory? wallet.account accounts = none) (cause : Unsigned accounts failure) :
      Signing wallet accounts wallet (.error failure)

theorem signer_signing (wallet : PollingWallet κ) (accounts : Except Failure (List String)) :
    wallet.Signing accounts (wallet.signer accounts).1 (wallet.signer accounts).2.1 := by
  unfold signer
  split
  · next ready => exact .repeated ready
  · next idle =>
      have unready : wallet.ready = false := Bool.eq_false_iff.2 idle
      split
      · next account known =>
          have same : wallet.setUp account =
              (readyWith { wallet with signingLayers := wallet.signingLayers + 1 } account).1 := by
            simp [setUp, readyWith, known]
          exact same ▸ .first unready (by simp [signatory?, known])
      · next remote =>
          split
          · next failure =>
              exact .refused unready (by simp [signatory?, remote, Except.toOption])
                (.unanswered failure)
          · exact .refused unready (by simp [signatory?, remote, Except.toOption]) .unnamed
          · next account _ =>
              have same : wallet.setUp account = (wallet.readyWith account).1 := by
                simp [setUp, readyWith, remote]
              exact same ▸ .first unready (by simp [signatory?, remote, Except.toOption])

theorem signer_of_ready {wallet : PollingWallet κ} (ready : wallet.ready = true)
    (accounts : Except Failure (List String)) : wallet.signer accounts = (wallet, .ok (), []) :=
  if_pos ready

/-! ## What a session has done for signing -/

namespace Action

/-- The account that an action has to sign with, if it calls the signer and there is one. -/
def signatory? (localAccount : Option String) : Action κ → Option String
  | .signer accounts => PollingWallet.signatory? localAccount accounts
  | _ => none

def callsSigner : Action κ → Bool
  | .signer _ => true
  | _ => false

end Action

/-- The account of the first call of the signer that has one. -/
def firstSignatory (localAccount : Option String) (actions : List (Action κ)) : Option String :=
  actions.findSome? (Action.signatory? localAccount)

/-- With a local account, the first call has one. -/
theorem firstSignatory_local (account : String) (actions : List (Action κ)) :
    (firstSignatory (some account) actions).isSome = actions.any Action.callsSigner := by
  rw [firstSignatory, List.isSome_findSome?]
  congr
  funext action
  cases action <;> rfl

theorem firstSignatory_concat (localAccount : Option String) (earlier : List (Action κ))
    (last : Action κ) :
    firstSignatory localAccount (earlier ++ [last]) =
      (firstSignatory localAccount earlier).or (last.signatory? localAccount) := by
  rw [firstSignatory, List.findSome?_append, List.findSome?_singleton]
  rfl

/-- What concerns signing, of a wallet that was opened as another one: `signatory` is the account
that it was set up with since. -/
structure Signed (opened : PollingWallet κ) (signatory : Option String)
    (wallet : PollingWallet κ) : Prop where
  account : wallet.account = opened.account
  ready : wallet.ready = signatory.isSome
  defaultAccount : wallet.defaultAccount = signatory.or opened.defaultAccount
  layers : wallet.signingLayers =
    opened.signingLayers + if opened.account.isSome && signatory.isSome then 1 else 0

namespace Signed

variable {opened wallet : PollingWallet κ} {signatory : Option String}

theorem of_unready (unready : opened.ready = false) : Signed opened none opened where
  account := rfl
  ready := unready
  defaultAccount := rfl
  layers := by simp

/-- Subscribers and polling do not concern signing. -/
theorem aside (signed : Signed opened signatory wallet) (subscribers : Subscribers κ)
    (lastChain : Option Chain) (polling : Bool) :
    Signed opened signatory { wallet with subscribers, lastChain, polling } :=
  ⟨signed.account, signed.ready, signed.defaultAccount, signed.layers⟩

end Signed

/-- The first call of the signer that has an account decides. -/
theorem Signing.signed {opened wallet called : PollingWallet κ} {signatory : Option String}
    {accounts : Except Failure (List String)} {answer : Except Failure Unit}
    (signing : wallet.Signing accounts called answer) (signed : Signed opened signatory wallet) :
    Signed opened (signatory.or (signatory? opened.account accounts)) called := by
  cases signing with
  | repeated ready =>
      obtain ⟨account, rfl⟩ := Option.isSome_iff_exists.1 (signed.ready.symm.trans ready)
      exact signed
  | first unready found =>
      -- Not ready yet, so no call before had an account.
      obtain rfl : signatory = none := by simpa [unready] using signed.ready.symm
      rw [signed.account] at found
      rw [Option.none_or, found]
      exact ⟨signed.account, rfl, rfl, by simp [setUp, signed.account, signed.layers]⟩
  | refused unready missing cause =>
      rw [signed.account] at missing
      rw [missing, Option.or_none]
      exact signed

/-- A call of the signer succeeds exactly if it or a call before had an account. -/
theorem Signing.ok_iff {opened wallet called : PollingWallet κ} {signatory : Option String}
    {accounts : Except Failure (List String)} {answer : Except Failure Unit}
    (signing : wallet.Signing accounts called answer) (signed : Signed opened signatory wallet) :
    answer = .ok () ↔ (signatory.or (signatory? opened.account accounts)).isSome = true := by
  have known := signed.ready
  cases signing with
  | repeated ready => simp [← known, ready]
  | first unready found => simp [← signed.account, found]
  | refused unready missing cause => simp [← known, unready, ← signed.account, missing]

theorem Signing.of_error {wallet called : PollingWallet κ}
    {accounts : Except Failure (List String)} {failure : Failure}
    (signing : wallet.Signing accounts called (.error failure)) :
    called = wallet ∧ Unsigned accounts failure := by
  cases signing with
  | refused unready missing cause => exact ⟨rfl, cause⟩

theorem signatory?_of_named (localAccount : Option String) (account : String)
    (others : List String) : (signatory? localAccount (.ok (account :: others))).isSome = true := by
  simp [signatory?, Except.toOption]

variable [DecidableEq κ]

namespace Session

variable {opened : PollingWallet κ} {signatory : Option String} {session : Session κ}

theorem act_signed (signed : Signed opened signatory session.wallet) (conduct : Conduct κ)
    (action : Action κ) :
    Signed opened (signatory.or (action.signatory? opened.account))
      (session.act conduct action).wallet := by
  cases action with
  | poll reading =>
      show Signed opened (signatory.or none) _
      rw [Option.or_none, act_poll_wallet, poll_wallet]
      exact signed.aside _ _ _
  | start reading =>
      show Signed opened (signatory.or none) (session.wallet.start reading).1
      rw [Option.or_none, start_frame]
      exact signed.aside _ _ _
  | stop =>
      show Signed opened (signatory.or none) session.wallet.stop.1
      rw [Option.or_none, stop_frame]
      exact signed.aside _ _ _
  | signer accounts => exact (session.wallet.signer_signing accounts).signed signed
  | edit change =>
      show Signed opened (signatory.or none) _
      rw [Option.or_none]
      cases change <;> exact signed.aside _ _ _

theorem run_concat (conduct : Conduct κ) (session : Session κ) (earlier : List (Action κ))
    (last : Action κ) :
    session.run conduct (earlier ++ [last]) = (session.run conduct earlier).act conduct last :=
  List.foldl_append

/-- In any session, the first call of the signer that has an account decides. -/
theorem run_signed (signed : Signed opened signatory session.wallet) (conduct : Conduct κ)
    (actions : List (Action κ)) :
    Signed opened (signatory.or (firstSignatory opened.account actions))
      (session.run conduct actions).wallet := by
  induction actions using List.reverseRecOn with
  | nil =>
      rw [firstSignatory, List.findSome?_nil, Option.or_none]
      exact signed
  | append_singleton earlier last inductionHypothesis =>
      rw [firstSignatory_concat, ← Option.or_assoc, run_concat]
      exact act_signed inductionHypothesis conduct last

/-- **The signer is set up once.** Take a wallet whose signer is not ready, and any session with it;
the provider may name other accounts at every call of the signer, or fail to. Then one layer was put
in if there is a local account and the signer was called, and none otherwise, and the account to
sign with is the one of the first call that had one. A call of the signer succeeds exactly if it or
a call before had one. If it fails, it changes nothing, the provider named no account or failed to
answer, and a later call succeeds as soon as the provider names one. If it succeeds, then later
calls succeed and do nothing, and nothing puts in a layer or changes the account. -/
theorem signer_set_up_once (opened : PollingWallet κ) (unready : opened.ready = false)
    (conduct : Conduct κ) (actions : List (Action κ)) (accounts : Except Failure (List String)) :
    let session := (ofWallet opened).run conduct actions
    let called := session.act conduct (.signer accounts)
    let answer := (session.wallet.signer accounts).2.1
    let upToThis := actions ++ [.signer accounts]
    (session.wallet.signingLayers = opened.signingLayers +
        if opened.account.isSome && actions.any Action.callsSigner then 1 else 0) ∧
    session.wallet.defaultAccount =
      (firstSignatory opened.account actions).or opened.defaultAccount ∧
    (answer = .ok () ↔ (firstSignatory opened.account upToThis).isSome = true) ∧
    (∀ failure, answer = .error failure →
      called.wallet = session.wallet ∧ Unsigned accounts failure ∧
        ∀ later account others,
          ((called.run conduct later).wallet.signer (.ok (account :: others))).2.1 = .ok ()) ∧
    (answer = .ok () → ∀ later next,
      let after := called.run conduct later
      after.wallet.signer next = (after.wallet, .ok (), []) ∧
        after.wallet.signingLayers = called.wallet.signingLayers ∧
        after.wallet.defaultAccount = called.wallet.defaultAccount) := by
  intro session called answer upToThis
  have begun : Signed opened none (ofWallet opened).wallet := .of_unready unready
  have signed : Signed opened (firstSignatory opened.account actions) session.wallet :=
    run_signed begun conduct actions
  have signing : session.wallet.Signing accounts called.wallet answer :=
    session.wallet.signer_signing accounts
  have calledSigned : Signed opened (firstSignatory opened.account upToThis) called.wallet := by
    rw [firstSignatory_concat]
    exact signing.signed signed
  have succeeds : answer = .ok () ↔ (firstSignatory opened.account upToThis).isSome = true := by
    rw [firstSignatory_concat]
    exact signing.ok_iff signed
  refine ⟨?_, signed.defaultAccount, succeeds, ?_, ?_⟩
  · rw [signed.layers]
    cases localAccount : opened.account with
    | none => rfl
    | some account => rw [firstSignatory_local]
  · intro failure failed
    obtain ⟨unchanged, cause⟩ := (failed ▸ signing).of_error
    -- Whatever happens in between, a call that is told an account has one at the latest.
    refine ⟨unchanged, cause, fun later account others => ?_⟩
    have laterSigned := run_signed calledSigned conduct later
    rw [(signer_signing _ _).ok_iff laterSigned, Option.isSome_or, signatory?_of_named,
      Bool.or_true]
  · intro succeeded later next after
    obtain ⟨account, first⟩ := Option.isSome_iff_exists.1 (succeeds.1 succeeded)
    rw [first] at calledSigned
    -- An account that is there already hides all later ones.
    have afterSigned : Signed opened (some account) after.wallet :=
      run_signed calledSigned conduct later
    exact ⟨signer_of_ready afterSigned.ready next,
      afterSigned.layers.trans calledSigned.layers.symm,
      afterSigned.defaultAccount.trans calledSigned.defaultAccount.symm⟩

/-- No callback does anything. -/
def unattended : Conduct Empty where
  edits _ _ _ := []
  failure _ _ _ := none

/-- Without a local account, two calls fail before the provider names an account, and this one is
kept when the provider names another. A local account takes one layer for two calls. -/
theorem signer_set_up_once_named_late :
    let opened : PollingWallet Empty := ofAccount none
    let gone : List (Action Empty) := [.signer (.error (.raised "OSError" "gone"))]
    let refused := (ofWallet opened).run unattended (gone ++ [.signer (.ok [])])
    let called := refused.act unattended (.signer (.ok ["0xA1", "0xA2"]))
    let after := called.run unattended [.signer (.ok ["0xB1"]), .start (.ok none)]
    let own := (ofWallet (ofAccount (some "0x7E"))).run unattended
      [.signer (.ok []), .signer (.ok ["0xB1"])]
    refused.wallet = opened ∧ called.wallet.defaultAccount = some "0xA1" ∧
      after.wallet.signer (.ok []) = (after.wallet, .ok (), []) ∧
      after.wallet.defaultAccount = some "0xA1" ∧ after.wallet.signingLayers = 0 ∧
      own.wallet.signingLayers = 1 := by
  intro opened gone refused called after own
  obtain ⟨-, -, -, fails, -⟩ := signer_set_up_once opened rfl unattended gone (.ok [])
  obtain ⟨unchanged, -⟩ := fails noAccount rfl
  obtain ⟨-, -, succeeds, -, afterwards⟩ := signer_set_up_once opened rfl unattended
    (gone ++ [.signer (.ok [])]) (.ok ["0xA1", "0xA2"])
  obtain ⟨ready, layers, account⟩ :=
    afterwards (succeeds.2 rfl) [.signer (.ok ["0xB1"]), .start (.ok none)] (.ok [])
  obtain ⟨once, -⟩ := signer_set_up_once (ofAccount (some "0x7E")) rfl unattended
    [.signer (.ok []), .signer (.ok ["0xB1"])] (.ok [])
  exact ⟨unchanged.trans (by decide), by decide, ready, account.trans (by decide),
    layers.trans (by decide), once.trans (by decide)⟩

end Session

end PackageStore.PollingWallet
