import PackageStore.Wallet.Polling

/-!
Contract: what the operations of a polling wallet leave alone.

Owns: for each operation of the wallet what it does to the subscribers and to the chain that was
read last, and the two outcomes of a round of polling.

Does not own: what callbacks do when they are called.
-/

set_option autoImplicit false

namespace PackageStore.PollingWallet

variable {κ : Type} (wallet : PollingWallet κ)

/-! ## Starting and stopping -/

/-- Only what belongs to polling is changed. -/
theorem start_frame (reading : Reading) :
    (wallet.start reading).1 =
      { wallet with
        lastChain := (wallet.start reading).1.lastChain
        polling := (wallet.start reading).1.polling } := by
  unfold start
  split
  · rfl
  · rfl

theorem start_subscribers (reading : Reading) :
    (wallet.start reading).1.subscribers = wallet.subscribers := by
  rw [start_frame]

/-- A wallet that does not poll takes a reading, and one that polls keeps the one it has. -/
theorem start_lastChain (reading : Reading) :
    (wallet.start reading).1.lastChain =
      if wallet.polling then wallet.lastChain else (chainOf reading).1 := by
  unfold start
  split
  · rfl
  · rfl

theorem start_polling (reading : Reading) : (wallet.start reading).1.polling = true := by
  unfold start
  split
  · next polling => exact polling
  · rfl

theorem stop_frame : wallet.stop.1 = { wallet with polling := wallet.stop.1.polling } := by
  unfold stop
  split
  · rfl
  · rfl

theorem stop_subscribers : wallet.stop.1.subscribers = wallet.subscribers := by
  rw [stop_frame]

theorem stop_lastChain : wallet.stop.1.lastChain = wallet.lastChain := by
  rw [stop_frame]

theorem stop_polling : wallet.stop.1.polling = false := by
  unfold stop
  split
  · rfl
  · next idle => exact Bool.eq_false_iff.2 idle

/-! ## A round of polling -/

theorem poll_chain (reading : Reading) : (wallet.poll reading).chain = (chainOf reading).1 := by
  unfold poll
  dsimp only
  split
  · rfl
  · rfl

/-- Whether or not it has changed, the chain read is the one to compare with. -/
theorem poll_wallet (reading : Reading) :
    (wallet.poll reading).wallet = { wallet with lastChain := (chainOf reading).1 } := by
  unfold poll
  dsimp only
  split
  · next unmoved => rw [unmoved]
  · rfl

theorem poll_calls_eq (reading : Reading) :
    (wallet.poll reading).calls =
      if (chainOf reading).1 = wallet.lastChain then [] else wallet.subscribers.callbacks := by
  unfold poll
  dsimp only
  split
  · rfl
  · rfl

theorem poll_subscribers (reading : Reading) :
    (wallet.poll reading).wallet.subscribers = wallet.subscribers := by
  rw [poll_wallet]

/-- All subscribers are called, or none. -/
theorem poll_calls (reading : Reading) :
    (wallet.poll reading).calls = [] ∨
      (wallet.poll reading).calls = wallet.subscribers.callbacks := by
  rw [poll_calls_eq]
  split
  · exact .inl rfl
  · exact .inr rfl

theorem poll_unmoved {reading : Reading} (unmoved : (chainOf reading).1 = wallet.lastChain) :
    (wallet.poll reading).wallet = wallet ∧ (wallet.poll reading).calls = [] := by
  rw [poll_wallet, poll_calls_eq, if_pos unmoved, unmoved]
  exact ⟨rfl, rfl⟩

theorem poll_moved {reading : Reading} (moved : (chainOf reading).1 ≠ wallet.lastChain) :
    (wallet.poll reading).wallet = { wallet with lastChain := (chainOf reading).1 } ∧
      (wallet.poll reading).chain = (chainOf reading).1 ∧
      (wallet.poll reading).calls = wallet.subscribers.callbacks := by
  rw [poll_wallet, poll_chain, poll_calls_eq, if_neg moved]
  exact ⟨rfl, rfl, rfl⟩

/-! ## Setting up the signer -/

/-- Only what belongs to signing is changed. -/
theorem signer_frame (accounts : Except Failure (List String)) :
    (wallet.signer accounts).1 =
      { wallet with
        ready := (wallet.signer accounts).1.ready
        signingLayers := (wallet.signer accounts).1.signingLayers
        defaultAccount := (wallet.signer accounts).1.defaultAccount } := by
  unfold signer
  split
  · rfl
  · split
    · rfl
    · split
      · rfl
      · rfl
      · rfl

theorem signer_subscribers (accounts : Except Failure (List String)) :
    (wallet.signer accounts).1.subscribers = wallet.subscribers := by
  rw [signer_frame]

theorem signer_lastChain (accounts : Except Failure (List String)) :
    (wallet.signer accounts).1.lastChain = wallet.lastChain := by
  rw [signer_frame]

theorem signer_polling (accounts : Except Failure (List String)) :
    (wallet.signer accounts).1.polling = wallet.polling := by
  rw [signer_frame]

end PackageStore.PollingWallet
