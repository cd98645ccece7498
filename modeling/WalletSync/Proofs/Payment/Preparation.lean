import WalletSync.Payment.Prepare
import WalletSync.Proofs.Chain.Memory

/-!
Preparing a transaction. Fees that are in force are kept without a word to the chain, all others
are estimated under the terms that it answers with; what is to be sent follows from the fees when
all is to be sent. Since fees do not depend on the amount, what has been prepared stays prepared.
-/

namespace WalletSync

variable {σ : Type} {account : Account} {tx result : Transaction} {s t : σ}

namespace Transaction

/-- The transaction with other fees, and what they come from. -/
def repriced (tx : Transaction) (fees : Option Amount) (quote : Option FeeQuote) : Transaction :=
  { tx with fees := fees, feeQuote := quote }

theorem isPrepared_iff :
    tx.isPrepared = true ↔
      ∃ fees quote, tx.fees = some fees ∧ tx.feeQuote = some quote ∧ quote.basis = tx.basis := by
  rw [isPrepared, Bool.and_eq_true, Option.isSome_iff_exists, Option.any_eq_true]
  constructor
  · rintro ⟨⟨fees, known⟩, quote, quoted, made⟩
    exact ⟨fees, quote, known, quoted, of_decide_eq_true made⟩
  · rintro ⟨fees, quote, known, quoted, made⟩
    exact ⟨⟨fees, known⟩, quote, quoted, decide_eq_true made⟩

theorem isPrepared_estimated (tx : Transaction) (family : Family) (config : NetworkConfig) :
    (tx.estimated family config).isPrepared = true := by
  simp [isPrepared, estimated, quoteUnder, basis]

/-- Sending all changes the amount, and nothing else. -/
theorem exists_withAllOf_eq (tx : Transaction) (account : Account) :
    ∃ amount, tx.withAllOf account = { tx with amount := amount } ∧
      (tx.useAllAmount = false → amount = tx.amount) := by
  unfold withAllOf
  by_cases all : tx.useAllAmount = true
  · rw [if_pos all]
    exact ⟨_, rfl, fun none => absurd all (by simp [none])⟩
  · rw [if_neg all]
    exact ⟨tx.amount, rfl, fun _ => rfl⟩

theorem withAllOf_withAllOf (tx : Transaction) (account : Account) :
    (tx.withAllOf account).withAllOf account = tx.withAllOf account := by
  unfold withAllOf
  split <;> simp [*]

end Transaction

namespace Bridge

/-- Fees in force are kept, and whatever the chain would answer, it is not asked. -/
theorem prepare_of_isPrepared {m : Type → Type} [Monad m] {bridge : Bridge m} (account : Account)
    (same : tx.family = bridge.family) (inForce : tx.isPrepared = true) :
    bridge.prepare account tx = pure (tx.withAllOf account) := by
  simp [prepare, same, inForce]

variable {bridge : Bridge (StateM σ)}

/-- A transaction that is prepared has its own fees or those that the terms of the chain make. -/
theorem prepare_ok_iff :
    outcome (bridge.prepare account tx) s = (.ok result, t) ↔
      tx.family = bridge.family ∧
        (tx.isPrepared = true ∧ result = tx.withAllOf account ∧ t = s ∨
          tx.isPrepared = false ∧ ∃ config,
            outcome bridge.api.networkConfig s = (.ok config, t) ∧
            result = (tx.estimated bridge.family config).withAllOf account) := by
  by_cases same : tx.family = bridge.family
  · cases inForce : tx.isPrepared with
    | true =>
        rw [prepare_of_isPrepared account same inForce]
        simp [same, eq_comm]
    | false =>
        simp only [prepare, same, inForce, ne_eq, not_true_eq_false, if_false, Bool.false_eq_true,
          outcome_bind_ok, outcome_adapt_ok, outcome_pure, Prod.mk.injEq, Except.ok.injEq,
          false_and, false_or, true_and]
        constructor
        · rintro ⟨config, _, answered, rfl, rfl⟩
          exact ⟨config, answered, rfl⟩
        · rintro ⟨config, answered, rfl⟩
          exact ⟨config, t, answered, rfl, rfl⟩
  · simp [prepare, same]

/-- Beside the amount a preparation sets fees and quote only, and they are in force. -/
theorem exists_repriced_of_prepare
    (done : outcome (bridge.prepare account tx) s = (.ok result, t)) :
    ∃ fees quote, (tx.repriced fees quote).isPrepared = true ∧
      result = (tx.repriced fees quote).withAllOf account := by
  obtain ⟨-, ⟨inForce, rfl, -⟩ | ⟨-, config, -, rfl⟩⟩ := prepare_ok_iff.mp done
  · exact ⟨tx.fees, tx.feeQuote, inForce, rfl⟩
  · exact ⟨_, _, tx.isPrepared_estimated bridge.family config, rfl⟩

/-- What is prepared differs in fees, quote and, when all is to be sent, amount. Preparing it again
returns it and asks nothing, on whatever chain. -/
theorem prepared_stays_prepared (done : outcome (bridge.prepare account tx) s = (.ok result, t)) :
    result.isPrepared = true ∧
      (∃ fees quote amount,
        result = { tx with fees := fees, feeQuote := quote, amount := amount } ∧
          (tx.useAllAmount = false → amount = tx.amount)) ∧
      ∀ {m : Type → Type} [Monad m] (later : Bridge m), later.family = bridge.family →
        later.prepare account result = pure result := by
  obtain ⟨own, -⟩ := prepare_ok_iff.mp done
  obtain ⟨fees, quote, priced, rfl⟩ := exists_repriced_of_prepare done
  obtain ⟨amount, sent, kept⟩ := (tx.repriced fees quote).exists_withAllOf_eq account
  have inForce : ((tx.repriced fees quote).withAllOf account).isPrepared = true := by
    rw [sent]
    exact priced
  have known : ((tx.repriced fees quote).withAllOf account).family = bridge.family := by
    rw [sent]
    exact own
  refine ⟨inForce, ⟨fees, quote, amount, sent, kept⟩, ?_⟩
  intro m _ later same
  rw [prepare_of_isPrepared account (known.trans same.symm) inForce,
    Transaction.withAllOf_withAllOf]

section Sample

/-- A chain that states its terms and does nothing else. -/
def termsChain (terms : NetworkConfig) : MemoryChain := { networkConfig := some terms }

/-- An account that can pay for less than the fees of anything. -/
def poorAccount : Account :=
  { Account.blank .elrond "me" 0 .epoch with balance := 3, spendable := 3 }

/-- All is to be sent, for fees that nobody has estimated. -/
def guessedTransaction : Transaction :=
  { Transaction.draft .elrond with
    amount := 9, recipient := "you", fees := some 1, useAllAmount := true, data := some "memo" }

/-- The guess is replaced, nothing is left to send, and a chain that fails does not matter then. -/
theorem prepared_stays_prepared_of_guess :
    ∃ result, outcome ((MemoryChain.bridge .elrond ⟨1, 1⟩).prepare poorAccount guessedTransaction)
        (termsChain ⟨"1", 2, 50, 18⟩) = (.ok result, termsChain ⟨"1", 2, 50, 18⟩) ∧
      result.fees = some 12100 ∧ result.amount = 0 ∧ result.isPrepared = true ∧
      ∀ chain : MemoryChain, outcome ((MemoryChain.bridge .elrond ⟨1, 1⟩).prepare poorAccount
        result) chain = (.ok result, chain) := by
  have done : outcome ((MemoryChain.bridge .elrond ⟨1, 1⟩).prepare poorAccount guessedTransaction)
      (termsChain ⟨"1", 2, 50, 18⟩) = (.ok _, termsChain ⟨"1", 2, 50, 18⟩) :=
    prepare_ok_iff.mpr ⟨rfl, .inr ⟨rfl, ⟨"1", 2, 50, 18⟩, rfl, rfl⟩⟩
  obtain ⟨prepared, -, again⟩ := prepared_stays_prepared done
  refine ⟨_, done, by decide +kernel, by decide +kernel, prepared, fun chain => ?_⟩
  rw [again (MemoryChain.bridge .elrond ⟨1, 1⟩) rfl, outcome_pure]

end Sample

end Bridge

end WalletSync
