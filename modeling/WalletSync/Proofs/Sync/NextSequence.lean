import WalletSync.Proofs.Chain.Memory
import WalletSync.Proofs.Pending.Sequence

/-!
The next sequence number after a sync, beside the numbers that confirmed transactions of the
account have used up. The number that a chain reports is asked for before the transactions are, and
an entry is no longer pending as soon as its transaction is seen; so when the report lags behind
and nothing else is pending, a number comes back that is used up.
-/

namespace WalletSync

theorem Operation.isSettled_of_isConfirmed {op : Operation} (h : op.isConfirmed = true) :
    op.isSettled = true := by
  rw [Operation.isSettled, h, Bool.true_or]

namespace Bridge

variable {σ : Type} {bridge : Bridge (StateM σ)} {account synced : Account} {now : Moment} {s t : σ}

/-- A number that a confirmed transaction has used up is not handed out again exactly when the
chain reports a later one or a numbered entry of the account is still pending. Without such an
entry the next number is the one that the chain reports. -/
theorem lt_nextSequence_of_sync_iff
    (sync : outcome (bridge.sync account now) s = (.ok synced, t)) :
    (∀ op ∈ synced.operations, op.isConfirmed = true →
      ∀ used ∈ op.usedSequence? synced.address,
        (used < synced.nextSequence ↔ used < synced.remoteSequence ∨
          ∃ p ∈ synced.pending, (p.usedSequence? synced.address).isSome = true)) ∧
      ((∀ p ∈ synced.pending, p.usedSequence? synced.address = none) →
        synced.nextSequence = synced.remoteSequence) := by
  obtain ⟨-, report, -, rfl⟩ := sync_ok_iff.mp sync
  refine ⟨fun op hop confirmed used hu => ⟨fun below => ?_, ?_⟩,
    Account.nextSequence_of_no_number⟩
  · by_cases left : ∃ p ∈ (account.refresh report now).pending,
        (p.usedSequence? (account.refresh report now).address).isSome = true
    · exact .inr left
    · rw [Account.nextSequence_of_no_number] at below
      · exact .inl below
      · exact fun p hp => Option.not_isSome_iff_eq_none.mp fun number => left ⟨p, hp, number⟩
  · rintro (reported | ⟨p, hp, number⟩)
    · exact Word.lt_of_lt_of_le reported Account.remoteSequence_le_nextSequence
    · obtain ⟨n, hn⟩ := Option.isSome_iff_exists.mp number
      have settled : op ∈ (account.refresh report now).operations.filter Operation.isSettled :=
        List.mem_filter.mpr ⟨hop, Operation.isSettled_of_isConfirmed confirmed⟩
      have beyond : used < n :=
        (Pending.beyond_of_mem_reconcile hp hn).2 op settled used hu
      exact Word.lt_of_lt_of_le (Word.lt_of_lt_of_le beyond (Word.le_succSat n))
        (Account.succSat_le_nextSequence hp hn)

end Bridge

/-- A transaction of the address `me`. -/
def samplePayment (hash : String) (nonce : Count) (block : Option Count) : ChainEntry :=
  { hash := hash, sender := "me", receiver := some "you", value := 5, fee := 1
    timestamp := .epoch, blockHeight := block, blockHash := none, nonce := nonce
    status := if block.isSome then .success else .pending }

/-- The account of the address `me` with transactions that wait. -/
def sampleSender (waiting : List (String × Count)) : Account :=
  { Account.blank .elrond "me" 0 .epoch with
    pending := waiting.map fun (hash, nonce) =>
      History.ofEntry (accountId .elrond "me") "me" (samplePayment hash nonce none) }

/-- A chain that shows a transaction of number 0 but still reports 0 as the next number. -/
def laggingChain : MemoryChain := { history := [samplePayment "a" 0 (some 7)] }

/-- What the chain shows, as an operation of the account. -/
def sampleConfirmed : Operation :=
  History.ofEntry (accountId .elrond "me") "me" (samplePayment "a" 0 (some 7))

/-- The chain still reports the number 0, but the entry behind the confirmed one keeps it from
coming back. -/
theorem lt_nextSequence_of_sync_of_lagging :
    ∃ synced, outcome ((MemoryChain.bridge .elrond ⟨1, 1⟩).sync
        (sampleSender [("b", 1), ("a", 0)]) .epoch) laggingChain = (.ok synced, laggingChain) ∧
      synced.remoteSequence = 0 ∧
      (∃ p ∈ synced.pending, (p.usedSequence? synced.address).isSome = true) ∧
      0 < synced.nextSequence := by
  have synced : outcome ((MemoryChain.bridge .elrond ⟨1, 1⟩).sync
      (sampleSender [("b", 1), ("a", 0)]) .epoch) laggingChain = (.ok _, laggingChain) :=
    MemoryChain.outcome_sync rfl
  refine ⟨_, synced, rfl, by decide +kernel, ?_⟩
  refine ((Bridge.lt_nextSequence_of_sync_iff synced).1 sampleConfirmed ?_ ?_ 0 ?_).mpr (.inr ?_)
  all_goals decide +kernel

/-- The chain lags behind and the only pending entry is the one that it shows. -/
theorem used_sequence_comes_back :
    ¬ ∀ (account synced : Account) (chain next : MemoryChain) (now : Moment),
      outcome ((MemoryChain.bridge .elrond ⟨1, 1⟩).sync account now) chain = (.ok synced, next) →
      ∀ op ∈ synced.operations, op.isConfirmed = true →
        ∀ used ∈ op.usedSequence? synced.address, used < Word.top → used < synced.nextSequence := by
  intro claim
  have lost := claim (sampleSender [("a", 0)]) _ laggingChain _ .epoch
    (MemoryChain.outcome_sync rfl) sampleConfirmed
    (by decide +kernel) (by decide +kernel) 0 (by decide +kernel) (by decide +kernel)
  revert lost
  decide +kernel

end WalletSync
