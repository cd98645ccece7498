import WalletSync.Proofs.Sync.NextSequence

/-!
When a sync takes an entry off the pending list. A settled operation in which the entry is
recognised does it, and so does a number that the chain has gone beyond; the number of an operation
that has failed without being part of a block counts as well, although no block has used it up.
Whether the transaction of such an entry can still be carried out is not settled here.
-/

namespace WalletSync

/-- The address has sent the operation under the number `n` or a later one. -/
def Operation.Reaches (op : Operation) (address : String) (n : Count) : Prop :=
  ∃ used ∈ op.usedSequence? address, n ≤ used

theorem Operation.isSettled_iff {op : Operation} :
    op.isSettled = true ↔
      op.isConfirmed = true ∨ op.isConfirmed = false ∧ op.hasFailed = true := by
  rw [Operation.isSettled]
  cases op.isConfirmed <;> simp

namespace Pending

variable {settled : List Operation} {address : String} {remote : Count} {entry : Operation}

theorem isSuperseded_iff :
    isSuperseded settled address remote entry = true ↔
      entry.isSentBy address = true ∧ ∃ n ∈ entry.sequence,
        n < remote ∨ ∃ op ∈ settled, op.Reaches address n := by
  simp only [isSuperseded, Operation.Reaches, Bool.and_eq_true, Option.any_eq_true,
    Bool.or_eq_true, decide_eq_true_eq, List.any_eq_true, Option.mem_def]

theorem not_mem_reconcile {pending : List Operation} (listed : entry ∈ pending) :
    entry ∉ reconcile pending settled address remote ↔
      isSeen settled entry = true ∨ isSuperseded settled address remote entry = true := by
  rw [mem_reconcile]
  cases isSeen settled entry <;> cases isSuperseded settled address remote entry <;> simp [listed]

end Pending

namespace Bridge

variable {σ : Type} {bridge : Bridge (StateM σ)} {account synced : Account} {now : Moment} {s t : σ}

/-- What takes an entry off the list, and nothing else does. The last of the four causes is the one
in which no block has used the number up. -/
theorem not_mem_pending_of_sync_iff
    (sync : outcome (bridge.sync account now) s = (.ok synced, t))
    {entry : Operation} (listed : entry ∈ account.pending) :
    entry ∉ synced.pending ↔
      (∃ op ∈ synced.operations, op.isSettled = true ∧
        (op.id = entry.id ∨ op.hash ≠ "" ∧ op.hash = entry.hash)) ∨
      entry.isSentBy account.address = true ∧ ∃ n ∈ entry.sequence,
        n < synced.remoteSequence ∨
        (∃ op ∈ synced.operations, op.isConfirmed = true ∧ op.Reaches account.address n) ∨
        ∃ op ∈ synced.operations, (op.isConfirmed = false ∧ op.hasFailed = true) ∧
          op.Reaches account.address n := by
  obtain ⟨-, report, -, rfl⟩ := sync_ok_iff.mp sync
  rw [Account.pending_refresh, Pending.not_mem_reconcile listed, Pending.isSeen_iff,
    Pending.isSuperseded_iff]
  have settledBy (P : Operation → Prop) :
      (∃ op ∈ (account.refresh report now).operations.filter Operation.isSettled, P op) ↔
        ∃ op ∈ (account.refresh report now).operations, op.isSettled = true ∧ P op := by
    simp only [List.mem_filter, and_assoc]
  have reachedBy (n : Count) :
      (∃ op ∈ (account.refresh report now).operations,
        op.isSettled = true ∧ op.Reaches account.address n) ↔
      (∃ op ∈ (account.refresh report now).operations,
        op.isConfirmed = true ∧ op.Reaches account.address n) ∨
      ∃ op ∈ (account.refresh report now).operations,
        (op.isConfirmed = false ∧ op.hasFailed = true) ∧ op.Reaches account.address n := by
    simp only [Operation.isSettled_iff, or_and_right, and_or_left, exists_or]
  simp only [settledBy, reachedBy]
  rfl

end Bridge

/-- A transaction that the address `me` has sent under a late number, and that was turned down
without becoming part of a block. -/
def sampleRefusal : ChainEntry := { samplePayment "b" 9 none with status := .invalid }

/-- The chain expects the number 5 and lists nothing but the refusal. -/
def refusingChain : MemoryChain := { history := [sampleRefusal], accounts := [("me", 9, 5)] }

/-- The entry waits under the number that is expected, and goes all the same. -/
theorem not_mem_pending_of_refusal :
    ∃ synced, outcome ((MemoryChain.bridge .elrond ⟨1, 1⟩).sync (sampleSender [("a", 5)]) .epoch)
        refusingChain = (.ok synced, refusingChain) ∧
      ∀ entry ∈ (sampleSender [("a", 5)]).pending, entry ∉ synced.pending := by
  have sync : outcome ((MemoryChain.bridge .elrond ⟨1, 1⟩).sync (sampleSender [("a", 5)]) .epoch)
      refusingChain = (.ok _, refusingChain) := MemoryChain.outcome_sync rfl
  refine ⟨_, sync, ?_⟩
  intro entry listed
  obtain rfl := List.mem_singleton.mp listed
  apply (Bridge.not_mem_pending_of_sync_iff sync listed).mpr
  refine .inr ⟨by decide +kernel, 5, rfl, .inr (.inr ?_)⟩
  refine ⟨History.ofEntry (accountId .elrond "me") "me" sampleRefusal, ?_, ?_, 9, ?_, ?_⟩
  all_goals decide +kernel

/-- No settled operation is the entry, its number is not behind the chain, and no operation is part
of a block. -/
theorem refusal_supersedes :
    ¬ ∀ (account synced : Account) (chain next : MemoryChain) (now : Moment),
      outcome ((MemoryChain.bridge .elrond ⟨1, 1⟩).sync account now) chain = (.ok synced, next) →
      ∀ entry ∈ account.pending, entry ∉ synced.pending →
        (∃ op ∈ synced.operations, op.isSettled = true ∧
          (op.id = entry.id ∨ op.hash ≠ "" ∧ op.hash = entry.hash)) ∨
        entry.isSentBy account.address = true ∧ ∃ n ∈ entry.sequence,
          n < synced.remoteSequence ∨
          ∃ op ∈ synced.operations, op.isConfirmed = true ∧ op.Reaches account.address n := by
  intro claim
  have cause := claim (sampleSender [("a", 5)]) _ refusingChain _ .epoch
    (MemoryChain.outcome_sync rfl) _ List.mem_cons_self (by decide +kernel)
  rcases cause with recognised | ⟨-, n, number, behind | ⟨op, known, confirmed, -⟩⟩
  · revert recognised
    decide +kernel
  · obtain rfl := Option.some.inj number
    revert behind
    decide +kernel
  · revert op
    decide +kernel

end WalletSync
