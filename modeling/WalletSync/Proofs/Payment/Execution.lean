import WalletSync.Proofs.Flow.Steps
import WalletSync.Proofs.History.Ids
import WalletSync.Proofs.Pending.Sequence

/-!
The payment that is noted before it is handed in, and the transaction that the chain reports once
it has carried it out, are one operation: both are written apart, and agree in all that the chain
does not add. So what was noted leaves the pending list as soon as what was reported is settled.

Date, block and status are the chain's own and may differ. That a chain does report what it was
given is not shown here, but is what `Executes` asks of an entry.
-/

namespace WalletSync

/-- The entry reports that the payload was carried out under a hash. -/
structure ChainEntry.Executes (entry : ChainEntry) (payload : Payload) (family : Family)
    (hash : String) : Prop where
  hash : entry.hash = hash
  sender : entry.sender = payload.sender
  receiver : entry.receiver = some (family.normalizeAddress payload.transaction.recipient)
  value : entry.value = payload.transaction.amount
  fees : payload.transaction.fees = some entry.fee
  nonce : entry.nonce = payload.sequence

/-- Two operations that differ in date, block and failure at most. -/
structure Operation.SameTransaction (op other : Operation) : Prop where
  id : op.id = other.id
  hash : op.hash = other.hash
  accountId : op.accountId = other.accountId
  direction : op.direction = other.direction
  value : op.value = other.value
  fee : op.fee = other.fee
  senders : op.senders = other.senders
  recipients : op.recipients = other.recipients
  sequence : op.sequence = other.sequence

/-- What an account has sent goes out of it, fee included. -/
theorem History.ofEntry_of_sent {accountId address : String} {entry : ChainEntry}
    (sent : entry.sender = address) :
    ofEntry accountId address entry =
      { id := operationId accountId entry.hash .outgoing, hash := entry.hash
        accountId := accountId, direction := .outgoing, value := entry.value.addSat entry.fee
        fee := entry.fee, senders := [entry.sender], recipients := entry.receiver.toList
        date := entry.timestamp, blockHeight := entry.blockHeight, blockHash := entry.blockHash
        sequence := some entry.nonce, hasFailed := entry.status.isFailure } := by
  simp only [ofEntry, sent, if_true]

section Built

variable {tx : Transaction} {family : Family} {account : Account} {now : Moment}
  {payload : Payload} {operation : Operation} {entry : ChainEntry} {hash : String}

/-- What was noted has the values of the entry, and its total is the sum, not a rounded one. -/
theorem sameTransaction_of_build (built : tx.build family account now = .ok (payload, operation))
    (executes : entry.Executes payload family hash) :
    (operation.withHash hash).SameTransaction (History.ofEntry account.id account.address entry) ∧
      operation.value.val = entry.value.val + entry.fee.val := by
  obtain ⟨-, -, valid, parts⟩ := Transaction.build_eq_ok_iff.mp built
  obtain ⟨rfl, rfl⟩ := Prod.mk.inj parts
  have sent : entry.sender = account.address := executes.sender
  have value : entry.value = tx.amountFrom account := executes.value
  have fee : tx.knownFees = entry.fee := by
    have fees : tx.fees = some entry.fee := executes.fees
    rw [Transaction.knownFees, fees, Option.getD_some]
  constructor
  · rw [History.ofEntry_of_sent sent]
    exact {
      id := congrArg (operationId account.id · .outgoing) executes.hash.symm
      hash := executes.hash.symm
      accountId := rfl
      direction := rfl
      value := congrArg₂ Word.addSat value.symm fee
      fee := fee
      senders := congrArg ([·]) sent.symm
      recipients := congrArg Option.toList executes.receiver.symm
      sequence := congrArg some executes.nonce.symm }
  · rw [Transaction.val_value_operation valid, value, ← fee]

end Built

namespace Pending

variable {settled pending : List Operation} {address : String} {remote : Count}
  {seen entry : Operation}

/-- A settled operation is all that is needed to drop what has its id or its hash. -/
theorem differs_of_mem_reconcile (known : seen ∈ settled) (hash : seen.hash ≠ "")
    (left : entry ∈ reconcile pending settled address remote) :
    entry.id ≠ seen.id ∧ entry.hash ≠ seen.hash := by
  obtain ⟨-, unseen, -⟩ := mem_reconcile.mp left
  have nothing : ¬∃ other ∈ settled, other.id = entry.id ∨ other.hash ≠ "" ∧
      other.hash = entry.hash := by
    rw [← isSeen_iff, unseen]
    exact Bool.false_ne_true
  constructor
  · intro same
    exact nothing ⟨seen, known, .inl same.symm⟩
  · intro same
    exact nothing ⟨seen, known, .inr ⟨hash, same.symm⟩⟩

end Pending

/-- The form that a reported transaction has in a refreshed account is one that was reported. -/
theorem Account.exists_settled_of_reported {account : Account} {report : ChainReport}
    {entry : ChainEntry} (now : Moment) (reported : entry ∈ report.entries)
    (final : ∀ other ∈ report.entries, other.hash = entry.hash →
      (History.ofEntry account.id account.address other).isSettled = true) :
    ∃ op ∈ (account.refresh report now).operations.filter Operation.isSettled,
      op.id = (History.ofEntry account.id account.address entry).id ∧ op.hash = entry.hash := by
  have new : History.ofEntry account.id account.address entry ∈
      report.entries.map (History.ofEntry account.id account.address) :=
    List.mem_map_of_mem reported
  obtain ⟨op, listed, same, formed⟩ := History.exists_mem_merge account.operations new
  obtain ⟨other, also, rfl⟩ := List.mem_map.mp formed
  have hash : other.hash = entry.hash := (operationId_inj same).1
  exact ⟨_, List.mem_filter.mpr ⟨listed, final other also hash⟩, same, hash⟩

section Noted

variable {tx : Transaction} {family : Family} {account : Account} {now : Moment}
  {payload : Payload} {operation : Operation} {entry : ChainEntry} {hash : String}

/-- A payment that was built, put under the hash that it got, is the operation that the chain
reports for it. Reconciling with that operation drops it, and so does a refresh by a report in
which the transaction is settled. -/
theorem noted_payment_is_reported_one
    (built : tx.build family account now = .ok (payload, operation)) (given : hash ≠ "")
    (executes : entry.Executes payload family hash) :
    ((operation.withHash hash).SameTransaction
        (History.ofEntry account.id account.address entry) ∧
      operation.value.val = entry.value.val + entry.fee.val) ∧
    (∀ pending settled remote, History.ofEntry account.id account.address entry ∈ settled →
      ∀ left ∈ Pending.reconcile pending settled account.address remote,
        left.id ≠ (operation.withHash hash).id ∧ left.hash ≠ hash) ∧
    ∀ (base : Account) report later, base.id = account.id → base.address = account.address →
      entry ∈ report.entries →
      (∀ other ∈ report.entries, other.hash = hash →
        (History.ofEntry account.id account.address other).isSettled = true) →
      ∀ left ∈ (base.refresh report later).pending,
        left.id ≠ (operation.withHash hash).id ∧ left.hash ≠ hash := by
  have same := sameTransaction_of_build built executes
  obtain rfl := executes.hash
  refine ⟨same, ?_, ?_⟩
  · intro pending settled remote known left kept
    rw [same.1.id]
    exact Pending.differs_of_mem_reconcile known given kept
  · intro base report later baseId baseAddress reported final left kept
    rw [← baseId, ← baseAddress] at same final
    obtain ⟨op, settled, id, hash⟩ := Account.exists_settled_of_reported later reported final
    rw [same.1.id, ← id, ← hash]
    exact Pending.differs_of_mem_reconcile settled (hash ▸ given) kept

/-- An account that holds the largest amount there is. -/
def sampleHolder : Account :=
  { Account.blank .ethereum "me" 0 .epoch with balance := Word.top, spendable := Word.top }

/-- All that may be spent goes to an address that is not in the form it is reported in. -/
def sampleAll : Transaction :=
  { Transaction.draft .ethereum with
    recipient := "0x52908400098527886e0f7030069857d2e4169ee7", fees := some 5
    useAllAmount := true
    feeQuote := some ⟨"1", 1, 5, ⟨"0x52908400098527886e0f7030069857d2e4169ee7", .send, 0⟩⟩ }

def sampleExecution : ChainEntry :=
  { hash := "0xab", sender := "me", receiver := some "0x52908400098527886E0F7030069857D2E4169EE7"
    value := Word.top.subSat 5, fee := 5, timestamp := .latest, blockHeight := some 8
    blockHash := none, nonce := 0, status := .success }

/-- The letters are in upper case where a digest says so, which is computed here. -/
theorem normalizeAddress_sampleAll :
    Family.ethereum.normalizeAddress sampleAll.recipient =
      "0x52908400098527886E0F7030069857D2E4169EE7" := by decide +kernel

theorem errors_sampleAll : (sampleAll.status .ethereum sampleHolder).errors = [] := by
  have filled : sampleAll.recipient ≠ "" := by decide
  have address : Family.ethereum.isValidAddress sampleAll.recipient = true := by decide +kernel
  have other : Family.ethereum.normalizeAddress sampleAll.recipient ≠ sampleHolder.address := by
    rw [normalizeAddress_sampleAll]
    decide
  have recipient : sampleAll.recipientError? .ethereum sampleHolder = none := by
    rw [Transaction.recipientError?, if_neg filled, address, if_neg (by decide), if_neg other]
  have amount : sampleAll.amountError? sampleHolder = none := by decide +kernel
  rw [Transaction.status, recipient, amount]
  rfl

theorem noted_payment_of_whole_balance :
    sampleAll.build .ethereum sampleHolder .epoch =
        .ok (sampleAll.payload sampleHolder, sampleAll.operation .ethereum sampleHolder .epoch) ∧
      sampleExecution.Executes (sampleAll.payload sampleHolder) .ethereum "0xab" ∧
      ((sampleAll.operation .ethereum sampleHolder .epoch).withHash "0xab").SameTransaction
        (History.ofEntry sampleHolder.id sampleHolder.address sampleExecution) ∧
      (sampleAll.operation .ethereum sampleHolder .epoch).withHash "0xab" ∉
        Pending.reconcile [(sampleAll.operation .ethereum sampleHolder .epoch).withHash "0xab"]
          [History.ofEntry sampleHolder.id sampleHolder.address sampleExecution] "me" 0 := by
  have built : sampleAll.build .ethereum sampleHolder .epoch = .ok _ :=
    Transaction.build_eq_ok_iff.mpr ⟨rfl, by decide +kernel, errors_sampleAll, rfl⟩
  have executes : sampleExecution.Executes (sampleAll.payload sampleHolder) .ethereum "0xab" := {
    hash := rfl
    sender := rfl
    receiver := congrArg some normalizeAddress_sampleAll.symm
    value := by decide +kernel
    fees := rfl
    nonce := by decide +kernel }
  obtain ⟨same, dropped, -⟩ := noted_payment_is_reported_one built (by decide) executes
  refine ⟨built, executes, same.1, fun left => ?_⟩
  exact (dropped _ _ 0 List.mem_cons_self _ left).1 rfl

end Noted

end WalletSync
