import WalletSync.Proofs.Flow.Steps

/-!
Which transactions are built. The check of a transaction works with amounts, which are bounded and
stop at their bounds; what it lets through is said here with numbers that have none, and for those
transactions no bound has been touched.
-/

namespace WalletSync.Transaction

/-- What goes to the recipient, as a number: all that may be spent less the fees, if there is
anything left of it, or the amount. -/
def toSend (tx : Transaction) (account : Account) : Nat :=
  if tx.useAllAmount then account.spendable.val - tx.knownFees.val else tx.amount.val

/-- The transaction is one of the family that can be paid from the account. -/
structure IsSpendable (tx : Transaction) (family : Family) (account : Account) : Prop where
  own : tx.family = family
  prepared : tx.isPrepared = true
  named : tx.recipient ≠ ""
  valid : family.isValidAddress tx.recipient = true
  other : family.normalizeAddress tx.recipient ≠ account.address
  positive : tx.toSend account ≠ 0
  covered : tx.toSend account + tx.knownFees.val ≤ account.spendable.val

variable {tx : Transaction} {family : Family} {account : Account}

theorem recipientError?_eq_none_iff :
    tx.recipientError? family account = none ↔
      tx.recipient ≠ "" ∧ family.isValidAddress tx.recipient = true ∧
        family.normalizeAddress tx.recipient ≠ account.address := by
  unfold recipientError?
  by_cases named : tx.recipient = ""
  · simp [named]
  · by_cases valid : family.isValidAddress tx.recipient = true
    · by_cases own : family.normalizeAddress tx.recipient = account.address
      · simp [named, valid, own]
      · simp [named, valid, own]
    · simp [named, valid]

theorem val_amountFrom : (tx.amountFrom account).val = tx.toSend account := by
  unfold amountFrom toSend
  split <;> rfl

theorem amountFrom_ne_zero : tx.amountFrom account ≠ 0 ↔ tx.toSend account ≠ 0 := by
  rw [← val_amountFrom, ne_eq, ne_eq, Word.ext_iff]
  rfl

/-- The amount is without fault exactly when it is not zero and covered together with the fees; a
sum out of range is not covered by anything. -/
theorem amountError?_eq_none_iff_covered :
    tx.amountError? account = none ↔
      tx.toSend account ≠ 0 ∧ tx.toSend account + tx.knownFees.val ≤ account.spendable.val := by
  rw [amountError?_eq_none_iff]
  constructor
  · rintro ⟨total, inRange, positive, covered⟩
    have sum : total.val = (tx.amountFrom account).val + tx.knownFees.val :=
      Word.ofNat?_eq_some_iff.mp inRange
    rw [val_amountFrom] at sum
    exact ⟨amountFrom_ne_zero.mp positive, sum ▸ covered⟩
  · rintro ⟨positive, covered⟩
    -- What is covered is in range, since what covers it is an amount.
    have bounded := Nat.lt_of_le_of_lt covered account.spendable.val_lt
    refine ⟨⟨_, bounded⟩, ?_, amountFrom_ne_zero.mpr positive, covered⟩
    exact Word.ofNat?_eq_some_iff.mpr (congrArg (· + tx.knownFees.val) val_amountFrom).symm

theorem isSpendable_iff :
    tx.IsSpendable family account ↔ tx.family = family ∧ tx.isPrepared = true ∧
      (tx.status family account).errors = [] := by
  simp only [status, List.append_eq_nil_iff, Option.toList_eq_nil_iff, recipientError?_eq_none_iff,
    amountError?_eq_none_iff_covered]
  constructor
  · rintro ⟨own, prepared, named, valid, other, positive, covered⟩
    exact ⟨own, prepared, ⟨named, valid, other⟩, positive, covered⟩
  · rintro ⟨own, prepared, ⟨named, valid, other⟩, positive, covered⟩
    exact ⟨own, prepared, named, valid, other, positive, covered⟩

/-- When all is sent, something can only be left of it if the fees are less than it. -/
theorem IsSpendable.total_of_all (h : tx.IsSpendable family account)
    (all : tx.useAllAmount = true) :
    tx.toSend account + tx.knownFees.val = account.spendable.val := by
  have positive := h.positive
  rw [toSend, if_pos all] at *
  omega

/-- A transaction is built exactly when it can be paid from the account. The recipient gets what was
to be sent and the account pays that and the fees, which is all it has when all was to be sent. -/
theorem builds_what_is_spendable (tx : Transaction) (family : Family) (account : Account)
    (now : Moment) :
    ((∃ payload operation, tx.build family account now = .ok (payload, operation)) ↔
      tx.IsSpendable family account) ∧
    ∀ payload operation, tx.build family account now = .ok (payload, operation) →
      tx.fees = some operation.fee ∧
        payload.transaction.amount.val = tx.toSend account ∧
        operation.value.val = tx.toSend account + operation.fee.val ∧
        (tx.useAllAmount = true → operation.value = account.spendable) := by
  constructor
  · rw [isSpendable_iff]
    constructor
    · rintro ⟨payload, operation, built⟩
      obtain ⟨own, prepared, faultless, -⟩ := build_eq_ok_iff.mp built
      exact ⟨own, prepared, faultless⟩
    · rintro ⟨own, prepared, faultless⟩
      exact ⟨_, _, build_eq_ok_iff.mpr ⟨own, prepared, faultless, rfl⟩⟩
  · intro payload operation built
    obtain ⟨own, prepared, faultless, parts⟩ := build_eq_ok_iff.mp built
    obtain ⟨rfl, rfl⟩ := Prod.mk.inj parts
    have spendable := isSpendable_iff.mpr ⟨own, prepared, faultless⟩
    have total : (tx.operation family account now).value.val =
        tx.toSend account + tx.knownFees.val := by
      rw [val_value_operation faultless, val_amountFrom]
    refine ⟨?_, val_amountFrom, total, fun all => Word.ext ?_⟩
    · obtain ⟨fees, -, known, -⟩ := isPrepared_iff.mp prepared
      rw [operation, knownFees, known, Option.getD_some]
    · exact total.trans (spendable.total_of_all all)

section Sample

/-- An account that holds the largest amount there is. -/
def brimAccount : Account :=
  { Account.blank .elrond "me" 0 .epoch with balance := Word.top, spendable := Word.top }

/-- A prepared transaction with fees of five units. -/
def brimTransaction (amount : Amount) : Transaction :=
  let tx : Transaction := { Transaction.draft .elrond with
    recipient := String.ofList (Bech32.opening ++ List.replicate 58 'q')
    amount := amount, fees := some 5 }
  { tx with feeQuote := some ⟨"1", 1, 5, tx.basis⟩ }

/-- The last unit may be spent; with one more the sum would be out of range, and it is refused. -/
theorem builds_what_is_spendable_of_brim :
    (∃ payload operation, (brimTransaction (Word.top.subSat 5)).build .elrond brimAccount .epoch =
        .ok (payload, operation) ∧ operation.value = Word.top) ∧
      ¬∃ payload operation, (brimTransaction (Word.top.subSat 4)).build .elrond brimAccount .epoch =
        .ok (payload, operation) := by
  constructor
  · obtain ⟨accepts, values⟩ :=
      builds_what_is_spendable (brimTransaction (Word.top.subSat 5)) .elrond brimAccount .epoch
    have spendable : (brimTransaction (Word.top.subSat 5)).IsSpendable .elrond brimAccount := {
      own := rfl
      prepared := by decide +kernel
      named := by decide +kernel
      valid := by decide +kernel
      other := by decide +kernel
      positive := by decide +kernel
      covered := by decide +kernel }
    obtain ⟨payload, operation, built⟩ := accepts.mpr spendable
    obtain ⟨fee, -, value, -⟩ := values payload operation built
    refine ⟨payload, operation, built, Word.ext ?_⟩
    rw [value, ← Option.some.inj fee]
    decide +kernel
  · rw [(builds_what_is_spendable (brimTransaction (Word.top.subSat 4)) .elrond brimAccount
      .epoch).1]
    intro spendable
    have covered := spendable.covered
    revert covered
    decide +kernel

end Sample

end WalletSync.Transaction
