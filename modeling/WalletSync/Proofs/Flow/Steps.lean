import WalletSync.Flow
import WalletSync.Proofs.Payment.Broadcast
import WalletSync.Proofs.Payment.Preparation

/-!
What the steps of a payment amount to when they succeed: which state a flow has to be in, what was
asked of the chain and of the signer, and what is left behind. Why a step fails is not treated
here.
-/

namespace WalletSync

variable {σ : Type} {s t : σ} {account : Account} {now : Moment}

namespace Transaction

/-- A transaction is built exactly when it is of the family, prepared and without fault. -/
theorem build_eq_ok_iff {tx : Transaction} {family : Family} {built : Payload × Operation} :
    tx.build family account now = .ok built ↔
      tx.family = family ∧ tx.isPrepared = true ∧ (tx.status family account).errors = [] ∧
        built = (tx.payload account, tx.operation family account now) := by
  unfold build
  by_cases same : tx.family = family
  · cases prepared : tx.isPrepared with
    | false =>
        simp only [same, ne_eq, not_true_eq_false, if_false, Bool.not_false, if_true,
          Bool.false_eq_true, false_and, and_false, iff_false]
        exact nofun
    | true =>
        simp only [same, ne_eq, not_true_eq_false, if_false, Bool.not_true, Bool.false_eq_true,
          true_and]
        cases (tx.status family account).errors with
        | nil =>
            exact ⟨fun h => ⟨rfl, (Except.ok.inj h).symm⟩, fun h => congrArg Except.ok h.2.symm⟩
        | cons error rest => exact ⟨nofun, nofun⟩
  · simp only [same, ne_eq, not_false_eq_true, if_true, false_and, iff_false]
    exact nofun

/-- The amount is without fault exactly when something is sent, and no more than may be spent. -/
theorem amountError?_eq_none_iff {tx : Transaction} :
    tx.amountError? account = none ↔
      ∃ total, (tx.amountFrom account).add? tx.knownFees = some total ∧
        tx.amountFrom account ≠ 0 ∧ total ≤ account.spendable := by
  unfold amountError?
  dsimp only
  split
  · next total inRange =>
      have enough : ¬account.spendable < total ↔ total ≤ account.spendable := Nat.not_lt
      simp only [inRange, Option.some.injEq, exists_eq_left', ← enough]
      split
      · next zero => simp [zero]
      · next nonzero => split <;> simp [*]
  · next outOfRange => simp [outOfRange]

theorem total_of_no_errors {tx : Transaction} {family : Family}
    (valid : (tx.status family account).errors = []) :
    ∃ total, (tx.amountFrom account).add? tx.knownFees = some total ∧
      tx.amountFrom account ≠ 0 ∧ total ≤ account.spendable := by
  refine amountError?_eq_none_iff.mp (Option.toList_eq_nil_iff.mp ?_)
  exact (List.append_eq_nil_iff.mp valid).2

/-- What an operation without fault takes from the account is the sum, and not the end of the
range. -/
theorem val_value_operation {tx : Transaction} {family : Family}
    (valid : (tx.status family account).errors = []) :
    (tx.operation family account now).value.val =
      (tx.amountFrom account).val + tx.knownFees.val := by
  obtain ⟨total, inRange, -, -⟩ := total_of_no_errors valid
  have sum : total.val = (tx.amountFrom account).val + tx.knownFees.val :=
    Word.ofNat?_eq_some_iff.mp inRange
  have small := total.val_lt
  rw [operation, Word.val_addSat]
  omega

end Transaction

namespace Flow

variable {flow next : Flow (StateM σ)}

theorem prepare_ok_iff :
    outcome (flow.prepare account) s = (.ok next, t) ↔
      ∃ tx prepared, (flow.state = .draft tx ∨ flow.state = .prepared tx) ∧
        outcome (flow.bridge.prepare account tx) s = (.ok prepared, t) ∧
        next = { flow with state := .prepared prepared } := by
  have made (tx : Transaction) :
      outcome ((do
        let prepared ← (flow.bridge.prepare account tx).adapt .payment
        return { flow with state := .prepared prepared }) :
          ExceptT FlowError (StateM σ) (Flow (StateM σ))) s = (.ok next, t) ↔
        ∃ prepared, outcome (flow.bridge.prepare account tx) s = (.ok prepared, t) ∧
          next = { flow with state := .prepared prepared } := by
    simp only [outcome_bind_ok, outcome_adapt_ok, outcome_pure, Prod.mk.injEq, Except.ok.injEq]
    constructor
    · rintro ⟨prepared, _, done, rfl, rfl⟩
      exact ⟨prepared, done, rfl⟩
    · rintro ⟨prepared, done, rfl⟩
      exact ⟨prepared, t, done, rfl, rfl⟩
  unfold Flow.prepare
  split
  · next tx drafted => exact (made tx).trans (by simp [drafted])
  · next tx before => exact (made tx).trans (by simp [before])
  · next noDraft notPrepared =>
      refine ⟨fun h => absurd (congrArg Prod.fst h) nofun, ?_⟩
      rintro ⟨tx, -, drafted | before, -⟩
      · exact absurd drafted (noDraft tx)
      · exact absurd before (notPrepared tx)

theorem sign_ok_iff {signer : Account → Payload → ExceptT SignerError (StateM σ) String} :
    outcome (flow.sign account signer now) s = (.ok next, t) ↔
      ∃ tx signature, flow.state = .prepared tx ∧
        tx.build flow.bridge.family account now =
          .ok (tx.payload account, tx.operation flow.bridge.family account now) ∧
        outcome (signer account (tx.payload account)) s = (.ok signature, t) ∧
        next = { flow with state := .signed (.bind (tx.operation flow.bridge.family account now)
          (tx.payload account) signature) } := by
  unfold Flow.sign
  split
  · next tx prepared =>
      cases built : tx.build flow.bridge.family account now with
      | error cause => simp [prepared, built]
      | ok parts =>
          obtain ⟨-, -, -, rfl⟩ := Transaction.build_eq_ok_iff.mp built
          simp only [prepared, outcome_bind_ok, outcome_adapt_ok, outcome_pure,
            Prod.mk.injEq, Except.ok.injEq, FlowState.prepared.injEq]
          constructor
          · rintro ⟨signature, _, signed, rfl, rfl⟩
            exact ⟨tx, signature, rfl, built, signed, rfl⟩
          · rintro ⟨_, signature, rfl, -, signed, rfl⟩
            exact ⟨signature, t, signed, rfl, rfl⟩
  · next other =>
      refine ⟨fun h => absurd (congrArg Prod.fst h) nofun, ?_⟩
      rintro ⟨tx, -, prepared, -⟩
      exact absurd prepared (other tx)

theorem broadcast_ok_iff {handle after : Handle} :
    outcome (flow.broadcast handle) s = (.ok (next, after), t) ↔
      ∃ signed operation, flow.state = .signed signed ∧
        outcome (flow.bridge.broadcast signed) s = (.ok operation, t) ∧
        handle.record operation = .ok after ∧
        next = { flow with state := .ofOperation operation } := by
  unfold Flow.broadcast
  split
  · next signed bound =>
      simp only [outcome_bind_ok, outcome_adapt_ok, bound]
      constructor
      · rintro ⟨operation, _, sent, h⟩
        cases recorded : handle.record operation with
        | error cause => simp [recorded] at h
        | ok last =>
            simp only [recorded, outcome_pure, Prod.mk.injEq, Except.ok.injEq] at h
            obtain ⟨⟨rfl, rfl⟩, rfl⟩ := h
            exact ⟨signed, operation, rfl, sent, recorded, rfl⟩
      · rintro ⟨_, operation, held, sent, recorded, rfl⟩
        obtain rfl := FlowState.signed.inj held
        exact ⟨operation, t, sent, by simp only [recorded, outcome_pure]⟩
  · next other =>
      refine ⟨fun h => absurd (congrArg Prod.fst h) nofun, ?_⟩
      rintro ⟨signed, -, bound, -⟩
      exact absurd bound (other signed)

/-- What a broadcast records is what was signed, under the hash that the chain gave. -/
theorem broadcast_records {handle after : Handle}
    (h : outcome (flow.broadcast handle) s = (.ok (next, after), t)) :
    ∃ signed operation hash accepted, flow.state = .signed signed ∧
      outcome (flow.bridge.api.submit signed) s = (.ok hash, accepted) ∧
      handle.record operation = .ok after ∧ operation.hash = hash ∧ hash ≠ "" ∧
      operation.id = operationId signed.operation.accountId hash signed.operation.direction ∧
      ∀ address, operation.usedSequence? address = signed.operation.usedSequence? address := by
  obtain ⟨signed, _, bound, sent, recorded, -⟩ := broadcast_ok_iff.mp h
  obtain ⟨-, -, hash, accepted, answer, submitted, given, -, rfl⟩ :=
    Bridge.broadcast_ok_iff.mp sent
  exact ⟨signed, _, hash, accepted, bound, submitted, recorded, SignedOperation.handedIn_hash,
    given, SignedOperation.handedIn_id, SignedOperation.handedIn_usedSequence?⟩

end Flow

end WalletSync
