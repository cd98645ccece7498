import WalletSync.Payment.Broadcast
import WalletSync.Proofs.Chain.Memory

/-!
Handing in what was signed: what the chain has to answer for it to succeed, and the operation that
comes back. A chain in memory serves as the instance in which every answer is known.
-/

namespace WalletSync

variable {σ : Type} {s t : σ}

namespace SignedOperation

theorem verify_bind {operation : Operation} {payload : Payload} {signature : String}
    (given : signature ≠ "") : (bind operation payload signature).verify = true := by
  simp [verify, bind, given]

/-- The operation that was handed in, after the chain gave a hash for it and then an answer about
its block. A failure of that answer is none of the broadcast. -/
def handedIn (signed : SignedOperation) (hash : String) :
    Except NetworkError (Option Confirmation) → Operation
  | .ok (some confirmation) => (signed.operation.withHash hash).confirmedBy confirmation
  | _ => signed.operation.withHash hash

variable {signed : SignedOperation} {hash : String}
  {answer : Except NetworkError (Option Confirmation)}

theorem handedIn_hash : (signed.handedIn hash answer).hash = hash := by
  unfold handedIn
  split <;> rfl

theorem handedIn_id : (signed.handedIn hash answer).id =
    operationId signed.operation.accountId hash signed.operation.direction := by
  unfold handedIn
  split <;> rfl

theorem handedIn_usedSequence? (address : String) :
    (signed.handedIn hash answer).usedSequence? address =
      signed.operation.usedSequence? address := by
  unfold handedIn
  split <;> rfl

/-- What is signed before it has a block is confirmed by the answer, or not at all. -/
theorem handedIn_isConfirmed (fresh : signed.operation.blockHeight = none) :
    (signed.handedIn hash answer).isConfirmed = true ↔
      ∃ confirmation, answer = .ok (some confirmation) := by
  have unconfirmed : (signed.operation.withHash hash).isConfirmed = false := by
    simp [Operation.isConfirmed, Operation.withHash, fresh]
  rcases answer with error | _ | confirmation
  · simp [handedIn, unconfirmed]
  · simp [handedIn, unconfirmed]
  · exact ⟨fun _ => ⟨confirmation, rfl⟩, fun _ => rfl⟩

end SignedOperation

/-- What does not verify is refused before anything is asked of the chain. -/
theorem Bridge.broadcast_of_not_verify {m : Type → Type} [Monad m] [LawfulMonad m]
    (bridge : Bridge m) {signed : SignedOperation} (unverified : signed.verify = false) :
    bridge.broadcast signed = throw (if signed.family = bridge.family then .signatureMismatch
      else .familyMismatch signed.family bridge.family) := by
  unfold broadcast
  by_cases same : signed.family = bridge.family
  · simp [same, unverified]
  · simp [same]

/-- A broadcast succeeds exactly when what is signed verifies for the family and the chain gives a
hash for it. -/
theorem Bridge.broadcast_ok_iff {bridge : Bridge (StateM σ)} {signed : SignedOperation}
    {operation : Operation} :
    outcome (bridge.broadcast signed) s = (.ok operation, t) ↔
      signed.family = bridge.family ∧ signed.verify = true ∧
        ∃ hash accepted answer, outcome (bridge.api.submit signed) s = (.ok hash, accepted) ∧
          hash ≠ "" ∧ outcome (bridge.api.confirmation hash) accepted = (answer, t) ∧
          operation = signed.handedIn hash answer := by
  unfold Bridge.broadcast
  by_cases same : signed.family = bridge.family
  · cases signed.verify with
    | false => simp [same]
    | true =>
        simp only [same, ne_eq, not_true_eq_false, if_false, Bool.not_true, Bool.false_eq_true,
          true_and, outcome_bind_ok, outcome_adapt_ok]
        refine exists_congr fun hash => exists_congr fun accepted => ?_
        rw [exists_and_left]
        refine and_congr_right fun _ => ?_
        by_cases empty : hash = ""
        · simp [empty]
        · rw [if_neg empty, outcome_bind, outcome_attempt]
          rcases outcome (bridge.api.confirmation hash) accepted with ⟨answer, left⟩
          have returned : ∀ operation, ((.ok (signed.handedIn hash answer), left) :
              Except BroadcastError Operation × σ) = (.ok operation, t) ↔
              ∃ other, ¬hash = "" ∧ (answer, left) = (other, t) ∧
                operation = signed.handedIn hash other := by
            intro operation
            simp only [empty, not_false_eq_true, true_and, Prod.mk.injEq, Except.ok.injEq]
            exact ⟨fun ⟨value, state⟩ => ⟨answer, ⟨rfl, state⟩, value.symm⟩,
              fun ⟨_, ⟨same, state⟩, value⟩ => ⟨by rw [value, same], state⟩⟩
          rcases answer with _ | _ | confirmation
          · exact returned operation
          · exact returned operation
          · exact returned operation
  · simp [same]

namespace MemoryChain

variable {family : Family} {limits : ScanLimits} {signed : SignedOperation} {chain : MemoryChain}

theorem accept_hash_ne_empty : (chain.accept signed).1 ≠ "" := by
  intro empty
  have chars := congrArg String.toList empty
  simp [accept, toString] at chars

/-- The operation that comes back from a chain in memory: the block is one that it knows by the
hash that it has given. -/
def handedIn (chain : MemoryChain) (signed : SignedOperation) : Operation :=
  let (hash, accepted) := chain.accept signed
  signed.handedIn hash (.ok (accepted.confirmed.lookup hash))

theorem handedIn_hash_ne_empty : (chain.handedIn signed).hash ≠ "" := by
  rw [handedIn, SignedOperation.handedIn_hash]
  exact accept_hash_ne_empty

theorem outcome_submit (signed : SignedOperation) (chain : MemoryChain) :
    outcome (api.submit signed) chain =
      match chain.failures.lookup .submit with
      | some error => (.error error, chain)
      | none =>
        if chain.hasRoom then (.ok (chain.accept signed).1, (chain.accept signed).2)
        else (.error .overflow, chain) := rfl

theorem outcome_confirmation (hash : String) (chain : MemoryChain) :
    outcome (api.confirmation hash) chain =
      match chain.failures.lookup .confirmation with
      | some error => (.error error, chain)
      | none => (.ok (chain.confirmed.lookup hash), chain) := rfl

/-- A chain in memory that has room and on which no call fails accepts what verifies for the
family. -/
theorem outcome_broadcast (same : signed.family = family) (verified : signed.verify = true)
    (calm : chain.failures = []) (room : chain.hasRoom = true) :
    outcome ((bridge family limits).broadcast signed) chain =
      (.ok (chain.handedIn signed), (chain.accept signed).2) := by
  have still : (chain.accept signed).2.failures = [] := calm
  have submitted : outcome (api.submit signed) chain =
      (.ok (chain.accept signed).1, (chain.accept signed).2) := by
    rw [outcome_submit, calm, List.lookup_nil, room, if_pos rfl]
  have asked : outcome (api.confirmation (chain.accept signed).1) (chain.accept signed).2 =
      (.ok ((chain.accept signed).2.confirmed.lookup (chain.accept signed).1),
        (chain.accept signed).2) := by
    rw [outcome_confirmation, still, List.lookup_nil]
  exact Bridge.broadcast_ok_iff.mpr
    ⟨same, verified, _, _, _, submitted, accept_hash_ne_empty, asked, rfl⟩

end MemoryChain

end WalletSync
