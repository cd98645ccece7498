import WalletSync.Chain.Memory
import WalletSync.Proofs.Sync.Outcome

/-!
How a chain in memory answers: a question changes nothing, and it is answered from what the chain
holds unless that call has been made to fail.
-/

namespace WalletSync.MemoryChain

/-- The bridge of a family to a chain in memory. -/
def bridge (family : Family) (limits : ScanLimits) : Bridge (StateM MemoryChain) :=
  ⟨family, api, limits⟩

/-- What the chain has to say about an address. -/
def report (chain : MemoryChain) (address : String) (since : Option Moment) : ChainReport :=
  { balance := (chain.account address).1, sequence := (chain.account address).2
    blockHeight := chain.blockHeight, entries := chain.entriesOf address since }

/-- The error of the first call that fails of those that a sync makes. -/
def syncFailure? (chain : MemoryChain) : Option SyncError :=
  [ChainCall.balance, .sequence, .blockHeight, .history].findSome? fun call =>
    (chain.failures.lookup call).map (.network call)

theorem answer_leaves {α : Type} (call : ChainCall) (f : MemoryChain → Except NetworkError α)
    (chain : MemoryChain) : (outcome (answer call f) chain).2 = chain := by
  unfold outcome answer
  dsimp only [ExceptT.run_mk, StateT.run]
  split <;> rfl

/-- A question that the chain can answer, and what is done with the answer. -/
theorem outcome_ask {α β : Type} (call : ChainCall) (f : MemoryChain → α)
    (next : α → ExceptT SyncError (StateM MemoryChain) β) (chain : MemoryChain) :
    outcome ((answer call fun chain => .ok (f chain)).adapt (.network call) >>= next) chain =
      match chain.failures.lookup call with
      | some error => (.error (.network call error), chain)
      | none => outcome (next (f chain)) chain := by
  have asked : outcome (answer call fun chain => .ok (f chain)) chain =
      match chain.failures.lookup call with
      | some error => (.error error, chain)
      | none => (.ok (f chain), chain) := rfl
  rw [outcome_bind, outcome_adapt, asked]
  cases chain.failures.lookup call <;> rfl

theorem outcome_fetch (chain : MemoryChain) (address : String) (since : Option Moment) :
    outcome (ChainReport.fetch api address since) chain =
      (match chain.syncFailure? with
        | some error => .error error
        | none => .ok (chain.report address since), chain) := by
  unfold ChainReport.fetch api
  simp only [outcome_ask, outcome_pure, syncFailure?, List.findSome?_cons, List.findSome?_nil]
  cases chain.failures.lookup .balance <;> cases chain.failures.lookup .sequence <;>
    cases chain.failures.lookup .blockHeight <;> cases chain.failures.lookup .history <;> rfl

variable {family : Family} {limits : ScanLimits} {account synced : Account} {now : Moment}
  {chain next : MemoryChain} {result : Except SyncError Account}

/-- A sync of an account of the family succeeds unless one of its calls fails. -/
theorem outcome_sync (same : account.family = family) :
    outcome ((bridge family limits).sync account now) chain =
      (match chain.syncFailure? with
        | some error => .error error
        | none => .ok (account.refresh
            (chain.report account.address (History.cursor account.operations)) now), chain) := by
  unfold Bridge.sync bridge
  simp only [same, ne_eq, not_true_eq_false, if_false, outcome_bind, outcome_fetch]
  cases chain.syncFailure? <;> rfl

/-- A sync leaves the chain as it is. -/
theorem sync_keeps_chain
    (h : outcome ((bridge family limits).sync account now) chain = (result, next)) :
    next = chain := by
  by_cases same : account.family = family
  · rw [outcome_sync same] at h
    exact (Prod.mk.inj h).2.symm
  · have refused : outcome ((bridge family limits).sync account now) chain =
        (.error (.familyMismatch account.family family), chain) := by
      unfold Bridge.sync bridge
      simp [same]
    rw [refused] at h
    exact (Prod.mk.inj h).2.symm

theorem sync_ok
    (h : outcome ((bridge family limits).sync account now) chain = (.ok synced, next)) :
    account.family = family ∧ chain.syncFailure? = none ∧ synced = account.refresh
      (chain.report account.address (History.cursor account.operations)) now := by
  have same : account.family = family := (Bridge.sync_ok_iff.mp h).1
  rw [outcome_sync same] at h
  cases fails : chain.syncFailure? with
  | some error => simp [fails] at h
  | none =>
      rw [fails] at h
      exact ⟨same, rfl, (Except.ok.inj (Prod.mk.inj h).1).symm⟩

end WalletSync.MemoryChain
