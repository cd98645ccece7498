import Mathlib.Logic.Relation
import WalletSync.Proofs.Flow.Steps

/-!
One payment under any calls in any order, while other things happen to the chain. A call that ends
with an error leaves the flow as it was, but perhaps not the chain; both go on from there.
-/

namespace WalletSync

variable {σ : Type}

/-- Somebody who signs payloads for accounts. -/
abbrev Signer (σ : Type) := Account → Payload → ExceptT SignerError (StateM σ) String

/-- A call for a signature that was answered with one. -/
structure Signing (σ : Type) where
  account : Account
  signer : Signer σ
  before : σ
  after : σ
  /-- The state that it has led to. -/
  state : FlowState

/-- One payment over time. -/
structure Course (σ : Type) where
  flow : Flow (StateM σ)
  world : σ
  /-- The last signing, unless the payment has been changed after it. -/
  signing : Option (Signing σ) := none

/-- What may happen to the world between two calls, and who may be asked to sign. -/
structure Setting (σ : Type) where
  changes : σ → σ → Prop
  asks : Signer σ → Prop

namespace Course

def update (w : Course σ) (patch : Patch) : Course σ :=
  match w.flow.update patch with
  | .ok flow => { w with flow := flow, signing := none }
  | .error _ => w

def prepare (w : Course σ) (account : Account) : Course σ :=
  match outcome (w.flow.prepare account) w.world with
  | (.ok flow, t) => { w with flow := flow, world := t }
  | (.error _, t) => { w with world := t }

def sign (w : Course σ) (account : Account) (signer : Signer σ) (now : Moment) : Course σ :=
  match outcome (w.flow.sign account signer now) w.world with
  | (.ok flow, t) =>
    { flow := flow, world := t, signing := some ⟨account, signer, w.world, t, flow.state⟩ }
  | (.error _, t) => { w with world := t }

def broadcast (w : Course σ) (handle : Handle) : Course σ :=
  match outcome (w.flow.broadcast handle) w.world with
  | (.ok (flow, _), t) => { w with flow := flow, world := t }
  | (.error _, t) => { w with world := t }

def reconcile (w : Course σ) (synced : Account) : Course σ :=
  { w with flow := w.flow.reconcile synced }

/-- A call, or something else that happens to the world. -/
inductive Step (setting : Setting σ) : Course σ → Course σ → Prop
  | world {w : Course σ} {t : σ} : setting.changes w.world t → Step setting w { w with world := t }
  | update (w : Course σ) (patch : Patch) : Step setting w (w.update patch)
  | prepare (w : Course σ) (account : Account) : Step setting w (w.prepare account)
  | sign (w : Course σ) (account : Account) {signer : Signer σ} (now : Moment) :
      setting.asks signer → Step setting w (w.sign account signer now)
  | broadcast (w : Course σ) (handle : Handle) : Step setting w (w.broadcast handle)
  | reconcile (w : Course σ) (synced : Account) : Step setting w (w.reconcile synced)

end Course

namespace FlowState

variable {state : FlowState} {synced : Account} {op : Operation} {signed : SignedOperation}

theorem transaction?_ofOperation (op : Operation) : (ofOperation op).transaction? = none := by
  unfold ofOperation
  split
  · rfl
  · split <;> rfl

theorem ofOperation_ne_signed (op : Operation) (signed : SignedOperation) :
    ofOperation op ≠ .signed signed := fun same =>
  nomatch (transaction?_ofOperation op).symm.trans (congrArg transaction? same)

theorem ofOperation_cases (op : Operation) :
    ofOperation op = .broadcast op ∨ ofOperation op = .confirmed op ∨
      ofOperation op = .failed op := by
  rw [ofOperation]
  cases op.hasFailed with
  | true => exact .inr (.inr rfl)
  | false =>
      cases op.isConfirmed with
      | true => exact .inr (.inl rfl)
      | false => exact .inl rfl

theorem ofOperation_of_isSettled (settled : op.isSettled = true) :
    ofOperation op = .confirmed op ∨ ofOperation op = .failed op := by
  rw [Operation.isSettled] at settled
  rw [ofOperation]
  cases failed : op.hasFailed with
  | true => exact .inr rfl
  | false =>
      rw [failed, Bool.or_false] at settled
      rw [settled]
      exact .inl rfl

/-- A synced account settles what has been handed in, or changes nothing. -/
theorem reconcile_cases (state : FlowState) (synced : Account) :
    state.reconcile synced = state ∨ ∃ op found, state = .broadcast op ∧ found.id = op.id ∧
      (state.reconcile synced = .confirmed found ∨ state.reconcile synced = .failed found) := by
  unfold reconcile
  split
  · next op =>
      split
      · next found known =>
          have alike : found.id = op.id := by simpa using List.find?_some known
          split
          · next settled => exact .inr ⟨op, found, rfl, alike, ofOperation_of_isSettled settled⟩
          · exact .inl rfl
      · split
        · exact .inl rfl
        · exact .inr ⟨op, { op with hasFailed := true }, rfl, rfl, .inr rfl⟩
  · exact .inl rfl

/-- A synced account changes the state only of what has been handed in. -/
theorem reconcile_eq_or (state : FlowState) (synced : Account) :
    state.reconcile synced = state ∨
      state.transaction? = none ∧ (state.reconcile synced).transaction? = none := by
  rcases reconcile_cases state synced with same | ⟨op, found, rfl, -, result | result⟩
  · exact .inl same
  · exact .inr ⟨rfl, by rw [result]; rfl⟩
  · exact .inr ⟨rfl, by rw [result]; rfl⟩

theorem transaction?_reconcile : (state.reconcile synced).transaction? = state.transaction? := by
  rcases reconcile_eq_or state synced with same | ⟨before, after⟩
  · rw [same]
  · rw [before, after]

theorem reconcile_eq_signed : state.reconcile synced = .signed signed ↔ state = .signed signed := by
  rcases reconcile_eq_or state synced with same | ⟨before, after⟩
  · rw [same]
  · constructor <;> intro held <;> simp [held, transaction?] at before after

end FlowState

end WalletSync
