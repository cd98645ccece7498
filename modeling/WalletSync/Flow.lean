import WalletSync.Payment.Broadcast
import WalletSync.Payment.Build
import WalletSync.Payment.Prepare
import WalletSync.Sync.Handle

/-!
The way of one payment: drafted, prepared, signed, broadcast, and in the end confirmed or failed.
Every step returns the flow after it; an error returns none, so that the flow stays where it was.
-/

namespace WalletSync

inductive FlowState where
  | draft (tx : Transaction)
  | prepared (tx : Transaction)
  | signed (bound : SignedOperation)
  | broadcast (op : Operation)
  | confirmed (op : Operation)
  | failed (op : Operation)
deriving DecidableEq

namespace FlowState

def name : FlowState → String
  | .draft _ => "draft"
  | .prepared _ => "prepared"
  | .signed _ => "signed"
  | .broadcast _ => "broadcast"
  | .confirmed _ => "confirmed"
  | .failed _ => "failed"

/-- Nothing leads out of the state. -/
def isTerminal : FlowState → Bool
  | .confirmed _ | .failed _ => true
  | _ => false

def ofOperation (op : Operation) : FlowState :=
  if op.hasFailed then .failed op else if op.isConfirmed then .confirmed op else .broadcast op

/-- The transaction, until it is handed in. -/
def transaction? : FlowState → Option Transaction
  | .draft tx | .prepared tx => some tx
  | .signed bound => some bound.payload.transaction
  | _ => none

/-- What a synced account says about an operation that was handed in: what has become of it, or
that it has failed when the account knows nothing of it any more. -/
def reconcile (state : FlowState) (synced : Account) : FlowState :=
  match state with
  | .broadcast op =>
    match synced.operations.find? (·.id = op.id) with
    | some found => if found.isSettled then ofOperation found else state
    | none =>
      if synced.pending.any (·.id = op.id) then state else .failed { op with hasFailed := true }
  | _ => state

end FlowState

inductive SignerError where
  | rejected (reason : String)
  | unavailable (reason : String)
deriving DecidableEq

def SignerError.message : SignerError → String
  | .rejected reason => s!"Signing rejected: {reason}"
  | .unavailable reason => s!"Signer unavailable: {reason}"

inductive FlowError where
  | invalidState (action state : String)
  | payment (cause : PaymentError)
  | broadcast (cause : BroadcastError)
  | signer (cause : SignerError)
deriving DecidableEq

def FlowError.message : FlowError → String
  | .invalidState action state => s!"Cannot {action} a transaction in state {state}"
  | .payment cause => cause.message
  | .broadcast cause => cause.message
  | .signer cause => cause.message

structure Flow (m : Type → Type) where
  bridge : Bridge m
  state : FlowState

namespace Flow

variable {m : Type → Type}

def start (bridge : Bridge m) : Flow m := ⟨bridge, .draft (.draft bridge.family)⟩

def misplaced {α : Type} (action : String) (flow : Flow m) : Except FlowError α :=
  .error (.invalidState action flow.state.name)

/-- Changes the transaction, which is a draft again. -/
def update (flow : Flow m) (patch : Patch) : Except FlowError (Flow m) :=
  match flow.state.transaction? with
  | some tx => .ok { flow with state := .draft (tx.update patch) }
  | none => flow.misplaced "update"

variable [Monad m]

def prepare (flow : Flow m) (account : Account) : ExceptT FlowError m (Flow m) :=
  match flow.state with
  | .draft tx | .prepared tx => do
    let prepared ← (flow.bridge.prepare account tx).adapt .payment
    return { flow with state := .prepared prepared }
  | _ => ExceptT.mk (pure (flow.misplaced "prepare"))

def sign (flow : Flow m) (account : Account)
    (signer : Account → Payload → ExceptT SignerError m String) (now : Moment) :
    ExceptT FlowError m (Flow m) :=
  match flow.state with
  | .prepared tx => do
    match tx.build flow.bridge.family account now with
    | .error cause => throw (.payment cause)
    | .ok (payload, operation) =>
      let signature ← (signer account payload).adapt .signer
      return { flow with state := .signed (.bind operation payload signature) }
  | _ => ExceptT.mk (pure (flow.misplaced "sign"))

def broadcast (flow : Flow m) (handle : Handle) : ExceptT FlowError m (Flow m × Handle) :=
  match flow.state with
  | .signed signed => do
    let operation ← (flow.bridge.broadcast signed).adapt .broadcast
    match handle.record operation with
    | .error cause => throw (.broadcast cause)
    | .ok handle => return ({ flow with state := .ofOperation operation }, handle)
  | _ => ExceptT.mk (pure (flow.misplaced "broadcast"))

def reconcile (flow : Flow m) (synced : Account) : Flow m :=
  { flow with state := flow.state.reconcile synced }

end Flow

end WalletSync
