import WalletSync.Bridge
import WalletSync.Payment.Error

/-!
Handing a signed operation to its chain. Nothing is handed in whose signature was not made for it.
-/

namespace WalletSync

def Operation.confirmedBy (op : Operation) (confirmation : Confirmation) : Operation :=
  { op with
    blockHeight := some confirmation.blockHeight
    blockHash := some confirmation.blockHash }

variable {m : Type → Type} [Monad m]

/-- Hands in a signed operation once. The operation that comes back has the hash of the
transaction and, if the chain knows it already, its block. -/
def Bridge.broadcast (bridge : Bridge m) (signed : SignedOperation) :
    ExceptT BroadcastError m Operation := do
  if signed.family ≠ bridge.family then throw (.familyMismatch signed.family bridge.family)
  if !signed.verify then throw .signatureMismatch
  let hash ← (bridge.api.submit signed).adapt .network
  if hash = "" then throw .missingHash
  let operation := signed.operation.withHash hash
  match ← ExceptT.mk (.ok <$> (bridge.api.confirmation hash).run) with
  | .ok (some confirmation) => return operation.confirmedBy confirmation
  | _ => return operation

end WalletSync
