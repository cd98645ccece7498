import WalletSync.Payment.Error
import WalletSync.Registry
import WalletSync.Sync.Refresh

/-!
Handles: the current form of an account, which is replaced when something is sent and when a sync
ends. A sync takes a while, so what is sent meanwhile has to be carried over into its result.
-/

namespace WalletSync

structure Handle where
  current : Account
  /-- How often the account has been replaced. -/
  revision : Nat := 0
deriving DecidableEq

namespace Handle

def record (handle : Handle) (op : Operation) : Except BroadcastError Handle :=
  match handle.current.withPending? op with
  | some account => .ok ⟨account, handle.revision + 1⟩
  | none => .error .missingHash

/-- The synced account with the operations in front that were recorded since its base was read. -/
def carryPending (latest base synced : Account) : Account :=
  { synced with
    pending :=
      (latest.pending.filter fun op => base.pending.all fun known => known.id ≠ op.id)
        ++ synced.pending }

/-- Puts the result of a sync in place that began with `base`. -/
def publish (latest base : Handle) (synced : Account) : Handle :=
  { current :=
      if latest.revision = base.revision then synced
      else carryPending latest.current base.current synced
    revision := latest.revision + 1 }

end Handle

structure Slot (m : Type → Type) where
  load : m Handle
  store : Handle → m Unit

namespace Registry

variable {m : Type → Type} [Monad m]

/-- Brings the account of a slot up to date. An error leaves the slot as it is. -/
def sync (registry : Registry m) (slot : Slot m) (now : Moment) : ExceptT SyncError m Account := do
  let base ← slot.load
  match registry.get? base.current.family with
  | none => throw (.unsupportedFamily base.current.family)
  | some bridge =>
    let synced ← bridge.sync base.current now
    let latest ← slot.load
    let published := latest.publish base synced
    slot.store published
    return published.current

def syncMany (registry : Registry m) (slots : List (Slot m)) (now : Moment) :
    m (List (Except SyncError Account)) :=
  slots.mapM fun slot => (registry.sync slot now).run

end Registry

end WalletSync
