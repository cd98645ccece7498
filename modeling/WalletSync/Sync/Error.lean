import WalletSync.Chain.Api

/-!
Why an account could not be brought up to date.
-/

namespace WalletSync

inductive SyncError where
  | network (call : ChainCall) (cause : NetworkError)
  | derivation (index : Nat) (reason : String)
  | familyMismatch (account bridge : Family)
  | unsupportedFamily (family : Family)
deriving DecidableEq

namespace SyncError

def message : SyncError → String
  | .network call cause => s!"{call.name} failed: {cause.message}"
  | .derivation index reason =>
    s!"Address derivation failed at index {Text.decimal index}: {reason}"
  | .familyMismatch account bridge =>
    s!"Account family {account.name} does not match bridge family {bridge.name}"
  | .unsupportedFamily family => s!"Family {family.name} is not registered"

def isTransient : SyncError → Bool
  | .network _ cause => cause.isTransient
  | _ => false

end SyncError

end WalletSync
