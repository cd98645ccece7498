import WalletSync.Chain.Api

/-!
A bridge joins the rules of a family to the answers of one of its chains.
-/

namespace WalletSync

structure ScanLimits where
  /-- How many unused addresses in a row end a deep scan. -/
  gapLimit : Word 32
  /-- How many addresses are looked at, at most. -/
  maxAccounts : Word 32
deriving DecidableEq

structure Bridge (m : Type → Type) where
  family : Family
  api : ChainApi m
  limits : ScanLimits

end WalletSync
