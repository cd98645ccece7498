import WalletSync.Bridge
import WalletSync.Family.Gas
import WalletSync.Payment.Error

/-!
Preparing a transaction: fees are estimated under the terms of the network, unless those that the
transaction has are still in force.
-/

namespace WalletSync

namespace Transaction

def quoteUnder (tx : Transaction) (family : Family) (config : NetworkConfig) : FeeQuote :=
  { chainId := config.chainId, gasPrice := config.gasPrice
    gasLimit := family.gasLimit config tx, basis := tx.basis }

def estimated (tx : Transaction) (family : Family) (config : NetworkConfig) : Transaction :=
  { tx with
    fees := some (family.estimateFees config tx)
    feeQuote := some (tx.quoteUnder family config) }

/-- When all is to be sent, what may be spent less the fees as the amount. -/
def withAllOf (tx : Transaction) (account : Account) : Transaction :=
  if tx.useAllAmount then { tx with amount := account.spendable.subSat (tx.fees.getD 0) } else tx

end Transaction

namespace Bridge

variable {m : Type → Type} [Monad m]

/-- The transaction with fees for what it is now. -/
def prepare (bridge : Bridge m) (account : Account) (tx : Transaction) :
    ExceptT PaymentError m Transaction := do
  if tx.family ≠ bridge.family then throw (.familyMismatch tx.family bridge.family)
  if tx.isPrepared then
    return tx.withAllOf account
  else
    let config ← bridge.api.networkConfig.adapt (.network .networkConfig)
    return (tx.estimated bridge.family config).withAllOf account

end Bridge

end WalletSync
