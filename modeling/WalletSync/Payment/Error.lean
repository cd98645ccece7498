import WalletSync.Chain.Api

/-!
What stands in the way of a payment.
-/

namespace WalletSync

inductive ValidationError where
  | recipientRequired
  | invalidAddress (recipient : String)
  | sameRecipient
  | amountOutOfRange (amount : Amount)
  | insufficientFunds (needed available : Amount)
deriving DecidableEq

def ValidationError.message : ValidationError → String
  | .recipientRequired => "Recipient is required"
  | .invalidAddress recipient => s!"Invalid recipient address '{recipient}'"
  | .sameRecipient => "Recipient is the sending account"
  | .amountOutOfRange amount => s!"Amount {amount.text} is out of range"
  | .insufficientFunds needed available =>
    s!"Insufficient funds: {needed.text} needed, {available.text} spendable"

inductive PaymentError where
  | network (call : ChainCall) (cause : NetworkError)
  | validation (cause : ValidationError)
  | notPrepared
  | familyMismatch (transaction bridge : Family)
  | unsupportedFamily (family : Family)
deriving DecidableEq

def PaymentError.message : PaymentError → String
  | .network call cause => s!"{call.name} failed: {cause.message}"
  | .validation cause => cause.message
  | .notPrepared => "Transaction is not prepared"
  | .familyMismatch transaction bridge =>
    s!"Transaction of family {transaction.name} handed to bridge {bridge.name}"
  | .unsupportedFamily family => s!"Family {family.name} is not registered"

inductive BroadcastError where
  | network (cause : NetworkError)
  | signatureMismatch
  | missingHash
  | familyMismatch (operation bridge : Family)
deriving DecidableEq

def BroadcastError.message : BroadcastError → String
  | .network cause => s!"Broadcast failed: {cause.message}"
  | .signatureMismatch => "Signature does not match the signed payload"
  | .missingHash => "Broadcast returned no transaction hash"
  | .familyMismatch operation bridge =>
    s!"Signed operation of family {operation.name} sent to bridge {bridge.name}"

end WalletSync
