import WalletSync.Family.Address
import WalletSync.Payment.Error
import WalletSync.Pending

/-!
Checking a transaction against an account, and building from it what is signed together with the
operation that it will be.
-/

namespace WalletSync

structure PaymentStatus where
  errors : List ValidationError
  warnings : List String
  estimatedFees : Amount
  /-- What the recipient gets. -/
  amount : Amount
  totalSpent : Amount
deriving DecidableEq

namespace Transaction

def recipientError? (tx : Transaction) (family : Family) (account : Account) :
    Option ValidationError :=
  if tx.recipient = "" then some .recipientRequired
  else if !family.isValidAddress tx.recipient then some (.invalidAddress tx.recipient)
  else if family.normalizeAddress tx.recipient = account.address then some .sameRecipient
  else none

def knownFees (tx : Transaction) : Amount := tx.fees.getD 0

/-- What the recipient would get. -/
def amountFrom (tx : Transaction) (account : Account) : Amount :=
  if tx.useAllAmount then account.spendable.subSat tx.knownFees else tx.amount

/-- The fault of the amount, if it has one: with the fees it has to be an amount, it may not be
zero, and it may not be more than may be spent. -/
def amountError? (tx : Transaction) (account : Account) : Option ValidationError :=
  let amount := tx.amountFrom account
  match amount.add? tx.knownFees with
  | some total =>
    if amount = 0 then some (.amountOutOfRange amount)
    else if account.spendable < total then some (.insufficientFunds total account.spendable)
    else none
  | none => some (.amountOutOfRange amount)

def status (tx : Transaction) (family : Family) (account : Account) : PaymentStatus :=
  { errors := (tx.recipientError? family account).toList ++ (tx.amountError? account).toList
    warnings := if tx.fees.isNone then ["fees are not estimated yet"] else []
    estimatedFees := tx.knownFees
    amount := tx.amountFrom account
    totalSpent := (tx.amountFrom account).addSat tx.knownFees }

def payload (tx : Transaction) (account : Account) : Payload :=
  { sender := account.address, sequence := account.nextSequence
    transaction := { tx with amount := tx.amountFrom account } }

/-- The operation that the transaction will be; it has no hash yet. -/
def operation (tx : Transaction) (family : Family) (account : Account) (now : Moment) :
    Operation :=
  { id := operationId account.id "" .outgoing
    hash := ""
    accountId := account.id
    direction := .outgoing
    value := (tx.amountFrom account).addSat tx.knownFees
    fee := tx.knownFees
    senders := [account.address]
    recipients := [family.normalizeAddress tx.recipient]
    date := now
    blockHeight := none
    blockHash := none
    sequence := some account.nextSequence
    hasFailed := false }

/-- Payload and operation of a transaction that is prepared and without fault. -/
def build (tx : Transaction) (family : Family) (account : Account) (now : Moment) :
    Except PaymentError (Payload × Operation) := do
  if tx.family ≠ family then throw (.familyMismatch tx.family family)
  if !tx.isPrepared then throw .notPrepared
  match (tx.status family account).errors with
  | error :: _ => throw (.validation error)
  | [] => return (tx.payload account, tx.operation family account now)

end Transaction

end WalletSync
