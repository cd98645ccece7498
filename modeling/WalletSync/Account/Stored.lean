import WalletSync.Account.Basic

/-!
Accounts as they are kept by a wallet: amounts are texts, which are only looked at when the account
is restored. Restoring reports the first fault: resources of another family before any amount, and
amounts in the order in which they are written.
-/

namespace WalletSync

structure StoredOperation where
  id : String
  hash : String
  accountId : String
  direction : Direction
  value : String
  fee : String
  senders : List String
  recipients : List String
  date : Moment
  blockHeight : Option Count
  blockHash : Option String
  sequence : Option Count
  hasFailed : Bool
deriving DecidableEq

structure StoredAccount where
  id : String
  family : Family
  address : String
  index : Word 32
  balance : String
  spendable : String
  blockHeight : Count
  operationsCount : Count
  operations : List StoredOperation
  pending : List StoredOperation
  lastSyncDate : Moment
  resources : Resources
deriving DecidableEq

inductive RestoreError where
  | invalidAmount (field value : String)
  | familyMismatch (account resources : Family)
deriving DecidableEq

def RestoreError.message : RestoreError → String
  | .invalidAmount field value => s!"Invalid amount in {field}: '{value}'"
  | .familyMismatch account resources =>
    s!"Resources for {resources.name} stored on a {account.name} account"

def restoreAmount (field value : String) : Except RestoreError Amount :=
  match Amount.read? value with
  | some amount => .ok amount
  | none => .error (.invalidAmount field value)

def Operation.store (op : Operation) : StoredOperation :=
  { id := op.id, hash := op.hash, accountId := op.accountId, direction := op.direction
    value := op.value.text, fee := op.fee.text, senders := op.senders
    recipients := op.recipients, date := op.date, blockHeight := op.blockHeight
    blockHash := op.blockHash, sequence := op.sequence, hasFailed := op.hasFailed }

def StoredOperation.restore (op : StoredOperation) : Except RestoreError Operation := do
  let value ← restoreAmount "operation.value" op.value
  let fee ← restoreAmount "operation.fee" op.fee
  return {
    id := op.id, hash := op.hash, accountId := op.accountId, direction := op.direction
    value := value, fee := fee, senders := op.senders, recipients := op.recipients
    date := op.date, blockHeight := op.blockHeight, blockHash := op.blockHash
    sequence := op.sequence, hasFailed := op.hasFailed }

def Account.store (account : Account) : StoredAccount :=
  { id := account.id, family := account.family, address := account.address
    index := account.index, balance := account.balance.text
    spendable := account.spendable.text, blockHeight := account.blockHeight
    operationsCount := account.operationsCount
    operations := account.operations.map Operation.store
    pending := account.pending.map Operation.store
    lastSyncDate := account.lastSyncDate, resources := account.resources }

def StoredAccount.restore (account : StoredAccount) : Except RestoreError Account := do
  if account.resources.family ≠ account.family then
    throw (.familyMismatch account.family account.resources.family)
  let balance ← restoreAmount "balance" account.balance
  let spendable ← restoreAmount "spendableBalance" account.spendable
  let operations ← account.operations.mapM StoredOperation.restore
  let pending ← account.pending.mapM StoredOperation.restore
  return {
    id := account.id, family := account.family, address := account.address
    index := account.index, balance := balance, spendable := spendable
    blockHeight := account.blockHeight, operationsCount := account.operationsCount
    operations := operations, pending := pending
    lastSyncDate := account.lastSyncDate, resources := account.resources }

end WalletSync
