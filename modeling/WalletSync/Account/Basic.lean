import WalletSync.Operation

/-!
Accounts: one address of a chain as it was seen at one moment. An account is a value; what changes
it returns a new one.
-/

namespace WalletSync

/-- What chains of a family keep for an account besides its balance. -/
structure Resources where
  family : Family
  /-- The sequence number of the next transaction of the account. -/
  nonce : Count
deriving DecidableEq

structure Account where
  id : String
  family : Family
  address : String
  /-- The place of the address among those that were derived. -/
  index : Word 32
  balance : Amount
  /-- The part of the balance that may be spent. -/
  spendable : Amount
  blockHeight : Count
  operationsCount : Count
  /-- What the chain has reported, the latest first. -/
  operations : List Operation
  /-- What has been sent and is not yet settled, the latest first. -/
  pending : List Operation
  lastSyncDate : Moment
  resources : Resources
deriving DecidableEq

namespace Account

/-- The sequence number that the chain expects next. -/
def remoteSequence (account : Account) : Count := account.resources.nonce

/-- The address has never been used, as far as can be seen. -/
def isEmpty (account : Account) : Bool := account.balance = 0 && account.operationsCount = 0

def lastOperationDate (account : Account) : Option Moment := account.operations.head?.map (·.date)

end Account

end WalletSync
