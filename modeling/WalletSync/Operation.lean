import WalletSync.Amount
import WalletSync.Family
import WalletSync.Moment.Basic

/-!
Operations: what one transaction does to one account. An operation is named by the account, the
hash of the transaction and the direction of the money.
-/

namespace WalletSync

inductive Direction where
  | incoming
  | outgoing
deriving DecidableEq

namespace Direction

def name : Direction → String
  | .incoming => "IN"
  | .outgoing => "OUT"

def ofName? (name : String) : Option Direction :=
  [Direction.incoming, .outgoing].find? (·.name == name)

theorem ofName?_name (direction : Direction) : ofName? direction.name = some direction := by
  cases direction <;> decide

end Direction

def accountId (family : Family) (address : String) : String := s!"js:2:{family.name}:{address}:"

def operationId (accountId hash : String) (direction : Direction) : String :=
  s!"{accountId}-{hash}-{direction.name}"

structure Operation where
  id : String
  /-- The hash of the transaction; empty until the chain has given one. -/
  hash : String
  accountId : String
  direction : Direction
  /-- The change of the balance; what goes out includes the fee. -/
  value : Amount
  fee : Amount
  senders : List String
  recipients : List String
  date : Moment
  /-- The block that the transaction is confirmed in. -/
  blockHeight : Option Count
  blockHash : Option String
  /-- The number of the transaction among those of its sender. -/
  sequence : Option Count
  hasFailed : Bool
deriving DecidableEq

namespace Operation

def isConfirmed (op : Operation) : Bool := op.blockHeight.isSome

/-- The chain will not change its mind about the transaction. -/
def isSettled (op : Operation) : Bool := op.isConfirmed || op.hasFailed

def isSentBy (op : Operation) (address : String) : Bool := op.senders.contains address

/-- The operation with the hash that the chain gave, and the id that follows from it. -/
def withHash (op : Operation) (hash : String) : Operation :=
  { op with id := operationId op.accountId hash op.direction, hash := hash }

/-- The sequence number that an operation uses up for an address it goes out from. -/
def usedSequence? (op : Operation) (address : String) : Option Count :=
  if op.direction = .outgoing && op.isSentBy address then op.sequence else none

end Operation

end WalletSync
