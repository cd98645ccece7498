import WalletSync.Chain.Entry
import WalletSync.Operation

/-!
The history of an account: the operations that the chain has reported so far, the latest first.
Operations of one date stay in the order in which they became known, and every id occurs once.
-/

namespace WalletSync.History

/-- Puts an operation in the place of the one of the same id, or behind all others. -/
def put (op : Operation) : List Operation → List Operation
  | [] => [op]
  | known :: rest => if known.id = op.id then op :: rest else known :: put op rest

/-- One operation for every id: its last form, in the place of its first. -/
def distinct (ops : List Operation) : List Operation := ops.foldl (fun done op => put op done) []

/-- The operations with later dates first, those of one date in the order given. -/
def latestFirst (ops : List Operation) : List Operation :=
  ops.mergeSort fun a b => b.date ≤ a.date

/-- The known operations with the new ones worked in. Nothing new leaves the known ones as they
are. -/
def merge (known new : List Operation) : List Operation :=
  if new = [] then known else latestFirst (distinct (known ++ new))

/-- What a transaction is for the account of an address. What an account sends to itself goes
out. -/
def ofEntry (accountId address : String) (entry : ChainEntry) : Operation :=
  let isSender := entry.sender = address
  let direction := if isSender then Direction.outgoing else .incoming
  { id := operationId accountId entry.hash direction
    hash := entry.hash
    accountId := accountId
    direction := direction
    value := if isSender then entry.value.addSat entry.fee else entry.value
    fee := entry.fee
    senders := [entry.sender]
    recipients := entry.receiver.toList
    date := entry.timestamp
    blockHeight := entry.blockHeight
    blockHash := entry.blockHash
    sequence := if isSender then some entry.nonce else none
    hasFailed := entry.status.isFailure }

def oldestWaiting? (ops : List Operation) : Option Moment :=
  ((ops.filter fun op => !op.isSettled).map (·.date)).foldl
    (fun least date => some ((least.map (Moment.earlier · date)).getD date)) none

/-- The date from which on a chain has to be asked for news: that of the oldest operation which
still waits for a block, or else just after the latest one. -/
def cursor (ops : List Operation) : Option Moment :=
  (oldestWaiting? ops).or (ops.head?.map fun op => op.date.nextMilli)

end WalletSync.History
