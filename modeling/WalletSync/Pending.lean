import WalletSync.Account.Basic

/-!
Pending operations: those that were sent from here and that the chain has not settled yet.
-/

namespace WalletSync

/-- The sequence number of the next transaction: what the chain expects, but beyond every number
that a pending operation of the account uses. -/
def Account.nextSequence (account : Account) : Count :=
  (account.pending.filterMap (·.usedSequence? account.address)).foldl
    (fun next used => max next used.succSat) account.remoteSequence

namespace Pending

/-- The pending operations with one more in front, instead of any of the same id. -/
def add (op : Operation) (pending : List Operation) : List Operation :=
  op :: pending.filter fun other => other.id ≠ op.id

/-- Some settled operation has the id, or the hash of a transaction that has one. -/
def isSeen (settled : List Operation) (op : Operation) : Bool :=
  settled.any fun other => other.id = op.id || (other.hash ≠ "" && other.hash = op.hash)

/-- The sequence number is used up: the chain expects a later one, or a settled operation that the
address sent has it or a later one. -/
def isSuperseded (settled : List Operation) (address : String) (remote : Count)
    (op : Operation) : Bool :=
  op.isSentBy address && op.sequence.any fun n =>
    n < remote || settled.any fun other =>
      (other.usedSequence? address).any fun used => n ≤ used

/-- The pending operations that settled ones leave open. -/
def reconcile (pending settled : List Operation) (address : String) (remote : Count) :
    List Operation :=
  pending.filter fun op => !isSeen settled op && !isSuperseded settled address remote op

end Pending

/-- The account with one more pending operation, which has to have a hash. -/
def Account.withPending? (account : Account) (op : Operation) : Option Account :=
  if op.hash = "" then none else some { account with pending := Pending.add op account.pending }

end WalletSync
