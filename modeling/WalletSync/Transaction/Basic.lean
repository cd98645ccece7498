import WalletSync.Amount
import WalletSync.Family

/-!
Transactions before they are signed. A transaction is prepared when fees have been set for it and
the quote they come from was made for the recipient, the mode and the length of data it has now.
-/

namespace WalletSync

inductive Mode where
  | send
deriving DecidableEq

def Mode.name : Mode → String
  | .send => "send"

def Mode.ofName? (name : String) : Option Mode := if name = "send" then some .send else none

def dataLength (data : Option String) : Count :=
  (data.map fun s => Word.clamp s.utf8ByteSize).getD 0

/-- What the fees of a transaction depend on. -/
structure FeeBasis where
  recipient : String
  mode : Mode
  dataLength : Count
deriving DecidableEq

/-- The terms under which the fees of a transaction were estimated. -/
structure FeeQuote where
  chainId : String
  gasPrice : Amount
  gasLimit : Count
  basis : FeeBasis
deriving DecidableEq

structure Transaction where
  family : Family
  mode : Mode
  amount : Amount
  recipient : String
  fees : Option Amount
  /-- Whatever may be spent is sent, less the fees. -/
  useAllAmount : Bool
  data : Option String
  feeQuote : Option FeeQuote
deriving DecidableEq

namespace Transaction

def draft (family : Family) : Transaction :=
  { family := family, mode := .send, amount := 0, recipient := "", fees := none
    useAllAmount := false, data := none, feeQuote := none }

def basis (tx : Transaction) : FeeBasis := ⟨tx.recipient, tx.mode, dataLength tx.data⟩

/-- Fees are set and were estimated for the transaction as it is. -/
def isPrepared (tx : Transaction) : Bool :=
  tx.fees.isSome && tx.feeQuote.any (·.basis = tx.basis)

end Transaction

/-- Changes to a transaction; a field that is not set leaves the value alone. -/
structure Patch where
  amount : Option Amount := none
  recipient : Option String := none
  useAllAmount : Option Bool := none
  mode : Option Mode := none
  /-- The inner value replaces the data and may be none. -/
  data : Option (Option String) := none
  fees : Option Amount := none
deriving DecidableEq

/-- The transaction with the changes. The quote stays, so that fees remain in force as long as
what they were estimated for does. -/
def Transaction.update (tx : Transaction) (patch : Patch) : Transaction :=
  { tx with
    amount := patch.amount.getD tx.amount
    recipient := patch.recipient.getD tx.recipient
    useAllAmount := patch.useAllAmount.getD tx.useAllAmount
    mode := patch.mode.getD tx.mode
    data := patch.data.getD tx.data
    fees := patch.fees.or tx.fees }

end WalletSync
