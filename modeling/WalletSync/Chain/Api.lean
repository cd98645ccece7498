import WalletSync.Chain.Entry
import WalletSync.Network.Error
import WalletSync.Transaction.Signed

/-!
What a wallet can ask of a chain. The answers come from whatever `m` stands for: a chain that is
held in memory, or servers.
-/

namespace WalletSync

inductive ChainCall where
  | balance
  | sequence
  | blockHeight
  | networkConfig
  | history
  | submit
  | confirmation
deriving DecidableEq

namespace ChainCall

def all : List ChainCall :=
  [.balance, .sequence, .blockHeight, .networkConfig, .history, .submit, .confirmation]

def name : ChainCall → String
  | .balance => "get_balance"
  | .sequence => "get_sequence"
  | .blockHeight => "get_block_height"
  | .networkConfig => "get_network_config"
  | .history => "get_history"
  | .submit => "submit"
  | .confirmation => "get_confirmation"

def ofName? (name : String) : Option ChainCall := all.find? (·.name == name)

end ChainCall

structure ChainApi (m : Type → Type) where
  /-- The balance of an address. -/
  balance : String → ExceptT NetworkError m Amount
  /-- The next sequence number of an address. -/
  sequence : String → ExceptT NetworkError m Count
  blockHeight : ExceptT NetworkError m Count
  networkConfig : ExceptT NetworkError m NetworkConfig
  /-- The transactions of an address, from a moment on if one is given. -/
  history : String → Option Moment → ExceptT NetworkError m (List ChainEntry)
  /-- Hands in a signed operation and returns the hash of the transaction. -/
  submit : SignedOperation → ExceptT NetworkError m String
  /-- The block of the transaction of a hash, once it is in one. -/
  confirmation : String → ExceptT NetworkError m (Option Confirmation)

namespace ChainApi

variable {m n : Type → Type}

/-- The same answers in a larger setting, each one after something has been done about the call. -/
def lift [Monad n] (run : {α : Type} → m α → n α) (before : ChainCall → n Unit)
    (api : ChainApi m) : ChainApi n :=
  let call {α : Type} (name : ChainCall) (answer : ExceptT NetworkError m α) :
      ExceptT NetworkError n α :=
    ExceptT.mk do
      before name
      run answer.run
  { balance := fun address => call .balance (api.balance address)
    sequence := fun address => call .sequence (api.sequence address)
    blockHeight := call .blockHeight api.blockHeight
    networkConfig := call .networkConfig api.networkConfig
    history := fun address since => call .history (api.history address since)
    submit := fun signed => call .submit (api.submit signed)
    confirmation := fun hash => call .confirmation (api.confirmation hash) }

end ChainApi

end WalletSync
