import WalletSync.Amount
import WalletSync.Json.Reader
import WalletSync.Moment.Basic

/-!
What a chain tells about itself and about its transactions.
-/

namespace WalletSync

open Json

structure NetworkConfig where
  chainId : String
  gasPrice : Amount
  gasLimit : Count
  denomination : Word 32
deriving DecidableEq

namespace NetworkConfig

def toJson (config : NetworkConfig) : Json :=
  .object
    [("chain_id", .string config.chainId), ("gas_price", config.gasPrice.toJson),
     ("gas_limit", word config.gasLimit), ("denomination", word config.denomination)]

def ofJson? (json : Json) : Option NetworkConfig := do
  match ← record? ["chain_id", "gas_price", "gas_limit", "denomination"] 4 json with
  | [some chainId, some gasPrice, some gasLimit, some denomination] =>
    return {
      chainId := ← string? chainId, gasPrice := ← Amount.ofJson? gasPrice
      gasLimit := ← word? gasLimit, denomination := ← word? denomination }
  | _ => none

def read? (text : String) : Option NetworkConfig := do ofJson? (← Json.read? text)

end NetworkConfig

inductive EntryStatus where
  | success
  | pending
  | fail
  | invalid
  | unknown
  | other
deriving DecidableEq

namespace EntryStatus

def all : List EntryStatus := [.success, .pending, .fail, .invalid, .unknown, .other]

def name : EntryStatus → String
  | .success => "success"
  | .pending => "pending"
  | .fail => "fail"
  | .invalid => "invalid"
  | .unknown => "unknown"
  | .other => "other"

def ofName? (name : String) : Option EntryStatus := all.find? (·.name == name)

/-- The transaction had no effect beside its fee. -/
def isFailure : EntryStatus → Bool
  | .fail | .invalid | .unknown => true
  | _ => false

end EntryStatus

structure ChainEntry where
  hash : String
  sender : String
  receiver : Option String
  value : Amount
  fee : Amount
  timestamp : Moment
  blockHeight : Option Count
  blockHash : Option String
  nonce : Count
  status : EntryStatus
deriving DecidableEq

def ChainEntry.involves (entry : ChainEntry) (address : String) : Bool :=
  entry.sender = address || entry.receiver = some address

structure Confirmation where
  blockHeight : Count
  blockHash : String
deriving DecidableEq

end WalletSync
