import WalletSync.Chain.Entry
import WalletSync.Json.Record
import WalletSync.Network.Error

/-!
What the servers of one family answer, and what they are sent.
-/

namespace WalletSync.Elrond

open Json

structure AccountReply where
  balance : Option String
  nonce : Count

def AccountReply.unknown : AccountReply := ⟨none, 0⟩

def AccountReply.ofJson? (json : Json) : Option AccountReply := do
  match ← record? ["balance", "nonce"] 0 json with
  | [balance, nonce] =>
    return { balance := ← optional? string? balance, nonce := ← absentOr? 0 word? nonce }
  | _ => none

/-- A value inside records of one field each. -/
def inside? {α : Type} (names : List String) (value : Json → Option α) (json : Json) : Option α :=
  match names with
  | [] => value json
  | name :: rest => do
    match ← record? [name] 1 json with
    | [some json] => inside? rest value json
    | _ => none

def networkConfigOf? : Json → Option NetworkConfig :=
  inside? ["data", "config"] fun json => do
    let names := ["erd_chain_id", "erd_denomination", "erd_min_gas_limit", "erd_min_gas_price"]
    match ← record? names 4 json with
    | [some chainId, some denomination, some gasLimit, some gasPrice] =>
      let price : Count ← word? gasPrice
      return {
        chainId := ← string? chainId, gasPrice := Word.clamp price.val
        gasLimit := ← word? gasLimit, denomination := ← word? denomination }
    | _ => none

def heightOf? : Json → Option Count := inside? ["data", "status", "erd_nonce"] word?

/-- The block of a transaction, once it is in one that is final. -/
def confirmationOf? : Json → Option (Option Confirmation) :=
  inside? ["data", "transaction"] fun json => do
    match ← record? ["hyperblockNonce", "blockHash"] 0 json with
    | [height, hash] =>
      let height : Count ← absentOr? 0 word? height
      let hash ← optional? string? hash
      return if height = 0 then none else hash.map (⟨height, ·⟩)
    | _ => none

/-- The hash of a transaction that was handed in; empty when there is none. -/
def hashOf? : Json → Option String :=
  inside? ["data"] fun json => do
    match ← record? ["txHash"] 0 json with
    | [hash] => return (← optional? string? hash).getD ""
    | _ => none

structure HistoryReply where
  txHash : String
  sender : String
  receiver : Option String
  value : String
  fee : Option String
  timestamp : Int
  nonce : Count
  status : Option String

/-- An integer of 64 bits with a sign. -/
def signed? : Json → Option Int
  | .number (.natural n) => if n < 1 <<< 63 then some n else none
  | .number (.negative n) => some (-n)
  | _ => none

def HistoryReply.ofJson? (json : Json) : Option HistoryReply := do
  let names :=
    ["txHash", "sender", "receiver", "value", "fee", "timestamp", "nonce", "status"]
  match ← record? names 6 json with
  | [some txHash, some sender, receiver, some value, fee, some timestamp, nonce, status] =>
    return {
      txHash := ← string? txHash, sender := ← string? sender
      receiver := ← optional? string? receiver, value := ← string? value
      fee := ← optional? string? fee, timestamp := ← signed? timestamp
      nonce := ← absentOr? 0 word? nonce, status := ← optional? string? status }
  | _ => none

def statusOf : Option String → EntryStatus
  | none | some "" => .unknown
  | some "success" | some "executed" => .success
  | some "pending" => .pending
  | some "fail" => .fail
  | some "invalid" => .invalid
  | some _ => .other

def amountIn (url field value : String) : Except NetworkError Amount :=
  match Amount.read? value with
  | some amount => .ok amount
  | none => .error (.invalidResponse url (.notDecimal field value))

def HistoryReply.toEntry (reply : HistoryReply) (url : String)
    (confirmation : Option Confirmation) : Except NetworkError ChainEntry := do
  let value ← amountIn url "value" reply.value
  let fee ← (reply.fee.map (amountIn url "fee")).getD (.ok 0)
  match Moment.ofSeconds? reply.timestamp with
  | none => throw (.invalidResponse url (.timestampOutOfRange reply.timestamp))
  | some timestamp =>
    return {
      hash := reply.txHash, sender := reply.sender
      receiver := reply.receiver.filter (· ≠ ""), value := value, fee := fee
      timestamp := timestamp, blockHeight := confirmation.map (·.blockHeight)
      blockHash := confirmation.map (·.blockHash), nonce := reply.nonce
      status := statusOf reply.status }

end WalletSync.Elrond
