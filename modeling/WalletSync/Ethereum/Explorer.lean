import WalletSync.Chain.Entry
import WalletSync.Family.Address
import WalletSync.Network.Client

/-!
An explorer: a web server that lists the transactions of an address and finds the block of a
moment.
-/

namespace WalletSync.Ethereum

open Json Text

inductive ExplorerQuery where
  /-- The transactions of an address from a block on, the latest first. -/
  | transactions (address : String) (startBlock : Count)
  /-- The first block at or after a moment in seconds. -/
  | blockAt (seconds : Nat)
deriving DecidableEq

def ExplorerQuery.url (query : ExplorerQuery) (explorer : String) : String :=
  let separator := if explorer.toList.contains '?' then "&" else "?"
  let text :=
    match query with
    | .transactions address startBlock =>
      s!"module=account&action=txlist&address={address}"
        ++ s!"&startblock={decimal startBlock.val}&sort=desc"
    | .blockAt seconds =>
      s!"module=block&action=getblocknobytime&timestamp={decimal seconds}&closest=after"
  s!"{explorer}{separator}{text}"

structure ExplorerReply where
  /-- Anything but `1` says that there is no result. -/
  status : String
  message : String
  result : Json

def ExplorerReply.ofJson? (json : Json) : Option ExplorerReply := do
  match ← record? ["status", "message", "result"] 3 json with
  | [some status, message, some result] =>
    if result.isReadable then
      return {
        status := ← string? status, message := ← absentOr? "" string? message
        result := result }
    else none
  | _ => none

/-- One transaction in a list of them. Everything is text; what is missing is empty. -/
structure ExplorerEntry where
  hash : String
  blockNumber : String
  blockHash : String
  timeStamp : String
  sender : String
  receiver : String
  value : String
  gasUsed : String
  gasPrice : String
  nonce : String
  isError : String
  receiptStatus : String

def ExplorerEntry.ofJson? (json : Json) : Option ExplorerEntry := do
  let names :=
    ["hash", "blockNumber", "blockHash", "timeStamp", "from", "to", "value", "gasUsed", "gasPrice",
     "nonce", "isError", "txreceipt_status"]
  let text := absentOr? "" string?
  match ← innerRecord? names 7 json with
  | [some hash, blockNumber, blockHash, some timeStamp, some sender, receiver, some value, gasUsed,
      gasPrice, nonce, isError, receiptStatus] =>
    return {
      hash := ← string? hash, blockNumber := ← text blockNumber, blockHash := ← text blockHash
      timeStamp := ← string? timeStamp, sender := ← string? sender, receiver := ← text receiver
      value := ← string? value, gasUsed := ← text gasUsed, gasPrice := ← text gasPrice
      nonce := ← text nonce, isError := ← text isError, receiptStatus := ← text receiptStatus }
  | _ => none

/-- A natural number of 64 bits, which may have a plus sign in front. -/
def count? (text : String) : Option Count := do
  let cs :=
    match text.toList with
    | '+' :: rest => rest
    | cs => cs
  Word.ofNat? (← number? cs)

/-- The number in a field of an answer from `url`, zero when it is empty. -/
def countIn (url field value : String) : Except NetworkError Count :=
  if value = "" then .ok 0
  else
    match count? value with
    | some n => .ok n
    | none => .error (.invalidResponse url (.notInteger field value))

def amountIn (url field value : String) : Except NetworkError Amount :=
  if value = "" then .ok 0
  else
    match Amount.read? value with
    | some amount => .ok amount
    | none => .error (.invalidResponse url (.notDecimal field value))

def ExplorerEntry.toEntry (entry : ExplorerEntry) (url : String) :
    Except NetworkError ChainEntry := do
  let seconds ← countIn url "timeStamp" entry.timeStamp
  match Moment.ofSeconds? seconds.val with
  | none => throw (.invalidResponse url (.timestampOutOfRange seconds.val))
  | some timestamp =>
    let block ← countIn url "blockNumber" entry.blockNumber
    let isInBlock := block ≠ 0 && entry.blockHash ≠ ""
    let value ← amountIn url "value" entry.value
    let gasUsed ← amountIn url "gasUsed" entry.gasUsed
    let gasPrice ← amountIn url "gasPrice" entry.gasPrice
    let nonce ← countIn url "nonce" entry.nonce
    return {
      hash := entry.hash
      sender := HexAddress.normalize entry.sender
      receiver :=
        if entry.receiver = "" then none else some (HexAddress.normalize entry.receiver)
      value := value
      fee := gasUsed.mulSat gasPrice
      timestamp := timestamp
      blockHeight := if isInBlock then some block else none
      blockHash := if isInBlock then some entry.blockHash else none
      nonce := nonce
      status :=
        if !isInBlock then .pending
        else if entry.isError = "1" || entry.receiptStatus = "0" then .fail
        else .success }

variable {m : Type → Type} [Monad m]

/-- The first block that may have news since a moment; the head of the chain when the explorer
knows of no block so late. -/
def startBlock (ask : ExplorerQuery → ExceptT NetworkError m ExplorerReply)
    (height : ExceptT NetworkError m Count) (explorer : String) :
    Option Moment → ExceptT NetworkError m Count
  | none => return 0
  | some since => do
    let query := ExplorerQuery.blockAt since.second.toNat
    let reply ← ask query
    if reply.status ≠ "1" then height
    else
      let block :=
        match reply.result with
        | .string text => count? text
        | .number (.natural n) => Word.ofNat? n
        | _ => none
      match block with
      | some block => return block
      | none =>
        throw (.invalidResponse (query.url explorer) (.blockNotNumeric reply.result.sorted.text))

def entriesOf (url : String) (reply : ExplorerReply) : Except NetworkError (List ChainEntry) :=
  if reply.status ≠ "1" then
    if "No transactions found".toList.isPrefixOf reply.message.toList then .ok []
    else
      let detail := (string? reply.result).getD reply.message
      .error (.invalidResponse url (.explorer detail))
  else
    match listOf? ExplorerEntry.ofJson? reply.result with
    | some entries => entries.mapM (·.toEntry url)
    | none => .error (.invalidResponse url .undecodable)

/-- The transactions of an address from the second of a moment on. -/
def history (ask : ExplorerQuery → ExceptT NetworkError m ExplorerReply)
    (height : ExceptT NetworkError m Count) (explorer address : String)
    (since : Option Moment) : ExceptT NetworkError m (List ChainEntry) := do
  let block ← startBlock ask height explorer since
  let query := ExplorerQuery.transactions address block
  let reply ← ask query
  let entries ← ExceptT.mk (pure (entriesOf (query.url explorer) reply))
  return entries.filter fun entry => since.all fun since => since.second ≤ entry.timestamp.second

end WalletSync.Ethereum
