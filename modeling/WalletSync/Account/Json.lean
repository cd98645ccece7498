import WalletSync.Account.Stored
import WalletSync.Json.Reader
import WalletSync.Json.Writer
import WalletSync.Moment.Text

/-!
The JSON form of stored accounts and operations.
-/

namespace WalletSync

open Json

def Moment.ofJson? (json : Json) : Option Moment := do Moment.read? (← json.string?).toList

def Moment.toJson (m : Moment) : Json := .string m.text

def Direction.ofJson? (json : Json) : Option Direction := do ofName? (← json.choice?)

def Direction.toJson (direction : Direction) : Json := .string direction.name

namespace Resources

def toJson (resources : Resources) : Json :=
  .object [("family", resources.family.toJson), ("nonce", word resources.nonce)]

/-- The resources in an object with the family's name in it, or in an array that the name comes
first in. Unlike in other records, nothing beside them may be unreadable, and the family's name is
no alternative but a string. -/
def ofJson? (json : Json) : Option Resources := do
  if !json.isReadable then none
  else
    let items ← record? ["family", "nonce"] 2 json
    match items with
    | [some family, some nonce] =>
      return { family := ← Family.ofName? (← family.string?), nonce := ← word? nonce }
    | _ => none

end Resources

namespace StoredOperation

def fieldNames : List String :=
  ["id", "hash", "accountId", "type", "value", "fee", "senders", "recipients", "date",
   "blockHeight", "blockHash", "transactionSequenceNumber", "hasFailed"]

/-- The fields in order; a missing sequence number is left out. -/
def toJson (op : StoredOperation) : Json :=
  .object <|
    [("id", .string op.id), ("hash", .string op.hash), ("accountId", .string op.accountId),
     ("type", op.direction.toJson), ("value", .string op.value), ("fee", .string op.fee),
     ("senders", .array (op.senders.map .string)),
     ("recipients", .array (op.recipients.map .string)), ("date", op.date.toJson),
     ("blockHeight", ofOption word op.blockHeight),
     ("blockHash", ofOption .string op.blockHash)]
    ++ (op.sequence.map fun n => ("transactionSequenceNumber", word n)).toList
    ++ [("hasFailed", .bool op.hasFailed)]

/-- An operation may lack its block, its sequence number and the sign of failure. -/
def ofJson? (json : Json) : Option StoredOperation := do
  let items ← record? fieldNames 11 json
  match items with
  | [some id, some hash, some accountId, some direction, some value, some fee, some senders,
      some recipients, some date, blockHeight, blockHash, sequence, hasFailed] =>
    return {
      id := ← string? id, hash := ← string? hash, accountId := ← string? accountId
      direction := ← Direction.ofJson? direction, value := ← string? value
      fee := ← string? fee, senders := ← listOf? string? senders
      recipients := ← listOf? string? recipients, date := ← Moment.ofJson? date
      blockHeight := ← optional? word? blockHeight
      blockHash := ← optional? string? blockHash, sequence := ← optional? word? sequence
      hasFailed := ← absentOr? false bool? hasFailed }
  | _ => none

end StoredOperation

namespace StoredAccount

def fieldNames : List String :=
  ["id", "family", "address", "derivationIndex", "balance", "spendableBalance", "blockHeight",
   "operationsCount", "operations", "pendingOperations", "lastSyncDate", "resources"]

def toJson (account : StoredAccount) : Json :=
  .object
    [("id", .string account.id), ("family", account.family.toJson),
     ("address", .string account.address), ("derivationIndex", word account.index),
     ("balance", .string account.balance), ("spendableBalance", .string account.spendable),
     ("blockHeight", word account.blockHeight),
     ("operationsCount", word account.operationsCount),
     ("operations", .array (account.operations.map StoredOperation.toJson)),
     ("pendingOperations", .array (account.pending.map StoredOperation.toJson)),
     ("lastSyncDate", account.lastSyncDate.toJson), ("resources", account.resources.toJson)]

/-- An account may lack its pending operations. -/
def ofJson? (json : Json) : Option StoredAccount := do
  let items ← record? fieldNames 12 json
  match items with
  | [some id, some family, some address, some index, some balance, some spendable,
      some blockHeight, some operationsCount, some operations, pending, some lastSyncDate,
      some resources] =>
    return {
      id := ← string? id, family := ← Family.ofJson? family, address := ← string? address
      index := ← word? index, balance := ← string? balance
      spendable := ← string? spendable, blockHeight := ← word? blockHeight
      operationsCount := ← word? operationsCount
      operations := ← listOf? StoredOperation.ofJson? operations
      pending := ← absentOr? [] (listOf? StoredOperation.ofJson?) pending
      lastSyncDate := ← Moment.ofJson? lastSyncDate
      resources := ← Resources.ofJson? resources }
  | _ => none

def read? (text : String) : Option StoredAccount := do ofJson? (← Json.read? text)

def text (account : StoredAccount) : String := account.toJson.text

end StoredAccount

end WalletSync
