import WalletSync.Json.Reader
import WalletSync.Json.Writer
import WalletSync.Transaction.Basic

/-!
The JSON form of transactions. Amounts are checked while they are read.
-/

namespace WalletSync

open Json

def Mode.ofJson? (json : Json) : Option Mode := do ofName? (← json.choice?)

def Mode.toJson (mode : Mode) : Json := .string mode.name

namespace FeeBasis

def toJson (basis : FeeBasis) : Json :=
  .object
    [("recipient", .string basis.recipient), ("mode", basis.mode.toJson),
     ("dataLen", word basis.dataLength)]

def ofJson? (json : Json) : Option FeeBasis := do
  match ← record? ["recipient", "mode", "dataLen"] 3 json with
  | [some recipient, some mode, some length] =>
    return {
      recipient := ← string? recipient, mode := ← Mode.ofJson? mode
      dataLength := ← word? length }
  | _ => none

end FeeBasis

namespace FeeQuote

def toJson (quote : FeeQuote) : Json :=
  .object
    [("chainId", .string quote.chainId), ("gasPrice", quote.gasPrice.toJson),
     ("gasLimit", word quote.gasLimit), ("basis", quote.basis.toJson)]

def ofJson? (json : Json) : Option FeeQuote := do
  match ← record? ["chainId", "gasPrice", "gasLimit", "basis"] 4 json with
  | [some chainId, some gasPrice, some gasLimit, some basis] =>
    return {
      chainId := ← string? chainId, gasPrice := ← Amount.ofJson? gasPrice
      gasLimit := ← word? gasLimit, basis := ← FeeBasis.ofJson? basis }
  | _ => none

end FeeQuote

namespace Transaction

def fieldNames : List String :=
  ["family", "mode", "amount", "recipient", "fees", "useAllAmount", "data", "feeQuote"]

def toJson (tx : Transaction) : Json :=
  .object
    [("family", tx.family.toJson), ("mode", tx.mode.toJson), ("amount", tx.amount.toJson),
     ("recipient", .string tx.recipient), ("fees", ofOption Amount.toJson tx.fees),
     ("useAllAmount", .bool tx.useAllAmount), ("data", ofOption .string tx.data),
     ("feeQuote", ofOption FeeQuote.toJson tx.feeQuote)]

/-- A transaction may lack its data and its quote, but not its fees, which may be `null`. -/
def ofJson? (json : Json) : Option Transaction := do
  match ← record? fieldNames 8 json with
  | [some family, some mode, some amount, some recipient, some fees, some useAllAmount, data,
      feeQuote] =>
    return {
      family := ← Family.ofJson? family, mode := ← Mode.ofJson? mode
      amount := ← Amount.ofJson? amount, recipient := ← string? recipient
      fees := ← nullable? Amount.ofJson? fees, useAllAmount := ← bool? useAllAmount
      data := ← optional? string? data, feeQuote := ← optional? FeeQuote.ofJson? feeQuote }
  | _ => none

def read? (text : String) : Option Transaction := do ofJson? (← Json.read? text)

def text (tx : Transaction) : String := tx.toJson.text

end Transaction

end WalletSync
