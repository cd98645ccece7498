import WalletSync.Digest.Sha256
import WalletSync.Operation
import WalletSync.Transaction.Json

/-!
Signed operations. A digest ties a signature to the payload that was signed and to the operation
that the payload was built with, so that neither can be changed afterwards.
-/

namespace WalletSync

/-- What is handed to a signer. -/
structure Payload where
  sender : String
  sequence : Count
  transaction : Transaction
deriving DecidableEq

structure SignedOperation where
  operation : Operation
  payload : Payload
  signature : String
  payloadDigest : String
  expirationDate : Option Moment
deriving DecidableEq

namespace Payload

def toJson (payload : Payload) : Json :=
  .object
    [("sender", .string payload.sender), ("sequence", .word payload.sequence),
     ("transaction", payload.transaction.toJson)]

def ofJson? (json : Json) : Option Payload := do
  match ← Json.record? ["sender", "sequence", "transaction"] 3 json with
  | [some sender, some sequence, some transaction] =>
    return {
      sender := ← Json.string? sender, sequence := ← Json.word? sequence
      transaction := ← Transaction.ofJson? transaction }
  | _ => none

end Payload

/-- Everything that a digest protects, in one text. -/
def canonicalJson (payload : Payload) (operation : Operation) : Json :=
  .object
    [("payload", payload.toJson), ("value", operation.value.toJson),
     ("fee", operation.fee.toJson), ("senders", .array (operation.senders.map .string)),
     ("recipients", .array (operation.recipients.map .string)),
     ("sequence", Json.ofOption Json.word operation.sequence)]

def payloadDigest (payload : Payload) (operation : Operation) : String :=
  Sha256.hexDigest (canonicalJson payload operation).text

namespace SignedOperation

/-- Ties a signature to a payload and its operation. -/
def bind (operation : Operation) (payload : Payload) (signature : String) : SignedOperation :=
  { operation := operation, payload := payload, signature := signature
    payloadDigest := WalletSync.payloadDigest payload operation, expirationDate := none }

def withExpiration (signed : SignedOperation) (date : Moment) : SignedOperation :=
  { signed with expirationDate := some date }

def family (signed : SignedOperation) : Family := signed.payload.transaction.family

/-- There is a signature, and payload and operation are those it was made for. -/
def verify (signed : SignedOperation) : Bool :=
  signed.signature ≠ ""
    && WalletSync.payloadDigest signed.payload signed.operation = signed.payloadDigest

end SignedOperation

end WalletSync
