import WalletSync.Network.Client

/-!
Remote procedure calls to the nodes of a chain. Several nodes may be configured; a call moves on
to the next one when a node gives no usable answer.

A library brings a call to a node and decodes what comes back. What it makes of a call is left open;
here its failures are put into the classes that all errors of servers have.
-/

namespace WalletSync.Ethereum

inductive RpcRequest where
  | balance (address : List UInt8)
  | transactionCount (address : List UInt8)
  | blockNumber
  | chainId
  | gasPrice
  | sendRaw (transaction : List UInt8)
  | receipt (hash : List UInt8)
deriving DecidableEq

structure Receipt where
  blockNumber : Option Count
  blockHash : Option String
deriving DecidableEq

/-- What a call is answered with. A transaction that is handed in is answered with its hash. -/
abbrev RpcRequest.Result : RpcRequest → Type
  | .balance _ => Amount
  | .transactionCount _ | .blockNumber | .chainId => Count
  | .gasPrice => Word 128
  | .sendRaw _ => String
  | .receipt _ => Option Receipt

inductive RpcFailure where
  /-- The node turns the call down. -/
  | refused (code : Int) (message : String)
  /-- The response has an unsuccessful status. -/
  | status (status : Nat) (body : String)
  /-- There is no response. -/
  | transport
  /-- What came back is no answer to the call. -/
  | other (reason : String)
deriving DecidableEq

structure NodeLibrary (m : Type → Type) where
  /-- What becomes of a call to the node at a URL, if that is known within so many seconds. -/
  ask : String → (request : RpcRequest) → Count → m (Option (Except RpcFailure request.Result))
  /-- What is wrong with a text that is no address. -/
  addressFault : String → String
  /-- What is wrong with a text that is no hash. -/
  hashFault : String → String

def rejectionStatus : Nat := 400

def classify (url : String) : RpcFailure → NetworkError
  | .refused code message =>
    .clientError rejectionStatus s!"{message} (code {Text.signedDecimal code})" url
  | .status status body => .ofStatus status body url
  | .transport => .down url
  | .other reason => .invalidResponse url (.other reason)

variable {m : Type → Type} [Monad m]

def callNode (library : NodeLibrary m) (timeout : Count) (request : RpcRequest) (url : String) :
    ExceptT NetworkError m request.Result :=
  ExceptT.mk do
    match ← library.ask url request timeout with
    | some (.ok result) => return .ok result
    | some (.error failure) => return .error (classify url failure)
    | none => return .error (.down url)

/-- The error is the refusal of a call by a node that works. -/
def isRejection : NetworkError → Bool
  | .clientError .. => true
  | _ => false

/-- Calls node after node until one answers. A refusal is an answer too, unless `passesOn` says
that other nodes are to be tried. -/
def failover {α : Type} (passesOn : Bool) (call : String → ExceptT NetworkError m α)
    (first : String) (others : List String) : ExceptT NetworkError m α :=
  match others with
  | [] => call first
  | second :: rest =>
    ExceptT.mk do
      match ← (call first).run with
      | .ok a => return .ok a
      | .error e =>
        if isRejection e && !passesOn then return .error e
        else (failover passesOn call second rest).run

end WalletSync.Ethereum
