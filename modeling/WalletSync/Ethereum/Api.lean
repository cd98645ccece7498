import WalletSync.Chain.Api
import WalletSync.Decimal.Binary
import WalletSync.Ethereum.Explorer
import WalletSync.Ethereum.Rpc
import WalletSync.Url.Basic

/-!
The answers of a chain that is reached over nodes, for its state, and an explorer, for its history.
-/

namespace WalletSync.Ethereum

open Text

structure Servers where
  /-- The node that is asked first. -/
  node : String
  /-- The nodes that are asked when those before them give no answer. -/
  failovers : List String
  explorer : String
  chainId : Count
  /-- How long one node may take, in seconds. -/
  timeout : Count
  gasPriceMultiplier : Float

def isUrl (text : String) : Bool :=
  match Url.parse text with
  | .ok _ => true
  | .error _ => false

/-- The servers in the settings. The first node has to have a URL; others that have none are left
out. -/
def Servers.ofSettings (settings : EthereumSettings) : Except NetworkError Servers :=
  if isUrl settings.rpcUrl then
    .ok {
      node := settings.rpcUrl, failovers := settings.failoverUrls.filter isUrl
      explorer := settings.explorerUrl, chainId := settings.chainId
      timeout := settings.rpcTimeout
      gasPriceMultiplier := settings.gasPriceMultiplier }
  else .error (.invalidRequest (.invalidEndpoint settings.rpcUrl))

/-- The price times a factor, rounded towards zero, within 128 bits. -/
def scalePrice (price : Nat) (factor : Float) : Word 128 :=
  let scaled := Float.ofNat price * factor
  if scaled.isNaN || scaled ≤ 0 then 0
  else if scaled.isInf then Word.top
  else Word.clamp (Decimal.Binary.ofFloat scaled).floor

def withoutMarks (text : String) : String := String.ofList (go text.toList)
where
  go : List Char → List Char
    | '0' :: 'x' :: rest => go rest
    | cs => cs

def signatureBytes (signature : String) : Except NetworkError (List UInt8) :=
  (bytesOfHex (withoutMarks signature)).mapError fun e => .invalidRequest (.signatureNotHex e)

section Calls

variable {m : Type → Type} [Monad m] (library : NodeLibrary m)

def addressBytes (address : String) : Except NetworkError (List UInt8) :=
  match HexAddress.bytes? address with
  | some bytes => .ok bytes
  | none => .error (.invalidRequest (.invalidAddress address (library.addressFault address)))

def hashBytes (hash : String) : Except NetworkError (List UInt8) :=
  match HexAddress.fixedBytes? 32 hash with
  | some bytes => .ok bytes
  | none => .error (.invalidRequest (.invalidHash hash (library.hashFault hash)))

def call (servers : Servers) (passesOn : Bool) (request : RpcRequest) :
    ExceptT NetworkError m request.Result :=
  failover passesOn (callNode library servers.timeout request) servers.node servers.failovers

/-- The number of the chain, which has to be the one in the settings. -/
def verifyChainId (servers : Servers) : ExceptT NetworkError m Count := do
  let found : Count ← call library servers true .chainId
  if found = servers.chainId then return found
  else throw (.invalidResponse servers.node (.otherChain found.val servers.chainId.val))

/-- The terms of the network: the price of gas is scaled by the factor in the settings. -/
def networkConfig (servers : Servers) : ExceptT NetworkError m NetworkConfig := do
  let chainId ← verifyChainId library servers
  let price : Word 128 ← call library servers true .gasPrice
  return {
    chainId := decimal chainId.val
    gasPrice := Word.clamp (scalePrice price.val servers.gasPriceMultiplier).val
    gasLimit := 21000, denomination := 18 }

def confirmation (servers : Servers) (hash : String) :
    ExceptT NetworkError m (Option Confirmation) := do
  let bytes ← ExceptT.mk (pure (hashBytes library hash))
  let receipt : Option Receipt ← call library servers true (.receipt bytes)
  match receipt with
  | some ⟨some height, some hash⟩ => return some ⟨height, hash⟩
  | _ => return none

end Calls

variable {m : Type → Type} [Monad m]

def ask (client : HttpClient m) (servers : Servers) (query : ExplorerQuery) :
    ExceptT NetworkError m ExplorerReply :=
  client.getJson (query.url servers.explorer) ExplorerReply.ofJson?

def api (client : HttpClient m) (library : NodeLibrary m) (servers : Servers) : ChainApi m where
  balance address := do
    let bytes ← ExceptT.mk (pure (addressBytes library address))
    call library servers true (.balance bytes)
  sequence address := do
    let bytes ← ExceptT.mk (pure (addressBytes library address))
    call library servers true (.transactionCount bytes)
  blockHeight := call library servers true .blockNumber
  networkConfig := networkConfig library servers
  history := history (ask client servers) (call library servers true .blockNumber) servers.explorer
  submit signed := do
    let raw ← ExceptT.mk (pure (signatureBytes signed.signature))
    call library servers false (.sendRaw raw)
  confirmation := confirmation library servers

end WalletSync.Ethereum
