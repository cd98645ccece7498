import WalletSync.Chain.Api
import WalletSync.Elrond.Reply
import WalletSync.Network.Client

/-!
The answers of a chain that is reached over two web servers: one that knows accounts and lists of
transactions, and a gateway that knows heights and blocks.
-/

namespace WalletSync.Elrond

def withoutSlashes (url : String) : String :=
  String.ofList (url.toList.reverse.dropWhile (· = '/')).reverse

structure Servers where
  api : String
  gateway : String

def Servers.ofSettings (settings : ElrondSettings) : Servers :=
  let api := withoutSlashes settings.apiUrl
  ⟨api, (settings.gatewayUrl.map withoutSlashes).getD api⟩

/-- The shard whose height is that of the chain. -/
def mainShard : Nat := 4294967295

variable {m : Type → Type} [Monad m]

/-- What is known about an address; nothing when the server has not heard of it. -/
def account (client : HttpClient m) (servers : Servers) (address : String) :
    ExceptT NetworkError m AccountReply :=
  ExceptT.mk do
    let url := s!"{servers.api}/accounts/{address}"
    match ← (client.getJson url AccountReply.ofJson?).run with
    | .error (.clientError 404 ..) => return .ok .unknown
    | result => return result

def confirmation (client : HttpClient m) (servers : Servers) (hash : String) :
    ExceptT NetworkError m (Option Confirmation) :=
  client.getJson s!"{servers.gateway}/transaction/{hash}" confirmationOf?

def historyUrl (servers : Servers) (address : String) (since : Option Moment) : String :=
  let after := (since.map (·.second.toNat)).getD 0
  s!"{servers.api}/transactions?condition=should&after={Text.decimal after}"
    ++ s!"&sender={address}&receiver={address}"

/-- A listed transaction with its block, which is not asked for while it is pending. -/
def complete (client : HttpClient m) (servers : Servers) (url : String) (reply : HistoryReply) :
    ExceptT NetworkError m ChainEntry := do
  let block ←
    if statusOf reply.status = .pending then pure none
    else confirmation client servers reply.txHash
  ExceptT.mk (pure (reply.toEntry url block))

def submission (signed : SignedOperation) : Except NetworkError Json :=
  let tx := signed.payload.transaction
  match tx.feeQuote with
  | none => .error (.invalidRequest .notPrepared)
  | some quote =>
    if quote.gasPrice.val < 1 <<< 64 then
      .ok <| .object <|
        [("nonce", .word signed.payload.sequence), ("value", tx.amount.toJson),
         ("receiver", .string tx.recipient), ("sender", .string signed.payload.sender),
         ("gasPrice", .word quote.gasPrice), ("gasLimit", .word quote.gasLimit)]
        ++ (tx.data.map fun data => ("data", Json.string data)).toList
        ++ [("chainID", .string quote.chainId), ("version", .nat 2), ("options", .nat 1),
          ("signature", .string signed.signature)]
    else .error (.invalidRequest (.gasPriceTooLarge quote.gasPrice))

def api (client : HttpClient m) (servers : Servers) : ChainApi m where
  balance address := do
    match (← account client servers address).balance with
    | some balance => ExceptT.mk (pure (amountIn servers.api "balance" balance))
    | none => return 0
  sequence address := return (← account client servers address).nonce
  blockHeight :=
    client.getJson s!"{servers.gateway}/network/status/{Text.decimal mainShard}" heightOf?
  networkConfig := client.getJson s!"{servers.api}/network/config" networkConfigOf?
  history address since := do
    let url := historyUrl servers address since
    let replies ← client.getJson url (Json.listOf? HistoryReply.ofJson?)
    replies.mapM (complete client servers url)
  submit signed := do
    let body ← ExceptT.mk (pure (submission signed))
    client.postJson s!"{servers.api}/transaction/send" body hashOf?
  confirmation := confirmation client servers

end WalletSync.Elrond
