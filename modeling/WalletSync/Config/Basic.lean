import WalletSync.Bridge
import WalletSync.Json.Record

/-!
The settings of a wallet. Every setting has a value of its own when it is left out, but for the
addresses of servers.
-/

namespace WalletSync

structure NetworkSettings where
  /-- How long a reading request may take, in milliseconds. -/
  getTimeout : Count := 30000
  /-- How long any other request may take. -/
  requestTimeout : Count := 60000
  userAgent : String := "chain-sync-core/0.1.0"

structure RetrySettings where
  maxAttempts : Word 32 := 3
  /-- The first delay in milliseconds. -/
  baseDelay : Count := 200
  maxDelay : Count := 4000

structure LogSettings where
  level : String := "info"
  asJson : Bool := false

structure ElrondSettings where
  apiUrl : String
  /-- The other address is used when there is none. -/
  gatewayUrl : Option String

structure EthereumSettings where
  rpcUrl : String
  failoverUrls : List String
  explorerUrl : String
  chainId : Count
  /-- How long one server may take, in seconds. -/
  rpcTimeout : Count
  gasPriceMultiplier : Float

structure Config where
  network : NetworkSettings := {}
  retries : RetrySettings := {}
  scan : ScanLimits := ⟨5, 100⟩
  log : LogSettings := {}
  elrond : Option ElrondSettings := none
  ethereum : Option EthereumSettings := none

namespace Config

open Json

/-- A way to take records apart: names, least length of the array form, and the value. -/
abbrev RecordForm := List String → Nat → Json → Option (List (Option Json))

def networkOf? (form : RecordForm) (json : Json) : Option NetworkSettings := do
  match ← form ["get_timeout_ms", "request_timeout_ms", "user_agent"] 0 json with
  | [getTimeout, requestTimeout, userAgent] =>
    return {
      getTimeout := ← absentOr? 30000 word? getTimeout
      requestTimeout := ← absentOr? 60000 word? requestTimeout
      userAgent := ← absentOr? "chain-sync-core/0.1.0" string? userAgent }
  | _ => none

def retriesOf? (form : RecordForm) (json : Json) : Option RetrySettings := do
  match ← form ["max_attempts", "base_delay_ms", "max_delay_ms"] 0 json with
  | [maxAttempts, baseDelay, maxDelay] =>
    return {
      maxAttempts := ← absentOr? 3 word? maxAttempts
      baseDelay := ← absentOr? 200 word? baseDelay
      maxDelay := ← absentOr? 4000 word? maxDelay }
  | _ => none

def scanOf? (form : RecordForm) (json : Json) : Option ScanLimits := do
  match ← form ["gap_limit_deep", "max_accounts"] 0 json with
  | [gapLimit, maxAccounts] =>
    return {
      gapLimit := ← absentOr? 5 word? gapLimit
      maxAccounts := ← absentOr? 100 word? maxAccounts }
  | _ => none

def logOf? (form : RecordForm) (json : Json) : Option LogSettings := do
  match ← form ["log_level", "json_logs"] 0 json with
  | [level, asJson] =>
    return { level := ← absentOr? "info" string? level, asJson := ← absentOr? false bool? asJson }
  | _ => none

def elrondOf? (form : RecordForm) (json : Json) : Option ElrondSettings := do
  match ← form ["api_url", "gateway_url"] 1 json with
  | [some apiUrl, gatewayUrl] =>
    return { apiUrl := ← string? apiUrl, gatewayUrl := ← optional? string? gatewayUrl }
  | _ => none

def ethereumOf? (form : RecordForm) (json : Json) : Option EthereumSettings := do
  let names := ["rpc_url", "failover_urls", "explorer_url", "chain_id", "rpc_timeout_secs",
    "gas_price_multiplier"]
  match ← form names 3 json with
  | [some rpcUrl, failoverUrls, some explorerUrl, chainId, rpcTimeout, multiplier] =>
    return {
      rpcUrl := ← string? rpcUrl
      failoverUrls := ← absentOr? [] (listOf? string?) failoverUrls
      explorerUrl := ← string? explorerUrl
      chainId := ← absentOr? 1 word? chainId
      rpcTimeout := ← absentOr? 10 word? rpcTimeout
      gasPriceMultiplier := ← absentOr? 1 Json.float? multiplier }
  | _ => none

def familiesOf? (form : RecordForm) (json : Json) :
    Option (Option ElrondSettings × Option EthereumSettings) := do
  match ← form ["elrond", "ethereum"] 0 json with
  | [elrond, ethereum] =>
    return (← optional? (elrondOf? form) elrond, ← optional? (ethereumOf? form) ethereum)
  | _ => none

def of? (form : RecordForm) (json : Json) : Option Config := do
  match ← form ["network", "retries", "scan", "observability", "families"] 0 json with
  | [network, retries, scan, log, families] =>
    let (elrond, ethereum) ← absentOr? (none, none) (familiesOf? form) families
    return {
      network := ← absentOr? {} (networkOf? form) network
      retries := ← absentOr? {} (retriesOf? form) retries
      scan := ← absentOr? ⟨5, 100⟩ (scanOf? form) scan
      log := ← absentOr? {} (logOf? form) log
      elrond := elrond
      ethereum := ethereum }
  | _ => none

def ofJson? : Json → Option Config := of? record?

end Config

end WalletSync
