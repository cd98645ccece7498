import WalletSync.Config.Basic
import WalletSync.Text.Digits
import WalletSync.Url.Basic

/-!
What is wrong with settings, in the order of the settings.
-/

namespace WalletSync

inductive ConfigFault where
  | notPositive
  | belowOne
  | aboveMaxDelay
  | badUrl (cause : UrlError)
  | badScheme (scheme : String)
  | notPositiveNumber
deriving DecidableEq

def ConfigFault.message : ConfigFault → String
  | .notPositive => "must be > 0"
  | .belowOne => "must be >= 1"
  | .aboveMaxDelay => "must not exceed retries.max_delay_ms"
  | .badUrl cause => s!"invalid URL: {cause.message}"
  | .badScheme scheme => s!"unsupported scheme '{scheme}'"
  | .notPositiveNumber => "must be a positive number"

structure ConfigError where
  field : String
  fault : ConfigFault
deriving DecidableEq

def ConfigError.message (error : ConfigError) : String := s!"{error.field}: {error.fault.message}"

namespace Config

def urlFault? (url : String) : Option ConfigFault :=
  match Url.parse url with
  | .error cause => some (.badUrl cause)
  | .ok url =>
    if url.scheme = "http" || url.scheme = "https" then none else some (.badScheme url.scheme)

def check (field : String) (fault : Option ConfigFault) : List ConfigError :=
  (fault.map (⟨field, ·⟩)).toList

def when (isFault : Bool) (fault : ConfigFault) : Option ConfigFault :=
  if isFault then some fault else none

def isFactor (x : Float) : Bool := x.isFinite && 0 < x

def elrondErrors (settings : ElrondSettings) : List ConfigError :=
  check "families.elrond.api_url" (urlFault? settings.apiUrl)
    ++ check "families.elrond.gateway_url" (settings.gatewayUrl.bind urlFault?)

def ethereumErrors (settings : EthereumSettings) : List ConfigError :=
  check "families.ethereum.rpc_url" (urlFault? settings.rpcUrl)
    ++ (settings.failoverUrls.zipIdx.flatMap fun (url, i) =>
      check s!"families.ethereum.failover_urls[{Text.decimal i}]" (urlFault? url))
    ++ check "families.ethereum.explorer_url" (urlFault? settings.explorerUrl)
    ++ check "families.ethereum.rpc_timeout_secs" (when (settings.rpcTimeout = 0) .notPositive)
    ++ check "families.ethereum.gas_price_multiplier"
      (when (!isFactor settings.gasPriceMultiplier) .notPositiveNumber)

def errors (config : Config) : List ConfigError :=
  check "network.get_timeout_ms" (when (config.network.getTimeout = 0) .notPositive)
    ++ check "network.request_timeout_ms" (when (config.network.requestTimeout = 0) .notPositive)
    ++ check "retries.max_attempts" (when (config.retries.maxAttempts = 0) .belowOne)
    ++ check "retries.base_delay_ms"
      (when (config.retries.maxDelay < config.retries.baseDelay) .aboveMaxDelay)
    ++ check "scan.max_accounts" (when (config.scan.maxAccounts = 0) .belowOne)
    ++ (config.elrond.map elrondErrors).getD []
    ++ (config.ethereum.map ethereumErrors).getD []

end Config

end WalletSync
