import WalletSync.Amount
import WalletSync.Network.ServerMessage
import WalletSync.Text.Hex

/-!
What can go wrong when a server is asked. Errors that may go away by themselves are transient.
-/

namespace WalletSync

/-- Why a request could not be made up. The reasons in it are the words of whoever refused it. -/
inductive RequestFault where
  | unsendable (method url reason : String)
  | invalidAddress (address reason : String)
  | invalidHash (hash reason : String)
  | notPrepared
  | gasPriceTooLarge (price : Amount)
  | signatureNotHex (cause : Text.HexError)
  | invalidEndpoint (url : String)
  /-- No client can be set up with the name that requests are to be sent under. -/
  | invalidUserAgent (reason : String)
  | other (reason : String)
deriving DecidableEq

def RequestFault.message : RequestFault → String
  | .unsendable method url reason => s!"{method} {url}: {reason}"
  | .invalidAddress address reason => s!"invalid address '{address}': {reason}"
  | .invalidHash hash reason => s!"invalid transaction hash '{hash}': {reason}"
  | .notPrepared => "transaction is not prepared"
  | .gasPriceTooLarge price => s!"gas price {price.text} exceeds u64"
  | .signatureNotHex cause => s!"signed transaction is not hex: {cause.message}"
  | .invalidEndpoint url => s!"Invalid RPC URL '{url}'"
  | .invalidUserAgent reason => s!"HTTP client setup failed: {reason}"
  | .other reason => reason

inductive ResponseFault where
  /-- The body has not the expected form. What a decoder says about it is left out. -/
  | undecodable
  | unexpectedStatus (status : Nat) (message : String)
  | notDecimal (field value : String)
  | notInteger (field value : String)
  | timestampOutOfRange (seconds : Int)
  | otherChain (found expected : Nat)
  | explorer (detail : String)
  | blockNotNumeric (value : String)
  | noNetworkConfig
  | other (reason : String)
deriving DecidableEq

def ResponseFault.message : ResponseFault → String
  | .undecodable => "the body has not the expected form"
  | .unexpectedStatus status message =>
    s!"unexpected HTTP status {Text.decimal status}: {message}"
  | .notDecimal field value => s!"{field} is not a decimal amount: '{value}'"
  | .notInteger field value => s!"{field} is not an integer: '{value}'"
  | .timestampOutOfRange seconds => s!"timestamp {Text.signedDecimal seconds} out of range"
  | .otherChain found expected =>
    s!"chain id {Text.decimal found} does not match configured {Text.decimal expected}"
  | .explorer detail => s!"explorer error: {detail}"
  | .blockNotNumeric value => s!"block number '{value}' is not numeric"
  | .noNetworkConfig => "no network config"
  | .other reason => reason

inductive NetworkError where
  /-- No response came back, or not all of it. -/
  | down (url : String)
  | serverError (status : Nat) (message url : String)
  | clientError (status : Nat) (message url : String)
  | invalidResponse (url : String) (fault : ResponseFault)
  | invalidRequest (fault : RequestFault)
  /-- A sum left its range. No part of the program deals with this: it stops there, and what it
  would have done next, or has left behind, is not looked at. -/
  | overflow
deriving DecidableEq

namespace NetworkError

def message : NetworkError → String
  | .down url => s!"Network down: no response from {url}"
  | .serverError status message url =>
    s!"Server error {Text.decimal status} from {url}: {message}"
  | .clientError status message url =>
    s!"Client error {Text.decimal status} from {url}: {message}"
  | .invalidResponse url fault => s!"Invalid response from {url}: {fault.message}"
  | .invalidRequest fault => s!"Invalid request: {fault.message}"
  | .overflow => "attempt to add with overflow"

/-- The kind of an error in a word, to be counted by. -/
def label : NetworkError → String
  | .down .. => "down"
  | .serverError .. => "server_error"
  | .clientError .. => "client_error"
  | .invalidResponse .. => "invalid_response"
  | .invalidRequest .. => "invalid_request"
  | .overflow => "overflow"

/-- Asking again may help. -/
def isTransient : NetworkError → Bool
  | .down .. | .serverError .. => true
  | _ => false

def ofStatus (status : Nat) (body url : String) : NetworkError :=
  let message := (serverMessage? body).getD s!"API HTTP {Text.decimal status}"
  if 400 ≤ status && status < 500 then .clientError status message url
  else if 500 ≤ status && status < 600 then .serverError status message url
  else .invalidResponse url (.unexpectedStatus status message)

end NetworkError

end WalletSync
