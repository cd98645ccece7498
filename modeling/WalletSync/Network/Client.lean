import WalletSync.Config.Basic
import WalletSync.Network.Retry

/-!
Asking web servers. How a request reaches a server is left open, and so are chance and time.
-/

namespace WalletSync

structure HttpRequest where
  method : Method
  url : String
  body : Option Json
  /-- In milliseconds; when none is given it depends on the method. -/
  deadline : Option Count := none

inductive HttpReply where
  /-- There is no such request, for this reason. -/
  | unsendable (reason : String)
  /-- No response came back before the deadline, or not all of it. -/
  | lost
  | response (status : Nat) (body : String)

/-- Sends a request that has to be answered before a deadline. -/
abbrev Exchange (m : Type → Type) := HttpRequest → Count → m HttpReply

/-- Chance and time. -/
structure Surroundings (m : Type → Type) where
  /-- A random number up to another one. -/
  draw : (most : Nat) → m (Fin (most + 1))
  /-- Waits for so many milliseconds. -/
  sleep : Count → m Unit

structure HttpClient (m : Type → Type) extends Surroundings m where
  exchange : Exchange m
  network : NetworkSettings
  retries : RetrySettings

namespace HttpClient

variable {m : Type → Type} [Monad m]

/-- A client with the settings. The library that reaches servers is asked for a way to do so under
a name; it may refuse the name. -/
def ofConfig (connect : String → Except String (Exchange m)) (surroundings : Surroundings m)
    (config : Config) : Except NetworkError (HttpClient m) :=
  match connect config.network.userAgent with
  | .ok exchange =>
    .ok { surroundings with exchange, network := config.network, retries := config.retries }
  | .error reason => .error (.invalidRequest (.invalidUserAgent reason))

def deadlineOf (client : HttpClient m) (request : HttpRequest) : Count :=
  request.deadline.getD <|
    if request.method = .get then client.network.getTimeout else client.network.requestTimeout

def send (client : HttpClient m) (request : HttpRequest) : m (Except NetworkError String) := do
  match ← client.exchange request (client.deadlineOf request) with
  | .unsendable reason =>
    return .error (.invalidRequest (.unsendable request.method.name request.url reason))
  | .lost => return .error (.down request.url)
  | .response status body =>
    if 200 ≤ status && status < 300 then return .ok body
    else return .error (.ofStatus status body request.url)

def backoff (client : HttpClient m) : Backoff := ⟨client.retries.baseDelay, client.retries.maxDelay⟩

/-- Waits after so many failures, unless the delay is out of range. -/
def pause (client : HttpClient m) (failed : Nat) : m (Except NetworkError Unit) := do
  let jitter ← client.draw (client.backoff.spread failed - 1)
  match client.backoff.delay? failed jitter with
  | some delay => return .ok (← client.sleep delay)
  | none => return .error .overflow

def execute (client : HttpClient m) (request : HttpRequest) : ExceptT NetworkError m String :=
  ExceptT.mk <| retry request.method (client.send request) client.pause
    (maxAttempts request.method client.retries.maxAttempts - 1) 0

def decodeBody {α : Type} (url body : String) (decode : Json → Option α) :
    Except NetworkError α :=
  match (Json.read? body).bind decode with
  | some a => .ok a
  | none => .error (.invalidResponse url .undecodable)

def getJson {α : Type} (client : HttpClient m) (url : String) (decode : Json → Option α) :
    ExceptT NetworkError m α := do
  let body ← client.execute { method := .get, url := url, body := none }
  ExceptT.mk (pure (decodeBody url body decode))

def postJson {α : Type} (client : HttpClient m) (url : String) (value : Json)
    (decode : Json → Option α) : ExceptT NetworkError m α := do
  let body ← client.execute { method := .post, url := url, body := some value }
  ExceptT.mk (pure (decodeBody url body decode))

end HttpClient

end WalletSync
