import WalletSync.Network.Error
import WalletSync.Word

/-!
When a request is sent again, and after which delay. Only requests that change nothing are
repeated, only after transient errors, and only a limited number of times. The delay doubles with
every failure up to a limit; a random part of up to a tenth is added to it.
-/

namespace WalletSync

/-- The method of a request; the name of any other method is kept. -/
inductive Method where
  | get
  | head
  | options
  | post
  | other (name : String)
deriving DecidableEq

namespace Method

def isNameChar (c : Char) : Bool :=
  c.isAlphanum || "!#$%&*+-.^_|~".toList.contains c || c.toNat = 0x27 || c.toNat = 0x60

/-- The method of a name, which must not be empty. Names are case-sensitive. -/
def ofName? (name : String) : Option Method :=
  if name = "GET" then some .get
  else if name = "HEAD" then some .head
  else if name = "OPTIONS" then some .options
  else if name = "POST" then some .post
  else if name ≠ "" && name.toList.all isNameChar then some (.other name)
  else none

def name : Method → String
  | .get => "GET"
  | .head => "HEAD"
  | .options => "OPTIONS"
  | .post => "POST"
  | .other name => name

/-- A request that may be repeated without further effect. -/
def isIdempotent : Method → Bool
  | .get | .head | .options => true
  | _ => false

end Method

def isRetryable (method : Method) (error : NetworkError) : Bool :=
  method.isIdempotent && error.isTransient

def maxAttempts (method : Method) (limit : Word 32) : Nat :=
  if method.isIdempotent then max 1 limit.val else 1

/-- Sends a request up to `more` times more after the first time, until it ends well or with an
error that is not worth another attempt. The pause before another attempt is told how many have
failed, and is an end of its own when it fails. -/
def retry {m : Type → Type} [Monad m] {α : Type} (method : Method)
    (send : m (Except NetworkError α)) (pause : Nat → m (Except NetworkError Unit)) :
    Nat → Nat → m (Except NetworkError α)
  | 0, _ => send
  | more + 1, failed => do
    match ← send with
    | .ok a => return .ok a
    | .error e =>
      if isRetryable method e then
        match ← pause (failed + 1) with
        | .ok () => retry method send pause more (failed + 1)
        | .error e => return .error e
      else return .error e

/-- How long to wait between attempts, in milliseconds. -/
structure Backoff where
  base : Count
  limit : Count
deriving DecidableEq

namespace Backoff

/-- The delay after `failed` failures, without its random part. Doubling stops at the largest word,
and the limit is taken after that. -/
def least (rule : Backoff) (failed : Nat) : Count :=
  if failed = 0 || rule.base = 0 then 0
  else min (rule.base.mulSat (Word.twoPowSat (failed - 1))) rule.limit

/-- How many values the random part may have, counted from zero. -/
def spread (rule : Backoff) (failed : Nat) : Nat := max 1 ((rule.least failed).val / 10)

/-- The delay with its random part, unless it is out of range. -/
def delay? (rule : Backoff) (failed : Nat) (jitter : Nat) : Option Count :=
  Word.ofNat? ((rule.least failed).val + jitter)

/-- All delays lie between the bounds, the lower one included; none if one is out of range. -/
def isWithin? (rule : Backoff) (failed low high : Nat) : Option Bool :=
  (rule.delay? failed (rule.spread failed - 1)).map fun longest =>
    low ≤ (rule.least failed).val && longest.val < high

end Backoff

end WalletSync
