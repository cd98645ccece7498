import WalletSync.Json.Reader
import WalletSync.Json.Record
import WalletSync.Json.Writer

/-!
The message in the body of an error response. Servers put it into one of several fields, some of
them wrapped: as an object with a message in it, as the text of such an object, or as the printed
form of an optional value that holds such a text.
-/

namespace WalletSync

namespace Json

/-- The value counts as given: it is not null, false, zero or the empty string. -/
def isTruthy : Json → Bool
  | .null | .unreadable => false
  | .bool b => b
  | .string s => s ≠ ""
  | .number (.natural n) => n ≠ 0
  | .number (.negative _) => true
  | .number (.float x) => x != 0
  | .array _ | .object _ => true

def messageText? (json : Json) : Option String := do string? (← json.field? "message")

end Json

/-- The fields that may hold a message, the most telling one first. -/
def messageFields : List String := ["cause", "error_message", "error", "message", "msg"]

/-- The text between `JsDefined(` and a closing bracket at the end, or all of a text of another
form. -/
def unwrapDefined (text : String) : String :=
  let cs := text.toList
  let opening := "JsDefined(".toList
  if opening.isPrefixOf cs then
    let rest := cs.drop opening.length
    if rest.getLast? = some ')' then String.ofList rest.dropLast else text
  else text

/-- The message in a text that is itself an object with a message, wrapped at most twice. -/
def embeddedMessage? (text : String) : Option String := do
  let json ← Json.readWhole? (unwrapDefined text)
  match ← json.field? "message" with
  | .string s => some s
  | .object fields => (Json.object fields).messageText?
  | _ => none

def messageOf? : Json → Option String
  | .object fields => (Json.object fields).messageText?
  | .string s => some ((embeddedMessage? s).getD s)
  | json => some json.sorted.text

/-- The message in the body of a response: in the first field of an object, or of the first object
of an array, that holds anything. -/
def serverMessage? (body : String) : Option String := do
  let json ← Json.readWhole? body
  let json ←
    match json with
    | .array items => items.head?
    | json => some json
  let value ← messageFields.findSome? fun name => (json.field? name).filter Json.isTruthy
  messageOf? value

end WalletSync
