import WalletSync.Url.Domain
import WalletSync.Url.Number

/-!
URLs, as far as it takes to know whether they are valid and where they lead. Blanks around a URL
and line breaks inside it do not count. A backslash is as good as a slash in the schemes that name
a server.
-/

namespace WalletSync

/-- Where a URL leads. -/
structure Url where
  /-- In lower case. -/
  scheme : String
  host : Option String
deriving DecidableEq

inductive UrlError where
  | relative
  | emptyHost
  | invalidPort
  | invalidFourBytes
  | invalidEightGroups
  | invalidName
  | invalidCharacter
deriving DecidableEq

def UrlError.message : UrlError → String
  | .relative => "relative URL without a base"
  | .emptyHost => "empty host"
  | .invalidPort => "invalid port number"
  | .invalidFourBytes => "invalid IPv4 address"
  | .invalidEightGroups => "invalid IPv6 address"
  | .invalidName => "invalid international domain name"
  | .invalidCharacter => "invalid domain character"

namespace Url

open Text

/-- The text without what does not count. -/
def relevant (text : String) : List Char :=
  let isOuter (c : Char) : Bool := c.toNat ≤ 32
  let inner := ((text.toList.dropWhile isOuter).reverse.dropWhile isOuter).reverse
  inner.filter fun c => c ≠ '\t' && c ≠ '\n' && c ≠ '\r'

def isSchemeChar (c : Char) : Bool := c.isAlphanum || c = '+' || c = '-' || c = '.'

/-- The scheme before the first colon, and what follows the colon. -/
def splitScheme (cs : List Char) : Option (String × List Char) :=
  let scheme := cs.takeWhile isSchemeChar
  match scheme, cs.drop scheme.length with
  | first :: _, ':' :: rest =>
    if first.isAlpha then some (String.ofList (scheme.map Char.toLower), rest) else none
  | _, _ => none

def isServerScheme (scheme : String) : Bool := ["http", "https", "ws", "wss", "ftp"].contains scheme

/-- An address in square brackets, when the host begins with one. -/
def bracketed (host : List Char) : Option (Except UrlError String) :=
  match host with
  | '[' :: rest =>
    if rest.getLast? = some ']' && isEightGroups rest.dropLast then
      some (.ok (String.ofList host))
    else some (.error .invalidEightGroups)
  | _ => none

def readHost (host : List Char) : Except UrlError String :=
  match bracketed host with
  | some result => result
  | none =>
    match plainName? (String.ofList host).toUTF8.toList with
    | none => .error .invalidName
    | some [] => .error .emptyHost
    | some name =>
      if endsInNumber name && !isFourBytes name then .error .invalidFourBytes
      else .ok (String.ofList name)

def readOpaqueHost (host : List Char) : Except UrlError String :=
  match bracketed host with
  | some result => result
  | none =>
    let isForbidden (c : Char) : Bool := c.toNat = 0 || c = ' ' || "#/:<>?@[\\]^|".toList.contains c
    if host.any isForbidden then .error .invalidCharacter else .ok (String.ofList host)

/-- The host up to a colon outside square brackets, and what follows it. -/
def splitHost (isInside : Bool) : List Char → List Char × List Char
  | [] => ([], [])
  | ':' :: rest =>
    if isInside then
      let (host, rest) := splitHost true rest
      (':' :: host, rest)
    else ([], ':' :: rest)
  | c :: rest =>
    let (host, rest) := splitHost (c = '[' || (isInside && c ≠ ']')) rest
    (c :: host, rest)

/-- The text after a host is a colon with a number of 16 bits or without one, or nothing. -/
def isPort (cs : List Char) : Bool :=
  match cs with
  | ':' :: rest =>
    let run := rest.takeWhile Char.isDigit
    ofDigits run < 65536 &&
      match rest.drop run.length with
      | [] | '\\' :: _ => true
      | _ => false
  | _ => true

def splitUser (cs : List Char) : Option (List Char × List Char) :=
  let host := (cs.reverse.takeWhile (· ≠ '@')).reverse
  if host.length = cs.length then none
  else some (cs.take (cs.length - host.length - 1), host)

/-- What follows two slashes: perhaps a user, a host, perhaps a number after a colon. -/
def readAuthority (scheme : String) (cs : List Char) : Except UrlError Url := do
  let isServer := isServerScheme scheme
  let isEnd (c : Char) : Bool := c = '/' || c = '?' || c = '#' || (isServer && c = '\\')
  let area := cs.takeWhile fun c => !isEnd c
  let (user, place) :=
    match splitUser area with
    | some (user, host) => (some user, host)
    | none => (none, area)
  if user = some [] && place = [] && area.length < cs.length then throw .emptyHost
  let (hostText, portText) := splitHost false place
  if hostText = [] && (isServer || portText ≠ []) then throw .emptyHost
  let host ← if isServer then readHost hostText else readOpaqueHost hostText
  if !isPort portText then throw .invalidPort
  if host = "" && user.any (fun user => user ≠ [] && user ≠ [':']) then throw .emptyHost
  return { scheme := scheme, host := if host = "" then none else some host }

/-- What follows the colon of a URL of a file; a letter for a drive is no host. -/
def readFile (cs : List Char) : Except UrlError Url := do
  let isSlash (c : Char) : Bool := c = '/' || c = '\\'
  match cs with
  | a :: b :: rest =>
    if isSlash a && isSlash b then
      let hostText := rest.takeWhile fun c => !isSlash c && c ≠ '?' && c ≠ '#'
      let isDrive :=
        match hostText with
        | [letter, mark] => letter.isAlpha && (mark = ':' || mark = '|')
        | _ => false
      if hostText = [] || isDrive then return ⟨"file", none⟩
      else
        let host ← readHost hostText
        return ⟨"file", if host = "localhost" then none else some host⟩
    else return ⟨"file", none⟩
  | _ => return ⟨"file", none⟩

def parse (text : String) : Except UrlError Url :=
  match splitScheme (relevant text) with
  | none => .error .relative
  | some (scheme, rest) =>
    if scheme = "file" then readFile rest
    else if isServerScheme scheme then
      readAuthority scheme (rest.dropWhile fun c => c = '/' || c = '\\')
    else
      match rest with
      | '/' :: '/' :: rest => readAuthority scheme rest
      | _ => .ok ⟨scheme, none⟩

/-- A request can be sent to the URL. -/
def isWeb (url : Url) : Bool :=
  (url.scheme = "http" || url.scheme = "https")
    && url.host.any fun host =>
      !host.toList.any fun c =>
        c = '"' || c.toNat = 0x60 || c.toNat = 0x7b || c.toNat = 0x7d

end Url

end WalletSync
