import WalletSync.Text.Digits
import WalletSync.Text.Hex

/-!
Numeric addresses in URLs. A host whose last part is a number is one of four bytes, in up to four
parts of which the last one fills what is left; a part may be octal or hexadecimal. A host in
square brackets is one of eight groups of sixteen bits.
-/

namespace WalletSync.Url

open Text

/-- The number that digits of a base denote. -/
def ofBase (base : Nat) (cs : List Char) : Option Nat :=
  cs.foldl (fun n c => do
    let digit ← hexDigit? c
    if digit < base then return (← n) * base + digit else none) (some 0)

/-- A part of an address: octal after a zero, hexadecimal after `0x`, which may stand alone. -/
def partNumber? (cs : List Char) : Option Nat :=
  match cs with
  | [] => none
  | '0' :: 'x' :: rest | '0' :: 'X' :: rest => ofBase 16 rest
  | '0' :: c :: rest => ofBase 8 (c :: rest)
  | _ => ofBase 10 cs

def splitPoints : List Char → List (List Char)
  | [] => [[]]
  | '.' :: rest => [] :: splitPoints rest
  | c :: rest =>
    match splitPoints rest with
    | part :: parts => (c :: part) :: parts
    | [] => [[c]]

/-- The parts of a host, without the empty one after a point at the end. -/
def hostParts (host : List Char) : List (List Char) :=
  let parts := splitPoints host
  if parts.length > 1 && parts.getLast? = some [] then parts.dropLast else parts

/-- The host is meant to be a numeric address. -/
def endsInNumber (host : List Char) : Bool :=
  match (hostParts host).getLast? with
  | some part => (part ≠ [] && part.all Char.isDigit) || (partNumber? part).isSome
  | none => false

def isFourBytes (host : List Char) : Bool :=
  let parts := hostParts host
  match parts.mapM partNumber? with
  | some numbers =>
    numbers.length ≤ 4 && numbers.dropLast.all (· < 256)
      && numbers.getLast?.any (· < 1 <<< (8 * (5 - numbers.length)))
  | none => false

/-- The text is `count` decimal numbers below 256 with points between them. -/
def isQuad : Nat → List Char → Bool
  | 0, _ => false
  | count + 1, cs =>
    let run := cs.takeWhile Char.isDigit
    run ≠ [] && (run.length = 1 || run.head? ≠ some '0') && ofDigits run < 256 &&
      match cs.drop run.length with
      | [] => count = 0
      | '.' :: rest => isQuad count rest
      | _ => false

/-- The text fills `left` more groups, or fewer of them when a gap has been left. -/
def isGroups : Nat → Bool → List Char → Bool
  | left, hasGap, [] => left = 0 || hasGap
  | 0, _, _ :: _ => false
  | left + 1, hasGap, ':' :: rest => !hasGap && isGroups left true rest
  | left + 1, hasGap, c :: rest =>
    let cs := c :: rest
    let run := (cs.take 4).takeWhile fun c => (hexDigit? c).isSome
    match cs.drop run.length with
    | [] => isGroups left hasGap []
    | '.' :: _ => run ≠ [] && 1 ≤ left && isQuad 4 cs && (left = 1 || hasGap)
    | ':' :: rest => rest ≠ [] && isGroups left hasGap rest
    | _ => false

def isEightGroups (cs : List Char) : Bool :=
  match cs with
  | ':' :: ':' :: rest => isGroups 7 true rest
  | ':' :: _ | [] | [_] => false
  | _ => isGroups 8 false cs

end WalletSync.Url
