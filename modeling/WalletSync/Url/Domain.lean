import WalletSync.Text.Canonical
import WalletSync.Url.Domain.Bearing
import WalletSync.Url.Domain.Encoded
import WalletSync.Url.Domain.Joiner
import WalletSync.Url.Domain.Plain

/-!
Domain names in URLs. A name is brought into its plain form, and some characters may not occur. A
part that is marked as encoded has to stand for a text in plain form with other than ASCII
characters. No part begins with a mark, joiners stand only where they may, and the direction of all
parts is clear.
-/

namespace WalletSync.Url

open Text

/-- Replaces `%` and two hexadecimal digits by the byte that they denote. -/
def percentDecode : List UInt8 → List UInt8
  | 0x25 :: a :: b :: rest =>
    match hexDigit? (Char.ofNat a.toNat), hexDigit? (Char.ofNat b.toNat) with
    | some x, some y => UInt8.ofNat (16 * x + y) :: percentDecode rest
    | _, _ => 0x25 :: percentDecode (a :: b :: rest)
  | byte :: rest => byte :: percentDecode rest
  | [] => []

/-- ASCII characters that may not occur: the control characters, the space, and those that have a
meaning in a URL. -/
def isForbidden (c : Char) : Bool :=
  c.toNat ≤ 32 || c.toNat = 127 || "%#/:<>?@[\\]^|".toList.contains c

def isAscii (cs : List Char) : Bool := cs.all (·.toNat < 128)

def plainText? (cs : List Char) : Option (List Char) := do
  let plain := Canonical.compose (← cs.mapM plain?).flatten
  if plain.any isForbidden then none else some plain

/-- The text that a part in plain form shows, which for an encoded part is another one. -/
def shownPart? (part : List Char) : Option (List Char) :=
  match part with
  | 'x' :: 'n' :: '-' :: '-' :: rest => do
    let text ← Encoded.decode? rest
    if isAscii part && !isAscii text && plainText? text = some text then some text else none
  | _ => some part

/-- How many characters a part with other than ASCII characters may show. -/
def longestPart : Nat := 1000

def isPart (cs : List Char) : Bool :=
  (isAscii cs || cs.length ≤ longestPart) && !cs.head?.any isMark && Joiner.allFit [] cs

/-- The plain form of a name in UTF-8 that may have bytes written as `%` and two digits. -/
def plainName? (bytes : List UInt8) : Option (List Char) := do
  let text ← String.fromUTF8? ⟨(percentDecode bytes).toArray⟩
  let plain ← plainText? text.toList
  let parts ← (plain.splitOn '.').mapM shownPart?
  if parts.all isPart && Bearing.areClear parts then some plain else none

end WalletSync.Url
