/-!
Bytes as pairs of hexadecimal digits.
-/

namespace WalletSync.Text

def hexDigit? (c : Char) : Option Nat :=
  let n := c.toNat
  if 48 ≤ n && n ≤ 57 then some (n - 48)
  else if 97 ≤ n && n ≤ 102 then some (n - 87)
  else if 65 ≤ n && n ≤ 70 then some (n - 55)
  else none

def hexChar (n : Nat) : Char := Char.ofNat (if n < 10 then 48 + n else 87 + n)

def hexOfBytes (bs : List UInt8) : List Char :=
  bs.flatMap fun b => [hexChar (b.toNat / 16), hexChar (b.toNat % 16)]

inductive HexError where
  | oddLength
  | badDigit (byte : UInt8) (index : Nat)
deriving DecidableEq

namespace HexError

/-- A byte as the character of the same code, with the invisible ones escaped. -/
def quoted (byte : UInt8) : String :=
  let n := byte.toNat
  let body :=
    if n == 0 then ['\\', '0']
    else if n == 9 then ['\\', 't']
    else if n == 10 then ['\\', 'n']
    else if n == 13 then ['\\', 'r']
    else if n == 39 then ['\\', Char.ofNat 39]
    else if n == 92 then ['\\', '\\']
    else if n < 32 || (127 ≤ n && n ≤ 160) || n == 173 then
      ['\\', 'u', Char.ofNat 0x7b] ++ (Nat.toDigits 16 n) ++ [Char.ofNat 0x7d]
    else [Char.ofNat n]
  String.ofList ([Char.ofNat 39] ++ body ++ [Char.ofNat 39])

def message : HexError → String
  | .oddLength => "Odd number of digits"
  | .badDigit byte index => s!"Invalid character {quoted byte} at position {index}"

end HexError

/-- The bytes that pairs of digits denote; `index` is the position of the first. -/
def bytesOfPairs : Nat → List UInt8 → Except HexError (List UInt8)
  | _, [] => .ok []
  | _, [_] => .error .oddLength
  | index, a :: b :: rest =>
    match hexDigit? (Char.ofNat a.toNat), hexDigit? (Char.ofNat b.toNat) with
    | none, _ => .error (.badDigit a index)
    | _, none => .error (.badDigit b (index + 1))
    | some x, some y =>
      (bytesOfPairs (index + 2) rest).map (UInt8.ofNat (16 * x + y) :: ·)

/-- The bytes that a text in hexadecimal denotes. An odd length is reported before a bad digit. -/
def bytesOfHex (text : String) : Except HexError (List UInt8) :=
  if text.utf8ByteSize % 2 = 1 then .error .oddLength else bytesOfPairs 0 text.toUTF8.toList

end WalletSync.Text
