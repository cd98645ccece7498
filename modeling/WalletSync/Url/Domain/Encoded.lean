/-!
Encoded parts of domain names. The ASCII characters of the text come first, then a hyphen, then
numbers in base 36 that tell which other characters are to be placed where.
-/

namespace WalletSync.Url.Encoded

def digit? (c : Char) : Option Nat :=
  let n := c.toNat
  if 97 ≤ n && n ≤ 122 then some (n - 97)
  else if 48 ≤ n && n ≤ 57 then some (n - 48 + 26)
  else none

/-- Divides by 35 until the number is small; `steps` counts the divisions. -/
def shrink : Nat → Nat → Nat → Nat × Nat
  | 0, delta, steps => (delta, steps)
  | fuel + 1, delta, steps =>
    if 455 < delta then shrink fuel (delta / 35) (steps + 1) else (delta, steps)

/-- The bias of the next number after a number `delta` that placed one of `count` characters. -/
def adapt (delta count : Nat) (isFirst : Bool) : Nat :=
  let delta := if isFirst then delta / 700 else delta / 2
  let (delta, steps) := shrink delta (delta + delta / count) 0
  36 * steps + 36 * delta / (delta + 38)

/-- Numbers and weights have 32 binary digits. -/
def bounded? (n : Nat) : Option Nat := if n < 1 <<< 32 then some n else none

/-- Reads the digits of one number and adds it to `i`. -/
def readDelta (bias : Nat) : Nat → Nat → Nat → List Char → Option (Nat × List Char)
  | _, _, _, [] => none
  | i, weight, k, c :: rest => do
    let digit ← digit? c
    let i ← bounded? (i + digit * weight)
    let threshold := if k ≤ bias then 1 else if bias + 26 ≤ k then 26 else k - bias
    if digit < threshold then return (i, rest)
    else readDelta bias i (← bounded? (weight * (36 - threshold))) (k + 36) rest

/-- Places one character for every number. -/
def place : Nat → Nat → Nat → Nat → List Char → List Char → Option (List Char)
  | _, _, _, _, done, [] => some done
  | 0, _, _, _, _, _ => none
  | fuel + 1, n, i, bias, done, cs => do
    let (next, rest) ← readDelta bias i 1 36 cs
    let count := done.length + 1
    let n := n + next / count
    if n < 0x110000 && !(0xd800 ≤ n && n < 0xe000) then
      let spot := next % count
      place fuel n (spot + 1) (adapt (next - i) count (i = 0))
        (done.take spot ++ Char.ofNat n :: done.drop spot) rest
    else none

/-- How long an encoded text may be. -/
def longest : Nat := 2000

/-- The text that was encoded: the characters before the last hyphen, with those placed among them
that the rest tells. A hyphen at the start or at the end is wrong. -/
def decode? (cs : List Char) : Option (List Char) :=
  let tail := (cs.reverse.takeWhile (· ≠ '-')).reverse
  let base := cs.take (cs.length - tail.length - 1)
  if tail = [] || cs.head? = some '-' && base = [] || longest < cs.length then none
  else place cs.length 128 0 72 base tail

end WalletSync.Url.Encoded
