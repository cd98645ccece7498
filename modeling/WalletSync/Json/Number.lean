import WalletSync.Json.Basic
import WalletSync.Text.Digits

/-!
Numbers in JSON text. An integer of up to 64 bits is kept as it is. Any other number becomes a
float: as many leading digits as fit into 64 bits, converted, then multiplied or divided by a
power of ten. A result beyond the largest float is unreadable.
-/

namespace WalletSync.Json

open Text

structure Lexeme where
  isNegative : Bool
  /-- At least one digit, and no zero in front of another one. -/
  whole : List Char
  /-- Empty without a point. -/
  fraction : List Char
  /-- The sign and the digits after `e`. -/
  exponent : Option (Bool × List Char)

def spanDigits (cs : List Char) : List Char × List Char :=
  (cs.takeWhile Char.isDigit, cs.dropWhile Char.isDigit)

/-- The digits after a point; none without a point. -/
def lexFraction : List Char → Option (List Char × List Char)
  | '.' :: rest =>
    let (run, rest) := spanDigits rest
    if run = [] then none else some (run, rest)
  | rest => some ([], rest)

/-- The exponent, its sign being true when it is negative. -/
def lexExponent : List Char → Option (Option (Bool × List Char) × List Char)
  | 'e' :: rest | 'E' :: rest =>
    let (isNegative, rest) :=
      match rest with
      | '-' :: rest => (true, rest)
      | '+' :: rest => (false, rest)
      | rest => (false, rest)
    let (run, rest) := spanDigits rest
    if run = [] then none else some (some (isNegative, run), rest)
  | rest => some (none, rest)

/-- The longest number that the text starts with, and what follows it. -/
def lexNumber (cs : List Char) : Option (Lexeme × List Char) := do
  let (isNegative, cs) :=
    match cs with
    | '-' :: rest => (true, rest)
    | rest => (false, rest)
  let (whole, cs) := spanDigits cs
  if whole = [] || (whole.head? = some '0' && whole ≠ ['0']) then none
  else
    let (fraction, cs) ← lexFraction cs
    let (exponent, cs) ← lexExponent cs
    return (⟨isNegative, whole, fraction, exponent⟩, cs)

/-- Appends digits to `significand` as long as it stays below 2^64, and returns those left. -/
def absorb : Nat → List Char → Nat × List Char
  | significand, [] => (significand, [])
  | significand, c :: rest =>
    let next := significand * 10 + ofDigits [c]
    if next < 1 <<< 64 then absorb next rest else (significand, c :: rest)

/-- `x` times ten to the power `exponent`, in steps of at most 308; none beyond the floats. -/
def scale : Nat → Float → Int → Option Float
  | 0, x, _ => some x
  | steps + 1, x, exponent =>
    let size := exponent.natAbs
    if size ≤ 308 then
      let power := Float.ofScientific 1 false size
      if 0 ≤ exponent then
        let product := x * power
        if product.isInf then none else some product
      else some (x / power)
    else if x == 0 then some x
    else if 0 ≤ exponent then none
    else scale steps (x / Float.ofScientific 1 false 308) (exponent + 308)

/-- The float of a significand and a power of ten. Four steps reach below the smallest float. -/
def toFloat (isNegative : Bool) (significand : Nat) (exponent : Int) : Json :=
  match scale 4 (UInt64.ofNat significand).toFloat exponent with
  | some x => .number (.float (if isNegative then -x else x))
  | none => .unreadable

/-- The largest exponent that is read digit by digit. -/
def exponentLimit : Nat := (1 <<< 31) - 1

def Lexeme.toFloat (lexeme : Lexeme) : Json :=
  let (significand, left) := absorb 0 lexeme.whole
  let (significand, unread) := absorb significand lexeme.fraction
  let shift : Int := left.length - (lexeme.fraction.length - unread.length : Nat)
  match lexeme.exponent with
  | none => Json.toFloat lexeme.isNegative significand shift
  | some (isNegative, run) =>
    let exponent := ofDigits run
    if exponentLimit < exponent then
      if significand ≠ 0 && !isNegative then .unreadable
      else Json.toFloat lexeme.isNegative 0 0
    else
      Json.toFloat lexeme.isNegative significand
        (if isNegative then shift - exponent else shift + exponent)

def Lexeme.value (lexeme : Lexeme) : Json :=
  if lexeme.fraction = [] && lexeme.exponent.isNone then
    let n := ofDigits lexeme.whole
    if !lexeme.isNegative && n < 1 <<< 64 then .number (.natural n)
    else if lexeme.isNegative && 0 < n && n ≤ 1 <<< 63 then .number (.negative n)
    else lexeme.toFloat
  else lexeme.toFloat

end WalletSync.Json
