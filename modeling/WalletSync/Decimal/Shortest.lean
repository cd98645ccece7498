import WalletSync.Decimal.Binary

/-!
The shortest decimal that a float can be read back from. All reals nearer to the float than to any
other one are read as it, and so are the two half-way points when its significand is even. Among
the decimals of least length in this interval the one nearest to the float is taken.
-/

namespace WalletSync.Decimal

/-- The number `digits` times ten to the power `exponent`. -/
structure Scientific where
  digits : Nat
  exponent : Int
deriving DecidableEq

/-- Numerator and denominator of `n` times two to the power `two` times ten to the power `ten`. -/
def fraction (n : Nat) (two ten : Int) : Nat × Nat :=
  ((n <<< two.toNat) * Nat.pow 10 ten.toNat, (1 <<< (-two).toNat) * Nat.pow 10 (-ten).toNat)

/-- The same number without a zero at its end, if there is one. -/
def Scientific.dropZero (d : Scientific) : Scientific :=
  if d.digits % 10 = 0 then ⟨d.digits / 10, d.exponent + 1⟩ else d

namespace Binary

/-- The decimal number is read as the binary one. -/
def holds (x : Binary) (d : Scientific) : Bool :=
  let (num, den) := fraction d.digits (2 - x.exponent) d.exponent
  let low := (4 * x.significand - (if x.isNarrowBelow then 1 else 2)) * den
  let high := (4 * x.significand + 2) * den
  if x.significand % 2 = 0 then low ≤ num && num ≤ high else low < num && num < high

/-- The power of ten in which a positive number has its first digit. -/
def magnitude (x : Binary) : Int :=
  let (num, den) := fraction x.significand x.exponent 0
  if den ≤ num then ((Nat.toDigits 10 (num / den)).length : Int) - 1
  else
    let inverse := (Nat.toDigits 10 (den / num)).length
    if den ≤ num * Nat.pow 10 (inverse - 1) then 1 - (inverse : Int) else -(inverse : Int)

/-- The shortest decimals among those of `count` digits and of the `steps` next numbers of
digits; of two neighbours the nearer one, of two equally near ones the even one. -/
def search (x : Binary) (magnitude : Int) : Nat → Nat → Scientific
  | 0, count => ⟨0, magnitude - count⟩
  | steps + 1, count =>
    let exponent := magnitude + 1 - count
    let (num, den) := fraction x.significand x.exponent (-exponent)
    let below := num / den
    let rest := num % den
    let hasBelow := 0 < below && x.holds ⟨below, exponent⟩
    let hasAbove := x.holds ⟨below + 1, exponent⟩
    if hasBelow && hasAbove then
      if 2 * rest < den || 2 * rest = den && below % 2 = 0 then ⟨below, exponent⟩
      else ⟨below + 1, exponent⟩
    else if hasBelow then ⟨below, exponent⟩
    else if hasAbove then ⟨below + 1, exponent⟩
    else search x magnitude steps (count + 1)

/-- The shortest decimal that is read as a positive number. Seventeen digits always suffice. A
neighbour above may be the next power of ten, which has one digit more than the others. -/
def shortest (x : Binary) : Scientific := (x.search x.magnitude 17 1).dropZero

end Binary

end WalletSync.Decimal
