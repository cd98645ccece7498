/-!
Finite floats as exact rationals: an integer significand times a power of two.
-/

namespace WalletSync.Decimal

/-- The number `significand` times two to the power `exponent`. -/
structure Binary where
  significand : Nat
  exponent : Int
  /-- The next smaller float is only half as far away as the next larger one. -/
  isNarrowBelow : Bool
deriving DecidableEq

namespace Binary

/-- The size of a float from the 64 bits that represent it, the sign being dropped. -/
def ofBits (bits : Nat) : Binary :=
  let fraction : Nat := bits % (1 <<< 52)
  let scale : Nat := (bits >>> 52) % (1 <<< 11)
  if scale = 0 then ⟨fraction, -1074, false⟩
  else ⟨(1 <<< 52) + fraction, (scale : Int) - 1075, fraction = 0 && 1 < scale⟩

def ofFloat (x : Float) : Binary := ofBits x.toBits.toNat

def floor (x : Binary) : Nat :=
  if 0 ≤ x.exponent then x.significand <<< x.exponent.toNat
  else x.significand >>> x.exponent.natAbs

end Binary

/-- A float is negative, or is the negative zero. -/
def isSigned (x : Float) : Bool := 1 <<< 63 ≤ x.toBits.toNat

end WalletSync.Decimal
