/-!
Natural numbers in base ten: writing without leading zeros, and reading a run of ASCII digits of
any length.
-/

namespace WalletSync.Text

def digits (n : Nat) : List Char := Nat.toDigits 10 n

def ofDigits (cs : List Char) : Nat := Nat.ofDigitChars 10 cs 0

/-- The number in base ten, with zeros in front up to `width` digits. -/
def paddedDigits (width n : Nat) : List Char :=
  List.replicate (width - (digits n).length) '0' ++ digits n

/-- The number of a text that is a non-empty run of ASCII digits. -/
def number? (cs : List Char) : Option Nat :=
  if cs ≠ [] && cs.all Char.isDigit then some (ofDigits cs) else none

def decimal (n : Nat) : String := String.ofList (digits n)

def signedDecimal (n : Int) : String := if n < 0 then "-" ++ decimal n.natAbs else decimal n.natAbs

theorem ofDigits_digits (n : Nat) : ofDigits (digits n) = n :=
  Nat.ofDigitChars_toDigits (by decide) (by decide)

end WalletSync.Text
