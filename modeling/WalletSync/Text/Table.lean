import WalletSync.Text.Hex

/-!
Sets of characters and maps between characters as tables write them: numbers in base sixteen, a
hyphen between the first and the last number of a range, commas and semicolons between the values
of a map.
-/

namespace WalletSync.Text

/-- The numbers in a text: runs of hexadecimal digits. -/
def hexNumbers (cs : List Char) : List Nat :=
  ((cs.splitOnP fun c => (hexDigit? c).isNone).filter (· ≠ [])).map
    (·.foldl (fun n c => 16 * n + (hexDigit? c).getD 0) 0)

/-- Characters as ranges with their first and their last one. -/
abbrev Ranges := List (Nat × Nat)

namespace Ranges

/-- Ranges with blanks between them; a number alone is a range of one character. -/
def read (text : String) : Ranges :=
  (text.toList.splitOnP fun c => c = ' ' || c = '\n').filterMap fun range =>
    match hexNumbers range with
    | [n] => some (n, n)
    | [first, last] => some (first, last)
    | _ => none

def contains (ranges : Ranges) (c : Char) : Bool :=
  ranges.any fun (first, last) => first ≤ c.toNat && c.toNat ≤ last

end Ranges

/-- Texts for some characters. -/
abbrev CharMap := List (Nat × List Char)

namespace CharMap

/-- Rows with semicolons between them: a character, its text, and after commas the texts of the
characters that follow it. -/
def read (text : String) : CharMap :=
  (text.toList.splitOn ';').flatMap fun row =>
    match (row.splitOn ',').map hexNumbers with
    | (first :: value) :: values =>
      (value :: values).zipIdx.map fun (value, i) => (first + i, value.map Char.ofNat)
    | _ => []

def find? (map : CharMap) (c : Char) : Option (List Char) := map.lookup c.toNat

def findKey? (map : CharMap) (text : List Char) : Option Char :=
  (List.find? (fun entry => entry.2 == text) map).map fun entry => Char.ofNat entry.1

end CharMap

end WalletSync.Text
