import WalletSync.Text.Canonical.Decomposition
import WalletSync.Text.Canonical.Order

/-!
The canonical form of a text. Texts that only differ in characters that mean the same, or in the
order of marks that do not touch each other, have one canonical form, in which letters and marks
are written as one character where there is one for them.
-/

namespace WalletSync.Text.Canonical

/-- The characters that a character stands for in the end; every step needs one unit of fuel. -/
def decompose : Nat → Char → List Char
  | 0, c => [c]
  | fuel + 1, c =>
    match parts? c with
    | some cs => cs.flatMap (decompose fuel)
    | none => [c]

/-- No character takes more steps than this until it stands for itself. -/
def depth : Nat := 4

/-- Puts a character in front of others, but behind marks of lower classes. -/
def place (c : Char) : List Char → List Char
  | [] => [c]
  | d :: rest =>
    if order d ≠ 0 && order d < order c then d :: place c rest else c :: d :: rest

def arrange (cs : List Char) : List Char := cs.foldr place []

/-- Joins the characters of an arranged text. `base` is the last one that others may be joined to,
and `held` are those after it that were not, the latest first. A mark is kept from its base by one
before it that is not of a lower class. -/
def join (base : Char) (held : List Char) : List Char → List Char
  | [] => base :: held.reverse
  | c :: rest =>
    let isFree := held.head?.all fun d => order d < order c
    match if isFree then composite? base c else none with
    | some joined => join joined held rest
    | none =>
      if order c = 0 then base :: held.reverse ++ join c [] rest else join base (c :: held) rest

def compose (cs : List Char) : List Char :=
  match arrange (cs.flatMap (decompose depth)) with
  | [] => []
  | base :: rest => join base [] rest

end WalletSync.Text.Canonical
