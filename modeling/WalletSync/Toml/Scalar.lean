import WalletSync.Json.Basic
import WalletSync.Moment.Calendar
import WalletSync.Text.Digits
import WalletSync.Text.Hex

/-!
Numbers, truth values and dates in a TOML document. They are runs of characters that end where
something else begins. Digits may have single underscores between them. A date is an object with
one field of a name that nothing else has.
-/

namespace WalletSync.Toml

open Text

/-- Characters that numbers, truth values and dates consist of. -/
def isScalarChar (c : Char) : Bool :=
  c.isAlphanum || c = '_' || c = '+' || c = '-' || c = '.' || c = ':'

/-- Digits with single underscores between them, without the underscores. -/
def plainDigits? (isDigit : Char → Bool) : List Char → Option (List Char)
  | [] => none
  | [c] => if isDigit c then some [c] else none
  | c :: '_' :: rest =>
    if isDigit c then (plainDigits? isDigit rest).map (c :: ·) else none
  | c :: rest => if isDigit c then (plainDigits? isDigit rest).map (c :: ·) else none

/-- A sign, when there is one, is true for minus. -/
def splitSign : List Char → Bool × List Char
  | '-' :: rest => (true, rest)
  | '+' :: rest => (false, rest)
  | cs => (false, cs)

def whole? (cs : List Char) : Option (List Char) := do
  let run ← plainDigits? Char.isDigit cs
  if run.head? = some '0' && run.length ≠ 1 then none else some run

/-- An integer of 64 bits with its sign. -/
def ofInteger? (isNegative : Bool) (n : Nat) : Option Json :=
  if n = 0 then some (.nat 0)
  else if isNegative then (if n ≤ 1 <<< 63 then some (.number (.negative n)) else none)
  else if n < 1 <<< 63 then some (.nat n)
  else none

def integer? (cs : List Char) : Option Json :=
  let based (base : Nat) (rest : List Char) : Option Json := do
    let isDigit (c : Char) : Bool := (hexDigit? c).any (· < base)
    let run ← plainDigits? isDigit rest
    ofInteger? false (run.foldl (fun n c => n * base + (hexDigit? c).getD 0) 0)
  match cs with
  | '0' :: 'x' :: rest => based 16 rest
  | '0' :: 'o' :: rest => based 8 rest
  | '0' :: 'b' :: rest => based 2 rest
  | _ =>
    let (isNegative, rest) := splitSign cs
    (whole? rest).bind fun run => ofInteger? isNegative (ofDigits run)

def nearest (digits : Nat) (exponent : Int) : Float :=
  let magnitude := (Text.digits digits).length + exponent
  if digits = 0 || magnitude < -400 then 0
  else if 400 < magnitude then 1 / 0
  else if exponent < 0 then Float.ofScientific digits true exponent.natAbs
  else Float.ofScientific digits false exponent.natAbs

def splitFraction (cs : List Char) : Option (List Char × List Char) :=
  match cs with
  | '.' :: rest =>
    let run := rest.takeWhile fun c => c.isDigit || c = '_'
    (plainDigits? Char.isDigit run).map (·, rest.drop run.length)
  | _ => some ([], cs)

def exponent? (cs : List Char) : Option Int :=
  match cs with
  | [] => some 0
  | 'e' :: rest | 'E' :: rest => do
    let (isNegative, rest) := splitSign rest
    let n := ofDigits (← plainDigits? Char.isDigit rest)
    return if isNegative then -n else n
  | _ => none

/-- A number with a point or an exponent. It must not be larger than every float. -/
def float? (cs : List Char) : Option Json := do
  let (isNegative, rest) := splitSign cs
  let signed (x : Float) : Json := .number (.float (if isNegative then -x else x))
  if rest = ['i', 'n', 'f'] then return signed (1 / 0)
  else if rest = ['n', 'a', 'n'] then return signed (0 / 0)
  else
    let run := rest.takeWhile fun c => c.isDigit || c = '_'
    let whole ← whole? run
    let rest := rest.drop run.length
    if rest = [] then none
    let (fraction, rest) ← splitFraction rest
    let exponent ← exponent? rest
    let x := nearest (ofDigits (whole ++ fraction)) (exponent - fraction.length)
    if x.isInf && !isNegative then none else return signed x

def isDate (cs : List Char) : Bool :=
  match cs with
  | [y1, y2, y3, y4, '-', m1, m2, '-', d1, d2] =>
    [y1, y2, y3, y4, m1, m2, d1, d2].all Char.isDigit
      && CivilDate.isValid
        ⟨ofDigits [y1, y2, y3, y4], ofDigits [m1, m2], ofDigits [d1, d2]⟩
  | _ => false

/-- A time of day, with a second of up to 60, and any number of digits after a point. -/
def splitTime? (cs : List Char) : Option (List Char) :=
  match cs with
  | h1 :: h2 :: ':' :: m1 :: m2 :: ':' :: s1 :: s2 :: rest =>
    if [h1, h2, m1, m2, s1, s2].all Char.isDigit && ofDigits [h1, h2] < 24
        && ofDigits [m1, m2] < 60 && ofDigits [s1, s2] ≤ 60 then
      match rest with
      | '.' :: c :: rest => if c.isDigit then some (rest.dropWhile Char.isDigit) else none
      | _ => some rest
    else none
  | _ => none

def isOffset (cs : List Char) : Bool :=
  match cs with
  | [] | ['Z'] | ['z'] => true
  | [sign, h1, h2, ':', m1, m2] =>
    (sign = '+' || sign = '-') && [h1, h2, m1, m2].all Char.isDigit
      && ofDigits [h1, h2] < 24 && ofDigits [m1, m2] < 60
  | _ => false

/-- A date, a time, or both, then perhaps with an offset. -/
def isDateTime (cs : List Char) : Bool :=
  isDate cs || splitTime? cs = some [] ||
    (isDate (cs.take 10) &&
      match cs.drop 10 with
      | 'T' :: rest | 't' :: rest | ' ' :: rest => (splitTime? rest).any isOffset
      | _ => false)

def scalar? (cs : List Char) : Option Json :=
  if cs = ['t', 'r', 'u', 'e'] then some (.bool true)
  else if cs = ['f', 'a', 'l', 's', 'e'] then some (.bool false)
  else if isDateTime cs then some (.object [(" date", .string (String.ofList cs))])
  else (integer? cs).or (float? cs)

/-- The value that the text starts with, and what follows it. A space may stand between a date and
a time. -/
def readScalar (cs : List Char) : Option (Json × List Char) :=
  let run := cs.takeWhile isScalarChar
  let rest := cs.drop run.length
  let (run, rest) :=
    match rest with
    | ' ' :: c :: more =>
      if isDate run && c.isDigit then
        let time := (c :: more).takeWhile isScalarChar
        (run ++ ' ' :: time, (c :: more).drop time.length)
      else (run, rest)
    | _ => (run, rest)
  (scalar? run).map (·, rest)

end WalletSync.Toml
