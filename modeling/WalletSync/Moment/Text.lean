import WalletSync.Moment.Basic
import WalletSync.Text.Blank
import WalletSync.Text.Digits

/-!
Moments as text. They are written in UTC with the fewest groups of three fraction digits that are
exact. They are read in any offset below a day, with blanks allowed around the numbers, `T` or a
space between day and time, and `:60` for a leap second.
-/

namespace WalletSync.Moment

open Text

def writeYear (year : Int) : List Char :=
  if 0 ≤ year ∧ year ≤ 9999 then paddedDigits 4 year.toNat
  else (if year < 0 then '-' else '+') :: paddedDigits 4 year.natAbs

def writeFraction (nano : Nat) : List Char :=
  if nano = 0 then []
  else if nano % 1000000 = 0 then '.' :: paddedDigits 3 (nano / 1000000)
  else if nano % 1000 = 0 then '.' :: paddedDigits 6 (nano / 1000)
  else '.' :: paddedDigits 9 nano

def write (m : Moment) : List Char :=
  let date := CivilDate.ofDays (m.second / 86400)
  let time := (m.second % 86400).toNat
  let isLeap := 1000000000 ≤ m.nano
  let second := time % 60 + (if isLeap then 1 else 0)
  let nano := if isLeap then m.nano - 1000000000 else m.nano
  writeYear date.year ++ '-' :: paddedDigits 2 date.month ++ '-' :: paddedDigits 2 date.day
    ++ 'T' :: paddedDigits 2 (time / 3600) ++ ':' :: paddedDigits 2 (time / 60 % 60)
    ++ ':' :: paddedDigits 2 second ++ writeFraction nano ++ ['Z']

def text (m : Moment) : String := String.ofList m.write

/-- At least one and at most `most` digits, after any blanks, and what follows them. -/
def readNumber (most : Nat) (cs : List Char) : Option (Nat × List Char) :=
  let run := (cs.take most).takeWhile Char.isDigit
  if run = [] then none else some (ofDigits run, cs.drop run.length)

def readPair (cs : List Char) : Option (Nat × List Char) := readNumber 2 (trimStart cs)

/-- A year of at most four digits, or one of any length after a sign. -/
def readYear (cs : List Char) : Option (Int × List Char) :=
  match trimStart cs with
  | '-' :: rest => (readNumber rest.length rest).map fun (n, rest) => (-(n : Int), rest)
  | '+' :: rest => (readNumber rest.length rest).map fun (n, rest) => ((n : Int), rest)
  | rest => (readNumber 4 rest).map fun (n, rest) => ((n : Int), rest)

def readMark (mark : Char) (cs : List Char) : Option (List Char) :=
  match trimStart cs with
  | c :: rest => if c = mark then some rest else none
  | [] => none

/-- Nanoseconds after a point; digits beyond the ninth are skipped. -/
def readFraction (cs : List Char) : Option (Nat × List Char) :=
  match cs with
  | '.' :: rest =>
    let run := (rest.take 9).takeWhile Char.isDigit
    if run = [] then none
    else
      let unread := (rest.drop run.length).dropWhile Char.isDigit
      some (ofDigits run * Nat.pow 10 (9 - run.length), unread)
  | _ => some (0, cs)

/-- Hours and minutes of an offset, with any colons or blanks between them, in seconds. -/
def readOffsetSize (cs : List Char) : Option (Nat × List Char) :=
  match cs with
  | a :: b :: rest =>
    match rest.dropWhile (fun c => c = ':' || isBlank c) with
    | c :: d :: rest =>
      if [a, b, c, d].all Char.isDigit && ofDigits [c, d] < 60 then
        some (ofDigits [a, b] * 3600 + ofDigits [c, d] * 60, rest)
      else none
    | _ => none
  | _ => none

/-- Seconds by which local time is ahead of UTC. -/
def readOffset (cs : List Char) : Option (Int × List Char) :=
  match cs with
  | 'Z' :: rest | 'z' :: rest => some (0, rest)
  | '+' :: rest => (readOffsetSize rest).map fun (n, rest) => ((n : Int), rest)
  | '-' :: rest | '−' :: rest => (readOffsetSize rest).map fun (n, rest) => (-(n : Int), rest)
  | a :: b :: c :: rest =>
    if [a.toUpper, b.toUpper, c.toUpper] = ['U', 'T', 'C'] then some (0, rest) else none
  | _ => none

def ofLocal? (date : CivilDate) (hour minute second nano : Nat) (offset : Int) : Option Moment :=
  if date.isValid && -262143 ≤ date.year && date.year ≤ 262142 && hour < 24 && minute < 60
      && second ≤ 60 && offset.natAbs < 86400 then
    let isLeap := second = 60
    let time := hour * 3600 + minute * 60 + (if isLeap then 59 else second)
    of? (date.toDays * 86400 + time - offset) (nano + if isLeap then 1000000000 else 0)
  else none

def read? (cs : List Char) : Option Moment := do
  let (year, cs) ← readYear cs
  let (month, cs) ← readPair (← readMark '-' cs)
  let (day, cs) ← readPair (← readMark '-' cs)
  let time ←
    match cs with
    | 'T' :: rest | 't' :: rest | ' ' :: rest => some rest
    | _ => none
  let (hour, cs) ← readPair time
  let (minute, cs) ← readPair (← readMark ':' cs)
  let (second, cs) ← readPair (← readMark ':' cs)
  let (nano, cs) ← readFraction cs
  let (offset, cs) ← readOffset (trimStart cs)
  if trimStart cs = [] then ofLocal? ⟨year, month, day⟩ hour minute second nano offset else none

end WalletSync.Moment
