import WalletSync.Decimal.Shortest
import WalletSync.Json.Basic
import WalletSync.Text.Digits
import WalletSync.Text.Hex

/-!
JSON values as text without any white space. In strings only the quote, the backslash and the
control characters below the space are escaped.
-/

namespace WalletSync.Json

open Text

def escape (c : Char) : List Char :=
  if c = '"' then ['\\', '"']
  else if c = '\\' then ['\\', '\\']
  else if c = '\n' then ['\\', 'n']
  else if c = '\r' then ['\\', 'r']
  else if c = '\t' then ['\\', 't']
  else if c.toNat = 8 then ['\\', 'b']
  else if c.toNat = 12 then ['\\', 'f']
  else if c.toNat < 32 then
    ['\\', 'u', '0', '0', hexChar (c.toNat / 16), hexChar (c.toNat % 16)]
  else [c]

def writeString (s : String) : List Char := '"' :: (s.toList.flatMap escape ++ ['"'])

/-- A finite float by its shortest decimal: with a point from 1e-5 up to 1e16, else with an
exponent that has a sign. -/
def writeFloat (x : Float) : List Char :=
  let size := Decimal.Binary.ofFloat x
  let sign := if Decimal.isSigned x then ['-'] else []
  if size.significand = 0 then sign ++ ['0', '.', '0']
  else
    let decimal := size.shortest
    let run := digits decimal.digits
    let point := run.length + decimal.exponent
    sign ++
      if 16 < point ∨ point ≤ -5 then
        let exponent := point - 1
        run.take 1 ++ (if run.length = 1 then [] else '.' :: run.drop 1)
          ++ 'e' :: (if exponent < 0 then '-' else '+') :: digits exponent.natAbs
      else if 0 ≤ decimal.exponent then
        run ++ List.replicate decimal.exponent.toNat '0' ++ ['.', '0']
      else if 0 < point then run.take point.toNat ++ '.' :: run.drop point.toNat
      else '0' :: '.' :: List.replicate point.natAbs '0' ++ run

def Numeral.write : Numeral → List Char
  | .natural n => digits n
  | .negative n => '-' :: digits n
  | .float x => writeFloat x

mutual

def write : Json → List Char
  | .null | .unreadable => ['n', 'u', 'l', 'l']
  | .bool true => ['t', 'r', 'u', 'e']
  | .bool false => ['f', 'a', 'l', 's', 'e']
  | .number n => Numeral.write n
  | .string s => writeString s
  | .array items => '[' :: (writeItems items ++ [']'])
  | .object fields => '{' :: (writeFields fields ++ ['}'])

def writeItems : List Json → List Char
  | [] => []
  | [item] => write item
  | item :: rest => write item ++ ',' :: writeItems rest

def writeFields : List (String × Json) → List Char
  | [] => []
  | [(name, value)] => writeString name ++ ':' :: write value
  | (name, value) :: rest => writeString name ++ ':' :: write value ++ ',' :: writeFields rest

end

def text (json : Json) : String := String.ofList json.write

/-- Puts a field in the place that its name has among sorted fields, instead of one of the same
name. -/
def insertField (name : String) (value : Json) :
    List (String × Json) → List (String × Json)
  | [] => [(name, value)]
  | (other, old) :: rest =>
    if name < other then (name, value) :: (other, old) :: rest
    else if name = other then (name, value) :: rest
    else (other, old) :: insertField name value rest

mutual

/-- The value with the fields of every object in the order of their names, and only the last one
of each name. -/
def sorted : Json → Json
  | .array items => .array (sortedItems items)
  | .object fields => .object (sortedFields [] fields)
  | json => json

def sortedItems : List Json → List Json
  | [] => []
  | item :: rest => sorted item :: sortedItems rest

/-- Adds fields one by one to those that are already sorted. -/
def sortedFields (done : List (String × Json)) :
    List (String × Json) → List (String × Json)
  | [] => done
  | (name, value) :: rest => sortedFields (insertField name (sorted value) done) rest

end

end WalletSync.Json
