import WalletSync.Toml.Scalar
import WalletSync.Toml.Table

/-!
Reading TOML documents into JSON values: lines with keys and values, and headers of tables between
them. Numbers are integers of 64 bits or floats.
-/

namespace WalletSync.Toml

def isBlank (c : Char) : Bool := c = ' ' || c = '\t'

def skipBlanks (cs : List Char) : List Char := cs.dropWhile isBlank

def skipNewline? : List Char → Option (List Char)
  | '\n' :: rest | '\r' :: '\n' :: rest => some rest
  | _ => none

/-- A character that may stand in a comment or in a string without being escaped. -/
def isVisible (c : Char) : Bool := c = '\t' || (32 ≤ c.toNat && c.toNat ≠ 127)

def skipComment : List Char → List Char
  | '#' :: rest => rest.dropWhile isVisible
  | cs => cs

/-- The rest of a line on which nothing but a comment follows. -/
def endLine? (cs : List Char) : Option (List Char) :=
  match skipComment (skipBlanks cs) with
  | [] => some []
  | rest => skipNewline? rest

/-- Blanks, comments and line ends between the items of an array; every line costs one call. -/
def skipLines : Nat → List Char → List Char
  | 0, cs => cs
  | fuel + 1, cs =>
    let rest := skipComment (skipBlanks cs)
    match skipNewline? rest with
    | some rest => skipLines fuel rest
    | none => rest

def ofHex? (cs : List Char) : Option Char := do
  let n ← cs.foldl (fun n c => do return (← n) * 16 + (← Text.hexDigit? c)) (some 0)
  if h : n.isValidChar then some (Char.ofNatAux n h) else none

/-- A character after a backslash, and what follows it. -/
def readEscape : List Char → Option (Char × List Char)
  | 'b' :: rest => some (Char.ofNat 8, rest)
  | 't' :: rest => some ('\t', rest)
  | 'n' :: rest => some ('\n', rest)
  | 'f' :: rest => some (Char.ofNat 12, rest)
  | 'r' :: rest => some ('\r', rest)
  | '"' :: rest => some ('"', rest)
  | '\\' :: rest => some ('\\', rest)
  | 'u' :: rest => if rest.length < 4 then none else (ofHex? (rest.take 4)).map (·, rest.drop 4)
  | 'U' :: rest => if rest.length < 8 then none else (ofHex? (rest.take 8)).map (·, rest.drop 8)
  | _ => none

def apostrophe : Char := Char.ofNat 39

/-- A string on one line after its opening quote. -/
def readBasic : Nat → List Char → Option (List Char × List Char)
  | 0, _ => none
  | fuel + 1, cs =>
    match cs with
    | '"' :: rest => some ([], rest)
    | '\\' :: rest => do
      let (c, rest) ← readEscape rest
      let (text, rest) ← readBasic fuel rest
      return (c :: text, rest)
    | c :: rest =>
      if isVisible c then do
        let (text, rest) ← readBasic fuel rest
        return (c :: text, rest)
      else none
    | [] => none

/-- A string on one line in which nothing is escaped, after its opening quote. -/
def readLiteral (cs : List Char) : Option (List Char × List Char) :=
  let run := cs.takeWhile fun c => isVisible c && c ≠ apostrophe
  match cs.drop run.length with
  | c :: rest => if c = apostrophe then some (run, rest) else none
  | [] => none

def countQuotes (quote : Char) (cs : List Char) : Nat := ((cs.take 5).takeWhile (· = quote)).length

def skipBlankLines : List Char → List Char
  | '\r' :: '\n' :: rest => skipBlankLines rest
  | c :: rest => if isBlank c || c = '\n' then skipBlankLines rest else c :: rest
  | [] => []

/-- The end of a line inside a string that a backslash lets continue on a later line. -/
def skipContinuation? (cs : List Char) : Option (List Char) := do
  return skipBlankLines (← skipNewline? (skipBlanks cs))

/-- A string over several lines after its opening quotes. Up to two quotes may stand in front of
the three that end it. Line ends are read as single characters. -/
def readLong (quote : Char) (isEscaped : Bool) : Nat → List Char → Option (List Char × List Char)
  | 0, _ => none
  | fuel + 1, cs =>
    let count := countQuotes quote cs
    if 3 ≤ count then some (List.replicate (count - 3) quote, cs.drop count)
    else if 0 < count then do
      let (text, rest) ← readLong quote isEscaped fuel (cs.drop count)
      return (List.replicate count quote ++ text, rest)
    else
      match skipNewline? cs with
      | some rest => do
        let (text, rest) ← readLong quote isEscaped fuel rest
        return ('\n' :: text, rest)
      | none =>
        match cs with
        | [] => none
        | c :: rest =>
          if isEscaped && c = '\\' then
            match skipContinuation? rest with
            | some rest => readLong quote isEscaped fuel rest
            | none => do
              let (c, rest) ← readEscape rest
              let (text, rest) ← readLong quote isEscaped fuel rest
              return (c :: text, rest)
          else if isVisible c then do
            let (text, rest) ← readLong quote isEscaped fuel rest
            return (c :: text, rest)
          else none

/-- A line end right after the opening quotes does not count. -/
def afterOpening (cs : List Char) : List Char := (skipNewline? cs).getD cs

def readString (cs : List Char) : Option (String × List Char) := do
  let fuel := cs.length + 1
  let (text, rest) ←
    match cs with
    | '"' :: '"' :: '"' :: rest => readLong '"' true fuel (afterOpening rest)
    | '"' :: rest => readBasic fuel rest
    | a :: b :: c :: rest =>
      if a = apostrophe && b = apostrophe && c = apostrophe then
        readLong apostrophe false fuel (afterOpening rest)
      else if a = apostrophe then readLiteral (b :: c :: rest)
      else none
    | [a, b] => if a = apostrophe then readLiteral [b] else none
    | _ => none
  return (String.ofList text, rest)

def isKeyChar (c : Char) : Bool := c.isAlphanum || c = '_' || c = '-'

def readSimpleKey (cs : List Char) : Option (String × List Char) :=
  match cs with
  | '"' :: rest =>
    (readBasic (rest.length + 1) rest).map fun (text, rest) => (String.ofList text, rest)
  | c :: rest =>
    if c = apostrophe then (readLiteral rest).map fun (text, rest) => (String.ofList text, rest)
    else
      let run := cs.takeWhile isKeyChar
      if run = [] then none else some (String.ofList run, cs.drop run.length)
  | [] => none

/-- How many parts a key may have, and how deep values may lie in each other. -/
def maxDepth : Nat := 79

/-- A key with points between its parts, of which `left` more may follow. -/
def readKey : Nat → List Char → Option (List String × List Char)
  | 0, _ => none
  | left + 1, cs => do
    let (name, rest) ← readSimpleKey (skipBlanks cs)
    match skipBlanks rest with
    | '.' :: rest =>
      let (names, rest) ← readKey left rest
      return (name :: names, rest)
    | rest => return ([name], rest)

mutual

/-- The value that the text starts with, and what follows it. `room` levels are left. -/
def readValue : Nat → Nat → List Char → Option (Json × List Char)
  | 0, _, _ => none
  | fuel + 1, room, cs =>
    match cs with
    | '[' :: rest =>
      if room = 0 then none
      else
        (readItems fuel (room - 1) rest).map fun (items, rest) => (.array items, rest)
    | '{' :: rest =>
      if room = 0 then none
      else
        match skipBlanks rest with
        | '}' :: rest => some (.object [], rest)
        | rest =>
          (readPairs fuel (room - 1) [] rest).map fun (fields, rest) =>
            (.object (Node.fieldsToJson fields), rest)
    | c :: _ =>
      if c = '"' || c = apostrophe then
        (readString cs).map fun (text, rest) => (.string text, rest)
      else readScalar cs
    | [] => none

/-- The items of an array up to its end; a comma may follow the last one. -/
def readItems : Nat → Nat → List Char → Option (List Json × List Char)
  | 0, _, _ => none
  | fuel + 1, room, cs =>
    match skipLines (cs.length + 1) cs with
    | ']' :: rest => some ([], rest)
    | cs =>
      match readValue fuel room cs with
      | none => none
      | some (item, rest) =>
        match skipLines (rest.length + 1) rest with
        | ']' :: rest => some ([item], rest)
        | ',' :: rest =>
          (readItems fuel room rest).map fun (items, rest) => (item :: items, rest)
        | _ => none

/-- The fields of a table on one line up to its end, of which there is at least one. -/
def readPairs : Nat → Nat → Fields → List Char → Option (Fields × List Char)
  | 0, _, _, _ => none
  | fuel + 1, room, fields, cs =>
    match readKey maxDepth cs with
    | some (names, '=' :: rest) =>
      match readValue fuel room (skipBlanks rest) with
      | none => none
      | some (value, rest) =>
        match putValue [] names.dropLast (names.getLast?.getD "") value fields with
        | none => none
        | some fields =>
          match skipBlanks rest with
          | '}' :: rest => some (fields, rest)
          | ',' :: rest => readPairs fuel room fields rest
          | _ => none
    | _ => none

end

def readHeader (cs : List Char) : Option (List String × List Char) := do
  match ← readKey maxDepth cs with
  | (names, ']' :: rest) => return (names, rest)
  | _ => none

/-- Reads line after line into the tables, the keys belonging to the table at `place`. -/
def readLines : Nat → List String → Fields → List Char → Option Fields
  | 0, _, _, _ => none
  | fuel + 1, place, root, cs =>
    match skipBlanks cs with
    | [] => some root
    | '[' :: '[' :: rest => do
      let (names, rest) ← readHeader rest
      match rest with
      | ']' :: rest =>
        let root ← openNext names.dropLast (names.getLast?.getD "") root
        readLines fuel names root (← endLine? rest)
      | _ => none
    | '[' :: rest => do
      let (names, rest) ← readHeader rest
      let root ← openTable names.dropLast (names.getLast?.getD "") root
      readLines fuel names root (← endLine? rest)
    | c :: rest =>
      if c = '#' || c = '\n' || c = '\r' then do
        readLines fuel place root (← endLine? (c :: rest))
      else do
        match ← readKey maxDepth (c :: rest) with
        | (names, '=' :: rest) =>
          let (value, rest) ← readValue (2 * rest.length + 2) maxDepth (skipBlanks rest)
          let root ← putValue place names.dropLast (names.getLast?.getD "") value root
          readLines fuel place root (← endLine? rest)
        | _ => none

/-- The value of a document, which may begin with a byte order mark. -/
def read? (text : String) : Option Json :=
  let cs :=
    match text.toList with
    | c :: rest => if c.toNat = 0xfeff then rest else c :: rest
    | [] => []
  (readLines (cs.length + 1) [] [] cs).map fun fields => .object (Node.fieldsToJson fields)

end WalletSync.Toml
