import WalletSync.Json.Basic

/-!
Tables of a TOML document while it is read. A table may come into being by a header of its own, as
the parent of one, or by a key with points in it; this decides what may still be added to it.
-/

namespace WalletSync.Toml

/-- How a table came into being. -/
inductive Origin where
  /-- By a header of its own. -/
  | header
  /-- As the parent in the header of another one. -/
  | implied
  /-- By a key with points in it. -/
  | dotted
deriving DecidableEq

inductive Node where
  | value (json : Json)
  | table (origin : Origin) (fields : List (String × Node))
  /-- Tables of one name in a row; a header adds one, and keys go to the last one. -/
  | tables (items : List (List (String × Node)))

namespace Node

instance : Inhabited Node := ⟨.value .null⟩

mutual

def toJson : Node → Json
  | .value json => json
  | .table _ fields => .object (fieldsToJson fields)
  | .tables items => .array (itemsToJson items)

def fieldsToJson : List (String × Node) → List (String × Json)
  | [] => []
  | (name, node) :: rest => (name, toJson node) :: fieldsToJson rest

def itemsToJson : List (List (String × Node)) → List Json
  | [] => []
  | fields :: rest => .object (fieldsToJson fields) :: itemsToJson rest

end

end Node

abbrev Fields := List (String × Node)

/-- Changes what a name stands for, or adds it. -/
def alter (name : String) (change : Option Node → Option Node) : Fields → Option Fields
  | [] => do return [(name, ← change none)]
  | (other, node) :: rest =>
    if other = name then do return (other, ← change (some node)) :: rest
    else do return (other, node) :: (← alter name change rest)

/-- Changes the table at a path. What is missing on the way is made; values are not opened. A key
with points does not go through a table that has a header of its own. -/
def descend (isDotted : Bool) (change : Origin → Fields → Option Fields) :
    List String → Origin → Fields → Option Fields
  | [], origin, fields => change origin fields
  | name :: path, _, fields =>
    fields |> alter name fun
      | none => do
        let origin := if isDotted then Origin.dotted else .implied
        return .table origin (← descend isDotted change path origin [])
      | some (.value _) => none
      | some (.table origin fields) =>
        if isDotted && origin = .header then none
        else do return .table origin (← descend isDotted change path origin fields)
      | some (.tables items) => do
        let last ← items.getLast?
        return .tables (items.dropLast ++ [← descend isDotted change path .header last])

/-- Puts a value under a key in the table at `place`. The table that the value goes to is one that
came into being by points exactly when the key has points. -/
def putValue (place path : List String) (name : String) (value : Json) (root : Fields) :
    Option Fields :=
  let put (origin : Origin) (fields : Fields) : Option Fields :=
    if (origin = .dotted) ↔ path = [] then none
    else fields |> alter name fun
      | none => some (.value value)
      | some _ => none
  root |> descend false (fun origin fields => descend true put path origin fields) place .header

/-- Opens the table of a header, which may so far only be a parent of others. -/
def openTable (parent : List String) (name : String) (root : Fields) : Option Fields :=
  let start (_ : Origin) (fields : Fields) : Option Fields :=
    fields |> alter name fun
      | none => some (.table .header [])
      | some (.table .implied fields) => some (.table .header fields)
      | some _ => none
  descend false start parent .header root

/-- Opens one more of the tables of a header. -/
def openNext (parent : List String) (name : String) (root : Fields) : Option Fields :=
  let start (_ : Origin) (fields : Fields) : Option Fields :=
    fields |> alter name fun
      | none => some (.tables [[]])
      | some (.tables items) => some (.tables (items ++ [[]]))
      | some _ => none
  descend false start parent .header root

end WalletSync.Toml
