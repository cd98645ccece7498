/-!
JSON values. An object keeps its fields as they are written, repetitions included; what a repeated
name means is up to the reader of the object.
-/

namespace WalletSync

/-- A number: an integer of up to 64 bits, or else a binary floating point number. -/
inductive Numeral where
  | natural (n : Nat)
  /-- The opposite of a positive number. -/
  | negative (n : Nat)
  | float (x : Float)

inductive Json where
  | null
  | bool (b : Bool)
  | number (n : Numeral)
  | string (s : String)
  | array (items : List Json)
  | object (fields : List (String × Json))
  /-- A value of correct form that denotes nothing: a number out of range, a string or a field
  name with half a surrogate pair, a value nested too deeply. -/
  | unreadable

namespace Json

instance : Inhabited Json := ⟨.null⟩

def nat (n : Nat) : Json := .number (.natural n)

/-- The value of a field; of repeated ones the last counts. -/
def field? (name : String) : Json → Option Json
  | .object fields => (fields.reverse.find? (·.1 == name)).map (·.2)
  | _ => none

mutual

/-- Every part of the value denotes something. -/
def isReadable : Json → Bool
  | .unreadable => false
  | .array items => areReadable items
  | .object fields => fieldsAreReadable fields
  | _ => true

def areReadable : List Json → Bool
  | [] => true
  | item :: rest => isReadable item && areReadable rest

def fieldsAreReadable : List (String × Json) → Bool
  | [] => true
  | (_, value) :: rest => isReadable value && fieldsAreReadable rest

end

end Json

end WalletSync
