import WalletSync.Json.Basic
import WalletSync.Word

/-!
Records as JSON values: objects with known field names, in which other fields are passed over, or
arrays with the values in the order of the names. The functions here take a record apart and read
the values of simple kinds.
-/

namespace WalletSync.Json

/-- The value of the only field of that name: outside none when the name is repeated, inside none
when it is absent. -/
def sole? (name : String) (fields : List (String × Json)) : Option (Option Json) :=
  match fields.filter (·.1 == name) with
  | [] => some none
  | [(_, value)] => some (some value)
  | _ => none

/-- The values of an array in their places, up to `count` of them. -/
def places (count : Nat) (items : List Json) : List (Option Json) :=
  (items.take count).map some ++ List.replicate (count - items.length) none

/-- The values of a record in the order of the names. An array has at least `least` of them, and
none too many. -/
def record? (names : List String) (least : Nat) : Json → Option (List (Option Json))
  | .object fields => names.mapM (sole? · fields)
  | .array items =>
    if least ≤ items.length && items.length ≤ names.length then some (places names.length items)
    else none
  | _ => none

/-- The values of a record whose array form may have more items than names. -/
def openRecord? (names : List String) (least : Nat) : Json → Option (List (Option Json))
  | .object fields => names.mapM (sole? · fields)
  | .array items => if least ≤ items.length then some (places names.length items) else none
  | _ => none

/-- The values of a record that is part of a value: of repeated fields the last one counts. -/
def innerRecord? (names : List String) (least : Nat) (json : Json) : Option (List (Option Json)) :=
  match json with
  | .object _ => some (names.map (json.field? ·))
  | _ => record? names least json

def string? : Json → Option String
  | .string s => some s
  | _ => none

def bool? : Json → Option Bool
  | .bool b => some b
  | _ => none

def array? : Json → Option (List Json)
  | .array items => some items
  | _ => none

def word? {bits : Nat} : Json → Option (Word bits)
  | .number (.natural n) => Word.ofNat? n
  | _ => none

def float? : Json → Option Float
  | .number (.natural n) => some (Float.ofNat n)
  | .number (.negative n) => some (-Float.ofNat n)
  | .number (.float x) => some x
  | _ => none

def listOf? {α : Type} (item : Json → Option α) (json : Json) : Option (List α) := do
  (← array? json).mapM item

def nullable? {α : Type} (value : Json → Option α) : Json → Option (Option α)
  | .null => some none
  | json => (value json).map some

def absentOr? {α : Type} (fallback : α) (value : Json → Option α) : Option Json → Option α
  | none => some fallback
  | some json => value json

/-- A field that may be absent or `null`. -/
def optional? {α : Type} (value : Json → Option α) : Option Json → Option (Option α) :=
  absentOr? none (nullable? value)

/-- The name of an alternative without parts: a string, or the only field of an object, with
`null` in it. -/
def choice? : Json → Option String
  | .string s => some s
  | .object [(name, .null)] => some name
  | _ => none

def ofOption {α : Type} (value : α → Json) (x : Option α) : Json := (x.map value).getD .null

def word {bits : Nat} (w : Word bits) : Json := .nat w.val

@[simp]
theorem word?_word {bits : Nat} (w : Word bits) : word? (word w) = some w :=
  Word.ofNat?_val w

@[simp]
theorem string?_string (s : String) : string? (.string s) = some s := rfl

@[simp]
theorem bool?_bool (b : Bool) : bool? (.bool b) = some b := rfl

theorem listOf?_map {α : Type} {read : Json → Option α} {write : α → Json}
    (h : ∀ a, read (write a) = some a) (xs : List α) :
    listOf? read (.array (xs.map write)) = some xs := by
  show (xs.map write).mapM read = some xs
  induction xs with
  | nil => rfl
  | cons x rest ih => simp [List.mapM_cons, h, ih]

end WalletSync.Json
