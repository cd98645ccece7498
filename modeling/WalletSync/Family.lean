import WalletSync.Json.Record

/-!
The families of chains. Chains of one family share their form of addresses, their rule for gas and
the interfaces that they are reached by.
-/

namespace WalletSync

inductive Family where
  | elrond
  | ethereum
deriving DecidableEq, Repr

namespace Family

def all : List Family := [.elrond, .ethereum]

def name : Family → String
  | .elrond => "elrond"
  | .ethereum => "ethereum"

def ofName? (name : String) : Option Family := all.find? (·.name == name)

def unknownMessage (name : String) : String := s!"unknown family '{name}'"

def ofJson? (json : Json) : Option Family := do ofName? (← json.choice?)

def toJson (family : Family) : Json := .string family.name

theorem ofName?_name (family : Family) : ofName? family.name = some family := by
  cases family <;> decide

end Family

end WalletSync
