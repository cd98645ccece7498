import WalletSync.Json.Record
import WalletSync.Text.Blank
import WalletSync.Text.Digits
import WalletSync.Word

/-!
Amounts of money in the smallest unit of a chain. Their text is a number in base ten, around which
white space is allowed.
-/

namespace WalletSync

open Text

abbrev Amount := Word 256

namespace Amount

def read? (text : String) : Option Amount := do
  Word.ofNat? (← number? (trim text.toList))

def text (amount : Amount) : String := decimal amount.val

def ofJson? (json : Json) : Option Amount := do read? (← json.string?)

def toJson (amount : Amount) : Json := .string amount.text

end Amount

end WalletSync
