import WalletSync.Config.Validation
import WalletSync.Toml.Reader

/-!
Settings from the text or the bytes of a TOML document. Only settings without fault are returned.
-/

namespace WalletSync

inductive LoadError where
  /-- There are no bytes, or they are not text. -/
  | unreadable
  /-- The text is no document of the expected form. -/
  | malformed
  | invalid (errors : List ConfigError)
deriving DecidableEq

def ConfigError.summary (errors : List ConfigError) : String :=
  "Validation failed: " ++ ", ".intercalate (errors.map ConfigError.message)

namespace Config

/-- The settings in a text. Arrays that stand for tables may be longer than these. -/
def parse (text : String) : Except LoadError Config :=
  match (Toml.read? text).bind (of? Json.openRecord?) with
  | none => .error .malformed
  | some config => if config.errors = [] then .ok config else .error (.invalid config.errors)

def load (content : Option (List UInt8)) : Except LoadError Config :=
  match content.bind fun bytes => String.fromUTF8? ⟨bytes.toArray⟩ with
  | none => .error .unreadable
  | some text => parse text

end Config

end WalletSync
