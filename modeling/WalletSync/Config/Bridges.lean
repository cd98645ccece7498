import WalletSync.Elrond.Api
import WalletSync.Ethereum.Api
import WalletSync.Registry

/-!
The bridges that settings ask for: one for every family that has a section.
-/

namespace WalletSync

inductive SetupError where
  | setup (family : Family) (cause : NetworkError)
deriving DecidableEq

def SetupError.message : SetupError → String
  | .setup family cause => s!"Failed to set up {family.name}: {cause.message}"

namespace Registry

variable {m : Type → Type} [Monad m]

def ofConfig (config : Config) (client : HttpClient m) (library : Ethereum.NodeLibrary m) :
    Except SetupError (Registry m) := do
  let registry : Registry m :=
    match config.elrond with
    | some settings =>
      empty.insert ⟨.elrond, Elrond.api client (.ofSettings settings), config.scan⟩
    | none => empty
  match config.ethereum with
  | some settings =>
    match Ethereum.Servers.ofSettings settings with
    | .ok servers =>
      return registry.insert ⟨.ethereum, Ethereum.api client library servers, config.scan⟩
    | .error cause => throw (.setup .ethereum cause)
  | none => return registry

end Registry

end WalletSync
