import WalletSync.Bridge
import WalletSync.Payment.Error

/-!
The bridges of a wallet, at most one for each family.
-/

namespace WalletSync

structure Registry (m : Type → Type) where
  get? : Family → Option (Bridge m)

namespace Registry

variable {m : Type → Type}

def empty : Registry m := ⟨fun _ => none⟩

/-- The registry with one more bridge, instead of any other one of its family. -/
def insert (registry : Registry m) (bridge : Bridge m) : Registry m :=
  ⟨fun family => if family = bridge.family then some bridge else registry.get? family⟩

def families (registry : Registry m) : List Family :=
  Family.all.filter fun family => (registry.get? family).isSome

def isEmpty (registry : Registry m) : Bool := registry.families.isEmpty

def bridge (registry : Registry m) (family : Family) : Except PaymentError (Bridge m) :=
  match registry.get? family with
  | some bridge => .ok bridge
  | none => .error (.unsupportedFamily family)

theorem get?_insert (registry : Registry m) (bridge : Bridge m) (family : Family) :
    (registry.insert bridge).get? family =
      if family = bridge.family then some bridge else registry.get? family := rfl

end Registry

end WalletSync
