import WalletSync.Family.Address
import WalletSync.Sync.Refresh

/-!
Looking for the accounts of a wallet. Addresses are derived one after the other and asked about,
until an unused one is found (in a deep scan: a run of unused ones), an error occurs, or enough
addresses have been looked at.
-/

namespace WalletSync

namespace Discovery

abbrev Outcome := Except SyncError Account

/-- The length of the run of unused addresses after an outcome, if the scan goes on. -/
def next? (isDeep : Bool) (gap run : Nat) : Outcome → Option Nat
  | .error _ => none
  | .ok account =>
    if !account.isEmpty then some 0
    else if isDeep && run + 1 < gap then some (run + 1)
    else none

variable {m : Type → Type} [Monad m]

/-- The outcomes from an index on, `left` of them at most, after a run of unused addresses. -/
def scanFrom (outcome : Nat → m Outcome) (isDeep : Bool) (gap : Nat) :
    Nat → Nat → Nat → m (List Outcome)
  | 0, _, _ => return []
  | left + 1, index, run => do
    let item ← outcome index
    match next? isDeep gap run item with
    | none => return [item]
    | some run => return item :: (← scanFrom outcome isDeep gap left (index + 1) run)

end Discovery

namespace Bridge

variable {m : Type → Type} [Monad m]

def discover (bridge : Bridge m) (derive : Nat → Except String String) (now : Moment)
    (index : Nat) : ExceptT SyncError m Account := do
  match derive index with
  | .error reason => throw (.derivation index reason)
  | .ok derived =>
    let address := bridge.family.normalizeAddress derived
    let report ← ChainReport.fetch bridge.api address none
    return (Account.blank bridge.family address (Word.clamp index) now).refresh report now

/-- The outcomes of a scan, of which no more than `most` are wanted. -/
def scan (bridge : Bridge m) (derive : Nat → Except String String) (isDeep : Bool) (most : Nat)
    (now : Moment) : m (List Discovery.Outcome) :=
  Discovery.scanFrom (fun index => (bridge.discover derive now index).run) isDeep
    (max 1 bridge.limits.gapLimit.val) (min most bridge.limits.maxAccounts.val) 0 0

end Bridge

end WalletSync
