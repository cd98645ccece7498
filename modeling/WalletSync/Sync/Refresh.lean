import WalletSync.Account.Basic
import WalletSync.Bridge
import WalletSync.History
import WalletSync.Pending
import WalletSync.Sync.Error

/-!
Bringing an account up to date: balance, sequence number, height and new transactions are asked
for, in this order, and worked into the account.
-/

namespace WalletSync

structure ChainReport where
  balance : Amount
  sequence : Count
  blockHeight : Count
  /-- The transactions from the moment on that was asked for. -/
  entries : List ChainEntry
deriving DecidableEq

variable {m : Type → Type} [Monad m]

/-- Asks a chain about an address. The first failing call ends it. -/
def ChainReport.fetch (api : ChainApi m) (address : String) (since : Option Moment) :
    ExceptT SyncError m ChainReport := do
  let balance ← (api.balance address).adapt (.network .balance)
  let sequence ← (api.sequence address).adapt (.network .sequence)
  let blockHeight ← api.blockHeight.adapt (.network .blockHeight)
  let entries ← (api.history address since).adapt (.network .history)
  return { balance, sequence, blockHeight, entries }

namespace Account

def blank (family : Family) (address : String) (index : Word 32) (now : Moment) : Account :=
  { id := accountId family address, family := family, address := address, index := index
    balance := 0, spendable := 0, blockHeight := 0, operationsCount := 0, operations := []
    pending := [], lastSyncDate := now, resources := ⟨family, 0⟩ }

/-- The account after a report. What the report settles is no longer pending. -/
def refresh (account : Account) (report : ChainReport) (now : Moment) : Account :=
  let operations := History.merge account.operations
    (report.entries.map (History.ofEntry account.id account.address))
  { account with
    balance := report.balance
    spendable := report.balance
    blockHeight := report.blockHeight
    operationsCount := Word.clamp operations.length
    operations := operations
    pending := Pending.reconcile account.pending (operations.filter Operation.isSettled)
      account.address report.sequence
    lastSyncDate := now
    resources := ⟨account.family, report.sequence⟩ }

end Account

/-- The account as its chain sees it now. Only transactions are asked for that may be news. -/
def Bridge.sync (bridge : Bridge m) (account : Account) (now : Moment) :
    ExceptT SyncError m Account := do
  if account.family ≠ bridge.family then
    throw (.familyMismatch account.family bridge.family)
  let report ← ChainReport.fetch bridge.api account.address (History.cursor account.operations)
  return account.refresh report now

end WalletSync
