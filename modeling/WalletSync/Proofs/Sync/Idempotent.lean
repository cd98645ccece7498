import WalletSync.Proofs.Chain.Memory
import WalletSync.Proofs.History.Cursor
import WalletSync.Proofs.Sync.NextSequence

/-!
As long as nothing happens on a chain, a second sync changes nothing but the date of the sync,
whatever the account was before the first: operations in any order, known twice, or of another
origin. It asks from another moment than the first did, but not from an earlier one, so that all it
is told has been worked in already.

A chain in memory is meant, which tells the same again. That dates do not lie in the very last leap
second is asked for, since a step past that one leads back.
-/

namespace WalletSync

theorem Pending.reconcile_reconcile (pending settled : List Operation) (address : String)
    (remote : Count) :
    reconcile (reconcile pending settled address remote) settled address remote =
      reconcile pending settled address remote := by
  rw [reconcile, reconcile, List.filter_filter]
  refine List.filter_congr fun op _ => ?_
  rw [Bool.and_self]

namespace History

variable {accountId address : String} {known : List Operation} {entries : List ChainEntry}

/-- What is told again has been told before, from any cursor that has not moved back. -/
theorem reported_of_later {since next : Option Moment} {op : Operation}
    (later : ∀ first ∈ since, ∃ second ∈ next, first ≤ second)
    (told : op ∈ reported accountId address next entries) :
    op ∈ reported accountId address since entries := by
  obtain ⟨entry, listed, asked, made⟩ := mem_reported.mp told
  refine mem_reported.mpr ⟨entry, listed, ?_, made⟩
  rw [ChainEntry.isAskedFor, Bool.and_eq_true, Option.all_eq_true] at asked ⊢
  refine ⟨asked.1, ?_⟩
  intro first given
  obtain ⟨second, moved, before⟩ := later first given
  exact decide_eq_true (Moment.le_trans before (of_decide_eq_true (asked.2 second moved)))

theorem merge_reported_again (once : (entries.map (·.hash)).Nodup)
    (early : ∀ op ∈ known, op.date ≤ Moment.latest)
    (listed : ∀ entry ∈ entries, entry.timestamp ≤ Moment.latest) :
    merge (merge known (reported accountId address (cursor known) entries))
        (reported accountId address
          (cursor (merge known (reported accountId address (cursor known) entries))) entries) =
      merge known (reported accountId address (cursor known) entries) := by
  by_cases news : reported accountId address (cursor known) entries = []
  · have same : merge known (reported accountId address (cursor known) entries) = known :=
      if_pos news
    rw [same, same]
  · have dated : ∀ op ∈ merge known (reported accountId address (cursor known) entries),
        op.date ≤ Moment.latest := by
      intro op merged
      rcases mem_of_mem_merge merged with old | told
      · exact early op old
      · obtain ⟨entry, among, -, rfl⟩ := mem_reported.mp told
        exact listed entry among
    have later : ∀ first ∈ cursor known, ∃ second ∈ cursor (merge known
        (reported accountId address (cursor known) entries)), first ≤ second := by
      intro first asked
      refine cursor_advances asked news ?_ dated
      intro op told
      obtain ⟨entry, -, asked', rfl⟩ := mem_reported.mp told
      rw [ChainEntry.isAskedFor, Bool.and_eq_true, Option.all_eq_true] at asked'
      exact of_decide_eq_true (asked'.2 first asked)
    refine merge_of_subset (nodup_ids_merge_of_news known news)
      (descending_merge_of_news known news) (nodup_ids_reported _ once) ?_
    intro op told
    exact mem_merge_of_mem (nodup_ids_reported _ once) (reported_of_later later told)

end History

namespace MemoryChain

/-- The account as the chain sees it from its cursor on. -/
def refreshed (chain : MemoryChain) (account : Account) (now : Moment) : Account :=
  account.refresh (chain.report account.address (History.cursor account.operations)) now

variable {family : Family} {limits : ScanLimits} {account : Account} {chain : MemoryChain}

theorem outcome_sync_of_calm (same : account.family = family) (calm : chain.syncFailure? = none)
    (now : Moment) :
    outcome ((bridge family limits).sync account now) chain =
      (.ok (chain.refreshed account now), chain) := by
  rw [outcome_sync same, calm]
  rfl

theorem refreshed_refreshed (once : (chain.history.map (·.hash)).Nodup)
    (early : ∀ op ∈ account.operations, op.date ≤ Moment.latest)
    (listed : ∀ entry ∈ chain.history, entry.timestamp ≤ Moment.latest) (now later : Moment) :
    chain.refreshed (chain.refreshed account now) later =
      { chain.refreshed account now with lastSyncDate := later } := by
  have again := @History.merge_reported_again account.id account.address _ _ once early listed
  simp only [refreshed, Account.refresh, report, History.map_entriesOf, again,
    Pending.reconcile_reconcile]

/-- Syncing what a sync has returned returns it again, but for the date of the sync. -/
theorem second_sync_changes_nothing (same : account.family = family)
    (calm : chain.syncFailure? = none) (once : (chain.history.map (·.hash)).Nodup)
    (early : ∀ op ∈ account.operations, op.date ≤ Moment.latest)
    (listed : ∀ entry ∈ chain.history, entry.timestamp ≤ Moment.latest) (now : Moment) :
    ∃ synced, outcome ((bridge family limits).sync account now) chain = (.ok synced, chain) ∧
      ∀ later, outcome ((bridge family limits).sync synced later) chain =
        (.ok { synced with lastSyncDate := later }, chain) := by
  refine ⟨chain.refreshed account now, outcome_sync_of_calm same calm now, ?_⟩
  intro later
  have again : (chain.refreshed account now).family = family := same
  rw [outcome_sync_of_calm again calm, refreshed_refreshed once early listed]

/-- Two payments wait, one of which is known twice, in front of and behind a later one. -/
def disorderedAccount : Account :=
  let listed := History.ofEntry (accountId .elrond "me") "me"
  { sampleSender [("a", 0), ("b", 1)] with
    operations := [listed (samplePayment "a" 0 none),
      listed { samplePayment "c" 0 (some 7) with sender := "you", timestamp := .latest },
      listed (samplePayment "a" 0 none)] }

/-- The payment that was known twice is in a block by now, the other one is not. -/
def movedOnChain : MemoryChain := laggingChain.addEntry (samplePayment "b" 1 none)

theorem second_sync_of_disordered :
    ¬(ids disorderedAccount.operations).Nodup ∧
      ∃ synced, outcome ((bridge .elrond ⟨1, 1⟩).sync disorderedAccount .epoch) movedOnChain =
          (.ok synced, movedOnChain) ∧
        ∀ later, outcome ((bridge .elrond ⟨1, 1⟩).sync synced later) movedOnChain =
          (.ok { synced with lastSyncDate := later }, movedOnChain) := by
  refine ⟨by decide +kernel, ?_⟩
  exact second_sync_changes_nothing rfl rfl (by decide) (by decide +kernel) (by decide +kernel)
    .epoch

end MemoryChain

end WalletSync
