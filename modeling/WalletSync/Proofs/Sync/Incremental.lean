import Mathlib.Logic.Relation
import WalletSync.Proofs.Chain.Memory
import WalletSync.Proofs.History.Increment

/-!
Whole runs of a chain in memory and of an account that is synced with it from time to time. After
every sync that succeeds the account holds the history that the chain has by then, as if nothing
had been known of it before.

The invariant relates the account to the chain as it was at the last such sync: of those
transactions only open ones have changed since, and what has been added lies at the cursor of the
account or after it.
-/

namespace WalletSync

/-- A chain in memory, and an account of it as it was last seen. -/
structure Watch where
  chain : MemoryChain
  account : Account

namespace Watch

/-- What happens in a run. A transaction that is added has a hash of its own and does not lie
before the cursor of the account, and only a transaction that is open is put into a block. -/
inductive Step (family : Family) (limits : ScanLimits) : Watch → Watch → Prop
  | synced {w : Watch} {now : Moment} {account : Account} {chain : MemoryChain} :
      outcome ((MemoryChain.bridge family limits).sync w.account now) w.chain =
        (.ok account, chain) →
      Step family limits w ⟨chain, account⟩
  | notSynced {w : Watch} {now : Moment} {error : SyncError} {chain : MemoryChain} :
      outcome ((MemoryChain.bridge family limits).sync w.account now) w.chain =
        (.error error, chain) →
      Step family limits w ⟨chain, w.account⟩
  | setAccount (w : Watch) (address : String) (balance : Amount) (nonce : Count) :
      Step family limits w ⟨w.chain.setAccount address balance nonce, w.account⟩
  | setBlockHeight (w : Watch) (height : Count) :
      Step family limits w ⟨w.chain.setBlockHeight height, w.account⟩
  | addEntry {w : Watch} {entry : ChainEntry} :
      entry.hash ∉ w.chain.history.map (·.hash) →
      (∀ since ∈ History.cursor w.account.operations, since ≤ entry.timestamp) →
      Step family limits w ⟨w.chain.addEntry entry, w.account⟩
  | confirm {w : Watch} {hash : String} (height : Count) :
      (∀ entry ∈ w.chain.history, entry.hash = hash → entry.isOpen = true) →
      Step family limits w ⟨w.chain.confirm hash height, w.account⟩
  | fail (w : Watch) (call : ChainCall) (error : NetworkError) :
      Step family limits w ⟨w.chain.fail call error, w.account⟩
  | clearFailures (w : Watch) : Step family limits w ⟨w.chain.clearFailures, w.account⟩

/-- The account holds the whole history of its address as it was once, `seen`, and nothing has
happened since that could escape the next sync. -/
structure Complete (w : Watch) (seen fresh : List ChainEntry)
    (advance : ChainEntry → ChainEntry) : Prop where
  once : (w.chain.history.map (·.hash)).Nodup
  history : w.chain.history = seen.map advance ++ fresh
  advances : ∀ entry ∈ seen, entry.Advances (advance entry)
  operations : w.account.operations = History.full w.account.id w.account.address seen
  late : ∀ entry ∈ fresh, ∀ since ∈ History.cursor w.account.operations, since ≤ entry.timestamp

variable {family : Family} {limits : ScanLimits} {w : Watch} {seen fresh : List ChainEntry}
  {advance : ChainEntry → ChainEntry}

/-- A sync asks from the cursor on, and that makes the history complete. -/
theorem Complete.operations_refresh (h : w.Complete seen fresh advance) (now : Moment) :
    (w.account.refresh (w.chain.report w.account.address
      (History.cursor w.account.operations)) now).operations =
      History.full w.account.id w.account.address w.chain.history := by
  rw [Account.refresh, MemoryChain.report]
  simp only
  rw [History.map_entriesOf, h.operations]
  have once := h.once
  have late := h.late
  rw [h.history] at once ⊢
  rw [h.operations] at late
  exact History.merge_reported once h.advances late

/-- An account of which no operation is known misses nothing. -/
theorem complete_of_unknown (once : (w.chain.history.map (·.hash)).Nodup)
    (unknown : w.account.operations = []) : w.Complete [] w.chain.history id where
  once := once
  history := rfl
  advances _ hm := absurd hm List.not_mem_nil
  operations := by
    rw [unknown, History.full, List.filter_nil, List.map_nil, History.latestFirst,
      List.mergeSort_nil]
  late entry _ since hs := by
    rw [unknown] at hs
    cases hs

/-- What the chain does to a transaction that is put into a block. -/
theorem advances_confirmEntry {entry : ChainEntry} (waits : entry.isOpen = true)
    (confirmation : Confirmation) :
    entry.Advances (MemoryChain.confirmEntry confirmation entry) where
  hash := rfl
  sender := rfl
  receiver := rfl
  timestamp := rfl
  settled closed := by
    rw [waits] at closed
    cases closed

theorem Complete.confirm (h : w.Complete seen fresh advance) {hash : String} (height : Count)
    (waits : ∀ entry ∈ w.chain.history, entry.hash = hash → entry.isOpen = true) :
    ∃ advance' fresh', Complete ⟨w.chain.confirm hash height, w.account⟩ seen fresh' advance' := by
  let report (entry : ChainEntry) : ChainEntry :=
    if entry.hash = hash then MemoryChain.confirmEntry (.ofHeight height) entry else entry
  have reports : ∀ entry ∈ w.chain.history, entry.Advances (report entry) := by
    intro entry hm
    by_cases same : entry.hash = hash
    · simp only [report, if_pos same]
      exact advances_confirmEntry (waits entry hm same) _
    · simp only [report, if_neg same]
      exact ChainEntry.Advances.refl entry
  refine ⟨report ∘ advance, fresh.map report, ?_, ?_, ?_, h.operations, ?_⟩
  · exact History.map_hash_of_advances reports ▸ h.once
  · change w.chain.history.map report = _
    rw [h.history, List.map_append, List.map_map]
  · intro entry hm
    refine (h.advances entry hm).trans (reports _ ?_)
    rw [h.history]
    exact List.mem_append_left fresh (List.mem_map_of_mem hm)
  · intro later hm since hs
    obtain ⟨entry, hf, rfl⟩ := List.mem_map.mp hm
    have among : entry ∈ w.chain.history := h.history ▸ List.mem_append_right _ hf
    rw [(reports entry among).timestamp]
    exact h.late entry hf since hs

theorem Complete.addEntry (h : w.Complete seen fresh advance) {entry : ChainEntry}
    (new : entry.hash ∉ w.chain.history.map (·.hash))
    (late : ∀ since ∈ History.cursor w.account.operations, since ≤ entry.timestamp) :
    Complete ⟨w.chain.addEntry entry, w.account⟩ seen (fresh ++ [entry]) advance where
  once := by
    rw [MemoryChain.addEntry, List.map_append, List.nodup_append_comm]
    exact List.nodup_cons.mpr ⟨new, h.once⟩
  history := by
    rw [MemoryChain.addEntry, h.history, List.append_assoc]
  advances := h.advances
  operations := h.operations
  late other hm := by
    rcases List.mem_append.mp hm with hm | hm
    · exact h.late other hm
    · obtain rfl := List.mem_singleton.mp hm
      exact late

/-- One step keeps the invariant. A sync that succeeds starts it anew with all that the chain has
by then; one that fails changes nothing. -/
theorem Complete.step (h : w.Complete seen fresh advance) {next : Watch}
    (step : Step family limits w next) :
    ∃ seen' fresh' advance', next.Complete seen' fresh' advance' := by
  cases step with
  | synced run =>
      obtain rfl := MemoryChain.sync_keeps_chain run
      obtain ⟨-, -, rfl⟩ := MemoryChain.sync_ok run
      refine ⟨w.chain.history, [], id, h.once, ?_, ?_, h.operations_refresh _,
        fun _ hm => absurd hm List.not_mem_nil⟩
      · rw [List.map_id, List.append_nil]
      · exact fun entry _ => ChainEntry.Advances.refl entry
  | notSynced run =>
      obtain rfl := MemoryChain.sync_keeps_chain run
      exact ⟨seen, fresh, advance, h⟩
  | addEntry new late => exact ⟨_, _, _, h.addEntry new late⟩
  | confirm height waits =>
      obtain ⟨advance', fresh', h'⟩ := h.confirm height waits
      exact ⟨_, _, _, h'⟩
  | setAccount | setBlockHeight | fail | clearFailures =>
      exact ⟨seen, fresh, advance, h.once, h.history, h.advances, h.operations, h.late⟩

theorem complete_of_run {start : Watch} (once : (start.chain.history.map (·.hash)).Nodup)
    (unknown : start.account.operations = [])
    (run : Relation.ReflTransGen (Step family limits) start w) :
    ∃ seen fresh advance, w.Complete seen fresh advance := by
  induction run with
  | refl => exact ⟨_, _, _, complete_of_unknown once unknown⟩
  | tail _ step ih =>
      obtain ⟨_, _, _, h⟩ := ih
      exact h.step step

/-- Whatever has happened since nothing was known: after a sync that succeeds the account holds
all transactions that involve it, the latest first and those of one date in the order in which
they were added; and so does every account of the address that is synced without knowing any. -/
theorem sync_completes_history {start : Watch} {now : Moment} {synced : Account}
    {chain : MemoryChain} (once : (start.chain.history.map (·.hash)).Nodup)
    (unknown : start.account.operations = [])
    (run : Relation.ReflTransGen (Step family limits) start w)
    (sync : outcome ((MemoryChain.bridge family limits).sync w.account now) w.chain =
      (.ok synced, chain)) :
    History.IsLatestFirst synced.operations
        ((chain.history.filter (·.involves synced.address)).map
          (History.ofEntry synced.id synced.address)) ∧
      ∀ (blank : Account) (later : Moment), blank.family = family → blank.id = synced.id →
        blank.address = synced.address → blank.operations = [] →
        ∃ resolved, outcome ((MemoryChain.bridge family limits).sync blank later) chain =
            (.ok resolved, chain) ∧ resolved.operations = synced.operations := by
  obtain ⟨_, _, _, complete⟩ := complete_of_run once unknown run
  obtain rfl := MemoryChain.sync_keeps_chain sync
  obtain ⟨-, succeeds, rfl⟩ := MemoryChain.sync_ok sync
  have operations := complete.operations_refresh now
  refine ⟨?_, fun blank later hfamily hid haddress hops => ?_⟩
  · rw [operations]
    exact History.isLatestFirst_latestFirst _
  · have fresh : Complete ⟨w.chain, blank⟩ [] w.chain.history id :=
      complete_of_unknown complete.once hops
    have resolves := fresh.operations_refresh later
    have sameId : blank.id = w.account.id := hid
    have sameAddress : blank.address = w.account.address := haddress
    refine ⟨_, by rw [MemoryChain.outcome_sync hfamily, succeeds], ?_⟩
    rw [resolves, operations, sameId, sameAddress]

/-- A payment to the address `you` that waits for its block. -/
def waiting : ChainEntry :=
  { hash := "p", sender := "me", receiver := some "you", value := 100, fee := 7
    timestamp := .epoch, blockHeight := none, blockHash := none, nonce := 3, status := .pending }

/-- A payment from the address `you`, later and settled at once. -/
def received : ChainEntry :=
  { hash := "q", sender := "you", receiver := some "me", value := 5, fee := 1
    timestamp := (Moment.of? 60 0).getD .epoch, blockHeight := some 5, blockHash := some "block5"
    nonce := 0, status := .success }

/-- The account of the address `me` after a sync that saw the payment out. -/
def afterPayment : Account :=
  (Account.blank .elrond "me" 0 .epoch).refresh
    (MemoryChain.report { history := [waiting] } "me" none) .epoch

theorem run_to_confirmation :
    Relation.ReflTransGen (Step .elrond ⟨1, 1⟩)
      ⟨{ history := [waiting] }, .blank .elrond "me" 0 .epoch⟩
      ⟨MemoryChain.confirm { history := [waiting, received] } "p" 6, afterPayment⟩ := by
  let both : MemoryChain := { history := [waiting, received] }
  have resolved : outcome ((MemoryChain.bridge .elrond ⟨1, 1⟩).sync
      (.blank .elrond "me" 0 .epoch) .epoch) { history := [waiting] } =
      (.ok afterPayment, { history := [waiting] }) := MemoryChain.outcome_sync rfl
  have failed : outcome ((MemoryChain.bridge .elrond ⟨1, 1⟩).sync afterPayment .epoch)
      (both.fail .history (.down "node")) =
      (.error (.network .history (.down "node")), both.fail .history (.down "node")) :=
    MemoryChain.outcome_sync rfl
  have late : ∀ since ∈ History.cursor afterPayment.operations, since ≤ received.timestamp := by
    decide +kernel
  have waits : ∀ entry ∈ both.history, entry.hash = "p" → entry.isOpen = true := by decide
  have added : Step .elrond ⟨1, 1⟩ ⟨{ history := [waiting] }, afterPayment⟩ ⟨both, afterPayment⟩ :=
    .addEntry (by decide) late
  have broken : Step .elrond ⟨1, 1⟩ ⟨both, afterPayment⟩
      ⟨both.fail .history (.down "node"), afterPayment⟩ := .fail _ _ _
  have mended : Step .elrond ⟨1, 1⟩ ⟨both.fail .history (.down "node"), afterPayment⟩
      ⟨both, afterPayment⟩ := .clearFailures _
  have confirmed : Step .elrond ⟨1, 1⟩ ⟨both, afterPayment⟩ ⟨both.confirm "p" 6, afterPayment⟩ :=
    .confirm 6 waits
  exact .tail (.tail (.tail (.tail (.tail (.single (.synced resolved)) added) broken)
    (.notSynced failed)) mended) confirmed

/-- The payment out is confirmed when a later one is known already, and a sync has failed. -/
theorem sync_completes_history_of_confirmed :
    ∃ synced, outcome ((MemoryChain.bridge .elrond ⟨1, 1⟩).sync afterPayment .epoch)
        (MemoryChain.confirm { history := [waiting, received] } "p" 6) =
          (.ok synced, MemoryChain.confirm { history := [waiting, received] } "p" 6) ∧
      History.IsLatestFirst synced.operations
        ([MemoryChain.confirmEntry (.ofHeight 6) waiting, received].map
          (History.ofEntry synced.id "me")) := by
  refine ⟨_, MemoryChain.outcome_sync rfl, ?_⟩
  exact (sync_completes_history (by decide) rfl run_to_confirmation
    (MemoryChain.outcome_sync rfl)).1

end Watch

end WalletSync
