import Mathlib.Data.List.Perm.Basic
import Mathlib.Order.Monotone.Defs
import Mathlib.Order.Nat
import WalletSync.Ethereum.Explorer
import WalletSync.Proofs.Sync.Outcome

/-!
What an explorer's transactions since a moment are worth. The explorer is asked for the first block
that is late enough and then for the transactions from there on. When the first answer names a
block, nothing is missing from the second; when it names none, for whatever reason, the listing
begins at the head of the chain, and what older blocks hold is left out without an error.

The explorer is taken at its word for one fixed list of transactions; that the list may grow
between two questions is not treated.
-/

namespace WalletSync

theorem Moment.second_of_ofSeconds {second : Int} {moment : Moment}
    (h : ofSeconds? second = some moment) : moment.second = second := by
  unfold ofSeconds? of? at h
  split at h
  · cases h
    rfl
  · cases h

namespace Ethereum

def ExplorerReply.block? (reply : ExplorerReply) : Option Count :=
  match reply.result with
  | .string text => count? text
  | .number (.natural n) => Word.ofNat? n
  | _ => none

/-- The transactions that are listed, unless it is an error. -/
def ExplorerReply.records? (reply : ExplorerReply) : Option (List ExplorerEntry) :=
  if reply.status = "1" then Json.listOf? ExplorerEntry.ofJson? reply.result
  else if "No transactions found".toList.isPrefixOf reply.message.toList then some []
  else none

section Decoding

variable {ε α β : Type}

theorem except_bind_ok {x : Except ε α} {f : α → Except ε β} {b : β} :
    x >>= f = .ok b ↔ ∃ a, x = .ok a ∧ f a = .ok b := by
  cases x with
  | error e => exact ⟨nofun, nofun⟩
  | ok a => exact ⟨fun h => ⟨a, rfl, h⟩, fun ⟨_, same, h⟩ => Except.ok.inj same ▸ h⟩

theorem mapM_ok_iff {f : α → Except ε β} {items : List α} {results : List β} :
    items.mapM f = .ok results ↔ items.map f = results.map .ok := by
  induction items generalizing results with
  | nil => cases results <;> simp [pure, Except.pure]
  | cons item rest ih =>
      simp only [List.mapM_cons, except_bind_ok, ih, pure, Except.pure, Except.ok.injEq,
        List.map_cons]
      constructor
      · rintro ⟨result, first, others, later, rfl⟩
        rw [first, later, List.map_cons]
      · intro same
        cases results with
        | nil => cases same
        | cons result others =>
            obtain ⟨first, later⟩ := List.cons.inj same
            exact ⟨result, first, others, later, rfl⟩

theorem entriesOf_ok_iff {url : String} {reply : ExplorerReply} {entries : List ChainEntry} :
    entriesOf url reply = .ok entries ↔
      ∃ records, reply.records? = some records ∧
        records.map (·.toEntry url) = entries.map .ok := by
  unfold entriesOf ExplorerReply.records?
  by_cases listed : reply.status = "1"
  · simp only [listed, ne_eq, not_true_eq_false, if_false, if_true]
    cases Json.listOf? ExplorerEntry.ofJson? reply.result with
    | none => simp
    | some records => simp [mapM_ok_iff]
  · simp only [listed, ne_eq, not_false_eq_true, if_true, if_false]
    cases "No transactions found".toList.isPrefixOf reply.message.toList with
    | false => simp
    | true => cases entries <;> simp

/-- A transaction has the second that the explorer gives for it. -/
theorem ExplorerEntry.second_of_toEntry {record : ExplorerEntry} {url : String}
    {entry : ChainEntry} {second : Count} (stamp : count? record.timeStamp = some second)
    (decoded : record.toEntry url = .ok entry) : entry.timestamp.second = second.val := by
  have empty : count? "" = none := by decide
  have given : record.timeStamp ≠ "" := by
    intro absent
    rw [absent, empty] at stamp
    cases stamp
  have read : countIn url "timeStamp" record.timeStamp = .ok second := by
    rw [countIn, if_neg given, stamp]
  unfold toEntry at decoded
  obtain ⟨seconds, same, decoded⟩ := except_bind_ok.mp decoded
  obtain rfl := Except.ok.inj (read.symm.trans same)
  cases inRange : Moment.ofSeconds? second.val with
  | none =>
      rw [inRange] at decoded
      cases decoded
  | some timestamp =>
      simp only [inRange, except_bind_ok] at decoded
      obtain ⟨_, -, _, -, _, -, _, -, _, -, built⟩ := decoded
      rw [← Except.ok.inj built]
      exact Moment.second_of_ofSeconds inRange

end Decoding

structure Mined where
  record : ExplorerEntry
  block : Count
  second : Count
  number : count? record.blockNumber = some block
  stamp : count? record.timeStamp = some second

/-- The transactions of an address, in blocks of which none is older than those before it. -/
structure Ledger where
  /-- The second of a block. -/
  time : Nat → Nat
  ordered : Monotone time
  mined : List Mined
  timed : ∀ tx ∈ mined, time tx.block.val = tx.second.val

namespace Ledger

/-- The block is late enough, and the one before it is not. -/
def IsFirst (ledger : Ledger) (seconds block : Nat) : Prop :=
  seconds ≤ ledger.time block ∧ ∀ before, before + 1 = block → ledger.time before < seconds

/-- The transactions from the second of a moment on. -/
def since (ledger : Ledger) (moment : Moment) : List Mined :=
  ledger.mined.filter fun tx => moment.second ≤ tx.second.val

/-- Something was decoded, and it is from the second of the moment on. -/
def isSince (moment : Moment) : Except NetworkError ChainEntry → Bool
  | .ok entry => moment.second ≤ entry.timestamp.second
  | .error _ => false

def fromBlock (ledger : Ledger) (block : Count) : List Mined :=
  ledger.mined.filter fun tx => block ≤ tx.block

variable {σ : Type} {ask : ExplorerQuery → ExceptT NetworkError (StateM σ) ExplorerReply}
  {height : ExceptT NetworkError (StateM σ) Count} {explorer address : String} {s t : σ}

/-- The explorer and the node answer truthfully, or else with an error of their own. -/
structure Serves (ledger : Ledger)
    (ask : ExplorerQuery → ExceptT NetworkError (StateM σ) ExplorerReply)
    (height : ExceptT NetworkError (StateM σ) Count) (address : String) : Prop where
  lookup : ∀ seconds s reply t, outcome (ask (.blockAt seconds)) s = (.ok reply, t) →
    reply.status = "1" → ∀ block ∈ reply.block?, ledger.IsFirst seconds block.val
  listing : ∀ block s reply t, outcome (ask (.transactions address block)) s = (.ok reply, t) →
    ∀ records ∈ reply.records?, records.Perm ((ledger.fromBlock block).map Mined.record)
  head : ∀ s head t, outcome height s = (.ok head, t) → ∀ tx ∈ ledger.mined, tx.block ≤ head

variable {ledger : Ledger}

theorem IsFirst.le_of_le {seconds block other : Nat} (first : ledger.IsFirst seconds block)
    (late : seconds ≤ ledger.time other) : block ≤ other := by
  by_contra earlier
  obtain ⟨before, rfl⟩ : ∃ before, before + 1 = block := ⟨block - 1, by omega⟩
  have older := ledger.ordered (show other ≤ before by omega)
  have tooOld := first.2 before rfl
  omega

/-- The transactions since a moment are in the first late block or after it. -/
theorem IsFirst.le_block {moment : Moment} {block : Nat} {tx : Mined}
    (first : ledger.IsFirst moment.second.toNat block) (late : tx ∈ ledger.since moment) :
    block ≤ tx.block.val := by
  obtain ⟨known, late⟩ := List.mem_filter.mp late
  apply first.le_of_le
  rw [ledger.timed tx known]
  have := of_decide_eq_true late
  omega

theorem startBlock_ok_iff {moment : Moment} {block : Count} :
    outcome (startBlock ask height explorer (some moment)) s = (.ok block, t) ↔
      ∃ lookup next, outcome (ask (.blockAt moment.second.toNat)) s = (.ok lookup, next) ∧
        ((lookup.status = "1" ∧ lookup.block? = some block ∧ next = t) ∨
          lookup.status ≠ "1" ∧ outcome height next = (.ok block, t)) := by
  unfold startBlock
  simp only [outcome_bind_ok]
  refine exists_congr fun lookup => exists_congr fun next => and_congr_right fun _ => ?_
  by_cases found : lookup.status = "1"
  · simp only [found, ne_eq, not_true_eq_false, if_false, true_and, false_and, or_false]
    split
    · next number read =>
        have read : lookup.block? = some number := read
        simp [read]
    · next read =>
        have read : lookup.block? = none := read
        simp [read]
  · simp only [found, ne_eq, not_false_eq_true, if_true, true_and, false_and, false_or]

/-- What is decoded from the record of a transaction has its second. -/
theorem isSince_toEntry {tx : Mined} {url : String} {moment : Moment} {entries : List ChainEntry}
    (decoded : tx.record.toEntry url ∈ entries.map .ok) :
    isSince moment (tx.record.toEntry url) = decide (moment.second ≤ tx.second.val) := by
  obtain ⟨entry, -, same⟩ := List.mem_map.mp decoded
  have second := ExplorerEntry.second_of_toEntry tx.stamp same.symm
  rw [← same, isSince, second]

/-- What is kept of a listing from a block on. -/
theorem entriesOf_perm {url : String} {reply : ExplorerReply} {block : Count}
    {entries : List ChainEntry} (moment : Moment)
    (listing : ∀ records ∈ reply.records?,
      records.Perm ((ledger.fromBlock block).map Mined.record))
    (decoded : entriesOf url reply = .ok entries) :
    ((entries.filter fun entry => moment.second ≤ entry.timestamp.second).map Except.ok).Perm
      (((ledger.since moment).filter fun tx => block ≤ tx.block).map (·.record.toEntry url)) := by
  obtain ⟨records, listed, same⟩ := entriesOf_ok_iff.mp decoded
  have all : (entries.map Except.ok).Perm
      ((ledger.fromBlock block).map (·.record.toEntry url)) := by
    rw [← same]
    have mapped := (listing records listed).map (·.toEntry url)
    rwa [List.map_map] at mapped
  -- the records all decode, so the filter on the results is one on the transactions
  have late : (ledger.fromBlock block).filter (isSince moment ∘ (·.record.toEntry url)) =
      (ledger.since moment).filter fun tx => block ≤ tx.block := by
    rw [since, List.filter_comm]
    refine List.filter_congr fun tx known => ?_
    exact isSince_toEntry (all.symm.subset (List.mem_map_of_mem known))
  have kept := all.filter (isSince moment)
  rw [List.filter_map, List.filter_map, late] at kept
  exact kept

/-- With a block in the first answer nothing is missing from that moment on. Without one there are
only the transactions of the head. -/
theorem history_of_lookup {moment : Moment} {returned : List ChainEntry}
    (serves : ledger.Serves ask height address)
    (run : outcome (history ask height explorer address (some moment)) s = (.ok returned, t)) :
    ∃ lookup next url, outcome (ask (.blockAt moment.second.toNat)) s = (.ok lookup, next) ∧
      (lookup.status = "1" →
        (returned.map Except.ok).Perm ((ledger.since moment).map (·.record.toEntry url))) ∧
      (lookup.status ≠ "1" → ∃ head later, outcome height next = (.ok head, later) ∧
        (returned.map Except.ok).Perm (((ledger.since moment).filter fun tx =>
          tx.block = head).map (·.record.toEntry url))) := by
  unfold history at run
  simp only [outcome_bind_ok, outcome_pure, Prod.mk.injEq, Except.ok.injEq] at run
  obtain ⟨block, after, started, reply, later, listed, entries, last, decoded, rfl, -⟩ := run
  obtain ⟨lookup, next, asked, cases⟩ := startBlock_ok_iff.mp started
  have kept := entriesOf_perm moment (serves.listing block after reply later listed)
    (Prod.mk.inj decoded).1
  refine ⟨lookup, next, (ExplorerQuery.transactions address block).url explorer, asked, ?_, ?_⟩
  · intro found
    obtain ⟨-, number, -⟩ | ⟨none, -⟩ := cases
    -- the listing begins at or before every late transaction
    · have first := serves.lookup _ s lookup next asked found block number
      have all : (ledger.since moment).filter (fun tx => block ≤ tx.block) = ledger.since moment :=
        List.filter_eq_self.mpr fun tx late => decide_eq_true (first.le_block late)
      rwa [all] at kept
    · exact absurd found none
  · intro none
    obtain ⟨found, -⟩ | ⟨-, fallback⟩ := cases
    · exact absurd found none
    · refine ⟨block, after, fallback, ?_⟩
      -- no transaction is beyond the head, where the listing begins
      have last : (ledger.since moment).filter (fun tx => block ≤ tx.block) =
          (ledger.since moment).filter fun tx => tx.block = block := by
        refine List.filter_congr fun tx late => ?_
        have below := serves.head next block after fallback tx (List.mem_filter.mp late).1
        rw [decide_eq_decide]
        exact ⟨fun above => Word.ext (Nat.le_antisymm below above),
          fun same => Nat.le_of_eq (congrArg Word.val same.symm)⟩
      rwa [last] at kept

end Ledger

section Sample

open Ledger

def sampleRecord : ExplorerEntry :=
  { hash := "0xa", blockNumber := "2", blockHash := "0xb", timeStamp := "20", sender := "0xme"
    receiver := "0xyou", value := "1", gasUsed := "", gasPrice := "", nonce := "", isError := ""
    receiptStatus := "" }

def sampleListing : Json :=
  .array [.object [("hash", .string "0xa"), ("blockNumber", .string "2"),
    ("blockHash", .string "0xb"), ("timeStamp", .string "20"), ("from", .string "0xme"),
    ("to", .string "0xyou"), ("value", .string "1")]]

/-- A block every ten seconds, and a transaction in block 2. -/
def sampleLedger : Ledger where
  time block := 10 * block
  ordered _ _ le := Nat.mul_le_mul_left 10 le
  mined := [⟨sampleRecord, 2, 20, by decide, by decide⟩]
  timed := by decide

/-- An explorer that finds the block of the very start, or complains of too many questions. -/
def sampleReply (isBusy : Bool) : ExplorerQuery → ExplorerReply
  | .blockAt seconds =>
    if seconds = 0 ∧ isBusy = false then ⟨"1", "OK", .string "0"⟩
    else ⟨"0", "NOTOK", .string "Max rate limit reached"⟩
  | .transactions _ block =>
    if block ≤ 2 then ⟨"1", "OK", sampleListing⟩ else ⟨"0", "No transactions found", .array []⟩

def sampleAsk (isBusy : Bool) (query : ExplorerQuery) :
    ExceptT NetworkError (StateM Unit) ExplorerReply :=
  pure (sampleReply isBusy query)

theorem serves_sample (isBusy : Bool) :
    sampleLedger.Serves (sampleAsk isBusy) (pure 3) "0xme" where
  lookup seconds s reply t asked found block number := by
    cases asked
    by_cases early : seconds = 0 ∧ isBusy = false
    · simp only [sampleReply, if_pos early] at number
      obtain rfl : (0 : Count) = block := Option.some.inj number
      exact ⟨Nat.le_of_eq early.1, nofun⟩
    · simp [sampleReply, if_neg early] at found
  listing block s reply t asked records listed := by
    cases asked
    by_cases low : block ≤ 2
    · have reached : sampleLedger.fromBlock block = sampleLedger.mined :=
        List.filter_eq_self.mpr (by simpa [sampleLedger] using low)
      simp only [sampleReply, if_pos low] at listed
      obtain rfl : [sampleRecord] = records := Option.some.inj listed
      rw [reached]
      exact .refl _
    · have missed : sampleLedger.fromBlock block = [] :=
        List.filter_eq_nil_iff.mpr (by simpa [sampleLedger] using low)
      simp only [sampleReply, if_neg low] at listed
      obtain rfl : [] = records := Option.some.inj listed
      rw [missed]
      exact .nil
  head s head t asked := by
    cases asked
    decide

/-- The explorer finds the block of the cursor, and the transaction in block 2 is not missing. -/
theorem history_of_lookup_of_answer :
    ∃ returned, outcome (history (sampleAsk false) (pure 3) "" "0xme" (some .epoch)) () =
      (.ok returned, ()) ∧ returned.length = 1 := by
  have run : outcome (history (sampleAsk false) (pure 3) "" "0xme" (some .epoch)) () =
      (.ok _, ()) := rfl
  obtain ⟨lookup, next, url, asked, found, -⟩ := history_of_lookup (serves_sample false) run
  cases asked
  have all := (found rfl).length_eq
  rw [List.length_map, List.length_map] at all
  exact ⟨_, run, all⟩

/-- The explorer complains of too many questions, and the transaction in block 2 is skipped, as the
listing begins at block 3. -/
theorem rate_limit_skips_history :
    ¬ ∀ (ledger : Ledger) (ask : ExplorerQuery → ExceptT NetworkError (StateM Unit) ExplorerReply)
        (height : ExceptT NetworkError (StateM Unit) Count) (explorer address : String)
        (moment : Moment) (returned : List ChainEntry) (s t : Unit),
      ledger.Serves ask height address →
      outcome (history ask height explorer address (some moment)) s = (.ok returned, t) →
      ∀ tx ∈ ledger.since moment, ∃ entry ∈ returned, ∃ url, tx.record.toEntry url = .ok entry := by
  intro claim
  have run : outcome (history (sampleAsk true) (pure 3) "" "0xme" (some .epoch)) () =
      (.ok [], ()) := rfl
  obtain ⟨entry, listed, -⟩ := claim sampleLedger (sampleAsk true) (pure 3) _ _ _ _ _ _
    (serves_sample true) run _ (List.mem_singleton.mpr rfl)
  cases listed

end Sample

end Ethereum

end WalletSync
