import Mathlib.Data.List.Nodup
import WalletSync.Chain.Memory
import WalletSync.Proofs.History.Merge

/-!
Why it is enough to ask a chain for what lies after the cursor. A history is compared with the
whole list of a chain's transactions, some of which were known when it was made and some of which
came later. The argument needs that a transaction that was settled stays as it is, and that what
came later does not lie before the cursor; that a chain behaves like this is shown elsewhere.
-/

namespace WalletSync

namespace ChainEntry

/-- The chain may still change its mind about the transaction. -/
def isOpen (entry : ChainEntry) : Bool := entry.blockHeight.isNone && !entry.status.isFailure

/-- The transaction is among those that are asked for, from a moment on if one is given. -/
def isAskedFor (entry : ChainEntry) (address : String) (since : Option Moment) : Bool :=
  entry.involves address && since.all fun since => decide (since ≤ entry.timestamp)

/-- `later` is a later report of the transaction of `entry`, which changes nothing once the
transaction is settled. -/
structure Advances (entry later : ChainEntry) : Prop where
  hash : later.hash = entry.hash
  sender : later.sender = entry.sender
  receiver : later.receiver = entry.receiver
  timestamp : later.timestamp = entry.timestamp
  settled : entry.isOpen = false → later = entry

theorem Advances.refl (entry : ChainEntry) : entry.Advances entry :=
  ⟨rfl, rfl, rfl, rfl, fun _ => rfl⟩

theorem Advances.trans {a b c : ChainEntry} (hab : a.Advances b) (hbc : b.Advances c) :
    a.Advances c where
  hash := hbc.hash.trans hab.hash
  sender := hbc.sender.trans hab.sender
  receiver := hbc.receiver.trans hab.receiver
  timestamp := hbc.timestamp.trans hab.timestamp
  settled closed := by
    obtain rfl := hab.settled closed
    exact hbc.settled closed

theorem Advances.involves {entry later : ChainEntry} (h : entry.Advances later)
    (address : String) : later.involves address = entry.involves address := by
  rw [ChainEntry.involves, h.sender, h.receiver, ChainEntry.involves]

theorem Advances.isAskedFor {entry later : ChainEntry} (h : entry.Advances later)
    (address : String) (since : Option Moment) :
    later.isAskedFor address since = entry.isAskedFor address since := by
  rw [ChainEntry.isAskedFor, h.involves, h.timestamp, ChainEntry.isAskedFor]

end ChainEntry

namespace History

variable (accountId address : String)

/-- The whole history of an address: the transactions of a chain that involve it as operations,
the latest first. -/
def full (entries : List ChainEntry) : List Operation :=
  latestFirst ((entries.filter (·.involves address)).map (ofEntry accountId address))

/-- The part of the history that is asked for, from a moment on if one is given. -/
def reported (since : Option Moment) (entries : List ChainEntry) : List Operation :=
  latestFirst ((entries.filter (·.isAskedFor address since)).map (ofEntry accountId address))

variable {accountId address}

theorem isSettled_ofEntry (entry : ChainEntry) :
    (ofEntry accountId address entry).isSettled = !entry.isOpen := by
  cases h : entry.blockHeight <;>
    simp [Operation.isSettled, Operation.isConfirmed, ofEntry, ChainEntry.isOpen, h]

theorem ofEntry_id_inj {a b : ChainEntry}
    (h : (ofEntry accountId address a).id = (ofEntry accountId address b).id) :
    a.hash = b.hash := (operationId_inj h).1

theorem ofEntry_id_of_advances {entry later : ChainEntry} (h : entry.Advances later) :
    (ofEntry accountId address later).id = (ofEntry accountId address entry).id := by
  simp only [ofEntry, h.hash, h.sender]

theorem map_hash_of_advances {entries : List ChainEntry} {advance : ChainEntry → ChainEntry}
    (h : ∀ entry ∈ entries, entry.Advances (advance entry)) :
    (entries.map advance).map (·.hash) = entries.map (·.hash) := by
  rw [List.map_map]
  exact List.map_congr_left fun entry hm => (h entry hm).hash

/-- Transactions of different hashes are operations of different ids. -/
theorem nodup_ids_map_ofEntry {entries : List ChainEntry}
    (once : (entries.map (·.hash)).Nodup) :
    (ids (entries.map (ofEntry accountId address))).Nodup := by
  rw [ids, List.map_map, List.Nodup, List.pairwise_map]
  exact (List.pairwise_map.mp once).imp fun differ same => differ (ofEntry_id_inj same)

theorem nodup_ids_latestFirst {ops : List Operation} :
    (ids (latestFirst ops)).Nodup ↔ (ids ops).Nodup :=
  ((latestFirst_perm ops).map _).nodup_iff

theorem nodup_ids_full {entries : List ChainEntry} (once : (entries.map (·.hash)).Nodup) :
    (ids (full accountId address entries)).Nodup :=
  nodup_ids_latestFirst.mpr
    (nodup_ids_map_ofEntry (once.sublist (List.filter_sublist.map _)))

theorem mem_full {op : Operation} {entries : List ChainEntry} :
    op ∈ full accountId address entries ↔
      ∃ entry ∈ entries, entry.involves address = true ∧
        ofEntry accountId address entry = op := by
  simp only [full, mem_latestFirst, List.mem_map, List.mem_filter, and_assoc]

/-- What a chain in memory reports, as operations. -/
theorem map_entriesOf (chain : MemoryChain) (since : Option Moment) :
    (chain.entriesOf address since).map (ofEntry accountId address) =
      reported accountId address since chain.history :=
  List.map_mergeSort fun _ _ _ _ => rfl

/-- The earliest of some dates is none of them later, whatever was found before. -/
theorem least_le (dates : List Moment) (least : Option Moment) {date : Moment}
    (h : date ∈ dates ∨ date ∈ least) :
    ∃ first ∈ dates.foldl (fun least date =>
      some ((least.map (Moment.earlier · date)).getD date)) least, first ≤ date := by
  induction dates generalizing least date with
  | nil => exact ⟨date, h.resolve_left List.not_mem_nil, Moment.le_refl date⟩
  | cons next rest ih =>
      rw [List.foldl_cons]
      rw [List.mem_cons, or_assoc, or_comm, or_assoc] at h
      rcases h with later | known | rfl
      · exact ih _ (.inl later)
      · obtain rfl := Option.mem_def.mp known
        obtain ⟨first, hf, hle⟩ := ih (some (Moment.earlier date next)) (.inr rfl)
        exact ⟨first, hf, Moment.le_trans hle (Moment.earlier_le_left date next)⟩
      · cases least with
        | none => exact ih _ (.inr rfl)
        | some old =>
            obtain ⟨first, hf, hle⟩ := ih (some (Moment.earlier old date)) (.inr rfl)
            exact ⟨first, hf, Moment.le_trans hle (Moment.earlier_le_right old date)⟩

/-- The cursor does not lie behind any operation that waits for a block. -/
theorem cursor_le_of_waiting {ops : List Operation} {op : Operation} (hop : op ∈ ops)
    (waiting : op.isSettled = false) : ∃ since, cursor ops = some since ∧ since ≤ op.date := by
  have listed : op.date ∈ (ops.filter fun op => !op.isSettled).map (·.date) :=
    List.mem_map_of_mem (List.mem_filter.mpr ⟨hop, by simp [waiting]⟩)
  obtain ⟨since, hs, hle⟩ := least_le _ none (.inl listed)
  refine ⟨since, ?_, hle⟩
  rw [cursor, oldestWaiting?, Option.mem_def.mp hs, Option.some_or]

theorem nodup_ids_reported {entries : List ChainEntry} (since : Option Moment)
    (once : (entries.map (·.hash)).Nodup) :
    (ids (reported accountId address since entries)).Nodup :=
  nodup_ids_latestFirst.mpr
    (nodup_ids_map_ofEntry (once.sublist (List.filter_sublist.map _)))

theorem mem_reported {op : Operation} {since : Option Moment} {entries : List ChainEntry} :
    op ∈ reported accountId address since entries ↔
      ∃ entry ∈ entries, entry.isAskedFor address since = true ∧
        ofEntry accountId address entry = op := by
  simp only [reported, mem_latestFirst, List.mem_map, List.mem_filter, and_assoc]

section Increment

variable {seen fresh : List ChainEntry} {advance : ChainEntry → ChainEntry}
  {since : Option Moment}

/-- What a known operation becomes by what is reported. One that is not reported lies before the
moment asked for, so it is settled and has not changed. -/
theorem refine_reported (once : ((seen.map advance ++ fresh).map (·.hash)).Nodup)
    (advances : ∀ entry ∈ seen, entry.Advances (advance entry))
    (reached : ∀ entry ∈ seen, entry.involves address = true → entry.isOpen = true →
      entry.isAskedFor address since = true)
    {entry : ChainEntry} (hm : entry ∈ seen) (hi : entry.involves address = true) :
    refine (reported accountId address since (seen.map advance ++ fresh))
      (ofEntry accountId address entry) = ofEntry accountId address (advance entry) := by
  have report := advances entry hm
  have among : advance entry ∈ seen.map advance ++ fresh :=
    List.mem_append_left fresh (List.mem_map_of_mem hm)
  by_cases asked : (advance entry).isAskedFor address since = true
  · exact refine_of_mem (nodup_ids_reported since once)
      (mem_reported.mpr ⟨advance entry, among, asked, rfl⟩) (ofEntry_id_of_advances report)
  · have closed : entry.isOpen = false := by
      by_contra waits
      apply asked
      rw [report.isAskedFor]
      exact reached entry hm hi (by simpa using waits)
    rw [report.settled closed]
    refine refine_of_not_mem fun known => ?_
    obtain ⟨op, hop, same⟩ := List.mem_map.mp known
    obtain ⟨other, inside, taken, rfl⟩ := mem_reported.mp hop
    have hashes : other.hash = (advance entry).hash := (ofEntry_id_inj same).trans report.hash.symm
    obtain rfl := List.inj_on_of_nodup_map once inside among hashes
    exact asked taken

theorem map_refine_reported (once : ((seen.map advance ++ fresh).map (·.hash)).Nodup)
    (advances : ∀ entry ∈ seen, entry.Advances (advance entry))
    (reached : ∀ entry ∈ seen, entry.involves address = true → entry.isOpen = true →
      entry.isAskedFor address since = true) :
    (full accountId address seen).map
        (refine (reported accountId address since (seen.map advance ++ fresh))) =
      full accountId address (seen.map advance) := by
  have refined : ∀ entry ∈ seen.filter (·.involves address),
      refine (reported accountId address since (seen.map advance ++ fresh))
        (ofEntry accountId address entry) = ofEntry accountId address (advance entry) := by
    intro entry hm
    obtain ⟨hm, hi⟩ := List.mem_filter.mp hm
    exact refine_reported once advances reached hm hi
  have involved : (seen.map advance).filter (·.involves address) =
      (seen.filter (·.involves address)).map advance := by
    rw [List.filter_map]
    refine congrArg (List.map advance) (List.filter_congr fun entry hm => ?_)
    exact (advances entry hm).involves address
  rw [full, full, involved, ← latestFirst_map, List.map_map, List.map_map]
  · exact congrArg latestFirst (List.map_congr_left refined)
  · intro op hop
    obtain ⟨entry, hm, rfl⟩ := List.mem_map.mp hop
    rw [refined entry hm]
    exact (advances entry (List.mem_filter.mp hm).1).timestamp

theorem id_not_mem_full (once : ((seen.map advance ++ fresh).map (·.hash)).Nodup)
    (advances : ∀ entry ∈ seen, entry.Advances (advance entry)) {entry : ChainEntry}
    (hm : entry ∈ fresh) :
    (ofEntry accountId address entry).id ∉ ids (full accountId address seen) := by
  intro known
  obtain ⟨op, hop, same⟩ := List.mem_map.mp known
  obtain ⟨old, ho, -, rfl⟩ := mem_full.mp hop
  rw [List.map_append, map_hash_of_advances advances, List.nodup_append] at once
  exact once.2.2 _ (List.mem_map_of_mem ho) _ (List.mem_map_of_mem hm) (ofEntry_id_inj same)

/-- What is reported of transactions that are not known yet. -/
theorem reported_unknown (once : ((seen.map advance ++ fresh).map (·.hash)).Nodup)
    (advances : ∀ entry ∈ seen, entry.Advances (advance entry))
    (late : ∀ entry ∈ fresh, entry.involves address = true →
      entry.isAskedFor address since = true) :
    (reported accountId address since (seen.map advance ++ fresh)).filter
        (·.id ∉ ids (full accountId address seen)) = full accountId address fresh := by
  rw [reported, ← latestFirst_filter, List.filter_map, List.filter_filter]
  refine congrArg latestFirst (congrArg (List.map (ofEntry accountId address)) ?_)
  rw [List.filter_append, List.filter_eq_nil_iff.mpr, List.nil_append]
  · refine List.filter_congr fun entry hm => ?_
    cases hi : entry.involves address with
    | false => simp [ChainEntry.isAskedFor, hi]
    | true => simp [late entry hm hi, id_not_mem_full once advances hm]
  · intro entry hm both
    obtain ⟨old, ho, rfl⟩ := List.mem_map.mp hm
    simp only [Function.comp_apply, Bool.and_eq_true, decide_eq_true_eq] at both
    obtain ⟨unknown, asked⟩ := both
    rw [ChainEntry.isAskedFor, Bool.and_eq_true, (advances old ho).involves] at asked
    apply unknown
    rw [ofEntry_id_of_advances (advances old ho)]
    exact mem_ids_of_mem (mem_full.mpr ⟨old, ho, asked.1, rfl⟩)

theorem isAskedFor_cursor_of_isOpen {entry : ChainEntry} (hm : entry ∈ seen)
    (hi : entry.involves address = true) (waits : entry.isOpen = true) :
    entry.isAskedFor address (cursor (full accountId address seen)) = true := by
  have waiting : (ofEntry accountId address entry).isSettled = false := by
    rw [isSettled_ofEntry, waits]
    rfl
  obtain ⟨since, hs, hle⟩ := cursor_le_of_waiting (mem_full.mpr ⟨entry, hm, hi, rfl⟩) waiting
  rw [ChainEntry.isAskedFor, hi, hs]
  exact decide_eq_true hle

/-- A history that was complete becomes complete again by what is reported from its cursor on. -/
theorem merge_reported (once : ((seen.map advance ++ fresh).map (·.hash)).Nodup)
    (advances : ∀ entry ∈ seen, entry.Advances (advance entry))
    (late : ∀ entry ∈ fresh, ∀ since ∈ cursor (full accountId address seen),
      since ≤ entry.timestamp) :
    merge (full accountId address seen)
        (reported accountId address (cursor (full accountId address seen))
          (seen.map advance ++ fresh)) =
      full accountId address (seen.map advance ++ fresh) := by
  have new : ∀ entry ∈ fresh, entry.involves address = true →
      entry.isAskedFor address (cursor (full accountId address seen)) = true := by
    intro entry hm hi
    rw [ChainEntry.isAskedFor, hi, Bool.true_and, Option.all_eq_true]
    intro since hs
    exact decide_eq_true (late entry hm since hs)
  have before : (seen.map (·.hash)).Nodup := by
    rw [List.map_append, map_hash_of_advances advances] at once
    exact (List.nodup_append.mp once).1
  rw [merge_eq _ (nodup_ids_full before) (descending_latestFirst _),
    map_refine_reported once advances fun _ => isAskedFor_cursor_of_isOpen,
    reported_unknown once advances new,
    distinct_of_nodup (nodup_ids_full ?_), full, full, latestFirst_append, full,
    List.filter_append, List.map_append]
  rw [List.map_append] at once
  exact (List.nodup_append.mp once).2.1

end Increment

end History

end WalletSync
