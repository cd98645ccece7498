import WalletSync.Proofs.History.Ids
import WalletSync.Proofs.Sync.Carry
import WalletSync.Sync.Discovery

/-!
What is true of an account at any one moment, whatever a chain answers: its history is in order
and has every id once, its count and its resources belong to it, and so do its pending ids. A scan
finds such accounts; recording an operation and ending a sync lead from such accounts to such
accounts and lose no operation. Whole runs of a handle are treated elsewhere.
-/

namespace WalletSync

namespace Account

structure Consistent (account : Account) : Prop where
  descending : account.operations.Pairwise fun a b => b.date ≤ a.date
  once : (ids account.operations).Nodup
  /-- The count is a word; no list that is held is too long for it. -/
  counted : account.operationsCount = Word.clamp account.operations.length
  pendingOnce : (ids account.pending).Nodup
  ownResources : account.resources.family = account.family

instance (account : Account) : Decidable account.Consistent :=
  decidable_of_iff
    ((account.operations.Pairwise fun a b => b.date ≤ a.date) ∧ (ids account.operations).Nodup ∧
      account.operationsCount = Word.clamp account.operations.length ∧
      (ids account.pending).Nodup ∧ account.resources.family = account.family)
    ⟨fun ⟨a, b, c, d, e⟩ => ⟨a, b, c, d, e⟩, fun ⟨a, b, c, d, e⟩ => ⟨a, b, c, d, e⟩⟩

/-- The same account at a later time: nothing that names it has changed, and no operation is
lost. -/
structure Extends (later earlier : Account) : Prop where
  id : later.id = earlier.id
  family : later.family = earlier.family
  address : later.address = earlier.address
  index : later.index = earlier.index
  operations : ids earlier.operations ⊆ ids later.operations

theorem Extends.trans {a b c : Account} (hab : a.Extends b) (hbc : b.Extends c) : a.Extends c where
  id := hab.id.trans hbc.id
  family := hab.family.trans hbc.family
  address := hab.address.trans hbc.address
  index := hab.index.trans hbc.index
  operations := List.Subset.trans hbc.operations hab.operations

variable {account : Account}

theorem consistent_blank (family : Family) (address : String) (index : Word 32) (now : Moment) :
    (blank family address index now).Consistent where
  descending := .nil
  once := .nil
  counted := rfl
  pendingOnce := .nil
  ownResources := rfl

/-- The pending list is the only part that a recorded operation touches. -/
theorem Consistent.withPending (h : account.Consistent) {pending : List Operation}
    (once : (ids pending).Nodup) : { account with pending := pending }.Consistent :=
  { h with pendingOnce := once }

theorem Consistent.refresh (h : account.Consistent) (report : ChainReport) (now : Moment) :
    (account.refresh report now).Consistent where
  descending := History.descending_merge _ h.descending
  once := History.nodup_ids_merge _ h.once
  counted := rfl
  pendingOnce := h.pendingOnce.sublist (List.filter_sublist.map _)
  ownResources := rfl

theorem extends_refresh (report : ChainReport) (now : Moment) :
    (account.refresh report now).Extends account where
  id := rfl
  family := rfl
  address := rfl
  index := rfl
  operations := fun _ known => (History.mem_ids_merge _ _).mpr (.inl known)

end Account

namespace Pending

theorem eq_or_mem_of_mem_add {entry op : Operation} {pending : List Operation}
    (listed : entry ∈ add op pending) : entry = op ∨ entry ∈ pending :=
  (List.mem_cons.mp listed).imp_right fun kept => (List.mem_filter.mp kept).1

theorem nodup_ids_add (op : Operation) {pending : List Operation} (once : (ids pending).Nodup) :
    (ids (add op pending)).Nodup := by
  rw [add, ids_cons, List.nodup_cons]
  constructor
  · intro known
    obtain ⟨other, ho, same⟩ := List.mem_map.mp known
    simp [same] at ho
  · exact once.sublist (List.filter_sublist.map _)

/-- Entries that are carried over have ids that the kept ones had no part in. -/
theorem nodup_ids_carried (ops : List Operation) {pending kept : List Operation}
    (once : (ids pending).Nodup) (among : kept.Sublist pending) :
    (ids ((latestForms ops).filter (·.id ∉ ids pending) ++ kept)).Nodup := by
  rw [ids_append, List.nodup_append]
  refine ⟨(nodup_ids_firstOfEach _).sublist (List.filter_sublist.map _),
    once.sublist (among.map _), ?_⟩
  rintro id new _ old rfl
  obtain ⟨op, hop, rfl⟩ := List.mem_map.mp new
  have unknown := of_decide_eq_true (List.mem_filter.mp hop).2
  exact unknown (among.map _ |>.subset old)

end Pending

section Handle

open Handle

variable {base handle after : Handle} {op : Operation} {ops : List Operation}

theorem Account.Consistent.record (h : handle.current.Consistent)
    (recorded : handle.record op = .ok after) : after.current.Consistent := by
  obtain ⟨-, rfl⟩ := record_ok_iff.mp recorded
  exact h.withPending (Pending.nodup_ids_add op h.pendingOnce)

theorem Handle.extends_record (recorded : handle.record op = .ok after) :
    after.current.Extends handle.current := by
  obtain ⟨-, rfl⟩ := record_ok_iff.mp recorded
  exact ⟨rfl, rfl, rfl, rfl, List.Subset.refl _⟩

/-- A sync that ends while operations have been recorded: the base of the sync is what counts. -/
theorem Account.Consistent.publish (h : base.current.Consistent) (report : ChainReport)
    (now : Moment) :
    ((base.recordAll ops).publish base (base.current.refresh report now)).current.Consistent := by
  rw [publish_recordAll]
  exact (h.refresh report now).withPending
    (Pending.nodup_ids_carried ops h.pendingOnce List.filter_sublist)

theorem Handle.extends_publish (report : ChainReport) (now : Moment) :
    ((base.recordAll ops).publish base (base.current.refresh report now)).current.Extends
      (base.recordAll ops).current := by
  rw [publish_recordAll, recordAll_eq]
  have refreshed : (base.current.refresh report now).Extends base.current :=
    Account.extends_refresh report now
  exact ⟨rfl, rfl, rfl, rfl, refreshed.operations⟩

end Handle

section Discovery

variable {σ : Type} {bridge : Bridge (StateM σ)} {derive : Nat → Except String String}
  {now : Moment} {account : Account}

theorem Discovery.run_scanFrom (ask : Nat → StateM σ Outcome) (isDeep : Bool)
    (gap left index run : Nat) (s : σ) :
    (scanFrom ask isDeep gap (left + 1) index run).run s =
      match next? isDeep gap run ((ask index).run s).1 with
      | none => ([((ask index).run s).1], ((ask index).run s).2)
      | some run =>
        let later := (scanFrom ask isDeep gap left (index + 1) run).run ((ask index).run s).2
        (((ask index).run s).1 :: later.1, later.2) := by
  rw [scanFrom, StateT.run_bind]
  change (match next? isDeep gap run ((ask index).run s).1 with
    | none => pure [((ask index).run s).1]
    | some run => do
      return ((ask index).run s).1 :: (← scanFrom ask isDeep gap left (index + 1) run)).run
        ((ask index).run s).2 = _
  cases next? isDeep gap run ((ask index).run s).1 <;> rfl

/-- Every outcome of a scan is the outcome for one address. -/
theorem Discovery.mem_scanFrom {ask : Nat → StateM σ Outcome} {isDeep : Bool} {gap : Nat}
    {item : Outcome} (left index run : Nat) (s : σ)
    (found : item ∈ ((scanFrom ask isDeep gap left index run).run s).1) :
    ∃ i before, ((ask i).run before).1 = item := by
  induction left generalizing index run s with
  | zero => cases found
  | succ left ih =>
      rw [run_scanFrom] at found
      cases step : next? isDeep gap run ((ask index).run s).1 with
      | none =>
          rw [step] at found
          exact ⟨index, s, (List.mem_singleton.mp found).symm⟩
      | some run' =>
          rw [step] at found
          rcases List.mem_cons.mp found with first | later
          · exact ⟨index, s, first.symm⟩
          · exact ih _ _ _ later

/-- A discovered account is a blank one after its first report. -/
theorem Bridge.refresh_of_discover {index : Nat} {s t : σ}
    (found : outcome (bridge.discover derive now index) s = (.ok account, t)) :
    ∃ address report, account =
      (Account.blank bridge.family address (Word.clamp index) now).refresh report now := by
  unfold Bridge.discover at found
  cases derived : derive index with
  | error reason => simp [derived] at found
  | ok text =>
      simp only [derived, outcome_bind_ok, outcome_pure, Prod.mk.injEq, Except.ok.injEq] at found
      obtain ⟨report, -, -, rfl, -⟩ := found
      exact ⟨_, report, rfl⟩

theorem Bridge.refresh_of_scan {isDeep : Bool} {most : Nat} {s : σ}
    (found : .ok account ∈ ((bridge.scan derive isDeep most now).run s).1) :
    ∃ address index report, account =
      (Account.blank bridge.family address index now).refresh report now := by
  obtain ⟨index, before, run⟩ := Discovery.mem_scanFrom _ _ _ s found
  obtain ⟨address, report, rfl⟩ := refresh_of_discover (Prod.ext run rfl)
  exact ⟨address, _, report, rfl⟩

/-- The account that a scan of a chain in memory finds at the address `me`. -/
def sampleScanned (chain : MemoryChain) : Account :=
  (Account.blank .elrond "me" 0 .epoch).refresh (chain.report "me" none) .epoch

def sampleScan (chain : MemoryChain) : List Discovery.Outcome :=
  (((MemoryChain.bridge .elrond ⟨1, 1⟩).scan (fun _ => .ok "me") false 1 .epoch).run chain).1

end Discovery

end WalletSync
