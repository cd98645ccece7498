import Mathlib.Data.List.Nodup
import WalletSync.Proofs.Flow.Faithful
import WalletSync.Proofs.History.Ids
import WalletSync.Proofs.Pending.Superseded

/-!
What a synced account says about a payment that was handed in. The flow looks at two lists that a
sync has made: the operations, and what is left of those that were pending. It finds the payment
confirmed or failed if the operations show it so; and if they do not show it at all, it takes the
payment for failed exactly when the sync had a reason to drop it.

The payment has to be among what was pending when the sync began. When it was recorded only
afterwards, it is missing from both lists for another reason.
-/

namespace WalletSync

/-- The account shows that something else has taken the place of the operation: a settled operation
of its transaction, or its number gone beyond by the chain or by a settled operation of the same
sender. -/
def Account.Overtakes (account : Account) (op : Operation) : Prop :=
  (∃ other ∈ account.operations, other.isSettled = true ∧ other.hash = op.hash) ∨
    op.isSentBy account.address = true ∧ ∃ n ∈ op.sequence,
      n < account.remoteSequence ∨
        ∃ other ∈ account.operations, other.isSettled = true ∧ other.Reaches account.address n

/-- The state is what a synced account calls for when the payment was handed in as `op`. -/
structure FlowState.IsVerdict (state : FlowState) (synced : Account) (op : Operation) : Prop where
  confirmed : ∀ entry, state = .confirmed entry ↔
    entry ∈ synced.operations ∧ entry.id = op.id ∧ entry.isConfirmed = true ∧
      entry.hasFailed = false
  failed : (∃ entry, state = .failed entry) ↔
    (∃ entry ∈ synced.operations, entry.id = op.id ∧ entry.hasFailed = true) ∨
      (∀ entry ∈ synced.operations, entry.id ≠ op.id) ∧ synced.Overtakes op
  undecided : (∀ entry, state ≠ .confirmed entry) → (∀ entry, state ≠ .failed entry) →
    state = .broadcast op

theorem eq_of_same_id {ops : List Operation} (once : (ids ops).Nodup) {op other : Operation}
    (known : op ∈ ops) (also : other ∈ ops) (same : op.id = other.id) : op = other :=
  List.inj_on_of_nodup_map once known also same

namespace FlowState

variable {op entry : Operation} {synced : Account}

theorem ofOperation_eq_confirmed : ofOperation entry = .confirmed op ↔
    entry = op ∧ entry.isConfirmed = true ∧ entry.hasFailed = false := by
  unfold ofOperation
  cases entry.hasFailed <;> cases entry.isConfirmed <;> simp

theorem ofOperation_eq_failed : ofOperation entry = .failed op ↔
    entry = op ∧ entry.hasFailed = true := by
  unfold ofOperation
  cases entry.hasFailed <;> cases entry.isConfirmed <;> simp

theorem ofOperation_eq_broadcast : ofOperation entry = .broadcast op ↔
    entry = op ∧ entry.isSettled = false := by
  unfold ofOperation Operation.isSettled
  cases entry.hasFailed <;> cases entry.isConfirmed <;> simp

theorem reconcile_eq_broadcast {state : FlowState}
    (same : state.reconcile synced = .broadcast op) : state = .broadcast op := by
  unfold reconcile at same
  split at same
  · split at same
    · split at same
      · next found _ settled =>
          rw [(ofOperation_eq_broadcast.mp same).2] at settled
          cases settled
      · exact same
    · split at same
      · exact same
      · cases same
  · exact same

/-- Among operations with different ids, the one that is found is the one there is. -/
theorem find?_id_eq_some_iff {ops : List Operation} (once : (ids ops).Nodup) :
    ops.find? (·.id = op.id) = some entry ↔ entry ∈ ops ∧ entry.id = op.id := by
  constructor
  · intro found
    exact ⟨List.mem_of_find?_eq_some found, by simpa using List.find?_some found⟩
  · rintro ⟨known, same⟩
    cases found : ops.find? (·.id = op.id) with
    | none => exact absurd (decide_eq_true same) (List.find?_eq_none.mp found entry known)
    | some other =>
        have alike : other.id = op.id := by simpa using List.find?_some found
        rw [eq_of_same_id once (List.mem_of_find?_eq_some found) known (alike.trans same.symm)]

/-- The operations show the payment. -/
theorem isVerdict_of_known (once : (ids synced.operations).Nodup)
    (known : entry ∈ synced.operations) (same : entry.id = op.id) :
    ((broadcast op).reconcile synced).IsVerdict synced op := by
  have found := (find?_id_eq_some_iff once).mpr ⟨known, same⟩
  have only : ∀ other ∈ synced.operations, other.id = op.id → other = entry :=
    fun other also alike => eq_of_same_id once also known (alike.trans same.symm)
  have notAbsent : ¬∀ other ∈ synced.operations, other.id ≠ op.id := fun absent =>
    absent entry known same
  have result : (broadcast op).reconcile synced =
      if entry.isSettled then ofOperation entry else broadcast op := by
    simp only [reconcile, found]
  rw [result]
  cases settled : entry.isSettled with
  | false =>
      rw [if_neg Bool.false_ne_true]
      obtain ⟨unconfirmed, intact⟩ : entry.isConfirmed = false ∧ entry.hasFailed = false := by
        simpa [Operation.isSettled] using settled
      refine ⟨fun other => ⟨fun state => (by cases state), ?_⟩, ⟨?_, ?_⟩, fun _ _ => rfl⟩
      · rintro ⟨also, alike, confirmed, -⟩
        rw [only other also alike, unconfirmed] at confirmed
        cases confirmed
      · rintro ⟨other, state⟩
        cases state
      · rintro (⟨other, also, alike, failed⟩ | ⟨absent, -⟩)
        · rw [only other also alike, intact] at failed
          cases failed
        · exact absurd absent notAbsent
  | true =>
      rw [if_pos rfl]
      refine ⟨fun other => ?_, ?_, fun notConfirmed notFailed => ?_⟩
      · rw [ofOperation_eq_confirmed]
        constructor
        · rintro ⟨rfl, confirmed, intact⟩
          exact ⟨known, same, confirmed, intact⟩
        · rintro ⟨also, alike, confirmed, intact⟩
          obtain rfl := only other also alike
          exact ⟨rfl, confirmed, intact⟩
      · simp only [ofOperation_eq_failed]
        constructor
        · rintro ⟨-, -, failed⟩
          exact .inl ⟨entry, known, same, failed⟩
        · rintro (⟨other, also, alike, failed⟩ | ⟨absent, -⟩)
          · obtain rfl := only other also alike
            exact ⟨other, rfl, failed⟩
          · exact absurd absent notAbsent
      · cases failed : entry.hasFailed with
        | true => exact absurd (ofOperation_eq_failed.mpr ⟨rfl, failed⟩) (notFailed entry)
        | false =>
            have confirmed : entry.isConfirmed = true := by
              simpa [Operation.isSettled, failed] using settled
            exact absurd (ofOperation_eq_confirmed.mpr ⟨rfl, confirmed, failed⟩)
              (notConfirmed entry)

/-- The operations do not show the payment. -/
theorem isVerdict_of_absent (absent : ∀ entry ∈ synced.operations, entry.id ≠ op.id)
    (dropped : synced.pending.any (·.id = op.id) = false ↔ synced.Overtakes op) :
    ((broadcast op).reconcile synced).IsVerdict synced op := by
  have found : synced.operations.find? (·.id = op.id) = none :=
    List.find?_eq_none.mpr fun entry known => by simpa using absent entry known
  have result : (broadcast op).reconcile synced =
      if synced.pending.any (·.id = op.id) then broadcast op
      else .failed { op with hasFailed := true } := by
    simp only [reconcile, found]
  have notShown (P : Operation → Prop) :
      ¬∃ entry ∈ synced.operations, entry.id = op.id ∧ P entry := by
    rintro ⟨entry, shown, same, -⟩
    exact absent entry shown same
  rw [result]
  cases waits : synced.pending.any (·.id = op.id) with
  | true =>
      rw [if_pos rfl]
      have kept : ¬synced.Overtakes op := by
        rw [← dropped, waits]
        exact Bool.noConfusion
      refine ⟨fun other => ⟨fun state => (by cases state), ?_⟩, ⟨?_, ?_⟩, fun _ _ => rfl⟩
      · rintro ⟨shown, same, -⟩
        exact absurd same (absent other shown)
      · rintro ⟨other, state⟩
        cases state
      · rintro (shown | ⟨-, overtaken⟩)
        · exact absurd shown (notShown _)
        · exact absurd overtaken kept
  | false =>
      rw [if_neg Bool.false_ne_true]
      refine ⟨fun other => ⟨fun state => (by cases state), ?_⟩,
        ⟨fun _ => .inr ⟨absent, dropped.mp waits⟩, ?_⟩, ?_⟩
      · rintro ⟨shown, same, -⟩
        exact absurd same (absent other shown)
      · exact fun _ => ⟨_, rfl⟩
      · exact fun _ notFailed => absurd rfl (notFailed _)

end FlowState

section Sync

variable {σ : Type} {bridge : Bridge (StateM σ)} {base synced : Account} {now : Moment} {s t : σ}
  {op : Operation}

theorem nodup_ids_of_sync (sync : outcome (bridge.sync base now) s = (.ok synced, t))
    (once : (ids base.operations).Nodup) : (ids synced.operations).Nodup := by
  obtain ⟨-, report, -, rfl⟩ := Bridge.sync_ok_iff.mp sync
  exact History.nodup_ids_merge _ once

/-- Of what was pending, what the operations do not show is dropped when something else has taken
its place, and for no other reason. -/
theorem dropped_iff_overtakes (sync : outcome (bridge.sync base now) s = (.ok synced, t))
    (once : (ids base.pending).Nodup) (listed : op ∈ base.pending) (given : op.hash ≠ "")
    (absent : ∀ entry ∈ synced.operations, entry.id ≠ op.id) :
    synced.pending.any (·.id = op.id) = false ↔ synced.Overtakes op := by
  obtain ⟨-, report, -, rfl⟩ := Bridge.sync_ok_iff.mp sync
  have left : (base.refresh report now).pending.any (·.id = op.id) = true ↔
      op ∈ (base.refresh report now).pending := by
    rw [List.any_eq_true]
    constructor
    · rintro ⟨entry, kept, same⟩
      rw [Account.pending_refresh] at kept ⊢
      rwa [← eq_of_same_id once (Pending.mem_reconcile.mp kept).1 listed (of_decide_eq_true same)]
    · exact fun kept => ⟨op, kept, decide_eq_true rfl⟩
  rw [← Bool.not_eq_true, left, Account.pending_refresh, Pending.not_mem_reconcile listed,
    Pending.isSeen_iff, Pending.isSuperseded_iff]
  have seen : (∃ other ∈ (base.refresh report now).operations.filter Operation.isSettled,
        other.id = op.id ∨ other.hash ≠ "" ∧ other.hash = op.hash) ↔
      ∃ other ∈ (base.refresh report now).operations,
        other.isSettled = true ∧ other.hash = op.hash := by
    constructor
    · rintro ⟨other, settled, same | ⟨-, same⟩⟩
      · exact absurd same (absent other (List.mem_filter.mp settled).1)
      · exact ⟨other, (List.mem_filter.mp settled).1, (List.mem_filter.mp settled).2, same⟩
    · rintro ⟨other, known, settled, same⟩
      exact ⟨other, List.mem_filter.mpr ⟨known, settled⟩, .inr ⟨by rwa [same], same⟩⟩
  have reached (n : Count) :
      (∃ other ∈ (base.refresh report now).operations.filter Operation.isSettled,
        other.Reaches base.address n) ↔
      ∃ other ∈ (base.refresh report now).operations,
        other.isSettled = true ∧ other.Reaches base.address n := by
    simp only [List.mem_filter, and_assoc]
  simp only [seen, reached]
  rfl

end Sync

namespace Course

variable {σ : Type} {setting : Setting σ} {w next : Course σ}

/-- What is under way has a hash. -/
def HasHash (w : Course σ) : Prop := ∀ op, w.flow.state = .broadcast op → op.hash ≠ ""

theorem hasHash_of_step (h : w.HasHash) (step : Step setting w next) : next.HasHash := by
  cases step with
  | world _ => exact h
  | update patch =>
      unfold update
      split
      · next flow done =>
          unfold Flow.update at done
          split at done
          · cases done
            exact fun _ state => nomatch state
          · cases done
      · exact h
  | prepare account =>
      unfold prepare
      split
      · next flow t done =>
          obtain ⟨_, _, -, -, rfl⟩ := Flow.prepare_ok_iff.mp done
          exact fun _ state => nomatch state
      · exact h
  | sign account now _ =>
      unfold sign
      split
      · next flow t done =>
          obtain ⟨_, _, -, -, -, rfl⟩ := Flow.sign_ok_iff.mp done
          exact fun _ state => nomatch state
      · exact h
  | broadcast handle =>
      unfold broadcast
      split
      · next flow after t done =>
          obtain ⟨signed, operation, -, sent, -, rfl⟩ := Flow.broadcast_ok_iff.mp done
          obtain ⟨-, -, hash, _, answer, -, given, -, rfl⟩ := Bridge.broadcast_ok_iff.mp sent
          intro op state
          obtain rfl := (FlowState.ofOperation_eq_broadcast.mp state).1
          rwa [SignedOperation.handedIn_hash]
      · exact h
  | reconcile synced => exact fun op state => h op (FlowState.reconcile_eq_broadcast state)

theorem hasHash_of_run {bridge : Bridge (StateM σ)} {s : σ}
    (run : Relation.ReflTransGen (Step setting) { flow := .start bridge, world := s } w) :
    w.HasHash := by
  induction run with
  | refl => exact fun _ state => nomatch state
  | tail _ last ih => exact hasHash_of_step ih last

/-- What a flow makes of a payment that it has handed in is what the account calls for, whatever
the chain has answered to the sync. -/
theorem verdict_of_sync {bridge : Bridge (StateM σ)} {start : σ}
    (run : Relation.ReflTransGen (Step setting) { flow := .start bridge, world := start } w)
    {op : Operation} (handedIn : w.flow.state = .broadcast op)
    {τ : Type} {other : Bridge (StateM τ)} {base synced : Account} {now : Moment} {s t : τ}
    (sync : outcome (other.sync base now) s = (.ok synced, t)) (listed : op ∈ base.pending)
    (operationsOnce : (ids base.operations).Nodup) (pendingOnce : (ids base.pending).Nodup) :
    (w.flow.reconcile synced).state.IsVerdict synced op := by
  have once := nodup_ids_of_sync sync operationsOnce
  have given := hasHash_of_run run op handedIn
  rw [Flow.reconcile, handedIn]
  by_cases known : ∃ entry ∈ synced.operations, entry.id = op.id
  · obtain ⟨entry, known, same⟩ := known
    exact FlowState.isVerdict_of_known once known same
  · have absent : ∀ entry ∈ synced.operations, entry.id ≠ op.id := fun entry shown same =>
      known ⟨entry, shown, same⟩
    exact FlowState.isVerdict_of_absent absent
      (dropped_iff_overtakes sync pendingOnce listed given absent)

/-- The account while the payment waits. -/
def sampleWaiting : Account := { sampleStart.current with pending := [sampleSent] }

/-- A chain that does not show the payment and expects a later number already. -/
def passedChain : MemoryChain := { accounts := [("me", 9, 2)] }

/-- A payment whose number has been used up fails. -/
theorem verdict_of_sync_of_passed :
    ∃ w : Course Desk, Relation.ReflTransGen (Step Desk.setting) sampleCourse w ∧
      w.flow.state = .broadcast sampleSent ∧
      ∃ synced, outcome ((MemoryChain.bridge .elrond ⟨1, 1⟩).sync sampleWaiting .epoch)
          passedChain = (.ok synced, passedChain) ∧
        ∃ entry, (w.flow.reconcile synced).state = .failed entry := by
  have sync : outcome ((MemoryChain.bridge .elrond ⟨1, 1⟩).sync sampleWaiting .epoch)
      passedChain = (.ok _, passedChain) := MemoryChain.outcome_sync rfl
  have verdict := verdict_of_sync run_sample broadcast_sampleReady.1 sync List.mem_cons_self
    (by decide +kernel) (by decide +kernel)
  refine ⟨_, run_sample, broadcast_sampleReady.1, _, sync, verdict.failed.mpr (.inr ⟨?_, .inr ?_⟩)⟩
  · decide +kernel
  · exact ⟨by decide +kernel, 1, by decide +kernel, .inl (by decide +kernel)⟩

end Course

end WalletSync
