import Mathlib.Data.List.Nodup
import Mathlib.Data.List.Induction
import WalletSync.Proofs.Operation.Id
import WalletSync.Proofs.Sync.NextSequence
import WalletSync.Sync.Handle

/-!
Operations that are recorded while a sync is under way. A sync reads its base, asks the chain, and
puts its result in place of whatever the handle holds by then; what was recorded in between has to
be told from what the sync itself has dropped. That a handle is synced by one sync at a time is
not part of this: nothing but records is assumed to happen in between.
-/

namespace WalletSync

namespace Pending

/-- One operation of every id, the first one in the list. -/
def firstOfEach : List Operation → List Operation
  | [] => []
  | op :: rest => op :: (firstOfEach rest).filter (·.id ≠ op.id)

/-- The operations that are accepted when they are recorded: those with a hash. -/
def accepted (ops : List Operation) : List Operation := ops.filter (·.hash ≠ "")

/-- What remains of recorded operations: each id once, in the form that was recorded last, and the
most recently recorded one in front. -/
def latestForms (ops : List Operation) : List Operation := firstOfEach (accepted ops).reverse

theorem accepted_concat (ops : List Operation) (op : Operation) :
    accepted (ops ++ [op]) = if op.hash = "" then accepted ops else accepted ops ++ [op] := by
  rw [accepted, List.filter_append]
  split
  · next none => simp [accepted, none]
  · next given => simp [accepted, given]

theorem firstOfEach_sublist (ops : List Operation) : (firstOfEach ops).Sublist ops := by
  induction ops with
  | nil => exact .slnil
  | cons op rest ih => exact (List.filter_sublist.trans ih).cons_cons op

theorem mem_of_mem_latestForms {op : Operation} {ops : List Operation} (h : op ∈ latestForms ops) :
    op ∈ ops :=
  (List.mem_filter.mp (List.mem_reverse.mp ((firstOfEach_sublist _).subset h))).1

theorem nodup_ids_firstOfEach (ops : List Operation) : (ids (firstOfEach ops)).Nodup := by
  induction ops with
  | nil => exact .nil
  | cons op rest ih =>
      rw [firstOfEach, ids_cons, List.nodup_cons]
      refine ⟨fun known => ?_, ih.sublist (List.filter_sublist.map _)⟩
      obtain ⟨other, ho, same⟩ := List.mem_map.mp known
      exact of_decide_eq_true (List.mem_filter.mp ho).2 same

/-- The entries that are kept are those of the old ones that occur among them, in their order. -/
theorem reconcile_eq_filter (pending settled : List Operation) (address : String)
    (remote : Count) :
    reconcile pending settled address remote =
      pending.filter (· ∈ reconcile pending settled address remote) := by
  refine List.filter_congr fun op hop => Bool.eq_iff_iff.mpr ?_
  rw [decide_eq_true_eq, reconcile, List.mem_filter]
  exact (and_iff_right hop).symm

end Pending

namespace Handle

open Pending

/-- Records operations one after the other; one that is refused changes nothing. -/
def recordAll (handle : Handle) (ops : List Operation) : Handle :=
  ops.foldl (fun handle op =>
    match handle.record op with
    | .ok next => next
    | .error _ => handle) handle

theorem recordAll_append (handle : Handle) (ops : List Operation) (op : Operation) :
    handle.recordAll (ops ++ [op]) =
      match (handle.recordAll ops).record op with
      | .ok next => next
      | .error _ => handle.recordAll ops := by
  rw [recordAll, List.foldl_append]
  rfl

theorem record_of_hash {handle : Handle} {op : Operation} (h : op.hash ≠ "") :
    handle.record op = .ok ⟨{ handle.current with
      pending := Pending.add op handle.current.pending }, handle.revision + 1⟩ := by
  rw [record, Account.withPending?, if_neg h]

theorem record_of_no_hash {handle : Handle} {op : Operation} (h : op.hash = "") :
    handle.record op = .error .missingHash := by
  rw [record, Account.withPending?, if_pos h]

/-- A record succeeds exactly when there is a hash, and changes nothing but the pending list. -/
theorem record_ok_iff {handle after : Handle} {op : Operation} :
    handle.record op = .ok after ↔ op.hash ≠ "" ∧
      after = ⟨{ handle.current with
        pending := Pending.add op handle.current.pending }, handle.revision + 1⟩ := by
  by_cases given : op.hash = ""
  · simp [record_of_no_hash given, given]
  · simp [record_of_hash given, given, eq_comm]

/-- Recorded operations stand in front of those that were pending before, apart from those that
they replace. -/
theorem recordAll_eq (handle : Handle) (ops : List Operation) :
    handle.recordAll ops =
      ⟨{ handle.current with
        pending := latestForms ops ++
          handle.current.pending.filter (·.id ∉ ids (accepted ops)) },
        handle.revision + (accepted ops).length⟩ := by
  induction ops using List.reverseRecOn with
  | nil =>
      have all : handle.current.pending.filter (·.id ∉ ids (accepted [])) =
          handle.current.pending := List.filter_eq_self.mpr (by simp [accepted])
      rw [all]
      rfl
  | append_singleton ops op ih =>
      rw [recordAll_append, ih]
      by_cases h : op.hash = ""
      · rw [record_of_no_hash h, latestForms, latestForms, accepted_concat, if_pos h]
      · have others : (handle.current.pending.filter (·.id ∉ ids (accepted ops))).filter
            (·.id ≠ op.id) =
            handle.current.pending.filter (·.id ∉ ids (accepted ops ++ [op])) := by
          rw [List.filter_filter]
          refine List.filter_congr fun other _ => ?_
          simp [and_comm]
        rw [record_of_hash h, latestForms, latestForms, accepted_concat, if_neg h,
          List.reverse_append]
        simp only [Pending.add, List.filter_append, others, List.length_append,
          List.length_singleton, Nat.add_assoc]
        rfl

/-- What a sync publishes: operations that its base did not know, then what it kept pending. -/
theorem publish_recordAll (base : Handle) (ops : List Operation) (synced : Account) :
    ((base.recordAll ops).publish base synced).current =
      { synced with
        pending := (latestForms ops).filter (·.id ∉ ids base.current.pending)
          ++ synced.pending } := by
  rw [publish, recordAll_eq]
  by_cases none : accepted ops = []
  · simp [latestForms, none, firstOfEach]
  · have moved : base.revision + (accepted ops).length ≠ base.revision := by
      have := List.length_pos_iff.mpr none
      omega
    have unknown : ∀ op : Operation,
        (base.current.pending.all fun known => decide (known.id ≠ op.id)) =
          decide (op.id ∉ ids base.current.pending) := by
      intro op
      rw [Bool.eq_iff_iff, List.all_eq_true, decide_eq_true_eq]
      simp only [decide_eq_true_eq, ids, List.mem_map, not_exists, not_and, ne_eq]
    have dropped : (base.current.pending.filter (·.id ∉ ids (accepted ops))).filter
        (·.id ∉ ids base.current.pending) = [] := by
      refine List.filter_eq_nil_iff.mpr fun op hop => ?_
      simp [mem_ids_of_mem (List.mem_filter.mp hop).1]
    rw [if_neg moved, carryPending]
    simp only [unknown, List.filter_append, dropped, List.append_nil]

end Handle

/-- A sync in three parts: the base is read, the chain is asked, the result is put in place. -/
theorem Registry.outcome_sync_slot {σ : Type} {registry : Registry (StateM σ)}
    {slot : Slot (StateM σ)} {read : σ → Handle} {write : Handle → σ → σ} {now : Moment}
    (load : ∀ s, slot.load.run s = (read s, s))
    (store : ∀ handle s, (slot.store handle).run s = ((), write handle s)) (s : σ) :
    outcome (registry.sync slot now) s =
      match registry.get? (read s).current.family with
      | none => (.error (.unsupportedFamily (read s).current.family), s)
      | some bridge =>
        match outcome (bridge.sync (read s).current now) s with
        | (.ok synced, left) =>
          (.ok ((read left).publish (read s) synced).current,
            write ((read left).publish (read s) synced) left)
        | (.error error, left) => (.error error, left) := by
  unfold Registry.sync
  rw [outcome_bind, outcome_lift, load]
  cases registered : registry.get? (read s).current.family with
  | none => simp only [registered, outcome_throw]
  | some bridge =>
      simp only [registered, outcome_bind]
      rcases outcome (bridge.sync (read s).current now) s with ⟨error | synced, left⟩
      · rfl
      · simp only [outcome_lift, load, store, outcome_pure]

/-- A place that is part of a larger state. -/
def Slot.shared {ω : Type} : Slot (StateM (Handle × ω)) where
  load := do return (← get).1
  store handle := modify fun (_, world) => (handle, world)

namespace Registry

open Pending

variable {ω : Type} {registry : Registry (StateM (Handle × ω))}
  {bridge : Bridge (StateM (Handle × ω))} {base : Handle} {now : Moment} {world next : ω}
  {result : Except SyncError Account} {ops : List Operation}

theorem outcome_sync (registered : registry.get? base.current.family = some bridge) :
    outcome (registry.sync Slot.shared now) (base, world) =
      match outcome (bridge.sync base.current now) (base, world) with
      | (.ok synced, (latest, next)) =>
        (.ok (latest.publish base synced).current, (latest.publish base synced, next))
      | (.error error, left) => (.error error, left) := by
  rw [outcome_sync_slot (fun _ => rfl) (fun _ _ => rfl), registered]
  simp only
  rcases outcome (bridge.sync base.current now) (base, world) with ⟨_ | _, _⟩ <;> rfl

/-- What is recorded while a sync is under way is carried over once, unless its id was pending
before: then the sync decides what becomes of it. When the sync fails, the handle is as if there
had been none. -/
theorem sync_carries_recorded (registered : registry.get? base.current.family = some bridge)
    (meanwhile : outcome (bridge.sync base.current now) (base, world) =
      (result, (base.recordAll ops, next))) :
    (∀ synced, result = .ok synced → ∃ published : Handle,
      outcome (registry.sync Slot.shared now) (base, world) =
        (.ok published.current, (published, next)) ∧
      published.current = { synced with
        pending := (latestForms ops).filter (·.id ∉ ids base.current.pending) ++
          base.current.pending.filter (· ∈ synced.pending) } ∧
      ((ids base.current.pending).Nodup → (ids published.current.pending).Nodup)) ∧
    (∀ error, result = .error error →
      outcome (registry.sync Slot.shared now) (base, world) =
        (.error error, (base.recordAll ops, next)) ∧
      (base.recordAll ops).current = { base.current with
        pending := latestForms ops ++
          base.current.pending.filter (·.id ∉ ids (accepted ops)) }) := by
  refine ⟨?_, ?_⟩
  · rintro synced rfl
    obtain ⟨-, report, -, rfl⟩ := Bridge.sync_ok_iff.mp meanwhile
    refine ⟨_, by rw [outcome_sync registered, meanwhile], ?_⟩
    rw [Handle.publish_recordAll, Account.pending_refresh, ← reconcile_eq_filter]
    refine ⟨rfl, fun once => ?_⟩
    rw [ids_append, List.nodup_append]
    refine ⟨(nodup_ids_firstOfEach _).sublist (List.filter_sublist.map _),
      once.sublist (List.filter_sublist.map _), ?_⟩
    rintro id new _ old rfl
    obtain ⟨op, hop, rfl⟩ := List.mem_map.mp new
    have unknown := of_decide_eq_true (List.mem_filter.mp hop).2
    exact unknown ((List.filter_sublist.map _).subset old)
  · rintro error rfl
    rw [outcome_sync registered, meanwhile, Handle.recordAll_eq]
    exact ⟨rfl, rfl⟩

end Registry

/-- What the address `me` sends in a transaction of a hash and a number. -/
def sampleSend (hash : String) (nonce : Count) : Operation :=
  History.ofEntry (accountId .elrond "me") "me" (samplePayment hash nonce none)

/-- A payment in two forms, one that is pending already, and one without a hash. -/
def sampleRecords : List Operation :=
  [sampleSend "b" 1, sampleSend "a" 0, { sampleSend "b" 1 with fee := 2 }, sampleSend "" 3]

/-- A bridge to a chain in memory beside a handle, on which the operations above are recorded
right before the transactions are asked for. -/
def busyBridge : Bridge (StateM (Handle × MemoryChain)) :=
  { family := .elrond
    api := MemoryChain.api.lift
      (fun x => do
        let (handle, chain) ← get
        let (answer, chain) := x.run chain
        set (handle, chain)
        return answer)
      fun call =>
        if call = .history then
          modify fun (handle, chain) => (handle.recordAll sampleRecords, chain)
        else pure ()
    limits := ⟨1, 1⟩ }

/-- A handle on which the transaction that the lagging chain shows is pending. -/
def sampleHandle : Handle := ⟨sampleSender [("a", 0)], 4⟩

/-- The chain shows `a`, so that is pending no more although it was recorded again; the payment
that was recorded twice is there once. -/
theorem sync_carries_recorded_of_busy :
    ∃ published : Handle,
      outcome ((Registry.empty.insert busyBridge).sync Slot.shared .epoch)
          (sampleHandle, laggingChain) = (.ok published.current, (published, laggingChain)) ∧
      published.current.pending = [{ sampleSend "b" 1 with fee := 2 }] := by
  have meanwhile : ∃ synced,
      outcome (busyBridge.sync sampleHandle.current .epoch) (sampleHandle, laggingChain) =
        (.ok synced, (sampleHandle.recordAll sampleRecords, laggingChain)) ∧
      synced.pending = [] := ⟨_, rfl, by decide +kernel⟩
  obtain ⟨synced, meanwhile, dropped⟩ := meanwhile
  have registered : (Registry.empty.insert busyBridge).get? sampleHandle.current.family =
      some busyBridge := rfl
  obtain ⟨published, run, current, -⟩ :=
    (Registry.sync_carries_recorded registered meanwhile).1 synced rfl
  refine ⟨published, run, ?_⟩
  rw [current, dropped]
  change (Pending.latestForms sampleRecords).filter (·.id ∉ ids sampleHandle.current.pending) ++
    sampleHandle.current.pending.filter (· ∈ ([] : List Operation)) = _
  decide +kernel

end WalletSync
