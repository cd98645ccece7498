import Mathlib.Logic.Relation
import WalletSync.Proofs.Sync.Journal

/-!
What every form of an account has in common with those before it, over whole runs: operations are
recorded at any time, syncs begin and end, fail and succeed, and the chain does as it likes.

The invariant speaks about the whole journal, so that nothing has to be said about when a form was
held: all forms are consistent, and of any two the later one extends the earlier one.
-/

namespace WalletSync

namespace Journal

variable {ω : Type} {registry : Registry (StateM (Journal × ω))} {journal : Journal}

/-- What happens in a run; the chain may change at any time. -/
inductive Step (registry : Registry (StateM (Journal × ω))) : Journal × ω → Journal × ω → Prop
  | record (journal : Journal) (op : Operation) (world : ω) :
      Step registry (journal, world) (journal.record op, world)
  | sync {s t : Journal × ω} {now : Moment} {result : Except SyncError Account} :
      outcome (registry.sync Slot.journal now) s = (result, t) → Step registry s t
  | elapse (journal : Journal) (world next : ω) : Step registry (journal, world) (journal, next)

structure Sound (journal : Journal) : Prop where
  consistent : ∀ handle ∈ journal.held, handle.current.Consistent
  grows : journal.held.Pairwise fun later earlier => later.current.Extends earlier.current

theorem sound_start {handle : Handle} (h : handle.current.Consistent) : Sound ⟨handle, []⟩ where
  consistent := List.forall_mem_singleton.mpr h
  grows := List.pairwise_singleton _ _

theorem Sound.current (h : journal.Sound) : journal.current.current.Consistent :=
  h.consistent _ List.mem_cons_self

/-- Only the form that is held has to be compared with a new one. -/
theorem Sound.put (h : journal.Sound) {handle : Handle} (consistent : handle.current.Consistent)
    (grows : handle.current.Extends journal.current.current) : (journal.put handle).Sound where
  consistent := List.forall_mem_cons.mpr ⟨consistent, h.consistent⟩
  grows := by
    refine List.pairwise_cons.mpr ⟨?_, h.grows⟩
    intro earlier held
    rcases List.mem_cons.mp held with rfl | before
    · exact grows
    · exact grows.trans ((List.pairwise_cons.mp h.grows).1 earlier before)

theorem Sound.record (h : journal.Sound) (op : Operation) : (journal.record op).Sound := by
  unfold Journal.record
  cases recorded : journal.current.record op with
  | error error => exact h
  | ok handle => exact h.put (h.current.record recorded) (Handle.extends_record recorded)

theorem Sound.recordAll (h : journal.Sound) (ops : List Operation) :
    (journal.recordAll ops).Sound := by
  induction ops generalizing journal with
  | nil => exact h
  | cons op rest ih => exact ih (h.record op)

theorem Sound.sync (h : journal.Sound) (keeps : registry.Keeps Recorded) {now : Moment} {world : ω}
    {result : Except SyncError Account} {after : Journal} {next : ω}
    (run : outcome (registry.sync Slot.journal now) (journal, world) = (result, (after, next))) :
    after.Sound := by
  obtain ⟨_, ⟨ops, rfl⟩, ended⟩ := registry.sync_cases keeps run
  -- a failed sync is no more than its records; a good one adds what refreshes its base
  rcases ended with ⟨-, -, rfl⟩ | ⟨report, published, -, rfl, rfl⟩
  · exact h.recordAll ops
  · apply (h.recordAll ops).put
    · rw [current_recordAll]
      exact h.current.publish report now
    · rw [current_recordAll]
      exact Handle.extends_publish report now

theorem Sound.step (keeps : registry.Keeps Recorded) {s t : Journal × ω} (h : s.1.Sound)
    (step : Step registry s t) : t.1.Sound := by
  cases step with
  | record journal op world => exact h.record op
  | sync run => exact h.sync keeps run
  | elapse journal world next => exact h

theorem sound_of_run (keeps : registry.Keeps Recorded) {s t : Journal × ω} (h : s.1.Sound)
    (run : Relation.ReflTransGen (Step registry) s t) : t.1.Sound := by
  induction run with
  | refl => exact h
  | tail _ step ih => exact ih.step keeps step

/-- Scanned accounts are consistent, and what is consistent stays so in every form that is held
later, each of which extends all those before it. A sync that fails changes what is held in no
other way than the calls of its chain do: not at all, if nothing is recorded meanwhile. -/
theorem snapshots_consistent {ω : Type} :
    (∀ (bridge : Bridge (StateM ω)) (derive : Nat → Except String String) (isDeep : Bool)
      (most : Nat) (now : Moment) (world : ω) (account : Account),
      .ok account ∈ ((bridge.scan derive isDeep most now).run world).1 → account.Consistent) ∧
    (∀ (registry : Registry (StateM (Journal × ω))) (start : Handle) (journal : Journal)
      (first world : ω), registry.Keeps Recorded → start.current.Consistent →
      Relation.ReflTransGen (Step registry) (⟨start, []⟩, first) (journal, world) →
      (∀ handle ∈ journal.held, handle.current.Consistent) ∧
      journal.held.Pairwise fun later earlier => later.current.Extends earlier.current) ∧
    ∀ (registry : Registry (StateM (Journal × ω))) (Change : Journal → Journal → Prop)
      [IsPreorder Journal Change], registry.Keeps Change →
      ∀ (now : Moment) (error : SyncError) (journal after : Journal) (world left : ω),
        outcome (registry.sync Slot.journal now) (journal, world) = (.error error, (after, left)) →
        Change journal after := by
  refine ⟨?_, ?_, ?_⟩
  · intro bridge derive isDeep most now world account found
    obtain ⟨address, index, report, rfl⟩ := Bridge.refresh_of_scan found
    exact (Account.consistent_blank _ _ _ _).refresh report now
  · intro registry start journal first world keeps consistent run
    have sound := sound_of_run keeps (sound_start consistent) run
    exact ⟨sound.consistent, sound.grows⟩
  · intro registry Change _ keeps now error journal after world left failed
    obtain ⟨latest, changed, ⟨-, -, rfl⟩ | ⟨_, _, succeeded, -⟩⟩ := registry.sync_cases keeps failed
    · exact changed
    · cases succeeded

/-- A wallet of one chain in memory, with what is recorded whenever that is called. -/
def memoryRegistry (meanwhile : ChainCall → List Operation) :
    Registry (StateM (Journal × MemoryChain)) :=
  Registry.empty.insert ⟨.elrond, MemoryChain.api.beside meanwhile, ⟨1, 1⟩⟩

theorem keeps_memoryRegistry {Change : Journal → Journal → Prop}
    {meanwhile : ChainCall → List Operation}
    (keeps : ∀ call (journal : Journal), Change journal (journal.recordAll (meanwhile call))) :
    (memoryRegistry meanwhile).Keeps Change := by
  intro family bridge registered
  rw [memoryRegistry, Registry.get?_insert] at registered
  split at registered
  · cases registered
    change (MemoryChain.api.beside meanwhile).Keeps Change
    exact ChainApi.keeps_beside keeps
  · cases registered

def scannedHandle : Handle := ⟨sampleScanned laggingChain, 0⟩

/-- What is recorded when the transactions are asked for. -/
def recordedLate (call : ChainCall) : List Operation :=
  if call = .history then sampleRecords else []

def brokenChain : MemoryChain := laggingChain.fail .history (.down "mock://chain")

def synced (meanwhile : ChainCall → List Operation) (s : Journal × MemoryChain) :
    Journal × MemoryChain :=
  (outcome ((memoryRegistry meanwhile).sync Slot.journal .epoch) s).2

def busyJournal : Journal := (synced recordedLate (⟨scannedHandle, []⟩, laggingChain)).1

/-- A sync that succeeds after two payments were recorded, and one that fails after they were
recorded again: seven forms follow the first one. A failure without records changes nothing. -/
theorem snapshots_consistent_of_busy :
    (∃ journal : Journal,
      Relation.ReflTransGen (Step (memoryRegistry recordedLate))
        (⟨scannedHandle, []⟩, laggingChain) (journal, brokenChain) ∧
      journal.held.length = 8 ∧ (∀ handle ∈ journal.held, handle.current.Consistent) ∧
      journal.held.Pairwise fun later earlier => later.current.Extends earlier.current) ∧
    (synced (fun _ => []) (⟨scannedHandle, []⟩, brokenChain)).1 = ⟨scannedHandle, []⟩ := by
  obtain ⟨scanned, runs, fails⟩ := snapshots_consistent (ω := MemoryChain)
  have found : .ok scannedHandle.current ∈ sampleScan laggingChain := by decide +kernel
  have consistent : scannedHandle.current.Consistent := scanned _ _ _ _ _ _ _ found
  have recorded : (memoryRegistry recordedLate).Keeps Recorded :=
    keeps_memoryRegistry fun call _ => ⟨recordedLate call, rfl⟩
  constructor
  · have first : Step (memoryRegistry recordedLate) (⟨scannedHandle, []⟩, laggingChain)
        (synced recordedLate (⟨scannedHandle, []⟩, laggingChain)) :=
      @Step.sync _ _ _ _ .epoch _ rfl
    have second : Step (memoryRegistry recordedLate) (busyJournal, brokenChain)
        (synced recordedLate (busyJournal, brokenChain)) :=
      @Step.sync _ _ _ _ .epoch _ rfl
    have run := ((Relation.ReflTransGen.single first).tail (.elapse _ _ brokenChain)).tail second
    obtain ⟨consistent, grows⟩ := runs _ _ _ _ _ recorded consistent run
    exact ⟨_, run, by decide +kernel, consistent, grows⟩
  · have quiet : (memoryRegistry fun _ => []).Keeps (· = ·) := keeps_memoryRegistry fun _ _ => rfl
    have failed : ∃ error after, outcome ((memoryRegistry fun _ => []).sync Slot.journal .epoch)
      (⟨scannedHandle, []⟩, brokenChain) = (.error error, (after, brokenChain)) := ⟨_, _, rfl⟩
    obtain ⟨error, after, failed⟩ := failed
    rw [synced, failed]
    exact (fails _ _ quiet _ _ _ _ _ _ failed).symm

end Journal

end WalletSync
