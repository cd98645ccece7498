import WalletSync.Proofs.Flow.Sends
import WalletSync.Proofs.Sync.Consistent

/-!
What stands on the pending list of an account that is sent from and synced, however the two
overlap. Each entry has been handed in, and it has a block exactly when the chain named one right
then; a sync does not take up the block of an entry. An entry that the operations show as confirmed
was handed in after the sync had begun that showed it.

Nothing is said about how long an entry stays when no sync comes.
-/

namespace WalletSync

/-- What the chain was given and what it answered: a hash, and then a block if it knew one. -/
structure Sent where
  signed : SignedOperation
  hash : String
  answer : Except NetworkError (Option Confirmation)

namespace Sent

def operation (send : Sent) : Operation := send.signed.handedIn send.hash send.answer

def IsInline (send : Sent) : Prop := ∃ confirmation, send.answer = .ok (some confirmation)

end Sent

/-- One handle over time, and what is sent meanwhile; the first send stands in front. -/
structure SendLog where
  handle : Handle
  sent : List Sent := []
  /-- What was sent since the sync began that was published last. -/
  recent : List Sent := []
  /-- What the sync began with that is under way. -/
  base : Option Handle := none
  /-- What was sent since then. -/
  meanwhile : List Sent := []

/-- The entry has the id or the hash of an operation that the account shows as confirmed. -/
def Account.ShowsConfirmed (account : Account) (entry : Operation) : Prop :=
  ∃ op ∈ account.operations, op.isConfirmed = true ∧ (op.id = entry.id ∨ op.hash = entry.hash)

instance (account : Account) (entry : Operation) : Decidable (account.ShowsConfirmed entry) :=
  inferInstanceAs (Decidable (∃ op ∈ account.operations,
    op.isConfirmed = true ∧ (op.id = entry.id ∨ op.hash = entry.hash)))

/-- A sync does not keep what it shows as confirmed. -/
theorem Account.not_showsConfirmed_of_refresh {account : Account} {report : ChainReport}
    {now : Moment} {entry : Operation} (left : entry ∈ (account.refresh report now).pending)
    (given : entry.hash ≠ "") : ¬ (account.refresh report now).ShowsConfirmed entry := by
  rintro ⟨op, known, confirmed, same⟩
  rw [Account.pending_refresh, Pending.mem_reconcile] at left
  obtain ⟨-, unseen, -⟩ := left
  have seen : Pending.isSeen ((account.refresh report now).operations.filter Operation.isSettled)
      entry = true := by
    apply Pending.isSeen_iff.mpr
    refine ⟨op, List.mem_filter.mpr ⟨known, ?_⟩, same.imp_right fun same => ⟨?_, same⟩⟩
    · simp [Operation.isSettled, confirmed]
    · rwa [same]
  rw [seen] at unseen
  cases unseen

namespace SendLog

variable {σ : Type}

def afterSend (w : SendLog) (handle : Handle) (send : Sent) : SendLog :=
  { w with
    handle := handle, sent := w.sent ++ [send], recent := w.recent ++ [send]
    meanwhile := w.meanwhile ++ [send] }

def afterLoad (w : SendLog) : SendLog := { w with base := some w.handle, meanwhile := [] }

def afterSync (w : SendLog) (base : Handle) (synced : Account) : SendLog :=
  { w with handle := w.handle.publish base synced, recent := w.meanwhile, base := none }

/-- What happens in a run. A payment is signed for any account at any time before; a broadcast is
placed where it is recorded on the handle, and a sync consists of a begin and an end. -/
inductive Step (σ : Type) : SendLog → SendLog → Prop
  | broadcast {w : SendLog} {flow ready next : Flow (StateM σ)} {account : Account}
      {signer : Account → Payload → ExceptT SignerError (StateM σ) String} {now : Moment}
      {send : Sent} {after : Handle} {s₀ t₀ s accepted t : σ} :
      outcome (flow.sign account signer now) s₀ = (.ok ready, t₀) →
      ready.state = .signed send.signed →
      outcome (ready.bridge.api.submit send.signed) s = (.ok send.hash, accepted) →
      outcome (ready.bridge.api.confirmation send.hash) accepted = (send.answer, t) →
      outcome (ready.broadcast w.handle) s = (.ok (next, after), t) →
      Step σ w (w.afterSend after send)
  | load {w : SendLog} : w.base = none → Step σ w w.afterLoad
  | publish {w : SendLog} {base : Handle} {synced : Account} {bridge : Bridge (StateM σ)}
      {now : Moment} {s t : σ} :
      w.base = some base → outcome (bridge.sync base.current now) s = (.ok synced, t) →
      Step σ w (w.afterSync base synced)
  | notSynced {w : SendLog} {base : Handle} {bridge : Bridge (StateM σ)} {now : Moment}
      {error : SyncError} {s t : σ} :
      w.base = some base → outcome (bridge.sync base.current now) s = (.error error, t) →
      Step σ w { w with base := none }

/-- What holds throughout a run. What the base of a sync has pending is not compared with anything:
the sync itself does that when it ends. -/
structure Sound (w : SendLog) : Prop where
  handedIn : w.handle.current.pending ⊆ w.sent.map Sent.operation
  fresh : ∀ send ∈ w.sent, send.signed.operation.blockHeight = none ∧ send.hash ≠ ""
  shown : ∀ entry ∈ w.handle.current.pending, w.handle.current.ShowsConfirmed entry →
    entry ∈ w.recent.map Sent.operation
  recent : w.recent ⊆ w.sent
  begun : ∀ base ∈ w.base, w.handle = base.recordAll (w.meanwhile.map Sent.operation) ∧
    w.meanwhile ⊆ w.sent ∧ base.current.pending ⊆ w.sent.map Sent.operation

variable {w next : SendLog} {base : Handle} {synced : Account}

theorem sound_start {handle : Handle} (empty : handle.current.pending = []) :
    Sound { handle := handle } where
  handedIn := by simp [empty]
  fresh _ hs := absurd hs List.not_mem_nil
  shown := by simp [empty]
  recent := List.Subset.refl _
  begun _ hb := by cases hb

theorem Sound.send (h : w.Sound) {send : Sent} {after : Handle}
    (recorded : w.handle.record send.operation = .ok after)
    (fresh : send.signed.operation.blockHeight = none) (given : send.hash ≠ "") :
    (w.afterSend after send).Sound := by
  have kept : w.sent ⊆ w.sent ++ [send] := List.subset_append_left _ _
  have added : [send] ⊆ w.sent ++ [send] := List.subset_append_right _ _
  obtain ⟨-, same⟩ := Handle.record_ok_iff.mp recorded
  refine ⟨?_, List.forall_mem_append.mpr ⟨h.fresh, by simp [fresh, given]⟩, ?_, ?_, ?_⟩
  · intro entry listed
    rw [afterSend, same] at listed
    rcases Pending.eq_or_mem_of_mem_add listed with rfl | before
    · exact List.mem_map_of_mem (added List.mem_cons_self)
    · exact List.map_subset _ kept (h.handedIn before)
  · intro entry listed confirmed
    rw [afterSend, same] at listed confirmed
    rw [afterSend, List.map_append]
    rcases Pending.eq_or_mem_of_mem_add listed with rfl | before
    · exact List.mem_append_right _ List.mem_cons_self
    · exact List.mem_append_left _ (h.shown entry before confirmed)
  · exact List.append_subset.mpr ⟨List.Subset.trans h.recent kept, added⟩
  -- for a sync under way this is one more record since its base
  · intro base inFlight
    obtain ⟨held, meanwhile, known⟩ := h.begun base inFlight
    refine ⟨?_, List.append_subset.mpr ⟨List.Subset.trans meanwhile kept, added⟩,
      List.Subset.trans known (List.map_subset _ kept)⟩
    change after = base.recordAll ((w.meanwhile ++ [send]).map Sent.operation)
    rw [List.map_append, List.map_singleton, Handle.recordAll_append, ← held, recorded]

theorem Sound.load (h : w.Sound) : w.afterLoad.Sound := by
  refine { h with begun := ?_ }
  intro base begun
  obtain rfl := Option.some.inj begun
  exact ⟨rfl, List.nil_subset _, h.handedIn⟩

/-- An entry that is pending after a sync was sent meanwhile, or the sync has kept it. -/
theorem mem_pending_afterSync {entry : Operation}
    (held : w.handle = base.recordAll (w.meanwhile.map Sent.operation))
    (listed : entry ∈ (w.afterSync base synced).handle.current.pending) :
    entry ∈ w.meanwhile.map Sent.operation ∨ entry ∈ synced.pending := by
  rw [afterSync, held, Handle.publish_recordAll] at listed
  rcases List.mem_append.mp listed with carried | left
  · exact .inl (Pending.mem_of_mem_latestForms (List.mem_filter.mp carried).1)
  · exact .inr left

/-- What was sent meanwhile is recent from now on; of the rest the sync has kept nothing that it
shows as confirmed. -/
theorem Sound.publish (h : w.Sound) {bridge : Bridge (StateM σ)} {now : Moment} {s t : σ}
    (begun : w.base = some base)
    (run : outcome (bridge.sync base.current now) s = (.ok synced, t)) :
    (w.afterSync base synced).Sound := by
  obtain ⟨-, report, -, rfl⟩ := Bridge.sync_ok_iff.mp run
  obtain ⟨held, meanwhile, known⟩ := h.begun base begun
  have handedIn : (base.current.refresh report now).pending ⊆ w.sent.map Sent.operation := by
    intro entry left
    rw [Account.pending_refresh, Pending.mem_reconcile] at left
    exact known left.1
  refine ⟨?_, h.fresh, ?_, meanwhile, fun _ hb => by cases hb⟩
  · intro entry listed
    rcases mem_pending_afterSync held listed with recent | left
    · exact List.map_subset _ meanwhile recent
    · exact handedIn left
  · intro entry listed confirmed
    rcases mem_pending_afterSync held listed with recent | left
    · exact recent
    · obtain ⟨send, hs, rfl⟩ := List.mem_map.mp (handedIn left)
      have given : send.operation.hash ≠ "" := by
        rw [Sent.operation, SignedOperation.handedIn_hash]
        exact (h.fresh send hs).2
      rw [afterSync, held, Account.ShowsConfirmed, Handle.publish_recordAll] at confirmed
      exact absurd confirmed (Account.not_showsConfirmed_of_refresh left given)

/-- What is signed is made up from a transaction, and so without a block. -/
theorem Sound.broadcast (h : w.Sound) {flow ready next : Flow (StateM σ)} {account : Account}
    {signer : Account → Payload → ExceptT SignerError (StateM σ) String} {now : Moment}
    {send : Sent} {after : Handle} {s₀ t₀ s accepted t : σ}
    (signed : outcome (flow.sign account signer now) s₀ = (.ok ready, t₀))
    (bound : ready.state = .signed send.signed)
    (submitted : outcome (ready.bridge.api.submit send.signed) s = (.ok send.hash, accepted))
    (asked : outcome (ready.bridge.api.confirmation send.hash) accepted = (send.answer, t))
    (run : outcome (ready.broadcast w.handle) s = (.ok (next, after), t)) :
    (w.afterSend after send).Sound := by
  have fresh : send.signed.operation.blockHeight = none := by
    obtain ⟨tx, signature, -, -, -, rfl⟩ := Flow.sign_ok_iff.mp signed
    rw [← FlowState.signed.inj bound]
    rfl
  obtain ⟨other, operation, state, sent, recorded, -⟩ := Flow.broadcast_ok_iff.mp run
  obtain rfl := FlowState.signed.inj (bound.symm.trans state)
  obtain ⟨-, -, hash, middle, answer, given, named, answered, rfl⟩ :=
    Bridge.broadcast_ok_iff.mp sent
  obtain ⟨sameHash, rfl⟩ := Prod.mk.inj (submitted.symm.trans given)
  obtain rfl := Except.ok.inj sameHash
  obtain ⟨rfl, -⟩ := Prod.mk.inj (asked.symm.trans answered)
  exact h.send recorded fresh named

theorem Sound.step (h : w.Sound) (step : Step σ w next) : next.Sound := by
  cases step with
  | broadcast signed bound submitted asked run => exact h.broadcast signed bound submitted asked run
  | load idle => exact h.load
  | publish begun run => exact h.publish begun run
  | notSynced begun run => exact { h with begun := fun _ hb => by cases hb }

theorem sound_of_run {handle : Handle} (empty : handle.current.pending = [])
    (run : Relation.ReflTransGen (Step σ) { handle := handle } w) : w.Sound := by
  induction run with
  | refl => exact sound_start empty
  | tail _ step ih => exact ih.step step

/-- Whatever is sent and synced from a scanned account on, each pending entry has been handed in.
It is confirmed exactly when the chain named its block right then, and the operations show it as
confirmed only if it was handed in after the sync had begun that they are from. -/
theorem pending_of_run {bridge : Bridge (StateM σ)} {derive : Nat → Except String String}
    {isDeep : Bool} {most : Nat} {now : Moment} {world : σ} {account : Account} {revision : Nat}
    (scanned : .ok account ∈ ((bridge.scan derive isDeep most now).run world).1)
    (run : Relation.ReflTransGen (Step σ) { handle := ⟨account, revision⟩ } w) :
    ∀ entry ∈ w.handle.current.pending, ∃ send ∈ w.sent, send.operation = entry ∧
      (entry.isConfirmed = true ↔ send.IsInline) ∧
      (w.handle.current.ShowsConfirmed entry → send ∈ w.recent) := by
  have empty : account.pending = [] := by
    obtain ⟨address, index, report, rfl⟩ := Bridge.refresh_of_scan scanned
    rfl
  have sound := sound_of_run empty run
  have confirmed (send : Sent) (hs : send ∈ w.sent) :
      send.operation.isConfirmed = true ↔ send.IsInline :=
    SignedOperation.handedIn_isConfirmed (sound.fresh send hs).1
  intro entry listed
  -- the same operation may have been handed in twice: what matters is the recent send
  by_cases shown : w.handle.current.ShowsConfirmed entry
  · obtain ⟨send, recent, rfl⟩ := List.mem_map.mp (sound.shown entry listed shown)
    exact ⟨send, sound.recent recent, rfl, confirmed send (sound.recent recent), fun _ => recent⟩
  · obtain ⟨send, hs, rfl⟩ := List.mem_map.mp (sound.handedIn listed)
    exact ⟨send, hs, rfl, confirmed send hs, fun other => absurd other shown⟩

def sampleSent (account : Account) (chain : MemoryChain) : Sent :=
  let (hash, accepted) := chain.accept (sampleSigned account)
  ⟨sampleSigned account, hash, .ok (accepted.confirmed.lookup hash)⟩

theorem step_broadcast_sample {w : SendLog} (account : Account) (chain : MemoryChain)
    (valid : (sampleTransaction.status .elrond account).errors = []) (calm : chain.failures = [])
    (room : chain.hasRoom = true) :
    Step MemoryChain w (w.afterSend
      ⟨{ w.handle.current with
        pending := Pending.add (chain.handedIn (sampleSigned account)) w.handle.current.pending },
        w.handle.revision + 1⟩ (sampleSent account chain)) := by
  have submitted : outcome (MemoryChain.api.submit (sampleSigned account)) chain =
      (.ok (sampleSent account chain).hash, (chain.accept (sampleSigned account)).2) := by
    rw [MemoryChain.outcome_submit, calm, List.lookup_nil, room, if_pos rfl]
    rfl
  have still : (chain.accept (sampleSigned account)).2.failures = [] := calm
  have asked : outcome (MemoryChain.api.confirmation (sampleSent account chain).hash)
      (chain.accept (sampleSigned account)).2 =
      ((sampleSent account chain).answer, (chain.accept (sampleSigned account)).2) := by
    rw [MemoryChain.outcome_confirmation, still, List.lookup_nil]
    rfl
  exact .broadcast (Session.outcome_sign_sample chain valid) rfl submitted asked
    (Session.outcome_broadcast_sample account w.handle calm room)

/-- A chain on which the address `me` has something to spend and has sent nothing. -/
def fundedChain : MemoryChain := { accounts := [("me", 9, 0)] }

def listingChain : MemoryChain := fundedChain.addEntry (samplePayment "hash1" 0 (some 8))

/-- A payment is handed in while a sync is under way that already shows it in a block; it is
carried over all the same. -/
theorem pending_of_overlap :
    ∃ w : SendLog, Relation.ReflTransGen (Step MemoryChain)
        { handle := ⟨sampleScanned fundedChain, 0⟩ } w ∧
      ∃ entry ∈ w.handle.current.pending, w.handle.current.ShowsConfirmed entry ∧
        ∃ send ∈ w.recent, send.operation = entry := by
  have scanned : .ok (sampleScanned fundedChain) ∈ sampleScan fundedChain := by decide +kernel
  have synced : outcome ((MemoryChain.bridge .elrond ⟨1, 1⟩).sync (sampleScanned fundedChain)
      .epoch) listingChain = (.ok _, listingChain) := MemoryChain.outcome_sync rfl
  have run : Relation.ReflTransGen (Step MemoryChain)
      { handle := ⟨sampleScanned fundedChain, 0⟩ } _ :=
    .head (.load rfl) <|
    .head (step_broadcast_sample (sampleScanned fundedChain) fundedChain (by decide +kernel) rfl
      rfl) <|
    .single (.publish rfl synced)
  obtain ⟨send, -, same, -, recent⟩ := pending_of_run scanned run
    (sampleSent (sampleScanned fundedChain) fundedChain).operation (by decide +kernel)
  refine ⟨_, run, _, ?_, ?_, send, recent ?_, same⟩
  all_goals decide +kernel

/-- The chain names the block as soon as the payment is handed in. -/
def inlineChain : MemoryChain := fundedChain.setConfirmsInline true

theorem inline_send_is_listed :
    ¬ ∀ (bridge : Bridge (StateM MemoryChain)) (derive : Nat → Except String String)
        (isDeep : Bool) (most : Nat) (now : Moment) (world : MemoryChain) (account : Account)
        (revision : Nat) (w : SendLog),
      .ok account ∈ ((bridge.scan derive isDeep most now).run world).1 →
      Relation.ReflTransGen (Step MemoryChain) { handle := ⟨account, revision⟩ } w →
      ∀ entry ∈ w.handle.current.pending,
        entry.isConfirmed = false ∧ ¬ w.handle.current.ShowsConfirmed entry := by
  intro claim
  have scanned : .ok (sampleScanned fundedChain) ∈ sampleScan fundedChain := by decide +kernel
  have run : Relation.ReflTransGen (Step MemoryChain)
      { handle := ⟨sampleScanned fundedChain, 0⟩ } _ :=
    .single (step_broadcast_sample (sampleScanned fundedChain) inlineChain (by decide +kernel) rfl
      rfl)
  have unconfirmed := claim _ _ _ _ _ _ _ _ _ scanned run _ List.mem_cons_self
  revert unconfirmed
  decide +kernel

end SendLog

end WalletSync
