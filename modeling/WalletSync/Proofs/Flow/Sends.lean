import Mathlib.Logic.Relation
import WalletSync.Proofs.Flow.Steps
import WalletSync.Proofs.Sync.Carry

/-!
Runs in which one account sends again and again while it is synced. A payment is signed for the
account as it is held then, and recorded when it has been handed in; a sync begins and ends
anywhere in between. Numbers of successive sends increase as long as the reports that are published
can be relied on.

The invariant is that the number of every send so far is covered: by a pending entry of that number
or a later one, or by the number that was reported last. What a handle can hold while a sync is
under way is what the sync began with and what was recorded since.
-/

namespace WalletSync

/-- One handle over time. The numbers of sends stand with the latest first. -/
structure Session (σ : Type) where
  handle : Handle
  /-- What is signed and not yet handed in. -/
  signed : Option (Flow (StateM σ)) := none
  /-- What the sync began with that is under way. -/
  base : Option Handle := none
  sent : List Count := []
  /-- The sequence number that the last sync has published. -/
  reported : Option Count := none

namespace Session

variable {σ : Type}

/-- The id that a hash gives was not pending when the sync began that is under way. -/
def IsNew (w : Session σ) (hash : String) : Prop :=
  ∀ base ∈ w.base, operationId base.current.id hash .outgoing ∉ ids base.current.pending

/-- What is relied on in the result of a sync. Reported numbers do not decrease, and they are
beyond what settled operations have used up; a settled operation in which a pending entry is
recognised is the same send. -/
structure Reliable (w : Session σ) (base synced : Account) : Prop where
  monotone : ∀ last ∈ w.reported, last ≤ synced.remoteSequence
  beyond : ∀ op ∈ synced.operations, op.isSettled = true →
    ∀ used ∈ op.usedSequence? synced.address, used < synced.remoteSequence
  sameSend : ∀ p ∈ base.pending, ∀ op ∈ synced.operations, op.isSettled = true →
    (op.id = p.id ∨ op.hash ≠ "" ∧ op.hash = p.hash) →
    ∀ used ∈ p.usedSequence? synced.address, used ∈ op.usedSequence? synced.address

/-- The session when a sync that began with `base` has been published. -/
def afterSync (w : Session σ) (base : Handle) (synced : Account) : Session σ :=
  { w with
    handle := w.handle.publish base synced, base := none
    reported := some synced.remoteSequence }

/-- The session when what was signed has been recorded. -/
def afterSend (w : Session σ) (handle : Handle) (number : Count) : Session σ :=
  { w with handle := handle, signed := none, sent := number :: w.sent }

/-- What happens in a run. Between signing and handing in, between the begin and the end of a
sync, and between all of these, the other steps may occur; a broadcast is placed where it is
recorded on the handle. -/
inductive Step : Session σ → Session σ → Prop
  | sign {w : Session σ} {flow next : Flow (StateM σ)}
      {signer : Account → Payload → ExceptT SignerError (StateM σ) String} {now : Moment}
      {s t : σ} :
      outcome (flow.sign w.handle.current signer now) s = (.ok next, t) →
      w.handle.current.nextSequence < Word.top →
      Step w { w with signed := some next }
  | broadcast {w : Session σ} {flow next : Flow (StateM σ)} {signed : SignedOperation}
      {after : Handle} {s t : σ} :
      w.signed = some flow → flow.state = .signed signed →
      outcome (flow.broadcast w.handle) s = (.ok (next, after), t) →
      (∀ hash accepted, outcome (flow.bridge.api.submit signed) s = (.ok hash, accepted) →
        w.IsNew hash) →
      Step w (w.afterSend after signed.payload.sequence)
  | load {w : Session σ} : w.base = none → Step w { w with base := some w.handle }
  | publish {w : Session σ} {base : Handle} {synced : Account} {bridge : Bridge (StateM σ)}
      {now : Moment} {s t : σ} :
      w.base = some base → outcome (bridge.sync base.current now) s = (.ok synced, t) →
      w.Reliable base.current synced → Step w (w.afterSync base synced)
  | notSynced {w : Session σ} {base : Handle} {bridge : Bridge (StateM σ)} {now : Moment}
      {error : SyncError} {s t : σ} :
      w.base = some base → outcome (bridge.sync base.current now) s = (.error error, t) →
      Step w { w with base := none }

/-- A number that will not be handed out again: a pending entry has it or a later one, or a later
one has been reported. -/
def Covers (w : Session σ) (n : Count) : Prop :=
  (∃ p ∈ w.handle.current.pending, ∃ used ∈ p.usedSequence? w.handle.current.address, n ≤ used) ∨
    ∃ last ∈ w.reported, n < last

/-- What holds throughout a run. -/
structure Safe (w : Session σ) : Prop where
  increasing : w.sent.Pairwise fun later earlier => earlier < later
  bounded : ∀ n ∈ w.sent, n < Word.top
  covered : ∀ n ∈ w.sent, w.Covers n
  reported : ∀ last ∈ w.reported, last = w.handle.current.remoteSequence
  recorded : ∀ base ∈ w.base, ∃ ops, w.handle = base.recordAll ops ∧
    ∀ op ∈ ops, op.id ∉ ids base.current.pending
  signed : ∀ flow ∈ w.signed, ∀ signed, flow.state = .signed signed →
    signed.payload.sequence < Word.top ∧ (∀ n ∈ w.sent, n < signed.payload.sequence) ∧
    signed.operation.accountId = w.handle.current.id ∧
    signed.operation.usedSequence? w.handle.current.address = some signed.payload.sequence

variable {w next : Session σ} {base : Handle} {synced : Account} {n : Count}

/-- A pending entry with a number is kept by a sync, or a later number is reported. -/
theorem Reliable.keeps_or_passes {report : ChainReport} {now : Moment}
    (h : w.Reliable base.current (base.current.refresh report now)) {p : Operation}
    (hp : p ∈ base.current.pending) (hu : n ∈ p.usedSequence? base.current.address) :
    p ∈ (base.current.refresh report now).pending ∨
      n < (base.current.refresh report now).remoteSequence := by
  by_cases kept : p ∈ (base.current.refresh report now).pending
  · exact .inl kept
  · refine .inr ?_
    rw [Account.pending_refresh, Pending.mem_reconcile, not_and, not_and_or] at kept
    rcases kept hp with seen | superseded
    · obtain ⟨op, hop, same⟩ := Pending.isSeen_iff.mp (by simpa using seen)
      obtain ⟨hop, settled⟩ := List.mem_filter.mp hop
      exact h.beyond op hop settled n (h.sameSend p hp op hop settled same n hu)
    · rcases (Pending.isSuperseded_of_used hu).mp (by simpa using superseded) with
        below | ⟨op, hop, used, hused, hle⟩
      · exact below
      · obtain ⟨hop, settled⟩ := List.mem_filter.mp hop
        exact Word.lt_of_le_of_lt hle (h.beyond op hop settled used hused)

/-- What is covered is not handed out again. -/
theorem Safe.lt_nextSequence (h : w.Safe) (hn : n ∈ w.sent) :
    n < w.handle.current.nextSequence := by
  rcases h.covered n hn with ⟨p, hp, used, hu, hle⟩ | ⟨last, hlast, hlt⟩
  · exact Word.lt_of_lt_of_le (Word.lt_succSat_of_le hle (h.bounded n hn))
      (Account.succSat_le_nextSequence hp hu)
  · rw [h.reported last hlast] at hlt
    exact Word.lt_of_lt_of_le hlt Account.remoteSequence_le_nextSequence

theorem safe_start (handle : Handle) : Safe ({ handle := handle } : Session σ) where
  increasing := .nil
  bounded _ hn := absurd hn List.not_mem_nil
  covered _ hn := absurd hn List.not_mem_nil
  reported _ hl := by cases hl
  recorded _ hb := by cases hb
  signed _ hf := by cases hf

theorem Safe.sign (h : w.Safe) {flow next : Flow (StateM σ)}
    {signer : Account → Payload → ExceptT SignerError (StateM σ) String} {now : Moment} {s t : σ}
    (run : outcome (flow.sign w.handle.current signer now) s = (.ok next, t))
    (below : w.handle.current.nextSequence < Word.top) :
    Safe { w with signed := some next } := by
  refine { h with signed := ?_ }
  intro after current signed bound
  obtain rfl := Option.some.inj current
  obtain ⟨tx, signature, -, -, -, rfl⟩ := Flow.sign_ok_iff.mp run
  obtain rfl := FlowState.signed.inj bound
  refine ⟨below, fun n hn => h.lt_nextSequence hn, rfl, ?_⟩
  simp [SignedOperation.bind, Transaction.operation, Transaction.payload,
    Operation.usedSequence?, Operation.isSentBy]

/-- The entry of what is recorded covers its number, and with it every lower one. -/
theorem covers_afterSend {op : Operation} {after : Handle} {number : Count}
    (recorded : w.handle.record op = .ok after) (given : op.hash ≠ "")
    (uses : op.usedSequence? w.handle.current.address = some number) (hn : n ≤ number) :
    (w.afterSend after number).Covers n := by
  rw [Handle.record_of_hash given] at recorded
  obtain rfl := Except.ok.inj recorded
  exact .inl ⟨op, List.mem_cons_self, number, uses, hn⟩

theorem Safe.broadcast (h : w.Safe) {flow next : Flow (StateM σ)} {signed : SignedOperation}
    {after : Handle} {s t : σ} (current : w.signed = some flow)
    (bound : flow.state = .signed signed)
    (run : outcome (flow.broadcast w.handle) s = (.ok (next, after), t))
    (new : ∀ hash accepted, outcome (flow.bridge.api.submit signed) s = (.ok hash, accepted) →
      w.IsNew hash) :
    (w.afterSend after signed.payload.sequence).Safe := by
  obtain ⟨below, ahead, sameAccount, number⟩ := h.signed flow current signed bound
  obtain ⟨_, op, hash, accepted, state, submitted, recorded, rfl, given, named, uses⟩ :=
    Flow.broadcast_records run
  obtain rfl := FlowState.signed.inj (bound.symm.trans state)
  have covers := fun n => covers_afterSend (n := n) recorded given ((uses _).trans number)
  refine ⟨List.pairwise_cons.mpr ⟨ahead, h.increasing⟩,
    List.forall_mem_cons.mpr ⟨below, h.bounded⟩,
    List.forall_mem_cons.mpr ⟨covers _ (Word.le_refl _), fun n hn => covers n
      (Nat.le_of_lt (ahead n hn))⟩, ?_, ?_, fun _ hf => by cases hf⟩
  · rw [Handle.record_of_hash given] at recorded
    obtain rfl := Except.ok.inj recorded
    exact h.reported
  · intro base inFlight
    obtain ⟨ops, same, unknown⟩ := h.recorded base inFlight
    refine ⟨ops ++ [op], ?_, List.forall_mem_append.mpr
      ⟨unknown, List.forall_mem_singleton.mpr ?_⟩⟩
    · rw [Handle.recordAll_append, ← same, recorded]
      rfl
    · have outgoing : signed.operation.direction = .outgoing := by
        by_contra incoming
        simp [Operation.usedSequence?, incoming] at number
      have sameId : w.handle.current.id = base.current.id := by
        rw [same, Handle.recordAll_eq]
      rw [named, sameAccount, outgoing, sameId]
      exact new _ accepted submitted base inFlight

theorem Safe.load (h : w.Safe) : Safe { w with base := some w.handle } := by
  refine { h with recorded := ?_ }
  intro base begun
  obtain rfl := Option.some.inj begun
  exact ⟨[], rfl, fun _ hop => absurd hop List.not_mem_nil⟩

theorem current_afterSync {ops : List Operation} (same : w.handle = base.recordAll ops)
    (synced : Account) :
    (w.afterSync base synced).handle.current = { synced with
      pending := (Pending.latestForms ops).filter (·.id ∉ ids base.current.pending) ++
        synced.pending } := by
  rw [← Handle.publish_recordAll, ← same]
  rfl

/-- What was recorded meanwhile is carried over, as its ids are new; what was pending before is
kept or passed by the report. -/
theorem covers_afterSync {ops : List Operation} {report : ChainReport} {now : Moment}
    (same : w.handle = base.recordAll ops)
    (unknown : ∀ op ∈ ops, op.id ∉ ids base.current.pending)
    (reliable : w.Reliable base.current (base.current.refresh report now))
    (covered : w.Covers n) :
    (w.afterSync base (base.current.refresh report now)).Covers n := by
  unfold Covers
  rw [current_afterSync same]
  rcases covered with ⟨p, hp, used, hu, hle⟩ | ⟨last, hlast, hlt⟩
  · rw [same, Handle.recordAll_eq] at hp hu
    rcases List.mem_append.mp hp with carried | known
    · have new := unknown p (Pending.mem_of_mem_latestForms carried)
      exact .inl ⟨p, List.mem_append_left _ (List.mem_filter.mpr ⟨carried, decide_eq_true new⟩),
        used, hu, hle⟩
    · rcases reliable.keeps_or_passes (List.mem_filter.mp known).1 hu with left | passed
      · exact .inl ⟨p, List.mem_append_right _ left, used, hu, hle⟩
      · exact .inr ⟨_, rfl, Word.lt_of_le_of_lt hle passed⟩
  · exact .inr ⟨_, rfl, Word.lt_of_lt_of_le hlt (reliable.monotone last hlast)⟩

theorem Safe.publish (h : w.Safe) {bridge : Bridge (StateM σ)} {now : Moment} {s t : σ}
    (begun : w.base = some base) (run : outcome (bridge.sync base.current now) s = (.ok synced, t))
    (reliable : w.Reliable base.current synced) : (w.afterSync base synced).Safe := by
  obtain ⟨-, report, -, rfl⟩ := Bridge.sync_ok_iff.mp run
  obtain ⟨ops, same, unknown⟩ := h.recorded base begun
  refine ⟨h.increasing, h.bounded,
    fun n hn => covers_afterSync same unknown reliable (h.covered n hn), ?_,
    (fun _ hb => by cases hb), ?_⟩
  · intro last hlast
    rw [current_afterSync same]
    exact (Option.some.inj hlast).symm
  · have held := h.signed
    rw [same, Handle.recordAll_eq] at held
    rw [current_afterSync same]
    exact held

theorem Safe.step (h : w.Safe) (step : Step w next) : next.Safe := by
  cases step with
  | sign run below => exact h.sign run below
  | broadcast current bound run new => exact h.broadcast current bound run new
  | load idle => exact h.load
  | publish begun run reliable => exact h.publish begun run reliable
  | notSynced begun run => exact { h with recorded := fun _ hb => by cases hb }

theorem safe_of_run {handle : Handle} (run : Relation.ReflTransGen Step { handle := handle } w) :
    w.Safe := by
  induction run with
  | refl => exact safe_start handle
  | tail _ step ih => exact ih.step step

/-- The numbers of successive sends increase, wherever syncs begin and end in between. -/
theorem sent_increasing {handle : Handle}
    (run : Relation.ReflTransGen Step { handle := handle } w) :
    w.sent.Pairwise fun later earlier => earlier < later :=
  (safe_of_run run).increasing

end Session

/-- A payment of the address `me` that is ready to be signed. -/
def sampleTransaction : Transaction :=
  let tx : Transaction := { Transaction.draft .elrond with
    recipient := String.ofList (Bech32.opening ++ List.replicate 58 'q')
    amount := 2, fees := some 1 }
  { tx with feeQuote := some ⟨"1", 1, 1, tx.basis⟩ }

def sampleSigned (account : Account) : SignedOperation :=
  .bind (sampleTransaction.operation .elrond account .epoch) (sampleTransaction.payload account)
    "signature"

/-- The account has sent the number 0 and has something to spend. -/
def sampleStart : Handle :=
  { current := { sampleSender [("a", 0)] with balance := 9, spendable := 9 } }

/-- The chain has settled the number 0 and says so. -/
def settledChain : MemoryChain := { laggingChain with accounts := [("me", 9, 1)] }

namespace Session

def sampleFlow (state : FlowState) : Flow (StateM MemoryChain) :=
  ⟨MemoryChain.bridge .elrond ⟨1, 1⟩, state⟩

theorem outcome_sign_sample {account : Account} (chain : MemoryChain)
    (valid : (sampleTransaction.status .elrond account).errors = []) :
    outcome ((sampleFlow (.prepared sampleTransaction)).sign account (fun _ _ => pure "signature")
      .epoch) chain = (.ok (sampleFlow (.signed (sampleSigned account))), chain) := by
  have built : sampleTransaction.build .elrond account .epoch = .ok _ :=
    Transaction.build_eq_ok_iff.mpr ⟨rfl, by decide +kernel, valid, rfl⟩
  exact Flow.sign_ok_iff.mpr ⟨_, "signature", rfl, built, rfl, rfl⟩

theorem outcome_broadcast_sample (account : Account) (handle : Handle) {chain : MemoryChain}
    (calm : chain.failures = []) (room : chain.hasRoom = true) :
    outcome ((sampleFlow (.signed (sampleSigned account))).broadcast handle) chain =
      (.ok (sampleFlow (.ofOperation (chain.handedIn (sampleSigned account))),
        ⟨{ handle.current with
          pending := Pending.add (chain.handedIn (sampleSigned account)) handle.current.pending },
          handle.revision + 1⟩), (chain.accept (sampleSigned account)).2) := by
  have verified : (sampleSigned account).verify = true := SignedOperation.verify_bind (by decide)
  have sent : outcome ((MemoryChain.bridge .elrond ⟨1, 1⟩).broadcast (sampleSigned account)) chain =
      _ := MemoryChain.outcome_broadcast rfl verified calm room
  exact Flow.broadcast_ok_iff.mpr
    ⟨_, _, rfl, sent, Handle.record_of_hash MemoryChain.handedIn_hash_ne_empty, rfl⟩

theorem step_sign_sample {w : Session MemoryChain}
    (valid : (sampleTransaction.status .elrond w.handle.current).errors = [])
    (below : w.handle.current.nextSequence < Word.top) :
    Step w { w with signed := some (sampleFlow (.signed (sampleSigned w.handle.current))) } :=
  .sign (outcome_sign_sample settledChain valid) below

theorem step_broadcast_sample {w : Session MemoryChain} {account : Account} (chain : MemoryChain)
    (held : w.signed = some (sampleFlow (.signed (sampleSigned account))))
    (calm : chain.failures = []) (room : chain.hasRoom = true)
    (new : w.IsNew (chain.accept (sampleSigned account)).1) :
    Step w { w with
      handle := ⟨{ w.handle.current with
        pending := Pending.add (chain.handedIn (sampleSigned account))
          w.handle.current.pending }, w.handle.revision + 1⟩
      signed := none, sent := (sampleSigned account).payload.sequence :: w.sent } := by
  refine .broadcast held rfl (outcome_broadcast_sample account w.handle calm room) ?_
  intro hash accepted submitted
  change outcome (MemoryChain.api.submit _) chain = _ at submitted
  rw [MemoryChain.outcome_submit, calm, List.lookup_nil, room, if_pos rfl] at submitted
  obtain rfl := Except.ok.inj (Prod.mk.inj submitted).1
  exact new

/-- A payment is handed in while a sync is under way that began before it, and that settles what
was pending then; the next one follows it all the same. -/
theorem sent_increasing_of_overlap :
    ∃ w : Session MemoryChain, Relation.ReflTransGen Step { handle := sampleStart } w ∧
      w.sent = [2, 1] ∧ w.sent.Pairwise fun later earlier => earlier < later := by
  have synced : outcome ((MemoryChain.bridge .elrond ⟨1, 1⟩).sync sampleStart.current .epoch)
      settledChain = (.ok _, settledChain) := MemoryChain.outcome_sync rfl
  have new : ∀ base ∈ some sampleStart,
      operationId base.current.id (settledChain.accept (sampleSigned sampleStart.current)).1
        .outgoing ∉ ids base.current.pending := by decide +kernel
  have run : Relation.ReflTransGen Step ({ handle := sampleStart } : Session MemoryChain) _ :=
    .head (step_sign_sample (by decide +kernel) (by decide +kernel)) <|
    .head (.load rfl) <|
    .head (step_broadcast_sample settledChain rfl rfl rfl new) <|
    .head (.publish rfl synced ⟨(fun _ none => by cases none), by decide +kernel,
      by decide +kernel⟩) <|
    .head (step_sign_sample (by decide +kernel) (by decide +kernel)) <|
    .single (step_broadcast_sample
      (settledChain.accept (sampleSigned sampleStart.current)).2 rfl rfl rfl
      (fun _ none => by cases none))
  exact ⟨_, run, by decide +kernel, sent_increasing run⟩

end Session

end WalletSync
