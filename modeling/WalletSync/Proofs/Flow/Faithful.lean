import WalletSync.Proofs.Flow.Course
import WalletSync.Proofs.Flow.Sends

/-!
What a payment hands in to a chain in memory, whatever calls are made. The chain accepts it once at
most, and what is accepted is what the last signature was given for: the payload that the signer
saw, for an amount that the account could spend then.

A signer may answer as it likes and take into account whatever it has seen before, but it does not
hand anything in by itself.
-/

namespace WalletSync

/-- A chain in memory, and what signers were given, the latest first. -/
structure Desk where
  chain : MemoryChain
  given : List (Account × Payload) := []

namespace Desk

/-- What a chain does at a desk. -/
def onChain {α : Type} (x : StateM MemoryChain α) : StateM Desk α := fun desk =>
  let (a, chain) := x desk.chain
  (a, { desk with chain := chain })

/-- The bridge of a family to the chain. -/
def bridge (family : Family) (limits : ScanLimits) : Bridge (StateM Desk) :=
  ⟨family, MemoryChain.api.lift onChain fun _ => pure (), limits⟩

/-- The signer notes what it is given and leaves the chain alone. -/
def Notes (signer : Signer Desk) : Prop :=
  ∀ account payload desk, (outcome (signer account payload) desk).2 =
    { desk with given := (account, payload) :: desk.given }

/-- Anything may happen to the chain as long as nothing else is handed in. -/
def setting : Setting Desk where
  changes desk next := next.chain.submitted = desk.chain.submitted
  asks := Notes

variable {family : Family} {limits : ScanLimits} {signed : SignedOperation} {desk : Desk}
  {account : Account}

/-- The chain answers as if it were alone. -/
theorem outcome_onChain {ε α : Type} (x : ExceptT ε (StateM MemoryChain) α) :
    outcome (ExceptT.mk (onChain x.run) : ExceptT ε (StateM Desk) α) desk =
      ((outcome x desk.chain).1, { desk with chain := (outcome x desk.chain).2 }) := rfl

theorem outcome_submit : outcome ((bridge family limits).api.submit signed) desk =
    match desk.chain.failures.lookup .submit with
    | some error => (.error error, desk)
    | none =>
      if desk.chain.hasRoom then
        (.ok (desk.chain.accept signed).1, { desk with chain := (desk.chain.accept signed).2 })
      else (.error .overflow, desk) := by
  refine (outcome_onChain (MemoryChain.api.submit signed)).trans ?_
  rw [MemoryChain.outcome_submit]
  cases desk.chain.failures.lookup .submit with
  | some error => rfl
  | none => cases desk.chain.hasRoom <;> rfl

theorem outcome_question {ε α : Type} (x : ExceptT ε (StateM MemoryChain) α)
    (leaves : (outcome x desk.chain).2 = desk.chain) :
    outcome (ExceptT.mk (onChain x.run) : ExceptT ε (StateM Desk) α) desk =
      ((outcome x desk.chain).1, desk) := by
  rw [outcome_onChain, leaves]

theorem outcome_confirmation (hash : String) :
    outcome ((bridge family limits).api.confirmation hash) desk =
      ((outcome (MemoryChain.api.confirmation hash) desk.chain).1, desk) :=
  outcome_question (MemoryChain.api.confirmation hash) (MemoryChain.answer_leaves ..)

theorem outcome_networkConfig :
    outcome (bridge family limits).api.networkConfig desk =
      ((outcome MemoryChain.api.networkConfig desk.chain).1, desk) :=
  outcome_question MemoryChain.api.networkConfig (MemoryChain.answer_leaves ..)

theorem bridge_prepare_leaves (tx : Transaction) :
    (outcome ((bridge family limits).prepare account tx) desk).2 = desk := by
  unfold Bridge.prepare
  by_cases same : tx.family = (bridge family limits).family
  · cases tx.isPrepared with
    | true => simp [same]
    | false =>
        simp only [same, ne_eq, not_true_eq_false, if_false, Bool.false_eq_true, outcome_bind,
          outcome_adapt, outcome_networkConfig]
        cases (outcome MemoryChain.api.networkConfig desk.chain).1 <;> rfl
  · simp [same]

/-- What comes back when the operation has been accepted. -/
def handedIn (desk : Desk) (signed : SignedOperation) : Operation :=
  let (hash, accepted) := desk.chain.accept signed
  signed.handedIn hash (outcome (MemoryChain.api.confirmation hash) accepted).1

theorem handedIn_hash_ne_empty : (desk.handedIn signed).hash ≠ "" := by
  rw [handedIn, SignedOperation.handedIn_hash]
  exact MemoryChain.accept_hash_ne_empty

/-- What verifies is handed in, unless that is made to fail or the chain has no room for it. -/
theorem outcome_bridge_broadcast (same : signed.family = family)
    (verified : signed.verify = true) (calm : desk.chain.failures.lookup .submit = none)
    (room : desk.chain.hasRoom = true) :
    outcome ((bridge family limits).broadcast signed) desk =
      (.ok (desk.handedIn signed), { desk with chain := (desk.chain.accept signed).2 }) :=
  Bridge.broadcast_ok_iff.mpr ⟨same, verified, _, _, _,
    by rw [outcome_submit, calm, room, if_pos rfl], MemoryChain.accept_hash_ne_empty,
    outcome_confirmation _, rfl⟩

theorem outcome_bridge_broadcast_of_error (same : signed.family = family)
    (verified : signed.verify = true) {error : NetworkError}
    (failing : outcome ((bridge family limits).api.submit signed) desk = (.error error, desk)) :
    outcome ((bridge family limits).broadcast signed) desk = (.error (.network error), desk) := by
  have ours : signed.family = (bridge family limits).family := same
  unfold Bridge.broadcast
  simp only [ours, verified, ne_eq, not_true_eq_false, if_false, Bool.not_true,
    Bool.false_eq_true, outcome_bind, outcome_adapt, failing]
  rfl

variable (family limits signed desk) in
/-- A broadcast that fails leaves everything alone. -/
theorem bridge_broadcast_cases :
    (∃ cause, outcome ((bridge family limits).broadcast signed) desk = (.error cause, desk)) ∨
    outcome ((bridge family limits).broadcast signed) desk =
      (.ok (desk.handedIn signed), { desk with chain := (desk.chain.accept signed).2 }) := by
  cases verified : signed.verify with
  | false => exact .inl ⟨_, by rw [Bridge.broadcast_of_not_verify _ verified, outcome_throw]⟩
  | true =>
      by_cases same : signed.family = family
      · cases failing : desk.chain.failures.lookup .submit with
        | some error =>
            exact .inl ⟨_, outcome_bridge_broadcast_of_error same verified
              (by rw [outcome_submit, failing])⟩
        | none =>
            cases room : desk.chain.hasRoom with
            | false =>
                exact .inl ⟨_, outcome_bridge_broadcast_of_error same verified
                  (by rw [outcome_submit, failing, room, if_neg Bool.false_ne_true])⟩
            | true => exact .inr (outcome_bridge_broadcast same verified failing room)
      · refine .inl ⟨.familyMismatch signed.family family, ?_⟩
        have other : signed.family ≠ (bridge family limits).family := same
        unfold Bridge.broadcast
        rw [if_pos other]
        rfl

section Calls

variable {flow : Flow (StateM Desk)} (on : flow.bridge = bridge family limits)
include on

theorem prepare_leaves (account : Account) (desk : Desk) :
    (outcome (flow.prepare account) desk).2 = desk := by
  have left (tx : Transaction) : (outcome (flow.bridge.prepare account tx) desk).2 = desk := by
    rw [on, bridge_prepare_leaves]
  unfold Flow.prepare
  split
  · next tx _ => exact (outcome_adapt_pure_snd ..).trans (left tx)
  · next tx _ => exact (outcome_adapt_pure_snd ..).trans (left tx)
  · rfl

theorem broadcast_cases (handle : Handle) (desk : Desk) :
    (∃ cause, outcome (flow.broadcast handle) desk = (.error cause, desk)) ∨
    ∃ signed after, flow.state = .signed signed ∧
      outcome (flow.broadcast handle) desk =
        (.ok ({ flow with state := .ofOperation (desk.handedIn signed) }, after),
          { desk with chain := (desk.chain.accept signed).2 }) := by
  cases state : flow.state with
  | signed signed =>
      rcases bridge_broadcast_cases family limits signed desk with ⟨cause, failed⟩ | sent
      · refine .inl ⟨.broadcast cause, ?_⟩
        rw [Flow.broadcast, state]
        dsimp only
        rw [outcome_bind, outcome_adapt, on, failed]
        rfl
      · rw [← on] at sent
        exact .inr ⟨signed, _, rfl, Flow.broadcast_ok_iff.mpr
          ⟨signed, _, state, sent, Handle.record_of_hash handedIn_hash_ne_empty, rfl⟩⟩
  | _ => exact .inl ⟨_, by rw [Flow.broadcast, state]; rfl⟩

end Calls

theorem sign_leaves {signer : Signer Desk} (notes : Notes signer) (flow : Flow (StateM Desk))
    (account : Account) (now : Moment) (desk : Desk) :
    (outcome (flow.sign account signer now) desk).2.chain = desk.chain := by
  unfold Flow.sign
  split
  · split
    · rfl
    · rw [outcome_adapt_pure_snd, notes]
  · rfl

end Desk

/-- What was signed is what the signer was given, and the account could pay for it. -/
structure Signing.IsFaithful (signing : Signing Desk) (signed : SignedOperation) : Prop where
  given : signing.after.given = (signing.account, signed.payload) :: signing.before.given
  signature : outcome (signing.signer signing.account signed.payload) signing.before =
    (.ok signed.signature, signing.after)
  prepared : signed.payload.transaction.isPrepared = true
  amount : signed.payload.transaction.amount ≠ 0
  total : ∃ fees, signed.payload.transaction.fees = some fees ∧
    signed.payload.transaction.amount.val + fees.val = signed.operation.value.val
  spendable : signed.operation.value ≤ signing.account.spendable
  sequence : signed.payload.sequence = signing.account.nextSequence
  number : signed.operation.sequence = some signing.account.nextSequence

namespace Course

variable {family : Family} {limits : ScanLimits} {w next : Course Desk}

/-- What was signed last, and is still in force. -/
def Holds (w : Course Desk) (signed : SignedOperation) : Prop :=
  ∃ signing, w.signing = some signing ∧ signing.state = .signed signed ∧ signing.IsFaithful signed

theorem faithful_of_sign {flow ready : Flow (StateM Desk)} {account : Account}
    {signer : Signer Desk} {now : Moment} {desk after : Desk} (notes : Desk.Notes signer)
    (done : outcome (flow.sign account signer now) desk = (.ok ready, after)) :
    ∃ signed, ready.state = .signed signed ∧
      (Signing.mk account signer desk after ready.state).IsFaithful signed := by
  obtain ⟨tx, signature, -, built, asked, rfl⟩ := Flow.sign_ok_iff.mp done
  obtain ⟨-, prepared, valid, -⟩ := Transaction.build_eq_ok_iff.mp built
  obtain ⟨total, inRange, nonzero, enough⟩ := Transaction.total_of_no_errors valid
  have noted : after = { desk with given := (account, tx.payload account) :: desk.given } := by
    rw [← notes account (tx.payload account) desk, asked]
  have sum : total.val = (tx.amountFrom account).val + tx.knownFees.val :=
    Word.ofNat?_eq_some_iff.mp inRange
  have value : (tx.operation flow.bridge.family account now).value = total :=
    Word.ext ((Transaction.val_value_operation valid).trans sum.symm)
  obtain ⟨fees, -, known, -⟩ := Transaction.isPrepared_iff.mp prepared
  refine ⟨_, rfl, ?_⟩
  exact {
    given := congrArg Desk.given noted
    signature := asked
    prepared := prepared
    amount := nonzero
    total := ⟨fees, known, by
      rw [Transaction.knownFees, known, Option.getD_some] at sum
      exact sum.symm.trans (congrArg Word.val value).symm⟩
    spendable := by
      change (tx.operation flow.bridge.family account now).value ≤ account.spendable
      rw [value]
      exact enough
    sequence := rfl
    number := rfl }

/-- What holds throughout a run: the chain has what it had before until the payment is handed in,
and one operation more from then on. -/
structure Sound (family : Family) (limits : ScanLimits) (before : List SignedOperation)
    (w : Course Desk) : Prop where
  bridge : w.flow.bridge = Desk.bridge family limits
  signed : ∀ signed, w.flow.state = .signed signed → w.Holds signed
  untouched : w.flow.state.transaction? ≠ none → w.world.chain.submitted = before
  accepted : w.flow.state.transaction? = none →
    ∃ signed, w.Holds signed ∧ w.world.chain.submitted = before ++ [signed]

namespace Sound

variable {before : List SignedOperation}

/-- Nothing is signed yet, or any more. -/
theorem unsigned {flow : Flow (StateM Desk)} {desk : Desk} {signing : Option (Signing Desk)}
    {tx : Transaction} (state : flow.state = .draft tx ∨ flow.state = .prepared tx)
    (bridge : flow.bridge = Desk.bridge family limits)
    (untouched : desk.chain.submitted = before) :
    Sound family limits before ⟨flow, desk, signing⟩ := by
  have pending : flow.state.transaction? = some tx := by
    rcases state with state | state <;> rw [state, FlowState.transaction?]
  refine ⟨bridge, fun signed same => ?_, fun _ => untouched, fun gone => ?_⟩
  · rcases state with state | state <;> cases state.symm.trans same
  · cases pending.symm.trans gone

theorem world (h : Sound family limits before w) {desk : Desk}
    (same : desk.chain.submitted = w.world.chain.submitted) :
    Sound family limits before { w with world := desk } where
  bridge := h.bridge
  signed := h.signed
  untouched pending := same.trans (h.untouched pending)
  accepted done := by
    obtain ⟨signed, holds, accepted⟩ := h.accepted done
    exact ⟨signed, holds, same.trans accepted⟩

theorem update (h : Sound family limits before w) (patch : Patch) :
    Sound family limits before (w.update patch) := by
  unfold Course.update
  split
  · next flow done =>
      unfold Flow.update at done
      split at done
      · next tx pending =>
          cases done
          exact unsigned (.inl rfl) h.bridge (h.untouched (by simp [pending]))
      · cases done
  · exact h

theorem prepare (h : Sound family limits before w) (account : Account) :
    Sound family limits before (w.prepare account) := by
  have leaves := Desk.prepare_leaves h.bridge account w.world
  unfold Course.prepare
  split
  · next flow t done =>
      obtain rfl : t = w.world := by rw [← leaves, done]
      obtain ⟨tx, prepared, state, -, rfl⟩ := Flow.prepare_ok_iff.mp done
      refine unsigned (.inr rfl) h.bridge (h.untouched ?_)
      rcases state with state | state <;> simp [state, FlowState.transaction?]
  · next error t failed =>
      obtain rfl : t = w.world := by rw [← leaves, failed]
      exact h

theorem sign (h : Sound family limits before w) (account : Account) {signer : Signer Desk}
    (now : Moment) (notes : Desk.Notes signer) :
    Sound family limits before (w.sign account signer now) := by
  have leaves := Desk.sign_leaves notes w.flow account now w.world
  unfold Course.sign
  split
  · next flow t done =>
      rw [done] at leaves
      obtain ⟨signed, state, faithful⟩ := faithful_of_sign notes done
      obtain ⟨tx, _, prepared, -, -, same⟩ := Flow.sign_ok_iff.mp done
      have untouched := h.untouched (by simp [prepared, FlowState.transaction?])
      refine ⟨?_, fun other held => ?_, fun _ => ?_, fun gone => ?_⟩
      · rw [same]
        exact h.bridge
      · obtain rfl := FlowState.signed.inj (state.symm.trans held)
        exact ⟨_, rfl, state, faithful⟩
      · exact (congrArg MemoryChain.submitted leaves).trans untouched
      · simp [state, FlowState.transaction?] at gone
  · next error t failed =>
      rw [failed] at leaves
      exact h.world (congrArg MemoryChain.submitted leaves)

theorem broadcast (h : Sound family limits before w) (handle : Handle) :
    Sound family limits before (w.broadcast handle) := by
  unfold Course.broadcast
  rcases Desk.broadcast_cases h.bridge handle w.world with
    ⟨cause, failed⟩ | ⟨signed, after, state, sent⟩
  · rw [failed]
    exact h
  · have untouched := h.untouched (by simp [state, FlowState.transaction?])
    have holds := h.signed signed state
    rw [sent]
    refine ⟨h.bridge, fun other held => ?_, fun pending => ?_, fun _ => ⟨signed, holds, ?_⟩⟩
    · exact absurd held (FlowState.ofOperation_ne_signed _ _)
    · exact absurd (FlowState.transaction?_ofOperation _) pending
    · exact congrArg (· ++ [signed]) untouched

theorem reconcile (h : Sound family limits before w) (synced : Account) :
    Sound family limits before (w.reconcile synced) where
  bridge := h.bridge
  signed signed held := h.signed signed (FlowState.reconcile_eq_signed.mp held)
  untouched pending := h.untouched (by rwa [← FlowState.transaction?_reconcile])
  accepted done := h.accepted (by rwa [← FlowState.transaction?_reconcile])

theorem start (desk : Desk) : Sound family limits desk.chain.submitted
    { flow := .start (Desk.bridge family limits), world := desk } :=
  unsigned (.inl rfl) rfl rfl

theorem step (h : Sound family limits before w) (step : Step Desk.setting w next) :
    Sound family limits before next := by
  cases step with
  | world changed => exact h.world changed
  | update patch => exact h.update patch
  | prepare account => exact h.prepare account
  | sign account now notes => exact h.sign account now notes
  | broadcast handle => exact h.broadcast handle
  | reconcile synced => exact h.reconcile synced

theorem of_run {desk : Desk} (run : Relation.ReflTransGen (Step Desk.setting)
      { flow := .start (Desk.bridge family limits), world := desk } w) :
    Sound family limits desk.chain.submitted w := by
  induction run with
  | refl => exact start desk
  | tail _ last ih => exact ih.step last

end Sound

section Sample

/-- A chain with terms under which a payment costs one unit. -/
def sampleDesk : Desk := { chain := { networkConfig := some ⟨"1", 1, 1, 18⟩ } }

/-- A signer who notes what it is given and always signs. -/
def sampleSigner : Signer Desk := fun account payload => ExceptT.mk fun desk =>
  (.ok "signature", { desk with given := (account, payload) :: desk.given })

def sampleCourse : Course Desk :=
  { flow := .start (Desk.bridge .elrond ⟨1, 1⟩), world := sampleDesk }

def samplePatch : Patch :=
  { amount := some sampleTransaction.amount, recipient := some sampleTransaction.recipient }

/-- The payment as it is signed. -/
def sampleReady : Course Desk :=
  ((sampleCourse.update samplePatch).prepare sampleStart.current).sign sampleStart.current
    sampleSigner .epoch

theorem state_sampleReady :
    sampleReady.flow = ⟨Desk.bridge .elrond ⟨1, 1⟩, .signed (sampleSigned sampleStart.current)⟩ ∧
      sampleReady.world.chain = sampleDesk.chain := by
  have prepared : (sampleCourse.update samplePatch).prepare sampleStart.current =
      { flow := ⟨Desk.bridge .elrond ⟨1, 1⟩, .prepared sampleTransaction⟩
        world := sampleDesk } := by rfl
  have built : sampleTransaction.build .elrond sampleStart.current .epoch = .ok _ :=
    Transaction.build_eq_ok_iff.mpr ⟨rfl, by decide +kernel, by decide +kernel, rfl⟩
  have done : outcome ((⟨Desk.bridge .elrond ⟨1, 1⟩, .prepared sampleTransaction⟩ :
      Flow (StateM Desk)).sign sampleStart.current sampleSigner .epoch) sampleDesk = (.ok _, _) :=
    Flow.sign_ok_iff.mpr ⟨_, "signature", rfl, built, rfl, rfl⟩
  rw [sampleReady, prepared, sign]
  rw [done]
  exact ⟨rfl, rfl⟩

/-- The payment as it is handed in. -/
def sampleSent : Operation := (sampleSigned sampleStart.current).handedIn "hash1" (.ok none)

theorem broadcast_sampleReady :
    (sampleReady.broadcast sampleStart).flow.state = .broadcast sampleSent ∧
      (sampleReady.broadcast sampleStart).world.chain.submitted =
        [sampleSigned sampleStart.current] := by
  obtain ⟨flow, chain⟩ := state_sampleReady
  have verified : (sampleSigned sampleStart.current).verify = true :=
    SignedOperation.verify_bind (by decide)
  have sent : outcome ((Desk.bridge .elrond ⟨1, 1⟩).broadcast (sampleSigned sampleStart.current))
      sampleReady.world = _ :=
    Desk.outcome_bridge_broadcast rfl verified (by rw [chain]; rfl) (by rw [chain]; rfl)
  have done : outcome (sampleReady.flow.broadcast sampleStart) sampleReady.world = (.ok _, _) :=
    Flow.broadcast_ok_iff.mpr ⟨sampleSigned sampleStart.current, _, by rw [flow],
      by rw [flow]; exact sent, Handle.record_of_hash Desk.handedIn_hash_ne_empty, rfl⟩
  rw [broadcast, done]
  constructor
  · change FlowState.ofOperation (sampleReady.world.handedIn (sampleSigned sampleStart.current)) =
      .broadcast sampleSent
    rw [Desk.handedIn, chain]
    rfl
  · change sampleReady.world.chain.submitted ++ [sampleSigned sampleStart.current] = _
    rw [chain]
    rfl

theorem run_sample :
    Relation.ReflTransGen (Step Desk.setting) sampleCourse (sampleReady.broadcast sampleStart) :=
  .head (.update _ samplePatch) <| .head (.prepare _ sampleStart.current) <|
    .head (.sign _ sampleStart.current .epoch fun _ _ _ => rfl) <| .single (.broadcast _ _)

end Sample

end Course

end WalletSync
