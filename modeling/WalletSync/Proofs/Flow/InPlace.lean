import WalletSync.Proofs.Flow.Course
import WalletSync.Proofs.Flow.Sends

/-!
A payment whose flow and handle are changed in place. Every call writes to them when it has what it
needs, so a call that fails late could leave half of its work behind. None does: a call writes what
the step of the flow returns, and an error leaves flow and handle as they were. So the flow only
moves along the edges of its state machine, and stays where it has been confirmed or has failed.

The chain and the signer may do anything, and whatever else happens between two calls may change the
handle and the world, but not the flow, which has one owner. What an error leaves behind on the
chain is not treated; a payment may have been accepted that was never recorded.
-/

namespace WalletSync

/-- What the calls of one payment write to. -/
structure Held where
  state : FlowState
  handle : Handle
deriving DecidableEq

/-- A call of the owner of a flow. -/
inductive FlowCall (σ : Type) where
  | update (patch : Patch)
  | prepare (account : Account)
  | sign (account : Account) (signer : Signer σ) (now : Moment)
  | broadcast
  | reconcile (synced : Account)

variable {σ : Type}

namespace Held

variable {ε α : Type}

def readState : ExceptT ε (StateM (Held × σ)) FlowState :=
  ExceptT.mk fun (held, s) => (.ok held.state, (held, s))

def writeState (state : FlowState) : ExceptT ε (StateM (Held × σ)) Unit :=
  ExceptT.mk fun (held, s) => (.ok (), ({ held with state }, s))

def readHandle : ExceptT ε (StateM (Held × σ)) Handle :=
  ExceptT.mk fun (held, s) => (.ok held.handle, (held, s))

def writeHandle (handle : Handle) : ExceptT ε (StateM (Held × σ)) Unit :=
  ExceptT.mk fun (held, s) => (.ok (), ({ held with handle }, s))

def ask (x : ExceptT ε (StateM σ) α) : ExceptT ε (StateM (Held × σ)) α :=
  ExceptT.mk fun (held, s) =>
    let (result, t) := x.run.run s
    (result, (held, t))

def recordPending (op : Operation) : ExceptT BroadcastError (StateM (Held × σ)) Unit := do
  if op.hash = "" then throw .missingHash
  let handle ← readHandle
  writeHandle ⟨{ handle.current with pending := Pending.add op handle.current.pending },
    handle.revision + 1⟩

/-- What a call leaves when it writes down the result of a step, or nothing when there is none. -/
def written (held : Held) : Except FlowError Held × σ → Except FlowError Unit × (Held × σ)
  | (.ok after, t) => (.ok (), (after, t))
  | (.error error, t) => (.error error, (held, t))

variable {held : Held} {after : Held × σ}

theorem eq_of_written_error {result : Except FlowError Held × σ} {error : FlowError}
    (failed : held.written result = (.error error, after)) : after.1 = held := by
  obtain ⟨cause | next, t⟩ := result
  · exact (congrArg Prod.fst (Prod.mk.inj failed).2).symm
  · cases failed

theorem eq_of_written_ok {result : Except FlowError Held × σ}
    (done : held.written result = (.ok (), after)) : result = (.ok after.1, after.2) := by
  obtain ⟨cause | next, t⟩ := result
  · cases done
  · obtain rfl := (Prod.mk.inj done).2
    rfl

end Held

namespace FlowCall

open Held

/-- The call with its writes in the order in which they happen. -/
def run (bridge : Bridge (StateM σ)) : FlowCall σ → ExceptT FlowError (StateM (Held × σ)) Unit
  | .update patch => do
    let state ← readState
    match state.transaction? with
    | some tx => writeState (.draft (tx.update patch))
    | none => throw (.invalidState "update" state.name)
  | .prepare account => do
    let state ← readState
    match state with
    | .draft tx | .prepared tx =>
      let prepared ← ask ((bridge.prepare account tx).adapt .payment)
      writeState (.prepared prepared)
    | _ => throw (.invalidState "prepare" state.name)
  | .sign account signer now => do
    let state ← readState
    match state with
    | .prepared tx =>
      match tx.build bridge.family account now with
      | .error cause => throw (.payment cause)
      | .ok (payload, operation) =>
        let signature ← ask ((signer account payload).adapt .signer)
        writeState (.signed (.bind operation payload signature))
    | _ => throw (.invalidState "sign" state.name)
  | .broadcast => do
    let state ← readState
    match state with
    | .signed signed =>
      let operation ← ask ((bridge.broadcast signed).adapt .broadcast)
      (recordPending operation).adapt .broadcast
      writeState (.ofOperation operation)
    | _ => throw (.invalidState "broadcast" state.name)
  | .reconcile synced => do
    let state ← readState
    writeState (state.reconcile synced)

/-- What the step of the flow returns, together with the handle. -/
def next (bridge : Bridge (StateM σ)) (held : Held) : FlowCall σ → ExceptT FlowError (StateM σ) Held
  | .update patch =>
    match (Flow.mk bridge held.state).update patch with
    | .ok flow => return { held with state := flow.state }
    | .error error => throw error
  | .prepare account => do
    let flow ← (Flow.mk bridge held.state).prepare account
    return { held with state := flow.state }
  | .sign account signer now => do
    let flow ← (Flow.mk bridge held.state).sign account signer now
    return { held with state := flow.state }
  | .broadcast => do
    let (flow, handle) ← (Flow.mk bridge held.state).broadcast held.handle
    return ⟨flow.state, handle⟩
  | .reconcile synced =>
    return { held with state := ((Flow.mk bridge held.state).reconcile synced).state }

section Agree

variable {ε α : Type} {bridge : Bridge (StateM σ)} {held : Held} {s : σ}

theorem outcome_readState :
    outcome (readState : ExceptT ε (StateM (Held × σ)) FlowState) (held, s) =
      (.ok held.state, (held, s)) := rfl

theorem outcome_ask (x : ExceptT ε (StateM σ) α) :
    outcome (ask x) (held, s) = ((outcome x s).1, (held, (outcome x s).2)) := rfl

theorem outcome_recordPending (op : Operation) :
    outcome (recordPending op) (held, s) =
      match held.handle.record op with
      | .ok handle => (.ok (), ({ held with handle }, s))
      | .error error => (.error error, (held, s)) := by
  unfold recordPending Handle.record Account.withPending?
  by_cases empty : op.hash = ""
  · simp [empty]
  · simp only [empty, if_false]
    rfl

/-- Nothing has been written by the time of an answer, so a failure of it leaves all as it was. -/
theorem outcome_ask_bind {x : ExceptT FlowError (StateM σ) α}
    {f : α → ExceptT FlowError (StateM (Held × σ)) Unit} {g : α → ExceptT FlowError (StateM σ) Held}
    (agree : ∀ a t, outcome (f a) (held, t) = written held (outcome (g a) t)) :
    outcome (ask x >>= f) (held, s) = written held (outcome (x >>= g) s) := by
  rw [outcome_bind, outcome_bind, outcome_ask]
  cases outcome x s with
  | mk result t =>
      cases result with
      | error error => rfl
      | ok a => exact agree a t

/-- A call in place is the step of the flow, written down once it has succeeded. -/
theorem outcome_run (bridge : Bridge (StateM σ)) (held : Held) (s : σ) (call : FlowCall σ) :
    outcome (call.run bridge) (held, s) = written held (outcome (call.next bridge held) s) := by
  obtain ⟨state, handle⟩ := held
  cases call with
  | update patch =>
      rw [run, outcome_bind, outcome_readState]
      simp only [next, Flow.update, Flow.misplaced]
      cases state.transaction? <;> rfl
  | prepare account =>
      rw [run, outcome_bind, outcome_readState]
      cases state with
      | draft tx | prepared tx =>
          simp only [next, Flow.prepare, bind_assoc]
          exact outcome_ask_bind fun prepared t => rfl
      | signed | broadcast | confirmed | failed => rfl
  | sign account signer now =>
      rw [run, outcome_bind, outcome_readState]
      cases state with
      | prepared tx =>
          simp only [next, Flow.sign]
          cases tx.build bridge.family account now with
          | error cause => rfl
          | ok parts =>
              simp only [bind_assoc]
              exact outcome_ask_bind fun signature t => rfl
      | draft | signed | broadcast | confirmed | failed => rfl
  | broadcast =>
      rw [run, outcome_bind, outcome_readState]
      cases state with
      | signed signed =>
          simp only [next, Flow.broadcast, bind_assoc]
          refine outcome_ask_bind fun operation t => ?_
          rw [outcome_bind, outcome_adapt, outcome_recordPending]
          cases handle.record operation <;> rfl
      | draft | prepared | broadcast | confirmed | failed => rfl
  | reconcile synced => rfl

theorem run_error {bridge : Bridge (StateM σ)} {call : FlowCall σ} {error : FlowError}
    {after : Held × σ} (failed : outcome (call.run bridge) (held, s) = (.error error, after)) :
    after.1 = held := by
  rw [outcome_run] at failed
  exact eq_of_written_error failed

theorem run_ok {bridge : Bridge (StateM σ)} {call : FlowCall σ} {after : Held × σ}
    (done : outcome (call.run bridge) (held, s) = (.ok (), after)) :
    outcome (call.next bridge held) s = (.ok after.1, after.2) := by
  rw [outcome_run] at done
  exact eq_of_written_ok done

end Agree

section Moves

/-- What a call may change that succeeds. -/
inductive Moves : FlowCall σ → Held → Held → Prop
  | update {held : Held} {tx : Transaction} (patch : Patch) :
      held.state.transaction? = some tx →
      Moves (.update patch) held { held with state := .draft (tx.update patch) }
  | prepare {held : Held} {tx : Transaction} (account : Account) (prepared : Transaction) :
      held.state = .draft tx ∨ held.state = .prepared tx →
      Moves (.prepare account) held { held with state := .prepared prepared }
  | sign {held : Held} {tx : Transaction} (account : Account) (signer : Signer σ) (now : Moment)
      (signed : SignedOperation) :
      held.state = .prepared tx →
      Moves (.sign account signer now) held { held with state := .signed signed }
  | broadcast {held : Held} {signed : SignedOperation} {op : Operation} {state : FlowState} :
      held.state = .signed signed → op.hash ≠ "" →
      state = .broadcast op ∨ state = .confirmed op ∨ state = .failed op →
      Moves .broadcast held ⟨state, ⟨{ held.handle.current with
        pending := op :: held.handle.current.pending.filter (·.id ≠ op.id) },
        held.handle.revision + 1⟩⟩
  | settle {held : Held} {op found : Operation} {state : FlowState} (synced : Account) :
      held.state = .broadcast op → found.id = op.id →
      state = .confirmed found ∨ state = .failed found →
      Moves (.reconcile synced) held { held with state := state }
  | wait (held : Held) (synced : Account) : Moves (.reconcile synced) held held

variable {bridge : Bridge (StateM σ)} {call : FlowCall σ} {held after : Held} {s t : σ}

theorem moves_reconcile (held : Held) (synced : Account) :
    (FlowCall.reconcile synced : FlowCall σ).Moves held
      { held with state := held.state.reconcile synced } := by
  rcases FlowState.reconcile_cases held.state synced with same | ⟨op, found, state, alike, result⟩
  · rw [same]
    exact .wait held synced
  · exact .settle synced state alike result

theorem moves_of_next (done : outcome (call.next bridge held) s = (.ok after, t)) :
    call.Moves held after := by
  cases call with
  | update patch =>
      simp only [next, Flow.update, Flow.misplaced] at done
      cases drafted : held.state.transaction? with
      | none => simp [drafted] at done
      | some tx =>
          simp only [drafted, outcome_pure, Prod.mk.injEq, Except.ok.injEq] at done
          obtain ⟨rfl, -⟩ := done
          exact .update patch drafted
  | prepare account =>
      obtain ⟨flow, left, made, kept⟩ := outcome_bind_ok.mp done
      cases kept
      obtain ⟨tx, prepared, state, -, rfl⟩ := Flow.prepare_ok_iff.mp made
      exact .prepare account prepared state
  | sign account signer now =>
      obtain ⟨flow, left, signed, kept⟩ := outcome_bind_ok.mp done
      cases kept
      obtain ⟨tx, signature, state, -, -, rfl⟩ := Flow.sign_ok_iff.mp signed
      exact .sign account signer now _ state
  | broadcast =>
      obtain ⟨⟨flow, handle⟩, left, sent, kept⟩ := outcome_bind_ok.mp done
      cases kept
      obtain ⟨signed, op, state, -, recorded, rfl⟩ := Flow.broadcast_ok_iff.mp sent
      obtain ⟨given, rfl⟩ := Handle.record_ok_iff.mp recorded
      exact .broadcast state given (FlowState.ofOperation_cases op)
  | reconcile synced =>
      cases done
      exact moves_reconcile held synced

end Moves

section Misplaced

def name : FlowCall σ → String
  | .update _ => "update"
  | .prepare _ => "prepare"
  | .sign .. => "sign"
  | .broadcast => "broadcast"
  | .reconcile _ => "reconcile"

def Fits : FlowCall σ → FlowState → Prop
  | .update _, state => state.transaction?.isSome = true
  | .prepare _, state => ∃ tx, state = .draft tx ∨ state = .prepared tx
  | .sign .., state => ∃ tx, state = .prepared tx
  | .broadcast, state => ∃ signed, state = .signed signed
  | .reconcile _, _ => True

/-- A call out of place asks nobody. -/
theorem run_of_not_fits {bridge : Bridge (StateM σ)} {call : FlowCall σ} {held : Held} {s : σ}
    (misplaced : ¬call.Fits held.state) :
    outcome (call.run bridge) (held, s) =
      (.error (.invalidState call.name held.state.name), (held, s)) := by
  obtain ⟨state, handle⟩ := held
  cases call with
  | update patch =>
      cases state with
      | draft | prepared | signed => exact absurd rfl misplaced
      | broadcast | confirmed | failed => rfl
  | prepare account =>
      cases state with
      | draft tx => exact absurd ⟨tx, .inl rfl⟩ misplaced
      | prepared tx => exact absurd ⟨tx, .inr rfl⟩ misplaced
      | signed | broadcast | confirmed | failed => rfl
  | sign account signer now =>
      cases state with
      | prepared tx => exact absurd ⟨tx, rfl⟩ misplaced
      | draft | signed | broadcast | confirmed | failed => rfl
  | broadcast =>
      cases state with
      | signed signed => exact absurd ⟨signed, rfl⟩ misplaced
      | draft | prepared | broadcast | confirmed | failed => rfl
  | reconcile synced => exact absurd trivial misplaced

end Misplaced

/-- A chain that takes the payment and gives no hash for it. -/
theorem run_broadcast_of_no_hash {bridge : Bridge (StateM σ)} {held : Held}
    {signed : SignedOperation} {s t : σ} (state : held.state = .signed signed)
    (same : signed.family = bridge.family) (verified : signed.verify = true)
    (taken : outcome (bridge.api.submit signed) s = (.ok "", t)) :
    outcome (FlowCall.broadcast.run bridge) (held, s) =
      (.error (.broadcast .missingHash), (held, t)) := by
  have refused : outcome (bridge.broadcast signed) s = (.error .missingHash, t) := by
    rw [Bridge.broadcast]
    simp only [same, ne_eq, not_true_eq_false, if_false, verified, Bool.not_true,
      Bool.false_eq_true, outcome_bind, outcome_adapt, taken]
    rfl
  rw [outcome_run, next, Flow.broadcast, state]
  simp only [outcome_bind, outcome_adapt, refused]
  rfl

end FlowCall

namespace Held

/-- A call, or anything else that happens to the handle and to the world. -/
inductive Step (bridge : Bridge (StateM σ)) : Held × σ → Held × σ → Prop
  | call (w : Held × σ) (call : FlowCall σ) : Step bridge w (outcome (call.run bridge) w).2
  | elapse (state : FlowState) (handle other : Handle) (s t : σ) :
      Step bridge (⟨state, handle⟩, s) (⟨state, other⟩, t)

/-- The flow moves as some call moves it, wherever the handle is. -/
def Leads (σ : Type) (before after : FlowState) : Prop :=
  ∃ (call : FlowCall σ) (handle other : Handle), call.Moves ⟨before, handle⟩ ⟨after, other⟩

variable {bridge : Bridge (StateM σ)} {w next : Held × σ}

theorem leads_of_step (step : Step bridge w next) :
    next.1.state = w.1.state ∨ Leads σ w.1.state next.1.state := by
  cases step with
  | elapse => exact .inl rfl
  | call _ call =>
      obtain ⟨held, s⟩ := w
      cases done : outcome (call.run bridge) (held, s) with
      | mk result after =>
          cases result with
          | error error => exact .inl (congrArg Held.state (FlowCall.run_error done))
          | ok => exact .inr ⟨call, _, _, FlowCall.moves_of_next (FlowCall.run_ok done)⟩

theorem leads_of_run (run : Relation.ReflTransGen (Step bridge) w next) :
    Relation.ReflTransGen (Leads σ) w.1.state next.1.state := by
  induction run with
  | refl => exact .refl
  | tail _ step ih =>
      rcases leads_of_step step with same | leads
      · rwa [same]
      · exact ih.tail leads

theorem eq_of_leads_of_isTerminal {before after : FlowState} (final : before.isTerminal = true)
    (leads : Leads σ before after) : after = before := by
  obtain ⟨call, handle, other, moves⟩ := leads
  have stays {state : FlowState} (same : before = state) : state.isTerminal = true := same ▸ final
  cases moves with
  | update patch drafted =>
      cases before with
      | confirmed | failed => cases drafted
      | draft | prepared | signed | broadcast => cases final
  | prepare account prepared state =>
      rcases state with state | state
      · cases stays state
      · cases stays state
  | sign account signer now signed state => cases stays state
  | broadcast state => cases stays state
  | settle synced state => cases stays state
  | wait => rfl

theorem eq_of_run_of_isTerminal (run : Relation.ReflTransGen (Step bridge) w next)
    (final : w.1.state.isTerminal = true) : next.1.state = w.1.state := by
  induction run with
  | refl => rfl
  | tail _ step ih =>
      rcases leads_of_step step with same | leads
      · exact same.trans ih
      · exact (eq_of_leads_of_isTerminal (ih ▸ final) leads).trans ih

/-- Whatever chain and signer do, a call either writes what the step of the flow returns, and moves
the flow as it may, or leaves flow and handle as they were; out of place, or without a hash from the
chain, it is such an error. Over a run the flow moves as calls move it, and not at all once it has
been confirmed or has failed. -/
theorem calls_are_atomic (bridge : Bridge (StateM σ)) :
    (∀ (call : FlowCall σ) held s,
      outcome (call.run bridge) (held, s) = written held (outcome (call.next bridge held) s)) ∧
    (∀ (call : FlowCall σ) held s error after,
      outcome (call.run bridge) (held, s) = (.error error, after) → after.1 = held) ∧
    (∀ (call : FlowCall σ) held s after,
      outcome (call.run bridge) (held, s) = (.ok (), after) → call.Moves held after.1) ∧
    (∀ (call : FlowCall σ) held s, ¬call.Fits held.state →
      outcome (call.run bridge) (held, s) =
        (.error (.invalidState call.name held.state.name), (held, s))) ∧
    (∀ held signed s t, held.state = .signed signed → signed.family = bridge.family →
      signed.verify = true → outcome (bridge.api.submit signed) s = (.ok "", t) →
      outcome (FlowCall.broadcast.run bridge) (held, s) =
        (.error (.broadcast .missingHash), (held, t))) ∧
    ∀ w next, Relation.ReflTransGen (Step bridge) w next →
      Relation.ReflTransGen (Leads σ) w.1.state next.1.state ∧
        (w.1.state.isTerminal = true → next.1.state = w.1.state) := by
  refine ⟨?_, ?_, ?_, ?_, ?_, ?_⟩
  · intro call held s
    exact FlowCall.outcome_run bridge held s call
  · intro call held s error after failed
    exact FlowCall.run_error failed
  · intro call held s after done
    exact FlowCall.moves_of_next (FlowCall.run_ok done)
  · intro call held s misplaced
    exact FlowCall.run_of_not_fits misplaced
  · intro held signed s t state same verified taken
    exact FlowCall.run_broadcast_of_no_hash state same verified taken
  · intro w next run
    exact ⟨leads_of_run run, eq_of_run_of_isTerminal run⟩

/-- A chain that takes everything, counts it, and gives no hash for it. -/
def muteBridge : Bridge (StateM Nat) where
  family := .elrond
  limits := ⟨1, 1⟩
  api :=
    { balance := fun _ => pure 0, sequence := fun _ => pure 0, blockHeight := pure 0
      networkConfig := pure ⟨"1", 1, 1, 18⟩, history := fun _ _ => pure []
      submit := fun _ => ExceptT.mk fun taken => (.ok "", taken + 1)
      confirmation := fun _ => pure none }

def sampleHeld : Held := ⟨.signed (sampleSigned sampleStart.current), sampleStart⟩

/-- The same payment on the mute chain, and on one that puts it into a block at once. -/
theorem calls_of_sample :
    outcome (FlowCall.broadcast.run muteBridge) (sampleHeld, 0) =
        (.error (.broadcast .missingHash), (sampleHeld, 1)) ∧
      ∃ after chain,
        outcome (FlowCall.broadcast.run (MemoryChain.bridge .elrond ⟨1, 1⟩))
          (sampleHeld, { confirmsInline := true }) = (.ok (), (after, chain)) ∧
        (FlowCall.broadcast : FlowCall MemoryChain).Moves sampleHeld after ∧
        ∀ next, Relation.ReflTransGen (Step (MemoryChain.bridge .elrond ⟨1, 1⟩))
          (after, chain) next → next.1.state = after.state := by
  have verified : (sampleSigned sampleStart.current).verify = true :=
    SignedOperation.verify_bind (by decide)
  obtain ⟨-, -, -, -, mute, -⟩ := calls_are_atomic muteBridge
  obtain ⟨agrees, -, moves, -, -, runs⟩ :=
    calls_are_atomic (MemoryChain.bridge .elrond ⟨1, 1⟩)
  refine ⟨mute _ _ _ _ rfl rfl verified rfl, ?_⟩
  have calm : ({ confirmsInline := true } : MemoryChain).failures = [] := rfl
  have sent := Session.outcome_broadcast_sample sampleStart.current sampleStart calm rfl
  have stepped : outcome (FlowCall.broadcast.next (MemoryChain.bridge .elrond ⟨1, 1⟩) sampleHeld)
      { confirmsInline := true } = (.ok _, _) := outcome_bind_ok.mpr ⟨_, _, sent, rfl⟩
  have done : outcome (FlowCall.broadcast.run (MemoryChain.bridge .elrond ⟨1, 1⟩))
      (sampleHeld, { confirmsInline := true }) = (.ok (), (_, _)) :=
    (agrees _ _ _).trans (congrArg sampleHeld.written stepped)
  refine ⟨_, _, done, moves _ _ _ _ done, ?_⟩
  intro next run
  exact (runs _ next run).2 (by decide +kernel)

end Held

end WalletSync
