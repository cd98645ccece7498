import Mathlib.Order.Defs.Unbundled
import WalletSync.Proofs.Sync.Consistent

/-!
Everything that a handle has ever held. A journal keeps every form of the account; recording an
operation adds one, and a sync adds one at its end. While a sync asks its chain, the chain may
answer anything, and operations may be recorded at any of its calls. What comes between two calls
may as well be counted to one of them, since a sync does nothing in between but wait.

That two syncs of one account do not overlap is part of the steps: a coordinator holds a lock for
as long as a sync takes.
-/

namespace WalletSync

/-- The forms of an account that a handle has held, the latest one apart. -/
structure Journal where
  current : Handle
  earlier : List Handle := []

namespace Journal

/-- All forms, the latest first. -/
def held (journal : Journal) : List Handle := journal.current :: journal.earlier

def put (journal : Journal) (handle : Handle) : Journal := ⟨handle, journal.held⟩

def record (journal : Journal) (op : Operation) : Journal :=
  match journal.current.record op with
  | .ok handle => journal.put handle
  | .error _ => journal

def recordAll (journal : Journal) (ops : List Operation) : Journal := ops.foldl record journal

theorem recordAll_append (journal : Journal) (ops others : List Operation) :
    journal.recordAll (ops ++ others) = (journal.recordAll ops).recordAll others :=
  List.foldl_append

theorem current_record (journal : Journal) (op : Operation) :
    (journal.record op).current =
      match journal.current.record op with
      | .ok handle => handle
      | .error _ => journal.current := by
  rw [record]
  cases journal.current.record op <;> rfl

theorem current_recordAll (journal : Journal) (ops : List Operation) :
    (journal.recordAll ops).current = journal.current.recordAll ops := by
  induction ops generalizing journal with
  | nil => rfl
  | cons op rest ih =>
      rw [recordAll, List.foldl_cons, ← recordAll, ih, current_record]
      rfl

/-- Nothing but operations was recorded. -/
def Recorded (before after : Journal) : Prop := ∃ ops, after = before.recordAll ops

instance : IsPreorder Journal Recorded where
  refl _ := ⟨[], rfl⟩
  trans := by
    rintro a _ _ ⟨ops, rfl⟩ ⟨others, rfl⟩
    exact ⟨ops ++ others, (a.recordAll_append ops others).symm⟩

end Journal

/-- The latest form can be read, and new ones are added to those before. -/
def Slot.journal {ω : Type} : Slot (StateM (Journal × ω)) where
  load := do return (← get).1.current
  store handle := modify fun (journal, world) => (journal.put handle, world)

section Keeps

variable {ω ε ε' α β : Type} {Change : Journal → Journal → Prop}

/-- Whatever else the computation does, all that happens to the journal is a `Change`. -/
def Keeps (Change : Journal → Journal → Prop) (x : ExceptT ε (StateM (Journal × ω)) α) : Prop :=
  ∀ s, Change s.1 (outcome x s).2.1

theorem Keeps.adapt {x : ExceptT ε (StateM (Journal × ω)) α} (h : Keeps Change x) (f : ε → ε') :
    Keeps Change (x.adapt f) := h

structure ChainApi.Keeps (Change : Journal → Journal → Prop)
    (api : ChainApi (StateM (Journal × ω))) : Prop where
  balance : ∀ address, WalletSync.Keeps Change (api.balance address)
  sequence : ∀ address, WalletSync.Keeps Change (api.sequence address)
  blockHeight : WalletSync.Keeps Change api.blockHeight
  history : ∀ address since, WalletSync.Keeps Change (api.history address since)

variable [IsPreorder Journal Change]

theorem keeps_pure (a : α) : Keeps Change (pure a : ExceptT ε (StateM (Journal × ω)) α) :=
  fun s => refl s.1

theorem keeps_throw (e : ε) : Keeps Change (throw e : ExceptT ε (StateM (Journal × ω)) α) :=
  fun s => refl s.1

theorem Keeps.bind {x : ExceptT ε (StateM (Journal × ω)) α} (h : Keeps Change x)
    {f : α → ExceptT ε (StateM (Journal × ω)) β} (next : ∀ a, Keeps Change (f a)) :
    Keeps Change (x >>= f) := by
  intro s
  have first := h s
  rw [outcome_bind]
  cases run : outcome x s with
  | mk result left =>
      rw [run] at first
      cases result with
      -- the second part only runs when the first one has succeeded
      | error e => exact first
      | ok a => exact trans_of Change first (next a left)

theorem ChainApi.Keeps.fetch {api : ChainApi (StateM (Journal × ω))} (h : api.Keeps Change)
    (address : String) (since : Option Moment) :
    WalletSync.Keeps Change (ChainReport.fetch api address since) := by
  apply ((h.balance address).adapt _).bind
  intro balance
  apply ((h.sequence address).adapt _).bind
  intro sequence
  apply (h.blockHeight.adapt _).bind
  intro blockHeight
  apply ((h.history address since).adapt _).bind
  intro entries
  exact keeps_pure _

theorem ChainApi.Keeps.sync {bridge : Bridge (StateM (Journal × ω))} (h : bridge.api.Keeps Change)
    (account : Account) (now : Moment) : WalletSync.Keeps Change (bridge.sync account now) := by
  unfold Bridge.sync
  by_cases same : account.family = bridge.family
  · simp only [same, ne_eq, not_true_eq_false, if_false]
    apply (h.fetch _ _).bind
    intro report
    exact keeps_pure _
  · simp only [same, ne_eq, not_false_eq_true, if_true]
    exact keeps_throw _

end Keeps

/-- The answers of a chain, and what is recorded on the handle whenever it is called. -/
def ChainApi.beside {ω : Type} (api : ChainApi (StateM ω))
    (meanwhile : ChainCall → List Operation) : ChainApi (StateM (Journal × ω)) :=
  api.lift
    (fun x => do
      let (journal, world) ← get
      let (answer, world) := x.run world
      set (journal, world)
      return answer)
    fun call => modify fun (journal, world) => (journal.recordAll (meanwhile call), world)

theorem ChainApi.keeps_beside {ω : Type} {api : ChainApi (StateM ω)}
    {meanwhile : ChainCall → List Operation} {Change : Journal → Journal → Prop}
    (keeps : ∀ call (journal : Journal), Change journal (journal.recordAll (meanwhile call))) :
    (api.beside meanwhile).Keeps Change where
  balance _ s := keeps .balance s.1
  sequence _ s := keeps .sequence s.1
  blockHeight s := keeps .blockHeight s.1
  history _ _ s := keeps .history s.1

namespace Registry

variable {ω : Type} {registry : Registry (StateM (Journal × ω))}
  {bridge : Bridge (StateM (Journal × ω))} {journal : Journal} {now : Moment} {world : ω}

def Keeps (Change : Journal → Journal → Prop) (registry : Registry (StateM (Journal × ω))) : Prop :=
  ∀ family bridge, registry.get? family = some bridge → bridge.api.Keeps Change

/-- All that a sync can do: it fails and adds nothing to what happened meanwhile, or it adds its
result, which is a refresh of what it began with. -/
theorem sync_cases {Change : Journal → Journal → Prop} [IsPreorder Journal Change]
    (keeps : registry.Keeps Change) {result : Except SyncError Account} {after : Journal} {next : ω}
    (run : outcome (registry.sync Slot.journal now) (journal, world) = (result, (after, next))) :
    ∃ latest, Change journal latest ∧
      ((∃ error, result = .error error ∧ after = latest) ∨
        ∃ report published, result = .ok published.current ∧ after = latest.put published ∧
          published = latest.current.publish journal.current
            (journal.current.current.refresh report now)) := by
  rw [outcome_sync_slot (fun _ => rfl) (fun _ _ => rfl)] at run
  cases registered : registry.get? journal.current.current.family with
  | none =>
      simp only [registered] at run
      cases run
      exact ⟨journal, refl journal, .inl ⟨_, rfl, rfl⟩⟩
  | some bridge =>
      -- the journal moves on while the bridge is asked; base and result are from before and after
      have kept := (keeps _ bridge registered).sync journal.current.current now (journal, world)
      simp only [registered] at run
      cases asked : outcome (bridge.sync journal.current.current now) (journal, world) with
      | mk answer left =>
          obtain ⟨latest, left⟩ := left
          rw [asked] at run kept
          refine ⟨latest, kept, ?_⟩
          cases answer with
          | error error =>
              cases run
              exact .inl ⟨error, rfl, rfl⟩
          | ok synced =>
              obtain ⟨-, report, -, rfl⟩ := Bridge.sync_ok_iff.mp asked
              cases run
              exact .inr ⟨report, _, rfl, rfl, rfl⟩

end Registry

end WalletSync
