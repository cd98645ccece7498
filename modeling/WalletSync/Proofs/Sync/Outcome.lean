import WalletSync.Sync.Refresh

/-!
What computations return that may fail and that change a state, and what a sync returns in
particular. A chain may answer as it likes and its state may be anything: a sync that succeeds is
a refresh by whatever was answered.
-/

namespace WalletSync

variable {σ ε ε' α β : Type}

/-- What a computation returns that starts in a state, and the state that it leaves. -/
def outcome (x : ExceptT ε (StateM σ) α) (s : σ) : Except ε α × σ := x.run.run s

@[simp]
theorem outcome_pure (a : α) (s : σ) :
    outcome (pure a : ExceptT ε (StateM σ) α) s = (.ok a, s) := rfl

@[simp]
theorem outcome_throw (e : ε) (s : σ) :
    outcome (throw e : ExceptT ε (StateM σ) α) s = (.error e, s) := rfl

@[simp]
theorem outcome_adapt (x : ExceptT ε (StateM σ) α) (f : ε → ε') (s : σ) :
    outcome (x.adapt f) s = ((outcome x s).1.mapError f, (outcome x s).2) := rfl

@[simp]
theorem outcome_lift (x : StateM σ α) (s : σ) :
    outcome (liftM x : ExceptT ε (StateM σ) α) s = (.ok (x.run s).1, (x.run s).2) := rfl

/-- A computation whose failure is a value cannot fail. -/
@[simp]
theorem outcome_attempt (x : ExceptT ε (StateM σ) α) (s : σ) :
    outcome (ExceptT.mk (.ok <$> x.run) : ExceptT ε' (StateM σ) (Except ε α)) s =
      (.ok (outcome x s).1, (outcome x s).2) := rfl

theorem outcome_bind (x : ExceptT ε (StateM σ) α) (f : α → ExceptT ε (StateM σ) β) (s : σ) :
    outcome (x >>= f) s =
      match outcome x s with
      | (.ok a, next) => outcome (f a) next
      | (.error e, next) => (.error e, next) := by
  rw [outcome, ExceptT.run_bind, StateT.run_bind]
  change (match outcome x s with
    | (result, next) => StateT.run (match result with
      | .ok a => (f a).run
      | .error e => pure (.error e)) next) = _
  rcases outcome x s with ⟨_ | _, next⟩ <;> rfl

/-- A sequence returns a value exactly when both of its parts do. -/
theorem outcome_bind_ok {x : ExceptT ε (StateM σ) α} {f : α → ExceptT ε (StateM σ) β} {s t : σ}
    {b : β} :
    outcome (x >>= f) s = (.ok b, t) ↔
      ∃ a next, outcome x s = (.ok a, next) ∧ outcome (f a) next = (.ok b, t) := by
  rw [outcome_bind]
  rcases h : outcome x s with ⟨e | a, next⟩
  · simp
  · simp only [Prod.mk.injEq, Except.ok.injEq]
    constructor
    · intro hb
      exact ⟨a, next, ⟨rfl, rfl⟩, hb⟩
    · rintro ⟨a', next', ⟨rfl, rfl⟩, hb⟩
      exact hb

theorem outcome_adapt_ok {x : ExceptT ε (StateM σ) α} {f : ε → ε'} {s t : σ} {a : α} :
    outcome (x.adapt f) s = (.ok a, t) ↔ outcome x s = (.ok a, t) := by
  rw [outcome_adapt]
  rcases outcome x s with ⟨e | b, next⟩
  · change (Except.error (f e), next) = _ ↔ _
    simp
  · change (Except.ok b, next) = _ ↔ _
    simp

/-- What becomes of a result or of an error does not change the state. -/
theorem outcome_adapt_pure_snd (x : ExceptT ε (StateM σ) α) (f : ε → ε') (g : α → β) (s : σ) :
    (outcome (x.adapt f >>= fun a => pure (g a)) s).2 = (outcome x s).2 := by
  rw [outcome_bind, outcome_adapt]
  rcases outcome x s with ⟨_ | _, t⟩ <;> rfl

/-- What is left pending is reconciled with the history after the refresh. -/
theorem Account.pending_refresh (account : Account) (report : ChainReport) (now : Moment) :
    (account.refresh report now).pending =
      Pending.reconcile account.pending
        ((account.refresh report now).operations.filter Operation.isSettled)
        account.address report.sequence := rfl

namespace Bridge

variable {bridge : Bridge (StateM σ)} {account synced : Account} {now : Moment} {s t : σ}

theorem sync_ok_iff :
    outcome (bridge.sync account now) s = (.ok synced, t) ↔
      account.family = bridge.family ∧ ∃ report,
        outcome (ChainReport.fetch bridge.api account.address
          (History.cursor account.operations)) s = (.ok report, t) ∧
        synced = account.refresh report now := by
  unfold Bridge.sync
  by_cases same : account.family = bridge.family
  · simp only [same, ne_eq, not_true_eq_false, if_false, true_and, outcome_bind_ok, outcome_pure,
      Prod.mk.injEq, Except.ok.injEq]
    constructor
    · rintro ⟨report, next, fetched, rfl, rfl⟩
      exact ⟨report, fetched, rfl⟩
    · rintro ⟨report, fetched, rfl⟩
      exact ⟨report, t, fetched, rfl, rfl⟩
  · simp [same]

end Bridge

end WalletSync
