import Mathlib.Control.Monad.Basic
import WalletSync.Network.Client
import WalletSync.Proofs.Network.Backoff
import WalletSync.Proofs.Rounds
import WalletSync.Proofs.Sync.Outcome

/-!
How often a request is sent. The attempts are numbered from one, and each is made in the state that
those before it and the pauses after them have left, so what comes of an attempt may depend on all
of them. A request that changes something is sent once; any other one until an attempt succeeds or
fails for good, or the attempts are used up.

A pause has no length when its random part takes it beyond the range. The call ends there, with
neither a result nor an error of the server. This cannot happen as long as what is due leaves room
for a tenth of it.
-/

namespace WalletSync

section Attempts

variable {σ α : Type} (send : StateM σ (Except NetworkError α))
  (pause : Nat → StateM σ (Except NetworkError Unit)) (s : σ)

/-- What so many attempts leave behind that are followed by a pause each. -/
def afterAttempts : Nat → σ
  | 0 => s
  | failed + 1 => ((pause (failed + 1)).run (send.run (afterAttempts failed)).2).2

/-- What comes of the attempt of a number, and what it leaves behind. -/
def attempt (number : Nat) : Except NetworkError α × σ :=
  send.run (afterAttempts send pause s (number - 1))

def pauseAfter (number : Nat) : Except NetworkError Unit × σ :=
  (pause number).run (attempt send pause s number).2

/-- Another attempt would not help. -/
def IsFinal : Except NetworkError α → Prop
  | .ok _ => True
  | .error (.clientError ..) | .error (.invalidResponse ..) | .error (.invalidRequest ..)
  | .error .overflow => True
  | .error (.down ..) | .error (.serverError ..) => False

instance (result : Except NetworkError α) : Decidable (IsFinal result) :=
  match result with
  | .ok _ => isTrue trivial
  | .error (.clientError ..) | .error (.invalidResponse ..) | .error (.invalidRequest ..)
  | .error .overflow => isTrue trivial
  | .error (.down ..) | .error (.serverError ..) => isFalse id

theorem isFinal_error_iff {e : NetworkError} :
    IsFinal (.error e : Except NetworkError α) ↔ e.isTransient = false := by
  cases e <;> simp [IsFinal, NetworkError.isTransient]

variable {send pause} {method : Method} {t : σ}

theorem run_retry_of_final (final : IsFinal (send.run t).1) (more failed : Nat) :
    (retry method send pause more failed).run t = send.run t := by
  cases more with
  | zero => rfl
  | succ more =>
      rw [retry, StateT.run_bind]
      rcases sent : send.run t with ⟨e | a, next⟩
      · rw [sent, isFinal_error_iff] at final
        have enough : ¬isRetryable method e = true := by simp [isRetryable, final]
        change StateT.run (if isRetryable method e then _ else _) next = _
        rw [if_neg enough]
        rfl
      · rfl

variable {failed : Nat}

/-- After a failure that may go away there is a pause, and what this comes to decides. -/
theorem run_retry_of_not_final (idempotent : method.isIdempotent = true)
    (transient : ¬IsFinal (attempt send pause s (failed + 1)).1) (more : Nat) :
    (retry method send pause (more + 1) failed).run (afterAttempts send pause s failed) =
      match pauseAfter send pause s (failed + 1) with
      | (.ok (), next) => (retry method send pause more (failed + 1)).run next
      | (.error e, next) => (.error e, next) := by
  unfold pauseAfter
  unfold attempt at transient ⊢
  rw [Nat.add_sub_cancel] at transient ⊢
  rw [retry, StateT.run_bind]
  rcases sent : send.run (afterAttempts send pause s failed) with ⟨e | a, next⟩
  · rw [sent, isFinal_error_iff, Bool.not_eq_false] at transient
    have again : isRetryable method e = true := by rw [isRetryable, idempotent, transient]; rfl
    change StateT.run (if isRetryable method e then _ else _) next = _
    rw [if_pos again, StateT.run_bind]
    rcases (pause (failed + 1)).run next with ⟨_ | _, _⟩ <;> rfl
  · rw [sent] at transient
    exact absurd trivial transient

theorem run_retry_of_paused (idempotent : method.isIdempotent = true)
    (transient : ¬IsFinal (attempt send pause s (failed + 1)).1) (more : Nat)
    (paused : (pauseAfter send pause s (failed + 1)).1 = .ok ()) :
    (retry method send pause (more + 1) failed).run (afterAttempts send pause s failed) =
      (retry method send pause more (failed + 1)).run
        (afterAttempts send pause s (failed + 1)) := by
  have left : pauseAfter send pause s (failed + 1) =
      (.ok (), afterAttempts send pause s (failed + 1)) := Prod.ext paused rfl
  rw [run_retry_of_not_final s idempotent transient, left]

theorem run_retry_of_stopped (idempotent : method.isIdempotent = true)
    (transient : ¬IsFinal (attempt send pause s (failed + 1)).1) (more : Nat) {e : NetworkError}
    (stopped : (pauseAfter send pause s (failed + 1)).1 = .error e) :
    (retry method send pause (more + 1) failed).run (afterAttempts send pause s failed) =
      (.error e, (pauseAfter send pause s (failed + 1)).2) := by
  have left : pauseAfter send pause s (failed + 1) =
      (.error e, (pauseAfter send pause s (failed + 1)).2) := Prod.ext stopped rfl
  rw [run_retry_of_not_final s idempotent transient, left]

variable (send pause) in
/-- After some failures the attempts go on until one is final or the last one has been made, unless
a pause fails before that. -/
theorem run_retry (idempotent : method.isIdempotent = true) (more failed : Nat) :
    ∃ k, IsLeast (Rounds.ends (fun k => IsFinal (attempt send pause s k).1)
        (failed + 1 + more) (failed + 1)) k ∧
      ((∀ i, failed < i → i < k → (pauseAfter send pause s i).1 = .ok ()) →
        (retry method send pause more failed).run (afterAttempts send pause s failed) =
          attempt send pause s k) ∧
      ∀ j e, failed < j → j < k → (pauseAfter send pause s j).1 = .error e →
        (∀ i, failed < i → i < j → (pauseAfter send pause s i).1 = .ok ()) →
        (retry method send pause more failed).run (afterAttempts send pause s failed) =
          (.error e, (pauseAfter send pause s j).2) := by
  induction more generalizing failed with
  | zero => exact ⟨failed + 1, Rounds.isLeast_start (.inl rfl), fun _ => rfl, fun j => by omega⟩
  | succ more ih =>
      by_cases final : IsFinal (attempt send pause s (failed + 1)).1
      · exact ⟨failed + 1, Rounds.isLeast_start (.inr final),
          fun _ => run_retry_of_final final _ _, fun j => by omega⟩
      · -- The state of the induction is the one that the failures so far and their pauses leave.
        obtain ⟨k, least, result, stopped⟩ := ih (failed + 1)
        rw [Nat.add_right_comm (failed + 1) 1 more] at least
        have later : failed + 1 < k := least.1.1
        refine ⟨k, Rounds.isLeast_of_succ (by omega) final least, fun all => ?_, ?_⟩
        · rw [run_retry_of_paused s idempotent final more (all _ (Nat.lt_succ_self failed) later)]
          exact result fun i after before => all i (Nat.lt_of_succ_lt after) before
        · intro j e after before failure all
          rcases Nat.lt_or_eq_of_le after with beyond | rfl
          · rw [run_retry_of_paused s idempotent final more
              (all _ (Nat.lt_succ_self failed) beyond)]
            exact stopped j e beyond before failure
              fun i after before => all i (Nat.lt_of_succ_lt after) before
          · exact run_retry_of_stopped s idempotent final more failure

end Attempts

namespace Method

theorem isIdempotent_iff {method : Method} :
    method.isIdempotent = true ↔ method ∈ [get, head, options] := by
  cases method <;> simp [isIdempotent]

end Method

namespace HttpClient

variable {σ : Type} (client : HttpClient (StateM σ)) (request : HttpRequest) (s : σ)

/-- What comes of the attempt of a number to have a request answered. -/
def attempt (number : Nat) : Except NetworkError String × σ :=
  WalletSync.attempt (client.send request) client.pause s number

/-- The random part of the delay after an attempt, and what drawing it leaves behind. -/
def drawAfter (number : Nat) : Fin (client.backoff.spread number - 1 + 1) × σ :=
  (client.draw (client.backoff.spread number - 1)).run (client.attempt request s number).2

/-- The delay after an attempt, unless it is out of range. -/
def delayAfter (number : Nat) : Option Count :=
  client.backoff.delay? number (client.drawAfter request s number).1

theorem pauseAfter_eq (number : Nat) :
    pauseAfter (client.send request) client.pause s number =
      match client.delayAfter request s number with
      | some delay => (.ok (), ((client.sleep delay).run (client.drawAfter request s number).2).2)
      | none => (.error .overflow, (client.drawAfter request s number).2) := by
  have paused : pauseAfter (client.send request) client.pause s number =
      StateT.run (match client.delayAfter request s number with
        | some delay => return .ok (← client.sleep delay)
        | none => return .error .overflow) (client.drawAfter request s number).2 := rfl
  rw [paused]
  cases client.delayAfter request s number <;> rfl

/-- Any number may be drawn when what is due and a tenth of it are in range together. -/
theorem isSome_delayAfter {number : Nat} (given : 1 ≤ number)
    (room : client.backoff.due number + client.backoff.due number / 10 ≤ 2 ^ 64) :
    (client.delayAfter request s number).isSome := by
  have drawn := (client.drawAfter request s number).1.isLt
  have positive : 0 < client.backoff.spread number := Nat.lt_of_lt_of_le Nat.one_pos
    (Nat.le_max_left _ _)
  obtain ⟨delay, sum, -⟩ := (Backoff.all_drawn_iff given).mpr room
    (client.drawAfter request s number).1 (by omega)
  rw [delayAfter, sum]
  rfl

/-- A call ends with the result of some attempt, and leaves what this one leaves: it has made those
before it and makes no others. It ends before that with the first delay that is out of range, of
which there is none as long as what is due leaves room for a tenth of it. -/
theorem execute_ends_with_attempt :
    (request.method ∉ [.get, .head, .options] →
      outcome (client.execute request) s = client.attempt request s 1) ∧
    (request.method ∈ [.get, .head, .options] →
      ∃ k, IsLeast {k | 1 ≤ k ∧ (k = max 1 client.retries.maxAttempts.val ∨
          IsFinal (client.attempt request s k).1)} k ∧
        ((∀ i, 1 ≤ i → i < k → (client.delayAfter request s i).isSome) →
          outcome (client.execute request) s = client.attempt request s k) ∧
        ∀ j, IsLeast {j | 1 ≤ j ∧ j < k ∧ client.delayAfter request s j = none} j →
          outcome (client.execute request) s =
            (.error .overflow, (client.drawAfter request s j).2)) ∧
    ∀ i, 1 ≤ i → client.backoff.due i + client.backoff.due i / 10 ≤ 2 ^ 64 →
      (client.delayAfter request s i).isSome := by
  have execute : outcome (client.execute request) s =
      (retry request.method (client.send request) client.pause
        (maxAttempts request.method client.retries.maxAttempts - 1) 0).run s := rfl
  refine ⟨?_, ?_, fun i given room => client.isSome_delayAfter request s given room⟩
  · intro changing
    rw [← Method.isIdempotent_iff] at changing
    rw [execute, maxAttempts, if_neg changing]
    rfl
  · intro reading
    have idempotent := Method.isIdempotent_iff.mpr reading
    obtain ⟨k, least, result, stopped⟩ := run_retry (client.send request) client.pause s
      idempotent (max 1 client.retries.maxAttempts.val - 1) 0
    rw [show 0 + 1 + (max 1 client.retries.maxAttempts.val - 1) =
      max 1 client.retries.maxAttempts.val by omega] at least
    have went (i : Nat) (inRange : (client.delayAfter request s i).isSome) :
        (pauseAfter (client.send request) client.pause s i).1 = .ok () := by
      obtain ⟨delay, same⟩ := Option.isSome_iff_exists.mp inRange
      rw [pauseAfter_eq, same]
    rw [execute, maxAttempts, if_pos idempotent]
    refine ⟨k, least, fun all => result fun i given before => went i (all i given before), ?_⟩
    rintro j ⟨⟨given, before, missing⟩, first⟩
    have failure := client.pauseAfter_eq request s j
    rw [missing] at failure
    have earlier (i : Nat) (after : 0 < i) (sooner : i < j) :
        (pauseAfter (client.send request) client.pause s i).1 = .ok () := by
      refine went i (Option.isSome_iff_ne_none.mpr fun none => ?_)
      have := first ⟨after, Nat.lt_trans sooner before, none⟩
      omega
    rw [← congrArg Prod.snd failure]
    exact stopped j .overflow given before (congrArg Prod.fst failure) earlier

section Sample

deriving instance DecidableEq for HttpReply

/-- A client that is given the replies of the server one after the other. -/
def scripted (limit : Word 32) : HttpClient (StateM (List HttpReply)) where
  exchange _ _ := fun script => (script.headD .lost, script.tail)
  draw most := pure (Fin.last most)
  sleep _ := pure ()
  network := {}
  retries := { maxAttempts := limit }

/-- The first response is lost, and the server is overloaded before it finds nothing. -/
def sampleScript : List HttpReply :=
  [.lost, .response 503 "", .response 404 "", .response 200 "late"]

def sampleRequest (method : Method) : HttpRequest :=
  { method := method, url := "http://[::1]", body := none }

/-- Reading ends with the third response, whose status is final, and what is handed in does not get
beyond the first. -/
theorem execute_ends_with_attempt_of_flaky :
    Method.get ∈ [Method.get, .head, .options] ∧
    outcome ((scripted 5).execute (sampleRequest .get)) sampleScript =
      (.error (.clientError 404 "API HTTP 404" "http://[::1]"), [.response 200 "late"]) ∧
    Method.post ∉ [Method.get, .head, .options] ∧
    outcome ((scripted 5).execute (sampleRequest .post)) sampleScript =
      (.error (.down "http://[::1]"), sampleScript.tail) := by
  have reading : Method.get ∈ [Method.get, .head, .options] := by decide
  have changing : Method.post ∉ [Method.get, .head, .options] := by decide
  refine ⟨reading, ?_, changing, ?_⟩
  · obtain ⟨-, read, room⟩ :=
      execute_ends_with_attempt (scripted 5) (sampleRequest .get) sampleScript
    obtain ⟨k, least, result, -⟩ := read reading
    have unfinished : ∀ j ∈ [1, 2], ¬(j = max 1 5 ∨
        IsFinal ((scripted 5).attempt (sampleRequest .get) sampleScript j).1) := by
      decide +kernel
    have final : IsFinal ((scripted 5).attempt (sampleRequest .get) sampleScript 3).1 := by
      decide +kernel
    have within : k ≤ 3 := least.2 ⟨by decide, .inr final⟩
    have first : 1 ≤ k := least.1.1
    -- The theorem names no number, but the first two attempts are not ones to end with.
    have third : k = 3 := by
      by_contra earlier
      have among : k ∈ [1, 2] := by
        simp only [List.mem_cons, List.not_mem_nil, or_false]
        omega
      exact unfinished k among least.1.2
    subst third
    have short (i : Nat) : (scripted 5).backoff.due i ≤ 4000 := Backoff.due_le_limit
    rw [result fun i given _ => room i given (by have := short i; omega)]
    decide +kernel
  · obtain ⟨once, -⟩ := execute_ends_with_attempt (scripted 5) (sampleRequest .post) sampleScript
    rw [once changing]
    decide +kernel

/-- Nothing comes back, and the delay is as long as it may be and longer than it can be. -/
def tireless : HttpClient (StateM Unit) where
  exchange _ _ := pure .lost
  draw most := pure (Fin.last most)
  sleep _ := pure ()
  network := {}
  retries :=
    { maxAttempts := 2, baseDelay := Backoff.longest.base, maxDelay := Backoff.longest.limit }

/-- The second attempt is never made. -/
theorem long_delay_ends_call :
    ¬∀ (client : HttpClient (StateM Unit)) (request : HttpRequest) (s : Unit),
      request.method ∈ [.get, .head, .options] →
      ∃ k, IsLeast {k | 1 ≤ k ∧ (k = max 1 client.retries.maxAttempts.val ∨
          IsFinal (client.attempt request s k).1)} k ∧
        outcome (client.execute request) s = client.attempt request s k := by
  intro claim
  obtain ⟨k, -, result⟩ := claim tireless (sampleRequest .get) () (by decide)
  have lost : tireless.attempt (sampleRequest .get) () k =
      (.error (.down "http://[::1]"), ()) := rfl
  have stopped : (outcome (tireless.execute (sampleRequest .get)) ()).1 = .error .overflow := by
    decide +kernel
  rw [result, lost] at stopped
  cases stopped

end Sample

end HttpClient

end WalletSync
