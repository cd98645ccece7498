import Mathlib.Order.Bounds.Basic
import WalletSync.Proofs.Rounds
import WalletSync.Proofs.Sync.Consistent

/-!
Where a scan ends. The outcomes of a wallet are those of looking at one address after the other,
and a scan returns the first few of them: it looks at no address twice and at none beyond the one
that ends it. How far it goes depends on the outcomes alone, so a scan that is satisfied with one
unused address returns the beginning of what a deep one returns.

What it takes to look at one address is left open; a scan that is broken off is treated as far as
it got.
-/

namespace WalletSync

namespace Discovery

/-- An account was found that has never been used. -/
def IsUnused : Outcome → Prop
  | .ok account => account.isEmpty = true
  | .error _ => False

section Outcomes

variable {r : Nat → Outcome} {isDeep : Bool} {gap run k n : Nat}

/-- The last `k` of the first `n` outcomes are unused accounts. -/
def LastUnused (r : Nat → Outcome) (k n : Nat) : Prop :=
  ∃ first, n = first + k ∧ ∀ j < k, IsUnused (r (first + j))

/-- The first `n` outcomes are all that a scan is to find. -/
def Ends (isDeep : Bool) (gap : Nat) (r : Nat → Outcome) (n : Nat) : Prop :=
  (∃ last, n = last + 1 ∧ ((∃ e, r last = .error e) ∨ isDeep = false ∧ IsUnused (r last))) ∨
    isDeep = true ∧ LastUnused r gap n

theorem lastUnused_none (r : Nat → Outcome) (n : Nat) : LastUnused r 0 n :=
  ⟨n, rfl, fun _ before => absurd before (Nat.not_lt_zero _)⟩

theorem lastUnused_succ : LastUnused r (k + 1) (n + 1) ↔ LastUnused r k n ∧ IsUnused (r n) := by
  constructor
  · rintro ⟨first, length, unused⟩
    obtain rfl : n = first + k := by omega
    exact ⟨⟨first, rfl, fun j before => unused j (Nat.lt_succ_of_lt before)⟩,
      unused k (Nat.lt_succ_self k)⟩
  · rintro ⟨⟨first, rfl, unused⟩, last⟩
    refine ⟨first, rfl, ?_⟩
    intro j before
    rcases Nat.lt_succ_iff_lt_or_eq.mp before with earlier | rfl
    · exact unused j earlier
    · exact last

/-- The unused accounts at the end of the first `n` outcomes are `run` in number. -/
def Trailing (r : Nat → Outcome) (n run : Nat) : Prop := ∀ k, LastUnused r k n ↔ k ≤ run

theorem trailing_zero (r : Nat → Outcome) : Trailing r 0 0 := by
  intro k
  constructor
  · rintro ⟨first, length, -⟩
    omega
  · intro least
    obtain rfl := Nat.le_zero.mp least
    exact lastUnused_none r 0

theorem trailing_succ_of_unused (trailing : Trailing r n run) (unused : IsUnused (r n)) :
    Trailing r (n + 1) (run + 1) := by
  intro k
  cases k with
  | zero => exact iff_of_true (lastUnused_none r _) (Nat.zero_le _)
  | succ k => rw [lastUnused_succ, trailing k, and_iff_left unused, Nat.succ_le_succ_iff]

theorem trailing_succ_of_used (used : ¬IsUnused (r n)) : Trailing r (n + 1) 0 := by
  intro k
  cases k with
  | zero => exact iff_of_true (lastUnused_none r _) (Nat.le_refl 0)
  | succ k =>
      exact iff_of_false (fun last => used (lastUnused_succ.mp last).2) (Nat.not_succ_le_zero k)

theorem next?_eq_none_iff {item : Outcome} :
    next? isDeep gap run item = none ↔
      (∃ e, item = .error e) ∨ IsUnused item ∧ (isDeep = true → gap ≤ run + 1) := by
  cases item with
  | error e => simp [next?]
  | ok account =>
      cases empty : account.isEmpty <;> cases isDeep <;> simp [next?, IsUnused, empty]

theorem trailing_of_next? (trailing : Trailing r n run) {next : Nat}
    (counted : next? isDeep gap run (r n) = some next) : Trailing r (n + 1) next := by
  cases outcome : r n with
  | error e =>
      rw [outcome] at counted
      cases counted
  | ok account =>
      rw [outcome, next?] at counted
      cases empty : account.isEmpty with
      | false =>
          rw [empty] at counted
          obtain rfl := Option.some.inj counted
          apply trailing_succ_of_used
          rw [outcome, IsUnused, empty]
          exact Bool.false_ne_true
      | true =>
          simp only [empty, Bool.not_true, Bool.false_eq_true, if_false,
            Option.ite_none_right_eq_some, Option.some.injEq] at counted
          obtain ⟨-, rfl⟩ := counted
          apply trailing_succ_of_unused trailing
          rw [outcome, IsUnused, empty]

theorem ends_succ_iff (positive : 0 < gap) (trailing : Trailing r n run) :
    Ends isDeep gap r (n + 1) ↔ next? isDeep gap run (r n) = none := by
  -- The scan keeps the length of the run only, and with it knows all that the outcomes tell.
  have gone : LastUnused r gap (n + 1) ↔ IsUnused (r n) ∧ gap ≤ run + 1 := by
    obtain ⟨k, rfl⟩ := Nat.exists_eq_add_one.mpr positive
    rw [lastUnused_succ, trailing k, Nat.succ_le_succ_iff, and_comm]
  rw [next?_eq_none_iff, Ends, gone]
  cases isDeep <;> simp

end Outcomes

section Scans

variable {σ : Type} (ask : Nat → StateM σ Outcome) (s : σ)

/-- What is left behind when the first `n` addresses have been looked at, each of them once. -/
def afterLooking : Nat → σ
  | 0 => s
  | n + 1 => ((ask n).run (afterLooking n)).2

/-- The outcome for an address when those before it have been looked at. -/
def outcomeOf (index : Nat) : Outcome := ((ask index).run (afterLooking ask s index)).1

variable {isDeep : Bool} {gap index run : Nat}

theorem run_scanFrom_of_last (left : Nat)
    (last : next? isDeep gap run (outcomeOf ask s index) = none) :
    (scanFrom ask isDeep gap (left + 1) index run).run (afterLooking ask s index) =
      ([outcomeOf ask s index], afterLooking ask s (index + 1)) := by
  rw [outcomeOf] at last
  rw [run_scanFrom, last]
  rfl

theorem run_scanFrom_of_next (left : Nat) {next : Nat}
    (counted : next? isDeep gap run (outcomeOf ask s index) = some next) :
    (scanFrom ask isDeep gap (left + 1) index run).run (afterLooking ask s index) =
      ((scanFrom ask isDeep gap left (index + 1) next).run (afterLooking ask s (index + 1))).map
        (outcomeOf ask s index :: ·) id := by
  rw [outcomeOf] at counted
  rw [run_scanFrom, counted]
  rfl

theorem run_scanFrom_ends (positive : 0 < gap) (left index run : Nat)
    (trailing : Trailing (outcomeOf ask s) index run)
    (goesOn : ¬Ends isDeep gap (outcomeOf ask s) index) :
    ∃ more, IsLeast (Rounds.ends (Ends isDeep gap (outcomeOf ask s)) (index + left) index)
        (index + more) ∧
      (scanFrom ask isDeep gap left index run).run (afterLooking ask s index) =
        ((List.range' index more).map (outcomeOf ask s), afterLooking ask s (index + more)) := by
  -- The addresses left become fewer; what is known of those behind is that the run is counted
  -- correctly and that none of them was the last.
  induction left generalizing index run with
  | zero => exact ⟨0, Rounds.isLeast_start (.inl rfl), rfl⟩
  | succ left ih =>
      have later : index ≠ index + (left + 1) := by omega
      cases step : next? isDeep gap run (outcomeOf ask s index) with
      | none =>
          have ends := (ends_succ_iff positive trailing).mpr step
          exact ⟨1, Rounds.isLeast_of_succ later goesOn (Rounds.isLeast_start (.inr ends)),
            run_scanFrom_of_last ask s left step⟩
      | some next =>
          have further : ¬Ends isDeep gap (outcomeOf ask s) (index + 1) := by
            rw [ends_succ_iff positive trailing, step]
            exact Option.some_ne_none next
          obtain ⟨more, least, rest⟩ :=
            ih (index + 1) next (trailing_of_next? trailing step) further
          have place : index + 1 + more = index + (more + 1) := by omega
          have last : index + 1 + left = index + (left + 1) := by omega
          rw [place, last] at least
          refine ⟨more + 1, Rounds.isLeast_of_succ later goesOn least, ?_⟩
          rw [run_scanFrom_of_next ask s left step, rest, place]
          rfl

theorem exists_end_of_scanFrom (isDeep : Bool) (positive : 0 < gap) (last : Nat) :
    ∃ n, IsLeast {n | n = last ∨ Ends isDeep gap (outcomeOf ask s) n} n ∧
      ∀ most, (scanFrom ask isDeep gap (min most last) 0 0).run s =
        ((List.range (min most n)).map (outcomeOf ask s), afterLooking ask s (min most n)) := by
  have goesOn : ¬Ends isDeep gap (outcomeOf ask s) 0 := by
    rintro (⟨_, begun, -⟩ | ⟨-, reached⟩)
    · exact absurd begun (Nat.zero_ne_add_one _)
    · exact Nat.not_le_of_lt positive ((trailing_zero _ gap).mp reached)
  have ended (left : Nat) :
      ∃ n, IsLeast (Rounds.ends (Ends isDeep gap (outcomeOf ask s)) left 0) n ∧
        (scanFrom ask isDeep gap left 0 0).run s =
          ((List.range n).map (outcomeOf ask s), afterLooking ask s n) := by
    obtain ⟨n, least, result⟩ := run_scanFrom_ends ask s positive left 0 0 (trailing_zero _) goesOn
    rw [Nat.zero_add, Nat.zero_add] at least
    rw [Nat.zero_add, ← List.range_eq_range'] at result
    exact ⟨n, least, result⟩
  obtain ⟨n, least, -⟩ := ended last
  refine ⟨n, Rounds.ends_zero ▸ least, ?_⟩
  intro most
  obtain ⟨m, first, result⟩ := ended (min most last)
  rw [result, first.unique (Rounds.isLeast_min least)]

theorem Ends.of_deep {r : Nat → Outcome} {n : Nat} (positive : 0 < gap) (ends : Ends true gap r n) :
    Ends false gap r n := by
  rcases ends with ⟨last, same, failed | ⟨shallow, -⟩⟩ | ⟨-, first, rfl, unused⟩
  · exact .inl ⟨last, same, .inl failed⟩
  · cases shallow
  · refine .inl ⟨first + (gap - 1), by omega, .inr ⟨rfl, unused (gap - 1) (by omega)⟩⟩

end Scans

end Discovery

open Discovery

/-- The numbers of outcomes after which a scan may end. -/
def ScanLimits.ends (limits : ScanLimits) (isDeep : Bool) (r : Nat → Outcome) : Set Nat :=
  {n | n = limits.maxAccounts.val ∨ Ends isDeep (max 1 limits.gapLimit.val) r n}

theorem ScanLimits.ends_of_deep {limits : ScanLimits} {r : Nat → Outcome} {n : Nat}
    (ends : n ∈ limits.ends true r) : n ∈ limits.ends false r :=
  ends.imp_right (Ends.of_deep (Nat.lt_of_lt_of_le Nat.zero_lt_one (Nat.le_max_left 1 _)))

namespace Bridge

variable {σ τ : Type}

def look (bridge : Bridge (StateM σ)) (derive : Nat → Except String String) (now : Moment)
    (index : Nat) : StateM σ Outcome :=
  (bridge.discover derive now index).run

theorem exists_end_of_scan (bridge : Bridge (StateM σ)) (derive : Nat → Except String String)
    (now : Moment) (s : σ) (isDeep : Bool) :
    ∃ n, IsLeast (bridge.limits.ends isDeep (outcomeOf (bridge.look derive now) s)) n ∧
      ∀ most, (bridge.scan derive isDeep most now).run s =
        ((List.range (min most n)).map (outcomeOf (bridge.look derive now) s),
          afterLooking (bridge.look derive now) s (min most n)) :=
  exists_end_of_scanFrom (bridge.look derive now) s isDeep
    (Nat.lt_of_lt_of_le Nat.zero_lt_one (Nat.le_max_left 1 _)) bridge.limits.maxAccounts.val

/-- A scan returns the outcomes up to the first number of them after which it may end, however many
more are wanted, and has looked at these addresses and at no others. -/
theorem scan_ends_when_due (bridge : Bridge (StateM σ)) (derive : Nat → Except String String)
    (now : Moment) (s : σ) :
    (∀ isDeep, ∃ n, IsLeast (bridge.limits.ends isDeep (outcomeOf (bridge.look derive now) s)) n ∧
      ∀ most, (bridge.scan derive isDeep most now).run s =
        ((List.range (min most n)).map (outcomeOf (bridge.look derive now) s),
          afterLooking (bridge.look derive now) s (min most n))) ∧
    ∀ (other : Bridge (StateM τ)) (derive' : Nat → Except String String) (later : Moment) (t : τ),
      other.limits = bridge.limits →
      outcomeOf (other.look derive' later) t = outcomeOf (bridge.look derive now) s →
      ∀ most, ((bridge.scan derive false most now).run s).1 <+:
        ((other.scan derive' true most later).run t).1 := by
  refine ⟨exists_end_of_scan bridge derive now s, ?_⟩
  intro other derive' later t limits same most
  obtain ⟨n, least, shallow⟩ := exists_end_of_scan bridge derive now s false
  obtain ⟨m, first, deep⟩ := exists_end_of_scan other derive' later t true
  rw [limits, same] at first
  -- Where a deep scan may end the other one may end as well, and it ends at the first such place.
  have sooner : n ≤ m := least.2 (ScanLimits.ends_of_deep first.1)
  have taken : (List.range (min most m)).take (min most n) = List.range (min most n) := by
    rw [List.take_range, Nat.min_eq_left (by omega)]
  rw [shallow, deep, same, ← taken]
  exact (List.take_prefix _ _).map _

section Sample

/-- Of the addresses `0`, `1`, `2` and so on the first and the third one have been paid to. -/
def samplePaidChain : MemoryChain :=
  { history := ["0", "2"].map fun address =>
      { samplePayment address 0 (some 7) with receiver := some address } }

def sampleDerive (index : Nat) : Except String String := .ok (Text.decimal index)

def sampleWallet : Bridge (StateM MemoryChain) := MemoryChain.bridge .elrond ⟨3, 9⟩

def sampleOutcomes (isDeep : Bool) : List Outcome :=
  ((sampleWallet.scan sampleDerive isDeep 9 .epoch).run samplePaidChain).1

/-- The deep scan goes past the first gap, which the other one takes for the end, and ends with
three unused accounts. -/
theorem scan_ends_when_due_of_gap :
    (sampleOutcomes false).length = 2 ∧ (sampleOutcomes true).length = 6 ∧
      sampleOutcomes false <+: sampleOutcomes true := by
  refine ⟨by decide +kernel, by decide +kernel, ?_⟩
  exact (scan_ends_when_due sampleWallet sampleDerive .epoch samplePaidChain).2 sampleWallet
    sampleDerive .epoch samplePaidChain rfl rfl 9

end Sample

end Bridge

end WalletSync
