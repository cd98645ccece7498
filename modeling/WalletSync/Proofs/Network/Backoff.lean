import Mathlib.Algebra.Group.Nat.Defs
import WalletSync.Network.Retry

/-!
Delays between attempts. Powers and products that stop at the largest word, and a limit that is
taken after them, come to the same as arithmetic without an end: the base, doubled once for every
failure after the first one, up to the limit. The random part keeps a delay below eleven tenths of
that, but the sum is the one step that does not stop at the largest word. Near the end of the range
there are random parts for which it has no value.
-/

namespace WalletSync

namespace Backoff

variable {rule : Backoff} {failed jitter : Nat} {base limit delay : Count}

/-- The delay after `failed` failures without its random part, in arithmetic without an end. -/
def due (rule : Backoff) (failed : Nat) : Nat :=
  min (rule.base.val * 2 ^ (failed - 1)) rule.limit.val

/-- The delay is what is due, or less than a tenth of it longer where a tenth is one or more. -/
def InWindow (rule : Backoff) (failed : Nat) (delay : Count) : Prop :=
  if rule.base = 0 ∨ rule.due failed < 10 then delay.val = rule.due failed
  else rule.due failed ≤ delay.val ∧ delay.val < rule.due failed + rule.due failed / 10

theorem due_le_limit : rule.due failed ≤ rule.limit.val := Nat.min_le_right _ _

theorem due_le_due {later : Nat} (le : failed ≤ later) : rule.due failed ≤ rule.due later := by
  have powers : 2 ^ (failed - 1) ≤ 2 ^ (later - 1) :=
    Nat.pow_le_pow_right (by decide) (Nat.sub_le_sub_right le 1)
  have products := Nat.mul_le_mul_left rule.base.val powers
  unfold due
  omega

/-- A power or a product that stops at the largest word is beyond every limit by then. -/
theorem val_min_doubled (given : 0 < base.val) (n : Nat) :
    (min (base.mulSat (Word.twoPowSat n)) limit).val = min (base.val * 2 ^ n) limit.val := by
  have below := limit.val_lt
  rw [Word.val_min, Word.val_mulSat, Word.val_twoPowSat, Nat.one_shiftLeft n]
  rcases Nat.lt_or_ge (1 <<< 64 - 1) (2 ^ n) with beyond | within
  · have product : 2 ^ n ≤ base.val * 2 ^ n := Nat.le_mul_of_pos_left _ given
    have stopped : 1 <<< 64 - 1 ≤ base.val * (1 <<< 64 - 1) := Nat.le_mul_of_pos_left _ given
    rw [Nat.min_eq_right (Nat.le_of_lt beyond)]
    omega
  · rw [Nat.min_eq_left within]
    omega

theorem due_of_no_base (off : rule.base = 0) : rule.due failed = 0 := by
  have zero : (0 : Count).val = 0 := rfl
  rw [due, off, zero, Nat.zero_mul, Nat.zero_min]

/-- The arithmetic of words comes to what is due. -/
theorem val_least (given : 1 ≤ failed) : (rule.least failed).val = rule.due failed := by
  have counted : failed ≠ 0 := Nat.ne_of_gt given
  by_cases off : rule.base = 0
  · rw [least, if_pos (by simp [off]), due_of_no_base off]
    rfl
  · have positive : 0 < rule.base.val :=
      Nat.pos_of_ne_zero fun zero => off (Word.ext zero)
    rw [least, if_neg (by simp [off, counted])]
    exact val_min_doubled positive _

theorem delay?_eq_some_iff (given : 1 ≤ failed) :
    rule.delay? failed jitter = some delay ↔ delay.val = rule.due failed + jitter := by
  rw [delay?, Word.ofNat?_eq_some_iff, val_least given]

theorem isSome_delay?_iff (given : 1 ≤ failed) :
    (rule.delay? failed jitter).isSome ↔ rule.due failed + jitter < 2 ^ 64 := by
  rw [Option.isSome_iff_exists]
  constructor
  · rintro ⟨delay, sum⟩
    rw [← (delay?_eq_some_iff given).mp sum, ← Nat.one_shiftLeft]
    exact delay.val_lt
  · intro within
    rw [← Nat.one_shiftLeft] at within
    exact ⟨⟨_, within⟩, (delay?_eq_some_iff given).mpr rfl⟩

theorem lt_spread_iff (given : 1 ≤ failed) :
    jitter < rule.spread failed ↔ jitter = 0 ∨ jitter < rule.due failed / 10 := by
  rw [spread, val_least given]
  omega

theorem inWindow_of_drawn (given : 1 ≤ failed) (drawn : jitter < rule.spread failed)
    (sum : rule.delay? failed jitter = some delay) : rule.InWindow failed delay := by
  rw [delay?_eq_some_iff given] at sum
  rw [lt_spread_iff given] at drawn
  unfold InWindow
  split
  · next small =>
      have short : rule.due failed < 10 :=
        small.elim (fun off => by rw [due_of_no_base off]; decide) id
      omega
  · next large =>
      have long : 10 ≤ rule.due failed := Nat.le_of_not_lt fun short => large (.inr short)
      omega

/-- A draw gives a delay in the window exactly as long as the sum is in range. -/
theorem drawn_iff (given : 1 ≤ failed) (drawn : jitter < rule.spread failed) :
    (∃ delay, rule.delay? failed jitter = some delay ∧ rule.InWindow failed delay) ↔
      rule.due failed + jitter < 2 ^ 64 := by
  rw [← isSome_delay?_iff given, Option.isSome_iff_exists]
  constructor
  · rintro ⟨delay, sum, -⟩
    exact ⟨delay, sum⟩
  · rintro ⟨delay, sum⟩
    exact ⟨delay, sum, inWindow_of_drawn given drawn sum⟩

theorem due_lt : rule.due failed < 2 ^ 64 := by
  have below := rule.limit.val_lt
  rw [Nat.one_shiftLeft] at below
  exact Nat.lt_of_le_of_lt due_le_limit below

/-- All draws give a delay exactly when what is due and a tenth of it are in range together. -/
theorem all_drawn_iff (given : 1 ≤ failed) :
    (∀ jitter < rule.spread failed,
        ∃ delay, rule.delay? failed jitter = some delay ∧ rule.InWindow failed delay) ↔
      rule.due failed + rule.due failed / 10 ≤ 2 ^ 64 := by
  have range : rule.due failed < 2 ^ 64 := due_lt
  constructor
  · intro all
    by_cases short : rule.due failed / 10 = 0
    · omega
    · have drawn : rule.due failed / 10 - 1 < rule.spread failed :=
        (lt_spread_iff given).mpr (.inr (by omega))
      have last := (drawn_iff given drawn).mp (all _ drawn)
      omega
  · intro room jitter drawn
    refine (drawn_iff given drawn).mpr ?_
    rw [lt_spread_iff given] at drawn
    omega

/-- Every draw gives a delay in its window, as long as the sum is in range. That holds of all draws
exactly when what is due and a tenth of it are in range together; otherwise the last draws have no
delay. What is due does not decrease with the failures and is never more than the limit. -/
theorem delays_stay_in_window (rule : Backoff) (failed : Nat) (given : 1 ≤ failed) :
    (∀ jitter < rule.spread failed,
        (∃ delay, rule.delay? failed jitter = some delay ∧ rule.InWindow failed delay) ↔
          rule.due failed + jitter < 2 ^ 64) ∧
      ((∀ jitter < rule.spread failed,
          ∃ delay, rule.delay? failed jitter = some delay ∧ rule.InWindow failed delay) ↔
        rule.due failed + rule.due failed / 10 ≤ 2 ^ 64) ∧
      (∀ later, failed ≤ later → rule.due failed ≤ rule.due later) ∧
      rule.due failed ≤ rule.limit.val :=
  ⟨fun _ drawn => drawn_iff given drawn, all_drawn_iff given, fun _ le => due_le_due le,
    due_le_limit⟩

section Sample

def patient : Backoff := ⟨100, 1000⟩

/-- Four times the base is due after three failures, and there is room for every draw. -/
theorem delays_stay_in_window_of_patient :
    1 ≤ 3 ∧ 39 < patient.spread 3 ∧ patient.due 3 = 400 ∧
      ∃ delay, patient.delay? 3 39 = some delay ∧ patient.InWindow 3 delay := by
  have drawn : 39 < patient.spread 3 := by decide +kernel
  have room : patient.due 3 + patient.due 3 / 10 ≤ 2 ^ 64 := by decide +kernel
  exact ⟨by decide, drawn, by decide +kernel,
    (delays_stay_in_window patient 3 (by decide)).2.1.mpr room 39 drawn⟩

/-- A base and a limit that end two numbers before the range does. -/
def longest : Backoff := ⟨18446744073709551614, 18446744073709551614⟩

/-- The third draw is already beyond the range. -/
theorem jitter_leaves_range :
    ¬∀ (rule : Backoff) (failed : Nat), 1 ≤ failed → ∀ jitter < rule.spread failed,
      ∃ delay, rule.delay? failed jitter = some delay ∧ rule.InWindow failed delay := by
  intro claim
  obtain ⟨delay, sum, -⟩ := claim longest 1 (by decide) 2 (by decide +kernel)
  have none : longest.delay? 1 2 = .none := by decide +kernel
  rw [none] at sum
  cases sum

end Sample

end Backoff

end WalletSync
