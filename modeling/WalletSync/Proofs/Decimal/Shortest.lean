import Mathlib.Algebra.Order.Field.Power
import Mathlib.Data.Rat.Cast.Order
import Mathlib.Tactic.FieldSimp
import Mathlib.Tactic.Linarith
import Mathlib.Tactic.Ring
import WalletSync.Decimal.Shortest

/-!
The search for a decimal ends with one that is read as the float: among the numbers of seventeen
digits the nearer of the two neighbours always is, as their distance is smaller than that of two
floats. How short the decimal is does not matter here.
-/

namespace WalletSync.Decimal

def Scientific.value (d : Scientific) : ℚ := d.digits * 10 ^ d.exponent

namespace Binary

def value (x : Binary) : ℚ := x.significand * 2 ^ x.exponent

/-- As a positive float has it. -/
structure IsNormal (x : Binary) : Prop where
  positive : 0 < x.significand
  short : x.significand < 2 ^ 53
  narrow : x.isNarrowBelow = true → x.significand = 2 ^ 52

end Binary

section Fraction

theorem pow_toNat_neg_mul {a : ℚ} (nonzero : a ≠ 0) (n : Int) :
    a ^ n * a ^ (-n).toNat = a ^ n.toNat := by
  rw [← zpow_natCast, ← zpow_natCast, ← zpow_add₀ nonzero]
  congr 1
  omega

theorem fraction_snd_pos (n : Nat) (two ten : Int) : 0 < (fraction n two ten).2 := by
  rw [fraction, Nat.one_shiftLeft]
  exact Nat.mul_pos (Nat.two_pow_pos _) (Nat.pow_pos (by decide))

theorem fraction_fst (n : Nat) (two ten : Int) :
    ((fraction n two ten).1 : ℚ) = n * 2 ^ two * 10 ^ ten * (fraction n two ten).2 := by
  have twos := pow_toNat_neg_mul (a := 2) (by norm_num) two
  have tens := pow_toNat_neg_mul (a := 10) (by norm_num) ten
  simp only [fraction, Nat.shiftLeft_eq, Nat.one_mul, Nat.pow_eq]
  push_cast
  rw [← twos, ← tens]
  ring

end Fraction

section Holds

variable {x : Binary} {d : Scientific}

theorem fraction_digits (x : Binary) (d : Scientific) :
    ((fraction d.digits (2 - x.exponent) d.exponent).1 : ℚ) =
      d.value / 2 ^ (x.exponent - 2) * (fraction d.digits (2 - x.exponent) d.exponent).2 := by
  rw [fraction_fst, Scientific.value, ← neg_sub x.exponent 2, zpow_neg]
  ring

/-- What is read as a number lies between the half-way points, which are read as it themselves
when its significand is even. -/
theorem Binary.holds_iff :
    x.holds d = true ↔
      let unit : ℚ := 2 ^ (x.exponent - 2)
      let low : ℚ := (4 * x.significand - (if x.isNarrowBelow then 1 else 2) : Nat) * unit
      let high : ℚ := (4 * x.significand + 2 : Nat) * unit
      if x.significand % 2 = 0 then low ≤ d.value ∧ d.value ≤ high
      else low < d.value ∧ d.value < high := by
  have quotient := fraction_digits x d
  have positive := fraction_snd_pos d.digits (2 - x.exponent) d.exponent
  have unit : (0 : ℚ) < 2 ^ (x.exponent - 2) := zpow_pos (by norm_num) _
  unfold holds
  generalize fraction d.digits (2 - x.exponent) d.exponent = frac at quotient positive ⊢
  have den : (0 : ℚ) < frac.2 := by exact_mod_cast positive
  have least (a : Nat) : a * frac.2 ≤ frac.1 ↔ (a : ℚ) * 2 ^ (x.exponent - 2) ≤ d.value := by
    rw [← le_div_iff₀ unit, ← mul_le_mul_iff_left₀ den, ← quotient]
    norm_cast
  have most (a : Nat) : frac.1 ≤ a * frac.2 ↔ d.value ≤ (a : ℚ) * 2 ^ (x.exponent - 2) := by
    rw [← div_le_iff₀ unit, ← mul_le_mul_iff_left₀ den, ← quotient]
    norm_cast
  dsimp only
  split
  · rw [Bool.and_eq_true, decide_eq_true_eq, decide_eq_true_eq, least, most]
  · rw [Bool.and_eq_true, decide_eq_true_eq, decide_eq_true_eq, ← Nat.not_le, ← Nat.not_le, least,
      most, not_le, not_le]

theorem Binary.holds_congr {other : Scientific} (same : d.value = other.value) :
    x.holds d = x.holds other := by
  rw [Bool.eq_iff_iff, holds_iff, holds_iff, same]

/-- What is read as a number is at most half a unit greater. -/
theorem Binary.value_le_of_holds (held : x.holds d = true) :
    d.value ≤ (4 * x.significand + 2) * 2 ^ (x.exponent - 2) := by
  rw [holds_iff] at held
  dsimp only at held
  push_cast at held
  split at held
  · exact held.2
  · exact held.2.le

theorem Binary.value_eq (x : Binary) : x.value = 4 * x.significand * 2 ^ (x.exponent - 2) := by
  rw [value, zpow_sub₀ (by norm_num)]
  ring

/-- What is nearer to the number than the half-way points is read as it. Below a power of two the
lower one is at half the distance of the other one. -/
theorem Binary.holds_of_near (normal : x.IsNormal)
    (low : x.value - d.value < (if x.isNarrowBelow then 1 else 2) * 2 ^ (x.exponent - 2))
    (high : d.value - x.value < 2 * 2 ^ (x.exponent - 2)) : x.holds d = true := by
  have positive := normal.positive
  rw [value_eq] at low high
  rw [holds_iff, Nat.cast_sub (by split_ifs <;> omega)]
  dsimp only
  push_cast
  split
  · constructor
    · linarith
    · linarith
  · constructor
    · linarith
    · linarith

end Holds

section Magnitude

/-- The whole part of a quotient has one digit more than this power of ten has zeros. -/
theorem exists_length_div {a b : Nat} (positive : 0 < b) (large : b ≤ a) :
    ∃ zeros, (Nat.toDigits 10 (a / b)).length = zeros + 1 ∧
      10 ^ zeros * b ≤ a ∧ a < 10 ^ (zeros + 1) * b := by
  have whole : 0 < a / b := Nat.div_pos large positive
  cases digits : (Nat.toDigits 10 (a / b)).length with
  | zero => exact absurd (List.eq_nil_of_length_eq_zero digits) Nat.toDigits_ne_nil
  | succ zeros =>
      have length (k : Nat) (given : 0 < k) : zeros + 1 ≤ k ↔ a / b < 10 ^ k :=
        digits ▸ Nat.length_toDigits_le_iff (by decide) given
      refine ⟨zeros, rfl, (Nat.le_div_iff_mul_le positive).mp ?_,
        (Nat.div_lt_iff_lt_mul positive).mp ((length _ (Nat.succ_pos zeros)).mp (Nat.le_refl _))⟩
      cases zeros with
      | zero => exact whole
      | succ zeros =>
          refine Nat.le_of_not_lt fun short => ?_
          have := (length _ (Nat.succ_pos zeros)).mpr short
          omega

/-- A positive number is not less than its power of ten, and less than the next one. -/
theorem Binary.value_magnitude {x : Binary} (positive : 0 < x.significand) :
    (10 : ℚ) ^ x.magnitude ≤ x.value ∧ x.value < 10 ^ (x.magnitude + 1) := by
  have quotient := fraction_fst x.significand x.exponent 0
  have denPos := fraction_snd_pos x.significand x.exponent 0
  rw [zpow_zero, mul_one, ← Binary.value] at quotient
  unfold magnitude
  generalize fraction x.significand x.exponent 0 = frac at quotient denPos ⊢
  obtain ⟨num, den⟩ := frac
  dsimp only at quotient denPos ⊢
  have denCast : (0 : ℚ) < den := by exact_mod_cast denPos
  have valued : (0 : ℚ) < x.value :=
    mul_pos (by exact_mod_cast positive) (zpow_pos (by norm_num) _)
  have numPos : 0 < num := by exact_mod_cast quotient ▸ mul_pos valued denCast
  have ten : (10 : ℚ) ≠ 0 := by norm_num
  rw [← mul_le_mul_iff_left₀ denCast, ← mul_lt_mul_iff_left₀ denCast, ← quotient]
  split
  · next large =>
      obtain ⟨zeros, digits, low, high⟩ := exists_length_div denPos large
      rw [digits, show ((zeros + 1 : Nat) : Int) - 1 = (zeros : Int) by omega, zpow_add_one₀ ten,
        zpow_natCast, ← pow_succ]
      exact ⟨by exact_mod_cast low, by exact_mod_cast high⟩
  · next small =>
      -- The number of digits of the inverse does not tell a power of ten from smaller numbers.
      obtain ⟨zeros, digits, low, high⟩ := exists_length_div numPos (Nat.le_of_not_le small)
      have power : (0 : ℚ) < 10 ^ zeros := by positivity
      rw [digits, Nat.add_sub_cancel]
      split
      · next reached =>
          have low' : (10 : ℚ) ^ zeros * num ≤ den := by exact_mod_cast low
          have reached' : (den : ℚ) ≤ num * 10 ^ zeros := by exact_mod_cast reached
          rw [show 1 - ((zeros + 1 : Nat) : Int) = -(zeros : Int) by omega, zpow_add_one₀ ten,
            zpow_neg, zpow_natCast, mul_assoc, inv_mul_le_iff₀ power, lt_inv_mul_iff₀ power]
          constructor
          · linarith
          · linarith
      · next smaller =>
          have high' : (den : ℚ) < 10 ^ zeros * 10 * num := by exact_mod_cast high
          have smaller' : (num : ℚ) * 10 ^ zeros < den := by exact_mod_cast Nat.lt_of_not_le smaller
          rw [show -((zeros + 1 : Nat) : Int) = -(zeros : Int) - 1 by omega, sub_add_cancel,
            zpow_sub_one₀ ten, zpow_neg, zpow_natCast, mul_assoc, inv_mul_le_iff₀ power,
            lt_inv_mul_iff₀ power]
          constructor
          · linarith
          · linarith

end Magnitude

section Search

/-- The digits of a number down to a power of ten. -/
def Binary.leading (x : Binary) (exponent : Int) : Nat :=
  (fraction x.significand x.exponent (-exponent)).1 /
    (fraction x.significand x.exponent (-exponent)).2

variable {x : Binary}

theorem Binary.leading_value (x : Binary) (exponent : Int) :
    x.leading exponent * 10 ^ exponent ≤ x.value ∧
      x.value < (x.leading exponent + 1) * (10 : ℚ) ^ exponent := by
  have quotient := fraction_fst x.significand x.exponent (-exponent)
  have den := fraction_snd_pos x.significand x.exponent (-exponent)
  rw [← Binary.value, zpow_neg] at quotient
  unfold leading
  generalize fraction x.significand x.exponent (-exponent) = frac at quotient den ⊢
  have denCast : (0 : ℚ) < frac.2 := by exact_mod_cast den
  have power : (0 : ℚ) < 10 ^ exponent := zpow_pos (by norm_num) _
  have low : ((frac.1 / frac.2 : Nat) : ℚ) * frac.2 ≤ frac.1 := by
    exact_mod_cast Nat.div_mul_le_self frac.1 frac.2
  have high : (frac.1 : ℚ) < ((frac.1 / frac.2 : Nat) + 1) * frac.2 := by
    exact_mod_cast Nat.lt_mul_of_div_lt (Nat.lt_succ_self _) den
  rw [quotient] at low high
  rw [← le_mul_inv_iff₀ power, ← mul_inv_lt_iff₀ power]
  exact ⟨le_of_mul_le_mul_right low denCast, lt_of_mul_lt_mul_right high denCast.le⟩

theorem Binary.leading_lt (positive : 0 < x.significand) (count : Nat) :
    x.leading (x.magnitude + 1 - count) < 10 ^ count := by
  have low := (x.leading_value (x.magnitude + 1 - count)).1
  have high := (value_magnitude positive).2
  have power : (0 : ℚ) < 10 ^ (x.magnitude + 1 - count) := zpow_pos (by norm_num) _
  have split : (10 : ℚ) ^ (x.magnitude + 1) = 10 ^ count * 10 ^ (x.magnitude + 1 - count) := by
    rw [← zpow_natCast, ← zpow_add₀ (by norm_num)]
    congr 1
    omega
  rw [split] at high
  exact_mod_cast lt_of_mul_lt_mul_right (lt_of_le_of_lt low high) power.le

/-- A search ends with one of the two neighbours of a count of digits, unless it has to go on. -/
theorem Binary.search_cases (x : Binary) (magnitude : Int) (steps count : Nat) :
    let exponent := magnitude + 1 - count
    let below := x.leading exponent
    let found := x.search magnitude (steps + 1) count
    x.holds found = true ∧ 0 < found.digits ∧ found.digits ≤ below + 1 ∨
      ¬(0 < below ∧ x.holds ⟨below, exponent⟩ = true) ∧ ¬x.holds ⟨below + 1, exponent⟩ = true ∧
        found = x.search magnitude steps (count + 1) := by
  intro exponent below found
  have step : found = _ := rfl
  unfold found at step
  rw [search] at step
  change found =
    if (0 < below && x.holds ⟨below, exponent⟩) && x.holds ⟨below + 1, exponent⟩ then _
    else if 0 < below && x.holds ⟨below, exponent⟩ then ⟨below, exponent⟩
    else if x.holds ⟨below + 1, exponent⟩ then ⟨below + 1, exponent⟩
    else x.search magnitude steps (count + 1) at step
  rw [step]
  simp only [Bool.and_eq_true, decide_eq_true_eq]
  split
  · next both =>
      left
      split
      · exact ⟨both.1.2, both.1.1, Nat.le_succ _⟩
      · exact ⟨both.2, Nat.succ_pos _, Nat.le_refl _⟩
  split
  · next lower => exact .inl ⟨lower.2, lower.1, Nat.le_succ _⟩
  split
  · next upper => exact .inl ⟨upper, Nat.succ_pos _, Nat.le_refl _⟩
  · next notLower notUpper => exact .inr ⟨notLower, notUpper, rfl⟩

/-- Half of a sixteenth power of ten of a number is less than its distance to the next ones. -/
theorem Binary.half_lt_gap (normal : x.IsNormal) {step : ℚ} (small : 10 ^ 16 * step ≤ x.value) :
    step / 2 < (if x.isNarrowBelow then 1 else 2) * 2 ^ (x.exponent - 2) := by
  have unit : (0 : ℚ) < 2 ^ (x.exponent - 2) := zpow_pos (by norm_num) _
  rw [value_eq] at small
  split
  · next narrow =>
      rw [normal.narrow narrow] at small
      push_cast at small
      linarith
  · have short : (x.significand : ℚ) * 2 ^ (x.exponent - 2) < 2 ^ 53 * 2 ^ (x.exponent - 2) :=
      mul_lt_mul_of_pos_right (by exact_mod_cast normal.short) unit
    linarith

/-- With seventeen digits one of the neighbours is near enough. -/
theorem Binary.holds_neighbour (normal : x.IsNormal) :
    let exponent := x.magnitude + 1 - (17 : Nat)
    let below := x.leading exponent
    0 < below ∧ x.holds ⟨below, exponent⟩ = true ∨ x.holds ⟨below + 1, exponent⟩ = true := by
  intro exponent below
  obtain ⟨low, high⟩ := x.leading_value exponent
  have large := (value_magnitude normal.positive).1
  have power : (0 : ℚ) < 10 ^ exponent := zpow_pos (by norm_num) _
  have split : (10 : ℚ) ^ x.magnitude = 10 ^ 16 * 10 ^ exponent := by
    rw [← zpow_natCast, ← zpow_add₀ (by norm_num)]
    congr 1
    omega
  rw [split] at large
  have gap := half_lt_gap normal large
  have above : (10 : ℚ) ^ exponent / 2 < 2 * 2 ^ (x.exponent - 2) := by
    have atMost : (if x.isNarrowBelow then 1 else 2 : ℚ) ≤ 2 := by split_ifs <;> norm_num
    exact lt_of_lt_of_le gap (mul_le_mul_of_nonneg_right atMost (zpow_nonneg (by norm_num) _))
  have value : (Scientific.mk (below + 1) exponent).value =
      below * 10 ^ exponent + 10 ^ exponent := by
    rw [Scientific.value]
    push_cast
    ring
  by_cases nearer : x.value - below * 10 ^ exponent ≤ 10 ^ exponent / 2
  · left
    refine ⟨?_, holds_of_near normal (lt_of_le_of_lt nearer gap) ?_⟩
    · have : (0 : ℚ) < below := by
        by_contra none
        nlinarith
      exact_mod_cast this
    · rw [Scientific.value]
      linarith
  · right
    refine holds_of_near normal ?_ ?_
    · rw [value]
      linarith
    · rw [value]
      linarith

theorem Binary.search_spec (normal : x.IsNormal) (steps count : Nat)
    (last : count + steps = 17) :
    let found := x.search x.magnitude (steps + 1) count
    x.holds found = true ∧ 0 < found.digits ∧ found.digits ≤ 10 ^ 17 := by
  induction steps generalizing count with
  | zero =>
      obtain rfl : count = 17 := last
      rcases x.search_cases x.magnitude 0 17 with ⟨held, positive, short⟩ | ⟨notBelow, notAbove, -⟩
      · exact ⟨held, positive, Nat.le_trans short (leading_lt normal.positive 17)⟩
      · rcases holds_neighbour normal with below | above
        · exact absurd below notBelow
        · exact absurd above notAbove
  | succ steps ih =>
      rcases x.search_cases x.magnitude (steps + 1) count with
        ⟨held, positive, short⟩ | ⟨-, -, later⟩
      · refine ⟨held, positive, Nat.le_trans short (Nat.le_trans ?_ (Nat.pow_le_pow_right
          (by decide) (show count ≤ 17 by omega)))⟩
        exact leading_lt normal.positive count
      · intro found
        unfold found
        rw [later]
        exact ih (count + 1) (by omega)

end Search

theorem Scientific.value_dropZero (d : Scientific) : d.dropZero.value = d.value := by
  unfold dropZero
  split
  · next zero =>
      have whole : ((d.digits / 10 : Nat) : ℚ) * 10 = d.digits := by
        exact_mod_cast Nat.div_mul_cancel (Nat.dvd_of_mod_eq_zero zero)
      rw [value, value, ← whole, zpow_add_one₀ (by norm_num)]
      ring
  · rfl

theorem Scientific.digits_dropZero (d : Scientific) :
    d.dropZero.digits ≤ d.digits ∧ (0 < d.digits → 0 < d.dropZero.digits) := by
  unfold dropZero
  split
  · next zero =>
      exact ⟨Nat.div_le_self _ _, fun positive =>
        Nat.div_pos (Nat.le_of_dvd positive (Nat.dvd_of_mod_eq_zero zero)) (by decide)⟩
  · exact ⟨Nat.le_refl _, id⟩

/-- What a float is written as is read as the float, and has at most seventeen digits. -/
theorem Binary.holds_shortest {x : Binary} (normal : x.IsNormal) :
    x.holds x.shortest = true ∧ 0 < x.shortest.digits ∧ x.shortest.digits ≤ 10 ^ 17 := by
  obtain ⟨held, positive, short⟩ := search_spec normal 16 1 rfl
  obtain ⟨less, given⟩ := (x.search x.magnitude 17 1).digits_dropZero
  exact ⟨(holds_congr (Scientific.value_dropZero _)).trans held, given positive,
    Nat.le_trans less short⟩

end WalletSync.Decimal
