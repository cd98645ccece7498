import Mathlib

/-!
How far rounding takes a float up. A product that is less than the number half-way between the
largest float and the next power of two stays among the floats.
-/

namespace WalletSync.Decimal

open Float.Model UnpackedFloat

section Shift

theorem mantissa_shiftRight (n : Nat) (em : ExtendedMantissa) :
    (em >>> n).mantissa = em.mantissa / 2 ^ n := by
  induction n with
  | zero => exact (Nat.div_one _).symm
  | succ n ih =>
      change (em >>> n).mantissa / 2 = _
      rw [ih, Nat.div_div_eq_div_mul, Nat.pow_succ]

theorem roundedMantissa_bounds (em : ExtendedMantissa) :
    em.mantissa ≤ em.roundedMantissa ∧ em.roundedMantissa ≤ em.mantissa + em.roundBit.toNat := by
  obtain ⟨m, roundBit, stickyBit⟩ := em
  cases roundBit <;> cases stickyBit <;>
    simp [ExtendedMantissa.roundedMantissa, ExtendedMantissa.accuracy,
      Accuracy.roundToNearestEven]
  omega

/-- What is left of a number without its last digits. -/
def kept (n m : Nat) : Nat :=
  (ExtendedMantissa.ofMantissaAndAccuracy m .exact >>> n).roundedMantissa

variable {m n : Nat}

theorem ne_zero_of_log2_pos (long : 0 < m.log2) : m ≠ 0 := by
  rintro rfl
  exact absurd long (by decide)

theorem kept_zero (m : Nat) : kept 0 m = m := rfl

/-- Of a dropped half a unit or more one unit is made. -/
theorem two_mul_kept_succ_le (n m : Nat) : 2 * kept (n + 1) m ≤ m / 2 ^ n + 1 := by
  let em := ExtendedMantissa.ofMantissaAndAccuracy m .exact
  have rounded : kept (n + 1) m ≤ _ := (roundedMantissa_bounds (em >>> (n + 1))).2
  have half : (em >>> (n + 1)).mantissa = (em >>> n).mantissa / 2 := rfl
  have bit : (em >>> (n + 1)).roundBit = ((em >>> n).mantissa % 2 != 0) := rfl
  have whole : (em >>> n).mantissa = m / 2 ^ n := mantissa_shiftRight n em
  rw [bit, half, whole] at rounded
  rcases Nat.mod_two_eq_zero_or_one (m / 2 ^ n) with even | odd
  · simp only [even, bne_self_eq_false, Bool.toNat_false] at rounded
    omega
  · simp only [odd, show ((1 : Nat) != 0) = true from rfl, Bool.toNat_true] at rounded
    omega

theorem kept_mul_le (n m : Nat) : kept n m * 2 ^ n ≤ m + 2 ^ n / 2 := by
  cases n with
  | zero => exact Nat.le_of_eq (Nat.mul_one m)
  | succ n =>
      have rounded := Nat.mul_le_mul_right (2 ^ n) (two_mul_kept_succ_le n m)
      have whole := Nat.div_mul_le_self m (2 ^ n)
      rw [Nat.add_mul, Nat.one_mul] at rounded
      rw [Nat.pow_succ, Nat.mul_div_cancel _ (by decide)]
      calc kept (n + 1) m * (2 ^ n * 2) = 2 * kept (n + 1) m * 2 ^ n := by ring
        _ ≤ m + 2 ^ n := by omega

/-- Only what is beyond 53 binary digits is rounded. -/
theorem kept_mul_le_of_log2 (length : m.log2 = 53 + n) :
    kept (n + 1) m * 2 ^ (n + 1) ≤ m + m / 2 ^ 53 := by
  have nonzero : m ≠ 0 := ne_zero_of_log2_pos (by omega)
  refine Nat.le_trans (kept_mul_le _ _) (Nat.add_le_add_left ?_ _)
  rw [Nat.pow_succ, Nat.mul_div_cancel _ (by decide), Nat.le_div_iff_mul_le (by decide),
    ← Nat.pow_add, Nat.add_comm n, ← length]
  exact Nat.log2_self_le nonzero

theorem kept_bounds (length : m.log2 = 52 + n) : 2 ^ 52 ≤ kept n m ∧ kept n m ≤ 2 ^ 53 := by
  have rounded := roundedMantissa_bounds (ExtendedMantissa.ofMantissaAndAccuracy m .exact >>> n)
  rw [mantissa_shiftRight, ← kept] at rounded
  have bit := Bool.toNat_le (ExtendedMantissa.ofMantissaAndAccuracy m .exact >>> n).roundBit
  have nonzero : m ≠ 0 := ne_zero_of_log2_pos (by omega)
  have least := Nat.log2_self_le nonzero
  have most := @Nat.lt_log2_self m
  rw [length, Nat.pow_add] at least
  rw [length, Nat.add_right_comm 52, Nat.pow_add] at most
  have whole : 2 ^ 52 ≤ m / 2 ^ n := (Nat.le_div_iff_mul_le (Nat.two_pow_pos n)).mpr least
  have short : m / 2 ^ n < 2 ^ 53 := (Nat.div_lt_iff_lt_mul (Nat.two_pow_pos n)).mpr most
  change m / 2 ^ n ≤ _ ∧ _ ≤ m / 2 ^ n + _ at rounded
  omega

end Shift

section Round

variable {m n : Nat} {e : Int}

theorem targetExponent_eq (e : Int) : Format.binary64.targetExponent e = max (e - 53) (-1074) := rfl

/-- All digits beyond the first 53 are shifted out. -/
theorem shiftToTargetExponent_eq (length : m.log2 = 52 + n) (least : -1074 ≤ e) :
    shiftToTargetExponent .binary64 m e .exact =
      (ExtendedMantissa.ofMantissaAndAccuracy m .exact >>> n, e + n) := by
  have amount : (Format.binary64.targetExponent (totalExponent m e) - e).toNat = n := by
    rw [targetExponent_eq, totalExponent, length]
    omega
  rw [shiftToTargetExponent, shiftToExponent, amount]

/-- Rounding up may make one digit more, which is shifted out once more. -/
theorem roundWithAccuracy_eq (sign : Sign) (length : m.log2 = 52 + n) (least : -1074 ≤ e) :
    ∃ (M : Nat) (E : Int) (positive : 0 < M),
      roundWithAccuracy .binary64 sign m e .exact = .finite sign M E positive ∧
      2 ^ 52 ≤ M ∧ M < 2 ^ 53 ∧ e + n ≤ E ∧ (M : ℚ) * 2 ^ E = kept n m * 2 ^ (e + n) := by
  obtain ⟨low, high⟩ := kept_bounds length
  rw [roundWithAccuracy, shiftToTargetExponent_eq length least]
  dsimp only
  rw [← kept]
  rcases Nat.lt_or_eq_of_le high with short | full
  · have digits : (kept n m).log2 = 52 + 0 := (Nat.log2_eq_iff (by omega)).mpr ⟨low, short⟩
    have mantissa : (ExtendedMantissa.ofMantissaAndAccuracy (kept n m) .exact >>> 0).mantissa =
        kept n m := rfl
    rw [shiftToTargetExponent_eq digits (by omega), dif_neg (by rw [mantissa]; omega)]
    exact ⟨_, _, _, rfl, low, short, by omega, by rw [mantissa, Nat.cast_zero, add_zero]⟩
  · have digits : (kept n m).log2 = 52 + 1 := by rw [full, Nat.log2_two_pow]
    have mantissa : (ExtendedMantissa.ofMantissaAndAccuracy (kept n m) .exact >>> 1).mantissa =
        2 ^ 52 := by
      rw [mantissa_shiftRight, full]
      rfl
    rw [shiftToTargetExponent_eq digits (by omega), dif_neg (by rw [mantissa]; decide)]
    refine ⟨_, _, _, rfl, Nat.le_of_eq mantissa.symm, by rw [mantissa]; decide, by omega, ?_⟩
    rw [mantissa, full, Nat.cast_one, zpow_add_one₀ (by norm_num)]
    push_cast
    ring

end Round

section Pack

variable {M : Nat} {E : Int} {sign : Sign} {positive : 0 < M}

theorem pack_eq_packComponents (least : 2 ^ 52 ≤ M) (most : M < 2 ^ 53) (high : E ≤ 971) :
    UnpackedFloat.pack .binary64 (.finite sign M E positive) =
      packComponents .binary64 sign (BitVec.ofNat 11 (E + 1075).toNat) (BitVec.ofNat 52 M) := by
  have digits : M.log2 + 1 = Format.binary64.mantissaBits := by
    rw [(Nat.log2_eq_iff (Nat.ne_of_gt positive)).mpr ⟨least, most⟩]
    rfl
  have biased : (E + (Format.binary64.exponentBias : Int) + (52 : Nat)).toNat =
      (E + 1075).toNat := by
    rw [show Format.binary64.exponentBias = 1023 from rfl]
    omega
  simp only [UnpackedFloat.pack]
  rw [biased, if_neg (by omega), if_pos digits]

/-- The first digit is not among the bits. -/
theorem toNat_append_ofNat (least : 2 ^ 52 ≤ M) (most : M < 2 ^ 53) :
    (1#1 ++ BitVec.ofNat 52 M).toNat = M := by
  rw [BitVec.toNat_append, ← Nat.shiftLeft_add_eq_or_of_lt (BitVec.isLt _), BitVec.toNat_ofNat]
  change 2 ^ 52 + M % 2 ^ 52 = M
  omega

/-- A float that has all its digits and is not too great is kept as it is. -/
theorem unpack_pack (least : 2 ^ 52 ≤ M) (most : M < 2 ^ 53) (low : -1074 ≤ E) (high : E ≤ 971) :
    (Float.Model.pack (.finite sign M E positive)).unpack = .finite sign M E positive := by
  have exponent : (BitVec.ofNat 11 (E + 1075).toNat).toNat = (E + 1075).toNat := by
    rw [BitVec.toNat_ofNat, Nat.mod_eq_of_lt (by omega)]
  have notLast : BitVec.ofNat 11 (E + 1075).toNat ≠ -1#11 := by
    intro same
    have : (E + 1075).toNat = 2047 := exponent.symm.trans (congrArg BitVec.toNat same)
    omega
  have notFirst : BitVec.ofNat 11 (E + 1075).toNat ≠ 0#11 := by
    intro same
    have : (E + 1075).toNat = 0 := exponent.symm.trans (congrArg BitVec.toNat same)
    omega
  change UnpackedFloat.unpack .binary64 (UnpackedFloat.pack .binary64 _) = _
  rw [pack_eq_packComponents least most high]
  simp only [UnpackedFloat.unpack, unpackExponent_packComponents, unpackMantissa_packComponents,
    unpackSign_packComponents, Sign.ofBitVec_toBitVec, if_neg notLast, if_neg notFirst,
    toNat_append_ofNat least most, exponent]
  congr 1
  rw [show Format.binary64.exponentBias = 1023 from rfl]
  omega

end Pack

section Denotes

variable {m n : Nat} {e : Int} {x y : Float} {v w : ℚ}

/-- The float is a positive number of that value, and not so small that it lacks digits. -/
def Denotes (x : Float) (v : ℚ) : Prop :=
  ∃ (M : Nat) (E : Int) (positive : 0 < M), x.toModel.unpack = .finite .positive M E positive ∧
    2 ^ 52 ≤ M ∧ -52 ≤ E ∧ v = M * 2 ^ E

theorem Denotes.isInf (denotes : Denotes x v) : x.isInf = false := by
  obtain ⟨M, E, positive, finite, -⟩ := denotes
  change x.toModel.unpack.isInf = false
  rw [finite]
  rfl

theorem denotes_round (length : m.log2 = 52 + n) (least : -1074 ≤ e) (place : -52 ≤ e + n)
    (fits : (kept n m : ℚ) * 2 ^ (e + n) < 2 ^ 1024) :
    Denotes (.ofModel (.pack (roundWithAccuracy .binary64 .positive m e .exact)))
      (kept n m * 2 ^ (e + n)) := by
  obtain ⟨M, E, positive, rounded, low, high, beyond, value⟩ :=
    roundWithAccuracy_eq .positive length least
  rw [← value] at fits ⊢
  have small : E ≤ 971 := by
    by_contra large
    have digits : (2 : ℚ) ^ 52 ≤ M := by exact_mod_cast low
    have power : (2 : ℚ) ^ (972 : Int) ≤ 2 ^ E := zpow_le_zpow_right₀ (by norm_num) (by omega)
    have product := mul_le_mul digits power (by positivity) (by positivity)
    rw [← zpow_natCast, ← zpow_add₀ (by norm_num)] at product
    exact absurd fits (not_lt.mpr product)
  refine ⟨M, E, positive, ?_, low, by omega, rfl⟩
  rw [rounded]
  exact unpack_pack low high (by omega) small

/-- What is kept is at most half a unit more. -/
theorem kept_value_le (m n : Nat) (e : Int) :
    (kept n m : ℚ) * 2 ^ (e + n) ≤ (m + (2 ^ n / 2 : Nat)) * 2 ^ e := by
  have kept : (kept n m : ℚ) * 2 ^ n ≤ m + (2 ^ n / 2 : Nat) := by exact_mod_cast kept_mul_le n m
  rw [zpow_add₀ (by norm_num), zpow_natCast, mul_comm (2 ^ e : ℚ), ← mul_assoc]
  exact mul_le_mul_of_nonneg_right kept (by positivity)

/-- Half a unit of the digits that are kept of a number below a power of two. -/
theorem half_unit_le (length : m.log2 = 53 + n) (below : (m : ℚ) * 2 ^ e < 2 ^ 1024) :
    (2 : ℚ) ^ n * 2 ^ e ≤ 2 ^ 970 := by
  have nonzero : m ≠ 0 := ne_zero_of_log2_pos (by omega)
  have least : (2 : ℚ) ^ (53 + n) ≤ m := by
    rw [← length]
    exact_mod_cast Nat.log2_self_le nonzero
  have bound : (2 : ℚ) ^ (((53 + n : Nat) : Int) + e) < 2 ^ (1024 : Int) := by
    rw [zpow_add₀ (by norm_num), zpow_natCast]
    exact lt_of_le_of_lt (mul_le_mul_of_nonneg_right least (by positivity)) below
  have small := (zpow_lt_zpow_iff_right₀ (by norm_num)).mp bound
  rw [← zpow_natCast, ← zpow_add₀ (by norm_num), ← zpow_natCast]
  exact zpow_le_zpow_right₀ (by norm_num) (by omega)

/-- A product stays among the floats when it is less than the number half-way between the largest
one and the next power of two. -/
theorem Denotes.mul (left : Denotes x v) (right : Denotes y w) (fits : v * w < 2 ^ 1024 - 2 ^ 970) :
    ∃ u, Denotes (x * y) u := by
  obtain ⟨M₁, E₁, positive₁, finite₁, low₁, place₁, rfl⟩ := left
  obtain ⟨M₂, E₂, positive₂, finite₂, low₂, place₂, rfl⟩ := right
  have product : x * y =
      .ofModel (.pack (roundWithAccuracy .binary64 .positive (M₁ * M₂) (E₁ + E₂) .exact)) := by
    change Float.ofModel (.pack (UnpackedFloat.mul _ x.toModel.unpack y.toModel.unpack)) = _
    rw [finite₁, finite₂]
    rfl
  have nonzero : M₁ * M₂ ≠ 0 := Nat.ne_of_gt (Nat.mul_pos positive₁ positive₂)
  have long : 52 + 52 ≤ (M₁ * M₂).log2 := by
    rw [Nat.le_log2 nonzero, Nat.pow_add]
    exact Nat.mul_le_mul low₁ low₂
  obtain ⟨n, length⟩ := Nat.exists_eq_add_of_le (show 53 ≤ (M₁ * M₂).log2 by omega)
  have value : (M₁ * 2 ^ E₁ : ℚ) * (M₂ * 2 ^ E₂) = (M₁ * M₂ : Nat) * 2 ^ (E₁ + E₂) := by
    rw [zpow_add₀ (by norm_num)]
    push_cast
    ring
  rw [value] at fits
  have half : (2 : ℚ) ^ n * 2 ^ (E₁ + E₂) ≤ 2 ^ 970 :=
    half_unit_le length (lt_trans fits (sub_lt_self _ (by positivity)))
  refine ⟨_, product ▸ denotes_round (n := n + 1) (by omega) (by omega) (by omega) ?_⟩
  calc (kept (n + 1) (M₁ * M₂) : ℚ) * 2 ^ (E₁ + E₂ + (n + 1 : Nat))
      ≤ ((M₁ * M₂ : Nat) + (2 ^ (n + 1) / 2 : Nat)) * 2 ^ (E₁ + E₂) := kept_value_le _ _ _
    _ = (M₁ * M₂ : Nat) * 2 ^ (E₁ + E₂) + 2 ^ n * 2 ^ (E₁ + E₂) := by
      rw [Nat.pow_succ, Nat.mul_div_cancel _ (by decide), add_mul, Nat.cast_pow, Nat.cast_ofNat]
    _ < (2 ^ 1024 - 2 ^ 970) + 2 ^ 970 := add_lt_add_of_lt_of_le fits half
    _ = 2 ^ 1024 := sub_add_cancel _ _

end Denotes

section Integers

variable {n : Nat}

/-- A number with fewer than 53 binary digits is filled up with zeros. -/
theorem toFloat_eq_round (positive : 0 < n) (short : n < 2 ^ 64) :
    (UInt64.ofNat n).toFloat = .ofModel (.pack (roundWithAccuracy .binary64 .positive
      (n * 2 ^ (52 - n.log2)) (-(52 - n.log2 : Nat)) .exact)) := by
  have same : (UInt64.ofNat n).toNat = n := UInt64.toNat_ofNat_of_lt short
  have order : compare (n : Int) 0 = .gt := by
    rw [Int.compare_eq_gt]
    omega
  have amount : ((0 : Int) - max ((n.log2 + 1 + 0 : Int) - 53) (-1074)).toNat = 52 - n.log2 := by
    omega
  change Float.ofModel (.pack (normalize .binary64 ((UInt64.ofNat n).toNat : Int) 0 .positive)) = _
  rw [same, UnpackedFloat.normalize, order]
  change Float.ofModel (.pack (round .binary64 .positive n 0)) = _
  rw [UnpackedFloat.round, totalExponent, targetExponent_eq, decreaseExponent, amount,
    Nat.shiftLeft_eq, zero_sub]

/-- Up to 53 binary digits nothing is lost. -/
theorem denotes_toFloat (positive : 0 < n) (short : n < 2 ^ 53) :
    Denotes (UInt64.ofNat n).toFloat n := by
  have nonzero : n ≠ 0 := Nat.ne_of_gt positive
  have few : n.log2 < 53 := (Nat.log2_lt nonzero).mpr short
  obtain ⟨more, length⟩ := Nat.exists_eq_add_of_le (Nat.le_of_lt_succ few)
  have power : 0 < 2 ^ more := Nat.two_pow_pos more
  have full : (n * 2 ^ more).log2 = 52 + 0 := by
    refine (Nat.log2_eq_iff (Nat.ne_of_gt (Nat.mul_pos positive power))).mpr ⟨?_, ?_⟩
    · rw [Nat.add_zero, length, Nat.pow_add]
      exact Nat.mul_le_mul_right _ (Nat.log2_self_le nonzero)
    · rw [Nat.add_zero, length, Nat.add_right_comm, Nat.pow_add]
      exact Nat.mul_lt_mul_of_pos_right Nat.lt_log2_self power
  have value : (kept 0 (n * 2 ^ more) : ℚ) * 2 ^ (-(more : Int) + (0 : Nat)) = n := by
    rw [kept_zero, Nat.cast_zero, add_zero, zpow_neg, zpow_natCast]
    push_cast
    exact mul_inv_cancel_right₀ (by positivity) _
  rw [toFloat_eq_round positive (Nat.lt_trans short (by decide)),
    show 52 - n.log2 = more by omega, ← value]
  refine denotes_round full (by omega) (by omega) ?_
  rw [value]
  calc (n : ℚ) < 2 ^ 53 := by exact_mod_cast short
    _ ≤ 2 ^ 1024 := pow_le_pow_right₀ (by norm_num) (by norm_num)

/-- Of more binary digits the last ones are rounded, and the result is even. -/
theorem exists_denotes_toFloat (large : 2 ^ 53 ≤ n) (short : n < 2 ^ 64) :
    ∃ v : Nat, Denotes (UInt64.ofNat n).toFloat v ∧ v ≤ n + n / 2 ^ 53 ∧ v % 2 = 0 := by
  have positive : 0 < n := Nat.lt_of_lt_of_le (by decide) large
  have nonzero : n ≠ 0 := Nat.ne_of_gt positive
  have many : 53 ≤ n.log2 := (Nat.le_log2 nonzero).mpr large
  have few : n.log2 < 64 := (Nat.log2_lt nonzero).mpr short
  obtain ⟨less, length⟩ := Nat.exists_eq_add_of_le many
  have bound := kept_mul_le_of_log2 length
  refine ⟨kept (less + 1) n * 2 ^ (less + 1), ?_, bound, ?_⟩
  · have value : ((kept (less + 1) n * 2 ^ (less + 1) : Nat) : ℚ) =
        kept (less + 1) n * 2 ^ (-((0 : Nat) : Int) + (less + 1 : Nat)) := by
      rw [Nat.cast_zero, neg_zero, zero_add, zpow_natCast]
      push_cast
      rfl
    rw [toFloat_eq_round positive short, show 52 - n.log2 = 0 by omega, pow_zero, mul_one, value]
    refine denotes_round (by omega) (by omega) (by omega) ?_
    rw [← value]
    calc ((kept (less + 1) n * 2 ^ (less + 1) : Nat) : ℚ) < (2 ^ 65 : Nat) := by
          exact_mod_cast Nat.lt_of_le_of_lt bound (by omega)
      _ ≤ 2 ^ 1024 := by
          rw [Nat.cast_pow]
          exact pow_le_pow_right₀ (by norm_num) (by norm_num)
  · rw [Nat.pow_succ, ← Nat.mul_assoc]
    exact Nat.mul_mod_left _ 2

end Integers

section Powers

variable {k : Nat}

theorem ofScientific_eq_round (large : 22 < k) (small : k ≤ 308) :
    Float.ofScientific 1 false k = .ofModel
      (.pack (roundWithAccuracy .binary64 .positive (2 ^ 53 * 10 ^ k) (-53) .exact)) := by
  have notHuge : ¬(2048 : Int) < k := by omega
  have notTiny : ¬(k : Int) < -(2048 + (0 : Nat)) := by omega
  rw [Float.ofScientific, dif_neg (by omega)]
  refine congrArg (fun f => Float.ofModel (.pack f)) (?_ : UnpackedFloat.ofScientific _ 1 _ = _)
  rw [UnpackedFloat.ofScientific, dif_neg (by decide)]
  exact (if_neg notHuge).trans ((if_neg notTiny).trans (if_pos (Int.natCast_nonneg k)))

/-- Up to this one all powers of ten are floats. -/
theorem unpack_power : ∀ k < 23, (match (Float.ofScientific 1 false k).toModel.unpack with
    | .finite .positive M E _ =>
      decide (2 ^ 52 ≤ M ∧ -52 ≤ E ∧ M * 2 ^ (E + 52).toNat = 10 ^ k * 2 ^ 52)
    | _ => false) = true := by
  decide +kernel

theorem denotes_power (small : k < 23) : Denotes (Float.ofScientific 1 false k) (10 ^ k) := by
  have unpacked := unpack_power k small
  split at unpacked
  · next M E positive finite =>
      obtain ⟨low, place, value⟩ := of_decide_eq_true unpacked
      refine ⟨M, E, positive, finite, low, place, ?_⟩
      have cast : (M : ℚ) * 2 ^ (E + 52) = 10 ^ k * 2 ^ 52 := by
        rw [← Int.toNat_of_nonneg (show 0 ≤ E + 52 by omega), zpow_natCast]
        exact_mod_cast value
      rw [zpow_add₀ (by norm_num), ← mul_assoc] at cast
      exact (mul_right_cancel₀ (by norm_num) cast).symm
  · cases unpacked

/-- Any other one is rounded by at most half a unit. -/
theorem exists_denotes_power (large : 22 < k) (small : k ≤ 308) :
    ∃ w, Denotes (Float.ofScientific 1 false k) w ∧ w * 2 ^ 53 ≤ 10 ^ k * (2 ^ 53 + 1) := by
  have nonzero : 2 ^ 53 * 10 ^ k ≠ 0 := by positivity
  have long : 53 ≤ (2 ^ 53 * 10 ^ k).log2 :=
    (Nat.le_log2 nonzero).mpr (Nat.le_mul_of_pos_right _ (by positivity))
  obtain ⟨n, length⟩ := Nat.exists_eq_add_of_le long
  have value : (kept (n + 1) (2 ^ 53 * 10 ^ k) : ℚ) * 2 ^ (-53 + (n + 1 : Nat) : Int) * 2 ^ 53 =
      (kept (n + 1) (2 ^ 53 * 10 ^ k) * 2 ^ (n + 1) : Nat) := by
    rw [zpow_add₀ (by norm_num), zpow_natCast]
    push_cast
    ring
  have bound := kept_mul_le_of_log2 length
  rw [Nat.mul_div_cancel_left _ (by decide), show 2 ^ 53 * 10 ^ k + 10 ^ k =
    10 ^ k * (2 ^ 53 + 1) by ring] at bound
  have fits : (kept (n + 1) (2 ^ 53 * 10 ^ k) : ℚ) * 2 ^ (-53 + (n + 1 : Nat) : Int) <
      2 ^ 1024 := by
    have power : 10 ^ k * (2 ^ 53 + 1) < 2 ^ 1024 * 2 ^ 53 :=
      Nat.lt_of_le_of_lt (Nat.mul_le_mul_right _ (Nat.pow_le_pow_right (by decide) small))
        (by decide +kernel)
    rw [← mul_lt_mul_iff_left₀ (show (0 : ℚ) < 2 ^ 53 by positivity), value]
    exact_mod_cast Nat.lt_of_le_of_lt bound power
  refine ⟨_, ?_, by rw [value]; exact_mod_cast bound⟩
  rw [ofScientific_eq_round large small]
  exact denotes_round (by omega) (by decide) (by omega) fits

theorem exists_denotes_power_le (small : k ≤ 308) :
    ∃ w, Denotes (Float.ofScientific 1 false k) w ∧ w * 2 ^ 53 ≤ 10 ^ k * (2 ^ 53 + 1) := by
  rcases Nat.lt_or_ge 22 k with large | short
  · exact exists_denotes_power large small
  · have power : (0 : ℚ) < 10 ^ k := by positivity
    exact ⟨_, denotes_power (by omega), by linarith⟩

end Powers

section Products

variable {n k : Nat}

/-- Half-way between the two largest floats. -/
def nearLargest : Nat := 2 ^ 1024 - 3 * 2 ^ 970

theorem exponent_le_of_fits (positive : 0 < n) (fits : n * 10 ^ k ≤ nearLargest) : k ≤ 308 := by
  by_contra large
  have beyond : 309 ≤ k := Nat.lt_of_not_le large
  have power : 10 ^ 309 ≤ 10 ^ k := pow_le_pow_right₀ (by norm_num) beyond
  have product : 10 ^ k ≤ n * 10 ^ k := Nat.le_mul_of_pos_left _ positive
  exact absurd (Nat.le_trans power (Nat.le_trans product fits)) (by decide +kernel)

/-- If the number is rounded at all, it is too short for the last powers of ten. -/
theorem rounded_fits {v : Nat} (large : 2 ^ 53 ≤ n) (short : n ≤ 10 ^ 17)
    (fits : n * 10 ^ k ≤ nearLargest) (near : v ≤ n + n / 2 ^ 53) (even : v % 2 = 0) :
    v * 10 ^ k * (2 ^ 53 + 1) + 2 ^ 970 * 2 ^ 53 < 2 ^ 1024 * 2 ^ 53 := by
  have most : k ≤ 292 := by
    by_contra beyond
    have later : 293 ≤ k := Nat.lt_of_not_le beyond
    have power : 10 ^ 293 ≤ 10 ^ k := pow_le_pow_right₀ (by norm_num) later
    exact absurd (Nat.le_trans (Nat.mul_le_mul large power) fits) (by decide +kernel)
  have room {limit : Nat} (bound : v * 10 ^ k ≤ limit)
      (below : limit * (2 ^ 53 + 1) + 2 ^ 970 * 2 ^ 53 < 2 ^ 1024 * 2 ^ 53) :
      v * 10 ^ k * (2 ^ 53 + 1) + 2 ^ 970 * 2 ^ 53 < 2 ^ 1024 * 2 ^ 53 :=
    Nat.lt_of_le_of_lt (Nat.add_le_add_right (Nat.mul_le_mul_right _ bound) _) below
  rcases Nat.lt_or_eq_of_le most with below | rfl
  · have digits : v ≤ 10 ^ 17 + 11 := by omega
    have power : 10 ^ k ≤ 10 ^ 291 := pow_le_pow_right₀ (by norm_num) (Nat.le_of_lt_succ below)
    exact room (Nat.mul_le_mul digits power) (by decide +kernel)
  · have digits : n ≤ nearLargest / 10 ^ 292 := (Nat.le_div_iff_mul_le (by positivity)).mpr fits
    have value : nearLargest / 10 ^ 292 = 17976931348623156 := by decide +kernel
    have bound : v ≤ 17976931348623156 := by omega
    exact room (Nat.mul_le_mul_right _ bound) (by decide +kernel)

/-- A number of seventeen digits times a power of ten does not get beyond the largest float, unless
it is that float itself or greater. -/
theorem isInf_mul_power (positive : 0 < n) (short : n ≤ 10 ^ 17)
    (fits : n * 10 ^ k ≤ nearLargest) :
    ((UInt64.ofNat n).toFloat * Float.ofScientific 1 false k).isInf = false := by
  obtain ⟨w, right, above⟩ := exists_denotes_power_le (exponent_le_of_fits positive fits)
  obtain ⟨v, left, room⟩ : ∃ v : Nat, Denotes (UInt64.ofNat n).toFloat v ∧
      v * 10 ^ k * (2 ^ 53 + 1) + 2 ^ 970 * 2 ^ 53 < 2 ^ 1024 * 2 ^ 53 := by
    rcases Nat.lt_or_ge n (2 ^ 53) with few | many
    · exact ⟨n, denotes_toFloat positive few, Nat.lt_of_le_of_lt
        (Nat.add_le_add_right (Nat.mul_le_mul_right _ fits) _) (by decide +kernel)⟩
    · obtain ⟨v, denotes, near, even⟩ :=
        exists_denotes_toFloat many (Nat.lt_of_le_of_lt short (by decide))
      exact ⟨v, denotes, rounded_fits many short fits near even⟩
  have below : (v : ℚ) * w < 2 ^ 1024 - 2 ^ 970 := by
    have cast : (v : ℚ) * 10 ^ k * (2 ^ 53 + 1) + 2 ^ 970 * 2 ^ 53 < 2 ^ 1024 * 2 ^ 53 := by
      exact_mod_cast room
    have product : (v : ℚ) * (w * 2 ^ 53) ≤ v * (10 ^ k * (2 ^ 53 + 1)) :=
      mul_le_mul_of_nonneg_left above (Nat.cast_nonneg v)
    rw [← mul_assoc, ← mul_assoc] at product
    have unit : (0 : ℚ) < 2 ^ 53 := by positivity
    rw [lt_sub_iff_add_lt, ← mul_lt_mul_iff_left₀ unit, add_mul]
    exact lt_of_le_of_lt (add_le_add_left product _) cast
  obtain ⟨u, product⟩ := left.mul right below
  exact product.isInf

end Products

end WalletSync.Decimal
