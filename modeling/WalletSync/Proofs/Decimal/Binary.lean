import Mathlib
import WalletSync.Proofs.Decimal.Shortest

/-!
The sizes of floats, as they follow from the bits that represent them.
-/

namespace WalletSync.Decimal

open Float.Model UnpackedFloat

variable {x : Float}

/-- The biased exponent. -/
def scale (x : Float) : Nat := (x.toBits.toNat >>> 52) % (1 <<< 11)

theorem toNat_unpackExponent (x : Float) :
    (@unpackExponent .binary64 x.toModel.toBits.toBitVec).toNat = scale x := by
  simp [unpackExponent, scale]
  rfl

theorem scale_lt_of_isFinite (finite : x.isFinite = true) : scale x < 2047 := by
  have bound : scale x < 2048 := Nat.mod_lt _ (by decide)
  refine Nat.lt_of_le_of_ne (Nat.le_of_lt_succ bound) fun last => ?_
  have ones : @unpackExponent .binary64 x.toModel.toBits.toBitVec = -1#11 :=
    BitVec.eq_of_toNat_eq ((toNat_unpackExponent x).trans last)
  have infinite : x.toModel.unpack.isFinite = false := by
    rw [Float.Model.unpack, UnpackedFloat.unpack, if_pos ones]
    split <;> rfl
  exact absurd (infinite.symm.trans finite) (by decide)

theorem exponent_ofFloat_le (finite : x.isFinite = true) : (Binary.ofFloat x).exponent ≤ 971 := by
  have bound := scale_lt_of_isFinite finite
  unfold scale at bound
  unfold Binary.ofFloat Binary.ofBits
  dsimp only
  split
  · exact (by decide : (-1074 : Int) ≤ 971)
  · dsimp only
    omega

theorem isNormal_ofFloat (nonzero : (Binary.ofFloat x).significand ≠ 0) :
    (Binary.ofFloat x).IsNormal := by
  have short : x.toBits.toNat % (1 <<< 52) < 1 <<< 52 := Nat.mod_lt _ (by decide)
  refine ⟨Nat.pos_of_ne_zero nonzero, ?_, ?_⟩
  · unfold Binary.ofFloat Binary.ofBits
    dsimp only
    split
    · exact Nat.lt_trans short (by decide)
    · dsimp only
      omega
  · unfold Binary.ofFloat Binary.ofBits
    dsimp only
    split
    · nofun
    · intro narrow
      dsimp only at narrow ⊢
      have := of_decide_eq_true (Bool.and_eq_true_iff.mp narrow).1
      omega

/-- Neither of the zeros has a digit. -/
theorem significand_ofFloat_of_zero (zero : (x != 0) = false) :
    (Binary.ofFloat x).significand = 0 := by
  rw [bne, Bool.not_eq_false'] at zero
  obtain ⟨-, -, rfl | ⟨rfl, -⟩ | ⟨rfl, -⟩⟩ := Float.beq_iff_ne_nan_and_eq.mp zero
  all_goals decide +kernel

end WalletSync.Decimal
