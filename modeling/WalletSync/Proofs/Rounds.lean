import Mathlib.Order.Bounds.Defs

/-!
Where a loop ends that goes on until something holds, but not beyond a last round. The round that
ends it is the least one of those that may, and it is found by looking at one round after the other.
-/

namespace WalletSync.Rounds

/-- Where a loop may end that has come to the round `start`. -/
def ends (Stop : Nat → Prop) (last start : Nat) : Set Nat :=
  {n | start ≤ n ∧ (n = last ∨ Stop n)}

variable {Stop : Nat → Prop} {last start most n : Nat}

theorem ends_zero : ends Stop last 0 = {n | n = last ∨ Stop n} := by
  ext n
  simp [ends]

theorem isLeast_start (stops : start = last ∨ Stop start) :
    IsLeast (ends Stop last start) start :=
  ⟨⟨Nat.le_refl start, stops⟩, fun _ among => among.1⟩

theorem isLeast_of_succ (unfinished : start ≠ last) (goesOn : ¬Stop start)
    (least : IsLeast (ends Stop last (start + 1)) n) : IsLeast (ends Stop last start) n := by
  refine ⟨⟨Nat.le_of_succ_le least.1.1, least.1.2⟩, ?_⟩
  rintro m ⟨reached, stops⟩
  rcases Nat.lt_or_eq_of_le reached with later | rfl
  · exact least.2 ⟨later, stops⟩
  · rcases stops with done | stop
    · exact absurd done unfinished
    · exact absurd stop goesOn

/-- A loop that is cut off ends where it is cut off, unless it has ended before. -/
theorem isLeast_min (least : IsLeast (ends Stop last 0) n) :
    IsLeast (ends Stop (min most last) 0) (min most n) := by
  have within : n ≤ last := least.2 ⟨Nat.zero_le last, .inl rfl⟩
  constructor
  · refine ⟨Nat.zero_le _, ?_⟩
    rcases Nat.lt_or_ge most n with cut | whole
    · left
      omega
    · rw [Nat.min_eq_right whole]
      rcases least.1.2 with rfl | stop
      · exact .inl (Nat.min_eq_right whole).symm
      · exact .inr stop
  · rintro m ⟨-, rfl | stop⟩
    · omega
    · have := least.2 ⟨Nat.zero_le m, .inr stop⟩
      omega

end WalletSync.Rounds
