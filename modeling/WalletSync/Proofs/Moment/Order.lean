import WalletSync.Moment.Basic

/-!
Moments are totally ordered, the earlier of two is a lower bound of both, and a millisecond later
is no earlier unless the moment lies in the very last leap second. Only the order is treated here;
how far apart two moments are, and their text, are separate matters.
-/

namespace WalletSync.Moment

theorem le_refl (a : Moment) : a ≤ a := by
  rw [le_def]
  omega

theorem le_trans {a b c : Moment} (hab : a ≤ b) (hbc : b ≤ c) : a ≤ c := by
  rw [le_def] at *
  omega

theorem le_total (a b : Moment) : a ≤ b ∨ b ≤ a := by
  simp only [le_def]
  omega

theorem le_antisymm {a b : Moment} (hab : a ≤ b) (hba : b ≤ a) : a = b := by
  rw [le_def] at *
  exact Moment.ext (by omega) (by omega)

theorem le_of_lt {a b : Moment} (h : a < b) : a ≤ b := by
  rw [lt_def] at h
  rw [le_def]
  omega

theorem le_of_not_lt {a b : Moment} (h : ¬ b < a) : a ≤ b := by
  rw [lt_def] at h
  rw [le_def]
  omega

theorem earlier_le_left (a b : Moment) : earlier a b ≤ a := by
  unfold earlier
  split
  · next h => exact le_of_lt h
  · exact le_refl a

theorem earlier_le_right (a b : Moment) : earlier a b ≤ b := by
  unfold earlier
  split
  · exact le_refl b
  · next h => exact le_of_not_lt h

theorem earlier_eq_or (a b : Moment) : earlier a b = a ∨ earlier a b = b := by
  unfold earlier
  split
  · exact .inr rfl
  · exact .inl rfl

theorem second_nano_of? {second : Int} {nano : Nat} {m : Moment} (made : of? second nano = some m) :
    m.second = second ∧ m.nano = nano := by
  unfold of? at made
  split at made
  · cases made
    exact ⟨rfl, rfl⟩
  · cases made

/-- At the end of the range the step leads to the latest moment, wherever it started. -/
theorem le_nextMilli {m : Moment} (early : m ≤ latest) : m ≤ m.nextMilli := by
  have reach (second : Int) (nano : Nat)
      (later : m.second < second ∨ m.second = second ∧ m.nano ≤ nano) :
      m ≤ (of? second nano).getD latest := by
    cases made : of? second nano with
    | none => exact early
    | some next =>
        obtain ⟨rfl, rfl⟩ := second_nano_of? made
        exact le_def.mpr later
  rw [nextMilli]
  generalize (if m.nano < 1000000000 then 1000000000 else 2000000000) = full
  split
  · exact reach _ _ (.inr ⟨rfl, Nat.le_add_right _ _⟩)
  · exact reach _ _ (.inl (Int.lt_succ _))

end WalletSync.Moment
