import WalletSync.Amount
import WalletSync.Proofs.Text.Blank

/-!
The texts that are read as amounts: a run of ASCII digits, of any length and with any zeros in
front, between white space, as long as its value is below 2^256. No text is read as two amounts.
-/

namespace WalletSync.Amount

open Text

/-- The text is the amount in base ten: a run of digits with nothing but white space around it. -/
def IsText (amount : Amount) (text : String) : Prop :=
  ∃ before run after, text.toList = before ++ run ++ after ∧
    (∀ c ∈ before, isBlank c = true) ∧ (∀ c ∈ after, isBlank c = true) ∧
    run ≠ [] ∧ (∀ c ∈ run, c.isDigit = true) ∧ ofDigits run = amount.val

variable {amount other : Amount} {text : String}

theorem read?_eq_some_iff : read? text = some amount ↔ amount.IsText text := by
  simp only [read?, Option.bind_eq_bind, Option.bind_eq_some_iff, number?_eq_some_iff,
    Word.ofNat?_eq_some_iff]
  constructor
  · rintro ⟨n, ⟨given, digits, value⟩, same⟩
    obtain ⟨before, after, parts, leading, trailing⟩ := exists_trim text.toList
    exact ⟨before, _, after, parts, leading, trailing, given, digits, value.trans same.symm⟩
  · rintro ⟨before, run, after, parts, leading, trailing, given, digits, value⟩
    rw [parts, trim_digits_among digits given leading trailing]
    exact ⟨_, ⟨given, digits, value⟩, rfl⟩

theorem IsText.unique (first : amount.IsText text) (second : other.IsText text) :
    amount = other :=
  Option.some.inj ((read?_eq_some_iff.mpr first).symm.trans (read?_eq_some_iff.mpr second))

end WalletSync.Amount
