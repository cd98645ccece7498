import Mathlib.Data.Nat.Digits.Defs
import WalletSync.Proofs.Json.Values

/-!
Amounts are read from numerals: runs of ASCII digits of any length, with white space of any kind
around them and nothing else. The digits count by their places, so zeros in front are allowed, and
a numeral that is read is read as the number it stands for. Only numbers of 256 binary digits are
amounts; a larger one is refused and not cut off.
-/

namespace WalletSync

namespace Text

/-- What a digit counts for. -/
def digitValue (c : Char) : Nat := c.toNat - '0'.toNat

/-- The text stands for the number in base ten: between white space there are only digits, and the
last of them counts once, the one before it ten times, and so on. -/
def IsNumeral (n : Nat) (text : String) : Prop :=
  ∃ before run after, text.toList = before ++ run ++ after ∧
    (∀ c ∈ before, isBlank c = true) ∧ (∀ c ∈ after, isBlank c = true) ∧
    run ≠ [] ∧ (∀ c ∈ run, c.isDigit = true) ∧ Nat.ofDigits 10 (run.reverse.map digitValue) = n

/-- Reading from the front, ten times what was read so far at each digit, comes to what the digits
count for at their places. -/
theorem ofDigits_eq (run : List Char) :
    ofDigits run = Nat.ofDigits 10 (run.reverse.map digitValue) := by
  rw [Nat.ofDigits_eq_foldr, List.foldr_map, List.foldr_reverse, ofDigits,
    Nat.ofDigitChars_eq_foldl]
  congr 1
  funext done c
  exact Nat.add_comm _ _

theorem decimal_eq (n : Nat) : decimal n = toString n := rfl

end Text

namespace Amount

open Text

variable {amount : Amount} {text : String}

theorem read?_eq_some_iff_isNumeral : read? text = some amount ↔ IsNumeral amount.val text := by
  simp only [read?_eq_some_iff, IsText, IsNumeral, ofDigits_eq]

theorem lt_two_pow (amount : Amount) : amount.val < 2 ^ 256 := by
  have below := amount.val_lt
  rwa [Nat.one_shiftLeft] at below

theorem exists_of_lt {n : Nat} (below : n < 2 ^ 256) : ∃ amount : Amount, amount.val = n :=
  ⟨⟨n, by rwa [Nat.one_shiftLeft]⟩, rfl⟩

/-- A text is read as a number below 2^256 when it is a numeral of that number, and only then. What
is refused is no numeral at all or one of a larger number. The text of an amount is its number in
base ten, and is read as the amount. -/
theorem numerals_are_read (text : String) :
    (∀ n, (read? text).map (·.val) = some n ↔ n < 2 ^ 256 ∧ IsNumeral n text) ∧
      (read? text = none ↔ ∀ n, IsNumeral n text → 2 ^ 256 ≤ n) ∧
      ∀ amount : Amount, amount.text = toString amount.val ∧ read? amount.text = some amount := by
  refine ⟨fun n => ?_, ⟨fun unread n numeral => ?_, fun large => ?_⟩, fun amount => ?_⟩
  · rw [Option.map_eq_some_iff]
    constructor
    · rintro ⟨amount, read, rfl⟩
      exact ⟨amount.lt_two_pow, read?_eq_some_iff_isNumeral.mp read⟩
    · rintro ⟨below, numeral⟩
      obtain ⟨amount, rfl⟩ := exists_of_lt below
      exact ⟨amount, read?_eq_some_iff_isNumeral.mpr numeral, rfl⟩
  · refine Nat.le_of_not_lt fun below => ?_
    obtain ⟨amount, rfl⟩ := exists_of_lt below
    rw [read?_eq_some_iff_isNumeral.mpr numeral] at unread
    cases unread
  · refine Option.eq_none_iff_forall_ne_some.mpr fun amount read => ?_
    exact Nat.not_le_of_lt amount.lt_two_pow (large _ (read?_eq_some_iff_isNumeral.mp read))
  · exact ⟨decimal_eq _, amount.read?_text⟩

/-- An em space and a no-break space are white space, and an Arabic digit is none of the ASCII
digits. -/
example : (read? "\u2003007\u00a0").map (·.val) = some 7 ∧ read? "\u0667" = none := by
  decide +kernel

end Amount

end WalletSync
