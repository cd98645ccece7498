import WalletSync.Text.Digits

/-!
Numbers in base ten: the text of a number is a run of digits with no zero in front. Zeros in front
do not change the number, and fill the text up to a width that the number does not exceed.
-/

namespace WalletSync.Text

variable {n : Nat}

theorem digits_ne_nil : digits n ≠ [] := Nat.toDigits_ne_nil

theorem isDigit_of_mem_digits {c : Char} (h : c ∈ digits n) : c.isDigit = true :=
  Nat.isDigit_of_mem_toDigits (by decide) (by decide) h

theorem head?_digits (positive : 0 < n) : (digits n).head? ≠ some '0' := by
  induction n using Nat.strongRecOn with
  | ind n ih =>
      unfold digits
      by_cases small : n < 10
      · rw [Nat.toDigits_of_lt_base small, List.head?_cons]
        have nonzero : ∀ d < 10, 0 < d → some (Nat.digitChar d) ≠ some '0' := by decide
        exact nonzero n small positive
      · rw [Nat.toDigits_of_base_le (by decide) (Nat.le_of_not_lt small), List.head?_append,
          Option.or_of_isSome (List.isSome_head?.mpr Nat.toDigits_ne_nil)]
        exact ih (n / 10) (by omega) (by omega)

section Padded

variable {width : Nat}

theorem paddedDigits_zero (n : Nat) : paddedDigits 0 n = digits n := by
  rw [paddedDigits, Nat.zero_sub, List.replicate_zero, List.nil_append]

theorem paddedDigits_ne_nil : paddedDigits width n ≠ [] :=
  List.append_ne_nil_of_right_ne_nil _ digits_ne_nil

theorem isDigit_of_mem_paddedDigits {c : Char} (h : c ∈ paddedDigits width n) :
    c.isDigit = true := by
  rcases List.mem_append.mp h with zero | digit
  · rw [List.eq_of_mem_replicate zero]
    rfl
  · exact isDigit_of_mem_digits digit

theorem ofDigits_paddedDigits : ofDigits (paddedDigits width n) = n := by
  rw [ofDigits, paddedDigits, Nat.ofDigitChars_append, Nat.ofDigitChars_replicate_zero,
    Nat.mul_zero]
  exact ofDigits_digits n

theorem length_paddedDigits (wide : 0 < width) (small : n < Nat.pow 10 width) :
    (paddedDigits width n).length = width := by
  have short : (digits n).length ≤ width := (Nat.length_toDigits_le_iff (by decide) wide).mpr small
  rw [paddedDigits, List.length_append, List.length_replicate]
  omega

end Padded

theorem number?_eq_some_iff {run : List Char} :
    number? run = some n ↔ run ≠ [] ∧ (∀ c ∈ run, c.isDigit = true) ∧ ofDigits run = n := by
  rw [number?, Option.ite_none_right_eq_some, Bool.and_eq_true, decide_eq_true_eq,
    List.all_eq_true, Option.some.injEq, and_assoc]

end WalletSync.Text
