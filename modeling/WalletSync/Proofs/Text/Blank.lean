import WalletSync.Proofs.Text.Digits
import WalletSync.Text.Blank

/-!
White space is taken off both ends of a text as long as there is any, and no further. Digits are
visible, so of a number in base ten with white space around it the number is left.
-/

namespace WalletSync.Text

variable {c : Char} {run : List Char}

theorem isBlank_of_isDigit (digit : c.isDigit = true) : isBlank c = false := by
  simp only [Char.isDigit, Bool.and_eq_true, decide_eq_true_eq, ge_iff_le,
    UInt32.le_iff_toNat_le] at digit
  have low : 48 ≤ c.toNat := digit.1
  have high : c.toNat ≤ 57 := digit.2
  simp only [isBlank, Bool.or_eq_false_iff, Bool.and_eq_false_iff, decide_eq_false_iff_not,
    beq_eq_false_iff_ne]
  omega

theorem trimStart_cons (visible : isBlank c = false) (rest : List Char) :
    trimStart (c :: rest) = c :: rest := by
  simp [trimStart, visible]

theorem trimStart_digits_append (digits : ∀ c ∈ run, c.isDigit = true) (given : run ≠ [])
    (rest : List Char) : trimStart (run ++ rest) = run ++ rest := by
  cases run with
  | nil => exact absurd rfl given
  | cons c run => exact trimStart_cons (isBlank_of_isDigit (digits c List.mem_cons_self)) _

theorem trimStart_append {blanks : List Char} (invisible : ∀ c ∈ blanks, isBlank c = true)
    (rest : List Char) : trimStart (blanks ++ rest) = trimStart rest :=
  List.dropWhile_append_of_pos invisible

theorem exists_trimStart (cs : List Char) :
    ∃ blanks, cs = blanks ++ trimStart cs ∧ ∀ c ∈ blanks, isBlank c = true :=
  ⟨cs.takeWhile isBlank, List.takeWhile_append_dropWhile.symm,
    List.all_eq_true.mp List.all_takeWhile⟩

theorem exists_trim (cs : List Char) :
    ∃ before after, cs = before ++ trim cs ++ after ∧ (∀ c ∈ before, isBlank c = true) ∧
      ∀ c ∈ after, isBlank c = true := by
  obtain ⟨before, front, leading⟩ := exists_trimStart cs
  obtain ⟨after, back, trailing⟩ := exists_trimStart (trimStart cs).reverse
  refine ⟨before, after.reverse, ?_, leading, fun c hc => trailing c (List.mem_reverse.mp hc)⟩
  rw [List.append_assoc, trim, ← List.reverse_append, ← back, List.reverse_reverse]
  exact front

theorem trim_digits_among {before after : List Char} (digits : ∀ c ∈ run, c.isDigit = true)
    (given : run ≠ []) (leading : ∀ c ∈ before, isBlank c = true)
    (trailing : ∀ c ∈ after, isBlank c = true) : trim (before ++ run ++ after) = run := by
  have front : trimStart (before ++ run ++ after) = run ++ after := by
    rw [List.append_assoc, trimStart_append leading, trimStart_digits_append digits given]
  have visible : ∀ c ∈ run.reverse, c.isDigit = true :=
    fun c hc => digits c (List.mem_reverse.mp hc)
  have back : trimStart (run ++ after).reverse = run.reverse := by
    have invisible : ∀ c ∈ after.reverse, isBlank c = true :=
      fun c hc => trailing c (List.mem_reverse.mp hc)
    have kept := trimStart_digits_append visible (mt List.reverse_eq_nil_iff.mp given) []
    rw [List.append_nil] at kept
    rw [List.reverse_append, trimStart_append invisible, kept]
  rw [trim, front, back, List.reverse_reverse]

end WalletSync.Text
