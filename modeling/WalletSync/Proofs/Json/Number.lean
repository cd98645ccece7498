import WalletSync.Json.Number
import WalletSync.Json.Writer
import WalletSync.Proofs.Decimal.Binary
import WalletSync.Proofs.Decimal.Rounding
import WalletSync.Proofs.Text.Digits

/-!
Numbers in JSON text. The parts of a number are found again in its text, so an integer is read as
itself. A float is read as a float, though not always as the same one, as reading rounds twice. It
is close at the upper end: hardly a number above the largest float is read at all.
-/

namespace WalletSync.Json

open Text Decimal

section Lexemes

/-- A point and what stands after it. -/
def fractionText (fraction : List Char) : List Char :=
  if fraction = [] then [] else '.' :: fraction

def exponentText : Option (Bool × List Char) → List Char
  | none => []
  | some (isNegative, run) => 'e' :: (if isNegative then '-' else '+') :: run

def Lexeme.text (lexeme : Lexeme) : List Char :=
  (if lexeme.isNegative then ['-'] else []) ++ lexeme.whole ++ fractionText lexeme.fraction ++
    exponentText lexeme.exponent

def IsRun (run : List Char) : Prop := ∀ c ∈ run, c.isDigit = true

/-- The parts are runs of digits, and there are no zeros in front. -/
structure Lexeme.IsProper (lexeme : Lexeme) : Prop where
  whole : IsRun lexeme.whole
  given : lexeme.whole ≠ []
  leading : lexeme.whole.head? = some '0' → lexeme.whole = ['0']
  fraction : IsRun lexeme.fraction
  exponent : ∀ part ∈ lexeme.exponent, part.2 ≠ [] ∧ IsRun part.2

/-- Nothing that follows can be taken for a further part of a number. -/
def EndsNumber (rest : List Char) : Prop :=
  ∀ c ∈ rest.head?, c.isDigit = false ∧ c ≠ '.' ∧ c ≠ 'e' ∧ c ≠ 'E'

variable {lexeme : Lexeme} {run rest : List Char}

theorem spanDigits_append (all : IsRun run) (ends : ∀ c ∈ rest.head?, c.isDigit = false) :
    spanDigits (run ++ rest) = (run, rest) := by
  rw [spanDigits, List.takeWhile_append_of_pos all, List.dropWhile_append_of_pos all]
  cases rest with
  | nil => simp
  | cons c rest => simp [ends c rfl]

theorem lexExponent_append {exponent : Option (Bool × List Char)}
    (proper : ∀ part ∈ exponent, part.2 ≠ [] ∧ IsRun part.2) (ends : EndsNumber rest) :
    lexExponent (exponentText exponent ++ rest) = some (exponent, rest) := by
  cases exponent with
  | none =>
      change lexExponent rest = _
      unfold lexExponent
      split
      · exact absurd rfl (ends 'e' rfl).2.2.1
      · exact absurd rfl (ends 'E' rfl).2.2.2
      · rfl
  | some part =>
      obtain ⟨isNegative, run⟩ := part
      obtain ⟨given, all⟩ := proper _ rfl
      have span : spanDigits (run ++ rest) = (run, rest) :=
        spanDigits_append all fun c first => (ends c first).1
      cases isNegative <;> simp_all [lexExponent, exponentText]

theorem exponentText_ends (exponent : Option (Bool × List Char)) (ends : EndsNumber rest) :
    ∀ c ∈ (exponentText exponent ++ rest).head?, c.isDigit = false ∧ c ≠ '.' := by
  cases exponent with
  | none => exact fun c first => ⟨(ends c first).1, (ends c first).2.1⟩
  | some part =>
      rintro c first
      obtain rfl := Option.some.inj first
      decide

theorem lexFraction_append {fraction : List Char} (all : IsRun fraction)
    (ends : ∀ c ∈ rest.head?, c.isDigit = false ∧ c ≠ '.') :
    lexFraction (fractionText fraction ++ rest) = some (fraction, rest) := by
  by_cases empty : fraction = []
  · subst empty
    change lexFraction rest = _
    unfold lexFraction
    split
    · exact absurd rfl (ends '.' rfl).2
    · rfl
  · have span : spanDigits (fraction ++ rest) = (fraction, rest) :=
      spanDigits_append all fun c first => (ends c first).1
    simp [lexFraction, fractionText, empty, span]

theorem fractionText_ends {fraction : List Char}
    (ends : ∀ c ∈ rest.head?, c.isDigit = false ∧ c ≠ '.') :
    ∀ c ∈ (fractionText fraction ++ rest).head?, c.isDigit = false := by
  unfold fractionText
  split
  · exact fun c first => (ends c first).1
  · rintro c first
    obtain rfl := Option.some.inj first
    decide

/-- The parts of a number are found again, whatever stands after it. -/
theorem lexNumber_text (proper : lexeme.IsProper) (ends : EndsNumber rest) :
    lexNumber (lexeme.text ++ rest) = some (lexeme, rest) := by
  obtain ⟨isNegative, whole, fraction, exponent⟩ := lexeme
  obtain ⟨isRun, given, leading, fractionRun, exponentRun⟩ := proper
  dsimp only at isRun given leading fractionRun exponentRun
  have afterFraction := exponentText_ends exponent ends
  have span : spanDigits (whole ++ (fractionText fraction ++ (exponentText exponent ++ rest))) =
      (whole, fractionText fraction ++ (exponentText exponent ++ rest)) :=
    spanDigits_append isRun (fractionText_ends afterFraction)
  have accepted : (whole = [] || whole.head? = some '0' && whole ≠ ['0']) = false := by
    rw [Bool.or_eq_false_iff, decide_eq_false_iff_not, Bool.and_eq_false_imp]
    refine ⟨given, fun zero => ?_⟩
    rw [leading (of_decide_eq_true zero)]
    rfl
  have text : Lexeme.text ⟨isNegative, whole, fraction, exponent⟩ ++ rest =
      (if isNegative then ['-'] else []) ++
        (whole ++ (fractionText fraction ++ (exponentText exponent ++ rest))) := by
    simp only [Lexeme.text, List.append_assoc]
  have unsigned (other : List Char) :
      whole ++ (fractionText fraction ++ (exponentText exponent ++ rest)) ≠ '-' :: other := by
    cases whole with
    | nil => exact absurd rfl given
    | cons d ds =>
        intro same
        have digit := isRun d List.mem_cons_self
        obtain ⟨rfl, -⟩ := List.cons.inj same
        cases digit
  unfold lexNumber
  rw [text]
  split
  next isMinus unread sign =>
    have signed : (isMinus, unread) =
        (isNegative, whole ++ (fractionText fraction ++ (exponentText exponent ++ rest))) := by
      rw [← sign]
      cases isNegative with
      | true => rfl
      | false =>
          split
          · next same => exact absurd same (unsigned _)
          · rfl
    obtain ⟨rfl, rfl⟩ := Prod.mk.inj signed
    simp only [span, accepted, Bool.false_eq_true, if_false,
      lexFraction_append fractionRun afterFraction, Option.bind_eq_bind, Option.bind_some,
      lexExponent_append exponentRun ends, Option.pure_def]

end Lexemes

section Integers

variable {n : Nat}

theorem isRun_digits (n : Nat) : IsRun (digits n) := fun _ among => isDigit_of_mem_digits among

theorem isProper_integer (isNegative : Bool) (n : Nat) :
    Lexeme.IsProper ⟨isNegative, digits n, [], none⟩ where
  whole := isRun_digits n
  given := digits_ne_nil
  leading := by
    intro zero
    cases n with
    | zero => rfl
    | succ n => exact absurd zero (head?_digits (Nat.succ_pos n))
  fraction := List.forall_mem_nil _
  exponent := by nofun

theorem value_natural (small : n < 1 <<< 64) :
    Lexeme.value ⟨false, digits n, [], none⟩ = .number (.natural n) := by
  simp only [Lexeme.value, ofDigits_digits, small, decide_true, Option.isNone_none,
    Bool.not_false, Bool.and_self, if_true]

theorem value_negative (positive : 0 < n) (small : n ≤ 1 <<< 63) :
    Lexeme.value ⟨true, digits n, [], none⟩ = .number (.negative n) := by
  simp only [Lexeme.value, ofDigits_digits, positive, small, decide_true, Option.isNone_none,
    Bool.not_true, Bool.false_and, Bool.and_self, Bool.false_eq_true, if_true, if_false]

end Integers

section Parts

variable {x : Float} {isNegative : Bool} {n : Nat} {k : Int}

/-- The parts of a float as it is written. -/
def floatLexeme (x : Float) : Lexeme :=
  let size := Binary.ofFloat x
  let decimal := size.shortest
  let run := digits decimal.digits
  let point := run.length + decimal.exponent
  if size.significand = 0 then ⟨isSigned x, ['0'], ['0'], none⟩
  else if 16 < point ∨ point ≤ -5 then
    ⟨isSigned x, run.take 1, run.drop 1, some (point - 1 < 0, digits (point - 1).natAbs)⟩
  else if 0 ≤ decimal.exponent then
    ⟨isSigned x, run ++ List.replicate decimal.exponent.toNat '0', ['0'], none⟩
  else if 0 < point then ⟨isSigned x, run.take point.toNat, run.drop point.toNat, none⟩
  else ⟨isSigned x, ['0'], List.replicate point.natAbs '0' ++ run, none⟩

theorem text_floatLexeme (x : Float) : (floatLexeme x).text = writeFloat x := by
  unfold floatLexeme writeFloat
  extract_lets size decimal run point sign exponent
  have given : run ≠ [] := digits_ne_nil
  split
  · simp [Lexeme.text, fractionText, exponentText, sign]
  split
  · have tail : run.tail = [] ↔ run.length = 1 := by
      rw [← List.drop_one, List.drop_eq_nil_iff]
      have := List.length_pos_iff.mpr given
      omega
    simp [Lexeme.text, fractionText, exponentText, sign, tail, exponent]
  split
  · simp [Lexeme.text, fractionText, exponentText, sign]
  split
  · have tail : run.drop point.toNat ≠ [] := by
      rw [ne_eq, List.drop_eq_nil_iff]
      omega
    simp [Lexeme.text, fractionText, exponentText, sign, tail]
  · simp [Lexeme.text, fractionText, exponentText, sign, given]

theorem IsRun.append {run more : List Char} (first : IsRun run) (second : IsRun more) :
    IsRun (run ++ more) := fun c among => (List.mem_append.mp among).elim (first c) (second c)

theorem isRun_zeros (n : Nat) : IsRun (List.replicate n '0') := by
  intro c among
  rw [List.eq_of_mem_replicate among]
  rfl

theorem isProper_floatLexeme (x : Float) : (floatLexeme x).IsProper := by
  have zero : IsRun ['0'] := isRun_zeros 1
  unfold floatLexeme
  extract_lets size decimal run point
  have all : IsRun run := isRun_digits _
  have given : run ≠ [] := digits_ne_nil
  split
  · exact ⟨zero, nofun, fun _ => rfl, zero, nofun⟩
  next nonzero =>
  have leading : run.head? ≠ some '0' :=
    head?_digits (Binary.holds_shortest (isNormal_ofFloat nonzero)).2.1
  have begins {k : Nat} (any : k ≠ 0) : (run.take k).head? ≠ some '0' := by
    rwa [List.head?_take, if_neg any]
  have nonempty {k : Nat} (any : k ≠ 0) : run.take k ≠ [] := by
    rw [ne_eq, List.take_eq_nil_iff, not_or]
    exact ⟨any, given⟩
  split
  · refine ⟨fun c among => all c (List.mem_of_mem_take among), nonempty Nat.one_ne_zero,
      fun first => absurd first (begins Nat.one_ne_zero),
      fun c among => all c (List.mem_of_mem_drop among), fun part among => ?_⟩
    obtain rfl := Option.some.inj among
    exact ⟨digits_ne_nil, isRun_digits _⟩
  split
  · refine ⟨all.append (isRun_zeros _), List.append_ne_nil_of_left_ne_nil given _,
      fun first => ?_, zero, nofun⟩
    rw [List.head?_append_of_ne_nil _ given] at first
    exact absurd first leading
  split
  next inside =>
    have any : point.toNat ≠ 0 := by omega
    exact ⟨fun c among => all c (List.mem_of_mem_take among), nonempty any,
      fun first => absurd first (begins any),
      fun c among => all c (List.mem_of_mem_drop among), nofun⟩
  · exact ⟨zero, nofun, fun _ => rfl, (isRun_zeros _).append all, nofun⟩

end Parts

section Scale

variable {n : Nat} {k : Int}

theorem isSome_scale_of_neg (steps : Nat) (x : Float) (negative : k < 0) :
    (scale steps x k).isSome = true := by
  induction steps generalizing x k with
  | zero => rfl
  | succ steps ih =>
      rw [scale]
      split
      · rw [if_neg (by omega)]
        rfl
      split
      · rfl
      · rw [if_neg (by omega)]
        exact ih _ (by omega)

theorem scale_of_isInf {x : Float} {size : Nat} (small : size ≤ 308)
    (finite : (x * Float.ofScientific 1 false size).isInf = false) (steps : Nat) :
    (scale (steps + 1) x size).isSome = true := by
  rw [scale, Int.natAbs_natCast, if_pos small, if_pos (Int.natCast_nonneg size)]
  dsimp only
  rw [finite]
  rfl

/-- The number is read as a float. -/
def IsRead (n : Nat) (k : Int) : Prop := (scale 4 (UInt64.ofNat n).toFloat k).isSome = true

theorem isRead_of_fits {size : Nat} (positive : 0 < n) (short : n ≤ 10 ^ 17)
    (fits : n * 10 ^ size ≤ nearLargest) : IsRead n size :=
  scale_of_isInf (exponent_le_of_fits positive fits) (isInf_mul_power positive short fits) 3

theorem isRead_zero : IsRead 0 0 := by
  unfold IsRead
  decide +kernel

theorem isRead_largest : IsRead 17976931348623157 292 := by
  unfold IsRead
  decide +kernel

theorem shortest_largest :
    Binary.shortest ⟨2 ^ 53 - 1, 971, false⟩ = ⟨17976931348623157, 292⟩ := by
  decide +kernel

/-- Below the largest float the number half-way to the next one is not too great. -/
theorem halfway_le {x : Binary} (normal : x.IsNormal) (bounded : x.exponent ≤ 971)
    (below : x ≠ ⟨2 ^ 53 - 1, 971, false⟩) :
    (4 * x.significand + 2 : ℚ) * 2 ^ (x.exponent - 2) ≤ nearLargest := by
  have limit {a b : Nat} (digits : 4 * x.significand + 2 ≤ a) (place : x.exponent - 2 ≤ b)
      (room : a * 2 ^ b ≤ nearLargest) :
      (4 * x.significand + 2 : ℚ) * 2 ^ (x.exponent - 2) ≤ nearLargest := by
    have power : (2 : ℚ) ^ (x.exponent - 2) ≤ 2 ^ (b : Int) :=
      zpow_le_zpow_right₀ (by norm_num) place
    calc (4 * x.significand + 2 : ℚ) * 2 ^ (x.exponent - 2) ≤ a * 2 ^ (b : Int) :=
          mul_le_mul (by exact_mod_cast digits) power (zpow_nonneg (by norm_num) _)
            (Nat.cast_nonneg a)
      _ = (a * 2 ^ b : Nat) := by rw [zpow_natCast]; push_cast; rfl
      _ ≤ nearLargest := Nat.cast_le.mpr room
  have short := normal.short
  by_cases last : x.exponent = 971
  · have less : x.significand ≠ 2 ^ 53 - 1 := by
      intro full
      have wide : x.isNarrowBelow = false := by
        rw [Bool.eq_false_iff]
        intro narrow
        exact absurd (full.symm.trans (normal.narrow narrow)) (by decide)
      have parts : x = ⟨x.significand, x.exponent, x.isNarrowBelow⟩ := rfl
      rw [full, last, wide] at parts
      exact below parts
    exact limit (a := 2 ^ 55 - 6) (b := 969) (by omega) (by omega) (by decide +kernel)
  · exact limit (a := 2 ^ 55 - 2) (b := 968) (by omega) (by omega) (by decide +kernel)

/-- A decimal without digits after the point is not too great either. -/
theorem shortest_fits {x : Binary} (normal : x.IsNormal) (bounded : x.exponent ≤ 971)
    (natural : 0 ≤ x.shortest.exponent) :
    x = ⟨2 ^ 53 - 1, 971, false⟩ ∨
      x.shortest.digits * 10 ^ x.shortest.exponent.toNat ≤ nearLargest := by
  by_cases largest : x = ⟨2 ^ 53 - 1, 971, false⟩
  · exact .inl largest
  · obtain ⟨held, -⟩ := Binary.holds_shortest normal
    have below := le_trans (Binary.value_le_of_holds held) (halfway_le normal bounded largest)
    rw [Scientific.value, ← Int.toNat_of_nonneg natural, zpow_natCast] at below
    refine .inr (Nat.cast_le.mp (le_trans (le_of_eq ?_) below))
    push_cast
    rfl

theorem exponent_shortest_le {x : Binary} (normal : x.IsNormal) (bounded : x.exponent ≤ 971) :
    x.shortest.exponent ≤ 308 := by
  rcases Int.lt_or_le x.shortest.exponent 0 with negative | natural
  · omega
  rcases shortest_fits normal bounded natural with largest | fits
  · rw [largest, shortest_largest]
    decide
  · have := exponent_le_of_fits (Binary.holds_shortest normal).2.1 fits
    omega

/-- What a finite float is written as is read as a float. -/
theorem isRead_shortest {x : Binary} (normal : x.IsNormal) (bounded : x.exponent ≤ 971) :
    IsRead x.shortest.digits x.shortest.exponent := by
  rcases Int.lt_or_le x.shortest.exponent 0 with negative | natural
  · exact isSome_scale_of_neg _ _ negative
  rcases shortest_fits normal bounded natural with largest | fits
  · rw [largest, shortest_largest]
    exact isRead_largest
  · obtain ⟨-, positive, short⟩ := Binary.holds_shortest normal
    have read := isRead_of_fits positive short fits
    rwa [Int.toNat_of_nonneg natural] at read

end Scale

section Floats

variable {n : Nat}

theorem le_ofDigitChars (cs : List Char) (n : Nat) : n ≤ Nat.ofDigitChars 10 cs n := by
  induction cs generalizing n with
  | nil => exact Nat.le_refl n
  | cons c cs ih =>
      rw [Nat.ofDigitChars_cons]
      exact Nat.le_trans (by omega) (ih _)

/-- Digits are absorbed as long as there is room for them. -/
theorem absorb_eq {cs : List Char} (short : Nat.ofDigitChars 10 cs n < 1 <<< 64) :
    absorb n cs = (Nat.ofDigitChars 10 cs n, []) := by
  induction cs generalizing n with
  | nil => rfl
  | cons c cs ih =>
      have next : n * 10 + ofDigits [c] = 10 * n + (c.toNat - '0'.toNat) := by
        rw [ofDigits, Nat.ofDigitChars_cons, Nat.ofDigitChars_nil]
        omega
      rw [Nat.ofDigitChars_cons] at short ⊢
      rw [absorb, next, if_pos (Nat.lt_of_le_of_lt (le_ofDigitChars cs _) short)]
      exact ih short

/-- A number that is kept as a float. -/
def IsFloat (json : Json) : Prop := ∃ y, json = .number (.float y)

theorem isFloat_toFloat {k : Int} (isNegative : Bool) (read : IsRead n k) :
    (toFloat isNegative n k).IsFloat := by
  obtain ⟨y, same⟩ := Option.isSome_iff_exists.mp read
  rw [toFloat, same]
  exact ⟨_, rfl⟩

variable {isNegative : Bool} {whole fraction : List Char}

theorem absorb_parts (short : ofDigits (whole ++ fraction) < 1 <<< 64) :
    absorb 0 whole = (ofDigits whole, []) ∧
      absorb (ofDigits whole) fraction = (ofDigits (whole ++ fraction), []) := by
  unfold ofDigits at short ⊢
  rw [Nat.ofDigitChars_append] at short ⊢
  exact ⟨absorb_eq (Nat.lt_of_le_of_lt (le_ofDigitChars fraction _) short), absorb_eq short⟩

/-- Digits after the point count as a negative power of ten. -/
theorem isFloat_value_of_fraction (given : fraction ≠ [])
    (short : ofDigits (whole ++ fraction) < 1 <<< 64) :
    (Lexeme.value ⟨isNegative, whole, fraction, none⟩).IsFloat := by
  obtain ⟨first, second⟩ := absorb_parts short
  have positive := List.length_pos_iff.mpr given
  simp only [Lexeme.value, given, decide_false, Bool.false_and, Bool.false_eq_true, if_false,
    Lexeme.toFloat, first, second]
  refine isFloat_toFloat isNegative (isSome_scale_of_neg _ _ ?_)
  simp
  omega

/-- An exponent is added to it. Below the least one the number is read as zero. -/
theorem isFloat_value_of_exponent {exponent : Int}
    (short : ofDigits (whole ++ fraction) < 1 <<< 64)
    (read : IsRead (ofDigits (whole ++ fraction)) (exponent - fraction.length))
    (bounded : exponent ≤ exponentLimit) :
    (Lexeme.value
      ⟨isNegative, whole, fraction, some (exponent < 0, digits exponent.natAbs)⟩).IsFloat := by
  obtain ⟨first, second⟩ := absorb_parts short
  simp only [Lexeme.value, Option.isNone_some, Bool.and_false, Bool.false_eq_true, if_false,
    Lexeme.toFloat, first, second, ofDigits_digits, List.length_nil, Nat.sub_zero]
  split
  · next far =>
      have negative : exponent < 0 := by omega
      rw [if_neg (by simp [negative])]
      exact isFloat_toFloat isNegative isRead_zero
  · split
    · next negative =>
        have negative := of_decide_eq_true negative
        rw [show ((0 : Nat) : Int) - fraction.length - exponent.natAbs =
          exponent - fraction.length by omega]
        exact isFloat_toFloat isNegative read
    · next natural =>
        have natural := of_decide_eq_false (Bool.eq_false_iff.mpr natural)
        rw [show ((0 : Nat) : Int) - fraction.length + exponent.natAbs =
          exponent - fraction.length by omega]
        exact isFloat_toFloat isNegative read

theorem ofDigits_append_zeros (run : List Char) (zeros : Nat) :
    ofDigits (run ++ List.replicate zeros '0') = 10 ^ zeros * ofDigits run := by
  rw [ofDigits, Nat.ofDigitChars_append, Nat.ofDigitChars_replicate_zero, ← ofDigits]

theorem ofDigits_zeros_append (run : List Char) (zeros : Nat) :
    ofDigits (List.replicate zeros '0' ++ run) = ofDigits run := by
  rw [ofDigits, Nat.ofDigitChars_append, Nat.ofDigitChars_replicate_zero, Nat.mul_zero, ← ofDigits]

/-- A number of few digits and zeros has 64 bits, also with one zero more. -/
theorem ofDigits_padded_lt {zeros : Nat} (few : zeros + (digits n).length ≤ 16) :
    ofDigits (digits n ++ List.replicate zeros '0' ++ ['0']) < 1 <<< 64 := by
  have below : n < 10 ^ (digits n).length :=
    (Nat.length_toDigits_le_iff (by decide) (List.length_pos_iff.mpr digits_ne_nil)).mp
      (Nat.le_refl _)
  rw [show ['0'] = List.replicate 1 '0' from rfl, ofDigits_append_zeros, ofDigits_append_zeros,
    ofDigits_digits]
  calc 10 ^ 1 * (10 ^ zeros * n) ≤ 10 ^ 1 * (10 ^ zeros * 10 ^ (digits n).length) :=
        Nat.mul_le_mul_left _ (Nat.mul_le_mul_left _ (Nat.le_of_lt below))
    _ ≤ 10 ^ 1 * 10 ^ 16 := by
        rw [← Nat.pow_add]
        exact Nat.mul_le_mul_left _ (Nat.pow_le_pow_right (by decide) few)
    _ < 1 <<< 64 := by decide

/-- The text of a finite float is read as a float. -/
theorem isFloat_floatLexeme {x : Float} (finite : x.isFinite = true) :
    (floatLexeme x).value.IsFloat := by
  have bounded := exponent_ofFloat_le finite
  unfold floatLexeme
  extract_lets size decimal run point
  split
  · exact isFloat_value_of_fraction (List.cons_ne_nil _ _) (by decide)
  next nonzero =>
  have normal : size.IsNormal := isNormal_ofFloat nonzero
  obtain ⟨-, -, short⟩ := Binary.holds_shortest normal
  have small : decimal.digits < 1 <<< 64 := Nat.lt_of_le_of_lt short (by decide)
  have value : ofDigits run = decimal.digits := ofDigits_digits _
  have given : 0 < run.length := List.length_pos_iff.mpr digits_ne_nil
  -- A float is written with an exponent, with zeros behind its digits, with a point among them, or
  -- with zeros in front.
  split
  · have length : run.length ≤ 18 := (Nat.length_toDigits_le_iff (by decide) (by decide)).mpr
      (Nat.lt_of_le_of_lt short (by decide))
    have least : decimal.exponent ≤ 308 := exponent_shortest_le normal bounded
    have limit : exponentLimit = 2147483647 := rfl
    refine isFloat_value_of_exponent ?_ ?_ ?_
    · rwa [List.take_append_drop, value]
    · rw [List.take_append_drop, value, List.length_drop,
        show point - 1 - (run.length - 1 : Nat) = decimal.exponent by omega]
      exact isRead_shortest normal bounded
    · rw [limit]
      omega
  split
  · have few : decimal.exponent.toNat + run.length ≤ 16 := by omega
    exact isFloat_value_of_fraction (List.cons_ne_nil _ _) (ofDigits_padded_lt few)
  split
  · refine isFloat_value_of_fraction ?_ ?_
    · rw [ne_eq, List.drop_eq_nil_iff]
      omega
    · rwa [List.take_append_drop, value]
  · refine isFloat_value_of_fraction ?_ ?_
    · exact List.append_ne_nil_of_right_ne_nil _ digits_ne_nil
    · rwa [show ['0'] = List.replicate 1 '0' from rfl, ofDigits_zeros_append,
        ofDigits_zeros_append, value]

end Floats

section Numerals

/-- The parts of a number as it is written. -/
def lexemeOf : Numeral → Lexeme
  | .natural n => ⟨false, digits n, [], none⟩
  | .negative n => ⟨true, digits n, [], none⟩
  | .float x => floatLexeme x

theorem text_lexemeOf (numeral : Numeral) : (lexemeOf numeral).text = Numeral.write numeral := by
  cases numeral with
  | natural n => simp [lexemeOf, Lexeme.text, fractionText, exponentText, Numeral.write]
  | negative n => simp [lexemeOf, Lexeme.text, fractionText, exponentText, Numeral.write]
  | float x => exact text_floatLexeme x

theorem isProper_lexemeOf (numeral : Numeral) : (lexemeOf numeral).IsProper := by
  cases numeral with
  | natural n => exact isProper_integer false n
  | negative n => exact isProper_integer true n
  | float x => exact isProper_floatLexeme x

theorem lexNumber_write (numeral : Numeral) {rest : List Char} (ends : EndsNumber rest) :
    lexNumber (Numeral.write numeral ++ rest) = some (lexemeOf numeral, rest) := by
  rw [← text_lexemeOf]
  exact lexNumber_text (isProper_lexemeOf numeral) ends

/-- A number begins with a digit or a sign. -/
theorem writeNumeral_eq_cons (numeral : Numeral) :
    ∃ c rest, Numeral.write numeral = c :: rest ∧ (c.isDigit = true ∨ c = '-') := by
  have proper := isProper_lexemeOf numeral
  rw [← text_lexemeOf, Lexeme.text]
  cases (lexemeOf numeral).isNegative with
  | true => exact ⟨_, _, rfl, .inr rfl⟩
  | false =>
      cases digits : (lexemeOf numeral).whole with
      | nil => exact absurd digits proper.given
      | cons d ds => exact ⟨_, _, rfl, .inl (proper.whole d (digits ▸ List.mem_cons_self))⟩

end Numerals

end WalletSync.Json
