import WalletSync.Moment.Text
import WalletSync.Proofs.Moment.Calendar
import WalletSync.Proofs.Text.Blank

/-!
The text of a moment is read back as that moment: in any year, with all nanoseconds, and in a leap
second. Nothing is said about texts that are not written here, such as those with blanks or in
another offset than UTC.

A text is read from the front, part by part; what one part reads is what was written of it, whatever
follows.
-/

namespace WalletSync.Moment

open Text

section Parts

variable {run rest : List Char} {most : Nat}

/-- A run of digits is taken to its end, be it that no more are wanted or that no digit follows. -/
theorem takeWhile_take_append (digits : ∀ c ∈ run, c.isDigit = true) (short : run.length ≤ most)
    (ends : run.length = most ∨ ∀ c ∈ rest.head?, c.isDigit = false) :
    ((run ++ rest).take most).takeWhile Char.isDigit = run := by
  rw [List.take_append, List.take_of_length_le short, List.takeWhile_append_of_pos digits]
  rcases ends with full | ends
  · simp [full]
  · cases rest with
    | nil => simp
    | cons c rest =>
        cases most - run.length with
        | zero => simp
        | succ left => simp [ends c rfl]

theorem readNumber_append (digits : ∀ c ∈ run, c.isDigit = true) (given : run ≠ [])
    (short : run.length ≤ most)
    (ends : run.length = most ∨ ∀ c ∈ rest.head?, c.isDigit = false) :
    readNumber most (run ++ rest) = some (ofDigits run, rest) := by
  rw [readNumber, takeWhile_take_append digits short ends, if_neg given, List.drop_left]

theorem readPair_paddedDigits {n : Nat} (small : n < 100) (rest : List Char) :
    readPair (paddedDigits 2 n ++ rest) = some (n, rest) := by
  have digits : ∀ c ∈ paddedDigits 2 n, c.isDigit = true := fun c => isDigit_of_mem_paddedDigits
  have length : (paddedDigits 2 n).length = 2 := length_paddedDigits (by decide) small
  rw [readPair, trimStart_digits_append digits paddedDigits_ne_nil,
    readNumber_append digits paddedDigits_ne_nil (Nat.le_of_eq length) (.inl length),
    ofDigits_paddedDigits]

theorem readMark_cons {mark : Char} (visible : isBlank mark = false) (rest : List Char) :
    readMark mark (mark :: rest) = some rest := by
  simp [readMark, trimStart_cons visible]

theorem readNumber_year {n : Nat} (short : (paddedDigits 4 n).length ≤ most) :
    readNumber most (paddedDigits 4 n ++ '-' :: rest) = some (n, '-' :: rest) := by
  have digits : ∀ c ∈ paddedDigits 4 n, c.isDigit = true := fun c => isDigit_of_mem_paddedDigits
  rw [readNumber_append digits paddedDigits_ne_nil short (.inr (by simp)), ofDigits_paddedDigits]

theorem readYear_plain {n : Nat} (small : n < 10000) :
    readYear (paddedDigits 4 n ++ '-' :: rest) = some ((n : Int), '-' :: rest) := by
  have length : (paddedDigits 4 n).length = 4 := length_paddedDigits (by decide) small
  have digits : ∀ c ∈ paddedDigits 4 n, c.isDigit = true := fun c => isDigit_of_mem_paddedDigits
  have number := @readNumber_year rest _ n (Nat.le_of_eq length)
  rw [readYear, trimStart_digits_append digits paddedDigits_ne_nil]
  cases text : paddedDigits 4 n with
  | nil => exact absurd text paddedDigits_ne_nil
  | cons d ds =>
      have digit := digits d (text ▸ List.mem_cons_self)
      rw [text] at number
      -- a digit is no sign, so only the last of the three ways to read a year is left
      split
      · next same =>
          cases same
          cases digit
      · next same =>
          cases same
          cases digit
      · rw [number, Option.map_some]

theorem readYear_signed (n : Nat) (rest : List Char) :
    readYear ('-' :: paddedDigits 4 n ++ '-' :: rest) = some (-(n : Int), '-' :: rest) ∧
      readYear ('+' :: paddedDigits 4 n ++ '-' :: rest) = some ((n : Int), '-' :: rest) := by
  have whole : (paddedDigits 4 n).length ≤ (paddedDigits 4 n ++ '-' :: rest).length := by
    rw [List.length_append]
    omega
  constructor
  · rw [List.cons_append, readYear, trimStart_cons (by decide)]
    simp only [readNumber_year whole, Option.map_some]
  · rw [List.cons_append, readYear, trimStart_cons (by decide)]
    simp only [readNumber_year whole, Option.map_some]

theorem readYear_writeYear (year : Int) (rest : List Char) :
    readYear (writeYear year ++ '-' :: rest) = some (year, '-' :: rest) := by
  unfold writeYear
  split
  · next plain =>
      rw [readYear_plain (by omega), Int.toNat_of_nonneg plain.1]
  · next outside =>
      split
      · next negative =>
          rw [(readYear_signed year.natAbs rest).1]
          congr 2
          omega
      · next positive =>
          rw [(readYear_signed year.natAbs rest).2]
          congr 2
          omega

theorem readFraction_point {width n : Nat} (wide : 0 < width) (short : width ≤ 9)
    (small : n < Nat.pow 10 width) :
    readFraction ('.' :: paddedDigits width n ++ ['Z']) =
      some (n * Nat.pow 10 (9 - width), ['Z']) := by
  have digits : ∀ c ∈ paddedDigits width n, c.isDigit = true := fun c => isDigit_of_mem_paddedDigits
  have length : (paddedDigits width n).length = width := length_paddedDigits wide small
  have run : ((paddedDigits width n ++ ['Z']).take 9).takeWhile Char.isDigit =
      paddedDigits width n := takeWhile_take_append digits (by omega) (.inr (by simp))
  have left : (paddedDigits width n ++ ['Z']).drop width = ['Z'] := by
    rw [← length, length, List.drop_left' length]
  simp only [readFraction, List.cons_append, run, if_neg paddedDigits_ne_nil, length,
    ofDigits_paddedDigits, left]
  rfl

theorem readFraction_writeFraction {nano : Nat} (small : nano < 1000000000) :
    readFraction (writeFraction nano ++ ['Z']) = some (nano, ['Z']) := by
  unfold writeFraction
  split
  · next whole => simp [readFraction, whole]
  split
  · next millis =>
      rw [readFraction_point (by decide) (by decide) (show nano / 1000000 < 1000 by omega)]
      congr 2
      simp only [Nat.pow_eq, Nat.reduceSub, Nat.reducePow]
      omega
  split
  · next micros =>
      rw [readFraction_point (by decide) (by decide) (show nano / 1000 < 1000000 by omega)]
      congr 2
      simp only [Nat.pow_eq, Nat.reduceSub, Nat.reducePow]
      omega
  · rw [readFraction_point (by decide) (by decide) small]
    simp

end Parts

theorem of?_self (m : Moment) : of? m.second m.nano = some m := by
  rw [of?, dif_pos ⟨m.second_ge, m.second_le, m.nano_lt, m.leap⟩]

section Write

variable (m : Moment)

/-- The date of the moment in UTC. -/
def date : CivilDate := CivilDate.ofDays (m.second / 86400)

/-- The second of the day in UTC, the same for a leap second as for the one before it. -/
def timeOfDay : Nat := (m.second % 86400).toNat

/-- The second of the minute as it is written, 60 in a leap second. -/
def shownSecond : Nat := m.timeOfDay % 60 + if 1000000000 ≤ m.nano then 1 else 0

def shownNano : Nat := if 1000000000 ≤ m.nano then m.nano - 1000000000 else m.nano

theorem write_eq : m.write =
    writeYear m.date.year ++ '-' :: (paddedDigits 2 m.date.month ++ '-' ::
      (paddedDigits 2 m.date.day ++ 'T' :: (paddedDigits 2 (m.timeOfDay / 3600) ++ ':' ::
        (paddedDigits 2 (m.timeOfDay / 60 % 60) ++ ':' :: (paddedDigits 2 m.shownSecond ++
          (writeFraction m.shownNano ++ ['Z'])))))) := by
  simp only [write, List.append_assoc, List.cons_append]
  rfl

theorem timeOfDay_eq : (m.timeOfDay : Int) = m.second % 86400 := by
  rw [timeOfDay, Int.toNat_of_nonneg (by omega)]

theorem timeOfDay_lt : m.timeOfDay < 86400 := by
  have := m.timeOfDay_eq
  omega

/-- A leap second is shown as the one after the last of its minute. -/
theorem shown_eq :
    m.shownSecond = m.timeOfDay % 60 ∧ m.shownNano = m.nano ∧ m.nano < 1000000000 ∨
      m.shownSecond = 60 ∧ m.timeOfDay % 60 = 59 ∧ m.shownNano + 1000000000 = m.nano := by
  have time := m.timeOfDay_eq
  unfold shownSecond shownNano
  by_cases leap : 1000000000 ≤ m.nano
  · have last := m.leap leap
    simp only [leap, if_true]
    omega
  · simp only [leap, if_false, Nat.add_zero, true_and]
    omega

theorem shownSecond_le : m.shownSecond ≤ 60 := by
  have := m.shown_eq
  omega

theorem shownNano_lt : m.shownNano < 1000000000 := by
  have := m.shown_eq
  have := m.nano_lt
  omega

theorem year_date : -262143 ≤ m.date.year ∧ m.date.year ≤ 262142 := by
  have low : firstSecond ≤ m.second := m.second_ge
  have high : m.second ≤ lastSecond := m.second_le
  rw [firstSecond] at low
  rw [lastSecond] at high
  exact CivilDate.year_ofDays (by omega) (by omega)

theorem ofLocal?_date : ofLocal? m.date (m.timeOfDay / 3600) (m.timeOfDay / 60 % 60)
    m.shownSecond m.shownNano 0 = some m := by
  have valid : m.date.isValid = true := CivilDate.isValid_ofDays _
  have days : m.date.toDays = m.second / 86400 := CivilDate.toDays_ofDays _
  have years := m.year_date
  have time := m.timeOfDay_eq
  have inDay := m.timeOfDay_lt
  have inMinute := m.shownSecond_le
  have possible : (m.date.isValid && decide (-262143 ≤ m.date.year) &&
      decide (m.date.year ≤ 262142) && decide (m.timeOfDay / 3600 < 24) &&
      decide (m.timeOfDay / 60 % 60 < 60) && decide (m.shownSecond ≤ 60) &&
      decide ((0 : Int).natAbs < 86400)) = true := by
    simp only [valid, Bool.and_eq_true, decide_eq_true_eq, true_and]
    omega
  rw [ofLocal?, if_pos possible, days]
  rcases m.shown_eq with ⟨plain, same, -⟩ | ⟨leap, last, nano⟩
  · have regular : ¬m.shownSecond = 60 := by omega
    have seconds : m.second / 86400 * 86400 + ((m.timeOfDay / 3600 * 3600 +
        m.timeOfDay / 60 % 60 * 60 + m.shownSecond : Nat) : Int) - 0 = m.second := by omega
    simp only [regular, if_false, seconds, same, Nat.add_zero, m.of?_self]
  · have seconds : m.second / 86400 * 86400 + ((m.timeOfDay / 3600 * 3600 +
        m.timeOfDay / 60 % 60 * 60 + 59 : Nat) : Int) - 0 = m.second := by omega
    simp only [leap, if_true, seconds, nano, m.of?_self]

theorem read?_write : read? m.write = some m := by
  obtain ⟨month, day⟩ : m.date.month < 100 ∧ m.date.day < 100 :=
    CivilDate.month_day_lt (CivilDate.isValid_ofDays _)
  have inDay := m.timeOfDay_lt
  have hour : m.timeOfDay / 3600 < 100 := by omega
  have minute : m.timeOfDay / 60 % 60 < 100 := by omega
  have second : m.shownSecond < 100 := Nat.lt_of_le_of_lt m.shownSecond_le (by decide)
  have dash (rest : List Char) : readMark '-' ('-' :: rest) = some rest :=
    readMark_cons (by decide) rest
  have colon (rest : List Char) : readMark ':' (':' :: rest) = some rest :=
    readMark_cons (by decide) rest
  have zone : readOffset (trimStart ['Z']) = some (0, []) := by decide
  rw [write_eq, read?]
  refine Option.bind_eq_some_iff.mpr ⟨_, readYear_writeYear m.date.year _, ?_⟩
  refine Option.bind_eq_some_iff.mpr ⟨_, dash _, ?_⟩
  refine Option.bind_eq_some_iff.mpr ⟨_, readPair_paddedDigits month _, ?_⟩
  refine Option.bind_eq_some_iff.mpr ⟨_, dash _, ?_⟩
  refine Option.bind_eq_some_iff.mpr ⟨_, readPair_paddedDigits day _, ?_⟩
  refine Option.bind_eq_some_iff.mpr ⟨_, rfl, ?_⟩
  refine Option.bind_eq_some_iff.mpr ⟨_, readPair_paddedDigits hour _, ?_⟩
  refine Option.bind_eq_some_iff.mpr ⟨_, colon _, ?_⟩
  refine Option.bind_eq_some_iff.mpr ⟨_, readPair_paddedDigits minute _, ?_⟩
  refine Option.bind_eq_some_iff.mpr ⟨_, colon _, ?_⟩
  refine Option.bind_eq_some_iff.mpr ⟨_, readPair_paddedDigits second _, ?_⟩
  refine Option.bind_eq_some_iff.mpr ⟨_, readFraction_writeFraction m.shownNano_lt, ?_⟩
  refine Option.bind_eq_some_iff.mpr ⟨_, zone, ?_⟩
  exact (if_pos rfl).trans m.ofLocal?_date

end Write
end WalletSync.Moment
