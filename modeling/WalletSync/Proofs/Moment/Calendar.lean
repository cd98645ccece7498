import WalletSync.Moment.Calendar

/-!
Every count of days belongs to a date of the calendar, and counting the days to that date gives the
number back. That different dates have different counts, and that every date is the date of some
count, is not shown.

A count is split as the calendar is built: eras of 400 years, of which the years from March are
alike, and in a year months that begin every 153 days in five.
-/

namespace WalletSync.CivilDate

/-- The days of an era that lie before a year of it. -/
def daysBefore (year : Int) : Int := 365 * year + year / 4 - year / 100

/-- The date of a day of a year, both counted from March. -/
def ofMarch (year day : Int) : CivilDate :=
  let month := (5 * day + 2) / 153
  let civilMonth := if month < 10 then month + 3 else month - 9
  { year := if civilMonth ≤ 2 then year + 1 else year
    month := civilMonth.toNat
    day := (day - (153 * month + 2) / 5 + 1).toNat }

section Era

variable {day : Int}

/-- Where a day of an era lies: its century, the four years of the century, the year of these, and
the day of the year. The last century of an era and the last year of four are a day longer, except
for the last four years of the other centuries. -/
theorem exists_place (first : 0 ≤ day) (last : day < 146097) :
    ∃ century cycle place rest : Int, 0 ≤ century ∧ century ≤ 3 ∧ 0 ≤ cycle ∧ cycle ≤ 24 ∧
      0 ≤ place ∧ place ≤ 3 ∧ 0 ≤ rest ∧ rest ≤ 365 ∧
      (rest = 365 → place = 3 ∧ (cycle = 24 → century = 3)) ∧
      day = 36524 * century + 1461 * cycle + 365 * place + rest := by
  obtain ⟨century, inCentury, hc⟩ : ∃ century inCentury : Int,
      0 ≤ century ∧ century ≤ 3 ∧ 0 ≤ inCentury ∧ inCentury ≤ 36524 ∧
        (inCentury = 36524 → century = 3) ∧ day = 36524 * century + inCentury := by
    by_cases late : day = 146096
    · exact ⟨3, 36524, by omega⟩
    · exact ⟨day / 36524, day % 36524, by omega⟩
  obtain ⟨cycle, inCycle, hq⟩ : ∃ cycle inCycle : Int,
      0 ≤ cycle ∧ cycle ≤ 24 ∧ 0 ≤ inCycle ∧ inCycle ≤ 1460 ∧
        (inCycle = 1460 → cycle = 24 → century = 3) ∧ inCentury = 1461 * cycle + inCycle :=
    ⟨inCentury / 1461, inCentury % 1461, by omega⟩
  obtain ⟨place, rest, hr⟩ : ∃ place rest : Int,
      0 ≤ place ∧ place ≤ 3 ∧ 0 ≤ rest ∧ rest ≤ 365 ∧ (rest = 365 → place = 3) ∧
        inCycle = 365 * place + rest := by
    by_cases late : inCycle = 1460
    · exact ⟨3, 365, by omega⟩
    · exact ⟨inCycle / 365, inCycle % 365, by omega⟩
  exact ⟨century, cycle, place, rest, by omega⟩

/-- The day of an era is a day of one of its years, which the corrected division by 365 finds; only
leap years have a last day. -/
theorem exists_year (first : 0 ≤ day) (last : day < 146097) :
    ∃ year rest : Int, 0 ≤ year ∧ year < 400 ∧ 0 ≤ rest ∧ rest ≤ 365 ∧
      (rest = 365 → isLeapYear (year + 1) = true) ∧ day = daysBefore year + rest ∧
      (day - day / 1460 + day / 36524 - day / 146096) / 365 = year := by
  obtain ⟨century, cycle, place, rest, placed⟩ := exists_place first last
  refine ⟨100 * century + 4 * cycle + place, rest, by omega, by omega, by omega, by omega,
    ?_, ?_, ?_⟩
  · intro extra
    simp only [isLeapYear, Bool.and_eq_true, Bool.or_eq_true, beq_iff_eq, bne_iff_ne]
    omega
  · have fourth : (100 * century + 4 * cycle + place) / 4 = 25 * century + cycle := by omega
    have hundredth : (100 * century + 4 * cycle + place) / 100 = century := by omega
    rw [daysBefore, fourth, hundredth]
    omega
  · -- leap days so far; the estimate is one too high late in the last year of four
    obtain ⟨inCentury, counted, short⟩ : ∃ inCentury : Int,
        inCentury = 1461 * cycle + 365 * place + rest ∧
          (0 ≤ inCentury ∧ inCentury < 36524 ∨ inCentury = 36524 ∧ century = 3) :=
      ⟨_, rfl, by omega⟩
    have centuries : day / 146096 = day / 36524 - century := by omega
    have leapDays : day / 1460 = 25 * century + cycle ∧ 365 * place + rest < 1460 ∨
        day / 1460 = 25 * century + cycle + 1 ∧ place = 3 ∧ 200 ≤ rest := by omega
    omega

theorem isLeapYear_add (year era : Int) : isLeapYear (year + era * 400) = isLeapYear year := by
  rw [Bool.eq_iff_iff]
  simp only [isLeapYear, Bool.and_eq_true, Bool.or_eq_true, beq_iff_eq, bne_iff_ne]
  omega

end Era

/-- Every day is a day of a year from March. -/
theorem exists_march (days : Int) : ∃ year day : Int, 0 ≤ day ∧ day ≤ 365 ∧
    (day = 365 → isLeapYear (year + 1) = true) ∧ ofDays days = ofMarch year day ∧
    days + 719468 = year / 400 * 146097 + daysBefore (year % 400) + day := by
  have inRange : 0 ≤ (days + 719468) % 146097 ∧ (days + 719468) % 146097 < 146097 := by omega
  obtain ⟨year, day, begins, ends, first, last, leap, split, computed⟩ :=
    exists_year inRange.1 inRange.2
  have era : (year + (days + 719468) / 146097 * 400) / 400 = (days + 719468) / 146097 := by omega
  have inEra : (year + (days + 719468) / 146097 * 400) % 400 = year := by omega
  have rest : (days + 719468) % 146097 - (365 * year + year / 4 - year / 100) = day := by
    rw [split, daysBefore]
    omega
  refine ⟨year + (days + 719468) / 146097 * 400, day, first, last, ?_, ?_, ?_⟩
  · intro extra
    rw [← leap extra, ← isLeapYear_add (year + 1) ((days + 719468) / 146097)]
    congr 1
    omega
  · simp only [ofDays, computed, rest, ofMarch]
  · rw [era, inEra]
    omega

section March

variable {year day : Int}

theorem isValid_ofMarch (first : 0 ≤ day) (last : day ≤ 365)
    (leap : day = 365 → isLeapYear (year + 1) = true) : (ofMarch year day).isValid = true := by
  obtain ⟨month, hm⟩ : ∃ month, (5 * day + 2) / 153 = month := ⟨_, rfl⟩
  have months : month = 0 ∨ month = 1 ∨ month = 2 ∨ month = 3 ∨ month = 4 ∨ month = 5 ∨
      month = 6 ∨ month = 7 ∨ month = 8 ∨ month = 9 ∨ month = 10 ∨ month = 11 := by omega
  simp only [isValid, ofMarch, daysInMonth, hm, Bool.and_eq_true, decide_eq_true_eq]
  rcases months with rfl | rfl | rfl | rfl | rfl | rfl | rfl | rfl | rfl | rfl | rfl | rfl
  case inr.inr.inr.inr.inr.inr.inr.inr.inr.inr.inr =>
    -- February, the last month: its length is what the year has left
    simp only [Int.reduceLT, Int.reduceSub, Int.reduceLE, Int.reduceToNat, if_true, if_false]
    cases isLeap : isLeapYear (year + 1) with
    | true => simp; omega
    | false =>
        have short : day ≠ 365 := fun extra => by simp [leap extra] at isLeap
        simp
        omega
  all_goals
    simp
    omega

theorem toDays_ofMarch (first : 0 ≤ day) (last : day ≤ 365) :
    (ofMarch year day).toDays =
      year / 400 * 146097 + daysBefore (year % 400) + day - 719468 := by
  obtain ⟨month, hm⟩ : ∃ month, (5 * day + 2) / 153 = month := ⟨_, rfl⟩
  have inMonth : ((day - (153 * month + 2) / 5 + 1).toNat : Int) =
      day - (153 * month + 2) / 5 + 1 := by omega
  by_cases early : month < 10
  · have shown : ¬(month + 3).toNat ≤ 2 := by omega
    have civil : ¬(month + 3) ≤ 2 := by omega
    simp only [toDays, ofMarch, hm, early, if_true, shown, civil, if_false, inMonth, daysBefore]
    omega
  · have shown : (month - 9).toNat ≤ 2 := by omega
    have civil : (month - 9) ≤ 2 := by omega
    simp only [toDays, ofMarch, hm, early, if_true, shown, civil, if_false, inMonth, daysBefore]
    omega

end March

variable (days : Int)

theorem toDays_ofDays : (ofDays days).toDays = days := by
  obtain ⟨year, day, first, last, -, date, count⟩ := exists_march days
  rw [date, toDays_ofMarch first last]
  omega

theorem isValid_ofDays : (ofDays days).isValid = true := by
  obtain ⟨year, day, first, last, leap, date, -⟩ := exists_march days
  rw [date]
  exact isValid_ofMarch first last leap

theorem month_day_lt {date : CivilDate} (valid : date.isValid = true) :
    date.month < 100 ∧ date.day < 100 := by
  simp only [isValid, Bool.and_eq_true, decide_eq_true_eq] at valid
  have days : daysInMonth date.year date.month ≤ 31 := by
    unfold daysInMonth
    split
    · split <;> omega
    · split <;> omega
  omega

/-- The days of the years from -262143 to 262142, by their counts. -/
theorem year_ofDays {days : Int} (first : -96465292 ≤ days) (last : days ≤ 95026236) :
    -262143 ≤ (ofDays days).year ∧ (ofDays days).year ≤ 262142 := by
  obtain ⟨year, day, begins, ends, -, date, count⟩ := exists_march days
  have inEra : year = year / 400 * 400 + year % 400 ∧ 0 ≤ year % 400 ∧ year % 400 < 400 := by omega
  rw [daysBefore] at count
  generalize year / 400 = era at count inEra
  generalize year % 400 = place at count inEra
  have low : -262144 ≤ year := by
    rcases Int.lt_or_le era (-656) with early | _
    · omega
    · omega
  have high : year ≤ 262142 := by
    rcases Int.lt_or_le 655 era with late | _
    · omega
    · omega
  have whole : year = -262144 → 306 ≤ day := by
    intro edge
    have : era = -656 ∧ place = 256 := by omega
    omega
  have partly : year = 262142 → day < 306 := by
    intro edge
    have : era = 655 ∧ place = 142 := by omega
    omega
  rw [date]
  simp only [ofMarch]
  constructor
  · omega
  · omega

end WalletSync.CivilDate
