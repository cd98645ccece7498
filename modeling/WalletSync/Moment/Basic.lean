import WalletSync.Moment.Calendar

/-!
Points in time with nanosecond precision. A leap second has no number of its own: it is the part
of the second before it that lies beyond a full second.
-/

namespace WalletSync

namespace Moment

/-- The first second of the year -262143. -/
def firstSecond : Int := -8334601228800

/-- The last second of the year 262142. -/
def lastSecond : Int := 8210266876799

end Moment

/-- A point in time between the years -262143 and 262142. -/
structure Moment where
  /-- Seconds since 1970-01-01T00:00:00Z. -/
  second : Int
  /-- Nanoseconds since the start of the second; from a full second on, in the leap second. -/
  nano : Nat
  second_ge : Moment.firstSecond ≤ second
  second_le : second ≤ Moment.lastSecond
  nano_lt : nano < 2000000000
  /-- A leap second only follows the last second of a minute. -/
  leap : 1000000000 ≤ nano → second % 60 = 59
deriving DecidableEq

namespace Moment

@[ext]
theorem ext {a b : Moment} (hs : a.second = b.second) (hn : a.nano = b.nano) : a = b := by
  cases a; cases b; simp_all

/-- The moment `nano` nanoseconds after the start of `second`, when there is one. -/
def of? (second : Int) (nano : Nat) : Option Moment :=
  if h : firstSecond ≤ second ∧ second ≤ lastSecond ∧ nano < 2000000000 ∧
      (1000000000 ≤ nano → second % 60 = 59) then
    some ⟨second, nano, h.1, h.2.1, h.2.2.1, h.2.2.2⟩
  else none

def ofSeconds? (second : Int) : Option Moment := of? second 0

def epoch : Moment := ⟨0, 0, by decide, by decide, by decide, by decide⟩

instance : Inhabited Moment := ⟨epoch⟩

/-- The last moment that is not in a leap second. -/
def latest : Moment := ⟨lastSecond, 999999999, by decide, by decide, by decide, by decide⟩

instance : LT Moment := ⟨fun a b => a.second < b.second ∨ a.second = b.second ∧ a.nano < b.nano⟩

instance : LE Moment := ⟨fun a b => a.second < b.second ∨ a.second = b.second ∧ a.nano ≤ b.nano⟩

instance (a b : Moment) : Decidable (a < b) :=
  inferInstanceAs (Decidable (a.second < b.second ∨ a.second = b.second ∧ a.nano < b.nano))

instance (a b : Moment) : Decidable (a ≤ b) :=
  inferInstanceAs (Decidable (a.second < b.second ∨ a.second = b.second ∧ a.nano ≤ b.nano))

theorem le_def {a b : Moment} :
    a ≤ b ↔ a.second < b.second ∨ a.second = b.second ∧ a.nano ≤ b.nano := Iff.rfl

theorem lt_def {a b : Moment} :
    a < b ↔ a.second < b.second ∨ a.second = b.second ∧ a.nano < b.nano := Iff.rfl

def earlier (a b : Moment) : Moment := if b < a then b else a

/-- One millisecond later; at the end of the range, the latest moment. -/
def nextMilli (m : Moment) : Moment :=
  let nano := m.nano + 1000000
  let full := if m.nano < 1000000000 then 1000000000 else 2000000000
  let next := if nano < full then of? m.second nano else of? (m.second + 1) (nano - full)
  next.getD latest

end Moment

end WalletSync
