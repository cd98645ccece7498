/-!
Natural numbers of a fixed number of binary digits. Arithmetic on them stops at the ends of the
range instead of wrapping, and every operation is described by its effect on `val`, so that a
statement about words becomes one about natural numbers.
-/

namespace WalletSync

/-- A natural number of at most `bits` binary digits. -/
structure Word (bits : Nat) where
  val : Nat
  val_lt : val < 1 <<< bits
deriving DecidableEq

namespace Word

variable {bits : Nat}

@[ext]
theorem ext {a b : Word bits} (h : a.val = b.val) : a = b := by
  cases a; cases b; simp_all

/-- The word of value `n`, when `n` has few enough digits. -/
def ofNat? (n : Nat) : Option (Word bits) :=
  if h : n < 1 <<< bits then some ⟨n, h⟩ else none

/-- The word nearest to `n`. -/
def clamp (n : Nat) : Word bits :=
  ⟨min n (1 <<< bits - 1), by have := Nat.two_pow_pos bits; omega⟩

def top : Word bits := clamp (1 <<< bits - 1)

instance (n : Nat) : OfNat (Word bits) n := ⟨clamp n⟩

instance : Inhabited (Word bits) := ⟨0⟩

instance : LE (Word bits) := ⟨fun a b => a.val ≤ b.val⟩

instance : LT (Word bits) := ⟨fun a b => a.val < b.val⟩

instance (a b : Word bits) : Decidable (a ≤ b) := inferInstanceAs (Decidable (a.val ≤ b.val))

instance (a b : Word bits) : Decidable (a < b) := inferInstanceAs (Decidable (a.val < b.val))

instance : Max (Word bits) := ⟨fun a b => if a ≤ b then b else a⟩

instance : Min (Word bits) := ⟨fun a b => if a ≤ b then a else b⟩

/-- The sum, or the largest word when the sum is out of range. -/
def addSat (a b : Word bits) : Word bits := clamp (a.val + b.val)

def mulSat (a b : Word bits) : Word bits := clamp (a.val * b.val)

def subSat (a b : Word bits) : Word bits := ⟨a.val - b.val, by have := a.val_lt; omega⟩

def add? (a b : Word bits) : Option (Word bits) := ofNat? (a.val + b.val)

def succSat (a : Word bits) : Word bits := clamp (a.val + 1)

/-- Two to the power `n`, or the largest word when the power is out of range. -/
def twoPowSat (n : Nat) : Word bits := if n < bits then clamp (1 <<< n) else top

@[simp]
theorem val_clamp (n : Nat) : (clamp n : Word bits).val = min n (1 <<< bits - 1) := rfl

@[simp]
theorem val_addSat (a b : Word bits) :
    (a.addSat b).val = min (a.val + b.val) (1 <<< bits - 1) := rfl

@[simp]
theorem val_mulSat (a b : Word bits) :
    (a.mulSat b).val = min (a.val * b.val) (1 <<< bits - 1) := rfl

@[simp]
theorem val_succSat (a : Word bits) : a.succSat.val = min (a.val + 1) (1 <<< bits - 1) := rfl

theorem val_twoPowSat (n : Nat) :
    (twoPowSat n : Word bits).val = min (1 <<< n) (1 <<< bits - 1) := by
  unfold twoPowSat
  split
  · rfl
  · next beyond =>
      have large : 1 <<< bits ≤ 1 <<< n := by
        rw [Nat.one_shiftLeft, Nat.one_shiftLeft]
        exact Nat.pow_le_pow_right (by decide) (Nat.le_of_not_lt beyond)
      rw [top, val_clamp, Nat.min_self]
      exact (Nat.min_eq_right (Nat.le_trans (Nat.sub_le _ 1) large)).symm

theorem val_max (a b : Word bits) : (max a b).val = max a.val b.val := by
  show (if a.val ≤ b.val then b else a).val = max a.val b.val
  split <;> omega

theorem val_min (a b : Word bits) : (min a b).val = min a.val b.val := by
  show (if a.val ≤ b.val then a else b).val = min a.val b.val
  split <;> omega

theorem ofNat?_eq_some_iff {n : Nat} {w : Word bits} : ofNat? n = some w ↔ w.val = n := by
  unfold ofNat?
  split
  · rw [Option.some.injEq, Word.ext_iff, eq_comm]
  · next h => exact ⟨nofun, fun e => absurd (e ▸ w.val_lt) h⟩

@[simp]
theorem ofNat?_val (w : Word bits) : ofNat? w.val = some w := ofNat?_eq_some_iff.2 rfl

end Word

/-- Block heights, sequence numbers, gas and durations. -/
abbrev Count := Word 64

end WalletSync
