import WalletSync.Proofs.Sync.Outcome

/-!
Sequence numbers and pending operations: the next sequence number as a least upper bound, and what
is known of the entries that a report leaves pending. Then how the next number after a sync stands
to the numbers that the chain has used up: it looks at the reported number and at pending entries
only, so a report that lags behind its own history can bring a number back.
-/

namespace WalletSync

namespace Word

variable {bits : Nat} {a b c : Word bits}

theorem max_le_iff : max a b ≤ c ↔ a ≤ c ∧ b ≤ c := by
  show (max a b).val ≤ c.val ↔ a.val ≤ c.val ∧ b.val ≤ c.val
  rw [val_max]
  omega

theorem lt_max_iff : c < max a b ↔ c < a ∨ c < b := by
  show c.val < (max a b).val ↔ c.val < a.val ∨ c.val < b.val
  rw [val_max]
  omega

theorem le_max_iff : c ≤ max a b ↔ c ≤ a ∨ c ≤ b := by
  show c.val ≤ (max a b).val ↔ c.val ≤ a.val ∨ c.val ≤ b.val
  rw [val_max]
  omega

instance : Std.Associative (max : Word bits → Word bits → Word bits) where
  assoc a b c := by
    apply Word.ext
    simp only [val_max, Nat.max_assoc]

theorem zero_le : 0 ≤ a := Nat.zero_le a.val

theorem not_lt_zero : ¬a < 0 := Nat.not_lt_zero a.val

theorem le_refl (a : Word bits) : a ≤ a := Nat.le_refl a.val

theorem le_antisymm (hab : a ≤ b) (hba : b ≤ a) : a = b := Word.ext (Nat.le_antisymm hab hba)

theorem lt_of_lt_of_le (hab : a < b) (hbc : b ≤ c) : a < c := Nat.lt_of_lt_of_le hab hbc

theorem lt_of_le_of_lt (hab : a ≤ b) (hbc : b < c) : a < c := Nat.lt_of_le_of_lt hab hbc

theorem lt_succSat_of_le (hab : a ≤ b) (ha : a < top) : a < b.succSat := by
  change a.val ≤ b.val at hab
  change a.val < min (1 <<< bits - 1) (1 <<< bits - 1) at ha
  show a.val < b.succSat.val
  rw [val_succSat]
  omega

theorem le_succSat (a : Word bits) : a ≤ a.succSat := by
  show a.val ≤ a.succSat.val
  have := a.val_lt
  rw [val_succSat]
  omega

end Word

namespace Account

variable {account : Account} {bound n : Count} {p : Operation}

theorem foldl_succSat_le_iff (numbers : List Count) (start : Count) :
    numbers.foldl (fun next used => max next used.succSat) start ≤ bound ↔
      start ≤ bound ∧ ∀ used ∈ numbers, used.succSat ≤ bound := by
  induction numbers generalizing start with
  | nil => simp
  | cons used rest ih =>
      rw [List.foldl_cons, ih, Word.max_le_iff, List.forall_mem_cons, and_assoc]

/-- The next sequence number is the least one that is not below what the chain expects and beyond
every number that a pending operation of the account uses. -/
theorem nextSequence_le_iff :
    account.nextSequence ≤ bound ↔ account.remoteSequence ≤ bound ∧
      ∀ p ∈ account.pending, ∀ used ∈ p.usedSequence? account.address, used.succSat ≤ bound := by
  rw [nextSequence, foldl_succSat_le_iff]
  simp only [List.mem_filterMap, Option.mem_def]
  constructor
  · rintro ⟨hr, h⟩
    exact ⟨hr, fun p hp used hu => h used ⟨p, hp, hu⟩⟩
  · rintro ⟨hr, h⟩
    refine ⟨hr, ?_⟩
    rintro used ⟨p, hp, hu⟩
    exact h p hp used hu

theorem remoteSequence_le_nextSequence : account.remoteSequence ≤ account.nextSequence :=
  (nextSequence_le_iff.mp (Word.le_refl _)).1

theorem succSat_le_nextSequence (hp : p ∈ account.pending)
    (hn : n ∈ p.usedSequence? account.address) : n.succSat ≤ account.nextSequence :=
  (nextSequence_le_iff.mp (Word.le_refl _)).2 p hp n hn

theorem nextSequence_of_no_number
    (none : ∀ p ∈ account.pending, p.usedSequence? account.address = none) :
    account.nextSequence = account.remoteSequence := by
  refine Word.le_antisymm (nextSequence_le_iff.mpr ⟨Word.le_refl _, fun p hp used hu => ?_⟩)
    remoteSequence_le_nextSequence
  rw [none p hp] at hu
  cases hu

end Account

namespace Pending

variable {pending settled : List Operation} {address : String} {remote : Count} {op : Operation}

theorem mem_reconcile :
    op ∈ reconcile pending settled address remote ↔
      op ∈ pending ∧ isSeen settled op = false ∧
        isSuperseded settled address remote op = false := by
  simp only [reconcile, List.mem_filter, Bool.and_eq_true, Bool.not_eq_true']

theorem isSeen_iff :
    isSeen settled op = true ↔
      ∃ other ∈ settled, other.id = op.id ∨ other.hash ≠ "" ∧ other.hash = op.hash := by
  simp [isSeen]

theorem isSuperseded_of_used {n : Count} (hn : n ∈ op.usedSequence? address) :
    isSuperseded settled address remote op = true ↔
      n < remote ∨ ∃ other ∈ settled, ∃ used ∈ other.usedSequence? address, n ≤ used := by
  rw [Operation.usedSequence?, Option.mem_def, Option.ite_none_right_eq_some, Bool.and_eq_true]
    at hn
  obtain ⟨⟨-, sent⟩, number⟩ := hn
  simp [isSuperseded, sent, number, Option.any_eq_true]

/-- An entry that a report leaves pending has a number that is not used up. -/
theorem beyond_of_mem_reconcile {n : Count} (h : op ∈ reconcile pending settled address remote)
    (hn : n ∈ op.usedSequence? address) :
    remote ≤ n ∧ ∀ other ∈ settled, ∀ used ∈ other.usedSequence? address, used < n := by
  have open_ := (mem_reconcile.mp h).2.2
  rw [← Bool.not_eq_true, isSuperseded_of_used hn, not_or] at open_
  refine ⟨Nat.le_of_not_lt open_.1, fun other ho used hu => Nat.lt_of_not_le fun hle => ?_⟩
  exact open_.2 ⟨other, ho, used, hu, hle⟩

end Pending

end WalletSync
