import Mathlib.Order.Bounds.Defs
import WalletSync.Proofs.Sync.NextSequence

/-!
The next sequence number is the least one that is safe: the chain still takes it, and it is beyond
every number under which a payment of the account waits. Sequence numbers are words, and beyond the
last word there is none. Once a payment waits under it no number is safe, and the last one is given
out again.
-/

namespace WalletSync

namespace Word

variable {bits : Nat} {a b : Word bits}

theorem le_top (a : Word bits) : a ≤ top := by
  show a.val ≤ min (1 <<< bits - 1) (1 <<< bits - 1)
  have := a.val_lt
  omega

theorem top_le_iff : top ≤ a ↔ a = top := by
  constructor
  · intro last
    exact le_antisymm a.le_top last
  · rintro rfl
    exact le_refl top

theorem succSat_le_iff (below : a < top) : a.succSat ≤ b ↔ a < b := by
  change a.val < min (1 <<< bits - 1) (1 <<< bits - 1) at below
  show a.succSat.val ≤ b.val ↔ a.val < b.val
  rw [val_succSat]
  omega

theorem lt_top_iff : a < top ↔ a ≠ top := by
  rw [ne_eq, ← top_le_iff]
  exact Nat.not_le.symm

end Word

theorem Operation.mem_usedSequence? {op : Operation} {address : String} {n : Count} :
    n ∈ op.usedSequence? address ↔
      op.direction = .outgoing ∧ op.isSentBy address = true ∧ op.sequence = some n := by
  rw [usedSequence?, Option.mem_def, Option.ite_none_right_eq_some, Bool.and_eq_true,
    decide_eq_true_eq, and_assoc]

namespace Account

variable {account : Account} {n bound : Count}

/-- A payment of the account is pending under the number. -/
def Awaits (account : Account) (n : Count) : Prop :=
  ∃ p ∈ account.pending,
    p.direction = .outgoing ∧ p.isSentBy account.address = true ∧ p.sequence = some n

/-- A transaction under the number is not behind the chain and collides with no payment that is
pending. -/
def IsSafe (account : Account) (n : Count) : Prop :=
  account.remoteSequence ≤ n ∧ ∀ used, account.Awaits used → used < n

theorem nextSequence_le_iff_awaits :
    account.nextSequence ≤ bound ↔
      account.remoteSequence ≤ bound ∧ ∀ used, account.Awaits used → used.succSat ≤ bound := by
  rw [nextSequence_le_iff]
  apply and_congr_right'
  constructor
  · rintro beyond used ⟨p, listed, own⟩
    exact beyond p listed used (Operation.mem_usedSequence?.mpr own)
  · intro beyond p listed used number
    exact beyond used ⟨p, listed, Operation.mem_usedSequence?.mp number⟩

theorem isSafe_iff_nextSequence_le (room : ¬account.Awaits Word.top) :
    account.IsSafe n ↔ account.nextSequence ≤ n := by
  rw [nextSequence_le_iff_awaits, IsSafe]
  have below (used : Count) (waits : account.Awaits used) : used < Word.top :=
    Word.lt_top_iff.mpr fun last => room (last ▸ waits)
  apply and_congr_right'
  constructor
  · intro beyond used waits
    exact (Word.succSat_le_iff (below used waits)).mpr (beyond used waits)
  · intro beyond used waits
    exact (Word.succSat_le_iff (below used waits)).mp (beyond used waits)

theorem not_isSafe_of_awaits_top (full : account.Awaits Word.top) (n : Count) :
    ¬account.IsSafe n := by
  intro safe
  exact Word.lt_top_iff.mp (Word.lt_of_lt_of_le (safe.2 Word.top full) n.le_top) rfl

theorem nextSequence_of_awaits_top (full : account.Awaits Word.top) :
    account.nextSequence = Word.top := by
  have last : (Word.top : Count).succSat ≤ account.nextSequence :=
    (nextSequence_le_iff_awaits.mp (Word.le_refl _)).2 Word.top full
  exact Word.top_le_iff.mp last

/-- The next sequence number is the least safe one, exactly as long as no payment of the account
waits under the last number there is. Beyond that no number is safe, and it is the last one. -/
theorem nextSequence_isLeast_safe (account : Account) :
    (IsLeast {n | account.IsSafe n} account.nextSequence ↔ ¬account.Awaits Word.top) ∧
      (account.Awaits Word.top →
        account.nextSequence = Word.top ∧ ∀ n, ¬account.IsSafe n) := by
  refine ⟨⟨fun least full => ?_, fun room => ⟨?_, fun n safe => ?_⟩⟩, fun full => ⟨?_, ?_⟩⟩
  · exact not_isSafe_of_awaits_top full _ least.1
  · exact (isSafe_iff_nextSequence_le room).mpr (Word.le_refl _)
  · exact (isSafe_iff_nextSequence_le room).mp safe
  · exact nextSequence_of_awaits_top full
  · exact not_isSafe_of_awaits_top full

section Sample

def sampleWaiting (n : Count) : Operation :=
  History.ofEntry (accountId .elrond "me") "me" (samplePayment "c" n none)

/-- Payments wait under the numbers 5 and 7. One of somebody else, one that comes in and one that
has no number count for nothing. -/
def crowdedSender : Account :=
  { sampleSender [] with
    pending := [{ sampleWaiting 40 with senders := ["you"] }, sampleWaiting 7,
      { sampleWaiting 30 with direction := .incoming }, { sampleWaiting 0 with sequence := none },
      sampleWaiting 5] }

theorem nextSequence_isLeast_safe_of_crowd :
    IsLeast {n | crowdedSender.IsSafe n} crowdedSender.nextSequence ∧
      crowdedSender.nextSequence = 8 ∧
      (sampleSender [("b", Word.top), ("a", 5)]).Awaits Word.top ∧
      (sampleSender [("b", Word.top), ("a", 5)]).nextSequence = Word.top := by
  have room : ¬crowdedSender.Awaits Word.top := by
    rw [Awaits]
    decide +kernel
  have full : (sampleSender [("b", Word.top), ("a", 5)]).Awaits Word.top := by
    rw [Awaits]
    decide +kernel
  refine ⟨(nextSequence_isLeast_safe crowdedSender).1.mpr room, by decide +kernel, full, ?_⟩
  exact ((nextSequence_isLeast_safe _).2 full).1

/-- The number that is given out is the one that a payment waits under. -/
theorem last_number_is_given_out_again :
    ¬∀ account : Account, IsLeast {n | account.IsSafe n} account.nextSequence := by
  intro claim
  have full : (sampleSender [("a", Word.top)]).Awaits Word.top := by
    rw [Awaits]
    decide +kernel
  have beyond := (claim (sampleSender [("a", Word.top)])).1.2 Word.top full
  revert beyond
  decide +kernel

end Sample

end Account

end WalletSync
