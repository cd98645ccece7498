import Mathlib.Tactic.Tauto
import WalletSync.Proofs.Pending.Superseded

/-!
Settling pending entries in several passes. Of the settled operations of a pass only their ids,
their hashes and the highest number matter that the address has used in them, and the evidence of
two passes is joined part by part. So one pass over all that was settled leaves what any passes
leave that find it bit by bit.

The passes are taken over one list. Entries that are recorded between two of them are not treated
here.
-/

namespace WalletSync

namespace Pending

/-- What settled operations tell about the pending entries of an address. -/
structure Evidence where
  ids : List String
  /-- Those of operations that have one. -/
  hashes : List String
  /-- The highest sequence number that the address has used. -/
  highest : Option Count

namespace Evidence

variable {address : String} {remote later : Count} {op : Operation} {settled other : List Operation}

def of (address : String) (settled : List Operation) : Evidence where
  ids := settled.map (·.id)
  hashes := (settled.filter fun op => op.hash ≠ "").map (·.hash)
  highest := (settled.map (·.usedSequence? address)).foldr (Option.merge max) none

def join (a b : Evidence) : Evidence where
  ids := a.ids ++ b.ids
  hashes := a.hashes ++ b.hashes
  highest := Option.merge max a.highest b.highest

/-- The entry is one of the settled operations. -/
def recognises (evidence : Evidence) (op : Operation) : Bool :=
  evidence.ids.contains op.id || evidence.hashes.contains op.hash

/-- The number of the entry is used up, if the chain expects `remote` next. -/
def overtakes (evidence : Evidence) (address : String) (remote : Count) (op : Operation) : Bool :=
  op.isSentBy address && op.sequence.any fun n =>
    n < remote || evidence.highest.any fun used => n ≤ used

theorem foldr_merge_append (used more : List (Option Count)) :
    (used ++ more).foldr (Option.merge max) none =
      Option.merge max (used.foldr (Option.merge max) none)
        (more.foldr (Option.merge max) none) := by
  induction used with
  | nil => simp
  | cons n used ih =>
      rw [List.cons_append, List.foldr_cons, List.foldr_cons, ih]
      exact (Std.Associative.assoc _ _ _).symm

theorem of_append (address : String) (settled other : List Operation) :
    of address (settled ++ other) = (of address settled).join (of address other) := by
  simp only [of, join, List.map_append, List.filter_append, foldr_merge_append]

theorem any_merge_max (n : Count) (a b : Option Count) :
    ((Option.merge max a b).any fun used => n ≤ used) =
      ((a.any fun used => n ≤ used) || b.any fun used => n ≤ used) := by
  apply Option.any_merge
  intro used more
  rw [← Bool.decide_or, decide_eq_decide]
  exact Word.le_max_iff

theorem any_highest (n : Count) (settled : List Operation) :
    ((of address settled).highest.any fun used => n ≤ used) =
      settled.any fun op => (op.usedSequence? address).any fun used => n ≤ used := by
  induction settled with
  | nil => rfl
  | cons op rest ih =>
      rw [List.any_cons, ← ih]
      exact any_merge_max n _ _

theorem recognises_of (address : String) (settled : List Operation) (op : Operation) :
    (of address settled).recognises op = isSeen settled op := by
  rw [Bool.eq_iff_iff, isSeen_iff, recognises, Bool.or_eq_true, List.contains_iff_mem,
    List.contains_iff_mem]
  simp only [of, List.mem_map, List.mem_filter, decide_eq_true_eq, ← exists_or, and_or_left,
    and_assoc]

theorem overtakes_of (settled : List Operation) (address : String) (remote : Count)
    (op : Operation) :
    (of address settled).overtakes address remote op =
      isSuperseded settled address remote op := by
  simp only [overtakes, isSuperseded, any_highest]

theorem recognises_join (a b : Evidence) (op : Operation) :
    (a.join b).recognises op = (a.recognises op || b.recognises op) := by
  simp only [recognises, join, List.contains_append]
  ac_rfl

theorem overtakes_join (a b : Evidence) (address : String) (remote later : Count)
    (op : Operation) :
    (a.join b).overtakes address (max remote later) op =
      (a.overtakes address remote op || b.overtakes address later op) := by
  simp only [overtakes, join, any_merge_max, Word.lt_max_iff, Bool.decide_or]
  cases op.sequence with
  | none => simp
  | some n =>
      rw [← Bool.and_or_distrib_left]
      simp only [Option.any_some]
      ac_rfl

end Evidence

section Passes

variable {pending settled more : List Operation} {address : String} {remote later : Count}

theorem reconcile_eq (pending settled : List Operation) (address : String) (remote : Count) :
    reconcile pending settled address remote = pending.filter fun op =>
      !((Evidence.of address settled).recognises op ||
        (Evidence.of address settled).overtakes address remote op) := by
  simp only [reconcile, Evidence.recognises_of, Evidence.overtakes_of, Bool.not_or]

theorem reconcile_append (pending settled more : List Operation) (address : String)
    (remote later : Count) :
    reconcile (reconcile pending settled address remote) more address later =
      reconcile pending (settled ++ more) address (max remote later) := by
  rw [reconcile_eq, reconcile_eq, reconcile_eq, List.filter_filter]
  -- What stays is a condition on the single entry, so the claim is one about its evidence.
  refine List.filter_congr fun op _ => ?_
  rw [Evidence.of_append, Evidence.recognises_join, Evidence.overtakes_join, ← Bool.not_or]
  congr 1
  ac_rfl

theorem reconcile_nil (pending : List Operation) (address : String) :
    reconcile pending [] address 0 = pending := by
  apply List.filter_eq_self.mpr
  intro op _
  simp [isSeen, isSuperseded, Word.not_lt_zero]

/-- It does not matter in which order operations were settled, nor how often one is among them. -/
theorem reconcile_congr (same : ∀ op, op ∈ settled ↔ op ∈ more) :
    reconcile pending settled address remote = reconcile pending more address remote := by
  have seen (op : Operation) : isSeen settled op = isSeen more op := by
    rw [Bool.eq_iff_iff, isSeen_iff, isSeen_iff]
    simp only [same]
  have superseded (op : Operation) :
      isSuperseded settled address remote op = isSuperseded more address remote op := by
    rw [Bool.eq_iff_iff, isSuperseded_iff, isSuperseded_iff]
    simp only [same]
  simp only [reconcile, seen, superseded]

end Passes

/-- What one sync finds: settled operations and the number that the chain expects next. -/
structure Pass where
  settled : List Operation
  remote : Count

namespace Pass

def settle (address : String) (pending : List Operation) (pass : Pass) : List Operation :=
  reconcile pending pass.settled address pass.remote

/-- All that the passes find, as one pass. -/
def all (passes : List Pass) : Pass where
  settled := passes.flatMap (·.settled)
  remote := (passes.map (·.remote)).foldr max 0

variable {passes others : List Pass} {bound : Count}

theorem foldl_settle (address : String) (pending : List Operation) (passes : List Pass) :
    passes.foldl (settle address) pending = (all passes).settle address pending := by
  -- The passes shorten the list, so it varies while the passes become fewer.
  induction passes generalizing pending with
  | nil => exact (reconcile_nil pending address).symm
  | cons pass rest ih =>
      rw [List.foldl_cons, ih]
      exact reconcile_append _ _ _ _ _ _

theorem remote_all_le_iff : (all passes).remote ≤ bound ↔ ∀ pass ∈ passes, pass.remote ≤ bound := by
  induction passes with
  | nil => simp [all, Word.zero_le]
  | cons pass rest ih =>
      rw [List.forall_mem_cons, ← ih]
      exact Word.max_le_iff

theorem settle_all_congr (same : ∀ pass, pass ∈ others ↔ pass ∈ passes) (address : String)
    (pending : List Operation) :
    (all others).settle address pending = (all passes).settle address pending := by
  have remotes : (all others).remote = (all passes).remote := by
    apply Word.le_antisymm <;> rw [remote_all_le_iff]
    · intro pass among
      exact remote_all_le_iff.mp (Word.le_refl _) pass ((same pass).mp among)
    · intro pass among
      exact remote_all_le_iff.mp (Word.le_refl _) pass ((same pass).mpr among)
  rw [settle, settle, remotes]
  apply reconcile_congr
  intro op
  simp only [all, List.mem_flatMap, same]

end Pass

/-- Two passes leave what one does that knows all they know, and so do any number of them. Neither
their order nor how often one is taken makes a difference, and what stays is in its old order. -/
theorem passes_leave_what_one_leaves (pending : List Operation) (address : String) :
    (∀ (settled more : List Operation) (remote later : Count),
      reconcile (reconcile pending settled address remote) more address later =
        reconcile pending (settled ++ more) address (max remote later)) ∧
    ∀ passes : List Pass,
      passes.foldl (Pass.settle address) pending = (Pass.all passes).settle address pending ∧
      (passes.foldl (Pass.settle address) pending).Sublist pending ∧
      ∀ others : List Pass, (∀ pass, pass ∈ others ↔ pass ∈ passes) →
        others.foldl (Pass.settle address) pending =
          passes.foldl (Pass.settle address) pending := by
  constructor
  · intro settled more remote later
    exact reconcile_append pending settled more address remote later
  · intro passes
    have once := Pass.foldl_settle address pending passes
    refine ⟨once, ?_, ?_⟩
    · rw [once]
      exact List.filter_sublist
    · intro others same
      rw [once, Pass.foldl_settle, Pass.settle_all_congr same]

section Sample

def samplePending : List Operation :=
  (sampleSender [("d", 8), ("c", 7), ("b", 6), ("a", 5)]).pending

/-- The chain has gone beyond the number 5, but shows nothing. -/
def samplePassed : Pass := ⟨[], 6⟩

/-- The payment `c` is recognised by its hash. As it comes in here its number counts for nothing. -/
def sampleArrived : Pass :=
  ⟨[History.ofEntry (accountId .elrond "you") "you" (samplePayment "c" 7 (some 9))], 0⟩

theorem passes_leave_what_one_leaves_of_shuffled :
    (∀ pass, pass ∈ [sampleArrived, samplePassed, sampleArrived] ↔
      pass ∈ [samplePassed, sampleArrived]) ∧
    [sampleArrived, samplePassed, sampleArrived].foldl (Pass.settle "me") samplePending =
      [samplePassed, sampleArrived].foldl (Pass.settle "me") samplePending ∧
    ([samplePassed, sampleArrived].foldl (Pass.settle "me") samplePending).map (·.hash) =
      ["d", "b"] := by
  have same : ∀ pass, pass ∈ [sampleArrived, samplePassed, sampleArrived] ↔
      pass ∈ [samplePassed, sampleArrived] := by
    intro pass
    simp only [List.mem_cons, List.not_mem_nil, or_false]
    tauto
  refine ⟨same, ?_, by decide +kernel⟩
  exact ((passes_leave_what_one_leaves samplePending "me").2 _).2.2 _ same

end Sample

end Pending

end WalletSync
