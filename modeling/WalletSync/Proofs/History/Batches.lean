import Mathlib
import WalletSync.Proofs.History.LastForms

/-!
Merging in batches. The first batch is put in order before the second one is worked in, so the
second one meets the known operations in another order than if both came at once. Among operations
of one date the order is the same, and as long as no id changes its date nothing else matters.
-/

namespace WalletSync.History

/-- Operations of one id have one date. -/
def HaveFixedDates (ops : List Operation) : Prop :=
  ∀ op ∈ ops, ∀ other ∈ ops, op.id = other.id → op.date = other.date

instance (ops : List Operation) : Decidable (HaveFixedDates ops) :=
  inferInstanceAs (Decidable (∀ op ∈ ops, ∀ other ∈ ops, op.id = other.id → op.date = other.date))

variable {known new first second : List Operation} {op : Operation}

theorem merge_nil (known : List Operation) : merge known [] = known := by rw [merge, if_pos rfl]

theorem date_refine (kept : ∀ form ∈ new, form.id = op.id → form.date = op.date) :
    (refine new op).date = op.date := by
  induction new generalizing op with
  | nil => rfl
  | cons form rest ih =>
      have later : ∀ other ∈ rest, other.id = op.id → other.date = op.date :=
        fun other listed => kept other (List.mem_cons_of_mem form listed)
      rw [refine]
      split
      · next same =>
          -- From here on forms are compared with this one, which has the date of `op`.
          have dates := kept form List.mem_cons_self same
          rw [ih fun other listed again => (later other listed (again.trans same)).trans dates.symm,
            dates]
      · exact ih later

/-- What is worked into operations that have been put in order may as well be worked into them as
they came, if it keeps their dates. -/
theorem latestFirst_distinct_append
    (kept : ∀ op ∈ known, ∀ form ∈ new, form.id = op.id → form.date = op.date) :
    latestFirst (distinct (latestFirst (distinct known) ++ new)) =
      latestFirst (distinct (known ++ new)) := by
  have once : (ids (latestFirst (distinct known))).Nodup :=
    nodup_ids_latestFirst.mpr (nodup_ids_distinct known)
  have formed : (latestFirst (distinct known)).map (refine new) =
      latestFirst ((distinct known).map (refine new)) :=
    (latestFirst_map fun op listed => date_refine (kept op (mem_of_mem_distinct listed))).symm
  rw [distinct_append new once, formed, latestFirst_latestFirst_append, distinct_append_eq]
  simp only [mem_ids_latestFirst, mem_ids_distinct]

/-- Merging one batch after the other equals merging both at once. -/
theorem merge_in_batches (fixed : HaveFixedDates (known ++ first ++ second)) :
    merge (merge known first) second = merge known (first ++ second) := by
  -- Where nothing comes nothing is put in order, so an empty batch is no case of the rest.
  by_cases noFirst : first = []
  · rw [noFirst, List.nil_append, merge_nil]
  by_cases noSecond : second = []
  · rw [noSecond, List.append_nil, merge_nil]
  have both : first ++ second ≠ [] := List.append_ne_nil_of_left_ne_nil noFirst second
  have kept : ∀ op ∈ known ++ first, ∀ form ∈ second, form.id = op.id → form.date = op.date :=
    fun op listed form given =>
      fixed form (List.mem_append_right _ given) op (List.mem_append_left _ listed)
  calc merge (merge known first) second
      = latestFirst (distinct (latestFirst (distinct (known ++ first)) ++ second)) := by
        rw [merge, if_neg noSecond, merge, if_neg noFirst]
    _ = latestFirst (distinct (known ++ first ++ second)) := latestFirst_distinct_append kept
    _ = merge known (first ++ second) := by rw [merge, if_neg both, List.append_assoc]

section Sample

/-- An operation that is told by its id, its date and whether it has failed. -/
def sampleForm (id : String) (date : Moment) (hasFailed : Bool) : Operation :=
  { id := id, hash := id, accountId := "me", direction := .incoming, value := 1, fee := 0
    senders := [], recipients := ["me"], date := date, blockHeight := none, blockHash := none
    sequence := none, hasFailed := hasFailed }

/-- Operations that are out of order, one of them twice. -/
def sampleKnown : List Operation :=
  [sampleForm "a" .epoch false, sampleForm "b" .latest false, sampleForm "a" .epoch false]

def sampleFirst : List Operation := [sampleForm "c" .latest false, sampleForm "d" .epoch false]

/-- Later forms of what is known and of what has come with the first batch. -/
def sampleSecond : List Operation :=
  [sampleForm "e" .latest false, sampleForm "d" .epoch true, sampleForm "a" .epoch true]

theorem merge_in_batches_of_disordered :
    HaveFixedDates (sampleKnown ++ sampleFirst ++ sampleSecond) ∧
      merge (merge sampleKnown sampleFirst) sampleSecond =
        merge sampleKnown (sampleFirst ++ sampleSecond) ∧
      merge (merge sampleKnown sampleFirst) sampleSecond =
        [sampleForm "b" .latest false, sampleForm "c" .latest false, sampleForm "e" .latest false,
          sampleForm "a" .epoch true, sampleForm "d" .epoch true] :=
  ⟨by decide, merge_in_batches (by decide), by cbv⟩

/-- When an id comes again with another date, what was put in front of it because of the first one
stays there. -/
example :
    ids (merge (merge [] [sampleForm "a" .epoch false, sampleForm "b" .latest false])
        [sampleForm "a" .latest false]) = ["b", "a"] ∧
      ids (merge [] ([sampleForm "a" .epoch false, sampleForm "b" .latest false] ++
        [sampleForm "a" .latest false])) = ["a", "b"] := by cbv

end Sample

end WalletSync.History
