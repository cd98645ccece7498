import Mathlib.Data.List.Nodup
import WalletSync.Proofs.History.Order
import WalletSync.Proofs.Operation.Id

/-!
What working new operations into known ones amounts to: every known operation takes the last form
that the new ones give it and stays where it is, and the ids that were not known follow in the
order in which they first occur. That every id is kept and occurs once follows from this, but is
not said here.
-/

namespace WalletSync.History

/-- The last form of an operation: that of the last one of its id, if there is one. -/
def refine : List Operation → Operation → Operation
  | [], op => op
  | other :: rest, op => refine rest (if other.id = op.id then other else op)

@[simp]
theorem refine_id (ops : List Operation) (op : Operation) : (refine ops op).id = op.id := by
  induction ops generalizing op with
  | nil => rfl
  | cons other rest ih =>
      rw [refine, ih]
      split
      · assumption
      · rfl

theorem refine_of_not_mem {ops : List Operation} {op : Operation} (h : op.id ∉ ids ops) :
    refine ops op = op := by
  induction ops with
  | nil => rfl
  | cons other rest ih =>
      rw [ids_cons, List.mem_cons, not_or] at h
      rw [refine, if_neg (Ne.symm h.1)]
      exact ih h.2

/-- Only operations of the same id have a say. -/
theorem refine_filter {p : Operation → Bool} {ops : List Operation} {op : Operation}
    (h : ∀ other ∈ ops, other.id = op.id → p other = true) :
    refine (ops.filter p) op = refine ops op := by
  induction ops generalizing op with
  | nil => rfl
  | cons other rest ih =>
      have hrest : ∀ next ∈ rest, next.id = op.id → p next = true :=
        fun next hn => h next (List.mem_cons_of_mem other hn)
      by_cases same : other.id = op.id
      · rw [List.filter_cons_of_pos (h other List.mem_cons_self same), refine, refine,
          if_pos same]
        exact ih (by rwa [same])
      · rw [refine, if_neg same, List.filter_cons]
        split
        · rw [refine, if_neg same]
          exact ih hrest
        · exact ih hrest

/-- When every id occurs once, the operation of an id is its last form. -/
theorem refine_of_mem {ops : List Operation} {op new : Operation} (once : (ids ops).Nodup)
    (hm : new ∈ ops) (hid : new.id = op.id) : refine ops op = new := by
  induction ops generalizing op with
  | nil => cases hm
  | cons other rest ih =>
      rw [ids_cons, List.nodup_cons] at once
      rcases List.mem_cons.mp hm with rfl | hr
      · rw [refine, if_pos hid]
        exact refine_of_not_mem once.1
      · have differs : other.id ≠ op.id := by
          intro h
          exact once.1 (h ▸ hid ▸ mem_ids_of_mem hr)
        rw [refine, if_neg differs]
        exact ih once.2 hr hid

/-- What is put into a list passes its first operation by, but for the forms of its own id. -/
theorem foldl_put_cons (new known : List Operation) (first : Operation) :
    new.foldl (fun done op => put op done) (first :: known) =
      refine new first ::
        (new.filter (·.id ≠ first.id)).foldl (fun done op => put op done) known := by
  induction new generalizing first known with
  | nil => rfl
  | cons op rest ih =>
      by_cases same : first.id = op.id
      · rw [List.foldl_cons, put, if_pos same, ih, refine, if_pos same.symm,
          List.filter_cons_of_neg (by simp [same]), same]
      · rw [List.foldl_cons, put, if_neg same, ih, refine, if_neg (Ne.symm same),
          List.filter_cons_of_pos (by simpa using Ne.symm same), List.foldl_cons]

theorem distinct_cons (op : Operation) (ops : List Operation) :
    distinct (op :: ops) = refine ops op :: distinct (ops.filter (·.id ≠ op.id)) :=
  foldl_put_cons ops [] op

/-- Working new operations into known ones of different ids. -/
theorem foldl_put (new : List Operation) {known : List Operation} (once : (ids known).Nodup) :
    new.foldl (fun done op => put op done) known =
      known.map (refine new) ++ distinct (new.filter (·.id ∉ ids known)) := by
  induction known generalizing new with
  | nil =>
      rw [List.filter_eq_self.mpr (by simp)]
      rfl
  | cons first known ih =>
      rw [ids_cons, List.nodup_cons] at once
      rw [foldl_put_cons, ih _ once.2, List.filter_filter, List.map_cons, List.cons_append]
      congr 2
      · refine List.map_congr_left fun op hop => refine_filter fun other _ same => ?_
        have differs : op.id ≠ first.id := fun h => once.1 (h ▸ mem_ids_of_mem hop)
        simpa [same] using differs
      · congr 1
        refine List.filter_congr fun op _ => ?_
        simp only [ids_cons, List.mem_cons, not_or, Bool.decide_and, Bool.and_comm, ne_eq]

/-- Operations of different ids are distinct as they are. -/
theorem distinct_of_nodup {ops : List Operation} (once : (ids ops).Nodup) : distinct ops = ops := by
  induction ops with
  | nil => rfl
  | cons op rest ih =>
      rw [ids_cons, List.nodup_cons] at once
      have others : rest.filter (·.id ≠ op.id) = rest := by
        refine List.filter_eq_self.mpr fun other ho => ?_
        have differs : other.id ≠ op.id := fun h => once.1 (h ▸ mem_ids_of_mem ho)
        simpa using differs
      rw [distinct_cons, others, ih once.2, refine_of_not_mem once.1]

theorem distinct_append (ops : List Operation) {known : List Operation}
    (once : (ids known).Nodup) :
    distinct (known ++ ops) =
      known.map (refine ops) ++ distinct (ops.filter (·.id ∉ ids known)) := by
  have start : distinct (known ++ ops) =
      ops.foldl (fun done op => put op done) (distinct known) := List.foldl_append
  rw [start, distinct_of_nodup once, foldl_put ops once]

/-- Merging into a history: the known operations in their last form, the unknown ones behind them,
and all of it in order again. -/
theorem merge_eq {known : List Operation} (new : List Operation) (once : (ids known).Nodup)
    (ordered : known.Pairwise fun a b => b.date ≤ a.date) :
    merge known new =
      latestFirst (known.map (refine new) ++ distinct (new.filter (·.id ∉ ids known))) := by
  rw [← distinct_append new once, merge]
  split
  · next none => rw [none, List.append_nil, distinct_of_nodup once,
      latestFirst_of_descending ordered]
  · rfl

/-- A history is left as it is by what it holds already. -/
theorem merge_of_subset {known new : List Operation} (once : (ids known).Nodup)
    (ordered : known.Pairwise fun a b => b.date ≤ a.date) (onceNew : (ids new).Nodup)
    (held : ∀ op ∈ new, op ∈ known) : merge known new = known := by
  have nothing : new.filter (·.id ∉ ids known) = [] := by
    rw [List.filter_eq_nil_iff]
    intro op reported
    simpa using mem_ids_of_mem (held op reported)
  have unchanged : ∀ op ∈ known, refine new op = op := by
    intro op hop
    by_cases reported : op.id ∈ ids new
    · obtain ⟨other, listed, same⟩ := List.mem_map.mp reported
      rw [refine_of_mem onceNew listed same]
      exact List.inj_on_of_nodup_map once (held other listed) hop same
    · exact refine_of_not_mem reported
  rw [merge_eq new once ordered, nothing, List.map_congr_left unchanged, List.map_id']
  exact (congrArg latestFirst (List.append_nil known)).trans (latestFirst_of_descending ordered)

end WalletSync.History
