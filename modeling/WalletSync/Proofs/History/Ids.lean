import WalletSync.Proofs.History.Increment

/-!
Working new operations into a history keeps every id, brings in every new one, and leaves each of
them once, whatever the new operations are. An operation that is among the new ones has one of the
forms that it has there; which of them when there are several, is another question and not asked
here.
-/

namespace WalletSync.History

variable {op : Operation} {id : String}

theorem mem_ids_put (ops : List Operation) :
    id ∈ ids (put op ops) ↔ id = op.id ∨ id ∈ ids ops := by
  induction ops with
  | nil => simp [put]
  | cons known rest ih =>
      by_cases same : known.id = op.id
      · simp [put, same]
      · simp only [put, same, if_false, ids_cons, List.mem_cons, ih]
        exact or_left_comm

theorem nodup_ids_put {ops : List Operation} (once : (ids ops).Nodup) :
    (ids (put op ops)).Nodup := by
  induction ops with
  | nil => simp [put]
  | cons known rest ih =>
      rw [ids_cons, List.nodup_cons] at once
      by_cases same : known.id = op.id
      · rw [put, if_pos same, ids_cons, ← same]
        exact List.nodup_cons.mpr once
      · rw [put, if_neg same, ids_cons, List.nodup_cons, mem_ids_put, not_or]
        exact ⟨⟨same, once.1⟩, ih once.2⟩

theorem mem_ids_foldl_put (new done : List Operation) :
    id ∈ ids (new.foldl (fun done op => put op done) done) ↔ id ∈ ids done ∨ id ∈ ids new := by
  induction new generalizing done with
  | nil => simp
  | cons op rest ih =>
      rw [List.foldl_cons, ih, mem_ids_put, ids_cons, List.mem_cons, or_comm (a := id = op.id),
        or_assoc]

theorem nodup_ids_foldl_put (new : List Operation) {done : List Operation}
    (once : (ids done).Nodup) :
    (ids (new.foldl (fun done op => put op done) done)).Nodup := by
  induction new generalizing done with
  | nil => exact once
  | cons op rest ih => exact ih (nodup_ids_put once)

theorem mem_of_mem_put {ops : List Operation} {other : Operation} (once : (ids ops).Nodup)
    (listed : other ∈ put op ops) : other = op ∨ other ∈ ops ∧ other.id ≠ op.id := by
  induction ops with
  | nil => exact .inl (List.mem_singleton.mp listed)
  | cons known rest ih =>
      rw [ids_cons, List.nodup_cons] at once
      by_cases same : known.id = op.id
      · rw [put, if_pos same] at listed
        rcases List.mem_cons.mp listed with rfl | later
        · exact .inl rfl
        · refine .inr ⟨List.mem_cons_of_mem _ later, ?_⟩
          intro again
          exact once.1 (same.trans again.symm ▸ mem_ids_of_mem later)
      · rw [put, if_neg same] at listed
        rcases List.mem_cons.mp listed with rfl | later
        · exact .inr ⟨List.mem_cons_self, same⟩
        · exact (ih once.2 later).imp_right fun kept => ⟨List.mem_cons_of_mem _ kept.1, kept.2⟩

/-- What new operations are put into keeps its form only where no new one has the id. -/
theorem mem_of_mem_foldl_put {new done : List Operation} (once : (ids done).Nodup)
    (listed : op ∈ new.foldl (fun done op => put op done) done) :
    op ∈ new ∨ op ∈ done ∧ op.id ∉ ids new := by
  induction new generalizing done with
  | nil => exact .inr ⟨listed, List.not_mem_nil⟩
  | cons first rest ih =>
      rcases ih (nodup_ids_put once) listed with later | ⟨kept, unknown⟩
      · exact .inl (List.mem_cons_of_mem _ later)
      · rcases mem_of_mem_put once kept with rfl | ⟨old, differs⟩
        · exact .inl List.mem_cons_self
        · refine .inr ⟨old, ?_⟩
          rw [ids_cons, List.mem_cons, not_or]
          exact ⟨differs, unknown⟩

theorem mem_ids_latestFirst {ops : List Operation} : id ∈ ids (latestFirst ops) ↔ id ∈ ids ops :=
  ((latestFirst_perm ops).map _).mem_iff

theorem mem_ids_merge (known new : List Operation) :
    id ∈ ids (merge known new) ↔ id ∈ ids known ∨ id ∈ ids new := by
  by_cases none : new = []
  · simp [merge, none]
  · rw [merge, if_neg none, mem_ids_latestFirst, distinct, mem_ids_foldl_put, ids_append]
    simp

/-- An operation that is reported stands in the merged history in a form that was reported. -/
theorem mem_new_of_mem_merge {known new : List Operation} (listed : op ∈ merge known new)
    (reported : op.id ∈ ids new) : op ∈ new := by
  have given : new ≠ [] := by
    intro none
    rw [none] at reported
    cases reported
  rw [merge, if_neg given, mem_latestFirst, distinct, List.foldl_append] at listed
  have once : (ids (known.foldl (fun done op => put op done) [])).Nodup :=
    nodup_ids_foldl_put known .nil
  rcases mem_of_mem_foldl_put once listed with new | ⟨-, unknown⟩
  · exact new
  · exact absurd reported unknown

theorem exists_mem_merge (known : List Operation) {new : List Operation} (reported : op ∈ new) :
    ∃ form ∈ merge known new, form.id = op.id ∧ form ∈ new := by
  have kept : op.id ∈ ids (merge known new) :=
    (mem_ids_merge _ _).mpr (.inr (mem_ids_of_mem reported))
  obtain ⟨form, listed, same⟩ := List.mem_map.mp kept
  exact ⟨form, listed, same, mem_new_of_mem_merge listed (same ▸ mem_ids_of_mem reported)⟩

theorem mem_merge_of_mem {known new : List Operation} (once : (ids new).Nodup)
    (reported : op ∈ new) : op ∈ merge known new := by
  obtain ⟨form, listed, same, formed⟩ := exists_mem_merge known reported
  obtain rfl := List.inj_on_of_nodup_map once formed reported same
  exact listed

theorem mem_of_mem_distinct {ops : List Operation} (listed : op ∈ distinct ops) : op ∈ ops := by
  have start : (ids ([] : List Operation)).Nodup := .nil
  rcases mem_of_mem_foldl_put start listed with given | ⟨nowhere, -⟩
  · exact given
  · cases nowhere

theorem mem_of_mem_merge {known new : List Operation} (listed : op ∈ merge known new) :
    op ∈ known ∨ op ∈ new := by
  by_cases none : new = []
  · rw [merge, if_pos none] at listed
    exact .inl listed
  · rw [merge, if_neg none, mem_latestFirst] at listed
    exact List.mem_append.mp (mem_of_mem_distinct listed)

section News

variable {new : List Operation} (known : List Operation)

/-- Anything new puts even a list in order that was not. -/
theorem descending_merge_of_news (news : new ≠ []) :
    (merge known new).Pairwise fun a b => b.date ≤ a.date := by
  rw [merge, if_neg news]
  exact descending_latestFirst _

theorem nodup_ids_merge_of_news (news : new ≠ []) : (ids (merge known new)).Nodup := by
  rw [merge, if_neg news, nodup_ids_latestFirst]
  exact nodup_ids_foldl_put _ .nil

end News

theorem nodup_ids_merge {known : List Operation} (new : List Operation)
    (once : (ids known).Nodup) : (ids (merge known new)).Nodup := by
  by_cases none : new = []
  · rwa [merge, if_pos none]
  · exact nodup_ids_merge_of_news known none

theorem descending_merge {known : List Operation} (new : List Operation)
    (ordered : known.Pairwise fun a b => b.date ≤ a.date) :
    (merge known new).Pairwise fun a b => b.date ≤ a.date := by
  by_cases none : new = []
  · rwa [merge, if_pos none]
  · exact descending_merge_of_news known none

end WalletSync.History
