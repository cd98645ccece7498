import WalletSync.Proofs.History.Ids

/-!
What merging computes. Of all known and new operations, every id is listed once, in the place of
its first operation and in the form of its last one, and the list is put in order with the latest
first. The one exception is a known list that nothing is merged into: it is not looked at, so the
description holds of it only when it is a history already.

That merging once more changes nothing follows from this and not from the way the places are kept:
the second time the ids are met in the order of the result, which is another one than the first
time, but among operations of one date it is the same.
-/

namespace WalletSync.History

/-- The last operation of an id. -/
def lastForm? (ops : List Operation) (id : String) : Option Operation :=
  ops.reverse.find? (·.id = id)

/-- Every id in the order of the first operations, with the last operation of each. -/
def lastForms (ops : List Operation) : List Operation :=
  (ids ops).eraseDups.filterMap (lastForm? ops)

/-- Every id occurs once, and dates descend. -/
structure IsHistory (ops : List Operation) : Prop where
  once : (ids ops).Nodup
  descending : ops.Pairwise fun a b => b.date ≤ a.date

section LastForms

variable {op : Operation} {ops : List Operation} {id : String}

theorem lastForm?_cons (op : Operation) (ops : List Operation) (id : String) :
    lastForm? (op :: ops) id = (lastForm? ops id).or (if op.id = id then some op else none) := by
  simp only [lastForm?, List.reverse_cons, List.find?_append, List.find?_singleton,
    decide_eq_true_eq]

theorem refine_eq_getD (ops : List Operation) (op : Operation) :
    refine ops op = (lastForm? ops op.id).getD op := by
  induction ops generalizing op with
  | nil => rfl
  | cons other rest ih =>
      rw [refine, ih, lastForm?_cons]
      by_cases same : other.id = op.id
      · rw [if_pos same, if_pos same, same]
        cases lastForm? rest op.id <;> rfl
      · rw [if_neg same, if_neg same, Option.or_none]

theorem lastForm?_cons_self (op : Operation) (ops : List Operation) :
    lastForm? (op :: ops) op.id = some (refine ops op) := by
  rw [lastForm?_cons, if_pos rfl, refine_eq_getD]
  cases lastForm? ops op.id <;> rfl

theorem lastForm?_filter {p : Operation → Bool} (kept : ∀ op ∈ ops, op.id = id → p op = true) :
    lastForm? (ops.filter p) id = lastForm? ops id := by
  induction ops with
  | nil => rfl
  | cons op rest ih =>
      have later := ih fun other listed => kept other (List.mem_cons_of_mem op listed)
      by_cases same : op.id = id
      · rw [List.filter_cons_of_pos (kept op List.mem_cons_self same), lastForm?_cons, later,
          lastForm?_cons]
      · rw [lastForm?_cons, if_neg same, Option.or_none, List.filter_cons]
        split
        · rw [lastForm?_cons, if_neg same, Option.or_none, later]
        · exact later

theorem ids_filter_ne (op : Operation) (ops : List Operation) :
    ids (ops.filter (·.id ≠ op.id)) = (ids ops).filter fun id => !id == op.id := by
  rw [ids, ids, List.filter_map]
  congr 1
  refine List.filter_congr fun other _ => ?_
  rw [Function.comp_apply, decide_not]
  rfl

theorem lastForms_cons (op : Operation) (ops : List Operation) :
    lastForms (op :: ops) = refine ops op :: lastForms (ops.filter (·.id ≠ op.id)) := by
  rw [lastForms, ids_cons, List.eraseDups_cons,
    List.filterMap_cons_some (lastForm?_cons_self op ops), ← ids_filter_ne, lastForms]
  congr 1
  refine List.filterMap_congr fun id other => ?_
  obtain ⟨form, listed, rfl⟩ := List.mem_map.mp (List.mem_eraseDups.mp other)
  have differs : form.id ≠ op.id := of_decide_eq_true (List.mem_filter.mp listed).2
  rw [lastForm?_cons, if_neg differs.symm, Option.or_none, lastForm?_filter]
  intro same _ agrees
  exact decide_eq_true (agrees ▸ differs)

/-- Putting operations in each other's place one by one leaves the last forms. -/
theorem distinct_eq_lastForms (ops : List Operation) : distinct ops = lastForms ops := by
  induction size : ops.length using Nat.strongRecOn generalizing ops with
  | ind n ih =>
      cases ops with
      | nil => rfl
      | cons op rest =>
          have shorter : (rest.filter (·.id ≠ op.id)).length < n :=
            Nat.lt_of_le_of_lt (List.length_filter_le _ rest) (size ▸ Nat.lt_succ_self _)
          rw [distinct_cons, lastForms_cons, ih _ shorter _ rfl]

theorem mem_ids_distinct : id ∈ ids (distinct ops) ↔ id ∈ ids ops := by
  rw [distinct, mem_ids_foldl_put]
  simp

theorem nodup_ids_distinct (ops : List Operation) : (ids (distinct ops)).Nodup :=
  nodup_ids_foldl_put ops .nil

end LastForms

variable {known new : List Operation}

theorem isHistory_merge_of_news (known : List Operation) (news : new ≠ []) :
    IsHistory (merge known new) :=
  ⟨nodup_ids_merge_of_news known news, descending_merge_of_news known news⟩

theorem merge_eq_latestFirst_lastForms (given : new ≠ [] ∨ IsHistory known) :
    merge known new = latestFirst (lastForms (known ++ new)) := by
  rw [← distinct_eq_lastForms]
  by_cases none : new = []
  · have ordered := given.resolve_left (not_not_intro none)
    rw [merge, if_pos none, none, List.append_nil, distinct_of_nodup ordered.once,
      latestFirst_of_descending ordered.descending]
  · rw [merge, if_neg none]

/-- Merging lists the last forms of known and new operations with the latest first, and this list
only. Of known operations that nothing is merged into this is true when they are a history, and
not otherwise. -/
theorem merge_lists_lastForms (known new : List Operation) :
    (∀ listed, merge known new = listed ↔ IsLatestFirst listed (lastForms (known ++ new))) ↔
      new ≠ [] ∨ IsHistory known := by
  constructor
  · intro specified
    by_cases none : new = []
    · have described : IsLatestFirst known (lastForms known) := by
        have both := (specified _).mp rfl
        rwa [merge, if_pos none, none, List.append_nil] at both
      refine .inr ⟨?_, described.descending⟩
      rw [described.eq_latestFirst, nodup_ids_latestFirst, ← distinct_eq_lastForms]
      exact nodup_ids_distinct known
    · exact .inl none
  · intro given listed
    rw [merge_eq_latestFirst_lastForms given]
    constructor
    · rintro rfl
      exact isLatestFirst_latestFirst _
    · intro described
      exact described.eq_latestFirst.symm

section Again

/-- The known operations in their last forms, and behind them those that are not known. -/
theorem distinct_append_eq (known new : List Operation) :
    distinct (known ++ new) =
      (distinct known).map (refine new) ++ distinct (new.filter (·.id ∉ ids known)) := by
  have start : distinct (known ++ new) =
      new.foldl (fun done op => put op done) (distinct known) := List.foldl_append
  rw [start, foldl_put new (nodup_ids_distinct known)]
  simp only [mem_ids_distinct]

/-- A merged list has the last form of every known operation. -/
theorem refine_merge (known : List Operation) (news : new ≠ []) {op : Operation}
    (listed : op ∈ distinct known) : refine (merge known new) op = refine new op := by
  have formed : refine new op ∈ merge known new := by
    rw [merge, if_neg news, mem_latestFirst, distinct_append_eq]
    exact List.mem_append_left _ (List.mem_map_of_mem listed)
  exact refine_of_mem (nodup_ids_merge_of_news known news) formed (refine_id new op)

/-- What a merged list holds beyond the known operations are the new ones, put in order. -/
theorem merge_filter_unknown (known : List Operation) (news : new ≠ []) :
    (merge known new).filter (·.id ∉ ids known) =
      latestFirst (distinct (new.filter (·.id ∉ ids known))) := by
  have nothing : ((distinct known).map (refine new)).filter (·.id ∉ ids known) = [] := by
    rw [List.filter_eq_nil_iff]
    intro form formed
    obtain ⟨op, listed, rfl⟩ := List.mem_map.mp formed
    have kept : op.id ∈ ids known := mem_ids_distinct.mp (mem_ids_of_mem listed)
    simpa using kept
  have all : (distinct (new.filter (·.id ∉ ids known))).filter (·.id ∉ ids known) =
      distinct (new.filter (·.id ∉ ids known)) := by
    rw [List.filter_eq_self]
    intro op listed
    obtain ⟨form, among, same⟩ := List.mem_map.mp (mem_ids_distinct.mp (mem_ids_of_mem listed))
    have unknown := (List.mem_filter.mp among).2
    rwa [same] at unknown
  rw [merge, if_neg news, ← latestFirst_filter, distinct_append_eq, List.filter_append, nothing,
    List.nil_append, all]

/-- The second time the unknown operations are met in order of their dates, and the sort puts them
where they were. -/
theorem merge_merge_of_news (known : List Operation) (news : new ≠ []) :
    merge known (merge known new) = merge known new := by
  have once : (ids (merge known new)).Nodup := nodup_ids_merge_of_news known news
  have given : merge known new ≠ [] := by
    obtain ⟨op, reported⟩ := List.exists_mem_of_ne_nil new news
    obtain ⟨form, listed, -⟩ := exists_mem_merge known reported
    exact List.ne_nil_of_mem listed
  have forms : (distinct known).map (refine (merge known new)) =
      (distinct known).map (refine new) :=
    List.map_congr_left fun _ listed => refine_merge known news listed
  have unknown : distinct ((merge known new).filter (·.id ∉ ids known)) =
      latestFirst (distinct (new.filter (·.id ∉ ids known))) := by
    rw [distinct_of_nodup (once.sublist (List.filter_sublist.map _)),
      merge_filter_unknown known news]
  have again : merge known (merge known new) = latestFirst
      ((distinct known).map (refine new) ++
        latestFirst (distinct (new.filter (·.id ∉ ids known)))) := by
    rw [merge, if_neg given, distinct_append_eq, forms, unknown]
  rw [again, merge, if_neg news, distinct_append_eq]
  refine eq_of_descending (descending_latestFirst _) (descending_latestFirst _) fun date => ?_
  simp only [filter_date_latestFirst, List.filter_append]

/-- Merging the result once more changes nothing, unless nothing was merged into known operations
that are no history. -/
theorem merge_again_changes_nothing (known new : List Operation) :
    merge known (merge known new) = merge known new ↔ new ≠ [] ∨ IsHistory known := by
  by_cases none : new = []
  · have same : merge known new = known := by rw [merge, if_pos none]
    rw [same]
    constructor
    · intro unchanged
      refine .inr ?_
      by_cases empty : known = []
      · rw [empty]
        exact ⟨.nil, .nil⟩
      · rw [← unchanged]
        exact isHistory_merge_of_news known empty
    · intro given
      have ordered := given.resolve_left (not_not_intro none)
      exact merge_of_subset ordered.once ordered.descending ordered.once fun _ => id
  · simp only [merge_merge_of_news known none, ne_eq, none, not_false_eq_true, true_or]

end Again

end WalletSync.History
