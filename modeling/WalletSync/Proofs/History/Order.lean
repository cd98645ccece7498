import WalletSync.History
import WalletSync.Proofs.Moment.Order

/-!
What it means that operations are listed with the latest first: dates descend, and operations of
one date stand in the order in which they came. The two conditions leave exactly one list, which
is how the laws of the sort are shown here: both sides are such a list of the same operations.
-/

namespace WalletSync.History

/-- `listed` holds the operations of `ops`, later dates first and those of one date in the order
of `ops`. -/
structure IsLatestFirst (listed ops : List Operation) : Prop where
  descending : listed.Pairwise fun a b => b.date ≤ a.date
  sameDate : ∀ date, listed.filter (·.date = date) = ops.filter (·.date = date)

theorem date_ge_trans (a b c : Operation) (hab : decide (b.date ≤ a.date) = true)
    (hbc : decide (c.date ≤ b.date) = true) : decide (c.date ≤ a.date) = true := by
  rw [decide_eq_true_eq] at *
  exact Moment.le_trans hbc hab

theorem date_ge_total (a b : Operation) :
    (decide (b.date ≤ a.date) || decide (a.date ≤ b.date)) = true := by
  rw [Bool.or_eq_true, decide_eq_true_eq, decide_eq_true_eq]
  exact Moment.le_total b.date a.date

theorem latestFirst_perm (ops : List Operation) : (latestFirst ops).Perm ops :=
  List.mergeSort_perm ops _

theorem mem_latestFirst {op : Operation} {ops : List Operation} :
    op ∈ latestFirst ops ↔ op ∈ ops := (latestFirst_perm ops).mem_iff

theorem descending_latestFirst (ops : List Operation) :
    (latestFirst ops).Pairwise fun a b => b.date ≤ a.date := by
  have h := List.pairwise_mergeSort date_ge_trans date_ge_total ops
  simpa only [latestFirst, decide_eq_true_eq] using h

/-- The sort is stable: operations of one date are in order already, and a part that is in order
is taken over as it is. -/
theorem filter_date_latestFirst (ops : List Operation) (date : Moment) :
    (latestFirst ops).filter (·.date = date) = ops.filter (·.date = date) := by
  have ordered : (ops.filter (·.date = date)).Pairwise
      fun a b => decide (b.date ≤ a.date) = true := by
    rw [List.pairwise_filter]
    refine List.pairwise_of_forall fun a b ha hb => ?_
    rw [decide_eq_true_eq] at *
    rw [ha, hb]
    exact Moment.le_refl date
  have kept : (ops.filter (·.date = date)).Sublist (latestFirst ops) :=
    List.sublist_mergeSort date_ge_trans date_ge_total ordered List.filter_sublist
  have inside := kept.filter (·.date = date)
  simp only [List.filter_filter, Bool.and_self] at inside
  exact (inside.eq_of_length ((latestFirst_perm ops).filter _).length_eq.symm).symm

theorem isLatestFirst_latestFirst (ops : List Operation) : IsLatestFirst (latestFirst ops) ops :=
  ⟨descending_latestFirst ops, filter_date_latestFirst ops⟩

/-- Lists that agree on every date have the same operations. -/
theorem mem_of_same_dates {a b : List Operation} {op : Operation}
    (same : ∀ date, a.filter (·.date = date) = b.filter (·.date = date)) (hop : op ∈ a) :
    op ∈ b := by
  have among : op ∈ a.filter (·.date = op.date) := by simp [hop]
  rw [same] at among
  exact (List.mem_filter.mp among).1

theorem date_le_head {op head : Operation} {rest : List Operation}
    (h : (head :: rest).Pairwise fun a b => b.date ≤ a.date) (hop : op ∈ head :: rest) :
    op.date ≤ head.date := by
  rcases List.mem_cons.mp hop with rfl | later
  · exact Moment.le_refl _
  · exact (List.pairwise_cons.mp h).1 op later

/-- A list with the latest first begins with the first operation of the greatest date, so two
such lists of the same operations agree from the front. -/
theorem eq_of_descending {a b : List Operation}
    (ha : a.Pairwise fun x y => y.date ≤ x.date) (hb : b.Pairwise fun x y => y.date ≤ x.date)
    (same : ∀ date, a.filter (·.date = date) = b.filter (·.date = date)) : a = b := by
  induction a generalizing b with
  | nil =>
      cases b with
      | nil => rfl
      | cons y b =>
          have extra := mem_of_same_dates (fun date => (same date).symm) List.mem_cons_self
          exact absurd extra List.not_mem_nil
  | cons x a ih =>
      cases b with
      | nil => exact absurd (mem_of_same_dates same List.mem_cons_self) List.not_mem_nil
      | cons y b =>
          have hxy := date_le_head hb (mem_of_same_dates same List.mem_cons_self)
          have hyx := date_le_head ha
            (mem_of_same_dates (fun date => (same date).symm) List.mem_cons_self)
          have dates : x.date = y.date := Moment.le_antisymm hxy hyx
          have heads := same x.date
          simp only [dates, List.filter_cons, decide_true, if_true, List.cons.injEq] at heads
          obtain ⟨rfl, -⟩ := heads
          congr 1
          refine ih (List.pairwise_cons.mp ha).2 (List.pairwise_cons.mp hb).2 fun date => ?_
          have tails := same date
          simp only [List.filter_cons] at tails
          split at tails
          · exact (List.cons.inj tails).2
          · exact tails

theorem IsLatestFirst.eq_latestFirst {listed ops : List Operation} (h : IsLatestFirst listed ops) :
    listed = latestFirst ops :=
  eq_of_descending h.descending (descending_latestFirst ops) fun date => by
    rw [h.sameDate, filter_date_latestFirst]

theorem latestFirst_of_descending {ops : List Operation}
    (h : ops.Pairwise fun a b => b.date ≤ a.date) : latestFirst ops = ops :=
  (IsLatestFirst.eq_latestFirst ⟨h, fun _ => rfl⟩).symm

theorem latestFirst_filter (p : Operation → Bool) (ops : List Operation) :
    latestFirst (ops.filter p) = (latestFirst ops).filter p := by
  refine (IsLatestFirst.eq_latestFirst ⟨(descending_latestFirst ops).filter p, fun date => ?_⟩).symm
  rw [List.filter_filter, List.filter_filter]
  simp only [Bool.and_comm _ (p _)]
  rw [← List.filter_filter, ← List.filter_filter, filter_date_latestFirst]

/-- A change that keeps dates may be made before or after the sort. -/
theorem latestFirst_map {f : Operation → Operation} {ops : List Operation}
    (h : ∀ op ∈ ops, (f op).date = op.date) :
    latestFirst (ops.map f) = (latestFirst ops).map f := by
  refine (List.map_mergeSort fun a ha b hb => ?_).symm
  rw [h a ha, h b hb]

theorem latestFirst_append (a b : List Operation) :
    latestFirst (latestFirst a ++ latestFirst b) = latestFirst (a ++ b) := by
  refine IsLatestFirst.eq_latestFirst ⟨descending_latestFirst _, fun date => ?_⟩
  simp only [filter_date_latestFirst, List.filter_append]

theorem latestFirst_latestFirst_append (a b : List Operation) :
    latestFirst (latestFirst a ++ b) = latestFirst (a ++ b) := by
  rw [← latestFirst_append, latestFirst_of_descending (descending_latestFirst a),
    latestFirst_append]

end WalletSync.History
