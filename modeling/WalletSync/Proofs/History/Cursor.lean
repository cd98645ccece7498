import WalletSync.Proofs.History.Ids

/-!
The moment from which news are asked for never moves back. It is the date of an operation that
waits, or just after the latest one; whatever is worked into a history was asked for from the old
moment on, and so lies at or after it.

The step past the latest operation has to lead to a moment that is no earlier, which fails in the
very last leap second only.
-/

namespace WalletSync.History

/-- The earliest of some dates is one of them. -/
theorem least_mem (dates : List Moment) (least : Option Moment) {first : Moment}
    (found : dates.foldl (fun least date =>
      some ((least.map (Moment.earlier · date)).getD date)) least = some first) :
    first ∈ dates ∨ least = some first := by
  induction dates generalizing least with
  | nil => exact .inr found
  | cons next rest ih =>
      rcases ih _ found with later | chosen
      · exact .inl (List.mem_cons_of_mem next later)
      · cases least with
        | none =>
            cases chosen
            exact .inl List.mem_cons_self
        | some old =>
            have chosen : Moment.earlier old next = first := Option.some.inj chosen
            rcases Moment.earlier_eq_or old next with same | same
            · exact .inr (congrArg some (same.symm.trans chosen))
            · exact .inl (List.mem_cons.mpr (.inl (chosen.symm.trans same)))

theorem exists_waiting {ops : List Operation} {date : Moment}
    (oldest : oldestWaiting? ops = some date) :
    ∃ op ∈ ops, op.isSettled = false ∧ op.date = date := by
  rcases least_mem _ _ oldest with listed | nothing
  · obtain ⟨op, among, dated⟩ := List.mem_map.mp listed
    obtain ⟨among, waiting⟩ := List.mem_filter.mp among
    exact ⟨op, among, by simpa using waiting, dated⟩
  · cases nothing

variable {known new : List Operation} {since : Moment}

/-- News that were asked for from a cursor on do not move it back. -/
theorem cursor_advances (asked : cursor known = some since) (news : new ≠ [])
    (late : ∀ op ∈ new, since ≤ op.date)
    (early : ∀ op ∈ merge known new, op.date ≤ Moment.latest) :
    ∃ next, cursor (merge known new) = some next ∧ since ≤ next := by
  cases waits : oldestWaiting? (merge known new) with
  | some date =>
      obtain ⟨op, listed, waiting, rfl⟩ := exists_waiting waits
      refine ⟨op.date, by rw [cursor, waits, Option.some_or], ?_⟩
      rcases mem_of_mem_merge listed with old | fresh
      · obtain ⟨first, found, before⟩ := cursor_le_of_waiting old waiting
        rw [asked] at found
        cases found
        exact before
      · exact late op fresh
  | none =>
      have ordered := descending_merge_of_news known news
      obtain ⟨op, reported⟩ := List.exists_mem_of_ne_nil new news
      obtain ⟨form, listed, -, formed⟩ := exists_mem_merge known reported
      cases merged : merge known new with
      | nil =>
          rw [merged] at listed
          cases listed
      | cons head rest =>
          rw [merged] at waits listed ordered early
          refine ⟨head.date.nextMilli, by rw [cursor, waits]; rfl, ?_⟩
          have first : since ≤ head.date :=
            Moment.le_trans (late form formed) (date_le_head ordered listed)
          exact Moment.le_trans first (Moment.le_nextMilli (early head List.mem_cons_self))

end WalletSync.History
