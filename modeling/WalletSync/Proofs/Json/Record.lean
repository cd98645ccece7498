import WalletSync.Json.Record
import WalletSync.Proofs.Json.RoundTrip

/-!
Records that are written as objects are taken apart into the values that were written, fields that
were left out included, whatever the order of the fields is and whatever other fields there are; and
what the values of simple kinds are written as fits into a text that is read back. Records in the
form of arrays are read too, but are not written and not treated.
-/

namespace WalletSync.Json

section Places

/-- The fields of a record of which the values are known, or known to be left out. -/
def present (places : List (String × Option Json)) : List (String × Json) :=
  places.filterMap fun (name, value) => value.map fun value => (name, value)

variable {name : String} {value : Option Json} {places : List (String × Option Json)}

theorem present_cons (name : String) (value : Option Json) (places : List (String × Option Json)) :
    present ((name, value) :: places) =
      (value.map fun value => (name, value)).toList ++ present places := by
  cases value with
  | none => rfl
  | some value => rfl

theorem filter_present (absent : name ∉ places.map (·.1)) :
    (present places).filter (·.1 == name) = [] := by
  induction places with
  | nil => rfl
  | cons place rest ih =>
      obtain ⟨other, value⟩ := place
      rw [List.map_cons, List.mem_cons, not_or] at absent
      have differ : (other == name) = false := beq_eq_false_iff_ne.mpr (Ne.symm absent.1)
      rw [present_cons, List.filter_append, ih absent.2]
      cases value with
      | none => rfl
      | some value => simp [differ]

theorem sole?_present (distinct : (places.map (·.1)).Nodup) (placed : (name, value) ∈ places) :
    sole? name (present places) = some value := by
  induction places with
  | nil => cases placed
  | cons place rest ih =>
      obtain ⟨other, first⟩ := place
      rw [List.map_cons, List.nodup_cons] at distinct
      rw [sole?, present_cons, List.filter_append]
      rcases List.mem_cons.mp placed with same | later
      · cases same
        rw [filter_present distinct.1]
        cases value with
        | none => rfl
        | some value => simp
      · have known : name ∈ rest.map (·.1) := List.mem_map_of_mem later
        have differ : (other == name) = false := by
          rw [beq_eq_false_iff_ne]
          intro same
          exact distinct.1 (same ▸ known)
        have found := ih distinct.2 later
        rw [sole?] at found
        cases first with
        | none => exact found
        | some first => simpa [differ] using found

theorem sole?_perm {fields others : List (String × Json)} (same : fields.Perm others)
    (found : sole? name others = some value) : sole? name fields = some value := by
  have filtered := same.filter (·.1 == name)
  unfold sole? at found ⊢
  split at found
  · next none =>
      rw [none] at filtered
      rwa [filtered.eq_nil]
  · next single =>
      rw [single] at filtered
      rwa [List.perm_singleton.mp filtered]
  · cases found

/-- Fields of other names do not matter. -/
theorem sole?_filter {fields : List (String × Json)} {names : List String} (known : name ∈ names) :
    sole? name (fields.filter (·.1 ∈ names)) = sole? name fields := by
  have same : (fields.filter (·.1 ∈ names)).filter (·.1 == name) = fields.filter (·.1 == name) := by
    rw [List.filter_filter]
    refine List.filter_congr fun field _ => ?_
    by_cases named : field.1 = name
    · simp [named, known]
    · simp [named]
  rw [sole?, same, sole?]

/-- Among the fields of an object are those of a record, in any order and each of them once. -/
def Holds (places : List (String × Option Json)) : Json → Prop
  | .object fields => (fields.filter (·.1 ∈ places.map (·.1))).Perm (present places)
  | _ => False

theorem holds_present (places : List (String × Option Json)) :
    Holds places (.object (present places)) := by
  have all : (present places).filter (·.1 ∈ places.map (·.1)) = present places := by
    rw [List.filter_eq_self]
    intro field placed
    obtain ⟨place, listed, given⟩ := List.mem_filterMap.mp placed
    obtain ⟨value, -, rfl⟩ := Option.map_eq_some_iff.mp given
    exact decide_eq_true (List.mem_map_of_mem listed)
  rw [Holds, all]

/-- A record is taken apart in whatever order its fields are written, if no two of them have one
name. -/
theorem record?_of_holds {places : List (String × Option Json)} {json : Json} {names : List String}
    (held : Holds places json) (named : places.map (·.1) = names) (distinct : names.Nodup)
    (least : Nat) : record? names least json = some (places.map (·.2)) := by
  subst named
  unfold Holds at held
  split at held
  · next fields =>
      have each (part : List (String × Option Json)) (within : ∀ place ∈ part, place ∈ places) :
          (part.map (·.1)).mapM (sole? · fields) = some (part.map (·.2)) := by
        induction part with
        | nil => rfl
        | cons place part ih =>
            have rest := ih fun other member => within other (List.mem_cons_of_mem _ member)
            have placed := within place List.mem_cons_self
            have first := sole?_perm held (sole?_present distinct placed)
            rw [sole?_filter (List.mem_map_of_mem placed)] at first
            rw [List.map_cons, List.mapM_cons, first, rest]
            rfl
      exact each places fun _ => id
  · exact False.elim held

theorem record?_present (places : List (String × Option Json)) {names : List String}
    (named : places.map (·.1) = names) (distinct : names.Nodup) (least : Nat) :
    record? names least (.object (present places)) = some (places.map (·.2)) :=
  record?_of_holds (holds_present places) named distinct least

end Places

section Optional

variable {α : Type} {read : Json → Option α} {form : α → Json → Prop}

/-- What may stand in the place of an optional value, when a value stands in the given forms. -/
inductive Optionally (form : α → Json → Prop) : Option α → Option Json → Prop
  | absent : Optionally form none none
  | null : Optionally form none (some .null)
  | given {a : α} {json : Json} (formed : form a json) : Optionally form (some a) (some json)

theorem optional?_of_optionally
    (reads : ∀ a json, form a json → json ≠ .null ∧ read json = some a)
    {x : Option α} {place : Option Json} (formed : Optionally form x place) :
    optional? read place = some x := by
  cases formed with
  | absent => rfl
  | null => rfl
  | given formed =>
      obtain ⟨given, inverse⟩ := reads _ _ formed
      rw [optional?, absentOr?, nullable?.eq_def]
      split
      · exact absurd rfl given
      · rw [inverse, Option.map_some]

theorem optionally_ofOption {write : α → Json} (formed : ∀ a, form a (write a)) (x : Option α) :
    Optionally form x (some (ofOption write x)) := by
  cases x with
  | none => exact .null
  | some a => exact .given (formed a)

end Optional

section Absent

theorem string_ne_null (s : String) : string s ≠ .null := nofun

theorem word_ne_null {bits : Nat} (w : Word bits) : word w ≠ .null := nofun

variable {α : Type} {read : Json → Option α} {write : α → Json}

/-- A value that is never `null` is told from none. -/
theorem optional?_ofOption (inverse : ∀ a, read (write a) = some a)
    (given : ∀ a, write a ≠ .null) (x : Option α) :
    optional? read (some (ofOption write x)) = some x := by
  have formed : Optionally (fun a json => json = write a) x (some (ofOption write x)) := by
    refine optionally_ofOption (fun a => ?_) x
    rfl
  refine optional?_of_optionally ?_ formed
  rintro a _ rfl
  exact ⟨given a, inverse a⟩

theorem optional?_map (inverse : ∀ a, read (write a) = some a)
    (given : ∀ a, write a ≠ .null) (x : Option α) : optional? read (x.map write) = some x := by
  cases x with
  | none => rfl
  | some a => exact optional?_ofOption inverse given (some a)

end Absent

section Fits

variable (room : Nat)

theorem fits_string (s : String) : (string s).Fits room := trivial

theorem fits_word {bits : Nat} (short : bits ≤ 64) (w : Word bits) : (word w).Fits room := by
  change w.val < 1 <<< 64
  have small := w.val_lt
  rw [Nat.one_shiftLeft] at small ⊢
  exact Nat.lt_of_lt_of_le small (Nat.pow_le_pow_right (by decide) short)

theorem fits_count (count : Count) : (word count).Fits room := fits_word room (by decide) count

theorem fits_ofOption {α : Type} {value : α → Json} (fits : ∀ a, (value a).Fits room)
    (x : Option α) : (ofOption value x).Fits room := by
  cases x with
  | none => trivial
  | some a => exact fits a

theorem itemsFit_map {α : Type} {value : α → Json} (fits : ∀ a, (value a).Fits room)
    (items : List α) : ItemsFit room (items.map value) := by
  induction items with
  | nil => trivial
  | cons item items ih => exact ⟨fits item, ih⟩

end Fits

end WalletSync.Json
