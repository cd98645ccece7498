import WalletSync.Proofs.Amount.Text
import WalletSync.Proofs.Json.Record
import WalletSync.Transaction.Json

/-!
The values that stand as strings in JSON: families and modes by their names, and amounts in base
ten. Of an amount there are many texts, as zeros in front of it and white space around it do not
count; the one that is written has neither.
-/

namespace WalletSync

open Json

theorem Family.ofJson?_toJson (family : Family) : Family.ofJson? family.toJson = some family :=
  Family.ofName?_name family

theorem Mode.ofJson?_toJson (mode : Mode) : Mode.ofJson? mode.toJson = some mode := by
  cases mode
  rfl

namespace Amount

variable {amount : Amount} {json : Json}

theorem read?_padded (amount : Amount) (width : Nat) {before after : List Char}
    (leading : ∀ c ∈ before, Text.isBlank c = true)
    (trailing : ∀ c ∈ after, Text.isBlank c = true) :
    Amount.read? (String.ofList (before ++ Text.paddedDigits width amount.val ++ after)) =
      some amount :=
  read?_eq_some_iff.mpr ⟨before, _, after, String.toList_ofList, leading, trailing,
    Text.paddedDigits_ne_nil, fun _ => Text.isDigit_of_mem_paddedDigits,
    Text.ofDigits_paddedDigits⟩

theorem read?_text (amount : Amount) : Amount.read? amount.text = some amount := by
  have bare := amount.read?_padded 0 (List.forall_mem_nil _) (List.forall_mem_nil _)
  rwa [List.nil_append, List.append_nil, Text.paddedDigits_zero] at bare

/-- The value is a text of the amount, with any zeros in front and any white space around it. -/
def IsWrittenAs (amount : Amount) (json : Json) : Prop :=
  ∃ before width after, (∀ c ∈ before, Text.isBlank c = true) ∧
    (∀ c ∈ after, Text.isBlank c = true) ∧
    json = .string (String.ofList (before ++ Text.paddedDigits width amount.val ++ after))

theorem isWrittenAs_toJson (amount : Amount) : amount.IsWrittenAs amount.toJson := by
  refine ⟨[], 0, [], List.forall_mem_nil _, List.forall_mem_nil _, ?_⟩
  rw [List.nil_append, List.append_nil, Text.paddedDigits_zero]
  rfl

theorem ofJson?_of_isWrittenAs (written : amount.IsWrittenAs json) :
    json ≠ .null ∧ Amount.ofJson? json = some amount := by
  obtain ⟨before, width, after, leading, trailing, rfl⟩ := written
  refine ⟨nofun, ?_⟩
  rw [Amount.ofJson?, string?_string, Option.bind_eq_bind, Option.bind_some]
  exact amount.read?_padded width leading trailing

theorem fits_toJson (room : Nat) (amount : Amount) : amount.toJson.Fits room := trivial

end Amount

end WalletSync
