import Mathlib.Data.List.Forall2
import WalletSync.Proofs.Account.RoundTrip
import WalletSync.Proofs.Amount.Text

/-!
What becomes of a stored account, whoever has written it. Resources of another family are refused
before any amount is looked at. Then the texts of the amounts are read in the order in which they
are written, and the first one that is no amount is named by its field. When all of them are
amounts the account comes back, and nothing about it has changed but the texts of its amounts.

The fields of an operation are named without its place, so the name alone does not tell which of
the operations is at fault.
-/

namespace WalletSync

/-- A field that has the text of an amount in it. -/
structure AmountField where
  name : String
  text : String
deriving DecidableEq

namespace AmountField

def IsSound (field : AmountField) : Prop := ∃ amount : Amount, amount.IsText field.text

theorem isSound_iff {field : AmountField} :
    field.IsSound ↔ (Amount.read? field.text).isSome = true := by
  rw [Option.isSome_iff_exists]
  simp only [IsSound, Amount.read?_eq_some_iff]

instance (field : AmountField) : Decidable field.IsSound := decidable_of_iff' _ isSound_iff

/-- The first of the fields of which the text is no amount. -/
def IsFirstFault (fields : List AmountField) (fault : AmountField) : Prop :=
  ∃ before after, fields = before ++ fault :: after ∧ (∀ field ∈ before, field.IsSound) ∧
    ¬fault.IsSound

variable {fields more : List AmountField} {fault other : AmountField}

theorem isFirstFault_iff :
    IsFirstFault fields fault ↔ fields.find? (fun field => !decide field.IsSound) = some fault := by
  rw [List.find?_eq_some_iff_append]
  simp only [IsFirstFault, Bool.not_eq_true', decide_eq_false_iff_not, Bool.not_not,
    decide_eq_true_eq]
  constructor
  · rintro ⟨before, after, parts, sound, unsound⟩
    exact ⟨unsound, before, after, parts, sound⟩
  · rintro ⟨unsound, before, after, parts, sound⟩
    exact ⟨before, after, parts, sound, unsound⟩

theorem IsFirstFault.unique (first : IsFirstFault fields fault)
    (second : IsFirstFault fields other) : fault = other :=
  Option.some.inj ((isFirstFault_iff.mp first).symm.trans (isFirstFault_iff.mp second))

theorem IsFirstFault.not_sound (first : IsFirstFault fields fault) :
    ¬∀ field ∈ fields, field.IsSound := by
  obtain ⟨before, after, rfl, -, unsound⟩ := first
  intro sound
  exact unsound (sound fault (by simp))

theorem IsFirstFault.append_right (first : IsFirstFault fields fault)
    (more : List AmountField) : IsFirstFault (fields ++ more) fault := by
  obtain ⟨before, after, rfl, sound, unsound⟩ := first
  exact ⟨before, after ++ more, by rw [List.append_assoc, List.cons_append], sound, unsound⟩

theorem IsFirstFault.append_left (first : IsFirstFault more fault)
    (sound : ∀ field ∈ fields, field.IsSound) : IsFirstFault (fields ++ more) fault := by
  obtain ⟨before, after, rfl, later, unsound⟩ := first
  refine ⟨fields ++ before, after, by rw [List.append_assoc], ?_, unsound⟩
  intro field among
  exact (List.mem_append.mp among).elim (sound field) (later field)

/-- What comes out of looking at the fields one after the other: something that holds of them all,
or the first fault. -/
inductive Reads {α : Type} (fields : List AmountField) (Holds : α → Prop) :
    Except RestoreError α → Prop
  | sound {a : α} (all : ∀ field ∈ fields, field.IsSound) (holds : Holds a) :
      Reads fields Holds (.ok a)
  | fault {fault : AmountField} (first : IsFirstFault fields fault) :
      Reads fields Holds (.error (.invalidAmount fault.name fault.text))

namespace Reads

variable {α β : Type} {Holds : α → Prop} {Then : β → Prop} {x : Except RestoreError α}
  {f : α → Except RestoreError β}

theorem restoreAmount (name text : String) :
    Reads [⟨name, text⟩] (·.IsText text) (restoreAmount name text) := by
  unfold WalletSync.restoreAmount
  cases read : Amount.read? text with
  | some amount =>
      have holds : amount.IsText text := Amount.read?_eq_some_iff.mp read
      refine .sound ?_ holds
      intro field among
      obtain rfl := List.mem_singleton.mp among
      exact ⟨amount, holds⟩
  | none =>
      have unsound : ¬(⟨name, text⟩ : AmountField).IsSound := by
        rw [isSound_iff, read]
        exact Bool.false_ne_true
      exact .fault ⟨[], [], rfl, List.forall_mem_nil _, unsound⟩

theorem pure {b : β} (holds : Then b) : Reads [] Then (.ok b) :=
  .sound (List.forall_mem_nil _) holds

theorem after {y : Except RestoreError β} (read : Reads more Then y)
    (all : ∀ field ∈ fields, field.IsSound) : Reads (fields ++ more) Then y := by
  cases read with
  | fault later => exact .fault (later.append_left all)
  | sound others holds =>
      refine .sound (fun field among => ?_) holds
      exact (List.mem_append.mp among).elim (all field) (others field)

theorem bind (read : Reads fields Holds x) (next : ∀ a, Holds a → Reads more Then (f a)) :
    Reads (fields ++ more) Then (x >>= f) := by
  cases read with
  | fault first => exact .fault (first.append_right more)
  | sound all holds => exact (next _ holds).after all

theorem mapM {γ : Type} {fieldsOf : γ → List AmountField} {IsForm : γ → β → Prop}
    {f : γ → Except RestoreError β} (read : ∀ item, Reads (fieldsOf item) (IsForm item) (f item))
    (items : List γ) :
    Reads (items.flatMap fieldsOf) (List.Forall₂ IsForm items) (items.mapM f) := by
  induction items with
  | nil => exact .pure .nil
  | cons item rest ih =>
      rw [List.mapM_cons, List.flatMap_cons]
      refine (read item).bind fun b first => ?_
      rw [← List.append_nil (rest.flatMap fieldsOf)]
      exact ih.bind fun bs later => .pure (.cons first later)

theorem error_iff {name text : String} (read : Reads fields Holds x) :
    x = .error (.invalidAmount name text) ↔ IsFirstFault fields ⟨name, text⟩ := by
  cases read with
  | sound all => exact ⟨nofun, fun first => absurd all first.not_sound⟩
  | fault first =>
      constructor
      · rintro ⟨⟩
        exact first
      · intro second
        rw [first.unique second]

theorem ne_mismatch {family foreign : Family} (read : Reads fields Holds x) :
    x ≠ .error (.familyMismatch family foreign) := by
  cases read <;> exact nofun

theorem ok_iff (read : Reads fields Holds x) :
    (∃ a, x = .ok a ∧ Holds a) ↔ ∀ field ∈ fields, field.IsSound := by
  cases read with
  | sound all holds => exact ⟨fun _ => all, fun _ => ⟨_, rfl, holds⟩⟩
  | fault first => exact ⟨nofun, fun all => absurd all first.not_sound⟩

end Reads

end AmountField

open AmountField

namespace StoredOperation

def amountFields (op : StoredOperation) : List AmountField :=
  [⟨"operation.value", op.value⟩, ⟨"operation.fee", op.fee⟩]

/-- The operation is the stored one, with the amounts that the texts are. -/
structure IsFormOf (op : StoredOperation) (restored : Operation) : Prop where
  value : restored.value.IsText op.value
  fee : restored.fee.IsText op.fee
  others : restored.store = { op with value := restored.value.text, fee := restored.fee.text }

theorem reads_restore (op : StoredOperation) : Reads op.amountFields op.IsFormOf op.restore := by
  refine (Reads.restoreAmount "operation.value" op.value).bind fun value isValue => ?_
  refine (Reads.restoreAmount "operation.fee" op.fee).bind fun fee isFee => ?_
  exact .pure ⟨isValue, isFee, rfl⟩

theorem IsFormOf.sound {op : StoredOperation} {restored : Operation} (form : op.IsFormOf restored) :
    ∀ field ∈ op.amountFields, field.IsSound := by
  rw [amountFields, List.forall_mem_cons, List.forall_mem_singleton]
  exact ⟨⟨_, form.value⟩, ⟨_, form.fee⟩⟩

theorem IsFormOf.unique {op : StoredOperation} {restored other : Operation}
    (first : op.IsFormOf restored) (second : op.IsFormOf other) : restored = other := by
  have stored : restored.store = other.store := by
    rw [first.others, second.others, first.value.unique second.value, first.fee.unique second.fee]
  have same := restored.restore_store
  rw [stored, other.restore_store] at same
  exact (Except.ok.inj same).symm

end StoredOperation

namespace StoredAccount

/-- The fields in the order in which they are looked at. -/
def amountFields (account : StoredAccount) : List AmountField :=
  ⟨"balance", account.balance⟩ :: ⟨"spendableBalance", account.spendable⟩ ::
    (account.operations.flatMap StoredOperation.amountFields ++
      account.pending.flatMap StoredOperation.amountFields)

/-- The account is the stored one, with the amounts that the texts are, and with an operation for
each that is stored, in the same place. -/
structure IsFormOf (account : StoredAccount) (restored : Account) : Prop where
  balance : restored.balance.IsText account.balance
  spendable : restored.spendable.IsText account.spendable
  operations : List.Forall₂ StoredOperation.IsFormOf account.operations restored.operations
  pending : List.Forall₂ StoredOperation.IsFormOf account.pending restored.pending
  others : restored.store =
    { account with
      balance := restored.balance.text
      spendable := restored.spendable.text
      operations := restored.operations.map Operation.store
      pending := restored.pending.map Operation.store }

variable {account : StoredAccount}

theorem restore_of_foreign (foreign : account.resources.family ≠ account.family) :
    account.restore = .error (.familyMismatch account.family account.resources.family) := by
  rw [restore, if_pos foreign]
  rfl

theorem reads_restore (own : account.resources.family = account.family) :
    Reads account.amountFields account.IsFormOf account.restore := by
  rw [restore, if_neg (not_not_intro own), amountFields]
  refine (Reads.restoreAmount "balance" account.balance).bind fun balance isBalance => ?_
  refine (Reads.restoreAmount "spendableBalance" account.spendable).bind fun spendable isPart => ?_
  refine (Reads.mapM StoredOperation.reads_restore account.operations).bind fun ops isForm => ?_
  rw [← List.append_nil (account.pending.flatMap _)]
  refine (Reads.mapM StoredOperation.reads_restore account.pending).bind fun pending areForm => ?_
  exact .pure ⟨isBalance, isPart, isForm, areForm, rfl⟩

theorem isSound_of_forall₂ {ops : List StoredOperation} {restored : List Operation}
    (forms : List.Forall₂ StoredOperation.IsFormOf ops restored) :
    ∀ field ∈ ops.flatMap StoredOperation.amountFields, field.IsSound := by
  induction forms with
  | nil => exact List.forall_mem_nil _
  | cons form _ ih =>
      rw [List.flatMap_cons, List.forall_mem_append]
      exact ⟨form.sound, ih⟩

variable {restored other : Account}

theorem IsFormOf.sound (form : account.IsFormOf restored) :
    ∀ field ∈ account.amountFields, field.IsSound := by
  rw [amountFields, List.forall_mem_cons, List.forall_mem_cons, List.forall_mem_append]
  exact ⟨⟨_, form.balance⟩, ⟨_, form.spendable⟩, isSound_of_forall₂ form.operations,
    isSound_of_forall₂ form.pending⟩

theorem IsFormOf.own (form : account.IsFormOf restored)
    (own : account.resources.family = account.family) :
    restored.resources.family = restored.family := by
  have resources : restored.resources = account.resources :=
    congrArg StoredAccount.resources form.others
  have family : restored.family = account.family := congrArg StoredAccount.family form.others
  rw [resources, family, own]

theorem IsFormOf.unique (own : account.resources.family = account.family)
    (first : account.IsFormOf restored) (second : account.IsFormOf other) : restored = other := by
  have lists : Relator.RightUnique (List.Forall₂ StoredOperation.IsFormOf) :=
    Relator.RightUnique.forall₂ fun _ _ _ => StoredOperation.IsFormOf.unique
  have stored : restored.store = other.store := by
    rw [first.others, second.others, first.balance.unique second.balance,
      first.spendable.unique second.spendable, lists first.operations second.operations,
      lists first.pending second.pending]
  have same := Account.restore_store (first.own own)
  rw [stored, Account.restore_store (second.own own)] at same
  exact (Except.ok.inj same).symm

theorem restore_ok_iff (own : account.resources.family = account.family) :
    account.restore = .ok restored ↔ account.IsFormOf restored := by
  have read := reads_restore own
  constructor
  · intro ok
    rw [ok] at read
    cases read with
    | sound _ form => exact form
  · intro form
    obtain ⟨found, ok, isForm⟩ := read.ok_iff.mpr form.sound
    rw [ok, isForm.unique own form]

/-- Restoring fails over resources of another family, and else over the first text that is no
amount. If there is none, it returns the one account that the stored one is a form of. -/
theorem restore_names_first_fault (account : StoredAccount) :
    (∀ family other, account.restore = .error (.familyMismatch family other) ↔
      account.resources.family ≠ account.family ∧ family = account.family ∧
        other = account.resources.family) ∧
    (∀ name text, account.restore = .error (.invalidAmount name text) ↔
      account.resources.family = account.family ∧
        IsFirstFault account.amountFields ⟨name, text⟩) ∧
    (∀ restored, account.restore = .ok restored ↔
      account.resources.family = account.family ∧ account.IsFormOf restored) ∧
    ((∃ restored, account.restore = .ok restored) ↔
      account.resources.family = account.family ∧
        ∀ field ∈ account.amountFields, field.IsSound) := by
  by_cases own : account.resources.family = account.family
  · have read := reads_restore own
    simp only [own, ne_eq, not_true_eq_false, false_and, iff_false, true_and]
    refine ⟨fun _ _ => read.ne_mismatch, fun _ _ => read.error_iff, fun _ => restore_ok_iff own, ?_⟩
    rw [← read.ok_iff]
    simp only [restore_ok_iff own, and_self]
  · simp only [restore_of_foreign own, own, ne_eq, not_false_eq_true, true_and, false_and,
      Except.error.injEq, RestoreError.familyMismatch.injEq, reduceCtorEq, exists_false,
      implies_true, and_true]
    exact fun _ _ => and_congr eq_comm eq_comm

section Sample

/-- The balance stands among white space and behind zeros. The second of the pending operations has
a fee that is no amount, and the third one has no amounts at all. -/
def spoiltAccount : StoredAccount :=
  { Account.farAccount.store with
    balance := "\u2003007\n"
    pending := [Account.farOperation.store, { Account.farOperation.store with fee := "12abc" },
      { Account.farOperation.store with value := "", fee := "-1" }] }

theorem spoiltAccount_names_fee :
    spoiltAccount.restore = .error (.invalidAmount "operation.fee" "12abc") ∧
      { spoiltAccount with family := .elrond }.restore =
        .error (.familyMismatch .elrond .ethereum) ∧
      ∃ restored, { spoiltAccount with pending := [] }.restore = .ok restored := by
  have named := (restore_names_first_fault spoiltAccount).2.1 "operation.fee" "12abc"
  have refused := (restore_names_first_fault { spoiltAccount with family := .elrond }).1
  have returned := (restore_names_first_fault { spoiltAccount with pending := [] }).2.2.2
  refine ⟨named.mpr ⟨rfl, ?_⟩, (refused _ _).mpr ⟨nofun, rfl, rfl⟩, returned.mpr ⟨rfl, ?_⟩⟩
  · exact isFirstFault_iff.mpr (by decide +kernel)
  · decide +kernel

end Sample

end StoredAccount

end WalletSync
