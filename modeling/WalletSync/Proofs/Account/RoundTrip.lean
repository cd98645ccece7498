import WalletSync.Account.Json
import WalletSync.Proofs.Chain.Memory
import WalletSync.Proofs.Json.Values
import WalletSync.Proofs.Moment.Text
import WalletSync.Proofs.Sync.Consistent

/-!
What is stored of an account is the account. Its JSON text is read back as the stored form it was
written from, and every amount in that form as the amount it is the text of; so nothing is lost of
any account that does not carry the resources of another family.

Restoring is treated for what was stored here only. Texts that were written elsewhere, with fields
in another order or amounts among white space, can be restored as well.
-/

namespace WalletSync

open Json

section Values

theorem Moment.ofJson?_toJson (m : Moment) : Moment.ofJson? m.toJson = some m := by
  simp only [Moment.ofJson?, Moment.toJson, Moment.text, string?_string, Option.bind_eq_bind,
    Option.bind_some, String.toList_ofList, Moment.read?_write]

theorem Direction.ofJson?_toJson (direction : Direction) :
    Direction.ofJson? direction.toJson = some direction := Direction.ofName?_name direction

end Values

namespace Resources

def places (resources : Resources) : List (String × Option Json) :=
  [("family", some (.string resources.family.name)), ("nonce", some (word resources.nonce))]

theorem ofJson?_toJson (resources : Resources) :
    Resources.ofJson? resources.toJson = some resources := by
  have readable : resources.toJson.isReadable = true := rfl
  have names : ["family", "nonce"].Nodup := by decide
  have taken : record? ["family", "nonce"] 2 resources.toJson =
      some (resources.places.map (·.2)) := record?_present resources.places rfl names 2
  rw [Resources.ofJson?, readable, taken]
  dsimp only [Resources.places, List.map, Option.bind_eq_bind,
    Option.bind_some, string?_string]
  rw [Family.ofName?_name, word?_word]
  rfl

end Resources

namespace StoredOperation

/-- What stands in each field; a missing sequence number has a place, but no value. -/
def places (op : StoredOperation) : List (String × Option Json) :=
  [("id", some (.string op.id)), ("hash", some (.string op.hash)),
   ("accountId", some (.string op.accountId)), ("type", some op.direction.toJson),
   ("value", some (.string op.value)), ("fee", some (.string op.fee)),
   ("senders", some (.array (op.senders.map .string))),
   ("recipients", some (.array (op.recipients.map .string))), ("date", some op.date.toJson),
   ("blockHeight", some (ofOption word op.blockHeight)),
   ("blockHash", some (ofOption .string op.blockHash)),
   ("transactionSequenceNumber", op.sequence.map word), ("hasFailed", some (.bool op.hasFailed))]

theorem toJson_eq (op : StoredOperation) : op.toJson = .object (present op.places) := by
  rw [toJson, places]
  cases op.sequence with
  | none => rfl
  | some sequence => rfl

theorem ofJson?_toJson (op : StoredOperation) : StoredOperation.ofJson? op.toJson = some op := by
  have names : fieldNames.Nodup := by decide
  have taken : record? fieldNames 11 op.toJson = some (op.places.map (·.2)) := by
    rw [toJson_eq]
    exact record?_present op.places rfl names 11
  rw [StoredOperation.ofJson?, taken]
  dsimp only [StoredOperation.places, List.map, Option.bind_eq_bind,
    Option.bind_some, string?_string, absentOr?, bool?_bool]
  rw [Direction.ofJson?_toJson, listOf?_map string?_string, listOf?_map string?_string,
    Moment.ofJson?_toJson, optional?_ofOption word?_word word_ne_null,
    optional?_ofOption string?_string string_ne_null, optional?_map word?_word word_ne_null]
  rfl

theorem fits_toJson (room : Nat) (op : StoredOperation) : op.toJson.Fits (room + 2) := by
  have texts (items : List String) : (array (items.map string)).Fits (room + 1) :=
    ⟨Nat.succ_pos _, itemsFit_map _ (fits_string _) items⟩
  have height : (ofOption word op.blockHeight).Fits (room + 1) := fits_ofOption _ (fits_count _) _
  have hash : (ofOption string op.blockHash).Fits (room + 1) := fits_ofOption _ (fits_string _) _
  rw [toJson_eq, places]
  cases op.sequence with
  | none =>
      exact ⟨Nat.succ_pos _, trivial, trivial, trivial, trivial, trivial, trivial,
        texts _, texts _, trivial, height, hash, trivial, trivial⟩
  | some sequence =>
      exact ⟨Nat.succ_pos _, trivial, trivial, trivial, trivial, trivial, trivial,
        texts _, texts _, trivial, height, hash, fits_count _ sequence, trivial, trivial⟩

end StoredOperation

namespace StoredAccount

def places (account : StoredAccount) : List (String × Option Json) :=
  [("id", some (.string account.id)), ("family", some account.family.toJson),
   ("address", some (.string account.address)), ("derivationIndex", some (word account.index)),
   ("balance", some (.string account.balance)),
   ("spendableBalance", some (.string account.spendable)),
   ("blockHeight", some (word account.blockHeight)),
   ("operationsCount", some (word account.operationsCount)),
   ("operations", some (.array (account.operations.map StoredOperation.toJson))),
   ("pendingOperations", some (.array (account.pending.map StoredOperation.toJson))),
   ("lastSyncDate", some account.lastSyncDate.toJson),
   ("resources", some account.resources.toJson)]

variable (account : StoredAccount)

theorem ofJson?_toJson : StoredAccount.ofJson? account.toJson = some account := by
  have names : fieldNames.Nodup := by decide
  have taken : record? fieldNames 12 account.toJson = some (account.places.map (·.2)) :=
    record?_present account.places rfl names 12
  rw [StoredAccount.ofJson?, taken]
  dsimp only [StoredAccount.places, List.map, Option.bind_eq_bind,
    Option.bind_some, string?_string, absentOr?]
  rw [Family.ofJson?_toJson, word?_word, word?_word, word?_word,
    listOf?_map StoredOperation.ofJson?_toJson, listOf?_map StoredOperation.ofJson?_toJson,
    Moment.ofJson?_toJson, Resources.ofJson?_toJson]
  rfl

theorem fits_toJson (room : Nat) : account.toJson.Fits (room + 4) := by
  have count (n : Count) : (word n).Fits (room + 3) := fits_count _ n
  have listed (ops : List StoredOperation) :
      (array (ops.map StoredOperation.toJson)).Fits (room + 3) :=
    ⟨Nat.succ_pos _, itemsFit_map _ (StoredOperation.fits_toJson _) ops⟩
  exact ⟨Nat.succ_pos _, trivial, trivial, trivial, fits_word _ (by decide) account.index, trivial,
    trivial, count _, count _, listed _, listed _, trivial,
    ⟨Nat.succ_pos _, trivial, count _, trivial⟩, trivial⟩

theorem read?_text : read? account.text = some account := by
  have fits : account.toJson.Fits maxDepth := account.fits_toJson 123
  have json : Json.read? account.text = some account.toJson := Json.read?_text fits
  rw [read?, json, Option.bind_eq_bind, Option.bind_some, ofJson?_toJson]

end StoredAccount

section Restore

theorem restoreAmount_text (field : String) (amount : Amount) :
    restoreAmount field amount.text = .ok amount := by
  rw [restoreAmount, Amount.read?_text]

theorem Operation.restore_store (op : Operation) : op.store.restore = .ok op := by
  rw [StoredOperation.restore, Operation.store]
  simp only [restoreAmount_text]
  rfl

theorem Operation.mapM_restore_store (ops : List Operation) :
    (ops.map Operation.store).mapM StoredOperation.restore = .ok ops := by
  induction ops with
  | nil => rfl
  | cons op ops ih =>
      rw [List.map_cons, List.mapM_cons, op.restore_store, ih]
      rfl

theorem Account.restore_store {account : Account}
    (own : account.resources.family = account.family) : account.store.restore = .ok account := by
  rw [StoredAccount.restore, Account.store]
  simp only [own, ne_eq, not_true_eq_false, if_false, restoreAmount_text,
    Operation.mapM_restore_store]
  rfl

end Restore

namespace Account

variable {account : Account}

/-- A payment in a leap second, of which the largest amounts and characters that are escaped are
known, but no sequence number. -/
def farOperation : Operation :=
  { id := "\"\\\n\x00é😀", hash := "", accountId := "me", direction := .incoming
    value := Word.top, fee := 0, senders := ["", "a,b"], recipients := []
    date := ⟨253402300799, 1500000001, by decide, by decide, by decide, by decide⟩
    blockHeight := some Word.top, blockHash := none, sequence := none, hasFailed := true }

/-- A microsecond into the year -262143. -/
def farPast : Moment :=
  ⟨-8334601228800, 1000, by decide, by decide, by decide, by decide⟩

/-- An account of that moment, with the payment among what is settled and, by a number,
among what is pending from the year 262142. -/
def farAccount : Account :=
  { Account.blank .ethereum "me" Word.top farPast with
    balance := Word.top
    operations := [farOperation]
    pending := [{ farOperation with sequence := some Word.top, date := .latest }] }

end Account

end WalletSync
