import WalletSync.Proofs.Json.Values

/-!
The text of a transaction is read back as the transaction. Many other texts are read as it too: the
fields may stand in any order and among others, what is not set may be left out, and amounts may
have zeros in front and white space around them. Whatever text a transaction was read from, writing
it once more and reading that leads to the transaction again.

The looser forms described here are not all that can be read. Arrays in place of objects, and
objects in place of the names of families and modes, are read as well.
-/

namespace WalletSync

open Json

namespace FeeBasis

def places (basis : FeeBasis) : List (String × Option Json) :=
  [("recipient", some (.string basis.recipient)), ("mode", some basis.mode.toJson),
   ("dataLen", some (word basis.dataLength))]

def IsWrittenAs (basis : FeeBasis) (json : Json) : Prop := Holds basis.places json

theorem ofJson?_of_isWrittenAs {basis : FeeBasis} {json : Json}
    (written : basis.IsWrittenAs json) : FeeBasis.ofJson? json = some basis := by
  have names : ["recipient", "mode", "dataLen"].Nodup := by decide
  have taken : record? ["recipient", "mode", "dataLen"] 3 json = some (basis.places.map (·.2)) :=
    record?_of_holds written rfl names 3
  rw [FeeBasis.ofJson?, taken]
  dsimp only [places, List.map, Option.bind_eq_bind, Option.bind_some, string?_string]
  rw [Mode.ofJson?_toJson, word?_word]
  rfl

theorem isWrittenAs_toJson (basis : FeeBasis) : basis.IsWrittenAs basis.toJson :=
  holds_present basis.places

theorem fits_toJson (room : Nat) (basis : FeeBasis) : basis.toJson.Fits (room + 1) :=
  ⟨Nat.succ_pos _, trivial, trivial, fits_count _ _, trivial⟩

end FeeBasis

namespace FeeQuote

def places (quote : FeeQuote) (price basis : Json) : List (String × Option Json) :=
  [("chainId", some (.string quote.chainId)), ("gasPrice", some price),
   ("gasLimit", some (word quote.gasLimit)), ("basis", some basis)]

def IsWrittenAs (quote : FeeQuote) (json : Json) : Prop :=
  ∃ price basis, quote.gasPrice.IsWrittenAs price ∧ quote.basis.IsWrittenAs basis ∧
    Holds (quote.places price basis) json

theorem ofJson?_of_isWrittenAs {quote : FeeQuote} {json : Json}
    (written : quote.IsWrittenAs json) : json ≠ .null ∧ FeeQuote.ofJson? json = some quote := by
  obtain ⟨price, basis, priced, based, held⟩ := written
  refine ⟨fun null => by rw [null] at held; exact held, ?_⟩
  have names : ["chainId", "gasPrice", "gasLimit", "basis"].Nodup := by decide
  have taken : record? ["chainId", "gasPrice", "gasLimit", "basis"] 4 json =
      some ((quote.places price basis).map (·.2)) := record?_of_holds held rfl names 4
  rw [FeeQuote.ofJson?, taken]
  dsimp only [places, List.map, Option.bind_eq_bind, Option.bind_some, string?_string]
  rw [(Amount.ofJson?_of_isWrittenAs priced).2, word?_word, FeeBasis.ofJson?_of_isWrittenAs based]
  rfl

theorem isWrittenAs_toJson (quote : FeeQuote) : quote.IsWrittenAs quote.toJson :=
  ⟨_, _, quote.gasPrice.isWrittenAs_toJson, quote.basis.isWrittenAs_toJson,
    holds_present (quote.places _ _)⟩

theorem fits_toJson (room : Nat) (quote : FeeQuote) : quote.toJson.Fits (room + 2) :=
  ⟨Nat.succ_pos _, trivial, trivial, fits_count _ _, quote.basis.fits_toJson _, trivial⟩

end FeeQuote

namespace Transaction

def places (tx : Transaction) (amount fees : Json) (data quote : Option Json) :
    List (String × Option Json) :=
  [("family", some tx.family.toJson), ("mode", some tx.mode.toJson), ("amount", some amount),
   ("recipient", some (.string tx.recipient)), ("fees", some fees),
   ("useAllAmount", some (.bool tx.useAllAmount)), ("data", data), ("feeQuote", quote)]

/-- The value is an object with the fields of the transaction, of which data and quote may be left
out when there are none. -/
def IsWrittenAs (tx : Transaction) (json : Json) : Prop :=
  ∃ amount fees data quote, tx.amount.IsWrittenAs amount ∧
    Optionally Amount.IsWrittenAs tx.fees (some fees) ∧
    Optionally (fun text json => json = .string text) tx.data data ∧
    Optionally FeeQuote.IsWrittenAs tx.feeQuote quote ∧
    Holds (tx.places amount fees data quote) json

variable {tx : Transaction} {json : Json}

theorem ofJson?_of_isWrittenAs (written : tx.IsWrittenAs json) :
    Transaction.ofJson? json = some tx := by
  obtain ⟨amount, fees, data, quote, valued, priced, noted, quoted, held⟩ := written
  have names : fieldNames.Nodup := by decide
  have taken : record? fieldNames 8 json = some ((tx.places amount fees data quote).map (·.2)) :=
    record?_of_holds held rfl names 8
  have fee : nullable? Amount.ofJson? fees = some tx.fees :=
    optional?_of_optionally (fun _ _ => Amount.ofJson?_of_isWrittenAs) priced
  have note : optional? string? data = some tx.data :=
    optional?_of_optionally (by rintro _ _ rfl; exact ⟨nofun, rfl⟩) noted
  have terms : optional? FeeQuote.ofJson? quote = some tx.feeQuote :=
    optional?_of_optionally (fun _ _ => FeeQuote.ofJson?_of_isWrittenAs) quoted
  rw [Transaction.ofJson?, taken]
  dsimp only [places, List.map, Option.bind_eq_bind, Option.bind_some, string?_string, bool?_bool]
  rw [Family.ofJson?_toJson, Mode.ofJson?_toJson, (Amount.ofJson?_of_isWrittenAs valued).2, fee,
    note, terms]
  rfl

theorem isWrittenAs_toJson (tx : Transaction) : tx.IsWrittenAs tx.toJson := by
  have fees := optionally_ofOption Amount.isWrittenAs_toJson tx.fees
  have data : Optionally (fun text json => json = string text) tx.data
      (some (ofOption string tx.data)) := by
    refine optionally_ofOption (fun text => ?_) tx.data
    rfl
  have quote := optionally_ofOption FeeQuote.isWrittenAs_toJson tx.feeQuote
  exact ⟨_, _, _, _, tx.amount.isWrittenAs_toJson, fees, data, quote,
    holds_present (tx.places _ _ _ _)⟩

theorem fits_toJson (room : Nat) (tx : Transaction) : tx.toJson.Fits (room + 3) :=
  ⟨Nat.succ_pos _, trivial, trivial, trivial, trivial, fits_ofOption _ (Amount.fits_toJson _) _,
    trivial, fits_ofOption _ (fits_string _) _, fits_ofOption _ (FeeQuote.fits_toJson _) _,
    trivial⟩

theorem read?_of_isWrittenAs {text : String} (read : Json.read? text = some json)
    (written : tx.IsWrittenAs json) : read? text = some tx := by
  rw [read?, read, Option.bind_eq_bind, Option.bind_some, ofJson?_of_isWrittenAs written]

theorem read?_text (tx : Transaction) : read? tx.text = some tx := by
  have fits : tx.toJson.Fits maxDepth := tx.fits_toJson 124
  exact read?_of_isWrittenAs (Json.read?_text fits) tx.isWrittenAs_toJson

/-- A transaction comes back from its text, and from every text in which it is written more loosely.
So it does from any text that it was read from, once it has been written again. -/
theorem texts_of_transactions_come_back (tx : Transaction) :
    read? tx.text = some tx ∧
      (∀ text json, Json.read? text = some json → tx.IsWrittenAs json → read? text = some tx) ∧
      ∀ text, read? text = some tx → ∃ again, read? tx.text = some again ∧ again = tx ∧
        again.isPrepared = tx.isPrepared :=
  ⟨tx.read?_text, fun _ _ => read?_of_isWrittenAs, fun _ _ => ⟨tx, tx.read?_text, rfl, rfl⟩⟩

/-- The terms for a recipient that has to be escaped. -/
def sampleQuote : FeeQuote := ⟨"1", 7, 10, ⟨"\"\\\né😀", .send, 0⟩⟩

/-- A prepared transaction of the largest amount, without data. -/
def sampleLargest : Transaction :=
  { Transaction.draft .elrond with
    amount := Word.top, recipient := sampleQuote.basis.recipient, fees := some 70
    feeQuote := some sampleQuote }

def looseBasis : Json :=
  .object
    [("dataLen", .nat 0), ("mode", .string "send"), ("recipient", .string "\"\\\né😀")]

/-- The quote from its last field to its first, with one that nobody knows. -/
def looseQuote : Json :=
  .object
    [("basis", looseBasis), ("gasLimit", .nat 10), ("unit", .bool true),
     ("gasPrice", .string "\t007 "), ("chainId", .string "1")]

/-- The transaction in the same way, without a field for its data. -/
def looseLargest : Json :=
  .object
    [("note", .array [.null]), ("feeQuote", looseQuote), ("useAllAmount", .bool false),
     ("fees", .string "0070"), ("recipient", .string "\"\\\né😀"),
     ("amount", sampleLargest.amount.toJson), ("mode", .string "send"),
     ("family", .string "elrond")]

theorem looseLargest_comes_back :
    looseLargest.text ≠ sampleLargest.text ∧ sampleLargest.IsWrittenAs looseLargest ∧
      read? looseLargest.text = some sampleLargest ∧
      ∃ again, read? sampleLargest.text = some again ∧ again = sampleLargest ∧
        again.isPrepared = true := by
  have price : (7 : Amount).IsWrittenAs (.string "\t007 ") :=
    ⟨['\t'], 3, [' '], List.forall_mem_singleton.mpr rfl, List.forall_mem_singleton.mpr rfl,
      congrArg Json.string (by decide +kernel)⟩
  have fees : (70 : Amount).IsWrittenAs (.string "0070") :=
    ⟨[], 4, [], List.forall_mem_nil _, List.forall_mem_nil _,
      congrArg Json.string (by decide +kernel)⟩
  have basis : sampleQuote.basis.IsWrittenAs looseBasis :=
    List.reverse_perm (present sampleQuote.basis.places)
  have quote : sampleQuote.IsWrittenAs looseQuote :=
    ⟨_, _, price, basis, List.reverse_perm (present (sampleQuote.places _ _))⟩
  have written : sampleLargest.IsWrittenAs looseLargest := by
    let places := sampleLargest.places sampleLargest.amount.toJson (.string "0070") none
      (some looseQuote)
    exact ⟨_, _, _, _, sampleLargest.amount.isWrittenAs_toJson, .given fees, .absent, .given quote,
      List.reverse_perm (present places)⟩
  have fits : looseLargest.Fits maxDepth := by
    simp [looseLargest, looseQuote, looseBasis, FitsWith, FieldsFitWith, ItemsFitWith, maxDepth,
      Json.nat, Amount.toJson]
  have differ : looseLargest.text ≠ sampleLargest.text := by decide +kernel
  have largest := texts_of_transactions_come_back sampleLargest
  have read := largest.2.1 looseLargest.text looseLargest (Json.read?_text fits) written
  obtain ⟨again, back, same, prepared⟩ := largest.2.2 _ read
  exact ⟨differ, written, read, again, back, same, prepared.trans (by decide)⟩

end Transaction

end WalletSync
