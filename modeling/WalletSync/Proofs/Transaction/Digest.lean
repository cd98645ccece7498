import WalletSync.Payment.Build
import WalletSync.Proofs.Payment.Broadcast
import WalletSync.Proofs.Text.Bytes
import WalletSync.Proofs.Transaction.RoundTrip

/-!
What the digest of a signed operation protects. The text that is digested belongs to one payload
only and to one choice of the fields of the operation that stand in it, so nothing of these can be
changed after signing without changing the text; whatever was changed is not handed in. The
signature itself, the date until which it is good, and the other fields of the operation are not
in the text.

That the digest tells two texts apart is no fact about all texts, and is asked for the two that are
compared.
-/

namespace WalletSync

open Json

section Values

/-- What can be read back can be told from everything else that is written. -/
theorem Json.inj_of_read {α β : Type} {write : α → β} {read : β → Option α}
    (back : ∀ a, read (write a) = some a) {a b : α} (same : write a = write b) : a = b := by
  have found : some a = some b := by rw [← back a, same, back b]
  exact Option.some.inj found

theorem Json.word_inj {bits : Nat} {a b : Word bits} (same : word a = word b) : a = b :=
  inj_of_read word?_word same

theorem Json.map_string_inj {texts others : List String}
    (same : texts.map Json.string = others.map Json.string) : texts = others :=
  List.map_inj_right (fun _ _ => Json.string.inj) |>.mp same

theorem Amount.toJson_inj {a b : Amount} (same : a.toJson = b.toJson) : a = b :=
  inj_of_read (fun amount => (ofJson?_of_isWrittenAs amount.isWrittenAs_toJson).2) same

theorem Transaction.toJson_inj {a b : Transaction} (same : a.toJson = b.toJson) : a = b :=
  inj_of_read (fun tx => ofJson?_of_isWrittenAs tx.isWrittenAs_toJson) same

theorem Payload.toJson_inj {a b : Payload} (same : a.toJson = b.toJson) : a = b := by
  cases a
  cases b
  simp only [Payload.toJson, object.injEq, List.cons.injEq, Prod.mk.injEq, string.injEq, true_and,
    and_true] at same
  rw [Payload.mk.injEq]
  exact ⟨same.1, word_inj same.2.1, Transaction.toJson_inj same.2.2⟩

end Values

/-- What is signed has the payload, and an operation that agrees with the given one in what is
digested of it. -/
structure SignedOperation.Unaltered (signed : SignedOperation) (payload : Payload)
    (operation : Operation) : Prop where
  payload : signed.payload = payload
  value : signed.operation.value = operation.value
  fee : signed.operation.fee = operation.fee
  senders : signed.operation.senders = operation.senders
  recipients : signed.operation.recipients = operation.recipients
  sequence : signed.operation.sequence = operation.sequence

theorem unaltered_of_canonicalJson {signed : SignedOperation} {payload : Payload}
    {operation : Operation}
    (same : canonicalJson signed.payload signed.operation = canonicalJson payload operation) :
    signed.Unaltered payload operation := by
  simp only [canonicalJson, object.injEq, List.cons.injEq, Prod.mk.injEq, array.injEq, true_and,
    and_true] at same
  obtain ⟨payload, value, fee, senders, recipients, sequence⟩ := same
  exact {
    payload := Payload.toJson_inj payload
    value := Amount.toJson_inj value
    fee := Amount.toJson_inj fee
    senders := map_string_inj senders
    recipients := map_string_inj recipients
    sequence := inj_of_read (optional?_ofOption word?_word word_ne_null) (congrArg some sequence) }

section Fits

variable (room : Nat)

theorem Payload.fits_toJson (payload : Payload) : payload.toJson.Fits (room + 4) :=
  ⟨Nat.succ_pos _, trivial, fits_count _ _, payload.transaction.fits_toJson _, trivial⟩

theorem fits_canonicalJson (payload : Payload) (operation : Operation) :
    (canonicalJson payload operation).Fits (room + 5) :=
  ⟨Nat.succ_pos _, payload.fits_toJson _, trivial, trivial,
    ⟨Nat.succ_pos _, itemsFit_map _ (fits_string _) _⟩,
    ⟨Nat.succ_pos _, itemsFit_map _ (fits_string _) _⟩, fits_ofOption _ (fits_count _) _, trivial⟩

end Fits

namespace Sha256

/-- The digest does not collide on two messages. -/
def TellsApart (message other : List UInt8) : Prop :=
  digest message = digest other → message = other

theorem eq_of_hexDigest_eq {text other : String}
    (apart : TellsApart text.toUTF8.toList other.toUTF8.toList)
    (same : hexDigest text = hexDigest other) : text = other :=
  Text.toUTF8_toList_inj (apart (Text.hexOfBytes_inj (String.ofList_injective same)))

end Sha256

/-- What is digested of a payload and its operation, as bytes. -/
def digestInput (payload : Payload) (operation : Operation) : List UInt8 :=
  (canonicalJson payload operation).text.toUTF8.toList

namespace SignedOperation

variable {signed : SignedOperation} {payload : Payload} {operation : Operation}
  {signature : String}

theorem unaltered_of_text
    (same : (canonicalJson signed.payload signed.operation).text =
      (canonicalJson payload operation).text) : signed.Unaltered payload operation :=
  unaltered_of_canonicalJson
    (text_inj (fits_canonicalJson 122 _ _) (fits_canonicalJson 122 _ _) same)

theorem unaltered_of_verify
    (carried : signed.payloadDigest = (bind operation payload signature).payloadDigest)
    (apart : Sha256.TellsApart (digestInput signed.payload signed.operation)
      (digestInput payload operation))
    (verified : signed.verify = true) : signed.Unaltered payload operation := by
  rw [verify, Bool.and_eq_true, decide_eq_true_eq, decide_eq_true_eq, carried] at verified
  exact unaltered_of_text (Sha256.eq_of_hexDigest_eq apart verified.2)

/-- The digest of a bound operation protects all of its payload and what it holds of the operation:
nothing is asked of a chain once one of these has been changed. -/
theorem altered_is_refused (payload : Payload) (operation : Operation) (signature : String)
    (signed : SignedOperation) :
    ((canonicalJson signed.payload signed.operation).text =
        (canonicalJson payload operation).text → signed.Unaltered payload operation) ∧
      (signed.payloadDigest = (bind operation payload signature).payloadDigest →
        Sha256.TellsApart (digestInput signed.payload signed.operation)
          (digestInput payload operation) →
        (signed.verify = true → signed.Unaltered payload operation) ∧
          (¬signed.Unaltered payload operation →
            ∀ (m : Type → Type) [Monad m] [LawfulMonad m] (bridge : Bridge m),
              bridge.broadcast signed =
                throw (if signed.family = bridge.family then .signatureMismatch
                  else .familyMismatch signed.family bridge.family))) := by
  refine ⟨unaltered_of_text, fun carried apart => ?_⟩
  have intact := unaltered_of_verify carried apart
  refine ⟨intact, fun altered m _ _ bridge => bridge.broadcast_of_not_verify ?_⟩
  exact Bool.eq_false_iff.mpr fun verified => altered (intact verified)

/-- A draft of the address `me`. -/
def samplePayload : Payload := ⟨"me", 0, { Transaction.draft .elrond with amount := 1 }⟩

def sampleBound : Operation := samplePayload.transaction.operation .elrond
  (.blank .elrond "me" 0 .epoch) .epoch

/-- The draft with another amount than it had when it was bound. -/
def sampleTampered : SignedOperation :=
  let signed := bind sampleBound samplePayload "signature"
  { signed with payload.transaction.amount := 2 }

/-- Both texts are digested here to see that the digests differ. -/
theorem altered_amount_is_refused :
    ¬sampleTampered.Unaltered samplePayload sampleBound ∧
      (MemoryChain.bridge .elrond ⟨1, 1⟩).broadcast sampleTampered = throw .signatureMismatch := by
  have altered : ¬sampleTampered.Unaltered samplePayload sampleBound := fun same =>
    absurd (congrArg (·.transaction.amount) same.payload) (by decide)
  have apart : Sha256.TellsApart (digestInput sampleTampered.payload sampleTampered.operation)
      (digestInput samplePayload sampleBound) := by
    have differ : Sha256.digest (digestInput sampleTampered.payload sampleTampered.operation) ≠
        Sha256.digest (digestInput samplePayload sampleBound) := by decide +kernel
    exact fun same => absurd same differ
  exact ⟨altered, ((altered_is_refused samplePayload sampleBound "signature" sampleTampered).2
    rfl apart).2 altered _ _⟩

end SignedOperation

end WalletSync
