import WalletSync.Proofs.Network.Wrapping

/-!
A response of an unsuccessful status is told by the message in its body, and by its status where
there is none. An empty field counts as none, but an empty message that is wrapped is taken as it
is: it is the one way in which an error has nothing to say.
-/

namespace WalletSync

open Json

/-- There is a message in the body, and it is empty. -/
def SaysNothing (body : String) : Prop :=
  ∃ object value, Answers body object ∧ object.Selects value ∧ Wraps "" value

/-- The server has refused or failed, and the message tells why. -/
inductive NetworkError.Says (message : String) : NetworkError → Prop
  | refused {status : Nat} {url : String} : Says message (.clientError status message url)
  | failed {status : Nat} {url : String} : Says message (.serverError status message url)

section Empty

variable {value : Json} {body : String}

/-- What a value that holds anything is written as is not empty, so the message stands in it. -/
theorem wraps_of_messageOf?_eq_empty (holds : value.isTruthy = true)
    (message : messageOf? value = some "") : Wraps "" value := by
  cases value with
  | object fields => exact .object (messageText?_eq_some_iff.mp message)
  | string text =>
      rw [messageOf?, Option.some.injEq] at message
      cases embedded : embeddedMessage? text with
      | some inner =>
          rw [embedded, Option.getD_some] at message
          exact embeddedMessage?_eq_some_iff.mp (message ▸ embedded)
      | none =>
          rw [embedded, Option.getD_none] at message
          rw [message] at holds
          cases holds
  | _ => exact absurd (Option.some.inj message) (text_ne_empty _)

theorem serverMessage?_eq_empty_iff : serverMessage? body = some "" ↔ SaysNothing body := by
  rw [serverMessage?_eq_some_iff]
  constructor
  · rintro ⟨object, value, answers, selects, message⟩
    have ⟨_, _, _, _, _, _, holds⟩ := selects
    exact ⟨object, value, answers, selects, wraps_of_messageOf?_eq_empty holds message⟩
  · rintro ⟨object, value, answers, selects, wraps⟩
    exact ⟨object, value, answers, selects, messageOf?_of_wraps wraps⟩

end Empty

namespace NetworkError

variable {status : Nat} {body url message : String}

theorem says_ofStatus_iff :
    (ofStatus status body url).Says message ↔
      (400 ≤ status ∧ status < 600) ∧
        message = (serverMessage? body).getD s!"API HTTP {Text.decimal status}" := by
  simp only [ofStatus, Bool.and_eq_true, decide_eq_true_iff]
  constructor
  · intro told
    split at told
    · next refused =>
        cases told
        exact ⟨⟨refused.1, by omega⟩, rfl⟩
    · split at told
      · next failed =>
          cases told
          exact ⟨⟨by omega, failed.2⟩, rfl⟩
      · cases told
  · rintro ⟨within, rfl⟩
    split
    · exact .refused
    · next beyond =>
        rw [if_pos (by omega)]
        exact .failed

theorem statusMessage_ne_empty : s!"API HTTP {Text.decimal status}" ≠ "" := by
  intro empty
  have chars := congrArg String.toList empty
  rw [String.toList_append] at chars
  exact absurd (List.append_eq_nil_iff.mp chars).1 (by decide)

/-- The message of an error is empty when an empty one is wrapped in the body, and never otherwise:
where the body has no message the status is told. -/
theorem says_nothing_iff_wrapped (told : (ofStatus status body url).Says message) :
    (message = "" ↔ SaysNothing body) ∧
      (serverMessage? body = none → message = s!"API HTTP {Text.decimal status}") := by
  obtain ⟨-, rfl⟩ := says_ofStatus_iff.mp told
  refine ⟨?_, fun without => by rw [without, Option.getD_none]⟩
  rw [← serverMessage?_eq_empty_iff]
  cases serverMessage? body with
  | some said => rw [Option.getD_some, Option.some.injEq]
  | none => exact ⟨fun empty => absurd empty statusMessage_ne_empty, nofun⟩

section Sample

/-- An empty message in an object, in another one, as a text and as a defined value. -/
def wrappedBlank : Json := .string ("JsDefined(" ++ (twofoldEnvelope "").text ++ ")")

/-- What a server answers that has failed without knowing why. -/
def blankAnswer : Json := .object [("cause", .string ""), ("error", wrappedBlank)]

theorem says_nothing_of_blankAnswer :
    (ofStatus 503 (array [blankAnswer]).text "http://api/x").Says "" := by
  have answers : Answers (array [blankAnswer]).text blankAnswer :=
    .inr ⟨_, readWhole?_text ⟨by decide, ⟨by decide, trivial, trivial, trivial⟩, trivial⟩⟩
  have selects : blankAnswer.Selects wrappedBlank :=
    ⟨["cause", "error_message"], "error", _, rfl, by decide, rfl, by decide⟩
  have wraps : Wraps "" wrappedBlank :=
    wraps_of_written (List.mem_cons_of_mem _ List.mem_cons_self)
      (List.mem_cons_of_mem _ (List.mem_cons_of_mem _ List.mem_cons_self))
  have told : (ofStatus 503 (array [blankAnswer]).text "http://api/x").Says _ :=
    says_ofStatus_iff.mpr ⟨by decide, rfl⟩
  rwa [(says_nothing_iff_wrapped told).1.mpr ⟨_, _, answers, selects, wraps⟩] at told

/-- In the field itself the empty message would have been passed over. -/
theorem empty_message_is_told :
    ¬∀ (status : Nat) (body url message : String),
      (ofStatus status body url).Says message → message ≠ "" := by
  intro claim
  have told : (ofStatus 400 (Json.object [("error", envelope "")]).text "http://api/x").Says "" :=
    says_ofStatus_iff.mpr ⟨by decide, by decide +kernel⟩
  exact claim _ _ _ _ told rfl

end Sample

end NetworkError

end WalletSync
