import WalletSync.Network.Error
import WalletSync.Proofs.Json.RoundTrip

/-!
Where the message of an error response comes from: the first field of its object that holds
anything, and in it an object with a message, the text of one, or that text wrapped once more.
-/

namespace WalletSync

open Json

namespace Json

/-- The field is absent, or what it holds counts for nothing. -/
def Lacks (object : Json) (name : String) : Prop :=
  ∀ value ∈ object.field? name, value.isTruthy = false

instance (object : Json) (name : String) : Decidable (object.Lacks name) :=
  inferInstanceAs (Decidable (∀ value ∈ object.field? name, value.isTruthy = false))

/-- The value is in the first field that holds anything. -/
def Selects (object value : Json) : Prop :=
  ∃ before name after, messageFields = before ++ name :: after ∧
    (∀ other ∈ before, object.Lacks other) ∧ object.field? name = some value ∧
    value.isTruthy = true

/-- The message stands in the object, or in an object in its place. -/
inductive Tells (m : String) (json : Json) : Prop
  | own (held : json.field? "message" = some (.string m))
  | inner {fields : List (String × Json)} (held : json.field? "message" = some (.object fields))
      (inside : (object fields).field? "message" = some (.string m))

variable {json object value : Json} {name m : String}

theorem lacks_iff : object.Lacks name ↔ (object.field? name).filter isTruthy = none := by
  rw [Option.filter_eq_none_iff]
  simp only [Lacks, Option.mem_def, Bool.not_eq_true]

theorem selects_iff :
    object.Selects value ↔
      messageFields.findSome? (fun name => (object.field? name).filter isTruthy) = some value := by
  rw [List.findSome?_eq_some_iff]
  simp only [Selects, lacks_iff, Option.filter_eq_some_iff, and_assoc, and_comm]

theorem exists_fields_of_selects (selects : object.Selects value) :
    ∃ fields, object = .object fields := by
  obtain ⟨before, name, after, -, -, held, -⟩ := selects
  cases object with
  | object fields => exact ⟨fields, rfl⟩
  | _ => cases held

theorem messageText?_eq_some_iff :
    json.messageText? = some m ↔ json.field? "message" = some (.string m) := by
  rw [messageText?, Option.bind_eq_bind, Option.bind_eq_some_iff]
  constructor
  · rintro ⟨held, found, isString⟩
    cases held with
    | string s =>
        obtain rfl := Option.some.inj isString
        exact found
    | _ => cases isString
  · intro found
    exact ⟨_, found, rfl⟩

end Json

/-- The body is read as the object, or as an array that the object comes first in. -/
def Answers (body : String) (object : Json) : Prop :=
  readWhole? body = some object ∨ ∃ rest, readWhole? body = some (.array (object :: rest))

/-- An object with the message in it, a text of one, or such a text as a defined value. -/
inductive Wraps (m : String) : Json → Prop
  | object {fields : List (String × Json)}
      (held : (Json.object fields).field? "message" = some (.string m)) : Wraps m (.object fields)
  | text {text : String} {json : Json} (read : readWhole? text = some json)
      (tells : json.Tells m) : Wraps m (.string text)
  | defined {text : String} {json : Json} (read : readWhole? text = some json)
      (tells : json.Tells m) : Wraps m (.string ("JsDefined(" ++ text ++ ")"))

section Selection

variable {object : Json} {body m : String}

theorem selected_message_eq_some_iff :
    (messageFields.findSome? fun name => (object.field? name).filter isTruthy).bind messageOf? =
        some m ↔ ∃ value, object.Selects value ∧ messageOf? value = some m := by
  rw [Option.bind_eq_some_iff]
  simp only [selects_iff]

theorem serverMessage?_eq_some_iff :
    serverMessage? body = some m ↔
      ∃ object value, Answers body object ∧ object.Selects value ∧ messageOf? value = some m := by
  rw [serverMessage?, Option.bind_eq_bind, Option.bind_eq_some_iff]
  constructor
  · rintro ⟨json, read, message⟩
    cases json with
    | array items =>
        obtain ⟨object, first, message⟩ := Option.bind_eq_some_iff.mp message
        obtain ⟨rest, rfl⟩ := List.head?_eq_some_iff.mp first
        obtain ⟨value, selects, message⟩ := selected_message_eq_some_iff.mp message
        exact ⟨object, value, .inr ⟨rest, read⟩, selects, message⟩
    | _ =>
        obtain ⟨object, itself, message⟩ := Option.bind_eq_some_iff.mp message
        obtain rfl := Option.some.inj itself
        obtain ⟨value, selects, message⟩ := selected_message_eq_some_iff.mp message
        exact ⟨_, value, .inl read, selects, message⟩
  · rintro ⟨object, value, answers, selects, message⟩
    obtain ⟨fields, rfl⟩ := exists_fields_of_selects selects
    have said := selected_message_eq_some_iff.mpr ⟨value, selects, message⟩
    rcases answers with read | ⟨rest, read⟩
    · exact ⟨_, read, said⟩
    · exact ⟨_, read, said⟩

end Selection

section Wrapping

variable {text m : String} {json : Json}

/-- No value begins as a defined value does. -/
theorem readValue_defined (fuel room : Nat) (rest : List Char) :
    readValue fuel room ('J' :: rest) = none := by
  cases fuel with
  | zero => rw [readValue]
  | succ fuel =>
      rw [readValue, skipSpace_cons (by decide)]
      simp [lexNumber, spanDigits]

theorem not_isPrefixOf_of_read (read : readWhole? text = some json) :
    ¬"JsDefined(".toList.isPrefixOf text.toList = true := by
  intro begins
  obtain ⟨rest, parts⟩ := List.isPrefixOf_iff_prefix.mp begins
  have fails (fuel : Nat) : readValue fuel maxDepth text.toList = none := by
    rw [← parts]
    exact readValue_defined fuel maxDepth ("sDefined(".toList ++ rest)
  rw [readWhole?, Option.filter_eq_some_iff, read?] at read
  simp only [fails, reduceCtorEq, false_and] at read

theorem unwrapDefined_of_read (read : readWhole? text = some json) : unwrapDefined text = text := by
  rw [unwrapDefined]
  exact if_neg (not_isPrefixOf_of_read read)

theorem toList_defined (text : String) :
    ("JsDefined(" ++ text ++ ")").toList = "JsDefined(".toList ++ (text.toList ++ [')']) := by
  rw [String.toList_append, String.toList_append, List.append_assoc]
  rfl

theorem unwrapDefined_defined (text : String) :
    unwrapDefined ("JsDefined(" ++ text ++ ")") = text := by
  have begins : "JsDefined(".toList.isPrefixOf ("JsDefined(" ++ text ++ ")").toList = true := by
    rw [toList_defined]
    exact List.isPrefixOf_iff_prefix.mpr (List.prefix_append _ _)
  rw [unwrapDefined, if_pos begins, toList_defined, List.drop_left, if_pos List.getLast?_concat,
    List.dropLast_concat, String.ofList_toList]

theorem unwrapDefined_eq_or (text : String) :
    unwrapDefined text = text ∨ text = "JsDefined(" ++ unwrapDefined text ++ ")" := by
  rw [unwrapDefined]
  split
  · next begins =>
      obtain ⟨rest, parts⟩ := List.isPrefixOf_iff_prefix.mp begins
      rw [← parts, List.drop_left]
      by_cases closed : rest.getLast? = some ')'
      · obtain ⟨inner, rfl⟩ := List.getLast?_eq_some_iff.mp closed
        right
        apply String.toList_inj.mp
        rw [if_pos closed, List.dropLast_concat, toList_defined, ← parts]
        exact congrArg (fun cs => "JsDefined(".toList ++ (cs ++ [')'])) String.toList_ofList.symm
      · exact .inl (if_neg closed)
  · exact .inl rfl

theorem embeddedMessage?_eq_some_iff_tells :
    embeddedMessage? text = some m ↔
      ∃ json, readWhole? (unwrapDefined text) = some json ∧ json.Tells m := by
  simp only [embeddedMessage?, Option.bind_eq_bind, Option.bind_eq_some_iff]
  constructor
  · rintro ⟨json, read, held, found, message⟩
    refine ⟨json, read, ?_⟩
    cases held with
    | string s =>
        obtain rfl := Option.some.inj message
        exact .own found
    | object fields => exact .inner found (messageText?_eq_some_iff.mp message)
    | _ => cases message
  · rintro ⟨json, read, held | ⟨held, inside⟩⟩
    · exact ⟨json, read, _, held, rfl⟩
    · exact ⟨json, read, _, held, messageText?_eq_some_iff.mpr inside⟩

theorem embeddedMessage?_eq_some_iff :
    embeddedMessage? text = some m ↔ Wraps m (.string text) := by
  rw [embeddedMessage?_eq_some_iff_tells]
  constructor
  · rintro ⟨json, read, tells⟩
    rcases unwrapDefined_eq_or text with same | wrapped
    · rw [same] at read
      exact .text read tells
    · rw [wrapped]
      exact .defined read tells
  · intro wraps
    cases wraps with
    | text read tells => exact ⟨_, by rwa [unwrapDefined_of_read read], tells⟩
    | defined read tells => exact ⟨_, by rwa [unwrapDefined_defined], tells⟩

variable {value : Json}

theorem messageOf?_of_wraps (wraps : Wraps m value) : messageOf? value = some m := by
  cases value with
  | object fields =>
      cases wraps with
      | object held => exact messageText?_eq_some_iff.mpr held
  | string text => rw [messageOf?, embeddedMessage?_eq_some_iff.mpr wraps, Option.getD_some]
  | _ => cases wraps

theorem messageOf?_of_plain (plain : ∀ other, ¬Wraps other (.string m)) :
    messageOf? (.string m) = some m := by
  have bare : embeddedMessage? m = none := by
    rw [Option.eq_none_iff_forall_ne_some]
    exact fun other embedded => plain other (embeddedMessage?_eq_some_iff.mp embedded)
  rw [messageOf?, bare, Option.getD_none]

theorem isTruthy_string_iff : (Json.string text).isTruthy = true ↔ text ≠ "" := by
  rw [isTruthy, decide_eq_true_iff]

theorem isTruthy_of_wraps (wraps : Wraps m value) : value.isTruthy = true := by
  cases value with
  | object fields => rfl
  | string text =>
      rw [isTruthy_string_iff]
      rintro rfl
      cases embeddedMessage?_eq_some_iff.mpr wraps
  | _ => cases wraps

end Wrapping

end WalletSync
