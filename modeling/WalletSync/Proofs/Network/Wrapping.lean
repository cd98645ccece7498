import WalletSync.Proofs.Network.Message

/-!
Every way in which servers are known to wrap a message is undone. The text of an object with the
message in it stands as a string in the text of the answer, so everything in it is escaped twice,
and read twice. Floats in the answer may be read as other ones; but what counts for nothing still
does.

An answer is only looked into when all of it can be read. A field that nobody asks for hides the
message when its value is nested too deeply.
-/

namespace WalletSync

open Json

/-- An object with the message in it. -/
def envelope (m : String) : Json := .object [("message", .string m)]

def twofoldEnvelope (m : String) : Json := .object [("message", envelope m)]

section Written

variable {m : String} {inner value object : Json}

theorem tells_of_envelope (among : inner ∈ [envelope m, twofoldEnvelope m]) :
    inner.Tells m ∧ inner.Fits maxDepth := by
  simp only [List.mem_cons, List.not_mem_nil, or_false] at among
  rcases among with rfl | rfl
  · exact ⟨.own rfl, by decide, trivial, trivial⟩
  · exact ⟨.inner rfl rfl, by decide, ⟨by decide, trivial, trivial⟩, trivial⟩

theorem wraps_of_written (among : inner ∈ [envelope m, twofoldEnvelope m])
    (written : value ∈
      [envelope m, .string inner.text, .string ("JsDefined(" ++ inner.text ++ ")")]) :
    Wraps m value := by
  obtain ⟨tells, fits⟩ := tells_of_envelope among
  simp only [List.mem_cons, List.not_mem_nil, or_false] at written
  rcases written with rfl | rfl | rfl
  · exact .object rfl
  · exact .text (readWhole?_text fits) tells
  · exact .defined (readWhole?_text fits) tells

end Written

section Reread

variable {m name : String} {value object : Json} {fields : List (String × Json)}

theorem isTruthy_zero :
    ∀ isNegative, (Lexeme.value ⟨isNegative, ['0'], ['0'], none⟩).isTruthy = false := by
  decide +kernel

/-- A float that is read as another one may count for nothing, but not the other way round. -/
theorem isTruthy_reread (nothing : value.isTruthy = false) : value.reread.isTruthy = false := by
  cases value with
  | null | bool | unreadable => exact nothing
  | number n =>
      rw [Json.reread]
      cases n with
      | natural n =>
          obtain rfl : n = 0 := by simpa [isTruthy] using nothing
          rw [lexemeOf, value_natural (by decide)]
          rfl
      | negative n => cases nothing
      | float x =>
          have size := Decimal.significand_ofFloat_of_zero nothing
          rw [lexemeOf, floatLexeme, if_pos size]
          exact isTruthy_zero _
  | string s => rwa [reread_string]
  | array | object => cases nothing

theorem lacks_reread (lacks : (Json.object fields).Lacks name) :
    (Json.object fields).reread.Lacks name := by
  intro value held
  rw [field?_reread] at held
  obtain ⟨written, found, rfl⟩ := Option.map_eq_some_iff.mp held
  exact isTruthy_reread (lacks written found)

theorem wraps_reread (wraps : Wraps m value) : Wraps m value.reread := by
  cases wraps with
  | @object fields held =>
      have inside := field?_reread fields "message"
      rw [held, Option.map_some, reread_string] at inside
      rw [Json.reread] at inside ⊢
      exact .object inside
  | text read tells =>
      rw [reread_string]
      exact .text read tells
  | defined read tells =>
      rw [reread_string]
      exact .defined read tells

end Reread

section Found

variable {m name body : String} {before after : List String} {object value : Json}

theorem message_of_answers (given : m ≠ "") (chain : messageFields = before ++ name :: after)
    (lacking : ∀ other ∈ before, object.Lacks other) (held : object.field? name = some value)
    (form : Wraps m value ∨ value = .string m ∧ ∀ other, ¬Wraps other (.string m))
    (answers : Answers body object) : serverMessage? body = some m := by
  have holds : value.isTruthy = true ∧ messageOf? value = some m := by
    rcases form with wraps | ⟨rfl, plain⟩
    · exact ⟨isTruthy_of_wraps wraps, messageOf?_of_wraps wraps⟩
    · exact ⟨isTruthy_string_iff.mpr given, messageOf?_of_plain plain⟩
  have selects : object.Selects value := ⟨before, name, after, chain, lacking, held, holds.1⟩
  exact serverMessage?_eq_some_iff.mpr ⟨object, value, answers, selects, holds.2⟩

/-- An object tells the same message when its floats are read as other ones. -/
theorem message_of_answers_reread (given : m ≠ "")
    (chain : messageFields = before ++ name :: after)
    (lacking : ∀ other ∈ before, object.Lacks other) (held : object.field? name = some value)
    (form : Wraps m value ∨ value = .string m ∧ ∀ other, ¬Wraps other (.string m))
    (answers : Answers body object.reread) : serverMessage? body = some m := by
  cases object with
  | object fields =>
      refine message_of_answers given chain (fun other among => lacks_reread (lacking other among))
        (by rw [field?_reread, held, Option.map_some]) ?_ answers
      rcases form with wraps | ⟨rfl, plain⟩
      · exact .inl (wraps_reread wraps)
      · exact .inr ⟨reread_string m, plain⟩
  | _ => cases held

end Found

/-- Of the fields that may hold a message the first one that holds anything decides, and a message
in it is found in each of its wrappings, or as it is when it is none. It is found in every text that
is read as the object, and the text of an object that is not nested too deeply is such a text, but
for its floats. -/
theorem wrapped_message_is_found {m : String} (given : m ≠ "") :
    (∀ inner ∈ [envelope m, twofoldEnvelope m],
      ∀ value ∈ [envelope m, .string inner.text, .string ("JsDefined(" ++ inner.text ++ ")")],
        Wraps m value) ∧
    ∀ before name after object value, messageFields = before ++ name :: after →
      (∀ other ∈ before, object.Lacks other) → object.field? name = some value →
      (Wraps m value ∨ value = .string m ∧ ∀ other, ¬Wraps other (.string m)) →
      (∀ body, Answers body object → serverMessage? body = some m) ∧
      (object.FitsWith (·.isFinite = true) maxDepth → serverMessage? object.text = some m) ∧
      ∀ rest, (array (object :: rest)).FitsWith (·.isFinite = true) maxDepth →
        serverMessage? (array (object :: rest)).text = some m := by
  refine ⟨fun inner among value written => wraps_of_written among written, ?_⟩
  intro before name after object value chain lacking held form
  have found := fun (body : String) (answers : Answers body object.reread) =>
    message_of_answers_reread given chain lacking held form answers
  refine ⟨fun body => message_of_answers given chain lacking held form, fun fits => ?_,
    fun rest fits => ?_⟩
  · exact found _ (.inl (readWhole?_text_reread fits))
  · refine found _ (.inr ⟨rereadItems rest, ?_⟩)
    rw [readWhole?_text_reread fits, reread, rereadItems]

section Sample

/-- A message that has to be escaped in each text it stands in. -/
def oddMessage : String := "\"é😀\\\n"

/-- Nothing is in the first fields, another message is in the last, and there are numbers of every
kind. -/
def oddAnswer : Json :=
  .object [("cause", .number (.float 0)), ("msg", .nat 1), ("error_message", .null),
    ("code", .number (.negative 32000)), ("rate", .number (.float 0.1)),
    ("error", .string ("JsDefined(" ++ (twofoldEnvelope oddMessage).text ++ ")")),
    ("message", .string "no")]

theorem oddAnswer_is_unwrapped :
    oddMessage ≠ "" ∧ (∀ other ∈ ["cause", "error_message"], oddAnswer.Lacks other) ∧
      serverMessage? (array [oddAnswer, .null]).text = some oddMessage := by
  have given : oddMessage ≠ "" := by decide
  have lacking : ∀ other ∈ ["cause", "error_message"], oddAnswer.Lacks other := by
    decide +kernel
  have small : 1 < 1 <<< 64 := by decide
  have negative : 0 < 32000 ∧ 32000 ≤ 1 <<< 63 := by decide
  have zero : (0 : Float).isFinite = true := by decide +kernel
  have tenth : (0.1 : Float).isFinite = true := by decide +kernel
  have fits : (array [oddAnswer, .null]).FitsWith (·.isFinite = true) maxDepth :=
    ⟨by decide, ⟨by decide, zero, small, trivial, negative, tenth, trivial, trivial, trivial⟩,
      trivial, trivial⟩
  obtain ⟨written, found⟩ := wrapped_message_is_found given
  have wraps := written (twofoldEnvelope oddMessage) (by simp) _
    (List.mem_cons_of_mem _ (List.mem_cons_of_mem _ List.mem_cons_self))
  refine ⟨given, lacking, ?_⟩
  exact (found _ "error" _ oddAnswer _ rfl lacking rfl (.inl wraps)).2.2 _ fits

/-- An array of so many arrays, one in the other. -/
def nest : Nat → Json
  | 0 => .array []
  | levels + 1 => .array [nest levels]

def deepAnswer : Json := .object [("cause", envelope "m"), ("trace", nest 126)]

/-- With the object around them the arrays make up one level too many. -/
theorem deep_field_hides_message :
    ¬∀ (m : String) (before : List String) (name : String) (after : List String)
      (object value : Json), m ≠ "" → messageFields = before ++ name :: after →
      (∀ other ∈ before, object.Lacks other) → object.field? name = some value →
      (Wraps m value ∨ value = .string m ∧ ∀ other, ¬Wraps other (.string m)) →
      object.isReadable = true → serverMessage? object.text = some m := by
  intro claim
  have found : serverMessage? deepAnswer.text = some "m" :=
    claim "m" [] "cause" _ deepAnswer (envelope "m") (by decide) rfl (List.forall_mem_nil _) rfl
      (.inl (.object rfl)) (by decide +kernel)
  have hidden : serverMessage? deepAnswer.text = none := by
    -- What is written is read as characters at once, not through the bytes of the text.
    rw [serverMessage?, readWhole?, read?, text, String.toList_ofList]
    decide +kernel
  rw [hidden] at found
  cases found

end Sample

end WalletSync
