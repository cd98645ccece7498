import WalletSync.Json.Reader
import WalletSync.Proofs.Json.Number

/-!
The text of a value is read back, whatever strings there are in it, as long as it is not nested too
deeply and its integers have 64 bits. What is read is the value itself, with other floats in the
places of its floats; so of values without floats no two have the same text.
-/

namespace WalletSync.Json

open Text

mutual

/-- The value is read back when `room` more levels of nesting are read, if it has only floats of
the given kind. -/
def FitsWith (kind : Float → Prop) : Nat → Json → Prop
  | _, .null | _, .bool _ | _, .string _ => True
  | _, .number (.natural n) => n < 1 <<< 64
  | _, .number (.negative n) => 0 < n ∧ n ≤ 1 <<< 63
  | _, .number (.float x) => kind x
  | _, .unreadable => False
  | room, .array items => 0 < room ∧ ItemsFitWith kind (room - 1) items
  | room, .object fields => 0 < room ∧ FieldsFitWith kind (room - 1) fields

def ItemsFitWith (kind : Float → Prop) : Nat → List Json → Prop
  | _, [] => True
  | room, item :: rest => FitsWith kind room item ∧ ItemsFitWith kind room rest

def FieldsFitWith (kind : Float → Prop) : Nat → List (String × Json) → Prop
  | _, [] => True
  | room, (_, value) :: rest => FitsWith kind room value ∧ FieldsFitWith kind room rest

end

/-- There are no floats in the value at all. -/
abbrev Fits : Nat → Json → Prop := FitsWith fun _ => False

abbrev ItemsFit : Nat → List Json → Prop := ItemsFitWith fun _ => False

abbrev FieldsFit : Nat → List (String × Json) → Prop := FieldsFitWith fun _ => False

mutual

/-- What the text of a value is read as. -/
def reread : Json → Json
  | .number n => (lexemeOf n).value
  | .array items => .array (rereadItems items)
  | .object fields => .object (rereadFields fields)
  | json => json

def rereadItems : List Json → List Json
  | [] => []
  | item :: rest => reread item :: rereadItems rest

def rereadFields : List (String × Json) → List (String × Json)
  | [] => []
  | (name, value) :: rest => (name, reread value) :: rereadFields rest

end

theorem reread_string (s : String) : (string s).reread = string s := rfl

theorem rereadFields_eq_map (fields : List (String × Json)) :
    rereadFields fields = fields.map fun field => (field.1, field.2.reread) := by
  induction fields with
  | nil => rw [rereadFields, List.map_nil]
  | cons field fields ih => rw [rereadFields, List.map_cons, ih]

/-- The fields keep their names. -/
theorem field?_reread (fields : List (String × Json)) (name : String) :
    (object fields).reread.field? name = ((object fields).field? name).map reread := by
  rw [reread, field?, field?, rereadFields_eq_map, ← List.map_reverse, List.find?_map,
    Option.map_map, Option.map_map]
  rfl

section Strings

variable {c e : Char} {cs rest left : List Char} {pieces : List Piece}

theorem unit?_hexChar : ∀ n < 32, unit? '0' '0' (hexChar (n / 16)) (hexChar (n % 16)) = some n := by
  decide

theorem readPieces_short (short : escaped? e = some c)
    (read : readPieces rest = some (pieces, left)) :
    readPieces ('\\' :: e :: rest) = some (.char c :: pieces, left) := by
  rw [readPieces.eq_def]
  split
  · next same => cases same
  · next same => cases same
  · next same =>
      cases same
      cases short
  · next same =>
      cases same
      simp only [short, read]
  · next nothing same =>
      cases same
      exact absurd rfl (nothing e rest rfl)

theorem join?_unit {n : Nat} (plain : n < 0xd800) (pieces : List Piece) :
    join? (.unit n :: pieces) = (join? pieces).map (Char.ofNat n :: ·) := by
  have high : isHighSurrogate n = false := by simp [isHighSurrogate]; omega
  have low : isLowSurrogate n = false := by simp [isLowSurrogate]; omega
  rw [join?.eq_def]
  split
  · next same => cases same
  · next same => cases same
  · next same =>
      cases same
      simp [high, low]
  · next same =>
      cases same
      simp [high, low]

/-- What stands for a character in a string is one piece, of which the character is made again. -/
theorem readPieces_escape (read : readPieces rest = some (pieces, left))
    (joined : join? pieces = some cs) :
    ∃ piece, readPieces (escape c ++ rest) = some (piece :: pieces, left) ∧
      join? (piece :: pieces) = some (c :: cs) := by
  have plain : join? (.char c :: pieces) = some (c :: cs) := by
    rw [join?, joined]
    rfl
  have short (e : Char) (stands : escaped? e = some c) :
      ∃ piece, readPieces (['\\', e] ++ rest) = some (piece :: pieces, left) ∧
        join? (piece :: pieces) = some (c :: cs) :=
    ⟨_, readPieces_short stands read, plain⟩
  unfold escape
  split
  · next same => exact short _ (by rw [same]; rfl)
  split
  · next same => exact short _ (by rw [same]; rfl)
  split
  · next same => exact short _ (by rw [same]; rfl)
  split
  · next same => exact short _ (by rw [same]; rfl)
  split
  · next same => exact short _ (by rw [same]; rfl)
  split
  · next code => exact short _ (by rw [← Char.ofNat_toNat c, code]; rfl)
  split
  · next code => exact short _ (by rw [← Char.ofNat_toNat c, code]; rfl)
  split
  · next control =>
      refine ⟨.unit c.toNat, ?_, ?_⟩
      · simp [readPieces, unit?_hexChar _ control, read]
      · rw [join?_unit (by omega), joined, Char.ofNat_toNat]
        rfl
  · refine ⟨.char c, ?_, plain⟩
    rw [List.singleton_append, readPieces.eq_def]
    split <;> simp_all

theorem exists_readPieces (cs rest : List Char) :
    ∃ pieces, readPieces (cs.flatMap escape ++ '"' :: rest) = some (pieces, rest) ∧
      join? pieces = some cs := by
  induction cs with
  | nil => exact ⟨[], by simp [readPieces], rfl⟩
  | cons c cs ih =>
      obtain ⟨pieces, read, joined⟩ := ih
      obtain ⟨piece, first, all⟩ := readPieces_escape read joined
      refine ⟨piece :: pieces, ?_, all⟩
      rwa [List.flatMap_cons, List.append_assoc]

theorem readText_escape (s : String) (rest : List Char) :
    readText (s.toList.flatMap escape ++ '"' :: rest) = some (some s, rest) := by
  obtain ⟨pieces, read, joined⟩ := exists_readPieces s.toList rest
  simp only [readText, read, Option.map_some, joined, String.ofList_toList]

end Strings

section Spaces

theorem skipSpace_cons {c : Char} (solid : isSpace c = false) (rest : List Char) :
    skipSpace (c :: rest) = c :: rest := by
  simp [skipSpace, solid]

theorem isSpace_of_isDigit {c : Char} (digit : c.isDigit = true) : isSpace c = false := by
  cases space : isSpace c with
  | false => rfl
  | true =>
      simp only [isSpace, Bool.or_eq_true, decide_eq_true_eq] at space
      rcases space with ((rfl | rfl) | rfl) | rfl <;> cases digit

variable {kind : Float → Prop} {json : Json} {room : Nat}

/-- The text of a value begins neither with a space nor with the end of an array. -/
theorem write_eq_cons (json : Json) :
    ∃ c rest, write json = c :: rest ∧ isSpace c = false ∧ c ≠ ']' := by
  cases json with
  | bool b => cases b <;> exact ⟨_, _, by rw [write], by decide, by decide⟩
  | number n =>
      obtain ⟨c, rest, text, digit | rfl⟩ := writeNumeral_eq_cons n
      · refine ⟨c, rest, by rw [write, text], isSpace_of_isDigit digit, ?_⟩
        rintro rfl
        cases digit
      · exact ⟨_, rest, by rw [write, text], by decide, by decide⟩
  | string s => exact ⟨_, _, by rw [write, writeString], by decide, by decide⟩
  | _ => exact ⟨_, _, by rw [write], by decide, by decide⟩

theorem write_ne_nil (json : Json) : write json ≠ [] := by
  obtain ⟨c, rest, text, -⟩ := json.write_eq_cons
  rw [text]
  exact List.cons_ne_nil c rest

theorem text_ne_empty (json : Json) : json.text ≠ "" := by
  intro empty
  have written := congrArg String.toList empty
  rw [text, String.toList_ofList] at written
  exact write_ne_nil json written

theorem writeItems_eq_cons (json : Json) (items : List Json) :
    ∃ c rest, writeItems (json :: items) = c :: rest ∧ isSpace c = false ∧ c ≠ ']' := by
  obtain ⟨c, rest, text, solid, opens⟩ := json.write_eq_cons
  cases items with
  | nil => exact ⟨c, rest, by rw [writeItems, text], solid, opens⟩
  | cons next items => exact ⟨c, _, by rw [writeItems, text, List.cons_append]; nofun, solid, opens⟩

theorem writeFields_eq_cons (name : String) (value : Json) (fields : List (String × Json)) :
    ∃ rest, writeFields ((name, value) :: fields) = '"' :: rest := by
  cases fields with
  | nil => exact ⟨_, by rw [writeFields, writeString, List.cons_append]⟩
  | cons => exact ⟨_, by rw [writeFields, writeString, List.cons_append, List.cons_append]; nofun⟩

/-- What is left to be read allows for one more call. -/
theorem exists_fuel {fuel : Nat} (long : 2 * (write json).length ≤ fuel) :
    ∃ less, fuel = less + 1 := by
  obtain ⟨c, rest, text, -⟩ := json.write_eq_cons
  rw [text, List.length_cons] at long
  exact ⟨fuel - 1, by omega⟩

end Spaces

/-- A number is read, as no other kind of value begins with a digit or a sign. -/
theorem readValue_number (numeral : Numeral) (fuel room : Nat) {rest : List Char}
    (ends : EndsNumber rest) :
    readValue (fuel + 1) room (Numeral.write numeral ++ rest) =
      some ((lexemeOf numeral).value, rest) := by
  have lexed := lexNumber_write numeral ends
  obtain ⟨c, cs, text, begins⟩ := writeNumeral_eq_cons numeral
  have solid : isSpace c = false := begins.elim isSpace_of_isDigit fun minus => minus ▸ by decide
  rw [text, List.cons_append] at lexed ⊢
  rw [readValue, skipSpace_cons solid]
  split
  case h_7 => simp only [lexed, Option.map_some]
  all_goals
    next same =>
      obtain ⟨rfl, -⟩ := List.cons.inj same
      rcases begins with digit | minus
      · cases digit
      · cases minus

/-- Fields as they are read, when all of them have names. -/
def named (fields : List (String × Json)) : List (Option String × Json) :=
  fields.map fun (name, value) => (some name, value)

theorem named_cons (name : String) (value : Json) (fields : List (String × Json)) :
    named ((name, value) :: fields) = (some name, value) :: named fields := rfl

theorem ofFields_named (fields : List (String × Json)) :
    ofFields (named fields) = .object fields := by
  have names (read : Option String × Json → Option (String × Json))
      (reads : ∀ name value, read (some name, value) = some (name, value)) :
      (named fields).mapM read = some fields := by
    induction fields with
    | nil => rfl
    | cons field rest ih =>
        rw [named_cons, List.mapM_cons, reads, ih]
        rfl
  rw [ofFields, names _ fun _ _ => rfl]

mutual

/-- By recursion on the value. Every character allows for two calls, which is enough for the value
and for the list that it stands in. -/
theorem readValue_write (fuel room : Nat) (rest : List Char) : (json : Json) →
    json.FitsWith kind room → 2 * (write json).length ≤ fuel → EndsNumber rest →
    readValue fuel room (write json ++ rest) = some (json.reread, rest)
  | .null, fits, long, _ => by
      obtain ⟨fuel, rfl⟩ := exists_fuel long
      simp [write, readValue, skipSpace, isSpace, reread]
  | .bool true, fits, long, _ => by
      obtain ⟨fuel, rfl⟩ := exists_fuel long
      simp [write, readValue, skipSpace, isSpace, reread]
  | .bool false, fits, long, _ => by
      obtain ⟨fuel, rfl⟩ := exists_fuel long
      simp [write, readValue, skipSpace, isSpace, reread]
  | .number n, _, long, ends => by
      obtain ⟨fuel, rfl⟩ := exists_fuel long
      rw [write, reread]
      exact readValue_number n fuel room ends
  | .string s, fits, long, _ => by
      obtain ⟨fuel, rfl⟩ := exists_fuel long
      simp [write, writeString, readValue, skipSpace, isSpace, readText_escape, reread]
  | .array [], fits, long, _ => by
      obtain ⟨fuel, rfl⟩ := exists_fuel long
      simp [write, writeItems, readValue, skipSpace, isSpace, nested, Nat.ne_of_gt fits.1, reread,
        rereadItems]
  | .array (item :: items), fits, long, _ => by
      obtain ⟨fuel, rfl⟩ := exists_fuel long
      simp only [write, List.length_cons, List.length_append, List.length_nil] at long
      have inside := readItems_write fuel (room - 1) rest item items fits.2 (by omega)
      obtain ⟨c, text, begins, solid, opens⟩ := writeItems_eq_cons item items
      rw [begins, List.cons_append] at inside
      simp only [write, begins, List.cons_append, List.append_assoc, List.nil_append, readValue,
        skipSpace_cons (show isSpace '[' = false by decide), skipSpace_cons solid]
      split
      · next same => exact absurd (List.cons.inj same).1 opens
      · simp only [inside, Option.map_some, nested, Nat.ne_of_gt fits.1, if_false, reread]
  | .object [], fits, long, _ => by
      obtain ⟨fuel, rfl⟩ := exists_fuel long
      simp [write, writeFields, readValue, skipSpace, isSpace, nested, Nat.ne_of_gt fits.1, reread,
        rereadFields]
  | .object ((name, value) :: fields), fits, long, _ => by
      obtain ⟨fuel, rfl⟩ := exists_fuel long
      simp only [write, List.length_cons, List.length_append, List.length_nil] at long
      have inside := readFields_write fuel (room - 1) rest name value fields fits.2 (by omega)
      obtain ⟨text, begins⟩ := writeFields_eq_cons name value fields
      rw [begins, List.cons_append] at inside
      simp [write, begins, readValue, skipSpace, isSpace, inside, ofFields_named, nested,
        Nat.ne_of_gt fits.1, reread]

theorem readItems_write (fuel room : Nat) (rest : List Char) : (item : Json) → (items : List Json) →
    ItemsFitWith kind room (item :: items) → 2 * (writeItems (item :: items)).length + 1 ≤ fuel →
    readItems fuel room (writeItems (item :: items) ++ ']' :: rest) =
      some (rereadItems (item :: items), rest)
  | item, [], fits, long => by
      obtain ⟨fuel, rfl⟩ : ∃ less, fuel = less + 1 := ⟨fuel - 1, by omega⟩
      rw [writeItems] at long ⊢
      have read := readValue_write fuel room (']' :: rest) item fits.1 (by omega)
        (by simp [EndsNumber])
      rw [readItems, read]
      simp [skipSpace, isSpace, rereadItems]
  | item, next :: items, fits, long => by
      obtain ⟨fuel, rfl⟩ : ∃ less, fuel = less + 1 := ⟨fuel - 1, by omega⟩
      have text : writeItems (item :: next :: items) =
          write item ++ ',' :: writeItems (next :: items) := by rw [writeItems]; nofun
      rw [text, List.length_append, List.length_cons] at long
      have read := readValue_write fuel room (',' :: (writeItems (next :: items) ++ ']' :: rest))
        item fits.1 (by omega) (by simp [EndsNumber])
      have others := readItems_write fuel room rest next items fits.2 (by omega)
      rw [text, List.append_assoc, List.cons_append, readItems, read]
      simp [skipSpace, isSpace, others, rereadItems]

theorem readFields_write (fuel room : Nat) (rest : List Char) : (name : String) → (value : Json) →
    (fields : List (String × Json)) → FieldsFitWith kind room ((name, value) :: fields) →
    2 * (writeFields ((name, value) :: fields)).length + 1 ≤ fuel →
    readFields fuel room (writeFields ((name, value) :: fields) ++ '}' :: rest) =
      some (named (rereadFields ((name, value) :: fields)), rest)
  | name, value, [], fits, long => by
      obtain ⟨fuel, rfl⟩ : ∃ less, fuel = less + 1 := ⟨fuel - 1, by omega⟩
      simp only [writeFields, List.length_append, List.length_cons] at long
      have read := readValue_write fuel room ('}' :: rest) value fits.1 (by omega)
        (by simp [EndsNumber])
      simp [writeFields, writeString, readFields, skipSpace, isSpace, readText_escape, read, named,
        rereadFields]
  | name, value, (other, next) :: fields, fits, long => by
      obtain ⟨fuel, rfl⟩ : ∃ less, fuel = less + 1 := ⟨fuel - 1, by omega⟩
      have text : writeFields ((name, value) :: (other, next) :: fields) = writeString name ++
          ':' :: write value ++ ',' :: writeFields ((other, next) :: fields) := by
        rw [writeFields]; nofun
      rw [text] at long ⊢
      simp only [List.length_append, List.length_cons] at long
      have read := readValue_write fuel room
        (',' :: (writeFields ((other, next) :: fields) ++ '}' :: rest)) value fits.1 (by omega)
        (by simp [EndsNumber])
      have others := readFields_write fuel room rest other next fields fits.2 (by omega)
      simp [writeString, readFields, skipSpace, isSpace, readText_escape, read, others, named_cons,
        rereadFields]

end

mutual

theorem isReadable_reread (room : Nat) : (json : Json) →
    json.FitsWith (·.isFinite = true) room → json.reread.isReadable = true
  | .null, _ | .bool _, _ | .string _, _ => by rw [reread, isReadable] <;> nofun
  | .number (.natural n), fits => by rw [reread, lexemeOf, value_natural fits, isReadable] <;> nofun
  | .number (.negative n), fits => by
      rw [reread, lexemeOf, value_negative fits.1 fits.2, isReadable] <;> nofun
  | .number (.float x), fits => by
      obtain ⟨y, float⟩ := isFloat_floatLexeme fits
      rw [reread, lexemeOf, float, isReadable] <;> nofun
  | .array items, fits => by
      rw [reread, isReadable]
      exact areReadable_reread (room - 1) items fits.2
  | .object fields, fits => by
      rw [reread, isReadable]
      exact fieldsAreReadable_reread (room - 1) fields fits.2

theorem areReadable_reread (room : Nat) : (items : List Json) →
    ItemsFitWith (·.isFinite = true) room items → areReadable (rereadItems items) = true
  | [], _ => by rw [rereadItems, areReadable]
  | item :: rest, fit => by
      rw [rereadItems, areReadable, isReadable_reread room item fit.1,
        areReadable_reread room rest fit.2, Bool.and_self]

theorem fieldsAreReadable_reread (room : Nat) : (fields : List (String × Json)) →
    FieldsFitWith (·.isFinite = true) room fields → fieldsAreReadable (rereadFields fields) = true
  | [], _ => by rw [rereadFields, fieldsAreReadable]
  | (_, value) :: rest, fit => by
      rw [rereadFields, fieldsAreReadable, isReadable_reread room value fit.1,
        fieldsAreReadable_reread room rest fit.2, Bool.and_self]

end

mutual

theorem reread_of_fits (room : Nat) : (json : Json) → json.Fits room → json.reread = json
  | .null, _ | .bool _, _ | .string _, _ => by rw [reread] <;> nofun
  | .number (.natural n), fits => by rw [reread, lexemeOf, value_natural fits]
  | .number (.negative n), fits => by rw [reread, lexemeOf, value_negative fits.1 fits.2]
  | .array items, fits => by rw [reread, rereadItems_of_fit (room - 1) items fits.2]
  | .object fields, fits => by rw [reread, rereadFields_of_fit (room - 1) fields fits.2]

theorem rereadItems_of_fit (room : Nat) : (items : List Json) → ItemsFit room items →
    rereadItems items = items
  | [], _ => by rw [rereadItems]
  | item :: rest, fit => by
      rw [rereadItems, reread_of_fits room item fit.1, rereadItems_of_fit room rest fit.2]

theorem rereadFields_of_fit (room : Nat) : (fields : List (String × Json)) →
    FieldsFit room fields → rereadFields fields = fields
  | [], _ => by rw [rereadFields]
  | (_, value) :: rest, fit => by
      rw [rereadFields, reread_of_fits room value fit.1, rereadFields_of_fit room rest fit.2]

end

mutual

theorem FitsWith.mono {kind other : Float → Prop} (within : ∀ x, kind x → other x) (room : Nat) :
    (json : Json) → json.FitsWith kind room → json.FitsWith other room
  | .null, _ | .bool _, _ | .string _, _ => trivial
  | .number (.natural _), fits | .number (.negative _), fits => fits
  | .number (.float x), fits => within x fits
  | .array items, fits => ⟨fits.1, ItemsFitWith.mono within (room - 1) items fits.2⟩
  | .object fields, fits => ⟨fits.1, FieldsFitWith.mono within (room - 1) fields fits.2⟩

theorem ItemsFitWith.mono {kind other : Float → Prop} (within : ∀ x, kind x → other x)
    (room : Nat) : (items : List Json) → ItemsFitWith kind room items →
    ItemsFitWith other room items
  | [], _ => trivial
  | item :: rest, fit =>
      ⟨FitsWith.mono within room item fit.1, ItemsFitWith.mono within room rest fit.2⟩

theorem FieldsFitWith.mono {kind other : Float → Prop} (within : ∀ x, kind x → other x)
    (room : Nat) : (fields : List (String × Json)) → FieldsFitWith kind room fields →
    FieldsFitWith other room fields
  | [], _ => trivial
  | (_, value) :: rest, fit =>
      ⟨FitsWith.mono within room value fit.1, FieldsFitWith.mono within room rest fit.2⟩

end

variable {kind : Float → Prop} {json other : Json}

/-- Any text of a value is read, as the same value but for its floats. -/
theorem read?_text_reread (fits : json.FitsWith kind maxDepth) :
    read? json.text = some json.reread := by
  have read := readValue_write (2 * (write json).length + 2) maxDepth [] json fits (by omega)
    (by simp [EndsNumber])
  rw [List.append_nil] at read
  simp [read?, text, read, skipSpace]

theorem readWhole?_text_reread (fits : json.FitsWith (·.isFinite = true) maxDepth) :
    readWhole? json.text = some json.reread := by
  rw [readWhole?, read?_text_reread fits, Option.filter_some, isReadable_reread _ json fits,
    if_pos rfl]

theorem read?_text (fits : json.Fits maxDepth) : read? json.text = some json := by
  rw [read?_text_reread fits, reread_of_fits _ json fits]

theorem readWhole?_text (fits : json.Fits maxDepth) : readWhole? json.text = some json := by
  rw [readWhole?_text_reread (FitsWith.mono (fun _ => False.elim) _ json fits),
    reread_of_fits _ json fits]

theorem text_inj (fits : json.Fits maxDepth) (otherFits : other.Fits maxDepth)
    (same : json.text = other.text) : json = other := by
  have read := read?_text fits
  rw [same, read?_text otherFits] at read
  exact (Option.some.inj read).symm

end WalletSync.Json
