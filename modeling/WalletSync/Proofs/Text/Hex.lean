import WalletSync.Proofs.Text.Bytes

/-!
Hexadecimal digits of either case spell a row of bytes, two for each byte. A text is read as bytes
exactly when its characters spell them, and the digits that are written for bytes spell them as
well. The reader goes by the bytes of the text; a character beyond ASCII has none that is a digit.
-/

namespace WalletSync.Text

variable {c : Char} {n : Nat} {bytes : List UInt8} {run : List Char} {text : String}

/-- The run of digits spells the bytes: each is two digits, the one that counts sixteen times
first. -/
inductive Spells : List UInt8 → List Char → Prop
  | nil : Spells [] []
  | cons {byte : UInt8} {bytes : List UInt8} {high low : Char} {run : List Char} :
      hexDigit? high = some (byte.toNat / 16) → hexDigit? low = some (byte.toNat % 16) →
      Spells bytes run → Spells (byte :: bytes) (high :: low :: run)

section Digit

theorem hexDigit?_lt (digit : hexDigit? c = some n) : n < 16 := by
  simp only [hexDigit?, Bool.and_eq_true, decide_eq_true_eq] at digit
  split at digit
  · cases digit
    omega
  · split at digit
    · cases digit
      omega
    · split at digit
      · cases digit
        omega
      · cases digit

theorem lt_of_hexDigit? (digit : (hexDigit? c).isSome) : c.toNat < 128 := by
  refine Nat.lt_of_not_le fun beyond => ?_
  have none : hexDigit? c = none := by
    simp only [hexDigit?, Bool.and_eq_true, decide_eq_true_eq]
    rw [if_neg (by omega), if_neg (by omega), if_neg (by omega)]
  rw [none] at digit
  cases digit

theorem hexDigit?_high : ∀ n < 256, 128 ≤ n → hexDigit? (Char.ofNat n) = none := by decide +kernel

theorem hexDigit?_hexChar : ∀ n < 16, hexDigit? (hexChar n) = some n := by decide

/-- A digit is the same in upper case. -/
theorem hexDigit?_toUpper (digit : (hexDigit? c).isSome) : hexDigit? c.toUpper = hexDigit? c := by
  have ascii : ∀ n < 128, hexDigit? (Char.ofNat n).toUpper = hexDigit? (Char.ofNat n) ∨
      hexDigit? (Char.ofNat n) = none := by
    decide +kernel
  rcases ascii c.toNat (lt_of_hexDigit? digit) with same | none
  · rwa [Char.ofNat_toNat] at same
  · rw [Char.ofNat_toNat] at none
    rw [none] at digit
    cases digit

end Digit

namespace Spells

theorem length (spelt : Spells bytes run) : run.length = 2 * bytes.length := by
  induction spelt with
  | nil => rfl
  | cons _ _ _ ih =>
      rw [List.length_cons, List.length_cons, List.length_cons, ih]
      omega

theorem isSome_of_mem (spelt : Spells bytes run) (listed : c ∈ run) : (hexDigit? c).isSome := by
  induction spelt with
  | nil => cases listed
  | cons high low _ ih =>
      rcases List.mem_cons.mp listed with rfl | later
      · exact Option.isSome_of_eq_some high
      · rcases List.mem_cons.mp later with rfl | rest
        · exact Option.isSome_of_eq_some low
        · exact ih rest

/-- Digits may be replaced one by one, as long as each keeps its value. -/
theorem zipWith {α : Type} {f : Char → α → Char} {row : List α} (spelt : Spells bytes run)
    (keeps : ∀ c a, (hexDigit? c).isSome → hexDigit? (f c a) = hexDigit? c)
    (long : run.length ≤ row.length) : Spells bytes (run.zipWith f row) := by
  induction spelt generalizing row with
  | nil => exact .nil
  | cons high low _ ih =>
      match row, long with
      | first :: second :: row, long =>
          refine .cons ?_ ?_ (ih (Nat.le_of_succ_le_succ (Nat.le_of_succ_le_succ long)))
          · rw [keeps _ first (Option.isSome_of_eq_some high), high]
          · rw [keeps _ second (Option.isSome_of_eq_some low), low]

end Spells

theorem spells_hexOfBytes (bytes : List UInt8) : Spells bytes (hexOfBytes bytes) := by
  induction bytes with
  | nil => exact .nil
  | cons byte bytes ih =>
      have within := byte.toNat_lt
      exact .cons (hexDigit?_hexChar _ (by omega)) (hexDigit?_hexChar _ (by omega)) ih

theorem length_hexOfBytes (bytes : List UInt8) : (hexOfBytes bytes).length = 2 * bytes.length :=
  (spells_hexOfBytes bytes).length

section Reading

theorem except_map_ok {ε α β : Type} {x : Except ε α} {f : α → β} {b : β} :
    x.map f = .ok b ↔ ∃ a, x = .ok a ∧ f a = b := by
  cases x <;> simp [Except.map]

/-- Where the reader stands is told in its errors and does not change what is read. -/
theorem bytesOfPairs_eq_ok_iff (index : Nat) (row : List UInt8) :
    bytesOfPairs index row = .ok bytes ↔ Spells bytes (row.map fun b => Char.ofNat b.toNat) := by
  fun_induction bytesOfPairs index row generalizing bytes with
  | case1 =>
      constructor
      · rintro ⟨⟩
        exact .nil
      · rintro ⟨⟩
        rfl
  | case2 => exact ⟨nofun, nofun⟩
  | case3 index a b rest noHigh =>
      refine ⟨nofun, ?_⟩
      rintro (_ | ⟨high, _, _⟩)
      rw [noHigh] at high
      cases high
  | case4 index a b rest noLow =>
      refine ⟨nofun, ?_⟩
      rintro (_ | ⟨_, low, _⟩)
      rw [noLow] at low
      cases low
  | case5 index a b rest x y low high ih =>
      have sixteens := hexDigit?_lt high
      have ones := hexDigit?_lt low
      have value : (UInt8.ofNat (16 * x + y)).toNat = 16 * x + y := by
        rw [UInt8.toNat_ofNat']
        omega
      rw [except_map_ok]
      constructor
      · rintro ⟨others, read, rfl⟩
        refine .cons ?_ ?_ (ih.mp read)
        · rw [high, value]
          congr 1
          omega
        · rw [low, value]
          congr 1
          omega
      · rintro (_ | @⟨byte, others, _, _, _, otherHigh, otherLow, spelt⟩)
        have x_eq := Option.some.inj (high.symm.trans otherHigh)
        have y_eq := Option.some.inj (low.symm.trans otherLow)
        have same : UInt8.ofNat (16 * x + y) = byte := UInt8.toNat_inj.mp (by omega)
        exact ⟨others, ih.mpr spelt, by rw [same]⟩

theorem toUTF8_toList (text : String) :
    text.toUTF8.toList = text.toList.flatMap String.utf8EncodeChar := by
  rw [toList_eq_data, String.toUTF8_eq_toByteArray, ← String.utf8Encode_toList, List.utf8Encode,
    List.toList_data_toByteArray]

theorem length_toUTF8 (text : String) : text.toUTF8.toList.length = text.utf8ByteSize := by
  rw [toList_eq_data, Array.length_toList]
  rfl

/-- An ASCII character is the one byte of its code. -/
theorem utf8EncodeChar_of_ascii (ascii : c.toNat < 128) :
    String.utf8EncodeChar c = [UInt8.ofNat c.toNat] := by
  have low : c.val.toNat ≤ 127 := Nat.le_of_lt_succ ascii
  rw [String.utf8EncodeChar]
  exact if_pos low

/-- Among the bytes of another character there is none that is ASCII. -/
theorem le_of_mem_utf8EncodeChar {b : UInt8} (beyond : 128 ≤ c.toNat)
    (listed : b ∈ String.utf8EncodeChar c) : 128 ≤ b.toNat := by
  have high : ¬c.val.toNat ≤ 127 := Nat.not_le_of_lt beyond
  rw [String.utf8EncodeChar.eq_1, if_neg high] at listed
  split at listed
  · simp only [List.mem_cons, List.not_mem_nil, or_false] at listed
    rcases listed with rfl | rfl <;> rw [UInt8.toNat_ofNat'] <;> omega
  · split at listed
    · simp only [List.mem_cons, List.not_mem_nil, or_false] at listed
      rcases listed with rfl | rfl | rfl <;> rw [UInt8.toNat_ofNat'] <;> omega
    · simp only [List.mem_cons, List.not_mem_nil, or_false] at listed
      rcases listed with rfl | rfl | rfl | rfl <;> rw [UInt8.toNat_ofNat'] <;> omega

theorem flatMap_utf8_of_ascii (ascii : ∀ c ∈ run, c.toNat < 128) :
    (run.flatMap String.utf8EncodeChar).map (fun b => Char.ofNat b.toNat) = run := by
  induction run with
  | nil => rfl
  | cons c run ih =>
      have low := ascii c List.mem_cons_self
      have code : (UInt8.ofNat c.toNat).toNat = c.toNat := by
        rw [UInt8.toNat_ofNat']
        omega
      rw [List.flatMap_cons, List.map_append, utf8EncodeChar_of_ascii low, List.map_singleton,
        code, Char.ofNat_toNat, ih fun d listed => ascii d (List.mem_cons_of_mem _ listed)]
      rfl

theorem spells_utf8_iff :
    Spells bytes ((run.flatMap String.utf8EncodeChar).map fun b => Char.ofNat b.toNat) ↔
      Spells bytes run := by
  constructor
  · intro spelt
    have ascii : ∀ c ∈ run, c.toNat < 128 := by
      intro c listed
      refine Nat.lt_of_not_le fun beyond => ?_
      obtain ⟨b, first⟩ := List.exists_mem_of_ne_nil _ (String.utf8EncodeChar_ne_nil (c := c))
      have high := le_of_mem_utf8EncodeChar beyond first
      have digit := spelt.isSome_of_mem
        (List.mem_map_of_mem (List.mem_flatMap_of_mem listed first))
      rw [hexDigit?_high _ b.toNat_lt high] at digit
      cases digit
    rwa [flatMap_utf8_of_ascii ascii] at spelt
  · intro spelt
    rwa [flatMap_utf8_of_ascii fun c listed => lt_of_hexDigit? (spelt.isSome_of_mem listed)]

/-- A text is read as the bytes that its characters spell. -/
theorem bytesOfHex_eq_ok_iff : bytesOfHex text = .ok bytes ↔ Spells bytes text.toList := by
  rw [← spells_utf8_iff, ← toUTF8_toList, ← bytesOfPairs_eq_ok_iff 0, bytesOfHex]
  split
  · next odd =>
      refine ⟨nofun, fun read => ?_⟩
      have pairs := ((bytesOfPairs_eq_ok_iff 0 _).mp read).length
      rw [List.length_map, length_toUTF8] at pairs
      omega
  · rfl

end Reading

end WalletSync.Text
