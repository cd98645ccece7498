import WalletSync.Family.Address
import WalletSync.Proofs.Text.Hex

/-!
Every address of twenty bytes has one text that stands for all of its texts: whatever the case of
the digits, and with or without a mark in front, the normal form is the same, and two texts that
have the same normal form are texts of one address or no addresses and equal. The digest decides
about the case of letters only, so nothing here depends on what it is, except for its length.
-/

namespace WalletSync

open Text

namespace Keccak256

theorem size_round (state : Array UInt64) (constant : UInt64) :
    (round state constant).size = 25 := by
  simp only [round, mixRows, ofLanes, Array.size_setIfInBounds, Array.size_ofFn]

theorem size_permute {state : Array UInt64} (size : state.size = 25) :
    (permute state).size = 25 := by
  unfold permute
  induction roundConstants generalizing state with
  | nil => exact size
  | cons constant _ ih =>
      rw [List.foldl_cons]
      exact ih (size_round state constant)

theorem size_absorb (count : Nat) {state : Array UInt64} (size : state.size = 25)
    (bytes : List UInt8) : (absorb count state bytes).size = 25 := by
  induction count generalizing state bytes with
  | zero => exact size
  | succ count ih =>
      rw [absorb]
      exact ih (size_permute Array.size_ofFn) _

theorem length_digest (message : List UInt8) : (digest message).length = 32 := by
  have blank : (Array.replicate 25 (0 : UInt64)).size = 25 := Array.size_replicate
  have size := size_absorb ((pad message).length / rate) blank (pad message)
  rw [digest, List.length_flatMap, List.map_congr_left (g := fun _ => 8) ?_]
  · rw [List.map_const', List.sum_replicate_nat, List.length_take, Array.length_toList, size]
    rfl
  · intro w _
    rw [bytesOf, List.length_map, List.length_range]

end Keccak256

namespace HexAddress

variable {text : String} {bytes : List UInt8}

/-- What may stand in front of the digits. -/
def marks : List (List Char) := [[], ['0', 'x'], ['0', 'X']]

/-- The text is the bytes in hexadecimal, marked as such or not. -/
def Denotes (text : String) (bytes : List UInt8) : Prop :=
  ∃ mark ∈ marks, ∃ run, text.toList = mark ++ run ∧ Spells bytes run

/-- The text is an address, and these are its twenty bytes. -/
def IsAddressOf (text : String) (bytes : List UInt8) : Prop :=
  Denotes text bytes ∧ bytes.length = 20

theorem not_spells_marked {c : Char} (letter : hexDigit? c = none) (run : List Char) :
    ¬Spells bytes ('0' :: c :: run) := by
  rintro (_ | ⟨_, low, _⟩)
  rw [letter] at low
  cases low

theorem spells_withoutMark_iff : Spells bytes (withoutMark text).toList ↔ Denotes text bytes := by
  unfold withoutMark
  constructor
  · intro spelt
    split at spelt
    · next rest parts =>
        rw [String.toList_ofList] at spelt
        exact ⟨['0', 'x'], by decide, rest, parts, spelt⟩
    · next rest parts =>
        rw [String.toList_ofList] at spelt
        exact ⟨['0', 'X'], by decide, rest, parts, spelt⟩
    · exact ⟨[], by decide, text.toList, rfl, spelt⟩
  · rintro ⟨mark, known, run, parts, spelt⟩
    have among : mark = [] ∨ mark = ['0', 'x'] ∨ mark = ['0', 'X'] := by
      simpa only [marks, List.mem_cons, List.not_mem_nil, or_false] using known
    rcases among with rfl | rfl | rfl
    · rw [List.nil_append] at parts
      rw [← parts] at spelt
      split
      · next rest marked => exact absurd (marked ▸ spelt) (not_spells_marked rfl rest)
      · next rest marked => exact absurd (marked ▸ spelt) (not_spells_marked rfl rest)
      · exact spelt
    · rw [parts]
      exact String.toList_ofList ▸ spelt
    · rw [parts]
      exact String.toList_ofList ▸ spelt

theorem fixedBytes?_eq_some_iff {length : Nat} :
    fixedBytes? length text = some bytes ↔ Denotes text bytes ∧ bytes.length = length := by
  rw [← spells_withoutMark_iff, ← bytesOfHex_eq_ok_iff, fixedBytes?]
  cases bytesOfHex (withoutMark text) with
  | error e => exact ⟨nofun, nofun⟩
  | ok read =>
      rw [Option.ite_none_right_eq_some, Option.some.injEq, Except.ok.injEq]
      constructor
      · rintro ⟨long, rfl⟩
        exact ⟨rfl, long⟩
      · rintro ⟨rfl, long⟩
        exact ⟨long, rfl⟩

theorem bytes?_eq_some_iff : bytes? text = some bytes ↔ IsAddressOf text bytes :=
  fixedBytes?_eq_some_iff

theorem checksummed_parts (twenty : bytes.length = 20) :
    ∃ run, (checksummed bytes).toList = '0' :: 'x' :: run ∧ Spells bytes run := by
  refine ⟨_, String.toList_ofList, (spells_hexOfBytes bytes).zipWith ?_ ?_⟩
  · intro c d digit
    split
    · exact hexDigit?_toUpper digit
    · rfl
  · rw [length_hexOfBytes, length_hexOfBytes, Keccak256.length_digest, twenty]
    decide

theorem isAddress_iff :
    isAddress text = true ↔
      (∃ run, text.toList = '0' :: 'x' :: run) ∧ ∃ bytes, IsAddressOf text bytes := by
  rw [isAddress, Bool.and_eq_true, List.isPrefixOf_iff_prefix, Option.isSome_iff_exists]
  apply and_congr
  · exact ⟨fun ⟨run, parts⟩ => ⟨run, parts.symm⟩, fun ⟨run, parts⟩ => ⟨run, parts.symm⟩⟩
  · exact exists_congr fun _ => bytes?_eq_some_iff

theorem normalize_of_isAddressOf (address : IsAddressOf text bytes) :
    normalize text = checksummed bytes := by
  rw [normalize, bytes?_eq_some_iff.mpr address, Option.map_some, Option.getD_some]

/-- An address is written from its bytes alone, and any other text is left as it is. -/
theorem normalize_cases (text : String) :
    (∃ bytes, IsAddressOf text bytes ∧ normalize text = checksummed bytes) ∨
      (∀ bytes, ¬IsAddressOf text bytes) ∧ normalize text = text := by
  cases read : bytes? text with
  | some bytes =>
      have address := bytes?_eq_some_iff.mp read
      exact .inl ⟨bytes, address, normalize_of_isAddressOf address⟩
  | none =>
      refine .inr ⟨fun bytes address => ?_, ?_⟩
      · rw [bytes?_eq_some_iff.mpr address] at read
        cases read
      · rw [normalize, read, Option.map_none, Option.getD_none]

/-- The normal form of an address is an address of the same bytes, and marked as one. -/
theorem isAddressOf_normalize (address : IsAddressOf text bytes) :
    IsAddressOf (normalize text) bytes ∧ ∃ run, (normalize text).toList = '0' :: 'x' :: run := by
  obtain ⟨run, parts, spelt⟩ := checksummed_parts address.2
  rw [normalize_of_isAddressOf address]
  exact ⟨⟨⟨['0', 'x'], by decide, run, parts, spelt⟩, address.2⟩, run, parts⟩

theorem IsAddressOf.unique {others : List UInt8} (first : IsAddressOf text bytes)
    (second : IsAddressOf text others) : bytes = others :=
  Option.some.inj ((bytes?_eq_some_iff.mpr first).symm.trans (bytes?_eq_some_iff.mpr second))

/-- A text that is no address does not turn into one. -/
theorem isAddressOf_normalize_iff :
    IsAddressOf (normalize text) bytes ↔ IsAddressOf text bytes := by
  rcases normalize_cases text with ⟨others, address, -⟩ | ⟨-, own⟩
  · have form := (isAddressOf_normalize address).1
    constructor
    · intro again
      rw [again.unique form]
      exact address
    · intro again
      rw [again.unique address]
      exact form
  · rw [own]

/-- Two texts have the same normal form when they are texts of one address, or no addresses and the
same text, and never otherwise. So the normal form of a normal form is itself, and that of an
address is an address of the same bytes. -/
theorem addresses_have_one_form :
    (∀ text other, normalize text = normalize other ↔
      (∃ bytes, IsAddressOf text bytes ∧ IsAddressOf other bytes) ∨
        (∀ bytes, ¬IsAddressOf text bytes ∧ ¬IsAddressOf other bytes) ∧ text = other) ∧
    (∀ text, normalize (normalize text) = normalize text) ∧
    ∀ text, isAddress text = true →
      isAddress (normalize text) = true ∧
        ∃ bytes, IsAddressOf text bytes ∧ IsAddressOf (normalize text) bytes := by
  refine ⟨fun text other => ⟨fun same => ?_, ?_⟩, fun text => ?_, fun text valid => ?_⟩
  · have alike (bytes : List UInt8) : IsAddressOf text bytes ↔ IsAddressOf other bytes := by
      rw [← isAddressOf_normalize_iff, same, isAddressOf_normalize_iff]
    rcases normalize_cases text with ⟨bytes, address, -⟩ | ⟨none, own⟩
    · exact .inl ⟨bytes, address, (alike bytes).mp address⟩
    · rcases normalize_cases other with ⟨bytes, address, -⟩ | ⟨noOther, otherOwn⟩
      · exact absurd ((alike bytes).mpr address) (none bytes)
      · rw [own, otherOwn] at same
        exact .inr ⟨fun bytes => ⟨none bytes, noOther bytes⟩, same⟩
  · rintro (⟨bytes, first, second⟩ | ⟨-, rfl⟩)
    · rw [normalize_of_isAddressOf first, normalize_of_isAddressOf second]
    · rfl
  · rcases normalize_cases text with ⟨bytes, address, form⟩ | ⟨-, own⟩
    · rw [normalize_of_isAddressOf (isAddressOf_normalize address).1, form]
    · rw [own, own]
  · obtain ⟨-, bytes, address⟩ := isAddress_iff.mp valid
    obtain ⟨same, marked⟩ := isAddressOf_normalize address
    exact ⟨isAddress_iff.mpr ⟨marked, bytes, same⟩, bytes, address, same⟩

section Sample

def sampleText : String := "0x5aaeb6053f3e94c9b9a09f33669435e7ef1beaed"

/-- The same address in upper case. It is read without a mark, but not valid that way. -/
def bareText : String := "5AAEB6053F3E94C9B9A09F33669435E7EF1BEAED"

theorem addresses_have_one_form_of_bare :
    isAddress sampleText = true ∧ isAddress bareText = false ∧
      normalize bareText = normalize sampleText ∧ isAddress (normalize bareText) = true := by
  have valid : isAddress sampleText = true := by decide +kernel
  have same : bytes? bareText = bytes? sampleText := by decide +kernel
  obtain ⟨alike, -, kept⟩ := addresses_have_one_form
  obtain ⟨form, bytes, address, -⟩ := kept sampleText valid
  have bare : IsAddressOf bareText bytes :=
    bytes?_eq_some_iff.mp (same.trans (bytes?_eq_some_iff.mpr address))
  have one := (alike bareText sampleText).mpr (.inl ⟨bytes, bare, address⟩)
  exact ⟨valid, by decide +kernel, one, one ▸ form⟩

end Sample

end HexAddress

end WalletSync
