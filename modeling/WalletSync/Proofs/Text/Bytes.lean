import WalletSync.Text.Hex

/-!
Bytes of texts and texts of bytes: the bytes of a text belong to no other text, and neither do the
hexadecimal digits of a row of bytes to another row.
-/

namespace WalletSync.Text

theorem toList_loop (bytes : ByteArray) (index : Nat) (done : List UInt8) :
    ByteArray.toList.loop bytes index done = done.reverse ++ bytes.data.toList.drop index := by
  fun_induction ByteArray.toList.loop bytes index done with
  | case1 index done inside ih =>
      have short : index < bytes.data.toList.length := inside
      have byte : bytes.get! index = bytes.data.toList[index] :=
        getElem!_pos bytes.data index inside
      rw [ih, List.drop_eq_getElem_cons short, byte, List.reverse_cons, List.append_assoc]
      rfl
  | case2 index done outside =>
      have long : bytes.data.toList.length ≤ index := Nat.le_of_not_lt outside
      rw [List.drop_eq_nil_of_le long, List.append_nil]

theorem toList_eq_data (bytes : ByteArray) : bytes.toList = bytes.data.toList := by
  rw [ByteArray.toList, toList_loop]
  rfl

theorem toUTF8_toList_inj {text other : String}
    (same : text.toUTF8.toList = other.toUTF8.toList) : text = other := by
  rw [toList_eq_data, toList_eq_data] at same
  exact String.toByteArray_inj.mp (ByteArray.ext (Array.toList_inj.mp same))

theorem hexChar_inj : ∀ n < 16, ∀ m < 16, hexChar n = hexChar m → n = m := by decide

theorem hexOfBytes_inj {bytes others : List UInt8} (same : hexOfBytes bytes = hexOfBytes others) :
    bytes = others := by
  induction bytes generalizing others with
  | nil =>
      cases others with
      | nil => rfl
      | cons => cases same
  | cons b bytes ih =>
      cases others with
      | nil => cases same
      | cons c others =>
          simp only [hexOfBytes, List.flatMap_cons, List.cons_append, List.nil_append,
            List.cons.injEq] at same
          obtain ⟨high, low, rest⟩ := same
          have hb := b.toNat_lt
          have hc := c.toNat_lt
          have high := hexChar_inj _ (by omega) _ (by omega) high
          have low := hexChar_inj _ (by omega) _ (by omega) low
          have first : b = c := UInt8.toNat_inj.mp (by omega)
          rw [first, ih rest]

end WalletSync.Text
