import Fat32.Proofs.Text
import Fat32.Text.Basic

/-!
UTF-8 that is cut off. The bytes of a character tell where it ends, so bytes
that are a text on their own, at the start of the bytes of another text, are the
start of that text. Bytes that were cut within a character are no text.
-/

namespace Fat32.Text

def encode (chars : List Char) : List UInt8 := chars.flatMap String.utf8EncodeChar

theorem utf8Encode_eq_encode (chars : List Char) : chars.utf8Encode.data.toList = encode chars :=
  List.toList_data_toByteArray

theorem toUTF8_eq_encode (text : String) : text.toUTF8.data.toList = encode text.toList := by
  rw [String.toUTF8_eq_toByteArray, ← String.utf8Encode_toList, utf8Encode_eq_encode]

theorem encode_append (front rest : List Char) :
    encode (front ++ rest) = encode front ++ encode rest := List.flatMap_append

theorem encode_cons (c : Char) (rest : List Char) :
    encode (c :: rest) = String.utf8EncodeChar c ++ encode rest := List.flatMap_cons

theorem length_encode (chars : List Char) : (encode chars).length = utf8Size chars := by
  induction chars with
  | nil => rfl
  | cons c rest ih =>
    rw [encode_cons, List.length_append, String.length_utf8EncodeChar, ih, utf8Size]

theorem length_encode_toList (text : String) :
    (encode text.toList).length = text.utf8ByteSize := by
  rw [length_encode, ← utf8ByteSize_ofList, String.ofList_toList]

theorem prefix_of_encode_prefix {front chars : List Char} (begins : encode front <+: encode chars) :
    front <+: chars := by
  obtain ⟨rest, split⟩ := begins
  apply List.isPrefix_of_utf8Encode_append_eq_utf8Encode rest.toByteArray
  rw [List.utf8Encode, List.utf8Encode, ← List.toByteArray_append]
  exact congrArg List.toByteArray split

theorem encode_of_ascii {ascii : List Char} (narrow : ∀ c ∈ ascii, c.utf8Size = 1) :
    encode ascii = ascii.map (·.val.toUInt8) := by
  induction ascii with
  | nil => rfl
  | cons c rest ih =>
    rw [List.forall_mem_cons] at narrow
    rw [encode_cons, String.utf8EncodeChar_eq_singleton narrow.1, ih narrow.2]
    rfl

theorem latin1_eq_of_first {first : UInt8} {others : List UInt8}
    (wide : (latin1 first).utf8Size ≠ 1)
    (encoded : String.utf8EncodeChar (latin1 first) = first :: others) : latin1 first = 'Ã' := by
  have only : ∀ n < 256, (Char.ofNat n).utf8Size ≠ 1 →
      (String.utf8EncodeChar (Char.ofNat n)).head? = some (.ofNat n) → n = 0xC3 := by
    decide +kernel
  have leads : (String.utf8EncodeChar (latin1 first)).head? = some (.ofNat first.toNat) := by
    rw [encoded, UInt8.ofNat_toNat]
    rfl
  exact congrArg Char.ofNat (only first.toNat first.toNat_lt wide leads)

/-- Characters for the single bytes of a text that was cut within a character are not the start of
the text: they part where the first character of several bytes stands, unless that is the one
character which its first byte stands for. -/
theorem not_prefix_latin1 {ascii rest : List Char} {c : Char} {limit : Nat}
    (narrow : ∀ other ∈ ascii, other.utf8Size = 1) (wide : c.utf8Size ≠ 1) (notSelf : c ≠ 'Ã')
    (cut : ∀ front, encode front ≠ (encode (ascii ++ c :: rest)).take limit) :
    ¬ ((encode (ascii ++ c :: rest)).take limit).map latin1 <+: ascii ++ c :: rest := by
  rintro ⟨left, split⟩
  have length : (encode ascii).length = ascii.length := by
    rw [encode_of_ascii narrow, List.length_map]
  -- A cut before the character would be a cut between two characters.
  have behind : ascii.length < limit := by
    by_contra within
    apply cut (ascii.take limit)
    have narrowFront : ∀ other ∈ ascii.take limit, other.utf8Size = 1 :=
      fun other member => narrow other (List.mem_of_mem_take member)
    rw [encode_append, List.take_append_of_le_length (by omega), encode_of_ascii narrow,
      encode_of_ascii narrowFront, List.map_take]
  obtain ⟨first, others, encoded⟩ : ∃ first others, String.utf8EncodeChar c = first :: others :=
    List.exists_cons_of_ne_nil String.utf8EncodeChar_ne_nil
  have shown : (((encode (ascii ++ c :: rest)).take limit).map latin1)[ascii.length]? =
      some (latin1 first) := by
    rw [List.getElem?_map, List.getElem?_take_of_lt behind, encode_append, encode_cons, encoded,
      List.getElem?_append_right (Nat.le_of_eq length), length, Nat.sub_self]
    rfl
  have here : (ascii ++ c :: rest)[ascii.length]? = some c := by simp
  rw [← split, List.getElem?_append_left (List.getElem?_eq_some_iff.mp shown).1, shown] at here
  obtain rfl := Option.some.inj here
  exact notSelf (latin1_eq_of_first wide encoded)

end Fat32.Text
