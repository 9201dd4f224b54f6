import LetLens.Text.Utf8

/-! Bytes are valid UTF-8 exactly when they encode a text, and then they encode no other. A text is
encoded character by character, and a byte below 128 occurs in the encoding of one character
only. -/

namespace LetLens

theorem toByteArray_encode (text : String) : (encode text).toByteArray = text.toByteArray := by
  apply ByteArray.ext
  rw [List.data_toByteArray, encode, String.toUTF8_eq_toByteArray, Array.toArray_toList]

theorem decode?_encode (text : String) : decode? (encode text) = some text := by
  rw [decode?, toByteArray_encode, String.fromUTF8?, dif_pos text.isValidUTF8]
  rfl

theorem encode_inj {text text' : String} : encode text = encode text' ↔ text = text' := by
  constructor
  · intro h
    have hDecode := decode?_encode text
    rw [h, decode?_encode] at hDecode
    exact (Option.some.inj hDecode).symm
  · exact congrArg encode

theorem decode?_eq_some_iff {bytes : Bytes} {text : String} :
    decode? bytes = some text ↔ bytes = encode text := by
  constructor
  · intro h
    unfold decode? String.fromUTF8? at h
    split at h
    · obtain rfl := Option.some.inj h
      exact List.toList_data_toByteArray.symm
    · contradiction
  · rintro rfl
    exact decode?_encode text

theorem encode_eq_flatMap (text : String) :
    encode text = text.toList.flatMap String.utf8EncodeChar := by
  rw [encode, String.toUTF8_eq_toByteArray, ← String.utf8Encode_toList, List.utf8Encode,
    List.data_toByteArray]

theorem encode_append (a b : String) : encode (a ++ b) = encode a ++ encode b := by
  simp [encode_eq_flatMap]

theorem encode_join (texts : List String) :
    encode (String.join texts) = (texts.map encode).flatten := by
  induction texts with
  | nil => rfl
  | cons text texts ih => rw [String.join_cons, encode_append, ih, List.map_cons, List.flatten_cons]

/-- A byte below 128 stands for itself: it occurs in the encoding of one character only. -/
theorem toNat_of_mem_utf8EncodeChar {c : Char} {b : UInt8} (hb : b ∈ String.utf8EncodeChar c)
    (hLow : b.toNat < 128) : b.toNat = c.toNat := by
  have hCode : c.val.toNat = c.toNat := rfl
  unfold String.utf8EncodeChar at hb
  dsimp only at hb
  split at hb
  · simp only [List.mem_singleton, ← UInt8.toNat_inj, UInt8.toNat_ofNat'] at hb
    omega
  · repeat' split at hb
    all_goals
      simp only [List.mem_cons, List.not_mem_nil, or_false, ← UInt8.toNat_inj,
        UInt8.toNat_ofNat'] at hb
      omega

end LetLens
