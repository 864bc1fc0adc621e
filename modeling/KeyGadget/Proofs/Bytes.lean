import KeyGadget.Files.Access
import KeyGadget.Text.Blank

/-!
# Texts as bytes

Texts are encoded as bytes and read back from them. The encoding of a text is put together from the
encodings of its characters, and the byte of a line feed is part of no other character, so lines can
be told apart among the bytes as they can in the text.

## Main results

`decodeText_encoded`: what characters are encoded to is read back as their text.
`prefix_of_encoded`: a start of the bytes that is a text by itself is a start of the text.
`feed_not_mem_encodeChar`: only the line feed has its byte.
-/
namespace KeyGadget

/-- The bytes of characters in UTF-8. -/
def encoded (s : List Char) : List UInt8 :=
  s.flatMap String.utf8EncodeChar

@[simp] theorem encoded_nil : encoded [] = [] := rfl

@[simp] theorem encoded_cons (c : Char) (s : List Char) :
    encoded (c :: s) = String.utf8EncodeChar c ++ encoded s := rfl

@[simp] theorem encoded_append (s t : List Char) : encoded (s ++ t) = encoded s ++ encoded t :=
  List.flatMap_append

theorem encoded_ne_nil {s : List Char} (some : s ≠ []) : encoded s ≠ [] := by
  cases s with
  | nil => exact absurd rfl some
  | cons c rest => simp [String.utf8EncodeChar_ne_nil]

private theorem toList_loop (bytes : ByteArray) (i : Nat) (front : List UInt8) :
    ByteArray.toList.loop bytes i front = front.reverse ++ bytes.data.toList.drop i := by
  fun_induction ByteArray.toList.loop bytes i front with
  | case1 i front more ih =>
    have inside : i < bytes.data.toList.length := by simpa using more
    rw [ih, List.drop_eq_getElem_cons inside]
    simp [ByteArray.get!, more]
  | case2 i front done =>
    rw [List.drop_eq_nil_of_le (by simpa using Nat.le_of_not_lt done), List.append_nil]

theorem toUTF8_eq (text : String) : text.toUTF8 = (encoded text.toList).toByteArray := by
  have bytes : (String.ofList text.toList).toUTF8 = (encoded text.toList).toByteArray :=
    String.toByteArray_ofList
  rwa [String.ofList_toList] at bytes

theorem toUTF8_toList (text : String) : text.toUTF8.toList = encoded text.toList := by
  rw [toUTF8_eq, ByteArray.toList, toList_loop]
  simp

theorem decodeText_toUTF8 (text : String) : decodeText text.toUTF8 = .ok text := by
  have decoded : String.fromUTF8? text.toUTF8 = some text := dif_pos text.isValidUTF8
  rw [decodeText, decoded]

theorem decodeText_encoded (s : List Char) :
    decodeText (encoded s).toByteArray = .ok (String.ofList s) := by
  have bytes : (String.ofList s).toUTF8 = (encoded s).toByteArray := String.toByteArray_ofList
  rw [← bytes, decodeText_toUTF8]

/-- Bytes that are read as a text are the bytes of the text. -/
theorem eq_toUTF8_of_decodeText (bytes : ByteArray) (text : String)
    (read : decodeText bytes = .ok text) : bytes = text.toUTF8 := by
  unfold decodeText String.fromUTF8? at read
  split at read
  next found =>
    cases read
    split at found
    next valid =>
      cases found
      rfl
    next => cases found
  next => cases read

/-- The bytes of a character say where it ends. -/
theorem encodeChar_append_cancel (c d : Char) (s t : List UInt8)
    (same : String.utf8EncodeChar c ++ s = String.utf8EncodeChar d ++ t) : c = d := by
  have first := congrArg (fun bytes => bytes.toByteArray.utf8DecodeChar? 0) same
  simpa [List.toByteArray_append, ByteArray.utf8DecodeChar?_utf8EncodeChar_append] using first

/-- A text starts with the characters with whose bytes its bytes start. -/
theorem prefix_of_encoded (front text : List Char) (behind : List UInt8)
    (starts : encoded text = encoded front ++ behind) : front <+: text := by
  induction front generalizing text with
  | nil => exact List.nil_prefix
  | cons c rest ih =>
    cases text with
    | nil => simp at starts
    | cons d later =>
      rw [encoded_cons, encoded_cons, List.append_assoc] at starts
      obtain rfl := encodeChar_append_cancel _ _ _ _ starts
      rw [List.prefix_cons_inj]
      exact ih later (List.append_cancel_left starts)

/-- The first bytes of a text are those of the characters in front. -/
theorem extract_encoded (front rest : List Char) (size : Nat)
    (bytes : (encoded front).length = size) :
    (encoded (front ++ rest)).toByteArray.extract 0 size = (encoded front).toByteArray := by
  subst bytes
  rw [encoded_append, List.toByteArray_append]
  exact ByteArray.extract_append_eq_left (by simp)

/-- If the first bytes of a text are a text by themselves, then the text starts with it. -/
theorem prefix_of_extract (front text : List Char) (size : Nat)
    (bytes : (encoded text).toByteArray.extract 0 size = (encoded front).toByteArray) :
    front <+: text := by
  have lists := congrArg (fun bytes => bytes.data.toList) bytes
  have starts : (encoded text).take size = encoded front := by simpa using lists
  apply prefix_of_encoded front text ((encoded text).drop size)
  rw [← starts, List.take_append_drop]

/-- A character of ASCII is encoded to a byte of its own, and all others to bytes above these. -/
theorem feed_not_mem_encodeChar (c : Char) (other : c ≠ '\n') :
    0x0A ∉ String.utf8EncodeChar c := by
  have code : c.val.toNat ≠ 10 := fun feed => other (Char.toNat_inj.mp feed)
  have byte : ∀ n, (0x0A : UInt8) = UInt8.ofNat n ↔ n % 256 = 10 := by
    intro n
    rw [← UInt8.toNat_inj, UInt8.toNat_ofNat', eq_comm]
    rfl
  rw [String.utf8EncodeChar]
  generalize c.val.toNat = v at code
  -- There may be one, two, three or four bytes.
  repeat' split
  all_goals
    simp only [List.mem_cons, List.not_mem_nil, or_false, byte]
    omega

end KeyGadget
