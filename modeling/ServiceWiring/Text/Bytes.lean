/-!
# Texts and bytes

A text is encoded in UTF-8: each character becomes one to four bytes, and only an ASCII
character becomes a byte of its own. Not all bytes are the encoding of a text. To be shown as
text they are decoded as far as they can be, with one replacement character for each stretch
of bytes that begins like a character and does not go on like it. Different bytes may be shown
as the same text; the encoding of a text is shown as the text.
-/

namespace ServiceWiring.Text

/-- The bytes of a text. -/
def bytes (text : String) : List UInt8 := text.toUTF8.data.toList

/-- The bytes of some characters. -/
def encoded (text : List Char) : List UInt8 := text.flatMap String.utf8EncodeChar

/-- The byte of an ASCII character. -/
def byte (c : Char) : UInt8 := UInt8.ofNat c.toNat

/-- Whether a byte may stand second in the encoding of a character, behind the first byte. -/
def mayFollow (first second : UInt8) : Bool :=
  let least : UInt8 := if first = 0xe0 then 0xa0 else if first = 0xf0 then 0x90 else 0x80
  let most : UInt8 := if first = 0xed then 0x9f else if first = 0xf4 then 0x8f else 0xbf
  least ≤ second && second ≤ most

/-- How many bytes behind a first byte belong to a character that is broken off: as many as
some character could go on with. -/
def brokenOff (first : UInt8) : List UInt8 → Nat
  | [] => 0
  | second :: rest =>
    if 0xc2 ≤ first && first ≤ 0xf4 && mayFollow first second then
      -- Only a character of four bytes can be broken off behind its third one.
      let further := if 0xf0 ≤ first then rest.take 1 else []
      1 + (further.takeWhile fun b => 0x80 ≤ b && b ≤ 0xbf).length
    else 0

/-- The text that bytes are shown as behind some others, which have been taken care of. -/
def shownBehind : Nat → List UInt8 → List Char
  | _, [] => []
  | passed + 1, _ :: rest => shownBehind passed rest
  | 0, first :: rest =>
    match (first :: rest).toByteArray.utf8DecodeChar? 0 with
    | some c => c :: shownBehind (c.utf8Size - 1) rest
    | none => '\ufffd' :: shownBehind (brokenOff first rest) rest

/-- The text that bytes are shown as. -/
def shown (bytes : List UInt8) : List Char := shownBehind 0 bytes

/-- Nothing is encoded by no bytes. -/
@[simp]
theorem encoded_nil : encoded [] = [] := rfl

/-- The first character is encoded first. -/
@[simp]
theorem encoded_cons (c : Char) (rest : List Char) :
    encoded (c :: rest) = String.utf8EncodeChar c ++ encoded rest := rfl

/-- Texts are encoded one after the other. -/
@[simp]
theorem encoded_append (front back : List Char) :
    encoded (front ++ back) = encoded front ++ encoded back := List.flatMap_append

/-- A text is decoded from its bytes. -/
theorem fromUTF8?_toUTF8 (text : String) : String.fromUTF8? text.toUTF8 = some text := by
  rw [String.fromUTF8?, String.toUTF8_eq_toByteArray, dif_pos text.isValidUTF8]
  rfl

/-- The bytes of a text are the encodings of its characters in turn. -/
theorem bytes_eq (text : String) : bytes text = encoded text.toList := by
  have whole : text.toUTF8 = text.toList.utf8Encode := by
    rw [String.toUTF8_eq_toByteArray, ← String.toByteArray_ofList, String.ofList_toList]
  rw [bytes, whole, List.utf8Encode, List.data_toByteArray, encoded]

/-- The bytes of a text are those of its characters. -/
theorem bytes_ofList (text : List Char) : bytes (String.ofList text) = encoded text := by
  rw [bytes_eq, String.toList_ofList]

/-- As many bytes as have been taken care of are left out. -/
theorem shownBehind_append (passed rest : List UInt8) :
    shownBehind passed.length (passed ++ rest) = shownBehind 0 rest := by
  induction passed with
  | nil => rfl
  | cons b passed inductionHypothesis => exact inductionHypothesis

/-- The encoding of a text is shown as the text. -/
theorem shown_encoded (text : List Char) : shown (encoded text) = text := by
  induction text with
  | nil => rfl
  | cons c rest inductionHypothesis =>
    obtain ⟨first, others, several⟩ : ∃ first others, String.utf8EncodeChar c = first :: others :=
      List.exists_cons_of_length_pos (by simpa using c.utf8Size_pos)
    have decoded : (first :: (others ++ encoded rest)).toByteArray.utf8DecodeChar? 0 = some c := by
      have whole := ByteArray.utf8DecodeChar?_utf8EncodeChar_append
        (b := (encoded rest).toByteArray) (c := c)
      rwa [several, ← List.toByteArray_append] at whole
    have size : c.utf8Size - 1 = others.length := by
      rw [← String.length_utf8EncodeChar, several, List.length_cons, Nat.add_sub_cancel]
    rw [shown, encoded_cons, several, List.cons_append, shownBehind, decoded]
    dsimp only
    rw [size, shownBehind_append]
    exact congrArg (c :: ·) inductionHypothesis

example : shown [0x61, 0xff, 0xc3, 0xa9] = ['a', '\ufffd', 'é'] := by decide +kernel
example : shown [0xe2, 0x82, 0x28, 0xf0, 0x9f, 0x98] = ['\ufffd', '(', '\ufffd'] := by
  decide +kernel
example : shown [0xed, 0xa0, 0x80] = ['\ufffd', '\ufffd', '\ufffd'] := by decide +kernel

end ServiceWiring.Text
