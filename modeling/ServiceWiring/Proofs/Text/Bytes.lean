import Mathlib.Data.List.Basic
import ServiceWiring.Text.Bytes

/-!
# The bytes of texts

A text is encoded in UTF-8 without loss, so what has been encoded is decoded again. The
encoding keeps the order of characters: of two different characters, the encoding of the
smaller one has the smaller byte at the first place where the two encodings differ, and it
ends there at the earliest. So a text that comes before another one by its characters comes
before it by its bytes as well.
-/

namespace ServiceWiring.Text

/-- Whether a text comes before another one byte by byte. -/
def BytesBefore (left right : String) : Prop := bytes left < bytes right

/-- An ASCII character is encoded by its own byte, and any other one by several bytes, none of
which is that of an ASCII character. -/
theorem utf8EncodeChar_cases (c : Char) :
    c.toNat < 0x80 ∧ String.utf8EncodeChar c = [byte c] ∨
      0x80 ≤ c.toNat ∧ ∃ first others, String.utf8EncodeChar c = first :: others ∧
        ∀ b ∈ first :: others, 0x80 ≤ b := by
  have limit : c.val.toNat < 1114112 := by
    rcases c.valid with low | high
    · have : c.val.toNat < 0xd800 := low
      omega
    · exact high.2
  have high : ∀ number, 0x80 ≤ number → number < 256 → (0x80 : UInt8) ≤ UInt8.ofNat number := by
    intro number least most
    rw [UInt8.le_iff_toNat_le, UInt8.toNat_ofNat', Nat.mod_eq_of_lt most]
    exact least
  unfold String.utf8EncodeChar byte Char.toNat
  generalize c.val.toNat = value at limit
  dsimp only
  by_cases ascii : value ≤ 127
  · exact .inl ⟨by omega, if_pos ascii⟩
  · refine .inr ⟨by omega, ?_⟩
    rw [if_neg ascii]
    split_ifs
    all_goals
      refine ⟨_, _, rfl, ?_⟩
      simp only [List.forall_mem_cons, List.not_mem_nil, false_imp_iff, implies_true, and_true]
      repeat' apply And.intro
      all_goals exact high _ (by omega) (by omega)

/-- A byte beyond ASCII is not that of an ASCII character. -/
theorem ne_byte_of_high {b : UInt8} (high : 0x80 ≤ b) {mark : Char} (ascii : mark.toNat < 0x80) :
    b ≠ byte mark := by
  rintro rfl
  rw [UInt8.le_iff_toNat_le, byte, UInt8.toNat_ofNat', Nat.mod_eq_of_lt (by omega)] at high
  exact absurd high (Nat.not_le_of_lt ascii)

/-- ASCII characters have different bytes. -/
theorem byte_inj {c mark : Char} (ascii : c.toNat < 0x80) (markAscii : mark.toNat < 0x80) :
    byte c = byte mark ↔ c = mark := by
  constructor
  · intro same
    have codes := congrArg UInt8.toNat same
    rw [byte, byte, UInt8.toNat_ofNat', UInt8.toNat_ofNat', Nat.mod_eq_of_lt (by omega),
      Nat.mod_eq_of_lt (by omega)] at codes
    rw [← Char.ofNat_toNat c, codes, Char.ofNat_toNat]
  · rintro rfl
    rfl

/-- An ASCII character is encoded by its own byte. -/
theorem utf8EncodeChar_ascii {c : Char} (ascii : c.toNat < 0x80) :
    String.utf8EncodeChar c = [byte c] := by
  rcases utf8EncodeChar_cases c with ⟨-, single⟩ | ⟨beyond, -⟩
  · exact single
  · omega

/-- The bytes of a character are not that of another one in ASCII. -/
theorem ne_byte_of_mem {c mark : Char} (different : c ≠ mark) (ascii : mark.toNat < 0x80) :
    ∀ b ∈ String.utf8EncodeChar c, b ≠ byte mark := by
  rcases utf8EncodeChar_cases c with ⟨low, single⟩ | ⟨_, first, others, several, high⟩
  · simpa [single, byte_inj low ascii] using different
  · rw [several]
    exact fun b member => ne_byte_of_high (high b member) ascii

/-- The first byte of a character is that of an ASCII character only if this is the character. No
other byte is that of an ASCII character. -/
theorem exists_firstByte (c : Char) : ∃ first others, String.utf8EncodeChar c = first :: others ∧
    (∀ b ∈ others, 0x80 ≤ b) ∧
      ∀ mark : Char, mark.toNat < 0x80 → (first = byte mark ↔ c = mark) := by
  rcases utf8EncodeChar_cases c with ⟨low, single⟩ | ⟨beyond, first, others, several, high⟩
  · exact ⟨byte c, [], single, by simp, fun mark ascii => byte_inj low ascii⟩
  · have marks : ∀ mark : Char, mark.toNat < 0x80 → (first = byte mark ↔ c = mark) := by
      intro mark ascii
      refine iff_of_false (ne_byte_of_high (high first List.mem_cons_self) ascii) ?_
      rintro rfl
      omega
    exact ⟨first, others, several, (List.forall_mem_cons.mp high).2, marks⟩

/-- The bytes of a text begin with that of an ASCII character exactly if the text begins with the
character. -/
theorem head?_encoded_iff {mark : Char} (ascii : mark.toNat < 0x80) (text : List Char) :
    (encoded text).head? = some (byte mark) ↔ text.head? = some mark := by
  cases text with
  | nil => simp
  | cons c rest =>
    obtain ⟨first, others, several, -, marks⟩ := exists_firstByte c
    rw [encoded_cons, several, List.cons_append, List.head?_cons, List.head?_cons, Option.some_inj,
      Option.some_inj]
    exact marks mark ascii

/-- Of two numbers in base 64, the smaller one has the smaller front or, with the same front,
the smaller last digit. -/
theorem digits_lt {left right : Nat} (below : left < right) :
    left / 64 < right / 64 ∨ left / 64 = right / 64 ∧ left % 64 < right % 64 := by
  omega

/-- The encoding of a smaller character comes before that of a greater one, whatever follows
the two. Encodings of different lengths differ in their first byte; those of one length hold
the digits of the character in base 64. -/
theorem utf8EncodeChar_lt {left right : Char} (below : left < right)
    (leftRest rightRest : List UInt8) :
    String.utf8EncodeChar left ++ leftRest < String.utf8EncodeChar right ++ rightRest := by
  have values : left.val.toNat < right.val.toNat := below
  have limit : right.val.toNat < 1114112 := by
    rcases right.valid with low | high
    · have : right.val.toNat < 0xd800 := low
      omega
    · exact high.2
  unfold String.utf8EncodeChar
  generalize left.val.toNat = first at values
  generalize right.val.toNat = second at values limit
  have fronts : ∀ value, value / 4096 = value / 64 / 64 ∧ value / 262144 = value / 64 / 64 / 64 := by
    omega
  dsimp only
  rw [(fronts first).1, (fronts first).2, (fronts second).1, (fronts second).2]
  clear fronts
  split_ifs <;>
    simp only [List.cons_append, List.nil_append, List.cons_lt_cons_iff, UInt8.lt_iff_toNat_lt,
      ← UInt8.toNat_inj, UInt8.toNat_ofNat']
  case neg =>
    -- Two encodings of four bytes; they differ in the first digit in which the characters do.
    rcases digits_lt values with front | ⟨sameFront, last⟩
    · rcases digits_lt front with top | ⟨sameTop, third⟩
      · rcases digits_lt top with lead | ⟨sameLead, second⟩ <;> omega
      · omega
    · omega
  all_goals omega

/-- A text that comes before another one by its characters does so by its bytes. -/
theorem bytesBefore_of_lt {left right : String} (below : left < right) :
    BytesBefore left right := by
  rw [String.lt_iff] at below
  rw [BytesBefore, bytes_eq, bytes_eq]
  generalize left.toList = first at below
  generalize right.toList = second at below
  induction first generalizing second with
  | nil =>
    cases second with
    | nil => exact absurd below (List.lt_irrefl _)
    | cons c rest =>
      rw [encoded_nil, encoded_cons]
      have present : String.utf8EncodeChar c ≠ [] := by
        unfold String.utf8EncodeChar
        dsimp only
        split_ifs <;> simp
      cases several : String.utf8EncodeChar c with
      | nil => exact absurd several present
      | cons byte _ => exact List.nil_lt_cons _ _
  | cons c rest inductionHypothesis =>
    cases second with
    | nil => exact absurd below (List.not_lt_nil _)
    | cons d others =>
      rw [encoded_cons, encoded_cons]
      rcases List.cons_lt_cons_iff.mp below with smaller | ⟨rfl, later⟩
      · exact utf8EncodeChar_lt smaller _ _
      · exact List.append_left_lt (inductionHypothesis _ later)

end ServiceWiring.Text
