import ServiceWiring.Proofs.Text.Bytes
import ServiceWiring.Proofs.Text.Pieces
import ServiceWiring.RawPath

/-!
# Components and names of paths

The components of a path are read off the pieces between its slashes. Only the first piece can
be the root or a dot; every other one is a name, leads up or stands for nothing. So the names
in a path are a matter of its pieces alone.

The pieces of a text are encoded by the pieces of its bytes, since no other character has the
byte of the slash. The main statements say what this makes of paths that are texts: their names
are the encodings of the names in the text, and are shown as these; and one text inside another
is one path inside the other.
-/

namespace ServiceWiring

namespace Path

open Text (splitOnChar splitOnChar_ne_nil)

/-! ## Texts -/

/-- What a piece between slashes stands for, other than at the beginning of a path. -/
def laterComponent? (piece : List Char) : Option Component :=
  if piece = [] then none
  else if piece = ['.'] then none
  else if piece = ['.', '.'] then some .parent
  else some (.normal piece)

/-- The component that nothing but the beginning of a path can stand for. -/
def beginning (path : String) : List Component :=
  if isAbsolute path then [.root]
  else if (splitOnChar '/' path.toList).head? = some ['.'] then [.current]
  else []

/-- All other components of a path. -/
def laterComponents (path : String) : List Component :=
  (splitOnChar '/' path.toList).filterMap laterComponent?

/-- Behind other text no piece is at the beginning of a path. -/
theorem map_fst_pieceComponents_later (before : List Char) (present : before ≠ [])
    (pieces : List (List Char)) :
    (pieceComponents before pieces).map Prod.fst = pieces.filterMap laterComponent? := by
  induction pieces generalizing before with
  | nil => rfl
  | cons piece pieces inductionHypothesis =>
    have onward := inductionHypothesis (before ++ piece ++ ['/']) (by simp)
    rw [pieceComponents, List.filterMap_cons, laterComponent?]
    split
    · exact onward
    · split
      · exact onward
      · split <;> rw [List.map_cons, onward]

/-- A dot is a component if it is the first piece of all. -/
theorem map_fst_pieceComponents_first (piece : List Char) (pieces : List (List Char)) :
    (pieceComponents [] (piece :: pieces)).map Prod.fst =
      (if piece = ['.'] then [.current] else []) ++
        (piece :: pieces).filterMap laterComponent? := by
  have onward := map_fst_pieceComponents_later ([] ++ piece ++ ['/']) (by simp) pieces
  rw [pieceComponents, List.filterMap_cons, laterComponent?]
  by_cases empty : piece = []
  · rw [if_pos empty, if_pos empty, onward, if_neg (by simp [empty])]
    rfl
  · rw [if_neg empty, if_neg empty]
    by_cases dot : piece = ['.']
    · rw [if_pos dot, if_pos rfl, if_pos dot, if_pos dot, List.map_cons, onward]
      rfl
    · rw [if_neg dot, if_neg dot, if_neg dot]
      split <;> rw [List.map_cons, onward] <;> rfl

/-- A path has the component of its beginning and the others. -/
theorem components_eq (path : String) :
    components path = beginning path ++ laterComponents path := by
  rw [components, componentEnds, beginning, laterComponents, isAbsolute]
  cases path.toList with
  | nil => rfl
  | cons c rest =>
    by_cases slash : c = '/'
    · subst slash
      obtain ⟨next, pieces, split⟩ := List.exists_cons_of_ne_nil (splitOnChar_ne_nil '/' rest)
      have whole : splitOnChar '/' ('/' :: rest) = [] :: next :: pieces := by
        rw [splitOnChar, if_pos rfl, split]
      rw [whole]
      dsimp only
      rw [List.map_cons, map_fst_pieceComponents_later _ (by simp)]
      rfl
    · have lacks : '/' ∉ [c] := by simp [Ne.symm slash]
      obtain ⟨part, parts, -, whole⟩ := Text.splitOnChar_append lacks rest
      rw [List.singleton_append, List.singleton_append] at whole
      have relative : ((c :: rest).head? == some '/') = false := by simp [slash]
      rw [whole, relative, if_neg Bool.false_ne_true, List.head?_cons]
      dsimp only
      rw [map_fst_pieceComponents_first]
      simp only [Option.some.injEq]

/-- The names in a path are its pieces that are neither empty nor dots. -/
theorem normalNames_eq (path : String) :
    normalNames path =
      (splitOnChar '/' path.toList).filter fun piece => piece ∉ [[], ['.'], ['.', '.']] := by
  have first : (beginning path).filterMap Component.name? = [] := by
    rw [beginning]
    split_ifs <;> rfl
  rw [normalNames, components_eq, List.filterMap_append, first, List.nil_append, laterComponents,
    List.filterMap_filterMap, ← List.filterMap_eq_filter]
  refine List.filterMap_congr fun piece _ => ?_
  rw [laterComponent?]
  split_ifs <;> simp [Component.name?, Option.guard, *]

end Path

namespace RawPath

open Text (byte encoded splitOnChar shown)

/-! ## Bytes -/

/-- Bytes without a mark belong to the first piece of the bytes behind them. -/
theorem splitOn_append {mark : UInt8} {front : List UInt8} (lacks : ∀ b ∈ front, b ≠ mark)
    (rest : List UInt8) :
    (front ++ rest).splitOn mark = (rest.splitOn mark).modifyHead (front ++ ·) := by
  induction front with
  | nil =>
    rw [List.nil_append]
    cases rest.splitOn mark <;> rfl
  | cons b front inductionHypothesis =>
    obtain ⟨different, others⟩ := List.forall_mem_cons.mp lacks
    rw [List.cons_append, List.splitOn_cons_eq_if_modifyHead, inductionHypothesis others,
      if_neg (by simpa using different), List.modifyHead_modifyHead]
    rfl

/-- The pieces of a text are encoded by the pieces of its bytes. -/
theorem splitOn_encoded (text : List Char) :
    (encoded text).splitOn (byte '/') = (splitOnChar '/' text).map encoded := by
  induction text with
  | nil => rfl
  | cons c rest inductionHypothesis =>
    rw [Text.encoded_cons, splitOnChar]
    by_cases slash : c = '/'
    · subst slash
      rw [if_pos rfl, Text.utf8EncodeChar_ascii (by decide), List.singleton_append,
        List.splitOn_cons_eq_if_modifyHead, if_pos (by simp), inductionHypothesis]
      rfl
    · rw [if_neg slash, splitOn_append (Text.ne_byte_of_mem slash (by decide)),
        inductionHypothesis]
      cases pieces : splitOnChar '/' rest with
      | nil => exact absurd pieces (Text.splitOnChar_ne_nil '/' rest)
      | cons piece pieces => rfl

/-- Different texts have different encodings. -/
theorem encoded_injective : Function.Injective encoded := by
  intro text other same
  rw [← Text.shown_encoded text, same, Text.shown_encoded]

/-- The names in a text are encoded by the names in its bytes. -/
theorem names_ofText (path : String) :
    (ofText path).names = (Path.normalNames path).map encoded := by
  rw [names, ofText, Text.bytes_eq, splitOn_encoded, List.filter_map, Path.normalNames_eq]
  congr 1
  refine List.filter_congr fun piece _ => ?_
  simp only [Function.comp_apply, decide_not, List.mem_cons, List.not_mem_nil, or_false,
    encoded_injective.eq_iff, ← Text.encoded_nil]

/-- The names in a text are shown as they are. -/
theorem shownNames_ofText (path : String) : (ofText path).shownNames = Path.normalNames path := by
  rw [shownNames, names_ofText, List.map_map]
  exact (List.map_congr_left fun name _ => Text.shown_encoded name).trans (List.map_id _)

/-- No name in a path is shown as nothing. -/
theorem ne_nil_of_mem_shownNames {path : RawPath} {name : List Char}
    (member : name ∈ path.shownNames) : name ≠ [] := by
  obtain ⟨bytes, listed, rfl⟩ := List.mem_map.mp member
  have present : bytes ≠ [] := by
    rintro rfl
    simp [names] at listed
  obtain ⟨first, rest, rfl⟩ := List.exists_cons_of_ne_nil present
  rw [shown, Text.shownBehind]
  split <;> simp

/-- A text ends with the byte of an ASCII character exactly if it ends with the character. -/
theorem getLast?_encoded_iff {mark : Char} (ascii : mark.toNat < 0x80) (text : List Char) :
    (encoded text).getLast? = some (byte mark) ↔ text.getLast? = some mark := by
  rcases List.eq_nil_or_concat text with rfl | ⟨front, c, rfl⟩
  · simp
  · rw [List.concat_eq_append, Text.encoded_append, Text.encoded_cons, Text.encoded_nil,
      List.append_nil, List.getLast?_concat, Option.some_inj]
    by_cases same : c = mark
    · subst same
      simp [Text.utf8EncodeChar_ascii ascii]
    · have others := Text.ne_byte_of_mem same ascii
      rw [List.getLast?_append]
      cases last : (String.utf8EncodeChar c).getLast? with
      | none =>
        have size := String.length_utf8EncodeChar c
        rw [List.getLast?_eq_none_iff.mp last] at size
        exact absurd size.symm (Nat.ne_of_gt c.utf8Size_pos)
      | some b => simpa [same] using others b (List.mem_of_getLast? last)

/-- The bytes of one text behind another are those of both. -/
theorem ofText_append (front back : String) :
    ofText (front ++ back) = ⟨(ofText front).bytes ++ (ofText back).bytes⟩ := by
  simp only [ofText, Text.bytes_eq, String.toList_append, Text.encoded_append]

/-- One text inside another is one path inside the other. -/
theorem join_ofText (base relative : String) :
    join base relative = (Path.join base relative : String) := by
  have absolute : (ofText relative).bytes.head? = some (byte '/') ↔
      Path.isAbsolute relative = true := by
    rw [ofText, Text.bytes_eq, Text.head?_encoded_iff (by decide), Path.isAbsolute, beq_iff_eq]
  have slashed : (ofText base).bytes.getLast? = some (byte '/') ↔
      base.toList.getLast? = some '/' := by
    rw [ofText, Text.bytes_eq, getLast?_encoded_iff (by decide)]
  have empty : (ofText base).bytes = [] ↔ base = "" := by
    rw [ofText, Text.bytes_eq, ← Text.encoded_nil, encoded_injective.eq_iff,
      String.toList_eq_nil_iff]
  rw [join, Path.join]
  simp only [absolute, List.isEmpty_iff, empty, slashed, Bool.or_eq_true, decide_eq_true_eq,
    String.isEmpty_iff, beq_iff_eq]
  split_ifs
  · rfl
  · exact (ofText_append base relative).symm
  · rw [String.append_assoc, ofText_append, ofText_append]
    rfl

end RawPath

end ServiceWiring
