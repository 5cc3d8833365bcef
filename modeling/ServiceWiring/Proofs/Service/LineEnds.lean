import ServiceWiring.Class.Source
import ServiceWiring.Proofs.Class.Returns
import ServiceWiring.Service.Build

/-!
# Classes in a text with other line ends

A source text whose line ends are rewritten defines the same class, with the same methods and
with the rewritten documentation block. The annotations in that block are the same, and so is
the fault if there is one: the block is taken apart into lines first, and a line end belongs
to no line. So both classes are built alike.
-/

namespace ServiceWiring

open Text (crlf)

/-- A text with a carriage return before each line feed. -/
def Text.withReturns (text : String) : String := String.ofList (crlf text.toList)

namespace DocBlock

/-- A text without the mark at its beginning, if it has the mark. -/
def withoutOpening (text : List Char) : List Char :=
  (Text.stripPrefix? ['/', '*', '*'] text).getD text

/-- A text without the mark at its end, if it has the mark. -/
def withoutEnd (text : List Char) : List Char := (Text.stripSuffix? ['*', '/'] text).getD text

/-- The lines of a block stand between its marks. -/
theorem undecorate_eq (block : List Char) :
    undecorate block = Text.join ['\n']
      ((Text.lines (withoutEnd (withoutOpening (Text.trim block)))).map undecorateLine) := rfl

/-- The mark at the beginning is taken off a rewritten text alike. -/
theorem withoutOpening_crlf (text : List Char) :
    withoutOpening (crlf text) = crlf (withoutOpening text) := by
  have stripped : Text.stripPrefix? ['/', '*', '*'] (crlf text) =
      (Text.stripPrefix? ['/', '*', '*'] text).map crlf :=
    Text.stripPrefix?_endLines (by decide) (by decide) text
  rw [withoutOpening, stripped, withoutOpening]
  cases Text.stripPrefix? ['/', '*', '*'] text <;> rfl

/-- So is the mark at the end. -/
theorem withoutEnd_crlf (text : List Char) : withoutEnd (crlf text) = crlf (withoutEnd text) := by
  rw [withoutEnd, Text.stripSuffix?_crlf (by decide), withoutEnd]
  cases Text.stripSuffix? ['*', '/'] text <;> rfl

/-- Taking off the mark at the beginning adds no character. -/
theorem withoutOpening_subset (text : List Char) : withoutOpening text ⊆ text := by
  rw [withoutOpening]
  cases found : Text.stripPrefix? ['/', '*', '*'] text with
  | none => exact List.Subset.refl _
  | some rest =>
    rw [Text.stripPrefix?_eq_some_iff] at found
    rw [found]
    exact List.subset_append_right _ _

/-- Nor does taking off the mark at the end. -/
theorem withoutEnd_subset (text : List Char) : withoutEnd text ⊆ text := by
  rw [withoutEnd]
  cases found : Text.stripSuffix? ['*', '/'] text with
  | none => exact List.Subset.refl _
  | some rest =>
    rw [Text.stripSuffix?_eq_some_iff] at found
    rw [found]
    exact List.subset_append_left _ _

/-- A block with other line ends has the same text. Nothing but the lines is looked at, once
the marks are gone. -/
theorem undecorate_crlf {block : List Char} (plain : '\r' ∉ block) :
    undecorate (crlf block) = undecorate block := by
  have plainInside : '\r' ∉ withoutEnd (withoutOpening (Text.trim block)) := fun member =>
    plain (Text.trim_subset _ (withoutOpening_subset _ (withoutEnd_subset _ member)))
  rw [undecorate_eq, Text.trim_crlf, withoutOpening_crlf, withoutEnd_crlf,
    Text.lines_crlf plainInside, undecorate_eq]

/-- A block with other line ends has the same annotations, or the same fault. -/
theorem parse_withReturns {block : String} (plain : '\r' ∉ block.toList) :
    parse (Text.withReturns block) = parse block := by
  rw [parse, Text.withReturns, String.toList_ofList, undecorate_crlf plain, parse]

end DocBlock

namespace ClassDefinition

/-- The class with other line ends in its documentation block. -/
def withReturns (definition : ClassDefinition) : ClassDefinition :=
  { definition with docComment := definition.docComment.map Text.withReturns }

/-- A text with other line ends defines the class with other line ends. -/
theorem ofSource?_withReturns (naming : Naming) (source : String) :
    ofSource? naming (Text.withReturns source) = (ofSource? naming source).map withReturns := by
  rw [ofSource?, Text.withReturns, String.toList_ofList, Source.declaration?_crlf, ofSource?,
    Option.map_map, Option.map_map]
  congr 1
  funext (before, declared, after)
  have rewritten : Text.withReturns ∘ String.ofList = String.ofList ∘ crlf := by
    funext block
    simp [Text.withReturns]
  simp only [Function.comp_apply, Source.namespace?_crlf, Source.docComment?_crlf,
    Source.methods_members_crlf, withReturns, Option.map_map, rewritten]

/-- A text without carriage returns defines a class without any in its documentation block. -/
theorem plain_of_ofSource? {naming : Naming} {source : String} {definition : ClassDefinition}
    (plain : '\r' ∉ source.toList) (defined : ofSource? naming source = some definition) :
    ∀ block ∈ definition.docComment, '\r' ∉ block.toList := by
  obtain ⟨⟨before, declared, after⟩, found, rfl⟩ := Option.map_eq_some_iff.mp defined
  intro block documented
  obtain ⟨text, commented, rfl⟩ := Option.map_eq_some_iff.mp documented
  rw [String.toList_ofList]
  intro member
  exact plain (Source.declaration?_subset found (Source.docComment?_subset commented member))

end ClassDefinition

/-- A class with other line ends in its documentation block is built alike. -/
theorem buildDescriptor_withReturns (environment : String) {definition : ClassDefinition}
    (plain : ∀ block ∈ definition.docComment, '\r' ∉ block.toList) :
    buildDescriptor DocBlock.parser environment definition.withReturns =
      buildDescriptor DocBlock.parser environment definition := by
  unfold buildDescriptor ClassDefinition.withReturns
  cases documented : definition.docComment with
  | none => rfl
  | some block =>
    have parsed := DocBlock.parse_withReturns (plain block documented)
    simp only [Option.map_some, DocBlock.parser, parsed]
    rfl

end ServiceWiring
