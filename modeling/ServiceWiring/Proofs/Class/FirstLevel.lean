import ServiceWiring.Proofs.Class.Code

/-!
# What the members of a class depend on

The text behind the name of a class is a header, a body between braces, and whatever
follows in the file. Of the body only its outline counts: the plain characters of its
first level, and the places at which something else stands between them.

The main statement is that the members are the outline with a space at each of these
places. Class texts with the same outline therefore have the same members, whatever
their headers are, whatever follows them, and whatever is inside the strings, comments,
attribute groups and blocks of their bodies.
-/

namespace ServiceWiring.Source

/-- The first level of some code: its plain characters, and nothing in the place of each
other item. A line comment leaves its line feed behind. -/
def Code.outline : Code → List (Option Char)
  | .done => []
  | .plain c rest => some c :: rest.outline
  | .lineComment _ rest => none :: some '\n' :: rest.outline
  | .quoted _ rest | .blockComment _ rest | .attributes _ rest | .block _ rest =>
    none :: rest.outline

/-- The text of a first level is its outline with a space at each empty place. -/
theorem Code.firstLevel_eq_outline (code : Code) :
    code.firstLevel = code.outline.map fun place => place.getD ' ' := by
  induction code <;> simp_all [firstLevel, outline]

/-- What follows the name of a class: a header that opens no block, the body between its
braces, and the rest of the file. -/
structure ClassText where
  header : Code
  body : Code
  tail : List Char
  headerFits : header.fits '\x7b' = true
  headerFlat : header.flat = true
  bodyFits : body.fits '\x7d' = true

/-- The text as it is written. -/
def ClassText.text (classText : ClassText) : List Char :=
  classText.header.text ++ '\x7b' :: (classText.body.text ++ '\x7d' :: classText.tail)

/-- The members of a class are the outline of its body with a space at each empty place,
and nothing but this outline decides about them. -/
theorem members_outline (classText : ClassText) :
    members classText.text = (classText.body.outline.map fun place => place.getD ' ') ∧
      ∀ other : ClassText, other.body.outline = classText.body.outline →
        members other.text = members classText.text := by
  have outlined : ∀ any : ClassText,
      members any.text = any.body.outline.map fun place => place.getD ' ' := by
    intro any
    rw [ClassText.text, Code.members_body any.headerFits any.headerFlat any.bodyFits any.tail,
      Code.firstLevel_eq_outline]
  refine ⟨outlined classText, ?_⟩
  intro other sameOutline
  rw [outlined other, outlined classText, sameOutline]

/-- A line comment that closes a brace and opens a string. -/
def strayComment : LineComment := ⟨"# \x7d it's".toList, .inr (by decide), by decide⟩

/-- A line comment without text. -/
def emptyComment : LineComment := ⟨"//".toList, .inl (by decide), by decide⟩

/-- A class whose method returns an object of a class without name. -/
def factoryClass : ClassText where
  header := .ofChars " extends Base ".toList ++
    .blockComment ⟨" \x7b ".toList, by decide⟩ (.plain ' ' .done)
  body := .attributes (.quoted ⟨'\'', [.plain ']'], rfl, rfl⟩ (.group .done .done))
    (.ofChars "function make() ".toList ++
      .block (.ofChars "return new class ".toList ++
        .block (.ofChars "function inner() ".toList ++ .block .done .done) (.plain ';' .done))
      (.lineComment strayComment .done))
  tail := "function after() \x7b\x7d".toList
  headerFits := by decide
  headerFlat := by decide
  bodyFits := by decide

/-- A class with the same outline in which nothing else is the same. -/
def plainClass : ClassText where
  header := .done
  body := .quoted ⟨'\'', [.escaped '\'', .plain '\x7d'], rfl, rfl⟩
    (.ofChars "function make() ".toList ++
      .block .done (.lineComment emptyComment .done))
  tail := []
  headerFits := by decide
  headerFlat := by decide
  bodyFits := by decide

example : String.ofList factoryClass.text =
    " extends Base /* \x7b */ \x7b#[']'[]]function make() " ++
      "\x7breturn new class \x7bfunction inner() \x7b\x7d\x7d;\x7d# \x7d it's\n\x7d" ++
        "function after() \x7b\x7d" := by
  decide +kernel

/-- Both classes have the members of the first level and no others. -/
theorem members_outline_factory :
    members factoryClass.text = " function make()   \n".toList ∧
      plainClass.body.outline = factoryClass.body.outline ∧
        members plainClass.text = members factoryClass.text := by
  have sameOutline : plainClass.body.outline = factoryClass.body.outline := by decide
  exact ⟨(members_outline factoryClass).1.trans (by decide), sameOutline,
    (members_outline factoryClass).2 plainClass sameOutline⟩

end ServiceWiring.Source
