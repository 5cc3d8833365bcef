import ServiceWiring.Error

/-!
# File name patterns

A pattern describes file names, byte by byte. `*` stands for any bytes, `?` for
one byte, `[…]` for one byte of a class, `\x7ba,b\x7d` for any of some patterns, and a
backslash takes the meaning from the character behind it. In a class a character
beyond ASCII contributes its bytes one by one.

Two stars in a row have a meaning of their own where they fill a whole component
of a path: they then stand for any number of components. Elsewhere they are two
single stars. Alternatives that describe nothing but the empty name are dropped
from a group.

A name matches when some way of taking the tokens in order leaves no byte over.
-/

namespace ServiceWiring.Glob

/-- What a pattern consists of. -/
inductive Token
  | literal (c : Char)
  | anyByte
  | anyBytes
  /-- Any number of components before a name. -/
  | anyDirectories
  /-- Anything below a directory. -/
  | anythingBelow
  /-- A slash, with any number of components on either side of it. -/
  | anyBetween
  | byteClass (negated : Bool) (ranges : List (Char × Char))
  | alternates (branches : List (List Token))
deriving Repr

/-- The bytes of a character. -/
def charBytes (c : Char) : List UInt8 := c.toString.toUTF8.toList

/-- The byte ranges that a range of characters contributes to a class: the range
from the last byte of its first character to the first byte of its last one, and
all other bytes of the two by themselves. -/
def byteRanges (first last : Char) : List (UInt8 × UInt8) :=
  let single := fun byte : UInt8 => (byte, byte)
  if first = last then (charBytes first).map single
  else
    match (charBytes first).reverse, charBytes last with
    | low :: before, high :: after =>
      before.reverse.map single ++ (low, high) :: after.map single
    | _, _ => []

/-- Whether a byte belongs to a class. -/
def classContains (negated : Bool) (ranges : List (Char × Char)) (byte : UInt8) : Bool :=
  let inside := ranges.any fun (first, last) =>
    (byteRanges first last).any fun (low, high) => low ≤ byte && byte ≤ high
  inside != negated

/-- All ends of a list, the list itself first. -/
def ends {α : Type} : List α → List (List α)
  | [] => [[]]
  | first :: rest => (first :: rest) :: ends rest

/-- The ends of a name that follow a slash. -/
def afterSlashes (name : List UInt8) : List (List UInt8) :=
  (ends name).filterMap fun
    | 47 :: rest => some rest
    | _ => none

/-- The byte string after a character, if it starts with it. -/
def afterChar (c : Char) (name : List UInt8) : List (List UInt8) :=
  ((charBytes c).isPrefixOf? name).toList

mutual

/-- Whether a token can stand for the empty name only because it says nothing. -/
def isVoid : Token → Bool
  | .alternates branches => allVoid branches
  | _ => false

/-- Whether all tokens of a pattern say nothing. -/
def allVoidTokens : List Token → Bool
  | [] => true
  | token :: tokens => isVoid token && allVoidTokens tokens

/-- Whether all branches of a group say nothing. -/
def allVoid : List (List Token) → Bool
  | [] => true
  | branch :: branches => allVoidTokens branch && allVoid branches

end

mutual

/-- The ends of a name that a token can leave over. -/
def rests : Token → List UInt8 → List (List UInt8)
  | .literal c, name => afterChar c name
  | .anyByte, name => match name with
    | [] => []
    | _ :: rest => [rest]
  | .anyBytes, name => ends name
  | .anyDirectories, name => name :: afterSlashes name
  | .anythingBelow, name => match name with
    | 47 :: rest => ends rest
    | _ => []
  | .anyBetween, name => match name with
    | 47 :: rest => rest :: afterSlashes rest
    | _ => []
  | .byteClass negated ranges, name => match name with
    | [] => []
    | byte :: rest => if classContains negated ranges byte then [rest] else []
  | .alternates branches, name =>
    if allVoid branches then [name] else branchRests branches name

/-- The ends of a name that a pattern can leave over. -/
def patternRests : List Token → List UInt8 → List (List UInt8)
  | [], name => [name]
  | token :: tokens, name =>
    ((rests token name).eraseDups.flatMap fun rest => patternRests tokens rest).eraseDups

/-- The ends of a name that some branch of a group can leave over. -/
def branchRests : List (List Token) → List UInt8 → List (List UInt8)
  | [], _ => []
  | branch :: branches, name =>
    (if allVoidTokens branch then [] else patternRests branch name) ++ branchRests branches name

end

/-- Whether a name matches a pattern. Two stars alone match every name. -/
def matchesName (tokens : List Token) (name : String) : Bool :=
  match tokens with
  | [.anyDirectories] => true
  | _ => (patternRests tokens name.toUTF8.toList).contains []

/-- The ranges of a class up to its closing bracket. A bracket that comes first
is a member, and so is a hyphen that has no character on one side. -/
def classRanges (ranges : List (Char × Char)) (first inRange : Bool) :
    List Char → Except PatternFault (List (Char × Char) × List Char)
  | [] => .error .unclosedClass
  | c :: rest =>
    if c = ']' ∧ !first then
      .ok ((if inRange then ('-', '-') :: ranges else ranges).reverse, rest)
    else if c = '-' ∧ !first ∧ !inRange then classRanges ranges false true rest
    else
      match inRange, ranges with
      | true, (low, _) :: others =>
        if c < low then .error (.invalidRange low c)
        else classRanges ((low, c) :: others) false false rest
      | _, _ => classRanges ((c, c) :: ranges) false false rest

/-- A class after its opening bracket. -/
def byteClass (text : List Char) : Except PatternFault (Token × List Char) :=
  let (negated, members) := match text with
    | '!' :: rest => (true, rest)
    | '^' :: rest => (true, rest)
    | rest => (false, rest)
  (classRanges [] true false members).map fun (ranges, rest) => (.byteClass negated ranges, rest)

/-- A group whose braces are open: the tokens before it and its finished branches,
both latest first. -/
structure OpenGroup where
  before : List Token
  branches : List (List Token)

/-- What has been read of a pattern: the tokens of the current branch, latest
first, and the open groups around it, innermost first. -/
structure Progress where
  tokens : List Token
  groups : List OpenGroup

/-- Adds a token to the current branch. -/
def Progress.push (token : Token) (progress : Progress) : Progress :=
  { progress with tokens := token :: progress.tokens }

/-- Begins a group. -/
def Progress.openGroup (progress : Progress) : Progress :=
  ⟨[], ⟨progress.tokens, []⟩ :: progress.groups⟩

/-- Begins the next branch of the innermost group; a comma outside of all groups
is a character like others. -/
def Progress.nextBranch (progress : Progress) : Progress :=
  match progress.groups with
  | [] => progress.push (.literal ',')
  | group :: groups =>
    ⟨[], { group with branches := progress.tokens.reverse :: group.branches } :: groups⟩

/-- Ends the innermost group. -/
def Progress.closeGroup (progress : Progress) : Except PatternFault Progress :=
  match progress.groups with
  | [] => .error .unopenedAlternates
  | group :: groups =>
    let branches := (progress.tokens.reverse :: group.branches).reverse
    .ok ⟨.alternates branches :: group.before, groups⟩

/-- Two stars behind the character `previous` and before a text: the tokens read
so far with them, and how many characters of the text belong to them. -/
def Progress.doubleStar (progress : Progress) (previous : Option Char) (text : List Char) :
    Progress × Nat :=
  let twoStars := (progress.push .anyBytes).push .anyBytes
  let slashes := if text.head? = some '/' then 1 else 0
  if progress.tokens.isEmpty then
    if text = [] ∨ slashes = 1 then (progress.push .anyDirectories, slashes)
    else (twoStars, 0)
  else if previous ≠ some '/' ∧
      (progress.groups.isEmpty ∨ (previous ≠ some ',' ∧ previous ≠ some '\x7b')) then
    (twoStars, 0)
  else
    let endsBranch := !progress.groups.isEmpty &&
      (text.head? == some ',' || text.head? == some '\x7d')
    if text = [] ∨ endsBranch then (replaceLast .anythingBelow, 0)
    else if slashes = 1 then (replaceLast .anyBetween, 1)
    else (twoStars, 0)
where
  /-- Directories before the stars include those that the stars stand for. -/
  replaceLast (token : Token) : Progress :=
    match progress.tokens with
    | .anyDirectories :: _ | .anythingBelow :: _ => progress
    | _ :: before => { progress with tokens := token :: before }
    | [] => progress

/-- The rest of a class is shorter than the class. -/
theorem classRanges_lt {ranges read : List (Char × Char)} {first inRange : Bool}
    {text rest : List Char} (found : classRanges ranges first inRange text = .ok (read, rest)) :
    rest.length < text.length := by
  induction text generalizing ranges first inRange with
  | nil => simp [classRanges] at found
  | cons c tail inductionHypothesis =>
    simp only [classRanges] at found
    repeat' split at found
    all_goals
      first
      | (simp only [Except.ok.injEq, Prod.mk.injEq] at found
         obtain ⟨_, rfl⟩ := found
         simp)
      | contradiction
      | (have shorter := inductionHypothesis found
         simp only [List.length_cons]
         omega)

/-- The rest of a class is shorter than the text from its opening bracket. -/
theorem byteClass_lt {text rest : List Char} {token : Token}
    (found : byteClass text = .ok (token, rest)) : rest.length < text.length := by
  unfold byteClass at found
  split at found
  rename_i negated members opened
  cases ranges : classRanges [] true false members with
  | error fault => simp [ranges, Except.map] at found
  | ok result =>
    obtain ⟨read, remaining⟩ := result
    simp only [ranges, Except.map, Except.ok.injEq, Prod.mk.injEq] at found
    obtain ⟨_, rfl⟩ := found
    have shorter := classRanges_lt ranges
    have within : members.length ≤ text.length := by
      split at opened <;> simp only [Prod.mk.injEq] at opened <;> obtain ⟨_, rfl⟩ := opened <;>
        simp
    omega

/-- The tokens of the rest of a pattern behind the character `previous`. -/
def tokensFrom (progress : Progress) (previous : Option Char) (text : List Char) :
    Except PatternFault (List Token) :=
  match text with
  | [] => if progress.groups.isEmpty then .ok progress.tokens.reverse else .error .unclosedAlternates
  | '?' :: rest => tokensFrom (progress.push .anyByte) (some '?') rest
  | '*' :: '*' :: rest =>
    let (progress, slashes) := progress.doubleStar previous rest
    tokensFrom progress (if slashes = 0 then some '*' else some '/') (rest.drop slashes)
  | '*' :: rest => tokensFrom (progress.push .anyBytes) (some '*') rest
  | '[' :: rest =>
    match _found : byteClass rest with
    | .error fault => .error fault
    | .ok (token, rest) => tokensFrom (progress.push token) (some ']') rest
  | '\x7b' :: rest => tokensFrom progress.openGroup (some '\x7b') rest
  | '\x7d' :: rest =>
    match progress.closeGroup with
    | .error fault => .error fault
    | .ok progress => tokensFrom progress (some '\x7d') rest
  | ',' :: rest => tokensFrom progress.nextBranch (some ',') rest
  | ['\\'] => .error .danglingEscape
  | '\\' :: c :: rest => tokensFrom (progress.push (.literal c)) (some c) rest
  | c :: rest => tokensFrom (progress.push (.literal c)) (some c) rest
termination_by text.length
decreasing_by
  all_goals simp only [List.length_cons, List.length_drop]
  all_goals try omega
  have := byteClass_lt _found
  omega

/-- The tokens of a pattern. -/
def parse (glob : String) : Except PatternFault (List Token) :=
  tokensFrom ⟨[], []⟩ none glob.toList

end ServiceWiring.Glob
