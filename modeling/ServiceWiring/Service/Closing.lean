import ServiceWiring.Service.DocBlock

/-!
# The search for a closing parenthesis

The parenthesis that closes the first one of a text, searched for by offsets: the search counts
the parentheses that are open, passes over string literals, and knows how many bytes are behind
it. Where it ends is where `cutAtClosing` cuts a text that begins behind the first parenthesis.
A count that would go below zero is an outcome of its own.
-/

namespace ServiceWiring.DocBlock

/-- Where a search stands behind a character. -/
def Context.after (c : Char) : Context → Context
  | .escape => .string
  | .string => if c = '\\' then .escape else if c = '"' then .code else .string
  | .code => if c = '"' then .string else .code

/-- How a search for a closing parenthesis ends. -/
inductive Search
  | found (offset : Nat)
  | exhausted
  /-- A parenthesis is closed although none is open. -/
  | underflow
deriving DecidableEq, Repr

namespace Search

/-- The offset that was found. -/
def offset? : Search → Option Nat
  | found offset => some offset
  | exhausted | underflow => none

end Search

/-- Searches a text that begins at an offset, with some parentheses open. -/
def searchFrom (context : Context) (offset depth : Nat) : List Char → Search
  | [] => .exhausted
  | c :: rest =>
    if context = .code ∧ c = '(' then searchFrom .code (offset + c.utf8Size) (depth + 1) rest
    else if context = .code ∧ c = ')' then
      match depth with
      | 0 => .underflow
      | 1 => .found offset
      | depth + 2 => searchFrom .code (offset + c.utf8Size) (depth + 1) rest
    else searchFrom (context.after c) (offset + c.utf8Size) depth rest

/-- Searches a text for the parenthesis that closes its first one. -/
def findClosing (text : List Char) : Search := searchFrom .code 0 0 text

end ServiceWiring.DocBlock
