import ServiceWiring.Text.Split

/-!
# Failure reports

How a failure is told on the command line: what was being done, and below it the causes
from the outermost to the innermost, numbered when there are several. Lines of a cause
after its first are indented as far as the first one.
-/

namespace ServiceWiring.CommandLine

/-- What failed, and the causes, each before its own cause. -/
structure Report where
  context : String
  causes : List String
deriving DecidableEq, Repr

/-- A text with blanks after each line feed in it. -/
def indentRest (blanks : String) (text : String) : String :=
  String.intercalate ("\n" ++ blanks) ((Text.splitOnChar '\n' text.toList).map String.ofList)

/-- Several causes, with their numbers from `first` on. -/
def numbered (first : Nat) : List String → String
  | [] => ""
  | cause :: causes =>
    let number := toString first
    let padding := String.ofList (List.replicate (5 - number.length) ' ')
    "\n" ++ padding ++ number ++ ": " ++ indentRest "       " cause ++ numbered (first + 1) causes

/-- A report as it is told. -/
def Report.message (report : Report) : String :=
  "Error: " ++ report.context ++
    (match report.causes with
    | [] => ""
    | [cause] => "\n\nCaused by:\n    " ++ indentRest "    " cause
    | causes => "\n\nCaused by:" ++ numbered 0 causes) ++ "\n"

end ServiceWiring.CommandLine
