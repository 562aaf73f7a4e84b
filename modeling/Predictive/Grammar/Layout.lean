import Predictive.Grammar.Reader

/-!
# The layout of a grammar text

A grammar text is laid out freely: blank lines and comment lines may stand anywhere, and a rule may
go on over several lines. Laying out is undone before the rules are read: what is left is one
logical line for each rule.
-/

namespace Predictive

open Text

namespace Layout

/-- What a comment line starts with. -/
def commentMarks : List String := ["//", "#", ";"]

/-- Whether a line, without the blanks around it, is more than a comment or nothing. -/
def hasContent (line : String) : Bool :=
  !(line = "" || commentMarks.any fun mark => mark.toList.isPrefixOf line.toList)

/-- The lines with content, without the blanks around them and with single quotes for double
ones. -/
def physicalLines (text : String) : List String :=
  (((split '\n' text).map trim).filter hasContent).map (replace '\x22' "'")

/-- Whether a rule starts on the line. -/
def startsRule (line : String) : Bool := holds ruleMark line

/-- The lines before the first that starts a rule, and then each line that starts a rule with the
lines up to the next such line. -/
def groups : List String → List String × List (List String)
  | [] => ([], [])
  | line :: rest =>
    let (before, later) := groups rest
    -- A line that starts a rule takes the lines up to the next start; any other waits for one.
    if startsRule line then ([], (line :: before) :: later) else (line :: before, later)

/-- The logical lines, one for each rule: a line that starts a rule and the lines that continue it,
with spaces between them. -/
def logicalLines (lines : List String) : Except GrammarError (List String) :=
  match groups lines with
  | (_, []) => .error .noRules
  | (line :: _, _) => .error (.textBeforeRules line)
  | ([], rules) => .ok (rules.map fun rule => " ".intercalate rule)

end Layout

/-- Reads a grammar from a text. -/
def Grammar.readText (text : String) : Traced Event GrammarError Grammar := do
  let lines := Layout.physicalLines text
  let joined ← Traced.ofExcept (Layout.logicalLines lines)
  Traced.note (.linesJoined lines.length joined.length)
  readLines joined

end Predictive
