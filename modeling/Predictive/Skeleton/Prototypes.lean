import Predictive.Grammar.Printer
import Predictive.Skeleton.Basic

/-!
# Prototypes

The C++ declarations of a grammar's procedures, one for each rule, under a comment that shows the
rule.
-/

namespace Predictive

/-- A rule as the line that it was read from, or as it is printed if it was not read. -/
def Rule.caption (r : Rule) : String :=
  if r.line = "" then r.print else r.line

/-- The comment and the declaration for a rule, with a blank line after them. -/
def Rule.prototype (r : Rule) : String :=
  "// " ++ r.caption ++ "\nvoid " ++ procedureName r.nonTerminal ++ "();\n\n"

/-- The declarations for all rules, in order. -/
def Grammar.prototypes (g : Grammar) : String :=
  String.join (g.rules.map Rule.prototype)

end Predictive
