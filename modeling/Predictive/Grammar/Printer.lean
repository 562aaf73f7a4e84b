import Predictive.Grammar.Basic

/-!
# Printing grammars

A rule is printed on one line, in the form in which it is read.
-/

namespace Predictive

/-- The mark between a rule's sides. -/
def ruleMark : String := "::="

/-- The symbols with a space between them. -/
def Production.print (p : Production) : String :=
  " ".intercalate p.symbols

/-- The non-terminal, the mark and the alternatives with bars between them. -/
def Rule.print (r : Rule) : String :=
  r.nonTerminal ++ " " ++ ruleMark ++ " " ++ " | ".intercalate (r.alternatives.map Production.print)

/-- Each rule on a line of its own, between parentheses. -/
def Grammar.print (g : Grammar) : String :=
  "Grammar(\n" ++ String.join (g.rules.map fun r => "  " ++ r.print ++ "\n") ++ ")"

end Predictive
