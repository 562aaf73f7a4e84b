import Predictive.Analysis.Selection
import Predictive.SymbolSet.Listing

/-!
# The LL(1) report

A grammar is LL(1) when the selection sets of each of its rules are disjoint. The report lists the
rules in order; a non-terminal with several rules is listed for each of them, and each time with
the sets of its first rule.
-/

namespace Predictive

/-- The selection sets that the report gives for a rule. -/
structure SelectionReport where
  nonTerminal : Symbol
  sets : List SymbolSet
  deriving DecidableEq

namespace SelectionReport

/-- Whether the next token selects one alternative at most. -/
def disjoint (r : SelectionReport) : Bool := allDisjoint r.sets

/-- What the report says about the rule, without the sets. -/
def verdict (r : SelectionReport) : Symbol × Bool := (r.nonTerminal, r.disjoint)

/-- The report's line for the rule. -/
def render (r : SelectionReport) : String :=
  "first_plus(" ++ r.nonTerminal ++ ") = " ++ SymbolSet.renderAll r.sets

end SelectionReport

namespace Grammar

/-- The report for one rule, with a note if its sets overlap. -/
def reportRule (g : Grammar) (r : Rule) : Traced Event LeftRecursion SelectionReport := do
  let report := ⟨r.nonTerminal, ← g.selectionSets r.nonTerminal⟩
  unless report.disjoint do Traced.note (.overlap r.nonTerminal)
  return report

/-- The report for each rule, in order. -/
def report (g : Grammar) : Traced Event LeftRecursion (List SelectionReport) :=
  g.rules.mapM g.reportRule

/-- Whether every rule's sets are disjoint; the whole report is made first. -/
def isPredictive (g : Grammar) : Traced Event LeftRecursion Bool := do
  return (← g.report).all SelectionReport.disjoint

end Grammar

end Predictive
