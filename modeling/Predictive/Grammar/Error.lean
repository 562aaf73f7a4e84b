import Predictive.Symbol
import Predictive.Text.Quoted

/-!
# What makes a grammar malformed
-/

namespace Predictive

open Text

/-- Why symbols, a line or a text give no grammar. -/
inductive GrammarError where
  /-- A production without symbols. -/
  | emptyProduction
  /-- A rule without alternatives. -/
  | noAlternatives (nonTerminal : Symbol)
  /-- A line without the mark between the sides of a rule. -/
  | unseparated (line : String)
  /-- A left-hand side that is not one word. -/
  | leftSide (line : String)
  /-- A right-hand side without words. -/
  | emptyRightSide (nonTerminal : Symbol) (line : String)
  /-- Nothing before, between or after the bars of a right-hand side. -/
  | emptyAlternative (nonTerminal : Symbol) (line : String)
  /-- A text in which no line starts a rule. -/
  | noRules
  /-- A text whose first line, given here, starts no rule. -/
  | textBeforeRules (line : String)
  deriving DecidableEq, Repr

/-- The error in words. -/
def GrammarError.message : GrammarError → String
  | .emptyProduction => "Production must contain at least one symbol"
  | .noAlternatives nonTerminal => "Rule " ++ nonTerminal ++ " has no alternatives"
  | .unseparated line => "Missing '::=' in grammar line: " ++ quoted line
  | .leftSide line => "Expected a single non-terminal before '::=': " ++ quoted line
  | .emptyRightSide nonTerminal line => "No alternatives for " ++ nonTerminal ++ ": " ++ quoted line
  | .emptyAlternative nonTerminal line =>
    "Empty alternative for " ++ nonTerminal ++ ": " ++ quoted line
  | .noRules => "Grammar has no rules"
  | .textBeforeRules line => "Text before the first rule: " ++ quoted line

end Predictive
