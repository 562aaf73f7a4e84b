import Predictive.Event
import Predictive.Grammar.Error
import Predictive.Grammar.Printer
import Predictive.Text.Blank
import Predictive.Text.Pieces
import Predictive.Traced

/-!
# Reading rules

A rule stands on one logical line: a non-terminal, the mark `::=`, and words that single bars
divide into alternatives. Bars and marks count only as far as the words or the text show them: a
bar inside a word belongs to the word, and so does a second mark.
-/

namespace Predictive

open Text

/-- The word that divides alternatives. -/
def bar : Symbol := "|"

/-- The production with these symbols, of which there must be one. -/
def Production.ofSymbols (symbols : List Symbol) : Except GrammarError Production :=
  match Production.ofSymbols? symbols with
  | none => .error .emptyProduction
  | some p => .ok p

/-- The production whose symbols are the words of a text. -/
def Production.ofText (text : String) : Except GrammarError Production :=
  Production.ofSymbols (words text)

namespace Rule

/-- The rule with these alternatives, of which there must be one. -/
def ofAlternatives (nonTerminal : Symbol) (alternatives : List Production) (line : String) :
    Except GrammarError Rule :=
  if h : alternatives = [] then .error (.noAlternatives nonTerminal)
  else .ok ⟨nonTerminal, alternatives, line, h⟩

/-- The rule with productions of these symbols; productions are checked before their number is. -/
def ofSymbols (nonTerminal : Symbol) (derivations : List (List Symbol)) (line : String) :
    Except GrammarError Rule := do
  ofAlternatives nonTerminal (← derivations.mapM Production.ofSymbols) line

/-- The rule that a line holds, together with the line as it is. -/
def ofLine (line : String) : Except GrammarError Rule :=
  match cut ruleMark line with
  | none => .error (.unseparated line)
  | some (left, right) =>
    match words left with
    | [nonTerminal] =>
      match words right with
      | [] => .error (.emptyRightSide nonTerminal line)
      | tokens =>
        -- A missing word before, between or after bars shows as an empty piece.
        match (pieces bar tokens).mapM Production.ofSymbols? with
        | none => .error (.emptyAlternative nonTerminal line)
        | some alternatives => ofAlternatives nonTerminal alternatives line
    | _ => .error (.leftSide line)

/-- Reads the rule that a line holds. -/
def read (line : String) : Traced Event GrammarError Rule := do
  let rule ← Traced.ofExcept (ofLine line)
  Traced.note (.ruleRead rule.nonTerminal rule.alternatives.length)
  return rule

end Rule

/-- Reads a rule from each line. -/
def Grammar.readLines (lines : List String) : Traced Event GrammarError Grammar := do
  return ⟨← lines.mapM Rule.read⟩

end Predictive
