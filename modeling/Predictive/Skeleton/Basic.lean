import Predictive.SymbolSet
import Predictive.Text.Pieces
import Predictive.Text.Quoted
import Predictive.Text.WordCharacter

/-!
# Parser skeletons

A parser skeleton has one procedure for each non-terminal. A procedure takes the branch whose
lookahead set holds the next token and then runs the branch's steps in order.
-/

namespace Predictive

open Text

/-- What a procedure does for one symbol of an alternative. -/
inductive Step where
  /-- The next token must be this terminal and is consumed. -/
  | expect (terminal : Symbol)
  /-- The procedure of this non-terminal runs. -/
  | call (nonTerminal : Symbol)
  deriving DecidableEq, Repr

/-- A word that names no kind of step. -/
structure UnknownStep where
  kind : String
  deriving DecidableEq, Repr

/-- The error in words. -/
def UnknownStep.message (e : UnknownStep) : String :=
  quoted e.kind ++ " is not a valid StepKind"

namespace Step

/-- The step that a word names, for a symbol. -/
def ofKind (kind : String) (symbol : Symbol) : Except UnknownStep Step :=
  if kind = "match" then .ok (.expect symbol)
  else if kind = "call" then .ok (.call symbol)
  else .error ⟨kind⟩

/-- The word that names the kind of a step. -/
def kind : Step → String
  | .expect _ => "match"
  | .call _ => "call"

/-- The symbol that a step is for. -/
def symbol : Step → Symbol
  | .expect s => s
  | .call s => s

theorem ofKind_kind (step : Step) : ofKind step.kind step.symbol = .ok step := by
  cases step <;> rfl

end Step

/-- The tokens that select an alternative, and the steps for its symbols. -/
structure Branch where
  lookahead : SymbolSet
  steps : List Step
  deriving DecidableEq

/-- A non-terminal with a branch for each alternative, in the order in which they are tried. -/
structure Procedure where
  nonTerminal : Symbol
  branches : List Branch
  deriving DecidableEq

/-- The name of a non-terminal's procedure: primes are spelt out, and what is no word character
gives way to an underscore. -/
def procedureName (nonTerminal : Symbol) : String :=
  let spelt := replaceChar '\x27' "_prime".toList nonTerminal.toList
  "parse_" ++ String.ofList (spelt.map fun c => if isWordCharacter c then c else '_')

/-- The name of a procedure is that of its non-terminal's procedure. -/
def Procedure.name (p : Procedure) : String := procedureName p.nonTerminal

end Predictive
