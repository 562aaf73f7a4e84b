import Predictive.Symbol
import Predictive.Text.Quoted

/-!
# Events

What happens during a run and is worth a line in its log. Analyses and readers note events without
regard to whether anyone will see them.
-/

namespace Predictive

open Text

/-- What is noted during a run. -/
inductive Event where
  /-- A grammar file was read. -/
  | fileRead (path : String)
  /-- The lines of a text were joined, one for each rule. -/
  | linesJoined (lines rules : Nat)
  /-- A rule was read. -/
  | ruleRead (nonTerminal : Symbol) (alternatives : Nat)
  /-- The grammar of a file is complete. -/
  | grammarLoaded (rules : Nat) (path : String)
  /-- FOLLOW of a symbol was asked for while it was in progress. -/
  | followCycle (symbol : Symbol) (stack : List Symbol)
  /-- Two selection sets of a non-terminal have a common member. -/
  | overlap (nonTerminal : Symbol)
  /-- A procedure is about to be written. -/
  | procedureWritten (name : String) (alternatives : Nat)
  /-- A parser skeleton was put into a file. -/
  | skeletonSaved (target path : String)
  /-- Prototypes were put into a file. -/
  | prototypesSaved (path : String)
  deriving DecidableEq, Repr

namespace Event

/-- How an event ranks, which is what a line of the log starts with. -/
def level : Event → String
  | .grammarLoaded .. | .skeletonSaved .. | .prototypesSaved .. => "INFO"
  | _ => "DEBUG"

/-- The part of the program that notes the event. -/
def channel : Event → String
  | .fileRead .. | .linesJoined .. => "grammar_checker.source"
  | .ruleRead .. | .followCycle .. | .overlap .. => "grammar_checker.grammar"
  | .procedureWritten .. => "grammar_checker.codegen"
  | .grammarLoaded .. | .skeletonSaved .. | .prototypesSaved .. => "grammar_checker.cli"

/-- The event in words. -/
def message : Event → String
  | .fileRead path => "read grammar from " ++ path
  | .linesJoined lines rules =>
    "joined " ++ toString lines ++ " line(s) into " ++ toString rules ++ " rule(s)"
  | .ruleRead nonTerminal alternatives =>
    "rule " ++ nonTerminal ++ " with " ++ toString alternatives ++ " alternative(s)"
  | .grammarLoaded rules path => "loaded " ++ toString rules ++ " rule(s) from " ++ path
  | .followCycle symbol stack =>
    "follow(" ++ symbol ++ "): cycle through " ++ bracketed (stack.map quoted)
  | .overlap nonTerminal => "selection sets of " ++ nonTerminal ++ " overlap"
  | .procedureWritten name alternatives =>
    "emitting " ++ name ++ " with " ++ toString alternatives ++ " alternative(s)"
  | .skeletonSaved target path => "wrote " ++ target ++ " parser skeleton to " ++ path
  | .prototypesSaved path => "wrote prototypes to " ++ path

/-- The event's line in the log. -/
def logLine (e : Event) : String :=
  e.level ++ " " ++ e.channel ++ ": " ++ e.message ++ "\n"

end Event

end Predictive
