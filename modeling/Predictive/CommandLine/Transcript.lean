import Predictive.Analysis.Report
import Predictive.CommandLine.Options
import Predictive.FileTree
import Predictive.Grammar.Layout
import Predictive.Text.Utf8

/-!
# Transcripts

What a run shows, notes and fails with. A transcript keeps the lines and the events of a run in one
order; the standard output is made of its lines, and the log of its events.
-/

namespace Predictive

open Text

/-- What a run brings forth, in order. -/
inductive Entry where
  /-- A text on the standard output, on a line of its own. -/
  | line (text : String)
  /-- An event for the log. -/
  | event (e : Event)
  deriving DecidableEq, Repr

/-- Why a run ends on the spot, without a word about it. -/
inductive Abort where
  /-- A set was asked for that is not defined. -/
  | leftRecursion
  /-- A flag is set to no value where the run needs one. -/
  | noValue (flag : Flag)
  deriving DecidableEq, Repr

/-- Why a run fails. -/
inductive Failure where
  | file (e : FileError)
  | encoding (e : Utf8.Malformed)
  | grammar (e : GrammarError)
  | nameClash (e : NameClash)
  | abort (cause : Abort)
  deriving DecidableEq, Repr

namespace Failure

/-- What fails with left recursion. -/
def ofLeftRecursion (_ : LeftRecursion) : Failure := .abort .leftRecursion

/-- What fails for want of a skeleton. -/
def ofSkeletonError : SkeletonError → Failure
  | .leftRecursion => .abort .leftRecursion
  | .nameClash e => .nameClash e

/-- The failure in words, or the cause of an end without any. -/
def message : Failure → Except Abort String
  | .file e => .ok e.message
  | .encoding e => .ok e.message
  | .grammar e => .ok ("malformed grammar: " ++ e.message)
  | .nameClash e => .ok e.message
  | .abort cause => .error cause

end Failure

/-- A run or a part of one. -/
abbrev Transcript (α : Type) := Traced Entry Failure α

namespace Transcript

/-- An analysis as a part of a run. -/
def analysis {α : Type} (x : Traced Event LeftRecursion α) : Transcript α :=
  x.adapt .event .ofLeftRecursion

/-- The end of a run that needs a flag's value and has none. -/
def noValue {α : Type} (flag : Flag) : Transcript α := Traced.fail (.abort (.noValue flag))

/-- The value of a flag where the run needs one. -/
def needed {α : Type} (flag : Flag) : Given α → Transcript α
  | .value a => pure a
  | .dashes => noValue flag

/-- Shows a line. -/
def say (text : String) : Transcript Unit := Traced.note (.line text)

/-- The sequence that makes a terminal show what follows in green. -/
def green : String := "\x1b[0;32m"

/-- The sequence that makes a terminal show what follows in red. -/
def red : String := "\x1b[0;31m"

/-- The sequence that ends a colour. -/
def reset : String := "\x1b[0m"

/-- A text in the colour of good or bad news, if there are colours. -/
def paint (colored good : Bool) (text : String) : String :=
  if colored then (if good then green else red) ++ text ++ reset else text

/-- Shows a line with good or bad news. -/
def announce (colored good : Bool) (text : String) : Transcript Unit :=
  say (paint colored good text)

/-- Does something if it is asked for. -/
@[macro_inline]
def asked (b : Bool) (x : Transcript Unit) : Transcript Unit :=
  if b then x else pure ()

/-- The standard output of a run's entries. -/
def stdout (entries : List Entry) : String :=
  String.join (entries.map fun
    | .line text => text ++ "\n"
    | .event _ => "")

/-- The log of a run's entries. -/
def log (entries : List Entry) : String :=
  String.join (entries.map fun
    | .line _ => ""
    | .event e => e.logLine)

end Transcript

end Predictive
