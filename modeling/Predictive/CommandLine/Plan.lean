import Predictive.CommandLine.Options
import Predictive.CommandLine.Transcript
import Predictive.Skeleton.Prototypes
import Predictive.Text.Newline

/-!
# Planning a run

All that a run does but for its requests to write files: it takes the content of the grammar file,
shows what is asked for, and ends with the requests, whose texts are complete by then. Whatever
fails here leaves all files as they are.
-/

namespace Predictive

open Text

/-- A file that a run asks for. -/
inductive Request where
  /-- The text of a skeleton, in place of what the file holds. -/
  | skeleton (target : Target) (path text : String)
  /-- The prototypes, in a new file. -/
  | prototypes (path text : String)
  deriving DecidableEq, Repr

/-- What is noted when a request is granted. -/
def Request.event : Request → Event
  | .skeleton target path _ => .skeletonSaved target.name path
  | .prototypes path _ => .prototypesSaved path

/-- The symbols that a key stands for: the left-hand sides of all rules, or the parts between its
commas that are not blank. -/
def symbolsOfKey (key : String) (g : Grammar) : List Symbol :=
  if key = "all" then g.leftSides else ((split ',' key).map trim).filter (· ≠ "")

namespace Plan

open Transcript

/-- The grammar that a file holds. -/
def load (path : String) (content : Except FileError Bytes) : Transcript Grammar := do
  let bytes ← Traced.ofExcept (content.mapError .file)
  let chars ← Traced.ofExcept ((Utf8.decode bytes).mapError .encoding)
  Traced.note (.event (.fileRead path))
  let g ← (Grammar.readText (String.ofList (unifyLineEnds chars))).adapt .event .grammar
  Traced.note (.event (.grammarLoaded g.rules.length path))
  return g

/-- The last line of the report: whether the grammar is LL(1), and if not, for which rules. -/
def showVerdict (colored : Bool) (reports : List SelectionReport) : Transcript Unit :=
  match reports.filter (!·.disjoint) with
  | [] => announce colored true "grammar is LL(1)"
  | failed =>
    announce colored false
      ("grammar is not LL(1): " ++ ", ".intercalate (failed.map SelectionReport.nonTerminal))

/-- Shows the LL(1) report. -/
def showReport (colored : Bool) (g : Grammar) : Transcript Unit := do
  let reports ← analysis g.report
  reports.forM fun r => announce colored r.disjoint r.render
  showVerdict colored reports

/-- Shows FIRST of a key. -/
def showFirst (g : Grammar) (key : Symbol) : Transcript Unit := do
  let set ← analysis (Traced.ofExcept (g.first key))
  say ("first(" ++ key ++ ") = " ++ set.render)

/-- Shows FOLLOW of a key. -/
def showFollow (g : Grammar) (key : Symbol) : Transcript Unit := do
  let set ← analysis (g.follow key)
  say ("follow(" ++ key ++ ") = " ++ set.render)

/-- Shows the selection sets of a key. -/
def showSelection (colored : Bool) (g : Grammar) (key : Symbol) : Transcript Unit := do
  let report := SelectionReport.mk key (← analysis (g.selectionSets key))
  announce colored report.disjoint report.render

/-- Shows the selection sets of a key next to its alternatives. -/
def showChoices (colored : Bool) (g : Grammar) (key : Symbol) : Transcript Unit := do
  announce colored true key
  asked (g.isTerminal key) (say "This is a terminal node.")
  let pairs ← analysis (g.choices key)
  pairs.forM fun (set, p) => say (set.render ++ " => " ++ p.print)

/-- Shows what is asked for about a key. -/
def showKey (o : Options) (colored : Bool) (g : Grammar) (key : Symbol) : Transcript Unit := do
  asked o.first (showFirst g key)
  asked o.follow (showFollow g key)
  asked o.selection (showSelection colored g key)
  asked o.choices (showChoices colored g key)

/-- Writes the skeleton if it is asked for, and shows it unless a file is named for it. -/
def skeletonRequests (o : Options) (g : Grammar) : Transcript (List Request) :=
  if o.skeleton then do
    let target ← needed .target o.target
    let text ← (g.skeletonText target).adapt .event .ofSkeletonError
    match Given.text? o.skeletonPath with
    | some path => return [.skeleton target path text]
    | none => do
      say text
      return []
  else return []

/-- The prototypes are asked for by naming a file. -/
def prototypeRequests (o : Options) (g : Grammar) : List Request :=
  match Given.text? o.prototypesPath with
  | some path => [.prototypes path g.prototypes]
  | none => []

/-- All that a run on the grammar file at a path does but for its requests, in order. -/
def ofOptions (o : Options) (terminal : Bool) (path : String)
    (content : Except FileError Bytes) : Transcript (List Request) := do
  let g ← load path content
  let colored := o.color && terminal
  asked o.report (showReport colored g)
  (((Given.text? o.key).map (symbolsOfKey · g)).getD []).forM (showKey o colored g)
  let requests ← skeletonRequests o g
  -- Every text exists by now, so nothing can fail any more but the requests themselves.
  return requests ++ prototypeRequests o g

end Plan

end Predictive
