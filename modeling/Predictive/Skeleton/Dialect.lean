import Predictive.Event
import Predictive.Skeleton.Basic
import Predictive.Traced

/-!
# Writing skeletons in a language

A dialect says how the pieces of a procedure are written in a language. The shape of a procedure is
the same in all of them: a header, each branch under its guard, what happens when no guard
holds, and a footer.
-/

namespace Predictive

/-- How the pieces of a procedure are written. Lines carry no indentation of the places where they
are put. -/
structure Dialect where
  /-- One level of indentation. -/
  indent : String
  /-- The first lines of the procedure of this name. -/
  header (name : String) : List String
  /-- The line that tests the next token against the lookahead of a branch; `chained` tells whether
  another test comes before it. -/
  guard (chained : Bool) (lookahead : List Symbol) : String
  /-- The lines that consume a terminal. -/
  expect (terminal : Symbol) : List String
  /-- The lines of one procedure, named first, that call another. -/
  call (caller callee : String) : List String
  /-- The lines after the steps of a branch. -/
  close : List String
  /-- The lines of the procedure of this name for a token that selects no branch. -/
  failure (name : String) : List String
  /-- The last lines. -/
  footer : List String

namespace Dialect

/-- The lines of a step. -/
def stepLines (d : Dialect) (name : String) : Step → List String
  | .expect terminal => d.expect terminal
  | .call nonTerminal => d.call name (procedureName nonTerminal)

/-- The lines of a branch. -/
def branchLines (d : Dialect) (name : String) (chained : Bool) (b : Branch) : List String :=
  [d.indent ++ d.guard chained b.lookahead.toList] ++
    -- Steps stand one level deeper than the guard above them.
    (b.steps.flatMap (d.stepLines name)).map (d.indent ++ d.indent ++ ·) ++
    d.close.map (d.indent ++ ·)

/-- The lines of a list of branches, of which the first has a guard without one before it. -/
def branchesLines (d : Dialect) (name : String) : List Branch → List String
  | [] => []
  | b :: rest => d.branchLines name false b ++ rest.flatMap (d.branchLines name true)

/-- The lines of a procedure. -/
def procedureLines (d : Dialect) (p : Procedure) : List String :=
  d.header p.name ++ d.branchesLines p.name p.branches ++
    (d.failure p.name).map (d.indent ++ ·) ++ d.footer

/-- The text of a procedure, with a line feed at its end. -/
def procedureText (d : Dialect) (p : Procedure) : String :=
  "\n".intercalate (d.procedureLines p) ++ "\n"

/-- The text of a skeleton, with a blank line between procedures. -/
def text (d : Dialect) (procedures : List Procedure) : String :=
  "\n".intercalate (procedures.map d.procedureText)

/-- The text of a skeleton, with a note for each procedure. -/
def write {ε : Type} (d : Dialect) (procedures : List Procedure) : Traced Event ε String :=
  ⟨procedures.map fun p => .procedureWritten p.name p.branches.length,
    .ok (d.text procedures)⟩

/-- The text of a skeleton in a dialect that may be missing, in which case only the skeleton
without procedures has one. -/
def text? (d : Option Dialect) (procedures : List Procedure) : Option String :=
  match d, procedures with
  | some d, procedures => some (d.text procedures)
  | none, [] => some ""
  | none, _ :: _ => none

end Dialect

end Predictive
