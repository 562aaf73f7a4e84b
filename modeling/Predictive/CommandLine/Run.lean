import Predictive.CommandLine.Help
import Predictive.CommandLine.Plan

/-!
# Runs

A run of the program as a function of its arguments, of whether the standard output is a terminal,
and of the files.
-/

namespace Predictive

open Text

/-- How a run ends. -/
inductive Ending where
  | exit (code : Nat)
  | aborted (cause : Abort)
  deriving DecidableEq, Repr

/-- What is seen of a run. -/
structure Display where
  ending : Ending
  stdout : String
  stderr : String
  deriving DecidableEq, Repr

namespace Display

/-- What is seen when a command line gives no options. -/
def ofStop : Stop → Display
  | .help => ⟨.exit 0, CommandLine.help, ""⟩
  | .refused e => ⟨.exit 2, "", e.report⟩

/-- The end of a run with this outcome, and what is said about it. -/
def close : Except Failure Unit → Ending × String
  | .ok () => (.exit 0, "")
  | .error failure =>
    match failure.message with
    | .error cause => (.aborted cause, "")
    | .ok message => (.exit 1, "error: " ++ message ++ "\n")

/-- What is seen of a run with these entries and this outcome. The log is part of it if it is asked
for. -/
def ofTranscript (verbose : Bool) (t : Transcript Unit) : Display :=
  let (ending, words) := close t.outcome
  let log := if verbose then Transcript.log t.trace else ""
  ⟨ending, Transcript.stdout t.trace, log ++ words⟩

end Display

namespace Request

/-- The files after a request. The path for a skeleton is used without its idle steps, and that for
prototypes as it is. -/
def grant (files : FileTree) : Request → Except FileError FileTree
  | .skeleton _ path text => files.write (Path.normalize path) (Utf8.encode text)
  | .prototypes path text => files.create path (Utf8.encode text)

/-- The files after requests, up to the first that cannot be granted, and what is noted of them. -/
def grantAll (files : FileTree) : List Request → FileTree × Transcript Unit
  | [] => (files, pure ())
  | request :: rest =>
    match request.grant files with
    | .error e => (files, Traced.fail (.file e))
    | .ok files =>
      let (final, later) := grantAll files rest
      (final, do Traced.note (.event request.event); later)

end Request

/-- A run with these options: what is seen of it, and the files after it. -/
def runOptions (o : Options) (terminal : Bool) (files : FileTree) : Display × FileTree :=
  match o.grammarPath with
  | .dashes => (.ofTranscript o.verbose (Transcript.noValue .grammarPath), files)
  | .value path =>
    let plan := Plan.ofOptions o terminal path (files.read (Path.normalize path))
    match plan.outcome with
    | .error failure => (.ofTranscript o.verbose ⟨plan.trace, .error failure⟩, files)
    | .ok requests =>
      let (final, later) := Request.grantAll files requests
      (.ofTranscript o.verbose ⟨plan.trace ++ later.trace, later.outcome⟩, final)

/-- A run with these arguments: what is seen of it, and the files after it. -/
def run (arguments : List String) (terminal : Bool) (files : FileTree) : Display × FileTree :=
  match Arguments.read arguments with
  | .error stop => (.ofStop stop, files)
  | .ok o => runOptions o terminal files

end Predictive
