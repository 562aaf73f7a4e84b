import Predictive.CommandLine.Run

/-!
# The program

The command line on the files of the operating system. It reads the grammar file, shows what the
plan shows, and grants the plan's requests as `Request.grantAll` does on a tree of files.
-/

namespace Predictive

/-- The fault that an error of the operating system stands for, if it is one of those that a run
reports. The number of an error comes with either sign. -/
def FileFault.ofError? : IO.Error → Option FileFault
  | .noFileOrDirectory .. => some .notFound
  | .permissionDenied _ code _ =>
    if code = 13 || code + 13 = 0 then some .denied else none
  | .alreadyExists .. => some .occupied
  | .inappropriateType _ code _ =>
    some (if code = 21 || code + 21 = 0 then .isFolder else .notFolder)
  | .invalidArgument _ code _ =>
    if code = 36 || code + 36 = 0 then some .nameTooLong else none
  | _ => none

/-- Does something with the file at a path, and reports what is wrong with the path. -/
def withPath {α : Type} (path : String) (action : IO α) : IO (Except FileError α) := do
  if path.toList.contains '\x00' then return .error ⟨.nullCharacter, path⟩
  try
    return .ok (← action)
  catch e =>
    match FileFault.ofError? e with
    | some fault => return .error ⟨fault, path⟩
    | none => throw e

/-- Grants a request. -/
def Request.grantNow : Request → IO (Except FileError Unit)
  | .skeleton _ path text =>
    let path := Path.normalize path
    withPath path (IO.FS.writeFile path text)
  | .prototypes path text =>
    withPath path do
      let file ← IO.FS.Handle.mk path .writeNew
      file.putStr text

/-- Grants requests up to the first that cannot be granted. -/
def Request.grantAllNow : List Request → IO (Transcript Unit)
  | [] => return pure ()
  | request :: rest => do
    match ← request.grantNow with
    | .error e => return Traced.fail (.file e)
    | .ok () =>
      let later ← grantAllNow rest
      return do Traced.note (.event request.event); later

/-- A run with these options on the files of the operating system. -/
def runOptionsNow (o : Options) (terminal : Bool) : IO Display := do
  match o.grammarPath with
  | .dashes => return .ofTranscript o.verbose (Transcript.noValue .grammarPath)
  | .value path =>
    let file := Path.normalize path
    let content ← withPath file do return (← IO.FS.readBinFile file).data.toList
    let plan := Plan.ofOptions o terminal path content
    match plan.outcome with
    | .error failure => return .ofTranscript o.verbose ⟨plan.trace, .error failure⟩
    | .ok requests =>
      let later ← Request.grantAllNow requests
      return .ofTranscript o.verbose ⟨plan.trace ++ later.trace, later.outcome⟩

/-- Shows what is seen of a run, and gives its exit code. -/
def Display.present (d : Display) : IO UInt32 := do
  (← IO.getStdout).putStr d.stdout
  (← IO.getStderr).putStr d.stderr
  match d.ending with
  | .exit code => return code.toUInt32
  | .aborted .leftRecursion =>
    (← IO.getStderr).putStr "error: left recursion\n"
    return 1
  | .aborted (.noValue flag) =>
    (← IO.getStderr).putStr ("error: no value for " ++ flag.title ++ "\n")
    return 1

end Predictive

/-- A run with the arguments of the command line. -/
def main (arguments : List String) : IO UInt32 := do
  let display ← match Predictive.Arguments.read arguments with
    | .error stop => pure (Predictive.Display.ofStop stop)
    | .ok o => Predictive.runOptionsNow o (← (← IO.getStdout).isTty)
  display.present
