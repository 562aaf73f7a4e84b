import Predictive.Text.Pieces

/-!
# Paths

A path is a text in which slashes divide steps. Steps that lead nowhere can be left out of a path
without changing where it leads, as long as every other step leads to a folder.
-/

namespace Predictive.Path

open Text

/-- The parts of a path between slashes; an absolute path starts with an empty one. -/
def steps (path : String) : List String := split '/' path

/-- Whether a step leads nowhere: it is empty or a single dot. -/
def isIdle (step : String) : Bool := step = "" || step = "."

/-- Whether a path starts at the root. -/
def isAbsolute (path : String) : Bool := path.toList.head? = some '/'

/-- The most bytes that a step can have. -/
def maxStepSize : Nat := 255

/-- The most bytes that a path can have. -/
def maxSize : Nat := 4095

/-- The slashes that an absolute path keeps at its start: two are kept, and any other number is
one. -/
def root (path : String) : String :=
  match (path.toList.takeWhile (· = '/')).length with
  | 0 => ""
  | 2 => "//"
  | _ => "/"

/-- The path without the steps that lead nowhere; the working folder itself is a dot. -/
def normalize (path : String) : String :=
  let kept := root path ++ "/".intercalate ((steps path).filter (!isIdle ·))
  if kept = "" then "." else kept

/-- The path's steps up to its last name, and whether slashes follow that name. A path whose last
step is a dot or a double dot, or that has no step, has no last name. -/
def parentOfNamed? (path : String) : Option (List String × Bool) :=
  -- Empty steps at the end are the slashes after the last name.
  let reversed := (steps path).reverse
  match reversed.dropWhile (· = "") with
  | [] => none
  | last :: before =>
    if last = "." || last = ".." then none
    else some (before.reverse, reversed.head? = some "")

end Predictive.Path
