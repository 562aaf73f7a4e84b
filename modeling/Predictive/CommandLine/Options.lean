import Predictive.Skeleton.Target

/-!
# Options

What a command line can ask for, and the flags by which it asks.
-/

namespace Predictive

/-- What a flag with a value is set to. -/
inductive Given (α : Type) where
  | value (a : α)
  /-- Two dashes behind the equals sign, which stand for no value. -/
  | dashes
  deriving DecidableEq, Repr

namespace Given

/-- What a flag is set to, with its value read by a function. -/
def map {α β : Type} (f : α → β) : Given α → Given β
  | .value a => .value (f a)
  | .dashes => .dashes

/-- The text that a flag is set to, if it is set to one that is not empty. -/
def text? : Option (Given String) → Option String
  | some (.value s) => if s = "" then none else some s
  | _ => none

end Given

/-- What a run is asked to do. -/
structure Options where
  /-- The path of the grammar file. -/
  grammarPath : Given String
  /-- The symbols to query. -/
  key : Option (Given String) := none
  /-- Show FIRST of each key. -/
  first : Bool := false
  /-- Show FOLLOW of each key. -/
  follow : Bool := false
  /-- Show the selection sets of each key. -/
  selection : Bool := false
  /-- Show the LL(1) report. -/
  report : Bool := false
  /-- Show the selection sets of each key next to the alternatives. -/
  choices : Bool := false
  /-- Write a parser skeleton. -/
  skeleton : Bool := false
  /-- The language of the skeleton. -/
  target : Given Target := .value .cpp
  /-- The path of the file for the skeleton. -/
  skeletonPath : Option (Given String) := none
  /-- The path of the new file for the prototypes. -/
  prototypesPath : Option (Given String) := none
  /-- Colour lines on a terminal. -/
  color : Bool := true
  /-- Show the log. -/
  verbose : Bool := false
  deriving DecidableEq, Repr

/-- The flags of the command line. -/
inductive Flag where
  | help
  | grammarPath
  | key
  | first
  | follow
  | selection
  | report
  | choices
  | skeleton
  | target
  | skeletonPath
  | prototypesPath
  | noColor
  | verbose
  deriving DecidableEq, Repr

namespace Flag

/-- The flags, in the order in which they are offered. -/
def all : List Flag :=
  [.help, .grammarPath, .key, .first, .follow, .selection, .report, .choices, .skeleton,
    .target, .skeletonPath, .prototypesPath, .noColor, .verbose]

/-- The single letter after a dash that stands for a flag. -/
def letter? : Flag → Option Char
  | .help => some 'h'
  | .verbose => some 'v'
  | _ => none

/-- The name of a flag, after two dashes. -/
def longName : Flag → String
  | .help => "--help"
  | .grammarPath => "--filename"
  | .key => "--key"
  | .first => "--first"
  | .follow => "--follow"
  | .selection => "--first_plus"
  | .report => "--check_first_plus"
  | .choices => "--show_mappings"
  | .skeleton => "--parser"
  | .target => "--target"
  | .skeletonPath => "--output"
  | .prototypesPath => "--protos"
  | .noColor => "--no-color"
  | .verbose => "--verbose"

/-- A flag as messages name it, by its letter and its name. -/
def title (f : Flag) : String :=
  match f.letter? with
  | none => f.longName
  | some c => "-" ++ String.ofList [c] ++ "/" ++ f.longName

/-- Whether a flag comes with a value. -/
def takesValue : Flag → Bool
  | .grammarPath | .key | .target | .skeletonPath | .prototypesPath => true
  | _ => false

/-- The flag of a letter. -/
def ofLetter? (c : Char) : Option Flag := all.find? (·.letter? = some c)

/-- The flag of a name. -/
def ofLongName? (name : String) : Option Flag := all.find? (·.longName = name)

/-- The flags whose names start with a text. -/
def startingWith (start : String) : List Flag :=
  all.filter fun f => start.toList.isPrefixOf f.longName.toList

end Flag

end Predictive
