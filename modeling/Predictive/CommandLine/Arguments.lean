import Predictive.CommandLine.Options
import Predictive.Text.WordCharacter

/-!
# Reading the command line

Flags may be abbreviated as long as one flag fits, carry a value after an equals sign or in the next
argument, and, if they are letters, stand together behind one dash. Faults are reported in this
order: an abbreviation that fits several flags, wherever it stands; then, from left to right, the
faults of single flags and the request for help; then a missing grammar file; then what was not
recognized.
-/

namespace Predictive

open Text

/-- Why a command line is refused. -/
inductive UsageError where
  /-- An abbreviation that fits several flags. -/
  | ambiguous (argument : String) (candidates : List Flag)
  /-- A flag without the value that it needs. -/
  | valueExpected (flag : Flag)
  /-- A flag with a value that it does not take. -/
  | valueIgnored (flag : Flag) (value : String)
  /-- A value of the target flag that names no target. -/
  | invalidChoice (value : String)
  /-- No grammar file is named. -/
  | grammarPathRequired
  /-- Arguments that mean nothing. -/
  | unrecognized (arguments : List String)
  deriving DecidableEq, Repr

/-- The error in words. -/
def UsageError.message : UsageError → String
  | .ambiguous argument candidates =>
    "ambiguous option: " ++ argument ++ " could match " ++
      ", ".intercalate (candidates.map Flag.longName)
  | .valueExpected flag => "argument " ++ flag.title ++ ": expected one argument"
  | .valueIgnored flag value =>
    "argument " ++ flag.title ++ ": ignored explicit argument " ++ quoted value
  | .invalidChoice value =>
    "argument " ++ Flag.title .target ++ ": invalid choice: " ++ quoted value ++
      " (choose from " ++ ", ".intercalate (Target.all.map fun t => quoted t.name) ++ ")"
  | .grammarPathRequired =>
    "the following arguments are required: " ++ Flag.title .grammarPath
  | .unrecognized arguments => "unrecognized arguments: " ++ " ".intercalate arguments

/-- Why a command line gives no options. -/
inductive Stop where
  /-- Help was asked for. -/
  | help
  | refused (e : UsageError)
  deriving DecidableEq, Repr

namespace Arguments

/-- What an argument is, before it is known whether it is the value of the one before it. -/
inductive Token where
  /-- No flag, and so perhaps a value. -/
  | word (argument : String)
  /-- Looks like a flag and is none. -/
  | stray (argument : String)
  /-- The two dashes after which no flags come. -/
  | divider
  /-- A flag given by name, with what stood behind an equals sign. -/
  | named (flag : Flag) (attached : Option String)
  /-- A flag given by letter, with what stood behind it. -/
  | lettered (flag : Flag) (attached : Option String)
  deriving DecidableEq, Repr

/-- Whether characters are a dash and a decimal number, after which one line feed may stand. -/
def isNegativeNumber (cs : List Char) : Bool :=
  match cs with
  | '-' :: rest =>
    -- A line feed at the very end is not looked at.
    let number := if rest.getLast? = some '\n' then rest.dropLast else rest
    match number.dropWhile isDecimal with
    | [] => number ≠ []
    | c :: fraction => c = '.' && fraction ≠ [] && fraction.all isDecimal
  | _ => false

/-- An argument that starts with a dash and names no flag: a value if it is a negative number or
holds a space, which no flag does. -/
def unnamed (argument : String) : Token :=
  if isNegativeNumber argument.toList || argument.toList.contains ' ' then .word argument
  else .stray argument

/-- An argument that starts with two dashes, of which a start of a flag's name may be given if no
other flag's name starts so. -/
def classifyLong (argument : String) : Except UsageError Token :=
  let (name, attached) := match cut "=" argument with
    | none => (argument, none)
    | some (name, value) => (name, some value)
  match Flag.ofLongName? name with
  | some flag => .ok (.named flag attached)
  | none =>
    match Flag.startingWith name with
    | [] => .ok (unnamed argument)
    | [flag] => .ok (.named flag attached)
    -- No flag is named in full here, so none of several candidates is preferred.
    | flags => .error (.ambiguous argument flags)

/-- An argument that starts with a dash and the letter `c`. What stands behind the letter belongs
to it, less the equals sign if it starts with one. -/
def classifyShort (c : Char) (rest : List Char) (argument : String) : Token :=
  match Flag.ofLetter? c with
  | none => unnamed argument
  | some flag =>
    match rest with
    | [] => .lettered flag none
    | '=' :: value => .lettered flag (some (String.ofList value))
    | _ => .lettered flag (some (String.ofList rest))

/-- What an argument is. -/
def classify (argument : String) : Except UsageError Token :=
  match argument.toList with
  | '-' :: '-' :: _ => classifyLong argument
  | '-' :: c :: rest => .ok (classifyShort c rest argument)
  | _ => .ok (.word argument)

/-- What the arguments are. All that comes after the divider are words. -/
def classifyAll : List String → Except UsageError (List Token)
  | [] => .ok []
  | argument :: rest =>
    if argument = "--" then .ok (.divider :: rest.map .word)
    else do
      let token ← classify argument
      return token :: (← classifyAll rest)

/-- A flag that is set, with its value if it takes one. -/
structure Setting where
  flag : Flag
  value : Option (Given String)
  deriving DecidableEq, Repr

/-- The flags whose letters stand behind a letter. -/
def letters (flag : Flag) : List Char → Except UsageError (List Flag)
  | [] => .error (.valueIgnored flag "")
  | c :: rest =>
    match Flag.ofLetter? c with
    | none => .error (.valueIgnored flag (String.ofList (c :: rest)))
    | some next =>
      if rest = [] then .ok [flag, next] else (letters next rest).map (flag :: ·)

/-- The setting of a flag without a value. -/
def switch (flag : Flag) : Except Stop Setting :=
  if flag = .help then .error .help else .ok ⟨flag, none⟩

/-- The setting of a flag to a value, which for the target must name one. -/
def assign (flag : Flag) (value : String) : Except Stop Setting :=
  if flag = .target && (Target.ofName? value).isNone then .error (.refused (.invalidChoice value))
  else .ok ⟨flag, some (.value value)⟩

/-- The setting of a flag to the value behind the equals sign. Two dashes there are no value, not
even a target's name that could be wrong. -/
def assignAttached (flag : Flag) (value : String) : Except Stop Setting :=
  if value = "--" then .ok ⟨flag, some .dashes⟩ else assign flag value

/-- The settings that tokens make, in order, and the arguments that mean nothing. -/
def settings : List Token → Except Stop (List Setting × List String)
  | [] => .ok ([], [])
  | .word argument :: rest => skip argument (settings rest)
  | .stray argument :: rest => skip argument (settings rest)
  | .divider :: rest => skip "--" (settings rest)
  | .lettered flag none :: rest => do
    let setting ← switch flag
    prepend [setting] (settings rest)
  | .lettered flag (some attached) :: rest => do
    -- All letters are read before any counts, so a bad one also hides a request for help.
    let flags ← (letters flag attached.toList).mapError .refused
    let made ← flags.mapM switch
    prepend made (settings rest)
  | .named flag (some value) :: rest =>
    if flag.takesValue then do
      let setting ← assignAttached flag value
      prepend [setting] (settings rest)
    else .error (.refused (.valueIgnored flag value))
  | .named flag none :: rest =>
    if flag.takesValue then
      -- Only a word can be a value: neither a flag nor the divider is.
      match rest with
      | .word value :: rest => do
        let setting ← assign flag value
        prepend [setting] (settings rest)
      | _ => .error (.refused (.valueExpected flag))
    else do
      let setting ← switch flag
      prepend [setting] (settings rest)
where
  /-- One more argument that means nothing. -/
  skip (argument : String) (later : Except Stop (List Setting × List String)) :
      Except Stop (List Setting × List String) :=
    later.map fun (made, unknown) => (made, argument :: unknown)
  /-- More settings before the later ones. -/
  prepend (first : List Setting) (later : Except Stop (List Setting × List String)) :
      Except Stop (List Setting × List String) :=
    later.map fun (made, unknown) => (first ++ made, unknown)

/-- The target that a value of the target flag names; one that names none has been refused. -/
def namedTarget (value : Given String) : Given Target :=
  value.map fun name => (Target.ofName? name).getD .cpp

/-- The options after one more setting; a later setting of a flag prevails. -/
def apply (o : Options) (s : Setting) : Options :=
  match s.flag with
  | .help => o
  | .grammarPath => { o with grammarPath := s.value.getD o.grammarPath }
  | .key => { o with key := s.value }
  | .first => { o with first := true }
  | .follow => { o with follow := true }
  | .selection => { o with selection := true }
  | .report => { o with report := true }
  | .choices => { o with choices := true }
  | .skeleton => { o with skeleton := true }
  | .target => { o with target := (s.value.map namedTarget).getD o.target }
  | .skeletonPath => { o with skeletonPath := s.value }
  | .prototypesPath => { o with prototypesPath := s.value }
  | .noColor => { o with color := false }
  | .verbose => { o with verbose := true }

/-- The options that the arguments of a command line ask for. -/
def read (arguments : List String) : Except Stop Options := do
  let tokens ← (classifyAll arguments).mapError .refused
  let (made, unknown) ← settings tokens
  unless made.any (·.flag = .grammarPath) do throw (.refused .grammarPathRequired)
  unless unknown = [] do throw (.refused (.unrecognized unknown))
  -- One of the settings is of the grammar file, so where the options start from is not seen.
  return made.foldl apply { grammarPath := .dashes }

end Arguments

end Predictive
