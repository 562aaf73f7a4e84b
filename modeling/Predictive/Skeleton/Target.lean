import Predictive.Skeleton.Build
import Predictive.Skeleton.Dialect.Cpp
import Predictive.Skeleton.Dialect.Python

/-!
# The languages of skeletons
-/

namespace Predictive

open Text

/-- The languages that a skeleton can be written in. -/
inductive Target where
  | cpp
  | python
  deriving DecidableEq, Repr

/-- A word that names no target. -/
structure UnknownTarget where
  name : String
  deriving DecidableEq, Repr

namespace Target

/-- The targets, in the order in which they are offered. -/
def all : List Target := [.cpp, .python]

/-- The word that names a target. -/
def name : Target → String
  | .cpp => "cpp"
  | .python => "python"

/-- The target that a word names. -/
def ofName? (name : String) : Option Target := all.find? (·.name = name)

/-- How procedures are written for a target. -/
def dialect : Target → Dialect
  | .cpp => Cpp.dialect
  | .python => Python.dialect

/-- The target that a word names, or the refusal of the word. -/
def ofName (name : String) : Except UnknownTarget Target :=
  match ofName? name with
  | none => .error ⟨name⟩
  | some target => .ok target

theorem ofName?_name (t : Target) : ofName? t.name = some t := by
  cases t <;> rfl

end Target

/-- The error in words. -/
def UnknownTarget.message (e : UnknownTarget) : String :=
  "Unknown parser target " ++ quoted e.name ++ "; expected one of " ++
    ", ".intercalate (Target.all.map Target.name)

/-- The text of a grammar's skeleton for a target. -/
def Grammar.skeletonText (g : Grammar) (target : Target) : Traced Event SkeletonError String := do
  target.dialect.write (← g.skeleton)

end Predictive
