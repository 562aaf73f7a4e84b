import Predictive.Analysis.Selection
import Predictive.Skeleton.Basic

/-!
# Building the skeleton of a grammar

Each symbol of an alternative becomes a step: a terminal is expected, a non-terminal's procedure is
called. Two non-terminals whose procedures would have the same name are refused.
-/

namespace Predictive

open Text

/-- Two non-terminals whose procedures would have the same name. -/
structure NameClash where
  earlier : Symbol
  later : Symbol
  deriving DecidableEq, Repr

/-- The error in words. -/
def NameClash.message (e : NameClash) : String :=
  "Non-terminals " ++ quoted e.earlier ++ " and " ++ quoted e.later ++
    " both map to procedure " ++ procedureName e.later

/-- Why a grammar has no skeleton. -/
inductive SkeletonError where
  /-- A selection set is not defined. -/
  | leftRecursion
  | nameClash (e : NameClash)
  deriving DecidableEq, Repr

namespace Grammar

/-- The step for a symbol. -/
def step (g : Grammar) (s : Symbol) : Step :=
  if g.isTerminal s then .expect s else .call s

/-- The procedure for a rule. -/
def ruleProcedure (g : Grammar) (r : Rule) : Traced Event LeftRecursion Procedure := do
  let sets ← g.ruleSelectionSets r
  -- There is one set for each alternative, so no alternative is left out.
  let branches := sets.zipWith (fun set p => Branch.mk set (p.symbols.map g.step)) r.alternatives
  return ⟨r.nonTerminal, branches⟩

/-- The procedure for a symbol's first rule; a terminal has none. -/
def procedure? (g : Grammar) (s : Symbol) : Traced Event LeftRecursion (Option Procedure) :=
  match g.rule? s with
  | none => return none
  | some r => some <$> g.ruleProcedure r

/-- The procedures for the rules, none of which may have the name of another or of the procedure of
an earlier symbol. A procedure is built before its name is compared. -/
def proceduresAfter (g : Grammar) (earlier : List Symbol) :
    List Rule → Traced Event SkeletonError (List Procedure)
  | [] => return []
  | r :: rest => do
    let procedure ← (g.ruleProcedure r).adapt id fun _ => .leftRecursion
    -- Names differ up to here, so at most one symbol before this one has the name.
    match earlier.find? (procedureName · = procedure.name) with
    | some s => Traced.fail (.nameClash ⟨s, r.nonTerminal⟩)
    | none => return procedure :: (← proceduresAfter g (earlier ++ [r.nonTerminal]) rest)

/-- The skeleton: a procedure for each non-terminal, in the order of their first appearance. -/
def skeleton (g : Grammar) : Traced Event SkeletonError (List Procedure) :=
  g.proceduresAfter [] (g.nonTerminals.filterMap g.rule?)

end Grammar

end Predictive
