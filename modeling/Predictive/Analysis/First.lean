import Predictive.Analysis.Remaining
import Predictive.Grammar.Basic
import Predictive.SymbolSet

/-!
# FIRST sets

FIRST of a terminal is the terminal; FIRST of a non-terminal joins the FIRST sets of the leading
symbols of its alternatives. A leading symbol that may derive the empty string does not bring in
the symbol after it. The sets of a grammar in which leading symbols form a cycle are not defined,
and asking for one that leads into such a cycle fails.
-/

namespace Predictive

/-- Following leading symbols came back to a symbol on the way. -/
inductive LeftRecursion where
  | leftRecursion
  deriving DecidableEq, Repr

/-- The union of the sets that an action gives for the members of a list, in order. -/
def unionOver {m : Type → Type} [Monad m] {α : Type} (action : α → m SymbolSet) :
    List α → m SymbolSet
  | [] => pure ∅
  | a :: rest => do
    let set ← action a
    let others ← unionOver action rest
    return set ∪ others

namespace Grammar

set_option linter.unusedVariables false in
/-- FIRST of a symbol that is reached along a path of leading symbols. -/
def firstFrom (g : Grammar) (path : List Symbol) (s : Symbol) :
    Except LeftRecursion SymbolSet :=
  -- A symbol met again on its own path would be met for ever.
  if hp : s ∈ path then .error .leftRecursion
  else
    match hr : g.rule? s with
    | none => .ok {s}
    | some rule => unionOver (fun p => firstFrom g (s :: path) p.lead) rule.alternatives
termination_by remaining g.leftSides path
decreasing_by
  -- A symbol with a rule is a left-hand side, and this one joins the path.
  exact remaining_lt (List.subset_cons_self s path) (mem_leftSides_of_rule? hr) hp
    List.mem_cons_self

/-- FIRST of a symbol. -/
def first (g : Grammar) (s : Symbol) : Except LeftRecursion SymbolSet :=
  g.firstFrom [] s

end Grammar

end Predictive
