import Predictive.Analysis.Follow

/-!
# Selection sets

An alternative is selected by the terminals that may come first when it is taken: FIRST of its
leading symbol, and FOLLOW of the non-terminal too if that symbol is nullable. The token for the
empty string stays in the set. An alternative can be chosen by the next token when the selection
sets of its rule have no common members.
-/

namespace Predictive

/-- Whether no symbol is in two of the sets or in a set and among the symbols seen before. -/
def disjointBeyond (seen : SymbolSet) : List SymbolSet → Bool
  | [] => true
  | set :: rest => set.disjointFrom seen && disjointBeyond (seen ∪ set) rest

/-- Whether no symbol is in two of the sets. -/
def allDisjoint (sets : List SymbolSet) : Bool := disjointBeyond ∅ sets

namespace Grammar

/-- The selection set of an alternative of a non-terminal. -/
def selectionSet (g : Grammar) (nonTerminal : Symbol) (p : Production) :
    Traced Event LeftRecursion SymbolSet := do
  let leadFirst ← Traced.ofExcept (g.first p.lead)
  -- FOLLOW is asked for only where the alternative may be empty.
  if epsilon ∈ leadFirst then return leadFirst ∪ (← g.follow nonTerminal)
  else return leadFirst

/-- The selection sets of a rule's alternatives, in order. -/
def ruleSelectionSets (g : Grammar) (r : Rule) :
    Traced Event LeftRecursion (List SymbolSet) :=
  r.alternatives.mapM (g.selectionSet r.nonTerminal)

/-- The selection sets of the alternatives of a symbol's first rule; a terminal has none. -/
def selectionSets (g : Grammar) (s : Symbol) : Traced Event LeftRecursion (List SymbolSet) :=
  match g.rule? s with
  | none => return []
  | some r => g.ruleSelectionSets r

/-- The selection sets of a symbol next to the alternatives that they select. -/
def choices (g : Grammar) (s : Symbol) :
    Traced Event LeftRecursion (List (SymbolSet × Production)) :=
  match g.rule? s with
  | none => return []
  | some r => return (← g.ruleSelectionSets r).zip r.alternatives

end Grammar

end Predictive
