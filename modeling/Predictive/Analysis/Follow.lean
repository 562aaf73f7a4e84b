import Predictive.Analysis.First
import Predictive.Event
import Predictive.Traced

/-!
# FOLLOW sets

FOLLOW of a symbol collects, over the places where the symbol occurs, FIRST of the next symbol, and
FOLLOW of the owner of the place where nothing or a nullable symbol comes next. A symbol that
occurs nowhere is followed by the end marker. The symbols whose FOLLOW sets are in progress stand
on a stack; one that is met again while it is there contributes nothing.
-/

namespace Predictive

/-- A place in a production of a grammar. -/
structure Occurrence where
  /-- The non-terminal of the production's rule. -/
  owner : Symbol
  production : Production
  /-- The index in the production. -/
  position : Nat
  deriving DecidableEq, Repr

namespace Occurrence

/-- The symbol after the place. -/
def next? (o : Occurrence) : Option Symbol := o.production.symbols[o.position + 1]?

end Occurrence

/-- The outcome of a union over a list is the union of the outcomes. -/
theorem outcome_unionOver {ω ε α : Type} (action : α → Traced ω ε SymbolSet) (l : List α) :
    (unionOver action l).outcome = unionOver (fun a => (action a).outcome) l := by
  induction l with
  | nil => rfl
  | cons a l ih => simp [unionOver, ih]

namespace Grammar

/-- The indices at which a symbol stands in a production. -/
def positions (s : Symbol) (p : Production) : List Nat :=
  (p.symbols.zipIdx.filter (·.1 = s)).map (·.2)

/-- The places where a symbol stands in the productions of a grammar, in order. -/
def occurrences (g : Grammar) (s : Symbol) : List Occurrence :=
  g.rules.flatMap fun r =>
    r.alternatives.flatMap fun p => (positions s p).map fun i => ⟨r.nonTerminal, p, i⟩

/-- A symbol that occurs somewhere is a symbol of the grammar. -/
theorem mem_symbols_of_occurrences_ne_nil {g : Grammar} {s : Symbol}
    (h : g.occurrences s ≠ []) : s ∈ g.symbols := by
  obtain ⟨o, h⟩ := List.exists_mem_of_ne_nil _ h
  simp only [occurrences, List.mem_flatMap, List.mem_map, positions, List.mem_filter,
    decide_eq_true_eq] at h
  obtain ⟨r, hr, p, hp, i, ⟨⟨t, k⟩, ⟨ht, hts⟩, -⟩, -⟩ := h
  refine mem_symbols.2 ⟨r, hr, List.mem_cons_of_mem _ (List.mem_flatMap.2 ⟨p, hp, ?_⟩)⟩
  have hm := List.fst_mem_of_mem_zipIdx ht
  simpa [← hts] using hm

set_option linter.unusedVariables false in
/-- FOLLOW of a symbol while the FOLLOW sets of the symbols on the stack are in progress. -/
def followFrom (g : Grammar) (stack : List Symbol) (s : Symbol) :
    Traced Event LeftRecursion SymbolSet :=
  if hp : s ∈ stack then do
    Traced.note (.followCycle s stack)
    return ∅
  else
    if ho : g.occurrences s = [] then return {endMarker}
    else
      unionOver (fun o => do
        match o.next? with
        | none =>
          -- What follows the symbol at the end of its own productions adds nothing.
          if o.owner = s then return ∅ else followFrom g (stack ++ [s]) o.owner
        | some next =>
          let nextFirst ← Traced.ofExcept (g.first next)
          -- The owner's followers come after a next symbol that may be empty.
          if epsilon ∈ nextFirst then
            return nextFirst.erase epsilon ∪ (← followFrom g (stack ++ [s]) o.owner)
          else return nextFirst) (g.occurrences s)
termination_by remaining g.symbols stack
decreasing_by
  -- A symbol that occurs is one of the grammar's, and this one joins the stack.
  all_goals
    exact remaining_lt (List.subset_append_left stack [s])
      (mem_symbols_of_occurrences_ne_nil ho) hp
      (List.mem_append_right stack List.mem_cons_self)

/-- FOLLOW of a symbol. -/
def follow (g : Grammar) (s : Symbol) : Traced Event LeftRecursion SymbolSet :=
  g.followFrom [] s

end Grammar

end Predictive
