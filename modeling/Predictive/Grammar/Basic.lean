import Predictive.Symbol
import Predictive.Table

/-!
# Grammars

A grammar is a list of rules. A symbol may have several rules; look-ups see the first one, and the
lists of rules and symbols see all of them. Main statements: a symbol has a rule exactly when it is
no terminal (`isTerminal_eq_false_iff`), and it then is one of the grammar's symbols
(`nonTerminal_mem_symbols`).
-/

namespace Predictive

/-- An alternative of a rule: a symbol and those after it. -/
structure Production where
  /-- The leading symbol. -/
  lead : Symbol
  /-- The symbols after it. -/
  rest : List Symbol
  deriving DecidableEq, Repr, Inhabited

namespace Production

/-- The symbols, in order. -/
def symbols (p : Production) : List Symbol := p.lead :: p.rest

/-- The production with these symbols, of which there must be one. -/
def ofSymbols? : List Symbol → Option Production
  | [] => none
  | lead :: rest => some ⟨lead, rest⟩

/-- The symbol at an index, counted from the end if the index is negative. -/
def at? (p : Production) (index : Int) : Option Symbol :=
  -- An index that is too negative must not wrap around to the start.
  let place := if index < 0 then index + p.symbols.length else index
  if place < 0 then none else p.symbols[place.toNat]?

theorem ofSymbols?_symbols (p : Production) : ofSymbols? p.symbols = some p := rfl

theorem ofSymbols?_eq_some_iff {l : List Symbol} {p : Production} :
    ofSymbols? l = some p ↔ l = p.symbols := by
  cases l with
  | nil => simp [ofSymbols?, symbols]
  | cons s l =>
    cases p
    simp [ofSymbols?, symbols]

end Production

/-- A non-terminal with its alternatives, of which there is one at least, and the line that the
rule was read from. -/
structure Rule where
  nonTerminal : Symbol
  alternatives : List Production
  line : String := ""
  alternatives_ne_nil : alternatives ≠ []
  deriving DecidableEq

namespace Rule

/-- What the rule says, without the line that it was read from. -/
def definition (r : Rule) : Symbol × List Production := (r.nonTerminal, r.alternatives)

/-- Whether two rules say the same, whatever lines they were read from. -/
def agrees (a b : Rule) : Bool := a.definition = b.definition

/-- The non-terminal and then the symbols of the alternatives, in order. -/
def symbols (r : Rule) : List Symbol :=
  r.nonTerminal :: r.alternatives.flatMap Production.symbols

end Rule

/-- The rules, in order. -/
structure Grammar where
  rules : List Rule
  deriving DecidableEq

namespace Grammar

/-- Whether two grammars say the same, whatever lines they were read from. -/
def agrees (g h : Grammar) : Bool :=
  g.rules.map Rule.definition = h.rules.map Rule.definition

/-- The first rule of a symbol. -/
def rule? (g : Grammar) (s : Symbol) : Option Rule :=
  g.rules.find? (·.nonTerminal = s)

/-- A terminal is a symbol without a rule, whether or not the grammar holds it. -/
def isTerminal (g : Grammar) (s : Symbol) : Bool :=
  g.rules.all (·.nonTerminal ≠ s)

/-- A non-terminal is a symbol with a rule. -/
def isNonTerminal (g : Grammar) (s : Symbol) : Bool :=
  !g.isTerminal s

/-- The left-hand sides of the rules, in order. -/
def leftSides (g : Grammar) : List Symbol :=
  g.rules.map Rule.nonTerminal

/-- The symbols of the rules, each once, in the order of their first appearance. -/
def symbols (g : Grammar) : List Symbol :=
  (g.rules.flatMap Rule.symbols).eraseDups

/-- The symbols with a rule, in the order of their first appearance. -/
def nonTerminals (g : Grammar) : List Symbol :=
  g.symbols.filter g.isNonTerminal

/-- The symbols without a rule, in the order of their first appearance. -/
def terminals (g : Grammar) : List Symbol :=
  g.symbols.filter g.isTerminal

/-- The alternatives of each non-terminal, entered from the last rule to the first, so that the
first rule of a non-terminal prevails and its last rule gives its place. -/
def table (g : Grammar) : List (Symbol × List Production) :=
  g.rules.foldr (fun r entries => Table.put r.nonTerminal r.alternatives entries) []

theorem rule?_eq_none_iff {g : Grammar} {s : Symbol} :
    g.rule? s = none ↔ g.isTerminal s = true := by
  simp [rule?, isTerminal]

theorem isTerminal_eq_false_iff {g : Grammar} {s : Symbol} :
    g.isTerminal s = false ↔ ∃ r ∈ g.rules, r.nonTerminal = s := by
  simp [isTerminal]

/-- The rule that a look-up finds is a rule of the symbol. -/
theorem of_rule?_eq_some {g : Grammar} {s : Symbol} {r : Rule} (h : g.rule? s = some r) :
    r ∈ g.rules ∧ r.nonTerminal = s :=
  ⟨List.mem_of_find?_eq_some h, by simpa using List.find?_some h⟩

theorem mem_leftSides_of_rule? {g : Grammar} {s : Symbol} {r : Rule} (h : g.rule? s = some r) :
    s ∈ g.leftSides :=
  List.mem_map.2 ⟨r, of_rule?_eq_some h⟩

/-- The symbols of a grammar are those of its rules. -/
theorem mem_symbols {g : Grammar} {s : Symbol} :
    s ∈ g.symbols ↔ ∃ r ∈ g.rules, s ∈ r.symbols := by
  simp [symbols]

/-- A left-hand side is one of the grammar's symbols. -/
theorem nonTerminal_mem_symbols {g : Grammar} {r : Rule} (h : r ∈ g.rules) :
    r.nonTerminal ∈ g.symbols :=
  mem_symbols.2 ⟨r, h, List.mem_cons_self⟩

end Grammar

end Predictive
