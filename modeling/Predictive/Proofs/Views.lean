import Mathlib.Data.List.Basic
import Predictive.Grammar.Basic

/-!
# The views of a grammar

A grammar can be asked for the rule of a symbol, for its symbols, its non-terminals and its
terminals, and for the table of its alternatives. Each of these views goes through the rules in its
own way, and symbols may have several rules. Main statement: the views agree (`views_agree`).
They have the same non-terminals with the same alternatives; the table lists them by their last
rules, the latest first, and the other lists are in the order in which symbols first appear when the
rules are read.

What is listed once keeps the order of first places (`idxOf_eraseDups_lt_iff`): that of the rules
for the symbols, and that of the rules from the last to the first for the table.
-/

namespace Predictive

variable {x y : Symbol}

/-- Repetitions are left out. -/
theorem nodup_eraseDups (l : List Symbol) : l.eraseDups.Nodup := by
  induction hn : l.length using Nat.strongRecOn generalizing l with
  | ind n ih =>
    cases l with
    | nil => exact List.nodup_nil
    | cons s l =>
      rw [List.eraseDups_cons, List.nodup_cons]
      refine ⟨by simp, ih _ ?_ _ rfl⟩
      rw [← hn]
      exact Nat.lt_succ_of_le (List.length_filter_le _ _)

/-- Leaving out other symbols does not change which of two symbols comes first. -/
theorem idxOf_filter_lt_iff {p : Symbol → Bool} (hx : p x = true) (hy : p y = true)
    (l : List Symbol) :
    (l.filter p).idxOf x < (l.filter p).idxOf y ↔ l.idxOf x < l.idxOf y := by
  induction l with
  | nil => simp
  | cons s l ih =>
    by_cases hs : p s = true
    · rw [List.filter_cons_of_pos hs]
      simp only [List.idxOf_cons]
      grind
    · have hsx : s ≠ x := fun h => hs (h ▸ hx)
      have hsy : s ≠ y := fun h => hs (h ▸ hy)
      rw [List.filter_cons_of_neg hs, ih, List.idxOf_cons_ne _ hsx, List.idxOf_cons_ne _ hsy,
        Nat.succ_lt_succ_iff]

/-- Leaving out repetitions does not change which of two symbols comes first. -/
theorem idxOf_eraseDups_lt_iff (x y : Symbol) (l : List Symbol) :
    l.eraseDups.idxOf x < l.eraseDups.idxOf y ↔ l.idxOf x < l.idxOf y := by
  induction hn : l.length using Nat.strongRecOn generalizing l with
  | ind n ih =>
    cases l with
    | nil => simp
    | cons s l =>
      rw [List.eraseDups_cons]
      by_cases hx : s = x
      · -- The head comes before every other symbol.
        subst hx
        by_cases hy : s = y
        · simp [hy]
        · simp [List.idxOf_cons_ne _ hy]
      by_cases hy : s = y
      · subst hy
        simp
      · have hlt : (l.filter fun b => !b == s).length < n := by
          rw [← hn]
          exact Nat.lt_succ_of_le (List.length_filter_le _ _)
        rw [List.idxOf_cons_ne _ hx, List.idxOf_cons_ne _ hx, List.idxOf_cons_ne _ hy,
          List.idxOf_cons_ne _ hy, Nat.succ_lt_succ_iff, Nat.succ_lt_succ_iff, ih _ hlt _ rfl]
        exact idxOf_filter_lt_iff (by simpa using Ne.symm hx) (by simpa using Ne.symm hy) l

namespace Grammar

/-- The symbols in the order in which they are read, rule by rule, with their repetitions. -/
def reading (g : Grammar) : List Symbol := g.rules.flatMap Rule.symbols

/-- The symbols that the table has alternatives for, in its order. -/
def keys (g : Grammar) : List Symbol := g.table.map Prod.fst

/-- The last rule of a symbol is the one at index `i`. -/
def LastRuleAt (g : Grammar) (s : Symbol) (i : Nat) : Prop :=
  g.leftSides[i]? = some s ∧ ∀ j, i < j → g.leftSides[j]? ≠ some s

/-- The ways to look at a grammar agree with each other. -/
structure ViewsAgree (g : Grammar) : Prop where
  /-- The non-terminals are the symbols for which a look-up finds a rule. -/
  isNonTerminal_iff_rule? : ∀ s, g.isNonTerminal s = true ↔ ∃ r, g.rule? s = some r
  /-- They are the symbols that the table knows. -/
  isNonTerminal_iff_mem_keys : ∀ s, g.isNonTerminal s = true ↔ s ∈ g.keys
  /-- They are the symbols that are listed as non-terminals. -/
  isNonTerminal_iff_mem_nonTerminals : ∀ s, g.isNonTerminal s = true ↔ s ∈ g.nonTerminals
  /-- The table has the alternatives of the rule that a look-up finds. -/
  get?_table : ∀ s, Table.get? s g.table = (g.rule? s).map Rule.alternatives
  /-- The table has one entry for each of its symbols. -/
  nodup_keys : g.keys.Nodup
  /-- Of two symbols, the table has the one first whose last rule is the later. -/
  keys_order : ∀ s ∈ g.keys, ∀ t ∈ g.keys, g.keys.idxOf s < g.keys.idxOf t ↔
    ∃ i j, g.LastRuleAt s i ∧ g.LastRuleAt t j ∧ j < i
  /-- Each symbol is listed once. -/
  nodup_symbols : g.symbols.Nodup
  /-- The symbols are those on either side of a rule. -/
  mem_symbols_iff : ∀ s, s ∈ g.symbols ↔
    s ∈ g.leftSides ∨ ∃ r ∈ g.rules, ∃ p ∈ r.alternatives, s ∈ p.symbols
  /-- Of two symbols, the one that is read first is listed first. -/
  symbols_order : ∀ s t, g.symbols.idxOf s < g.symbols.idxOf t ↔
    g.reading.idxOf s < g.reading.idxOf t
  /-- The non-terminals are listed in the order of the symbols. -/
  nonTerminals_sublist : g.nonTerminals.Sublist g.symbols
  /-- The terminals are listed in the order of the symbols. -/
  terminals_sublist : g.terminals.Sublist g.symbols
  /-- No symbol is listed as both. -/
  notMem_terminals : ∀ s ∈ g.nonTerminals, s ∉ g.terminals
  /-- Every symbol is listed as one of the two. -/
  mem_symbols_iff_or : ∀ s, s ∈ g.symbols ↔ s ∈ g.nonTerminals ∨ s ∈ g.terminals

variable {g : Grammar} {s t : Symbol} {r : Rule} {i j : Nat}

/-! ## Look-ups and lists -/

/-- The non-terminals are the left-hand sides of the rules. -/
theorem mem_nonTerminals_iff : s ∈ g.nonTerminals ↔ ∃ r ∈ g.rules, r.nonTerminal = s := by
  rw [nonTerminals, List.mem_filter, isNonTerminal, Bool.not_eq_true', isTerminal_eq_false_iff]
  constructor
  · exact fun h => h.2
  · rintro ⟨r, hr, rfl⟩
    exact ⟨nonTerminal_mem_symbols hr, r, hr, rfl⟩

/-- A symbol with a first rule is one of the grammar's non-terminals. -/
theorem mem_nonTerminals_of_rule? (hr : g.rule? s = some r) : s ∈ g.nonTerminals :=
  mem_nonTerminals_iff.2 ⟨r, of_rule?_eq_some hr⟩

/-- A symbol is a non-terminal exactly when a look-up finds a rule. -/
theorem exists_rule?_of_mem_nonTerminals (h : s ∈ g.nonTerminals) : ∃ r, g.rule? s = some r := by
  obtain ⟨r, hr, hs⟩ := mem_nonTerminals_iff.1 h
  exact Option.isSome_iff_exists.1 (List.find?_isSome.2 ⟨r, hr, decide_eq_true hs⟩)

/-- Each non-terminal is listed once. -/
theorem nodup_nonTerminals (g : Grammar) : g.nonTerminals.Nodup :=
  (nodup_eraseDups _).filter _

/-- A symbol is a non-terminal exactly when it is listed as one. -/
theorem isNonTerminal_iff_mem_nonTerminals :
    g.isNonTerminal s = true ↔ s ∈ g.nonTerminals := by
  rw [mem_nonTerminals_iff, isNonTerminal, Bool.not_eq_true', isTerminal_eq_false_iff]

/-! ## The table -/

/-- The table has the alternatives of the rule that a look-up finds. -/
theorem get?_table (g : Grammar) (s : Symbol) :
    Table.get? s g.table = (g.rule? s).map Rule.alternatives := by
  obtain ⟨rules⟩ := g
  simp only [table, rule?]
  -- The first rule is entered last, over what later rules of its symbol have put there.
  induction rules with
  | nil => rfl
  | cons r rules ih =>
    rw [List.foldr_cons, List.find?_cons]
    by_cases hr : r.nonTerminal = s
    · rw [← hr, Table.get?_put_self]
      simp
    · rw [Table.get?_put_of_ne (Ne.symm hr), ih]
      simp [hr]

/-- The table lists the left-hand sides from the last to the first, each once. -/
theorem keys_eq (g : Grammar) : g.keys = g.leftSides.reverse.eraseDups := by
  obtain ⟨rules⟩ := g
  simp only [keys, table, leftSides]
  induction rules with
  | nil => rfl
  | cons r rules ih =>
    rw [List.foldr_cons, List.map_cons, List.reverse_cons, List.eraseDups_append, ← ih]
    by_cases hr : r.nonTerminal ∈ (rules.map Rule.nonTerminal).reverse
    · have hnone : [r.nonTerminal].removeAll (rules.map Rule.nonTerminal).reverse = [] := by
        rw [List.removeAll, List.filter_cons_of_neg (by simpa using hr), List.filter_nil]
      rw [Table.keys_put_of_mem (by rwa [ih, List.mem_eraseDups]), hnone, List.eraseDups_nil,
        List.append_nil]
    · have hone : [r.nonTerminal].removeAll (rules.map Rule.nonTerminal).reverse =
          [r.nonTerminal] := by
        rw [List.removeAll, List.filter_cons_of_pos (by simpa using hr), List.filter_nil]
      rw [Table.keys_put_of_not_mem (by rwa [ih, List.mem_eraseDups]), hone]
      rfl

/-- The table knows the symbols with a rule. -/
theorem mem_keys_iff : s ∈ g.keys ↔ s ∈ g.leftSides := by
  rw [keys_eq, List.mem_eraseDups, List.mem_reverse]

/-- No rule of the symbol comes after its last one. -/
theorem lastRuleAt_iff :
    g.LastRuleAt s i ↔ ∃ earlier later, g.leftSides = earlier ++ s :: later ∧
      earlier.length = i ∧ s ∉ later := by
  constructor
  · rintro ⟨hi, hlast⟩
    obtain ⟨hlt, hget⟩ := List.getElem?_eq_some_iff.1 hi
    refine ⟨g.leftSides.take i, g.leftSides.drop (i + 1), ?_, ?_, fun hmem => ?_⟩
    · rw [← hget, ← List.drop_eq_getElem_cons hlt, List.take_append_drop]
    · exact List.length_take_of_le (Nat.le_of_lt hlt)
    · obtain ⟨j, hj⟩ := List.mem_iff_getElem?.1 hmem
      rw [List.getElem?_drop] at hj
      exact hlast (i + 1 + j) (by omega) hj
  · rintro ⟨earlier, later, hsides, rfl, hnot⟩
    rw [LastRuleAt, hsides]
    refine ⟨by simp, fun j hj hget => hnot ?_⟩
    obtain ⟨k, rfl⟩ := Nat.exists_eq_add_of_lt hj
    rw [Nat.add_assoc, List.getElem?_append_right (Nat.le_add_right _ _), Nat.add_sub_cancel_left,
      List.getElem?_cons_succ] at hget
    exact List.mem_of_getElem? hget

/-- A symbol with a rule has a last one. -/
theorem exists_lastRuleAt (h : s ∈ g.leftSides) : ∃ i, g.LastRuleAt s i := by
  obtain ⟨later, earlier, hsplit, hnot⟩ := List.eq_append_cons_of_mem (List.mem_reverse.2 h)
  have hsides : g.leftSides = earlier.reverse ++ s :: later.reverse := by
    rw [← List.reverse_reverse g.leftSides, hsplit]
    simp
  exact ⟨_, lastRuleAt_iff.2 ⟨_, _, hsides, rfl, by rwa [List.mem_reverse]⟩⟩

/-- Seen from the end, the last rule of a symbol is the first. -/
theorem LastRuleAt.idxOf_reverse (h : g.LastRuleAt s i) :
    g.leftSides.reverse.idxOf s + i + 1 = g.leftSides.length := by
  obtain ⟨earlier, later, hsides, rfl, hnot⟩ := lastRuleAt_iff.1 h
  have hreverse : g.leftSides.reverse = later.reverse ++ s :: earlier.reverse := by
    rw [hsides]
    simp
  rw [hreverse, List.idxOf_append_of_notMem (by rwa [List.mem_reverse]), List.idxOf_cons_self,
    hsides]
  simp only [List.length_reverse, List.length_append, List.length_cons]
  omega

/-- Of two symbols, the table has the one first whose last rule is the later. -/
theorem idxOf_keys_lt_iff (hs : s ∈ g.keys) (ht : t ∈ g.keys) :
    g.keys.idxOf s < g.keys.idxOf t ↔
      ∃ i j, g.LastRuleAt s i ∧ g.LastRuleAt t j ∧ j < i := by
  rw [keys_eq, idxOf_eraseDups_lt_iff]
  constructor
  · intro hlt
    obtain ⟨i, hi⟩ := exists_lastRuleAt (mem_keys_iff.1 hs)
    obtain ⟨j, hj⟩ := exists_lastRuleAt (mem_keys_iff.1 ht)
    have hi' := hi.idxOf_reverse
    have hj' := hj.idxOf_reverse
    exact ⟨i, j, hi, hj, by omega⟩
  · rintro ⟨i, j, hi, hj, hlt⟩
    have hi' := hi.idxOf_reverse
    have hj' := hj.idxOf_reverse
    omega

/-! ## Agreement -/

/-- The views of a grammar agree with each other, whatever rules its symbols have. -/
theorem views_agree (g : Grammar) : g.ViewsAgree where
  isNonTerminal_iff_rule? s := by
    rw [isNonTerminal_iff_mem_nonTerminals]
    exact ⟨exists_rule?_of_mem_nonTerminals, fun ⟨_, hr⟩ => mem_nonTerminals_of_rule? hr⟩
  isNonTerminal_iff_mem_keys s := by
    rw [isNonTerminal_iff_mem_nonTerminals, mem_nonTerminals_iff, mem_keys_iff, leftSides,
      List.mem_map]
  isNonTerminal_iff_mem_nonTerminals _ := isNonTerminal_iff_mem_nonTerminals
  get?_table := g.get?_table
  nodup_keys := g.keys_eq ▸ nodup_eraseDups _
  keys_order _ hs _ ht := idxOf_keys_lt_iff hs ht
  nodup_symbols := nodup_eraseDups _
  mem_symbols_iff s := by
    rw [mem_symbols, leftSides, List.mem_map, ← exists_or]
    refine exists_congr fun r => ?_
    rw [Rule.symbols, List.mem_cons, List.mem_flatMap, ← and_or_left, eq_comm]
  symbols_order s t := idxOf_eraseDups_lt_iff s t g.reading
  nonTerminals_sublist := List.filter_sublist
  terminals_sublist := List.filter_sublist
  notMem_terminals s hs ht := by
    have hterminal : g.isTerminal s = false := by
      rw [isTerminal_eq_false_iff, ← mem_nonTerminals_iff]
      exact hs
    rw [terminals, List.mem_filter, hterminal] at ht
    cases ht.2
  mem_symbols_iff_or s := by
    rw [nonTerminals, terminals, List.mem_filter, List.mem_filter, isNonTerminal]
    cases g.isTerminal s <;> simp

-- `A` has its alternatives from the first of its rules and its place in the table from the last.
example :
    let g : Grammar := ⟨[⟨"A", [⟨"b", ["A"]⟩], "", by simp⟩, ⟨"B", [⟨"c", []⟩], "", by simp⟩,
      ⟨"A", [⟨"B", []⟩], "", by simp⟩]⟩
    g.table = [("A", [⟨"b", ["A"]⟩]), ("B", [⟨"c", []⟩])] ∧ g.symbols = ["A", "b", "B", "c"] ∧
      g.nonTerminals = ["A", "B"] ∧ g.terminals = ["b", "c"] := by
  decide

end Grammar

end Predictive
