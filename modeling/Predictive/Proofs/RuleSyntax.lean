import Mathlib.Data.List.Chain
import Predictive.Proofs.RuleLines

/-!
# The syntax of rules

Which lines are read as rules is said here without regard to how they are read: one word stands
before the first mark, and bars divide the words after it into alternatives, none of which is empty.
Main statement: exactly these lines are read, any other line is refused for the first thing that is
wrong with it, and what is read of a line has all of its words, in order (`ofLine_syntax`).
-/

namespace Predictive

open Text

/-- The first mark of a line stands between two texts. -/
structure Divided (line left right : String) : Prop where
  /-- The mark stands between the texts. -/
  eq_append : line = left ++ ruleMark ++ right
  /-- No mark stands in the first text. -/
  first : ¬ ruleMark.toList <:+: left.toList

/-- Bars divide words into alternatives that are not empty. -/
structure Alternating (tokens : List Symbol) : Prop where
  /-- There is a word. -/
  ne_nil : tokens ≠ []
  /-- No bar comes first. -/
  head_ne : tokens.head? ≠ some bar
  /-- No bar comes last. -/
  last_ne : tokens.getLast? ≠ some bar
  /-- No bar comes right after a bar. -/
  isChain : tokens.IsChain fun a b => ¬ (a = bar ∧ b = bar)

/-- What is wrong with a line that is no rule. -/
inductive LineFault (line : String) : GrammarError → Prop where
  /-- There is no mark. -/
  | unseparated (h : ¬ ruleMark.toList <:+: line.toList) : LineFault line (.unseparated line)
  /-- It is not one word that stands before the first mark. -/
  | leftSide {left right : String} (h : Divided line left right)
      (hleft : ∀ nonTerminal, words left ≠ [nonTerminal]) : LineFault line (.leftSide line)
  /-- There are no words after the first mark. -/
  | emptyRightSide {left right : String} {nonTerminal : Symbol} (h : Divided line left right)
      (hleft : words left = [nonTerminal]) (hright : words right = []) :
      LineFault line (.emptyRightSide nonTerminal line)
  /-- Of the words after the first mark, a bar is the first or the last or comes right after a
  bar. -/
  | emptyAlternative {left right : String} {nonTerminal : Symbol} (h : Divided line left right)
      (hleft : words left = [nonTerminal]) (hne : words right ≠ [])
      (hbars : ¬ Alternating (words right)) : LineFault line (.emptyAlternative nonTerminal line)

/-- A rule has all words of its line. -/
structure Retains (line : String) (r : Rule) : Prop where
  /-- The rule keeps the line. -/
  line_eq : r.line = line
  /-- The non-terminal is the word before the first mark, and the symbols of the alternatives, with
  a bar between any two alternatives, are the words after it. -/
  exists_divided : ∃ left right, Divided line left right ∧ words left = [r.nonTerminal] ∧
    words right = [bar].intercalate (r.alternatives.map Production.symbols)
  /-- No alternative is empty. -/
  symbols_ne_nil : ∀ p ∈ r.alternatives, p.symbols ≠ []
  /-- No symbol of an alternative is the bar or has a blank. -/
  symbols_clear : ∀ p ∈ r.alternatives, ∀ s ∈ p.symbols, s ≠ bar ∧ NoBlanks s.toList

variable {line left right : String} {tokens : List Symbol} {r : Rule} {e : GrammarError}

/-! ## Sides of a line -/

/-- No mark stands across the end of a text and the start of a mark. -/
theorem not_ruleMark_infix_append (h : ¬ ruleMark.toList <:+: left.toList) :
    ¬ ruleMark.toList <:+: left.toList ++ ruleMark.toList.dropLast := by
  have hmark : ruleMark.toList = [':', ':', '='] := rfl
  have hends : ∀ cs, ¬ ruleMark.toList <:+ cs ++ [':'] := by
    intro cs hsuffix
    -- A mark ends in another character.
    rcases List.suffix_concat_iff.1 hsuffix with hnil | ⟨start, hstart, -⟩
    · exact absurd hnil (by decide)
    · have hlast := congrArg List.getLast? hstart
      rw [List.getLast?_concat, hmark] at hlast
      exact absurd hlast (by decide)
  have hdrop : left.toList ++ ruleMark.toList.dropLast = left.toList ++ [':'] ++ [':'] := by
    rw [List.append_assoc]
    rfl
  rw [hdrop, List.infix_concat_iff, List.infix_concat_iff]
  rintro (hsuffix | hsuffix | hpart)
  · exact hends _ hsuffix
  · exact hends _ hsuffix
  · exact h hpart

/-- A line is cut at its first mark. -/
theorem cut_ruleMark_eq_some_iff :
    cut ruleMark line = some (left, right) ↔ Divided line left right := by
  constructor
  · intro h
    rw [cut, Option.map_eq_some_iff] at h
    obtain ⟨⟨before, after⟩, hcut, hsides⟩ := h
    obtain ⟨rfl, rfl⟩ := Prod.mk.inj hsides
    constructor
    · rw [← String.toList_inj, eq_of_cutAtFirst hcut]
      simp
    · rw [String.toList_ofList]
      exact not_isInfix_of_cutAtFirst (by decide) hcut
  · rintro ⟨rfl, hfirst⟩
    rw [cut, String.toList_append, String.toList_append,
      cutAtFirst_of_not_isInfix (by decide) (not_ruleMark_infix_append hfirst)]
    simp

/-- A line is cut unless no mark stands in it. -/
theorem cut_ruleMark_eq_none_iff :
    cut ruleMark line = none ↔ ¬ ruleMark.toList <:+: line.toList := by
  rw [cut, Option.map_eq_none_iff, cutAtFirst_eq_none_iff]

/-- The sides of a line are the words of the texts that its first mark divides. -/
theorem lineSides_eq_some_iff {before after : List Symbol} :
    lineSides line = some (before, after) ↔
      ∃ left right, Divided line left right ∧ words left = before ∧ words right = after := by
  simp only [lineSides, Option.map_eq_some_iff, Prod.exists, cut_ruleMark_eq_some_iff,
    Prod.mk.injEq]

/-! ## Bars -/

/-- The first piece is empty exactly where nothing or a bar comes first. -/
theorem head?_pieces_eq_nil_iff :
    (pieces bar tokens).head? = some [] ↔ tokens = [] ∨ tokens.head? = some bar := by
  cases tokens with
  | nil => simp [pieces]
  | cons token tokens =>
    obtain ⟨first, later, hpieces⟩ := List.exists_cons_of_ne_nil (pieces_ne_nil bar tokens)
    by_cases htoken : token = bar
    · simp [pieces, htoken]
    · simp [pieces, hpieces, htoken]

/-- No piece is empty exactly where neither the first nor a later one is. -/
theorem nil_notMem_pieces_iff_tail :
    [] ∉ pieces bar tokens ↔
      (tokens ≠ [] ∧ tokens.head? ≠ some bar) ∧ [] ∉ (pieces bar tokens).tail := by
  rw [← not_or, ← head?_pieces_eq_nil_iff]
  obtain ⟨first, later, hpieces⟩ := List.exists_cons_of_ne_nil (pieces_ne_nil bar tokens)
  rw [hpieces, List.mem_cons, not_or, List.head?_cons, List.tail_cons, Option.some.injEq]
  exact and_congr_left fun _ => not_congr eq_comm

/-- No piece after the first is empty exactly where no bar comes last or right after a bar. -/
theorem nil_notMem_tail_pieces_iff :
    [] ∉ (pieces bar tokens).tail ↔
      tokens.getLast? ≠ some bar ∧ tokens.IsChain fun a b => ¬ (a = bar ∧ b = bar) := by
  induction tokens with
  | nil => simp [pieces]
  | cons token tokens ih =>
    rw [List.isChain_cons]
    by_cases htoken : token = bar
    · -- The pieces after the first are those of what comes after the bar.
      have htail : (pieces bar (token :: tokens)).tail = pieces bar tokens := by
        rw [pieces, if_pos htoken, List.tail_cons]
      rw [htail, nil_notMem_pieces_iff_tail, ih, htoken]
      cases tokens with
      | nil => simp
      | cons next tokens =>
        rw [List.getLast?_cons_cons]
        simp only [List.head?_cons, Option.mem_some_iff, forall_eq']
        grind
    · have htail : (pieces bar (token :: tokens)).tail = (pieces bar tokens).tail := by
        obtain ⟨first, later, hpieces⟩ := List.exists_cons_of_ne_nil (pieces_ne_nil bar tokens)
        rw [pieces, if_neg htoken, hpieces]
        rfl
      rw [htail, ih]
      cases tokens with
      | nil => simp [htoken]
      | cons next tokens => simp [List.getLast?_cons_cons, htoken]

/-- No piece is empty exactly where bars divide the words into alternatives that are not empty. -/
theorem nil_notMem_pieces_iff : [] ∉ pieces bar tokens ↔ Alternating tokens := by
  rw [nil_notMem_pieces_iff_tail, nil_notMem_tail_pieces_iff]
  exact ⟨fun ⟨⟨hne, hhead⟩, hlast, hchain⟩ => ⟨hne, hhead, hlast, hchain⟩,
    fun h => ⟨⟨h.ne_nil, h.head_ne⟩, h.last_ne, h.isChain⟩⟩

/-- Lists of symbols are all productions exactly where none of them is empty. -/
theorem exists_eq_map_symbols_iff {lists : List (List Symbol)} :
    (∃ ps : List Production, lists = ps.map Production.symbols) ↔ [] ∉ lists := by
  constructor
  · rintro ⟨ps, rfl⟩ hmem
    obtain ⟨p, -, hp⟩ := List.mem_map.1 hmem
    exact List.cons_ne_nil p.lead p.rest hp
  · intro h
    induction lists with
    | nil => exact ⟨[], rfl⟩
    | cons list lists ih =>
      obtain ⟨hlist, hlists⟩ := not_or.1 (List.mem_cons.not.1 h)
      obtain ⟨ps, rfl⟩ := ih hlists
      obtain ⟨lead, rest, rfl⟩ := List.exists_cons_of_ne_nil (Ne.symm hlist)
      exact ⟨⟨lead, rest⟩ :: ps, rfl⟩

/-! ## Lines that are read -/

/-- A line says something exactly when one word stands before its first mark and bars divide the
words after it into alternatives that are not empty. -/
theorem exists_says_iff :
    (∃ definition, Says line definition) ↔
      ∃ left right nonTerminal, Divided line left right ∧ words left = [nonTerminal] ∧
        Alternating (words right) := by
  simp only [Says, lineSides_eq_some_iff, ← nil_notMem_pieces_iff, ← exists_eq_map_symbols_iff,
    Prod.exists]
  constructor
  · rintro ⟨nonTerminal, ps, tokens, ⟨left, right, h, hleft, rfl⟩, hpieces⟩
    exact ⟨left, right, nonTerminal, h, hleft, ps, hpieces⟩
  · rintro ⟨left, right, nonTerminal, h, hleft, ps, hpieces⟩
    exact ⟨nonTerminal, ps, words right, ⟨left, right, h, hleft, rfl⟩, hpieces⟩

/-- A rule has all words of a line that says what the rule says. -/
theorem retains_of_says (hline : r.line = line) (h : Says line r.definition) : Retains line r := by
  obtain ⟨tokens, hsides, hpieces⟩ := h
  obtain ⟨left, right, hdivided, hleft, rfl⟩ := lineSides_eq_some_iff.1 hsides
  refine ⟨hline, ⟨left, right, hdivided, hleft, ?_⟩, fun p _ => List.cons_ne_nil p.lead p.rest,
    fun p hp s hs => ?_⟩
  · rw [← intercalate_pieces bar (words right), hpieces]
    rfl
  · have hpiece : p.symbols ∈ pieces bar (words right) := by
      rw [hpieces]
      exact List.mem_map_of_mem hp
    constructor
    · rintro rfl
      exact not_mem_of_mem_pieces hpiece hs
    · have hword : s ∈ words right := subset_of_mem_pieces hpiece hs
      rw [words, List.mem_map] at hword
      obtain ⟨word, hword, rfl⟩ := hword
      rw [String.toList_ofList]
      exact not_isBlank_of_mem_splitWords hword

/-! ## Lines that are refused -/

/-- A list of lists is not one of productions exactly where one of the lists is empty. -/
theorem mapM_ofSymbols?_eq_none_iff {lists : List (List Symbol)} :
    lists.mapM Production.ofSymbols? = none ↔ [] ∈ lists := by
  rw [← not_iff_not, ← exists_eq_map_symbols_iff, ← Ne, Option.ne_none_iff_exists']
  simp only [mapM_ofSymbols?_eq_some_iff]

/-- A line that has a fault is refused for it. -/
theorem LineFault.ofLine_eq (h : LineFault line e) : Rule.ofLine line = .error e := by
  cases h with
  | unseparated h => rw [Rule.ofLine, cut_ruleMark_eq_none_iff.2 h]
  | leftSide h hleft =>
    -- The side condition of the last case, that no other one applies, is `hleft`.
    simp only [Rule.ofLine, cut_ruleMark_eq_some_iff.2 h]
  | emptyRightSide h hleft hright =>
    simp only [Rule.ofLine, cut_ruleMark_eq_some_iff.2 h, hleft, hright]
  | emptyAlternative h hleft hne hbars =>
    have hnone := mapM_ofSymbols?_eq_none_iff.2 (not_not.1 (nil_notMem_pieces_iff.not.2 hbars))
    obtain ⟨token, tokens, hright⟩ := List.exists_cons_of_ne_nil hne
    rw [hright] at hnone
    simp only [Rule.ofLine, cut_ruleMark_eq_some_iff.2 h, hleft, hright, hnone]

/-- A line that says nothing has a fault. -/
theorem exists_lineFault_of_not_says (h : ¬ ∃ definition, Says line definition) :
    ∃ e, LineFault line e := by
  cases hcut : cut ruleMark line with
  | none => exact ⟨_, .unseparated (cut_ruleMark_eq_none_iff.1 hcut)⟩
  | some sides =>
    obtain ⟨left, right⟩ := sides
    have hdivided : Divided line left right := cut_ruleMark_eq_some_iff.1 hcut
    by_cases hleft : ∃ nonTerminal, words left = [nonTerminal]
    · obtain ⟨nonTerminal, hleft⟩ := hleft
      by_cases hright : words right = []
      · exact ⟨_, .emptyRightSide hdivided hleft hright⟩
      · have hbars : ¬ Alternating (words right) := fun hbars =>
          h (exists_says_iff.2 ⟨left, right, nonTerminal, hdivided, hleft, hbars⟩)
        exact ⟨_, .emptyAlternative hdivided hleft hright hbars⟩
    · exact ⟨_, .leftSide hdivided (not_exists.1 hleft)⟩

/-- A line is refused for the fault that it has. -/
theorem ofLine_eq_error_iff : Rule.ofLine line = .error e ↔ LineFault line e := by
  constructor
  · intro h
    have hsays : ¬ ∃ definition, Says line definition := by
      rintro ⟨definition, hsaid⟩
      obtain ⟨r, hr, -⟩ := exists_ofLine_eq_ok_iff.2 hsaid
      rw [h] at hr
      cases hr
    obtain ⟨e', he'⟩ := exists_lineFault_of_not_says hsays
    rw [he'.ofLine_eq] at h
    cases h
    exact he'
  · exact LineFault.ofLine_eq

/-- A line is read exactly when one word stands before its first mark and bars divide the words
after it into alternatives that are not empty. Any other line is refused, and the error tells what
is wrong with it. What is read of a line has all of its words. -/
theorem ofLine_syntax (line : String) :
    ((∃ r, Rule.ofLine line = .ok r) ↔
      ∃ left right nonTerminal, Divided line left right ∧ words left = [nonTerminal] ∧
        Alternating (words right)) ∧
    (∀ e, Rule.ofLine line = .error e ↔ LineFault line e) ∧
    ∀ r, Rule.ofLine line = .ok r → Retains line r := by
  refine ⟨?_, fun e => ofLine_eq_error_iff, fun r hr => ?_⟩
  · rw [← exists_says_iff]
    constructor
    · rintro ⟨r, hr⟩
      exact ⟨r.definition, (ofLine_eq_ok_iff.1 hr).2⟩
    · rintro ⟨definition, hsaid⟩
      obtain ⟨r, hr, -⟩ := exists_ofLine_eq_ok_iff.2 hsaid
      exact ⟨r, hr⟩
  · obtain ⟨hline, hsaid⟩ := ofLine_eq_ok_iff.1 hr
    exact retains_of_says hline hsaid

-- Only a bar that is a word of its own divides, and only the first mark does.
example :
    (Rule.ofLine "A| ::= a|b ::= | x::=y").toOption.map Rule.definition =
      some ("A|", [⟨"a|b", ["::="]⟩, ⟨"x::=y", []⟩]) := by
  decide

end Predictive
