import Predictive.Proofs.LogicalLines

/-!
# Printing and reading

A grammar that is printed, a rule on each line, is read back: the text says what the grammar says.
This holds of the grammars whose symbols survive, which are called clean, and every grammar that is
read from a text is one of them, so that the clean grammars are, apart from the lines that their
rules keep, exactly those that can be read. Main statement: `readText_printLines`.
-/

namespace Predictive

open Text Layout

/-- The symbols of a rule can be told from marks, bars, comments, quotes and blanks. -/
structure Rule.Clean (r : Rule) : Prop where
  /-- The non-terminal is one word. -/
  nonTerminal_isWord : IsWord r.nonTerminal
  /-- The mark between the sides of a rule does not stand in the non-terminal. -/
  no_ruleMark : ¬ ruleMark.toList <:+: r.nonTerminal.toList
  /-- The non-terminal does not start as a comment does. -/
  no_commentMark : ∀ mark ∈ commentMarks, ¬ mark.toList <+: r.nonTerminal.toList
  /-- The symbols of the alternatives are words other than the bar. -/
  isWord_of_mem : ∀ p ∈ r.alternatives, ∀ s ∈ p.symbols, IsWord s ∧ s ≠ bar

/-- There are rules, and all of them are clean. -/
structure Grammar.Clean (g : Grammar) : Prop where
  /-- There is a rule. -/
  rules_ne_nil : g.rules ≠ []
  /-- The rules are clean. -/
  clean_of_mem : ∀ r ∈ g.rules, r.Clean

/-- The printed rules, each on a line of its own. -/
def Grammar.printLines (g : Grammar) : String := "\n".intercalate (g.rules.map Rule.print)

variable {g : Grammar} {r : Rule} {s : Symbol} {text : String}

/-! ## Printed rules -/

/-- A word stays as it is in a line. -/
theorem IsWord.isInline (hs : IsWord s) : IsInline s := by
  refine ⟨hs.ne_empty, hs.noBlanks.trimmed, hs.not_mem_quote, fun hmem => ?_⟩
  exact absurd (hs.noBlanks _ hmem) (by decide)

/-- A rule that is clean is printed on a line that is left as it is. -/
theorem Rule.Clean.isPlain_print (hr : r.Clean) : IsPlain r.print := by
  have hleft : IsPlain r.nonTerminal := ⟨hr.nonTerminal_isWord.isInline, hr.no_commentMark⟩
  have hmark : IsWord ruleMark := ⟨by decide, by decide, by decide⟩
  -- A symbol of an alternative may start as a comment does, since it does not start the line.
  have hright : IsInline (" | ".intercalate (r.alternatives.map Production.print)) := by
    refine isInline_intercalate (by simpa using r.alternatives_ne_nil) (fun text htext => ?_)
      (by decide) (by decide)
    obtain ⟨p, hp, rfl⟩ := List.mem_map.1 htext
    exact isInline_intercalate (List.cons_ne_nil p.lead p.rest)
      (fun s hs => (hr.isWord_of_mem p hp s hs).1.isInline) (by decide) (by decide)
  have hprint : r.print = r.nonTerminal ++ " " ++
      (ruleMark ++ " " ++ " | ".intercalate (r.alternatives.map Production.print)) := by
    simp only [Rule.print, String.append_assoc]
  rw [hprint]
  exact hleft.append (hmark.isInline.append hright (by decide) (by decide))

/-- The line on which a rule is printed starts a rule. -/
theorem startsRule_print (r : Rule) : startsRule r.print = true := by
  rw [startsRule_iff]
  exact ⟨(r.nonTerminal ++ " ").toList,
    (" " ++ " | ".intercalate (r.alternatives.map Production.print)).toList, by simp [Rule.print]⟩

/-- What is printed of a clean grammar says what the grammar says. -/
theorem Grammar.Clean.reads_printLines (hg : g.Clean) : Reads g.printLines g.definitions := by
  have hplain : ∀ line ∈ g.rules.map Rule.print, IsPlain line :=
    List.forall_mem_map.2 fun r hr => (hg.clean_of_mem r hr).isPlain_print
  have hstarts : ∀ line ∈ g.rules.map Rule.print, startsRule line = true :=
    List.forall_mem_map.2 fun r _ => startsRule_print r
  rw [reads_iff]
  refine ⟨g.rules.map Rule.print, ?_, ?_⟩
  · exact logicalLines_physicalLines_intercalate (by simpa using hg.rules_ne_nil) hplain hstarts
  · rw [definitions, List.forall₂_map_left_iff, List.forall₂_map_right_iff, List.forall₂_same]
    intro r hr
    have hclean := hg.clean_of_mem r hr
    exact says_print hclean.nonTerminal_isWord hclean.no_ruleMark hclean.isWord_of_mem

/-! ## Rules that are read -/

/-- A rule is clean that says what a plain line says. -/
theorem Rule.clean_of_says {line : String} (hline : IsPlain line) (h : Says line r.definition) :
    r.Clean := by
  obtain ⟨hword, hpart⟩ := h.isWord_left hline.not_mem_quote
  refine ⟨hword, hpart, fun mark hmark hstart => ?_, fun p hp s hs => ?_⟩
  · exact hline.no_commentMark mark hmark (hstart.trans (h.prefix_left hline.trimmed))
  · exact h.isWord_right hline.not_mem_quote hp hs

/-- A grammar is clean that says what a text says. -/
theorem Grammar.clean_of_reads (h : Reads text g.definitions) : g.Clean := by
  obtain ⟨logical, hlogical, hsaid⟩ := reads_iff.1 h
  rw [definitions, List.forall₂_map_right_iff] at hsaid
  refine ⟨?_, fun r hr => ?_⟩
  · -- There is a logical line, and so a rule.
    obtain ⟨-, hne, rfl⟩ := logicalLines_eq_ok_iff.1 hlogical
    intro hnil
    rw [hnil, List.forall₂_nil_right_iff, List.map_eq_nil_iff] at hsaid
    exact hne hsaid
  · obtain ⟨line, hline, hline'⟩ := exists_mem_of_forall₂ hsaid.flip hr
    exact Rule.clean_of_says (isPlain_of_mem_logicalLines hlogical hline) hline'

/-- The symbols of a clean grammar are words. -/
theorem Grammar.Clean.isWord_of_mem_symbols (hg : g.Clean) (hs : s ∈ g.symbols) : IsWord s := by
  obtain ⟨r, hr, hs⟩ := mem_symbols.1 hs
  have hclean := hg.clean_of_mem r hr
  rcases List.mem_cons.1 hs with rfl | hs
  · exact hclean.nonTerminal_isWord
  · obtain ⟨p, hp, hs⟩ := List.mem_flatMap.1 hs
    exact (hclean.isWord_of_mem p hp s hs).1

/-- A clean grammar is read back from what is printed of it, and every grammar that is read from a
text is clean, so that it is read back as well. -/
theorem Grammar.readText_printLines :
    (∀ g : Grammar, g.Clean →
      ∃ g', (readText g.printLines).outcome = .ok g' ∧ g'.agrees g = true) ∧
    (∀ text g, (readText text).outcome = .ok g →
      g.Clean ∧ ∃ g', (readText g.printLines).outcome = .ok g' ∧ g'.agrees g = true) := by
  have hback : ∀ g : Grammar, g.Clean →
      ∃ g', (readText g.printLines).outcome = .ok g' ∧ g'.agrees g = true := by
    intro g hg
    obtain ⟨g', hg', hsame⟩ := hg.reads_printLines
    exact ⟨g', hg', agrees_iff.2 hsame⟩
  refine ⟨hback, fun text g hg => ?_⟩
  have hclean : g.Clean := clean_of_reads ⟨g, hg, rfl⟩
  exact ⟨hclean, hback g hclean⟩

/-- A grammar whose symbols are marks, bars and comment marks, as far as they can be. -/
def Grammar.oddSymbols : Grammar :=
  ⟨[⟨"|", [⟨"::=", ["'x::=y'"]⟩, ⟨"#", ["//"]⟩], "| ::= ::=\t'x::=y' | # //", by decide⟩]⟩

theorem Grammar.readText_printLines_oddSymbols :
    (readText "; symbols\n | ::= ::=\t\"x::=y\"\n\n  | # //").outcome = .ok oddSymbols ∧
      oddSymbols.Clean ∧
      ∃ g, (readText "| ::= ::= 'x::=y' | # //").outcome = .ok g ∧ g.agrees oddSymbols = true := by
  have hread :
      (readText "; symbols\n | ::= ::=\t\"x::=y\"\n\n  | # //").outcome = .ok oddSymbols := by
    decide
  exact ⟨hread, readText_printLines.2 _ _ hread⟩

end Predictive
