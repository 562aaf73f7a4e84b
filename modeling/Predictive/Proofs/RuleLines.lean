import Predictive.Grammar.Reader
import Predictive.Proofs.BlankRuns
import Predictive.Proofs.Cuts
import Predictive.Proofs.Outcomes

/-!
# What a line says

A line says as much as the words before its first mark and the words after it: `lineSides`. Main
statements: a line gives a rule exactly when the former are the rule's non-terminal and the latter
are, between bars, the symbols of its alternatives (`ofLine_eq_ok_iff`); the sides of two texts with
blanks between them follow from the sides and the words of each (`lineSides_append`), so that it
does not matter which blanks these are; and a printed rule says what the rule says
(`says_print`).
-/

namespace Predictive

open Text

/-- The words before the first mark of a line and the words after it; there are none if the line has
no mark. -/
def lineSides (line : String) : Option (List String × List String) :=
  (cut ruleMark line).map fun (left, right) => (words left, words right)

/-- A line says that a non-terminal has some alternatives: the non-terminal is the only word before
its first mark, and the words after it are, between bars, the symbols of the alternatives. -/
def Says (line : String) (definition : Symbol × List Production) : Prop :=
  ∃ tokens, lineSides line = some ([definition.1], tokens) ∧
    pieces bar tokens = definition.2.map Production.symbols

/-- Two texts have the same words, and the same words on both sides of their first marks. -/
structure Alike (x y : String) : Prop where
  words_eq : words x = words y
  lineSides_eq : lineSides x = lineSides y

/-- A symbol that is read as one word, as it is. -/
structure IsWord (s : Symbol) : Prop where
  /-- It has a character. -/
  ne_empty : s ≠ ""
  /-- It has no blank. -/
  noBlanks : NoBlanks s.toList
  /-- It has no double quote. -/
  not_mem_quote : '\x22' ∉ s.toList

variable {x y u v line s : String} {r : Rule}

/-! ## Words and sides of texts -/

/-- The words of two texts with blanks between them are those of the one and then those of the
other. -/
theorem words_append (hu : Blanks u.toList) (hne : u ≠ "") (x y : String) :
    words (x ++ u ++ y) = words x ++ words y := by
  have hne : u.toList ≠ [] := by simpa using hne
  simp only [words, String.toList_append]
  rw [splitWords_append_blanks hu hne, List.map_append]

/-- The words of two texts with a space between them. -/
theorem words_append_space (x y : String) : words (x ++ " " ++ y) = words x ++ words y :=
  words_append (by decide) (by decide) x y

/-- A word is the word of itself. -/
theorem IsWord.words_eq (hs : IsWord s) : words s = [s] := by
  have hne : s.toList ≠ [] := by simpa using hs.ne_empty
  rw [words, splitWords_of_noBlanks hne hs.noBlanks]
  simp

/-- A blank is in no mark. -/
theorem not_mem_ruleMark {c : Char} (hc : isBlank c = true) : c ∉ ruleMark.toList := by
  intro hmem
  have hmark : NoBlanks ruleMark.toList := by decide
  rw [hmark c hmem] at hc
  cases hc

/-- A line has sides exactly when the mark stands in it. -/
theorem lineSides_eq_none_iff : lineSides line = none ↔ ¬ ruleMark.toList <:+: line.toList := by
  rw [lineSides, cut, Option.map_map, Option.map_eq_none_iff, cutAtFirst_eq_none_iff]

/-- The sides of two texts with blanks between them: the first mark is in the one, and all words of
the other are after it, or else it is in the other, and all words of the one are before it. -/
theorem lineSides_append (hu : Blanks u.toList) (hne : u ≠ "") (x y : String) :
    lineSides (x ++ u ++ y) =
      ((lineSides x).map fun (left, right) => (left, right ++ words y)).or
        ((lineSides y).map fun (left, right) => (words x ++ left, right)) := by
  have hne' : u.toList ≠ [] := by simpa using hne
  -- The mark holds no blank, so it stands in one of the two texts and not across the blanks.
  have hmark : ∀ c ∈ u.toList, c ∉ ruleMark.toList := fun c hc => not_mem_ruleMark (hu c hc)
  have hwords : ∀ a b, words (a ++ (u ++ b)) = words a ++ words b := by
    intro a b
    rw [← String.append_assoc, words_append hu hne]
  simp only [lineSides, cut, String.toList_append]
  rw [cutAtFirst_append (by decide) hmark hne']
  cases cutAtFirst ruleMark.toList x.toList with
  | some cut => simp [hwords]
  | none => cases cutAtFirst ruleMark.toList y.toList <;> simp [hwords]

/-- The sides of two texts with a space between them. -/
theorem lineSides_append_space (x y : String) :
    lineSides (x ++ " " ++ y) =
      ((lineSides x).map fun (left, right) => (left, right ++ words y)).or
        ((lineSides y).map fun (left, right) => (words x ++ left, right)) :=
  lineSides_append (by decide) (by decide) x y

/-- The mark stands in one of two texts if it stands in them with blanks between. -/
theorem ruleMark_infix_append_iff (hu : Blanks u.toList) (hne : u ≠ "") (x y : String) :
    ruleMark.toList <:+: (x ++ u ++ y).toList ↔
      ruleMark.toList <:+: x.toList ∨ ruleMark.toList <:+: y.toList := by
  rw [← not_iff_not, not_or, ← lineSides_eq_none_iff, ← lineSides_eq_none_iff,
    ← lineSides_eq_none_iff, lineSides_append hu hne]
  simp

/-- A text is alike to itself. -/
theorem Alike.refl (x : String) : Alike x x := ⟨rfl, rfl⟩

/-- Of two texts that are alike, each is alike to the other. -/
theorem Alike.symm (h : Alike x y) : Alike y x := ⟨h.words_eq.symm, h.lineSides_eq.symm⟩

/-- Blanks between two texts may be exchanged for others. -/
theorem Alike.of_blanks (hu : Blanks u.toList) (hune : u ≠ "") (hv : Blanks v.toList)
    (hvne : v ≠ "") (x y : String) : Alike (x ++ u ++ y) (x ++ v ++ y) := by
  constructor
  · rw [words_append hu hune, words_append hv hvne]
  · rw [lineSides_append hu hune, lineSides_append hv hvne]

/-- Texts with a space between them are alike if each is alike. -/
theorem Alike.append {x' y' : String} (hx : Alike x x') (hy : Alike y y') :
    Alike (x ++ " " ++ y) (x' ++ " " ++ y') := by
  constructor
  · rw [words_append_space, words_append_space, hx.words_eq, hy.words_eq]
  · rw [lineSides_append_space, lineSides_append_space, hx.words_eq,
      hx.lineSides_eq, hy.words_eq, hy.lineSides_eq]

/-- A text may be put before others that are alike when they are put together. -/
theorem Alike.intercalate_cons {texts texts' : List String} (hnil : texts = [] ↔ texts' = [])
    (h : Alike (" ".intercalate texts) (" ".intercalate texts')) (x : String) :
    Alike (" ".intercalate (x :: texts)) (" ".intercalate (x :: texts')) := by
  cases texts with
  | nil =>
    rw [hnil.1 rfl]
    exact Alike.refl _
  | cons y texts =>
    cases texts' with
    | nil => exact absurd (hnil.2 rfl) (List.cons_ne_nil y texts)
    | cons y' texts' =>
      rw [String.intercalate_cons_cons, String.intercalate_cons_cons]
      exact (Alike.refl x).append h

/-- Blanks in the first of several texts may be exchanged for the space that is put between
texts. -/
theorem Alike.intercalate_break (hu : Blanks u.toList) (hne : u ≠ "") (x y : String)
    (texts : List String) :
    Alike (" ".intercalate ((x ++ u ++ y) :: texts)) (" ".intercalate (x :: y :: texts)) := by
  have hbreak : Alike (x ++ u ++ y) (x ++ " " ++ y) :=
    Alike.of_blanks hu hne (by decide) (by decide) x y
  cases texts with
  | nil =>
    rwa [String.intercalate_singleton, String.intercalate_cons_cons, String.intercalate_singleton]
  | cons z texts =>
    rw [String.intercalate_cons_cons, String.intercalate_cons_cons, String.intercalate_cons_cons,
      ← String.append_assoc, ← String.append_assoc]
    exact hbreak.append (Alike.refl _)

/-! ## Printed rules -/

/-- A bar between texts is a word between theirs. -/
theorem words_append_bar (x y : String) : words (x ++ " | " ++ y) = words x ++ bar :: words y := by
  have hbar : IsWord bar := ⟨by decide, by decide, by decide⟩
  have hsplit : x ++ " | " ++ y = x ++ " " ++ bar ++ " " ++ y := by
    have hbar : " " ++ (bar ++ (" " ++ y)) = " | " ++ y := by
      simp only [← String.append_assoc]
      rfl
    simp only [String.append_assoc, hbar]
  rw [hsplit, words_append_space, words_append_space, hbar.words_eq,
    List.append_assoc, List.singleton_append]

/-- The words of words with spaces between them. -/
theorem words_intercalate {l : List Symbol} (h : ∀ s ∈ l, IsWord s) :
    words (" ".intercalate l) = l := by
  induction l with
  | nil => rfl
  | cons s l ih =>
    obtain ⟨hs, hl⟩ := List.forall_mem_cons.1 h
    cases l with
    | nil => rw [String.intercalate_singleton, hs.words_eq]
    | cons t l =>
      rw [String.intercalate_cons_cons, words_append_space, hs.words_eq, ih hl]
      rfl

/-- The words of printed alternatives are their symbols, with bars between the alternatives. -/
theorem words_intercalate_print {ps : List Production}
    (h : ∀ p ∈ ps, ∀ s ∈ p.symbols, IsWord s) :
    words (" | ".intercalate (ps.map Production.print)) =
      [bar].intercalate (ps.map Production.symbols) := by
  induction ps with
  | nil => rfl
  | cons p ps ih =>
    obtain ⟨hp, hps⟩ := List.forall_mem_cons.1 h
    have hwords : words p.print = p.symbols := words_intercalate hp
    cases ps with
    | nil => simp [hwords]
    | cons q ps =>
      rw [List.map_cons, List.map_cons, String.intercalate_cons_cons, words_append_bar, hwords]
      rw [← List.map_cons, ih hps]
      simp [List.intercalate_cons_cons]

/-- A printed rule has its non-terminal on one side and, between bars, the symbols of its
alternatives on the other, if its symbols are words and its non-terminal does not hold the mark. -/
theorem lineSides_print (hleft : IsWord r.nonTerminal)
    (hmark : ¬ ruleMark.toList <:+: r.nonTerminal.toList)
    (hright : ∀ p ∈ r.alternatives, ∀ s ∈ p.symbols, IsWord s) :
    lineSides r.print =
      some ([r.nonTerminal], [bar].intercalate (r.alternatives.map Production.symbols)) := by
  have hrule : lineSides ruleMark = some ([], []) := by decide
  have hprint : r.print = r.nonTerminal ++ " " ++
      (ruleMark ++ " " ++ " | ".intercalate (r.alternatives.map Production.print)) := by
    simp only [Rule.print, String.append_assoc]
  rw [hprint, lineSides_append_space, lineSides_eq_none_iff.2 hmark,
    lineSides_append_space, hrule, hleft.words_eq, words_intercalate_print hright]
  rfl

/-- A printed rule says what the rule says, if its symbols are words, its non-terminal does not hold
the mark and no symbol of its alternatives is the bar. -/
theorem says_print (hleft : IsWord r.nonTerminal)
    (hmark : ¬ ruleMark.toList <:+: r.nonTerminal.toList)
    (hright : ∀ p ∈ r.alternatives, ∀ s ∈ p.symbols, IsWord s ∧ s ≠ bar) :
    Says r.print r.definition := by
  refine ⟨_, lineSides_print hleft hmark fun p hp s hs => (hright p hp s hs).1, ?_⟩
  refine pieces_intercalate (by simpa using r.alternatives_ne_nil) fun symbols hsymbols hbar => ?_
  obtain ⟨p, hp, rfl⟩ := List.mem_map.1 hsymbols
  exact (hright p hp bar hbar).2 rfl

/-! ## What a line says -/

/-- What a line says is a matter of its sides. -/
theorem Says.of_lineSides_eq {definition : Symbol × List Production}
    (hsides : lineSides x = lineSides y) (h : Says x definition) : Says y definition := by
  rw [Says] at h ⊢
  rwa [← hsides]

/-- The words of a text without double quotes are words. -/
theorem isWord_of_mem_words (hquote : '\x22' ∉ x.toList) (hs : s ∈ words x) : IsWord s := by
  rw [words, List.mem_map] at hs
  obtain ⟨word, hword, rfl⟩ := hs
  refine ⟨?_, ?_, ?_⟩
  · simpa using ne_nil_of_mem_splitWords hword
  · rw [String.toList_ofList]
    exact not_isBlank_of_mem_splitWords hword
  · rw [String.toList_ofList]
    exact fun hmem => hquote ((isInfix_of_mem_splitWords hword).subset hmem)

/-- What a line says, it says with the words of the two texts that its first mark divides. -/
theorem Says.exists_cut {definition : Symbol × List Production} (h : Says line definition) :
    ∃ left right, cutAtFirst ruleMark.toList line.toList = some (left, right) ∧
      splitWords left = [definition.1.toList] ∧
      pieces bar (words (String.ofList right)) = definition.2.map Production.symbols := by
  obtain ⟨tokens, hsides, hpieces⟩ := h
  rw [lineSides, cut, Option.map_map, Option.map_eq_some_iff] at hsides
  obtain ⟨⟨left, right⟩, hcut, hwords⟩ := hsides
  obtain ⟨hleft, rfl⟩ := Prod.mk.inj hwords
  refine ⟨left, right, hcut, ?_, hpieces⟩
  rw [words, String.toList_ofList, List.map_eq_singleton_iff] at hleft
  obtain ⟨word, hword, hname⟩ := hleft
  rw [hword, ← hname, String.toList_ofList]

/-- A line without double quotes says something about a word in which the mark does not stand. -/
theorem Says.isWord_left {definition : Symbol × List Production} (h : Says line definition)
    (hquote : '\x22' ∉ line.toList) :
    IsWord definition.1 ∧ ¬ ruleMark.toList <:+: definition.1.toList := by
  obtain ⟨left, right, hcut, hword, -⟩ := h.exists_cut
  have hmem : definition.1.toList ∈ splitWords left := by
    rw [hword]
    exact List.mem_singleton_self _
  have hleft : left <:+: line.toList := by
    rw [eq_of_cutAtFirst hcut, List.append_assoc]
    exact (List.prefix_append left _).isInfix
  constructor
  · refine isWord_of_mem_words (x := String.ofList left) ?_ ?_
    · rw [String.toList_ofList]
      exact fun hmem => hquote (hleft.subset hmem)
    · rw [words, String.toList_ofList, hword]
      simp
  · exact fun hpart => not_isInfix_of_cutAtFirst (by decide) hcut
      (hpart.trans (isInfix_of_mem_splitWords hmem))

/-- A line without double quotes says something with words that are not the bar. -/
theorem Says.isWord_right {definition : Symbol × List Production} (h : Says line definition)
    (hquote : '\x22' ∉ line.toList) {p : Production} (hp : p ∈ definition.2) (hs : s ∈ p.symbols) :
    IsWord s ∧ s ≠ bar := by
  obtain ⟨left, right, hcut, -, hpieces⟩ := h.exists_cut
  have hpiece : p.symbols ∈ pieces bar (words (String.ofList right)) := by
    rw [hpieces]
    exact List.mem_map_of_mem hp
  constructor
  · refine isWord_of_mem_words (x := String.ofList right) ?_ ?_
    · rw [String.toList_ofList]
      refine fun hmem => hquote ?_
      rw [eq_of_cutAtFirst hcut]
      exact List.mem_append_right _ hmem
    · exact subset_of_mem_pieces hpiece hs
  · rintro rfl
    exact not_mem_of_mem_pieces hpiece hs

/-- A line that starts with no blank and says something starts with what it says something about. -/
theorem Says.prefix_left {definition : Symbol × List Production} (h : Says line definition)
    (htrimmed : Trimmed line.toList) : definition.1.toList <+: line.toList := by
  obtain ⟨left, right, hcut, hword, -⟩ := h.exists_cut
  have hline : line.toList = left ++ (ruleMark.toList ++ right) := by
    rw [eq_of_cutAtFirst hcut, List.append_assoc]
  cases left with
  | nil => cases hword
  | cons c left =>
    have hc : isBlank c = false := htrimmed.head c (by rw [hline]; rfl)
    obtain ⟨tail, more, hwords, hstart, -⟩ := exists_splitWords_cons_eq hc left
    rw [hwords] at hword
    rw [← (List.cons.inj hword).1, hline]
    exact List.cons_prefix_cons.2 ⟨rfl, hstart.trans (List.prefix_append _ _)⟩

/-! ## Rules -/

/-- Lists of symbols that are all productions. -/
theorem mapM_ofSymbols?_eq_some_iff {lists : List (List Symbol)} {ps : List Production} :
    lists.mapM Production.ofSymbols? = some ps ↔ lists = ps.map Production.symbols := by
  induction lists generalizing ps with
  | nil => simp [eq_comm]
  | cons l lists ih =>
    simp only [List.mapM_cons, Option.bind_eq_bind, Option.bind_eq_some_iff, Option.pure_def,
      Option.some.injEq, Production.ofSymbols?_eq_some_iff, ih]
    constructor
    · rintro ⟨p, rfl, later, rfl, rfl⟩
      rfl
    · intro h
      obtain ⟨p, later, rfl, hp, hlater⟩ := List.map_eq_cons_iff.1 h.symm
      exact ⟨p, hp.symm, later, hlater.symm, rfl⟩

/-- A rule is made of what it is given. -/
theorem ofAlternatives_eq_ok_iff {nonTerminal : Symbol} {alternatives : List Production} :
    Rule.ofAlternatives nonTerminal alternatives line = .ok r ↔
      r.line = line ∧ nonTerminal = r.nonTerminal ∧ alternatives = r.alternatives := by
  obtain ⟨nonTerminal', alternatives', line', hne⟩ := r
  rw [Rule.ofAlternatives]
  split
  · rename_i hnil
    rw [hnil]
    simp [hne.symm]
  · simp only [Except.ok.injEq, Rule.mk.injEq]
    constructor
    · rintro ⟨rfl, rfl, rfl⟩
      exact ⟨rfl, rfl, rfl⟩
    · rintro ⟨rfl, rfl, rfl⟩
      exact ⟨rfl, rfl, rfl⟩

/-- A line gives a rule exactly when it says what the rule says. The rule keeps the line. -/
theorem ofLine_eq_ok_iff : Rule.ofLine line = .ok r ↔ r.line = line ∧ Says line r.definition := by
  rw [Says, Rule.definition]
  rw [Rule.ofLine, lineSides]
  cases cut ruleMark line with
  | none => simp
  | some sides =>
    obtain ⟨left, right⟩ := sides
    simp only [Option.map_some, Option.some.injEq, Prod.mk.injEq]
    cases hleft : words left with
    | nil => simp
    | cons nonTerminal more =>
      cases more with
      | cons second more => simp
      | nil =>
        -- What is left is to compare the tokens with the rule's alternatives.
        have hsides : ∀ tokens, ([nonTerminal] = [r.nonTerminal] ∧ words right = tokens) ↔
            (nonTerminal = r.nonTerminal ∧ words right = tokens) := by simp
        have htokens : (∃ tokens, (nonTerminal = r.nonTerminal ∧ words right = tokens) ∧
            pieces bar tokens = r.alternatives.map Production.symbols) ↔
            nonTerminal = r.nonTerminal ∧
              (pieces bar (words right)).mapM Production.ofSymbols? = some r.alternatives := by
          rw [mapM_ofSymbols?_eq_some_iff]
          simp
        simp only [hsides, htokens]
        cases hright : words right with
        | nil =>
          -- Without words there is one piece, and no production is empty.
          have hnone : (pieces bar []).mapM Production.ofSymbols? = none := rfl
          simp [hnone]
        | cons token tokens =>
          simp only
          cases (pieces bar (token :: tokens)).mapM Production.ofSymbols? with
          | none => simp
          | some alternatives =>
            simp only [ofAlternatives_eq_ok_iff, Option.some.injEq]

/-- A line gives a rule of some definition exactly when it says that definition. -/
theorem exists_ofLine_eq_ok_iff {definition : Symbol × List Production} :
    (∃ r, Rule.ofLine line = .ok r ∧ r.definition = definition) ↔ Says line definition := by
  simp only [ofLine_eq_ok_iff]
  constructor
  · rintro ⟨r, ⟨-, hsaid⟩, rfl⟩
    exact hsaid
  · intro hsaid
    -- Cutting at bars gives one piece at least, and so an alternative.
    have hne : definition.2 ≠ [] := by
      obtain ⟨tokens, -, hpieces⟩ := hsaid
      intro hnil
      rw [hnil] at hpieces
      exact pieces_ne_nil bar tokens hpieces
    exact ⟨⟨definition.1, definition.2, line, hne⟩, ⟨rfl, hsaid⟩, rfl⟩

end Predictive
