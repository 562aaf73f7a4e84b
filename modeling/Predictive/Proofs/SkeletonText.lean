import Predictive.Proofs.Listings
import Predictive.Proofs.RoundTrip
import Predictive.Proofs.SelectionSets
import Predictive.Proofs.SkeletonParts
import Predictive.Proofs.Spelling
import Predictive.Skeleton.Target

/-!
# Reading skeletons back

The spellings of both languages are clear, and symbols stand in literals that end where they are
seen to end. Main statement: the outlines of procedures are read off their text, whatever the
symbols are, except that in C++ no symbol may have a line end in it, which is so of all grammars
that are read from texts (`Target.readSkeleton_text`).
-/

namespace Predictive

open Text

/-! ## Lookaheads -/

/-- Line ends stand in texts that are put together only if they stand in one of them or between
them. -/
theorem not_mem_intercalate {α : Type} {a : α} {separator : List α} {lists : List (List α)}
    (hseparator : a ∉ separator) (h : ∀ l ∈ lists, a ∉ l) : a ∉ separator.intercalate lists := by
  induction lists with
  | nil => exact List.not_mem_nil
  | cons l lists ih =>
    obtain ⟨hl, hlists⟩ := List.forall_mem_cons.1 h
    cases lists with
    | nil => rwa [List.intercalate_singleton]
    | cons l' lists =>
      rw [List.intercalate_cons_cons, List.mem_append, List.mem_append, not_or, not_or]
      exact ⟨⟨hl, hseparator⟩, ih hlists⟩

/-- Texts with commas between them have no line end in them if none of them has. -/
theorem not_mem_newline_listed {texts : List String} (h : ∀ text ∈ texts, '\n' ∉ text.toList) :
    '\n' ∉ (", ".intercalate texts).toList := by
  rw [String.toList_intercalate]
  exact not_mem_intercalate (by decide) (List.forall_mem_map.2 h)

/-- Nor have texts in braces. -/
theorem not_mem_newline_braced {texts : List String} (h : ∀ text ∈ texts, '\n' ∉ text.toList) :
    '\n' ∉ (braced texts).toList := by
  simp only [braced, String.toList_append, List.mem_append, not_or]
  exact ⟨⟨by decide, not_mem_newline_listed h⟩, by decide⟩

/-! ## C++ -/

namespace Cpp

/-- A character of a string literal: the one after a backslash, or else the one itself. -/
def readChar : Reader Char
  | [] => none
  | c :: rest =>
    if c = '\\' then
      match rest with
      | [] => none
      | d :: rest => some (d, rest)
    else some (c, rest)

/-- A string literal. -/
def readLiteral : Reader String
  | [] => none
  | c :: rest =>
    if c = '\x22' then
      (readBody readChar '\x22' rest).map fun (body, after) => (String.ofList body, after)
    else none

/-- How the lines that have marks are spelt in C++. -/
def spelling : Spelling where
  header := ⟨"void parse_", "() \x7b"⟩
  guard chained := ⟨if chained then "\telse if (match(" else "\tif (match(", ")) \x7b"⟩
  expect := ⟨"\t\tmatch_terminal(", ");"⟩
  call := ⟨"\t\tparse_", "();"⟩
  readLookahead := readList readLiteral '\x7b' '\x7d'
  readTerminal := readLiteral

/-- A symbol that does not break the line on which it is written out. -/
def SingleLine (s : Symbol) : Prop := '\n' ∉ s.toList

/-- A character of a string literal is read back. -/
theorem readChar_escapeChar (c : Char) (rest : List Char) :
    readChar (escapeChar c ++ rest) = some (c, rest) := by
  rw [escapeChar]
  split
  next => rfl
  next hmark =>
    simp only [Bool.or_eq_true, decide_eq_true_eq, not_or] at hmark
    exact if_neg hmark.1

/-- No character is written with the quote in front. -/
theorem exists_escapeChar_eq_cons (c : Char) :
    ∃ d tail, escapeChar c = d :: tail ∧ d ≠ '\x22' := by
  rw [escapeChar]
  split
  next => exact ⟨'\\', [c], rfl, by decide⟩
  next hmark =>
    simp only [Bool.or_eq_true, decide_eq_true_eq, not_or] at hmark
    exact ⟨c, [], rfl, hmark.2⟩

/-- A string literal is read back, whatever follows it. -/
theorem readLiteral_literal (text : String) (rest : List Char) :
    readLiteral ((literal text).toList ++ rest) = some (text, rest) := by
  have hbody := readBody_flatMap readChar_escapeChar exists_escapeChar_eq_cons text.toList rest
  rw [literal, String.toList_ofList, literalChars, List.cons_append, List.cons_append,
    List.append_assoc, List.singleton_append, readLiteral, if_pos rfl, hbody, Option.map_some]
  simp

/-- A string literal has no line end in it if its text has none. -/
theorem not_mem_newline_literal {text : String} (h : SingleLine text) :
    '\n' ∉ (literal text).toList := by
  have hbody : '\n' ∉ text.toList.flatMap escapeChar := by
    rw [List.mem_flatMap]
    rintro ⟨c, hc, hmem⟩
    have hne : '\n' ≠ c := fun heq => h (heq ▸ hc)
    rw [escapeChar] at hmem
    split at hmem <;> simp_all
  rw [literal, String.toList_ofList, literalChars]
  simp [hbody]

/-- The lookahead in a guard is read back. -/
theorem readLookahead_braced (lookahead : List Symbol) (rest : List Char) :
    spelling.readLookahead ((braced (lookahead.map literal)).toList ++ rest) =
      some (lookahead, rest) := by
  refine readList_braced readLiteral_literal (fun text => ?_) lookahead rest
  rw [literal, String.toList_ofList]
  exact ⟨'\x22', _, rfl, by decide⟩

/-- A terminal that is expected is read back. -/
theorem readTerminal_literal (t : Symbol) (rest : List Char) :
    spelling.readTerminal ((literal t).toList ++ rest) = some (t, rest) := by
  simp only [spelling, readLiteral_literal]

/-- Lines in C++ can be told apart. -/
theorem clear_spelling : spelling.Clear where
  apart := by simp [Spelling.forms, Spelling.headerForm, Spelling.guardForm, Spelling.expectForm,
    Spelling.callForm, Apart, spelling]
  not_mem_newline := by decide +kernel
  name_ends := by
    have hparenthesis : isWordCharacter '(' = false := by decide +kernel
    simp [spelling, hparenthesis]

/-- The statement that reports a message. -/
theorem report_eq (message name : String) :
    report message name =
      "std" ++ ("::cout << \x22" ++ message ++ " " ++ name ++ "\x22 << std::endl;") := by
  delta report
  simp [← String.toList_inj]

/-- The line that reports a message with a procedure's name tells nothing, wherever it stands. -/
theorem marksOf_report {indent message : String} (hindent : indent ∈ ["\t", "\t\t"])
    (hmessage : '\n' ∉ message.toList) (s : Symbol) :
    marksOf spelling.mark? (indent ++ report message (procedureName s)) = [] := by
  have hapart : ∀ indent ∈ ["\t", "\t\t"],
      ∀ f ∈ spelling.forms, Apart (indent ++ "std") f.frame.start := by decide +kernel
  have hnewline : ∀ indent ∈ ["\t", "\t\t"], '\n' ∉ indent.toList := by decide
  refine Spelling.marksOf_eq_nil (indent ++ "std") (hapart indent hindent) ?_ ?_
  · rw [report_eq, ← String.append_assoc]
    exact toList_isPrefix_append _ _
  · simp [report_eq, hnewline indent hindent, hmessage,
      not_mem_procedureName isWordCharacter_newline]

/-- Lines in C++ can be told apart by their marks, if no symbol breaks its line. -/
theorem markedBy_dialect : dialect.MarkedBy spelling.mark? SingleLine where
  blank := rfl
  header s := by
    have hlines : dialect.header (procedureName s) =
        [spelling.header.around (procedureWord s), "\t" ++ report "Calling" (procedureName s)] := by
      simp [dialect, spelling, Frame.around, procedureName_eq, ← String.toList_inj]
    rw [hlines, List.flatMap_cons, List.flatMap_singleton, clear_spelling.marksOf_header,
      marksOf_report (by decide) (by decide), List.append_nil]
  guard chained lookahead hfits := by
    have hline : dialect.indent ++ dialect.guard chained lookahead =
        (spelling.guard chained).around (braced (lookahead.map literal)) := by
      cases chained <;> simp [dialect, spelling, Frame.around, ← String.toList_inj]
    have hnewline : '\n' ∉ (braced (lookahead.map literal)).toList :=
      not_mem_newline_braced
        (List.forall_mem_map.2 fun t ht => not_mem_newline_literal (hfits t ht))
    rw [hline]
    exact clear_spelling.marksOf_guard chained hnewline (readLookahead_braced lookahead)
  expect t ht := by
    have hlines : (dialect.expect t).map (dialect.indent ++ dialect.indent ++ ·) =
        [spelling.expect.around (literal t)] := by
      simp [dialect, spelling, Frame.around, ← String.toList_inj]
    rw [hlines, List.flatMap_singleton]
    exact clear_spelling.marksOf_expect (not_mem_newline_literal ht) (readTerminal_literal t)
  call s t := by
    have hlines : (dialect.call (procedureName s) (procedureName t)).map
        (dialect.indent ++ dialect.indent ++ ·) =
          [spelling.call.around (procedureWord t),
            "\t\t" ++ report "Returned to" (procedureName s)] := by
      simp [dialect, spelling, Frame.around, procedureName_eq, ← String.toList_inj]
    rw [hlines, List.flatMap_cons, List.flatMap_singleton, clear_spelling.marksOf_call,
      marksOf_report (by decide) (by decide), List.append_nil]
  close := by decide +kernel
  failure s := by
    have hlines : (dialect.failure (procedureName s)).map (dialect.indent ++ ·) =
        ["\telse \x7b", "\t\t" ++ report "Error in" (procedureName s), "\t\texit(1);",
          "\t\x7d"] := by
      simp [dialect, ← String.toList_inj]
    have hfixed : ∀ line ∈ ["\telse \x7b", "\t\texit(1);", "\t\x7d"],
        marksOf spelling.mark? line = [] := by decide +kernel
    rw [hlines]
    simp [hfixed, marksOf_report]
  footer := by decide +kernel

end Cpp

/-! ## Python -/

namespace Python

/-- A set of quoted texts. -/
def readSet (cs : List Char) : Option (List String × List Char) :=
  match cs.dropPrefix? "set()".toList with
  | some rest => some ([], rest)
  | none => readList readQuoted '\x7b' '\x7d' cs

/-- How the lines that have marks are spelt in Python. -/
def spelling : Spelling where
  header := ⟨"def parse_", "(parser):"⟩
  guard chained :=
    ⟨if chained then "    elif parser.peek() in " else "    if parser.peek() in ", ":"⟩
  expect := ⟨"        parser.match(", ")"⟩
  call := ⟨"        parse_", "(parser)"⟩
  readLookahead := readSet
  readTerminal := readQuoted

/-- A set is read back. -/
theorem readSet_setLiteral (symbols : List Symbol) (rest : List Char) :
    readSet ((setLiteral symbols).toList ++ rest) = some (symbols, rest) := by
  rw [setLiteral]
  split
  next hnil =>
    rw [readSet, List.dropPrefix?_append_of_beq _ (beq_self_eq_true _), hnil]
  next =>
    have hstart : ((braced (symbols.map quoted)).toList ++ rest).dropPrefix? "set()".toList =
        none := by
      rw [toList_braced]
      rfl
    rw [readSet, hstart]
    exact readList_renderMembers symbols rest

/-- Hexadecimal digits are no line ends. -/
theorem not_mem_newline_hexDigits (width n : Nat) : '\n' ∉ hexDigits width n := by
  intro h
  obtain ⟨digit, hdigit, hfeed⟩ := exists_eq_hexDigit_of_mem h
  have hne : ∀ digit < 16, '\n' ≠ hexDigit digit := by decide
  exact hne digit hdigit hfeed

/-- No character is written with a line end. -/
theorem not_mem_newline_escapeChar {quote : Char} (hquote : quote ≠ '\n') (c : Char) :
    '\n' ∉ escapeChar quote c := by
  fun_cases escapeChar quote c with
  | case1 hmark =>
    simp only [Bool.or_eq_true, decide_eq_true_eq] at hmark
    rcases hmark with rfl | rfl
    · simpa using Ne.symm hquote
    · decide
  | case2 | case3 | case4 => decide
  | case5 _ _ hfeed => simpa using Ne.symm hfeed
  | case6 | case7 | case8 => simp [not_mem_newline_hexDigits]

/-- A quoted text has no line end in it. -/
theorem not_mem_newline_quoted (text : String) : '\n' ∉ (quoted text).toList := by
  have hquote : quoteFor text.toList ≠ '\n' := by
    rcases quoteFor_eq_or text.toList with h | h <;> rw [h] <;> decide
  have hbody : '\n' ∉ text.toList.flatMap (escapeChar (quoteFor text.toList)) := by
    rw [List.mem_flatMap]
    rintro ⟨c, -, hc⟩
    exact not_mem_newline_escapeChar hquote c hc
  rw [quoted, String.toList_ofList, quoteChars]
  simp [hbody, Ne.symm hquote]

/-- A set has no line end in it. -/
theorem not_mem_newline_setLiteral (symbols : List Symbol) :
    '\n' ∉ (setLiteral symbols).toList := by
  rw [setLiteral]
  split
  · decide
  · exact not_mem_newline_braced (List.forall_mem_map.2 fun t _ => not_mem_newline_quoted t)

/-- A terminal that is expected is read back. -/
theorem readTerminal_quoted (t : Symbol) (rest : List Char) :
    spelling.readTerminal ((quoted t).toList ++ rest) = some (t, rest) := by
  simp only [spelling, readQuoted_quoted]

/-- The lookahead in a guard is read back. -/
theorem readLookahead_setLiteral (lookahead : List Symbol) (rest : List Char) :
    spelling.readLookahead ((setLiteral lookahead).toList ++ rest) = some (lookahead, rest) := by
  simp only [spelling, readSet_setLiteral]

/-- Lines in Python can be told apart. -/
theorem clear_spelling : spelling.Clear where
  apart := by simp [Spelling.forms, Spelling.headerForm, Spelling.guardForm, Spelling.expectForm,
    Spelling.callForm, Apart, spelling]
  not_mem_newline := by decide +kernel
  name_ends := by
    have hparenthesis : isWordCharacter '(' = false := by decide +kernel
    simp [spelling, hparenthesis]

/-- Lines in Python can be told apart by their marks, whatever the symbols are. -/
theorem markedBy_dialect : dialect.MarkedBy spelling.mark? fun _ => True where
  blank := rfl
  header s := by
    have hlines : dialect.header (procedureName s) =
        [spelling.header.around (procedureWord s)] := by
      simp [dialect, spelling, Frame.around, procedureName_eq, ← String.toList_inj]
    rw [hlines, List.flatMap_singleton]
    exact clear_spelling.marksOf_header s
  guard chained lookahead _ := by
    have hline : dialect.indent ++ dialect.guard chained lookahead =
        (spelling.guard chained).around (setLiteral lookahead) := by
      cases chained <;> simp [dialect, spelling, Frame.around, ← String.toList_inj]
    rw [hline]
    exact clear_spelling.marksOf_guard chained (not_mem_newline_setLiteral lookahead)
      (readLookahead_setLiteral lookahead)
  expect t _ := by
    have hlines : (dialect.expect t).map (dialect.indent ++ dialect.indent ++ ·) =
        [spelling.expect.around (quoted t)] := by
      simp [dialect, spelling, Frame.around, ← String.toList_inj]
    rw [hlines, List.flatMap_singleton]
    exact clear_spelling.marksOf_expect (not_mem_newline_quoted t) (readTerminal_quoted t)
  call s t := by
    have hlines : (dialect.call (procedureName s) (procedureName t)).map
        (dialect.indent ++ dialect.indent ++ ·) = [spelling.call.around (procedureWord t)] := by
      simp [dialect, spelling, Frame.around, procedureName_eq, ← String.toList_inj]
    rw [hlines, List.flatMap_singleton]
    exact clear_spelling.marksOf_call t
  close := rfl
  failure s := by
    have hlines : (dialect.failure (procedureName s)).map (dialect.indent ++ ·) =
        ["    else:",
          "        raise SyntaxError(" ++ quoted ("Error in " ++ procedureName s) ++ ")"] := by
      simp [dialect, ← String.toList_inj]
    have helse : marksOf spelling.mark? "    else:" = [] := by decide +kernel
    have hraise : marksOf spelling.mark?
        ("        raise SyntaxError(" ++ quoted ("Error in " ++ procedureName s) ++ ")") = [] := by
      refine Spelling.marksOf_eq_nil "        raise SyntaxError(" (by decide) ?_ ?_
      · rw [String.append_assoc]
        exact toList_isPrefix_append _ _
      · simp [not_mem_newline_quoted]
    rw [hlines, List.flatMap_cons, List.flatMap_singleton, helse, hraise, List.append_nil]
  footer := rfl

end Python

/-! ## Both languages -/

namespace Target

/-- How the lines that have marks are spelt in a language. -/
def spelling : Target → Spelling
  | .cpp => Cpp.spelling
  | .python => Python.spelling

/-- The symbols that can be read back from a skeleton in a language. -/
def Fits : Target → Symbol → Prop
  | .cpp => Cpp.SingleLine
  | .python => fun _ => True

/-- The outlines of the procedures that a text in a language tells of. -/
def readSkeleton (target : Target) (text : String) : List Outline :=
  readOutlines target.spelling.mark? text

/-- The lines of every language can be told apart. -/
theorem markedBy_dialect (target : Target) :
    target.dialect.MarkedBy target.spelling.mark? target.Fits := by
  cases target with
  | cpp => exact Cpp.markedBy_dialect
  | python => exact Python.markedBy_dialect

/-- The outlines of procedures are read off their text if the symbols fit. -/
theorem readSkeleton_of_compares {target : Target} {procedures : List Procedure}
    (h : ∀ p ∈ procedures, p.Compares target.Fits) :
    target.readSkeleton (target.dialect.text procedures) = procedures.map Procedure.outline :=
  target.markedBy_dialect.readOutlines_text h

/-- The symbols of procedures fit in every language if they fit in C++. -/
theorem compares_fits {target : Target} {procedures : List Procedure}
    (h : target = .cpp → ∀ p ∈ procedures, p.Compares Cpp.SingleLine) :
    ∀ p ∈ procedures, p.Compares target.Fits := by
  cases target with
  | cpp => exact h rfl
  | python => exact fun _ _ _ _ => ⟨fun _ _ => trivial, fun _ _ => trivial⟩

end Target

namespace Grammar

/-- The text of a skeleton is that of the procedures that it has. -/
theorem outcome_skeletonText_eq_ok_iff {g : Grammar} {target : Target} {source : String} :
    (g.skeletonText target).outcome = .ok source ↔
      ∃ procedures, g.skeleton.outcome = .ok procedures ∧
        target.dialect.text procedures = source := by
  rw [skeletonText, Traced.outcome_bind, bind_eq_ok_iff]
  simp [Dialect.write]

/-- What holds of the symbols of a grammar and of the end marker holds of all symbols that its
procedures compare tokens with. -/
theorem compares_of_skeleton {g : Grammar} {procedures : List Procedure} {Fits : Symbol → Prop}
    (hend : Fits endMarker) (hsymbols : ∀ s ∈ g.symbols, Fits s)
    (h : g.skeleton.outcome = .ok procedures) : ∀ p ∈ procedures, p.Compares Fits := by
  intro procedure hprocedure b hb
  obtain ⟨r, hr, hparts⟩ := exists_rule?_of_mem_skeleton h hprocedure
  obtain ⟨p, hp, hbranch⟩ := exists_mem_of_forall₂ hparts.flip hb
  have halternative : g.HasAlternative procedure.nonTerminal p := hasAlternative_of_rule? hr hp
  refine ⟨fun t ht => ?_, fun t ht => ?_⟩
  · have hselects := (mem_of_selectionSet_eq_ok hbranch.selectionSet_eq).1 ht
    rcases mem_symbols_of_selects halternative hselects with rfl | hmem
    · exact hend
    · exact hsymbols t hmem
  · rw [hbranch.steps_eq] at ht
    obtain ⟨x, hx, hstep⟩ := List.mem_map.1 ht
    obtain ⟨-, rfl⟩ := step_eq_expect_iff.1 hstep
    exact hsymbols x (mem_symbols_of_hasAlternative halternative hx)

/-- The symbols of a grammar that is read from a text are on one line. -/
theorem singleLine_of_readText {g : Grammar} {text : String}
    (h : (readText text).outcome = .ok g) : ∀ s ∈ g.symbols, Cpp.SingleLine s := by
  have hclean : g.Clean := clean_of_reads ⟨g, h, rfl⟩
  exact fun s hs => (hclean.isWord_of_mem_symbols hs).isInline.not_mem_newline

/-- The procedures for a grammar that is read from a text compare tokens with symbols on one
line. -/
theorem compares_singleLine_of_readText {g : Grammar} {text : String} {procedures : List Procedure}
    (h : (readText text).outcome = .ok g) (hprocedures : g.skeleton.outcome = .ok procedures) :
    ∀ p ∈ procedures, p.Compares Cpp.SingleLine :=
  compares_of_skeleton (by decide : '\n' ∉ endMarker.toList) (singleLine_of_readText h) hprocedures

end Grammar

/-- The outlines of procedures are read off their text in either language, as long as in C++ the
symbols are on one line; so procedures with different outlines have different texts; and the
symbols of a grammar that is read from a text are on one line, and so are those of its skeleton. -/
theorem Target.readSkeleton_text :
    (∀ (target : Target) (procedures : List Procedure),
      (target = .cpp → ∀ p ∈ procedures, p.Compares Cpp.SingleLine) →
        target.readSkeleton (target.dialect.text procedures) =
          procedures.map Procedure.outline) ∧
    (∀ (target : Target) (procedures procedures' : List Procedure),
      (target = .cpp → ∀ p ∈ procedures, p.Compares Cpp.SingleLine) →
      (target = .cpp → ∀ p ∈ procedures', p.Compares Cpp.SingleLine) →
        procedures.map Procedure.outline ≠ procedures'.map Procedure.outline →
          target.dialect.text procedures ≠ target.dialect.text procedures') ∧
    ∀ text g, (Grammar.readText text).outcome = .ok g →
      (∀ s ∈ g.symbols, Cpp.SingleLine s) ∧
        ∀ procedures, g.skeleton.outcome = .ok procedures →
          ∀ p ∈ procedures, p.Compares Cpp.SingleLine := by
  refine ⟨fun target procedures h => ?_, fun target procedures procedures' h h' hne htext => ?_,
    fun text g hg => ?_⟩
  · exact readSkeleton_of_compares (compares_fits h)
  · exact hne (target.markedBy_dialect.map_outline_eq_of_text_eq (compares_fits h)
      (compares_fits h') htext)
  · exact ⟨Grammar.singleLine_of_readText hg,
      fun procedures h => Grammar.compares_singleLine_of_readText hg h⟩

/-- Procedures whose symbols look like the text around them. -/
def oddProcedures : List Procedure :=
  [⟨"S'", [⟨{"\x22\\", "', '"}, [.expect "\x22\x7d)) \x7b", .call "if"]⟩, ⟨∅, []⟩]⟩, ⟨"if", []⟩]

theorem Target.readSkeleton_text_oddProcedures :
    (∀ p ∈ oddProcedures, p.Compares Cpp.SingleLine) ∧
      (∀ target : Target, target.readSkeleton (target.dialect.text oddProcedures) =
        [⟨"parse_S_prime", [⟨["\x22\\", "', '"],
            [.expect "\x22\x7d)) \x7b", .call "parse_if"]⟩, ⟨[], []⟩]⟩, ⟨"parse_if", []⟩]) ∧
      (∀ target : Target, target.dialect.text oddProcedures ≠ target.dialect.text []) ∧
      (Grammar.readText "S ::= a").outcome = .ok ⟨[⟨"S", [⟨"a", []⟩], "S ::= a", by decide⟩]⟩ ∧
      Cpp.SingleLine "a" := by
  have hfits : ∀ p ∈ oddProcedures, p.Compares Cpp.SingleLine := by
    have hlookahead : ∀ s ∈ ({"\x22\\", "', '"} : SymbolSet).toList, '\n' ∉ s.toList := by
      decide +kernel
    simp only [SymbolSet.mem_toList] at hlookahead
    simpa [oddProcedures, Procedure.Compares, Cpp.SingleLine] using hlookahead
  have hread : (Grammar.readText "S ::= a").outcome =
      .ok ⟨[⟨"S", [⟨"a", []⟩], "S ::= a", by decide⟩]⟩ := by decide +kernel
  refine ⟨hfits, fun target => ?_, fun target => ?_, hread, ?_⟩
  · rw [readSkeleton_text.1 target oddProcedures fun _ => hfits]
    decide +kernel
  · exact readSkeleton_text.2.1 target oddProcedures [] (fun _ => hfits)
      (fun _ _ hp => absurd hp List.not_mem_nil) (by decide +kernel)
  · exact (readSkeleton_text.2.2 _ _ hread).1 "a" (by decide +kernel)

end Predictive
