import Predictive.Proofs.IdentifierCharacters
import Predictive.Proofs.SkeletonOutcome
import Predictive.Proofs.SkeletonText

/-!
# The names in a Python skeleton

A skeleton in Python defines a function for each non-terminal and calls these functions. Their names
are made of word characters, of which some may not stand in identifiers. Main statement: the
functions that are defined are those of the non-terminals, the ones that are called are among them,
and their names are identifiers exactly when no non-terminal has a stray number in it
(`Python.namedAfter_of_skeletonText`), as one can have (`Python.not_isIdentifier_squared`).
-/

namespace Predictive

open Text

/-! ## The lines of a skeleton -/

namespace Dialect

variable {d : Dialect} {name line : String} {branches : List Branch} {p : Procedure}
  {procedures : List Procedure}

/-- A line of branches is one of a branch. -/
theorem mem_branchLines_of_mem_branchesLines (h : line ∈ d.branchesLines name branches) :
    ∃ b ∈ branches, ∃ chained, line ∈ d.branchLines name chained b := by
  cases branches with
  | nil => exact absurd h List.not_mem_nil
  | cons b rest =>
    rw [branchesLines, List.mem_append, List.mem_flatMap] at h
    rcases h with h | ⟨b', hb', h⟩
    · exact ⟨b, List.mem_cons_self, false, h⟩
    · exact ⟨b', List.mem_cons_of_mem b hb', true, h⟩

/-- The lines of the steps of a branch are among those of the branches, two levels deep. -/
theorem mem_branchesLines_of_mem_stepLines {b : Branch} {step : Step} (hb : b ∈ branches)
    (hstep : step ∈ b.steps) (h : line ∈ d.stepLines name step) :
    d.indent ++ d.indent ++ line ∈ d.branchesLines name branches := by
  have hbranch : ∀ chained, d.indent ++ d.indent ++ line ∈ d.branchLines name chained b := by
    intro chained
    rw [branchLines, List.mem_append, List.mem_append, List.mem_map]
    exact .inl (.inr ⟨line, List.mem_flatMap.2 ⟨step, hstep, h⟩, rfl⟩)
  cases branches with
  | nil => exact absurd hb List.not_mem_nil
  | cons b' rest =>
    rw [branchesLines, List.mem_append, List.mem_flatMap]
    rcases List.mem_cons.1 hb with rfl | hb
    · exact .inl (hbranch false)
    · exact .inr ⟨b, hb, hbranch true⟩

/-- The text of a procedure has its lines, and an empty one after them. -/
theorem split_procedureText (hheader : d.header p.name ≠ [])
    (h : ∀ line ∈ d.procedureLines p, '\n' ∉ line.toList) :
    split '\n' (d.procedureText p) = d.procedureLines p ++ [""] := by
  have hne : d.procedureLines p ≠ [] := by simp [procedureLines, hheader]
  have htext : d.procedureText p = "\n".intercalate (d.procedureLines p) ++ "\n" ++ "" := by
    rw [String.append_empty, procedureText]
  rw [htext, split_append_separator rfl, split_intercalate_of_not_mem rfl hne h]
  rfl

/-- The text of a skeleton has the lines of the procedures, and empty ones. -/
theorem mem_split_text_iff (hheader : ∀ name, d.header name ≠ [])
    (h : ∀ p ∈ procedures, ∀ line ∈ d.procedureLines p, '\n' ∉ line.toList) :
    line ∈ split '\n' (d.text procedures) ↔
      line = "" ∨ ∃ p ∈ procedures, line ∈ d.procedureLines p := by
  cases procedures with
  | nil =>
    have hempty : split '\n' (d.text []) = [""] := rfl
    simp [hempty]
  | cons p rest =>
    have hlines : ∀ q ∈ p :: rest, split '\n' (d.procedureText q) = d.procedureLines q ++ [""] :=
      fun q hq => split_procedureText (hheader q.name) (h q hq)
    rw [text, split_intercalate rfl (List.map_eq_nil_iff.not.2 (List.cons_ne_nil p rest)),
      List.flatMap_map, List.flatMap_congr hlines, List.mem_flatMap]
    constructor
    · rintro ⟨q, hq, hline⟩
      rcases List.mem_append.1 hline with hline | hline
      · exact .inr ⟨q, hq, hline⟩
      · exact .inl (List.mem_singleton.1 hline)
    · rintro (rfl | ⟨q, hq, hline⟩)
      · exact ⟨p, List.mem_cons_self, List.mem_append_right _ List.mem_cons_self⟩
      · exact ⟨q, hq, List.mem_append_left _ hline⟩

end Dialect

namespace Python

/-- A line of the source defines a function of the parser under this name. -/
def Defines (source name : String) : Prop := "def " ++ name ++ "(parser):" ∈ split '\n' source

/-- A line of the source, at the place of a step, calls a function of the parser by this name. -/
def Calls (source name : String) : Prop := "        " ++ name ++ "(parser)" ∈ split '\n' source

/-- The forms of the lines of a procedure; a line that calls does so for a step. -/
inductive Line (p : Procedure) : String → Prop
  | header : Line p ("def " ++ p.name ++ "(parser):")
  | guard (chained : Bool) (lookahead : List Symbol) :
    Line p ("    " ++ (if chained then "elif" else "if") ++ " parser.peek() in " ++
      setLiteral lookahead ++ ":")
  | expect (t : Symbol) : Line p ("        parser.match(" ++ quoted t ++ ")")
  | call (b : Branch) (s : Symbol) (hb : b ∈ p.branches) (hs : Step.call s ∈ b.steps) :
    Line p ("        " ++ procedureName s ++ "(parser)")
  | otherwise : Line p "    else:"
  | failure : Line p ("        raise SyntaxError(" ++ quoted ("Error in " ++ p.name) ++ ")")

variable {p : Procedure} {procedures : List Procedure} {line name : String}

/-- Every line of a procedure has one of the forms. -/
theorem line_of_mem_procedureLines (h : line ∈ dialect.procedureLines p) : Line p line := by
  simp only [Dialect.procedureLines, List.mem_append, List.mem_map] at h
  rcases h with ((hheader | hbranches) | ⟨rest, hfailure, rfl⟩) | hfooter
  · rw [List.mem_singleton.1 hheader]
    exact .header
  · obtain ⟨b, hb, chained, hline⟩ := Dialect.mem_branchLines_of_mem_branchesLines hbranches
    simp only [Dialect.branchLines, List.mem_append, List.mem_map, List.mem_flatMap] at hline
    rcases hline with (hguard | ⟨rest, ⟨step, hstep, hrest⟩, rfl⟩) | ⟨rest, hclose, -⟩
    · have heq : line = "    " ++ (if chained then "elif" else "if") ++ " parser.peek() in " ++
          setLiteral b.lookahead.toList ++ ":" := by
        rw [List.mem_singleton.1 hguard]
        simp [dialect, String.append_assoc]
      rw [heq]
      exact .guard chained b.lookahead.toList
    · cases step with
      | expect t =>
        have heq : dialect.indent ++ dialect.indent ++ rest =
            "        parser.match(" ++ quoted t ++ ")" := by
          rw [List.mem_singleton.1 hrest]
          simp [dialect, ← String.toList_inj]
        rw [heq]
        exact .expect t
      | call s =>
        have heq : dialect.indent ++ dialect.indent ++ rest =
            "        " ++ procedureName s ++ "(parser)" := by
          rw [List.mem_singleton.1 hrest]
          simp [dialect, ← String.toList_inj]
        rw [heq]
        exact .call b s hb hstep
    · exact absurd hclose List.not_mem_nil
  · rcases List.mem_cons.1 hfailure with rfl | hfailure
    · exact .otherwise
    · have heq : dialect.indent ++ rest =
          "        raise SyntaxError(" ++ quoted ("Error in " ++ p.name) ++ ")" := by
        rw [List.mem_singleton.1 hfailure]
        simp [dialect, ← String.toList_inj]
      rw [heq]
      exact .failure
  · exact absurd hfooter List.not_mem_nil

/-- No line of a procedure has a line end in it. -/
theorem Line.not_mem_newline (h : Line p line) : '\n' ∉ line.toList := by
  have hname : ∀ s, '\n' ∉ (procedureName s).toList := not_mem_procedureName isWordCharacter_newline
  cases h with
  | header => simp [Procedure.name, hname]
  | guard chained lookahead => cases chained <;> simp [not_mem_newline_setLiteral]
  | expect t => simp [not_mem_newline_quoted]
  | call b s => simp [hname]
  | otherwise => decide
  | failure => simp [not_mem_newline_quoted]

/-- A line with a quoted text right before its last character is no call. -/
theorem call_ne_quoted (start text : String) :
    "        " ++ name ++ "(parser)" ≠ start ++ quoted text ++ ")" := by
  intro heq
  have hquote : quoteFor text.toList ≠ 'r' := by
    rcases quoteFor_eq_or text.toList with h | h <;> rw [h] <;> decide
  have hlast : 'r' = quoteFor text.toList := by
    simpa [quoted, quoteChars] using congrArg (fun line => line.toList.reverse.tail.head?) heq
  exact hquote hlast.symm

/-- A procedure defines a function under its own name only. -/
theorem Line.eq_name_of_definition (h : Line p ("def " ++ name ++ "(parser):")) :
    p.name = name := by
  generalize heq : "def " ++ name ++ "(parser):" = line at h
  cases h with
  | header => simpa [eq_comm] using heq
  | guard | expect | call | otherwise | failure =>
    rw [← String.toList_inj] at heq
    simp at heq

/-- A procedure calls functions under the names of the symbols that its steps call. -/
theorem Line.exists_call (h : Line p ("        " ++ name ++ "(parser)")) :
    ∃ b ∈ p.branches, ∃ s, Step.call s ∈ b.steps ∧ procedureName s = name := by
  generalize heq : "        " ++ name ++ "(parser)" = line at h
  cases h with
  | call b s hb hs => exact ⟨b, hb, s, hs, by simpa [eq_comm] using heq⟩
  | expect t => exact absurd heq (call_ne_quoted _ t)
  | failure => exact absurd heq (call_ne_quoted _ _)
  -- The other lines are not indented as steps are.
  | guard chained lookahead =>
    rw [← String.toList_inj] at heq
    cases chained <;> simp at heq
  | header | otherwise =>
    rw [← String.toList_inj] at heq
    simp at heq

/-- The lines of a skeleton are those of the procedures, and empty ones. -/
theorem mem_split_text_iff :
    line ∈ split '\n' (dialect.text procedures) ↔
      line = "" ∨ ∃ p ∈ procedures, line ∈ dialect.procedureLines p :=
  Dialect.mem_split_text_iff (fun _ => List.cons_ne_nil _ _)
    fun _ _ _ hline => (line_of_mem_procedureLines hline).not_mem_newline

/-- The functions that are defined are those for the procedures. -/
theorem defines_text_iff :
    Defines (dialect.text procedures) name ↔ ∃ p ∈ procedures, p.name = name := by
  rw [Defines, mem_split_text_iff]
  constructor
  · rintro (hempty | ⟨p, hp, hline⟩)
    · simp at hempty
    · exact ⟨p, hp, (line_of_mem_procedureLines hline).eq_name_of_definition⟩
  · rintro ⟨p, hp, rfl⟩
    refine .inr ⟨p, hp, ?_⟩
    simp [Dialect.procedureLines, dialect]

/-- The functions that are called are those for the symbols that steps call. -/
theorem calls_text_iff :
    Calls (dialect.text procedures) name ↔
      ∃ s, (∃ p ∈ procedures, ∃ b ∈ p.branches, Step.call s ∈ b.steps) ∧
        procedureName s = name := by
  rw [Calls, mem_split_text_iff]
  constructor
  · rintro (hempty | ⟨p, hp, hline⟩)
    · simp at hempty
    · obtain ⟨b, hb, s, hs, hname⟩ := (line_of_mem_procedureLines hline).exists_call
      exact ⟨s, ⟨p, hp, b, hb, hs⟩, hname⟩
  · rintro ⟨s, ⟨p, hp, b, hb, hs⟩, rfl⟩
    refine .inr ⟨p, hp, ?_⟩
    have hline : procedureName s ++ "(parser)" ∈ dialect.stepLines p.name (.call s) :=
      List.mem_cons_self
    have hdeep := Dialect.mem_branchesLines_of_mem_stepLines hb hs hline
    rw [show dialect.indent ++ dialect.indent = "        " from rfl, ← String.append_assoc] at hdeep
    exact List.mem_append_left _ (List.mem_append_left _ (List.mem_append_right _ hdeep))

end Python

/-! ## The characters of names -/

/-- The name is an identifier of the form that the names of procedures have. -/
def IsIdentifier (name : String) : Prop :=
  "parse_".toList <+: name.toList ∧ ∀ c ∈ name.toList, isIdentifierCharacter c = true

variable {s : Symbol} {c : Char}

/-- The characters of names are word characters. -/
theorem isWordCharacter_of_mem_procedureName (h : c ∈ (procedureName s).toList) :
    isWordCharacter c = true := by
  by_contra hc
  exact not_mem_procedureName (Bool.eq_false_iff.2 hc) s h

/-- The stray numbers in a name are those of the non-terminal: none comes in, and none gives way to
another character. -/
theorem mem_procedureName_iff_of_isStrayNumber (hc : isStrayNumber c = true) :
    c ∈ (procedureName s).toList ↔ c ∈ s.toList := by
  -- These are the characters that can come in, and the one that cannot stay.
  have hother : ("parse_".toList ++ "_prime".toList ++ ['\x27']).all (!isStrayNumber ·) = true := by
    decide +kernel
  have hne : ∀ d ∈ "parse_".toList ++ "_prime".toList ++ ['\x27'], d ≠ c := by
    rintro d hd rfl
    have hplain := List.all_eq_true.1 hother d hd
    rw [hc] at hplain
    cases hplain
  have hword := (isWordCharacter_and_not_isIdentifierCharacter_iff.2 hc).1
  rw [procedureName_eq, String.toList_append, List.mem_append]
  simp only [procedureWord, String.toList_ofList, List.mem_map, replaceChar, List.mem_flatMap]
  constructor
  · rintro (hstart | ⟨d, ⟨e, he, hd⟩, hdc⟩)
    · exact absurd rfl (hne c (List.mem_append_left _ (List.mem_append_left _ hstart)))
    · split at hdc
      · subst hdc
        split at hd
        · exact absurd rfl (hne d (List.mem_append_left _ (List.mem_append_right _ hd)))
        · rw [List.mem_singleton.1 hd]
          exact he
      · exact absurd hdc (hne '_' (by decide))
  · intro hmem
    refine .inr ⟨c, ⟨c, hmem, ?_⟩, if_pos hword⟩
    rw [if_neg (hne '\x27' (by decide)).symm]
    exact List.mem_cons_self

/-- A name starts as all names do, and goes on with characters that may stand in identifiers and
with stray numbers. -/
theorem procedureName_spelt (s : Symbol) : "parse_".toList <+: (procedureName s).toList ∧
    ∀ c ∈ (procedureName s).toList, isIdentifierCharacter c = true ∨ isStrayNumber c = true := by
  refine ⟨toList_isPrefix_append _ _, fun c hc => or_iff_not_imp_left.2 fun hidentifier => ?_⟩
  exact isWordCharacter_and_not_isIdentifierCharacter_iff.1
    ⟨isWordCharacter_of_mem_procedureName hc, Bool.eq_false_iff.2 hidentifier⟩

/-- The name of a procedure is an identifier exactly when its non-terminal has no stray number in
it. -/
theorem isIdentifier_procedureName_iff :
    IsIdentifier (procedureName s) ↔ ∀ c ∈ s.toList, isStrayNumber c = false := by
  constructor
  · rintro ⟨-, hname⟩ c hmem
    by_contra hc
    rw [Bool.not_eq_false] at hc
    have hidentifier := (isWordCharacter_and_not_isIdentifierCharacter_iff.2 hc).2
    rw [hname c ((mem_procedureName_iff_of_isStrayNumber hc).2 hmem)] at hidentifier
    cases hidentifier
  · intro hnone
    obtain ⟨hstart, hname⟩ := procedureName_spelt s
    refine ⟨hstart, fun c hc => (hname c hc).resolve_right fun hstray => ?_⟩
    rw [hnone c ((mem_procedureName_iff_of_isStrayNumber hstray).1 hc)] at hstray
    cases hstray

/-! ## The names in a skeleton -/

namespace Python

/-- The functions that a source defines and calls, and their names, are those that the non-terminals
of a grammar ask for. -/
structure NamedAfter (g : Grammar) (source : String) : Prop where
  /-- The functions that are defined are those for the non-terminals. -/
  defines_iff : ∀ name, Defines source name ↔ ∃ s ∈ g.nonTerminals, procedureName s = name
  /-- The functions that are called are those for the non-terminals in alternatives of first
  rules. -/
  calls_iff : ∀ name, Calls source name ↔ ∃ s ∈ g.nonTerminals,
    (∃ owner, ∃ p ∈ g.alternativesOf owner, s ∈ p.symbols) ∧ procedureName s = name
  /-- A name starts as all names do, and goes on with characters that may stand in identifiers and
  with stray numbers. -/
  spelt : ∀ name, Defines source name ∨ Calls source name → "parse_".toList <+: name.toList ∧
    ∀ c ∈ name.toList, isIdentifierCharacter c = true ∨ isStrayNumber c = true
  /-- The name for a non-terminal is an identifier exactly when there is no stray number in the
  non-terminal. -/
  isIdentifier_iff : ∀ s ∈ g.nonTerminals,
    (IsIdentifier (procedureName s) ↔ ∀ c ∈ s.toList, isStrayNumber c = false)
  /-- All names are identifiers exactly when there is no stray number in any non-terminal. -/
  all_isIdentifier_iff : (∀ name, Defines source name ∨ Calls source name → IsIdentifier name) ↔
    ∀ s ∈ g.nonTerminals, ∀ c ∈ s.toList, isStrayNumber c = false

variable {g : Grammar} {source : String}

/-- The steps of a skeleton call the non-terminals in alternatives of first rules. -/
theorem exists_call_iff (h : g.skeleton.outcome = .ok procedures) :
    (∃ p ∈ procedures, ∃ b ∈ p.branches, Step.call s ∈ b.steps) ↔
      s ∈ g.nonTerminals ∧ ∃ owner, ∃ p ∈ g.alternativesOf owner, s ∈ p.symbols := by
  rw [Grammar.mem_nonTerminals_iff, ← Grammar.isTerminal_eq_false_iff]
  constructor
  · rintro ⟨procedure, hprocedure, b, hb, hs⟩
    obtain ⟨r, hr, hbranches⟩ := Grammar.exists_rule?_of_mem_skeleton h hprocedure
    obtain ⟨p, hp, hbranch⟩ := exists_mem_of_forall₂ hbranches.flip hb
    rw [hbranch.steps_eq] at hs
    obtain ⟨x, hx, hstep⟩ := List.mem_map.1 hs
    obtain ⟨hterminal, rfl⟩ := Grammar.step_eq_call_iff.1 hstep
    exact ⟨hterminal, procedure.nonTerminal, p, Grammar.mem_alternativesOf_iff.2 ⟨r, hr, hp⟩, hx⟩
  · rintro ⟨hterminal, owner, p, hp, hs⟩
    obtain ⟨r, hr, hp⟩ := Grammar.mem_alternativesOf_iff.1 hp
    obtain ⟨procedure, hfind⟩ := Grammar.exists_find?_of_skeleton h hr
    obtain ⟨r', hr', hbranches⟩ := Grammar.forall₂_isBranch_of_skeleton h hfind
    rw [hr] at hr'
    cases hr'
    obtain ⟨b, hb, hbranch⟩ := exists_mem_of_forall₂ hbranches hp
    refine ⟨procedure, List.mem_of_find?_eq_some hfind, b, hb, ?_⟩
    rw [hbranch.steps_eq, ← Grammar.step_eq_call_iff.2 ⟨hterminal, rfl⟩]
    exact List.mem_map_of_mem hs

/-- The functions that a skeleton in Python defines and calls are those for the non-terminals, and
their names are identifiers exactly when no non-terminal has a stray number in it. -/
theorem namedAfter_of_skeletonText (h : (g.skeletonText .python).outcome = .ok source) :
    NamedAfter g source := by
  obtain ⟨procedures, hprocedures, rfl⟩ := Grammar.outcome_skeletonText_eq_ok_iff.1 h
  have hdefines : ∀ name, Defines (dialect.text procedures) name ↔
      ∃ s ∈ g.nonTerminals, procedureName s = name := by
    intro name
    rw [defines_text_iff, ← Grammar.map_nonTerminal_of_skeleton hprocedures]
    simp [Procedure.name]
  have hcalls : ∀ name, Calls (dialect.text procedures) name ↔ ∃ s ∈ g.nonTerminals,
      (∃ owner, ∃ p ∈ g.alternativesOf owner, s ∈ p.symbols) ∧ procedureName s = name := by
    intro name
    rw [calls_text_iff]
    simp only [exists_call_iff hprocedures, and_assoc]
  have hnames : ∀ name, Defines (dialect.text procedures) name ∨
      Calls (dialect.text procedures) name → ∃ s ∈ g.nonTerminals, procedureName s = name := by
    rintro name (hdefined | hcalled)
    · exact (hdefines name).1 hdefined
    · obtain ⟨s, hs, -, hname⟩ := (hcalls name).1 hcalled
      exact ⟨s, hs, hname⟩
  refine ⟨hdefines, hcalls, fun name hname => ?_, fun s _ => isIdentifier_procedureName_iff,
    fun hall s hs => ?_, fun hnone name hname => ?_⟩
  · obtain ⟨s, -, rfl⟩ := hnames name hname
    exact procedureName_spelt s
  · have hdefined := (hdefines (procedureName s)).2 ⟨s, hs, rfl⟩
    exact isIdentifier_procedureName_iff.1 (hall _ (.inl hdefined))
  · obtain ⟨s, hs, rfl⟩ := hnames name hname
    exact isIdentifier_procedureName_iff.2 (hnone s hs)

/-- A grammar with an Ethiopic digit and a prime in its non-terminal. -/
def ethiopic : Grammar :=
  ⟨[⟨"x፩'", [⟨"a", ["x፩'"]⟩, ⟨"b", []⟩], "x፩' ::= a x፩' | b", by decide⟩]⟩

/-- The skeleton of this grammar. -/
def ethiopicSource : String :=
  "def parse_x፩_prime(parser):\n" ++
  "    if parser.peek() in \x7b'a'\x7d:\n" ++
  "        parser.match('a')\n" ++
  "        parse_x፩_prime(parser)\n" ++
  "    elif parser.peek() in \x7b'b'\x7d:\n" ++
  "        parser.match('b')\n" ++
  "    else:\n" ++
  "        raise SyntaxError('Error in parse_x፩_prime')\n"

/-- The digit is no decimal one, but identifiers may hold it. -/
theorem namedAfter_of_skeletonText_ethiopic :
    (Grammar.readText "x፩' ::= a x፩'\n | b\n").outcome = .ok ethiopic ∧
      (ethiopic.skeletonText .python).outcome = .ok ethiopicSource ∧
      NamedAfter ethiopic ethiopicSource ∧
      ∀ name, Defines ethiopicSource name ∨ Calls ethiopicSource name → IsIdentifier name := by
  have hread : (Grammar.readText "x፩' ::= a x፩'\n | b\n").outcome = .ok ethiopic := by
    decide +kernel
  have hsource : (ethiopic.skeletonText .python).outcome = .ok ethiopicSource := by decide +kernel
  have hnamed : NamedAfter ethiopic ethiopicSource := namedAfter_of_skeletonText hsource
  have hplain : ∀ s ∈ ethiopic.nonTerminals, s.toList.all (!isStrayNumber ·) = true := by
    decide +kernel
  refine ⟨hread, hsource, hnamed, hnamed.all_isIdentifier_iff.2 fun s hs c hc => ?_⟩
  simpa using List.all_eq_true.1 (hplain s hs) c hc

/-- A grammar with a superscript in its non-terminal. -/
def squared : Grammar := ⟨[⟨"x²", [⟨"a", []⟩], "x² ::= a", by decide⟩]⟩

/-- The skeleton of this grammar. -/
def squaredSource : String :=
  "def parse_x²(parser):\n" ++
  "    if parser.peek() in \x7b'a'\x7d:\n" ++
  "        parser.match('a')\n" ++
  "    else:\n" ++
  "        raise SyntaxError('Error in parse_x²')\n"

/-- A superscript stays in the name of a function, which then is no identifier. -/
theorem not_isIdentifier_squared :
    (Grammar.readText "x² ::= a\n").outcome = .ok squared ∧
      (squared.skeletonText .python).outcome = .ok squaredSource ∧
      Defines squaredSource "parse_x²" ∧ ¬ IsIdentifier "parse_x²" := by
  have hread : (Grammar.readText "x² ::= a\n").outcome = .ok squared := by decide +kernel
  have hsource : (squared.skeletonText .python).outcome = .ok squaredSource := by decide +kernel
  have hdefines : "def parse_x²(parser):" ∈ split '\n' squaredSource := by decide +kernel
  have hsquare : isIdentifierCharacter '²' = false := by decide +kernel
  refine ⟨hread, hsource, hdefines, fun hidentifier => ?_⟩
  rw [hidentifier.2 '²' (by decide)] at hsquare
  cases hsquare

end Python

end Predictive
