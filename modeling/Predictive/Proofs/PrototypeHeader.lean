import Predictive.Proofs.SkeletonOutcome
import Predictive.Proofs.SkeletonText
import Predictive.Skeleton.Prototypes

/-!
# What the prototypes declare

The prototypes are a header in C++, in which every rule has a comment and a declaration. A compiler
puts a line that ends in a backslash together with the next one before it takes the comments away.
Main statement: what is left of the prototypes of a grammar that is read from a text are the
declarations for the rules whose lines do not end in a backslash, one for each of them and in order;
so the header declares every procedure exactly if no line of a rule ends in a backslash
(`Grammar.codeLines_prototypes`).
-/

namespace Predictive

open Text Layout

namespace Cpp

/-- Without the backslashes at the ends of lines, and without these line ends. -/
def splice : List Char → List Char
  | [] => []
  | '\\' :: '\n' :: rest => splice rest
  | c :: rest => c :: splice rest

/-- A line without the comment that it may end with. -/
def uncomment (line : String) : String :=
  match cut "//" line with
  | none => line
  | some (code, _) => code

/-- Whether there is something on a line besides blanks. -/
def holdsCode (line : String) : Bool := line.toList.any (!isBlank ·)

/-- The lines with code of a text, once lines that end in a backslash are put together with the next
ones and comments are taken away. -/
def codeLines (text : String) : List String :=
  ((split '\n' (String.ofList (splice text.toList))).map uncomment).filter holdsCode

end Cpp

open Cpp

/-- The declaration of the procedure for a rule. -/
def Rule.declaration (r : Rule) : String := "void " ++ procedureName r.nonTerminal ++ "();"

/-- The line that a rule was read from ends in a backslash. -/
def Rule.IsContinued (r : Rule) : Prop := r.line.toList.getLast? = some '\\'

instance (r : Rule) : Decidable r.IsContinued :=
  inferInstanceAs (Decidable (r.line.toList.getLast? = some '\\'))

variable {x y : String} {r : Rule} {g : Grammar} {text : String}

/-- A declaration has no line end in it. -/
theorem Rule.not_mem_newline_declaration (r : Rule) : '\n' ∉ r.declaration.toList := by
  simp [Rule.declaration, not_mem_procedureName isWordCharacter_newline]

/-- A declaration ends in a semicolon. -/
theorem Rule.getLast?_declaration (r : Rule) : r.declaration.toList.getLast? = some ';' := by
  rw [Rule.declaration, String.toList_append, List.getLast?_append,
    show "();".toList.getLast? = some ';' from rfl]
  rfl

namespace Cpp

/-! ## Lines of code -/

/-- A character stays, unless it is a backslash before a line end. -/
theorem splice_cons {c : Char} {rest : List Char} (h : c = '\\' → rest.head? ≠ some '\n') :
    splice (c :: rest) = c :: splice rest := by
  rw [splice]
  intro rest' hc hrest
  rw [hrest] at h
  exact h hc rfl

/-- What is before the end of a line stays, unless a backslash there meets the line end. -/
theorem splice_append {xs ys : List Char} (hxs : '\n' ∉ xs)
    (h : xs.getLast? = some '\\' → ys.head? ≠ some '\n') :
    splice (xs ++ ys) = xs ++ splice ys := by
  induction xs with
  | nil => rfl
  | cons c xs ih =>
    obtain ⟨-, hxs⟩ := List.ne_and_not_mem_of_not_mem_cons hxs
    have hnext : c = '\\' → (xs ++ ys).head? ≠ some '\n' := by
      cases xs with
      | nil =>
        intro hc
        exact h (by rw [hc]; rfl)
      | cons d xs =>
        intro _ hd
        rw [List.cons_append, List.head?_cons, Option.some.injEq] at hd
        exact hxs (hd ▸ List.mem_cons_self)
    have hrest : xs.getLast? = some '\\' → ys.head? ≠ some '\n' := by
      intro hlast
      refine h ?_
      rw [List.getLast?_cons, hlast]
      rfl
    rw [List.cons_append, splice_cons hnext, ih hxs hrest, List.cons_append]

/-- A line that does not end in a backslash is a line of its own. -/
theorem codeLines_append_newline (hx : '\n' ∉ x.toList) (hend : x.toList.getLast? ≠ some '\\')
    (y : String) :
    codeLines (x ++ "\n" ++ y) = [uncomment x].filter holdsCode ++ codeLines y := by
  have hchars : (x ++ "\n" ++ y).toList = x.toList ++ '\n' :: y.toList := by simp
  have hspliced : splice (x.toList ++ '\n' :: y.toList) = x.toList ++ '\n' :: splice y.toList := by
    rw [splice_append hx fun h => absurd h hend, splice_cons fun h => absurd h (by decide)]
  rw [codeLines, codeLines, split, split, hchars, hspliced, String.toList_ofList,
    String.toList_ofList, pieces_append_cons hx, List.map_cons, List.map_cons,
    String.ofList_toList, ← List.filter_append]
  rfl

/-- A line that ends in a backslash goes on with the next line. -/
theorem codeLines_append_backslash (hx : '\n' ∉ x.toList) (hend : y.toList.head? ≠ some '\n') :
    codeLines (x ++ "\\\n" ++ y) = codeLines (x ++ y) := by
  have hchars : (x ++ "\\\n" ++ y).toList = x.toList ++ '\\' :: '\n' :: y.toList := by simp
  have hspliced :
      splice (x.toList ++ '\\' :: '\n' :: y.toList) = splice (x.toList ++ y.toList) := by
    rw [splice_append hx (by simp), splice_append hx fun _ => hend, splice]
  rw [codeLines, codeLines, hchars, hspliced, String.toList_append]

/-- Nothing is left of a comment. -/
theorem uncomment_comment (x : String) : uncomment ("//" ++ x) = "" := by
  have hcut : cutAtFirst "//".toList ("//" ++ x).toList = some ([], x.toList) := by
    rw [String.toList_append]
    rfl
  rw [uncomment, cut, hcut]
  rfl

/-- A declaration holds no comment. -/
theorem uncomment_declaration (r : Rule) : uncomment r.declaration = r.declaration := by
  have hslash : '/' ∉ r.declaration.toList := by
    simp [Rule.declaration, not_mem_procedureName (by decide +kernel : isWordCharacter '/' = false)]
  have hcut : cutAtFirst "//".toList r.declaration.toList = none :=
    cutAtFirst_eq_none_iff.2 fun hplace => hslash (hplace.subset (by decide))
  rw [uncomment, cut, hcut]
  rfl

/-- A line that holds nothing but a comment leaves nothing, if it does not end in a backslash. -/
theorem codeLines_comment (hx : '\n' ∉ x.toList) (hend : x.toList.getLast? ≠ some '\\')
    (y : String) : codeLines ("//" ++ x ++ "\n" ++ y) = codeLines y := by
  have hnewline : '\n' ∉ ("//" ++ x).toList := by simp [hx]
  have hlast : ("//" ++ x).toList.getLast? ≠ some '\\' := by
    rw [String.toList_append, List.getLast?_append]
    cases hlast : x.toList.getLast? with
    | none => decide
    | some c => rwa [hlast] at hend
  have hnothing : [""].filter holdsCode = [] := rfl
  rw [codeLines_append_newline hnewline hlast, uncomment_comment, hnothing, List.nil_append]

/-- An empty line leaves nothing. -/
theorem codeLines_newline_append (y : String) : codeLines ("\n" ++ y) = codeLines y := by
  have hempty : codeLines ("" ++ "\n" ++ y) = codeLines y := by
    have hnothing : [uncomment ""].filter holdsCode = [] := by decide
    rw [codeLines_append_newline List.not_mem_nil (by decide), hnothing, List.nil_append]
  rwa [String.empty_append] at hempty

/-- The line of a declaration is left, and the blank line after it is not. -/
theorem codeLines_declaration (r : Rule) (y : String) :
    codeLines (r.declaration ++ "\n" ++ ("\n" ++ y)) = r.declaration :: codeLines y := by
  have hlast : r.declaration.toList.getLast? ≠ some '\\' := by
    rw [r.getLast?_declaration]
    decide
  have hcode : holdsCode r.declaration = true := by
    rw [holdsCode, List.any_eq_true]
    exact ⟨'v', by simp [Rule.declaration], by decide⟩
  rw [codeLines_append_newline r.not_mem_newline_declaration hlast, uncomment_declaration,
    codeLines_newline_append]
  simp [hcode]

end Cpp

/-! ## The header -/

/-- What is left of the prototype of a rule is its declaration, unless its line ends in a
backslash. -/
theorem Rule.codeLines_prototype_append (hne : r.line ≠ "") (hline : '\n' ∉ r.line.toList)
    (rest : String) :
    codeLines (r.prototype ++ rest) =
      (if r.IsContinued then [] else [r.declaration]) ++ codeLines rest := by
  have hprototype : r.prototype ++ rest =
      "//" ++ (" " ++ r.line) ++ "\n" ++ (r.declaration ++ "\n" ++ ("\n" ++ rest)) := by
    simp [Rule.prototype, Rule.caption, Rule.declaration, hne, ← String.toList_inj]
  have hspace : '\n' ∉ (" " ++ r.line).toList := by simp [hline]
  by_cases hcontinued : r.IsContinued
  · -- The declaration comes to stand in the comment.
    obtain ⟨init, hinit⟩ := List.getLast?_eq_some_iff.1 hcontinued
    have hopen : "//" ++ (" " ++ r.line) ++ "\n" = "// " ++ String.ofList init ++ "\\\n" := by
      simp [← String.toList_inj, hinit]
    have hclose : "// " ++ String.ofList init ++ (r.declaration ++ "\n" ++ ("\n" ++ rest)) =
        "//" ++ (" " ++ String.ofList init ++ r.declaration) ++ "\n" ++ ("\n" ++ rest) := by
      simp [← String.toList_inj]
    rw [hinit, List.mem_append, not_or] at hline
    have hinside : '\n' ∉ (" " ++ String.ofList init ++ r.declaration).toList := by
      simp [hline.1, r.not_mem_newline_declaration]
    have hlast : (" " ++ String.ofList init ++ r.declaration).toList.getLast? ≠ some '\\' := by
      rw [String.toList_append, List.getLast?_append, r.getLast?_declaration]
      simp
    rw [hprototype, hopen, codeLines_append_backslash (by simp [hline.1]) (by simp [declaration]),
      hclose, codeLines_comment hinside hlast, codeLines_newline_append, if_pos hcontinued,
      List.nil_append]
  · have hlast : (" " ++ r.line).toList.getLast? ≠ some '\\' := by
      rw [String.toList_append, List.getLast?_append]
      cases hlast : r.line.toList.getLast? with
      | none => decide
      | some c => rwa [IsContinued, hlast] at hcontinued
    rw [hprototype, codeLines_comment hspace hlast, codeLines_declaration, if_neg hcontinued,
      List.singleton_append]

/-- The rules of a grammar that is read from a text keep plain lines. -/
theorem Grammar.isPlain_line_of_readText (h : (readText text).outcome = .ok g) (hr : r ∈ g.rules) :
    IsPlain r.line := by
  obtain ⟨logical, hlogical, hlines⟩ : ∃ logical,
      logicalLines (physicalLines text) = .ok logical ∧ (readLines logical).outcome = .ok g := by
    simpa [readText, bind_eq_ok_iff] using h
  obtain ⟨line, hline, hrule⟩ :=
    exists_mem_of_forall₂ (outcome_readLines_eq_ok_iff.1 hlines).flip hr
  rw [(ofLine_eq_ok_iff.1 hrule).1]
  exact isPlain_of_mem_logicalLines hlogical hline

/-- What is left of the prototypes of rules with plain lines. -/
theorem codeLines_join_prototypes {rules : List Rule} (hplain : ∀ r ∈ rules, IsPlain r.line) :
    codeLines (String.join (rules.map Rule.prototype)) =
      (rules.filter fun r => ¬ r.IsContinued).map Rule.declaration := by
  induction rules with
  | nil => rfl
  | cons r rules ih =>
    obtain ⟨hr, hrules⟩ := List.forall_mem_cons.1 hplain
    rw [List.map_cons, String.join_cons,
      r.codeLines_prototype_append hr.ne_empty hr.not_mem_newline, ih hrules]
    by_cases hcontinued : r.IsContinued <;> simp [hcontinued]

/-- The header of a grammar that is read from a text declares the procedures for the rules whose
lines do not end in a backslash, in order, and nothing else is left of it; so all rules have their
declarations exactly if no line ends in a backslash, and then the procedures that are declared are
those that the skeleton in C++ defines. -/
theorem Grammar.codeLines_prototypes (h : (readText text).outcome = .ok g) :
    codeLines g.prototypes = (g.rules.filter fun r => ¬ r.IsContinued).map Rule.declaration ∧
      (codeLines g.prototypes = g.rules.map Rule.declaration ↔
        ∀ r ∈ g.rules, ¬ r.IsContinued) ∧
      ((∀ r ∈ g.rules, ¬ r.IsContinued) → ∀ source, (g.skeletonText .cpp).outcome = .ok source →
        ∀ name, "void " ++ name ++ "();" ∈ codeLines g.prototypes ↔
          name ∈ (Target.cpp.readSkeleton source).map Outline.name) := by
  have hlines : codeLines g.prototypes =
      (g.rules.filter fun r => ¬ r.IsContinued).map Rule.declaration :=
    codeLines_join_prototypes fun r hr => isPlain_line_of_readText h hr
  have hall : codeLines g.prototypes = g.rules.map Rule.declaration ↔
      ∀ r ∈ g.rules, ¬ r.IsContinued := by
    rw [hlines]
    constructor
    · intro heq
      have hlength := congrArg List.length heq
      rw [List.length_map, List.length_map, List.length_filter_eq_length_iff] at hlength
      simpa using hlength
    · intro hnone
      rw [List.filter_eq_self.2 (by simpa using hnone)]
  refine ⟨hlines, hall, fun hnone source hsource name => ?_⟩
  obtain ⟨procedures, hprocedures, rfl⟩ := outcome_skeletonText_eq_ok_iff.1 hsource
  -- What is defined are the procedures for the non-terminals, which are the left sides of rules.
  have hdefined : (Target.cpp.readSkeleton (Target.cpp.dialect.text procedures)).map Outline.name =
      g.nonTerminals.map procedureName := by
    rw [Target.readSkeleton_of_compares (compares_singleLine_of_readText h hprocedures),
      ← map_nonTerminal_of_skeleton hprocedures, List.map_map, List.map_map]
    rfl
  have hname : ∀ r : Rule, r.declaration = "void " ++ name ++ "();" ↔
      procedureName r.nonTerminal = name := by
    intro r
    rw [Rule.declaration, String.append_left_inj, String.append_right_inj]
  rw [hall.2 hnone, hdefined, List.mem_map, List.mem_map]
  simp only [hname, mem_nonTerminals_iff]
  constructor
  · rintro ⟨r, hr, heq⟩
    exact ⟨r.nonTerminal, ⟨r, hr, rfl⟩, heq⟩
  · rintro ⟨s, ⟨r, hr, rfl⟩, heq⟩
    exact ⟨r, hr, heq⟩

/-- A grammar in which backslashes stand on both lines, but at the end of neither. -/
def backslashes : Grammar :=
  ⟨[⟨"S", [⟨"\\", ["S'"]⟩, ⟨"//", []⟩], "S ::= \\ S' | //", by decide⟩,
    ⟨"S'", [⟨"\\\\n", []⟩], "S' ::= \\\\n", by decide⟩]⟩

/-- The procedures for this grammar. -/
def backslashProcedures : List Procedure :=
  [⟨"S", [⟨{"\\"}, [.expect "\\", .call "S'"]⟩, ⟨{"//"}, [.expect "//"]⟩]⟩,
    ⟨"S'", [⟨{"\\\\n"}, [.expect "\\\\n"]⟩]⟩]

theorem Grammar.codeLines_prototypes_backslashes :
    (readText "S ::= \\ S'\n | //\n\nS' ::= \\\\n\n").outcome = .ok backslashes ∧
      (∀ r ∈ backslashes.rules, ¬ r.IsContinued) ∧
      (backslashes.skeletonText .cpp).outcome = .ok (Target.cpp.dialect.text backslashProcedures) ∧
      codeLines backslashes.prototypes = ["void parse_S();", "void parse_S_prime();"] ∧
      ∀ name, "void " ++ name ++ "();" ∈ codeLines backslashes.prototypes ↔
        name ∈ (Target.cpp.readSkeleton (Target.cpp.dialect.text backslashProcedures)).map
          Outline.name := by
  have hread : (readText "S ::= \\ S'\n | //\n\nS' ::= \\\\n\n").outcome = .ok backslashes := by
    decide +kernel
  have hnone : ∀ r ∈ backslashes.rules, ¬ r.IsContinued := by decide +kernel
  have hskeleton : backslashes.skeleton.outcome = .ok backslashProcedures := by decide +kernel
  have hsource : (backslashes.skeletonText .cpp).outcome =
      .ok (Target.cpp.dialect.text backslashProcedures) :=
    outcome_skeletonText_eq_ok_iff.2 ⟨_, hskeleton, rfl⟩
  obtain ⟨-, hall, hnames⟩ := codeLines_prototypes hread
  exact ⟨hread, hnone, hsource, (hall.2 hnone).trans (by decide +kernel), hnames hnone _ hsource⟩

/-- A grammar with a rule whose line ends in a backslash. -/
def swallowed : Grammar := ⟨[⟨"S", [⟨"a", ["\\"]⟩], "S ::= a \\", by decide⟩]⟩

/-- The procedure for this grammar. -/
def swallowedProcedures : List Procedure := [⟨"S", [⟨{"a"}, [.expect "a", .expect "\\"]⟩]⟩]

/-- The declaration for a rule whose line ends in a backslash is lost, although its procedure is
defined. -/
theorem Grammar.codeLines_prototypes_swallowed :
    (readText "S ::= a \\\n").outcome = .ok swallowed ∧
      swallowed.rules.map Rule.declaration = ["void parse_S();"] ∧
      codeLines swallowed.prototypes = [] ∧
      (swallowed.skeletonText .cpp).outcome = .ok (Target.cpp.dialect.text swallowedProcedures) ∧
      (Target.cpp.readSkeleton (Target.cpp.dialect.text swallowedProcedures)).map Outline.name =
        ["parse_S"] := by
  have hread : (readText "S ::= a \\\n").outcome = .ok swallowed := by decide +kernel
  have hskeleton : swallowed.skeleton.outcome = .ok swallowedProcedures := by decide +kernel
  refine ⟨hread, by decide +kernel, by decide +kernel,
    outcome_skeletonText_eq_ok_iff.2 ⟨_, hskeleton, rfl⟩, ?_⟩
  rw [Target.readSkeleton_of_compares (compares_singleLine_of_readText hread hskeleton)]
  decide +kernel

end Predictive
