import Mathlib.Logic.Relation
import Predictive.Proofs.LogicalLines

/-!
# The layout of a text does not matter

A text is laid out anew by edits of its lines: blank lines and comments are put between them, blanks
around a line are changed, quotes of one kind are exchanged for the other, and a line is broken at
blanks where no rule starts after them. Main statement: no sequence of such edits changes what a
text says, or that it is malformed (`readText_relaid`).

All edits but the last leave the physical lines as they are; the last may break one of them in two
(`Edit.filterMap_plainLine`). Where a rule starts, and what a logical line says, is a matter of
words and sides only, so the argument carries along that groups of lines have these in common
(`SameGroups`).
-/

namespace Predictive

open Text Relation

namespace Layout

/-- A line from which nothing is left. -/
def IsFiller (line : String) : Prop := Blanks line.toList ∨ IsComment line

/-- Both kinds of quotes. -/
def quotes : List Char := ['\x22', '\x27']

/-- The lines of a text are laid out anew in one place. -/
inductive Edit : List String → List String → Prop
  /-- A blank line or a comment is put somewhere. -/
  | fill {before after : List String} {filler : String} (hfiller : IsFiller filler) :
    Edit (before ++ after) (before ++ filler :: after)
  /-- The blanks around a line are changed. -/
  | pad {before after : List String} {u v u' v' : String} (line : String) (hu : Blanks u.toList)
      (hv : Blanks v.toList) (hu' : Blanks u'.toList) (hv' : Blanks v'.toList) :
    Edit (before ++ (u ++ line ++ v) :: after) (before ++ (u' ++ line ++ v') :: after)
  /-- A quote gives way to one of the other kind. -/
  | quote {before after : List String} {q q' : Char} (x y : String) (hq : q ∈ quotes)
      (hq' : q' ∈ quotes) :
    Edit (before ++ (x ++ String.singleton q ++ y) :: after)
      (before ++ (x ++ String.singleton q' ++ y) :: after)
  /-- A line that is no comment is broken at blanks, and blank lines, comments and an indentation
  are put there; no rule and no comment starts in what comes after the blanks. -/
  | wrap {before after : List String} {x u y indent : String} {fillers : List String}
      (hline : ¬ IsComment (x ++ u ++ y)) (hu : Blanks u.toList) (hne : u ≠ "")
      (hmark : ¬ ruleMark.toList <:+: y.toList) (hcomment : ¬ IsComment y)
      (hfillers : ∀ filler ∈ fillers, IsFiller filler) (hindent : Blanks indent.toList) :
    Edit (before ++ (x ++ u ++ y) :: after) (before ++ x :: (fillers ++ (indent ++ y) :: after))

/-- A text is laid out anew in one place. -/
def Relaid (text text' : String) : Prop := Edit (split '\n' text) (split '\n' text')

/-- A physical line is broken at blanks, and no rule starts after them. -/
inductive Broken : List String → List String → Prop
  | mk {before after : List String} {x v y : String} (hv : Blanks v.toList) (hne : v ≠ "")
      (hmark : ¬ ruleMark.toList <:+: y.toList) :
    Broken (before ++ (x ++ v ++ y) :: after) (before ++ x :: y :: after)

/-- Lines are put into groups that have the same words and sides, group by group. -/
structure SameGroups (lines lines' : List String) : Prop where
  /-- There are lines before the first group in both or in none. -/
  before_eq_nil_iff : (groups lines).1 = [] ↔ (groups lines').1 = []
  /-- The lines before the first group have the same words and sides. -/
  alike_before : Alike (" ".intercalate (groups lines).1) (" ".intercalate (groups lines').1)
  /-- The groups have the same sides. -/
  sides_eq : (groups lines).2.map (fun group => lineSides (" ".intercalate group)) =
    (groups lines').2.map fun group => lineSides (" ".intercalate group)

variable {lines lines' logical : List String} {text text' x y v : String}

/-! ## Edits and physical lines -/

/-- Of blank lines and comments nothing is left. -/
theorem filterMap_plainLine_of_isFiller (h : ∀ line ∈ lines, IsFiller line) :
    lines.filterMap plainLine = [] :=
  List.filterMap_eq_nil_iff.2 fun line hline => plainLine_eq_none_iff.2 (h line hline)

/-- What is left of a line does not depend on the kind of a quote in it. -/
theorem plainLine_quote {q q' : Char} (x y : String) (hq : q ∈ quotes) (hq' : q' ∈ quotes) :
    plainLine (x ++ String.singleton q ++ y) = plainLine (x ++ String.singleton q' ++ y) := by
  have hquotes : ∀ q ∈ quotes, unquoted q = '\x27' := by simp [quotes, unquoted]
  refine plainLine_eq_of_replace_quote_eq ?_
  rw [← String.toList_inj, toList_replace_quote, toList_replace_quote]
  simp [hquotes q hq, hquotes q' hq']

/-- An edit changes nothing in what is left of the lines, or else it breaks one of the lines that
are left. -/
theorem Edit.filterMap_plainLine (h : Edit lines lines') :
    lines.filterMap plainLine = lines'.filterMap plainLine ∨
      Broken (lines.filterMap plainLine) (lines'.filterMap plainLine) := by
  cases h with
  | fill hfiller =>
    left
    rw [List.filterMap_append, List.filterMap_append, List.filterMap_cons,
      plainLine_eq_none_iff.2 hfiller]
  | pad line hu hv hu' hv' =>
    left
    rw [List.filterMap_append, List.filterMap_append, List.filterMap_cons, List.filterMap_cons,
      plainLine_pad hu hv, plainLine_pad hu' hv']
  | quote x y hq hq' =>
    left
    rw [List.filterMap_append, List.filterMap_append, List.filterMap_cons, List.filterMap_cons,
      plainLine_quote x y hq hq']
  | @wrap before after x u y indent fillers hline hu hne hmark hcomment hfillers hindent =>
    rw [List.filterMap_append, List.filterMap_append, List.filterMap_cons, List.filterMap_cons,
      List.filterMap_append, List.filterMap_cons, filterMap_plainLine_of_isFiller hfillers,
      plainLine_blanks_append hindent, List.nil_append]
    by_cases hx : Blanks x.toList
    · -- The line is what comes after the blanks.
      have hxu : Blanks (x ++ u).toList := by
        rw [String.toList_append, blanks_append_iff]
        exact ⟨hx, hu⟩
      left
      rw [plainLine_blanks_append hxu, plainLine_eq_none_iff.2 (.inl hx)]
    · by_cases hy : Blanks y.toList
      · -- The line is what comes before the blanks.
        have huy : Blanks (u ++ y).toList := by
          rw [String.toList_append, blanks_append_iff]
          exact ⟨hu, hy⟩
        left
        rw [String.append_assoc, plainLine_append_blanks huy, plainLine_eq_none_iff.2 (.inl hy)]
      · obtain ⟨x', v, y', hx', hy', hv, hvne, hwhole⟩ :=
          exists_plainLine_append_eq hu hne hx hy hline hcomment
        right
        rw [hwhole, hx', hy']
        exact .mk hv hvne fun hpart =>
          hmark (isInfix_of_plainLine (by decide) (by decide) hy' hpart)

/-- An edit of a text leaves its physical lines alone or breaks one of them. -/
theorem Relaid.physicalLines (h : Relaid text text') :
    physicalLines text = physicalLines text' ∨
      Broken (physicalLines text) (physicalLines text') := by
  rw [physicalLines_eq, physicalLines_eq]
  exact h.filterMap_plainLine

/-! ## Groups -/

/-- Groups of the same lines are the same. -/
theorem SameGroups.refl (lines : List String) : SameGroups lines lines :=
  ⟨Iff.rfl, Alike.refl _, rfl⟩

/-- It does not matter which of two lists of lines with the same groups comes first. -/
theorem SameGroups.symm (h : SameGroups lines lines') : SameGroups lines' lines :=
  ⟨h.before_eq_nil_iff.symm, h.alike_before.symm, h.sides_eq.symm⟩

/-- Groups are the same if both first lines start rules or neither does, and the first lines have
the same words and sides with the lines that were waiting, and the later groups are the same. -/
theorem sameGroups_cons {line line' : String}
    (hstarts : startsRule line = true ↔ startsRule line' = true)
    (halike : Alike (" ".intercalate (line :: (groups lines).1))
      (" ".intercalate (line' :: (groups lines').1)))
    (hsides : (groups lines).2.map (fun group => lineSides (" ".intercalate group)) =
      (groups lines').2.map fun group => lineSides (" ".intercalate group)) :
    SameGroups (line :: lines) (line' :: lines') := by
  by_cases hline : startsRule line = true
  · have hgroups := groups_cons_of_startsRule hline lines
    have hgroups' := groups_cons_of_startsRule (hstarts.1 hline) lines'
    constructor
    · rw [hgroups, hgroups']
    · rw [hgroups, hgroups']
      exact Alike.refl _
    · rw [hgroups, hgroups', List.map_cons, List.map_cons, halike.lineSides_eq, hsides]
  · have hgroups := groups_cons_of_not_startsRule hline lines
    have hgroups' := groups_cons_of_not_startsRule (fun h => hline (hstarts.2 h)) lines'
    constructor
    · simp [hgroups, hgroups']
    · rwa [hgroups, hgroups']
    · rw [hgroups, hgroups', hsides]

/-- Groups stay the same when a line is put before all lines. -/
theorem SameGroups.cons (h : SameGroups lines lines') (line : String) :
    SameGroups (line :: lines) (line :: lines') :=
  sameGroups_cons Iff.rfl (Alike.intercalate_cons h.before_eq_nil_iff h.alike_before line)
    h.sides_eq

/-- Groups are the same before and after the first line is broken. -/
theorem sameGroups_break (hv : Blanks v.toList) (hne : v ≠ "")
    (hmark : ¬ ruleMark.toList <:+: y.toList) (x : String) (lines : List String) :
    SameGroups ((x ++ v ++ y) :: lines) (x :: y :: lines) := by
  -- What comes after the blanks waits for what comes before them, and for nothing else.
  have hy : ¬ startsRule y = true := fun h => hmark (startsRule_iff.1 h)
  have hgroups := groups_cons_of_not_startsRule hy lines
  refine sameGroups_cons ?_ ?_ ?_
  · rw [startsRule_iff, startsRule_iff, ruleMark_infix_append_iff hv hne, or_iff_left hmark]
  · rw [hgroups]
    exact Alike.intercalate_break hv hne x y (groups lines).1
  · rw [hgroups]

/-- Groups are the same before and after a line is broken. -/
theorem Broken.sameGroups (h : Broken lines lines') : SameGroups lines lines' := by
  obtain ⟨hv, hne, hmark⟩ := h
  rename_i before after x v y
  induction before with
  | nil => exact sameGroups_break hv hne hmark x after
  | cons line before ih => exact ih.cons line

/-- Logical lines that are put together from the same groups say the same. -/
theorem SameGroups.exists_logicalLines {definitions : List (Symbol × List Production)}
    (h : SameGroups lines lines') (hlogical : logicalLines lines = .ok logical)
    (hsaid : List.Forall₂ Says logical definitions) :
    ∃ logical', logicalLines lines' = .ok logical' ∧ List.Forall₂ Says logical' definitions := by
  obtain ⟨hbefore, hne, rfl⟩ := logicalLines_eq_ok_iff.1 hlogical
  have hne' : (groups lines').2 ≠ [] := by
    intro hnil
    have hsides := h.sides_eq
    rw [hnil, List.map_nil, List.map_eq_nil_iff] at hsides
    exact hne hsides
  refine ⟨_, logicalLines_eq_ok_iff.2 ⟨h.before_eq_nil_iff.1 hbefore, hne', rfl⟩, ?_⟩
  rw [List.forall₂_map_left_iff] at hsaid ⊢
  refine forall₂_of_map_eq (fun group group' definition hsides => ?_) h.sides_eq hsaid
  exact Says.of_lineSides_eq hsides

end Layout

namespace Grammar

open Layout

variable {text text' : String}

/-- Texts say the same whose lines are put into the same groups. -/
theorem Reads.of_sameGroups {definitions : List (Symbol × List Production)}
    (hsame : SameGroups (physicalLines text) (physicalLines text')) (h : Reads text definitions) :
    Reads text' definitions := by
  obtain ⟨logical, hlogical, hsaid⟩ := reads_iff.1 h
  exact reads_iff.2 (hsame.exists_logicalLines hlogical hsaid)

/-- One edit makes no difference to what a text says. -/
theorem reads_iff_of_relaid {definitions : List (Symbol × List Production)}
    (h : Relaid text text') : Reads text definitions ↔ Reads text' definitions := by
  have hsame : SameGroups (physicalLines text) (physicalLines text') := by
    rcases h.physicalLines with heq | hbroken
    · rw [heq]
      exact SameGroups.refl _
    · exact hbroken.sameGroups
  exact ⟨Reads.of_sameGroups hsame, Reads.of_sameGroups hsame.symm⟩

/-- Any number of edits makes no difference to what a text says. -/
theorem reads_iff_of_reflTransGen_relaid {definitions : List (Symbol × List Production)}
    (h : ReflTransGen Relaid text text') : Reads text definitions ↔ Reads text' definitions := by
  induction h with
  | refl => rfl
  | tail _ hstep ih => exact ih.trans (reads_iff_of_relaid hstep)

/-- A text and what it becomes when it is laid out anew, in any number of places, are both read, and
then the grammars agree, or they are both malformed. -/
theorem readText_relaid (h : ReflTransGen Relaid text text') :
    (∃ g g', (readText text).outcome = .ok g ∧ (readText text').outcome = .ok g' ∧
      g.agrees g' = true) ∨
    ∃ e e', (readText text).outcome = .error e ∧ (readText text').outcome = .error e' := by
  cases hread : (readText text).outcome with
  | ok g =>
    obtain ⟨g', hg', hsame⟩ := (reads_iff_of_reflTransGen_relaid h).1 ⟨g, hread, rfl⟩
    exact .inl ⟨g, g', rfl, hg', agrees_iff.2 hsame.symm⟩
  | error e =>
    cases hread' : (readText text').outcome with
    | ok g' =>
      obtain ⟨g, hg, -⟩ := (reads_iff_of_reflTransGen_relaid h).2 ⟨g', hread', rfl⟩
      rw [hread] at hg
      cases hg
    | error e' => exact .inr ⟨e, e', rfl, rfl⟩

/-- A quote is exchanged, and the rule goes on on another line after a comment. -/
theorem readText_relaid_wrapped :
    ReflTransGen Relaid "E ::= T | \" b" "E ::= T\n# more\n  | ' b" ∧
    ((∃ g g', (readText "E ::= T | \" b").outcome = .ok g ∧
        (readText "E ::= T\n# more\n  | ' b").outcome = .ok g' ∧ g.agrees g' = true) ∨
      ∃ e e', (readText "E ::= T | \" b").outcome = .error e ∧
        (readText "E ::= T\n# more\n  | ' b").outcome = .error e') := by
  have hquote : Relaid "E ::= T | \" b" "E ::= T | ' b" := by
    have hedit : Edit ([] ++ ["E ::= T | " ++ String.singleton '\x22' ++ " b"])
        ([] ++ ["E ::= T | " ++ String.singleton '\x27' ++ " b"]) :=
      .quote "E ::= T | " " b" (by decide) (by decide)
    exact hedit
  have hwrap : Relaid "E ::= T | ' b" "E ::= T\n# more\n  | ' b" := by
    have hedit : Edit ([] ++ ["E ::= T" ++ " " ++ "| ' b"])
        ([] ++ ["E ::= T", "# more", "  " ++ "| ' b"]) :=
      .wrap (by decide) (by decide) (by decide) (by decide) (by decide)
        (List.forall_mem_singleton.2 (.inr (by decide))) (by decide)
    exact hedit
  have hrelaid := (ReflTransGen.single hquote).tail hwrap
  exact ⟨hrelaid, readText_relaid hrelaid⟩

end Grammar

end Predictive
