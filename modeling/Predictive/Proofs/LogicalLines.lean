import Predictive.Proofs.PlainLines
import Predictive.Proofs.RuleLines

/-!
# From the lines of a text to its rules

The lines that are left of a text are put together to logical lines, each of which has to say
something. Main statements: what a text says as a whole, which is given by what its logical lines
say (`reads_iff`); lines are put into consecutive groups, each with a line that starts a rule and
the lines that continue it (`groups_eq_iff`); a text of plain lines that all start rules has these
lines as its logical lines (`logicalLines_physicalLines_intercalate`); and the logical lines of every
text are plain (`isPlain_of_mem_logicalLines`).
-/

namespace Predictive

open Text

namespace Grammar

/-- What the rules say, in order. -/
def definitions (g : Grammar) : List (Symbol × List Production) := g.rules.map Rule.definition

/-- A text is read, and the rules that are read from it say this. -/
def Reads (text : String) (definitions : List (Symbol × List Production)) : Prop :=
  ∃ g, (readText text).outcome = .ok g ∧ g.definitions = definitions

/-- Grammars agree that say the same. -/
theorem agrees_iff {g h : Grammar} : g.agrees h = true ↔ g.definitions = h.definitions := by
  rw [agrees, definitions, definitions, decide_eq_true_iff]

end Grammar

namespace Layout

/-- A line in which the mark stands, and lines after it in which it does not. -/
def IsGroup (group : List String) : Prop :=
  ∃ start rest, group = start :: rest ∧ ruleMark.toList <:+: start.toList ∧
    ∀ line ∈ rest, ¬ ruleMark.toList <:+: line.toList

variable {text line : String} {lines logical group before : List String}
  {later : List (List String)}

/-! ## Physical lines -/

/-- The lines of a text have no line end in them. -/
theorem not_mem_newline_of_mem_split (h : line ∈ split '\n' text) : '\n' ∉ line.toList := by
  rw [split, List.mem_map] at h
  obtain ⟨piece, hpiece, rfl⟩ := h
  rw [String.toList_ofList]
  exact not_mem_of_mem_pieces hpiece

/-- Lines are got back from a text in which they stand with line ends between them. -/
theorem split_intercalate (hne : lines ≠ []) (h : ∀ line ∈ lines, '\n' ∉ line.toList) :
    split '\n' ("\n".intercalate lines) = lines :=
  split_intercalate_of_not_mem rfl hne h

/-- The physical lines of a text are what is left of its lines. -/
theorem physicalLines_eq (text : String) :
    physicalLines text = (split '\n' text).filterMap plainLine := by
  rw [physicalLines]
  induction split '\n' text with
  | nil => rfl
  | cons line lines ih =>
    rw [List.filterMap_cons, plainLine, List.map_cons, List.filter_cons]
    split
    · rename_i hcontent
      rw [List.map_cons, ih]
    · rw [ih]

/-- Physical lines are plain. -/
theorem isPlain_of_mem_physicalLines (h : line ∈ physicalLines text) : IsPlain line := by
  rw [physicalLines_eq, List.mem_filterMap] at h
  obtain ⟨line', hline', hplain⟩ := h
  exact isPlain_of_plainLine (not_mem_newline_of_mem_split hline') hplain

/-- Plain lines are the physical lines of the text in which they stand. -/
theorem physicalLines_intercalate (hne : lines ≠ []) (h : ∀ line ∈ lines, IsPlain line) :
    physicalLines ("\n".intercalate lines) = lines := by
  rw [physicalLines_eq, split_intercalate hne fun line hline => (h line hline).not_mem_newline]
  have hsome : lines.filterMap plainLine = lines.filterMap some :=
    List.filterMap_congr fun line hline => (h line hline).plainLine_eq
  rw [hsome, List.filterMap_some]

/-! ## Logical lines -/

/-- A rule starts on a line exactly when the mark stands in it. -/
theorem startsRule_iff : startsRule line = true ↔ ruleMark.toList <:+: line.toList := by
  rw [startsRule, holds, isSome_cutAtFirst_iff]

/-- A line that starts a rule takes the lines that were waiting. -/
theorem groups_cons_of_startsRule (h : startsRule line = true) (lines : List String) :
    groups (line :: lines) = ([], (line :: (groups lines).1) :: (groups lines).2) := by
  rw [groups]
  exact if_pos h

/-- A line that starts no rule waits with the lines that were waiting. -/
theorem groups_cons_of_not_startsRule (h : ¬ startsRule line = true) (lines : List String) :
    groups (line :: lines) = (line :: (groups lines).1, (groups lines).2) := by
  rw [groups]
  exact if_neg h

/-- Groups cover all lines but those before the first group, in order. -/
theorem append_flatten_groups (lines : List String) :
    (groups lines).1 ++ (groups lines).2.flatten = lines := by
  induction lines with
  | nil => rfl
  | cons line lines ih =>
    by_cases hstarts : startsRule line = true
    · rw [groups_cons_of_startsRule hstarts, List.nil_append, List.flatten_cons, List.cons_append,
        ih]
    · rw [groups_cons_of_not_startsRule hstarts, List.cons_append, ih]

/-- Of the lines before the first group none starts a rule, and of those in a group the first one
alone does. -/
theorem isGroup_of_groups (lines : List String) :
    (∀ line ∈ (groups lines).1, ¬ ruleMark.toList <:+: line.toList) ∧
      ∀ group ∈ (groups lines).2, IsGroup group := by
  induction lines with
  | nil => exact ⟨List.forall_mem_nil _, List.forall_mem_nil _⟩
  | cons line lines ih =>
    obtain ⟨hbefore, hlater⟩ := ih
    by_cases hstarts : startsRule line = true
    · have hgroup : IsGroup (line :: (groups lines).1) :=
        ⟨line, _, rfl, startsRule_iff.1 hstarts, hbefore⟩
      rw [groups_cons_of_startsRule hstarts]
      exact ⟨List.forall_mem_nil _, List.forall_mem_cons.2 ⟨hgroup, hlater⟩⟩
    · rw [groups_cons_of_not_startsRule hstarts]
      exact ⟨List.forall_mem_cons.2 ⟨startsRule_iff.not.1 hstarts, hbefore⟩, hlater⟩

/-- Lines that start no rule wait with the lines that were waiting. -/
theorem groups_append (h : ∀ line ∈ before, ¬ ruleMark.toList <:+: line.toList)
    (lines : List String) : groups (before ++ lines) =
      (before ++ (groups lines).1, (groups lines).2) := by
  induction before with
  | nil => rfl
  | cons line before ih =>
    obtain ⟨hline, hbefore⟩ := List.forall_mem_cons.1 h
    rw [List.cons_append, groups_cons_of_not_startsRule (startsRule_iff.not.2 hline), ih hbefore]
    rfl

/-- Groups are found again among their lines. -/
theorem groups_flatten (h : ∀ group ∈ later, IsGroup group) :
    groups later.flatten = ([], later) := by
  induction later with
  | nil => rfl
  | cons group later ih =>
    obtain ⟨⟨start, rest, rfl, hstart, hrest⟩, hlater⟩ := List.forall_mem_cons.1 h
    rw [List.flatten_cons, List.cons_append, groups_cons_of_startsRule (startsRule_iff.2 hstart),
      groups_append hrest, ih hlater, List.append_nil]

/-- Lines are put into groups in the only way in which each group has one line that starts a rule,
which is its first. -/
theorem groups_eq_iff :
    groups lines = (before, later) ↔
      before ++ later.flatten = lines ∧ (∀ line ∈ before, ¬ ruleMark.toList <:+: line.toList) ∧
        ∀ group ∈ later, IsGroup group := by
  constructor
  · intro h
    have hcover := append_flatten_groups lines
    have hgroups := isGroup_of_groups lines
    rw [h] at hcover hgroups
    exact ⟨hcover, hgroups⟩
  · rintro ⟨rfl, hbefore, hlater⟩
    rw [groups_append hbefore, groups_flatten hlater, List.append_nil]

/-- There are logical lines exactly when there is a group and no line comes before the first one. -/
theorem logicalLines_eq_ok_iff :
    logicalLines lines = .ok logical ↔
      (groups lines).1 = [] ∧ (groups lines).2 ≠ [] ∧
        logical = (groups lines).2.map fun group => " ".intercalate group := by
  rw [logicalLines]
  rcases groups lines with ⟨before, rules⟩
  cases rules with
  | nil => simp
  | cons rule rules =>
    cases before with
    | nil => simp [eq_comm]
    | cons line before => simp

/-- The logical lines are those of consecutive groups that cover all lines, of which there is one at
least. -/
theorem logicalLines_eq_ok_iff_exists_groups :
    logicalLines lines = .ok logical ↔
      ∃ later, later ≠ [] ∧ later.flatten = lines ∧ (∀ group ∈ later, IsGroup group) ∧
        logical = later.map fun group => " ".intercalate group := by
  rw [logicalLines_eq_ok_iff]
  constructor
  · rintro ⟨hbefore, hne, hlogical⟩
    have hgroups : groups lines = ([], (groups lines).2) := Prod.ext hbefore rfl
    obtain ⟨hcover, -, hlater⟩ := groups_eq_iff.1 hgroups
    exact ⟨_, hne, hcover, hlater, hlogical⟩
  · rintro ⟨later, hne, rfl, hlater, rfl⟩
    rw [groups_flatten hlater]
    exact ⟨rfl, hne, rfl⟩

/-- The logical lines of a text are plain. -/
theorem isPlain_of_mem_logicalLines (hlogical : logicalLines (physicalLines text) = .ok logical)
    (h : line ∈ logical) : IsPlain line := by
  obtain ⟨later, -, hcover, hlater, rfl⟩ := logicalLines_eq_ok_iff_exists_groups.1 hlogical
  obtain ⟨group, hgroup, rfl⟩ := List.mem_map.1 h
  obtain ⟨start, rest, rfl, -⟩ := hlater group hgroup
  refine isPlain_intercalate (List.cons_ne_nil start rest) fun line hline => ?_
  have hphysical : line ∈ physicalLines text := by
    rw [← hcover]
    exact List.mem_flatten_of_mem hgroup hline
  exact isPlain_of_mem_physicalLines hphysical

/-- A text of plain lines that all start rules has these lines as its logical lines. -/
theorem logicalLines_physicalLines_intercalate (hne : lines ≠ [])
    (hplain : ∀ line ∈ lines, IsPlain line) (hstarts : ∀ line ∈ lines, startsRule line = true) :
    logicalLines (physicalLines ("\n".intercalate lines)) = .ok lines := by
  rw [physicalLines_intercalate hne hplain, logicalLines_eq_ok_iff_exists_groups]
  -- Each line is a group of its own, and a line put together with nothing is the line.
  refine ⟨lines.map fun line => [line], by simpa using hne, ?_, ?_, ?_⟩
  · rw [← List.flatMap_def, List.flatMap_singleton']
  · exact List.forall_mem_map.2 fun line hline =>
      ⟨line, [], rfl, startsRule_iff.1 (hstarts line hline), List.forall_mem_nil _⟩
  · rw [List.map_map]
    have hjoin : (fun group => " ".intercalate group) ∘ (fun line => [line]) = id := by
      funext line
      rw [Function.comp_apply, String.intercalate_singleton, id_eq]
    rw [hjoin, List.map_id]

end Layout

namespace Grammar

open Layout

variable {text : String} {lines : List String} {g : Grammar}

/-- The rules of a grammar that is read from lines are those of the lines. -/
theorem outcome_readLines_eq_ok_iff :
    (readLines lines).outcome = .ok g ↔
      List.Forall₂ (fun line r => Rule.ofLine line = .ok r) lines g.rules := by
  have hread : ∀ line r, (Rule.read line).outcome = .ok r ↔ Rule.ofLine line = .ok r := by
    intro line r
    rw [Rule.read, Traced.outcome_bind, bind_eq_ok_iff]
    simp only [Traced.outcome_bind, Traced.outcome_note, Traced.outcome_pure,
      Traced.outcome_ofExcept]
    constructor
    · rintro ⟨r', hr', h⟩
      cases h
      exact hr'
    · exact fun h => ⟨r, h, rfl⟩
  simp only [readLines, Traced.outcome_bind, bind_eq_ok_iff, outcome_mapM_eq_ok_iff, hread,
    Traced.outcome_pure, Except.ok.injEq]
  constructor
  · rintro ⟨rules, h, rfl⟩
    exact h
  · exact fun h => ⟨g.rules, h, rfl⟩

/-- What a text says is what its logical lines say. -/
theorem reads_iff {definitions : List (Symbol × List Production)} :
    Reads text definitions ↔
      ∃ logical, logicalLines (physicalLines text) = .ok logical ∧
        List.Forall₂ Says logical definitions := by
  have hread : ∀ g, (readText text).outcome = .ok g ↔
      ∃ logical, logicalLines (physicalLines text) = .ok logical ∧
        (readLines logical).outcome = .ok g := by
    intro g
    simp [readText, bind_eq_ok_iff]
  have hsaid : ∀ logical, List.Forall₂ Says logical definitions ↔
      ∃ rules, List.Forall₂ (fun line r => Rule.ofLine line = .ok r) logical rules ∧
        rules.map Rule.definition = definitions := by
    intro logical
    rw [exists_map_iff_forall₂]
    simp only [exists_ofLine_eq_ok_iff]
  simp only [Reads, Grammar.definitions, hread, hsaid, outcome_readLines_eq_ok_iff]
  constructor
  · rintro ⟨g, ⟨logical, hlogical, hlines⟩, hg⟩
    exact ⟨logical, hlogical, g.rules, hlines, hg⟩
  · rintro ⟨logical, hlogical, rules, hlines, hrules⟩
    exact ⟨⟨rules⟩, ⟨logical, hlogical, hlines⟩, hrules⟩

end Grammar

end Predictive
