import Predictive.Proofs.LogicalLines

/-!
# The normal layout of a text

To undo the layout of a text is to bring it into a normal layout: its logical lines stand on a line
each, and nothing about them is left to be undone. Main statement: lines are joined group by group,
where the groups cover all lines in order and a rule starts on the first line of each and on no
other; and the lines that a text is brought down to are left as they are from then on
(`logicalLines_normal`).
-/

namespace Predictive.Layout

open Text

variable {text line : String} {lines logical group : List String}

/-- A rule starts on the line that a group is joined to. -/
theorem IsGroup.startsRule_intercalate (h : IsGroup group) :
    startsRule (" ".intercalate group) = true := by
  obtain ⟨start, rest, rfl, hstart, -⟩ := h
  rw [startsRule_iff]
  cases rest with
  | nil => rwa [String.intercalate_singleton]
  | cons next rest =>
    rw [String.intercalate_cons_cons, String.append_assoc, String.toList_append]
    exact hstart.trans (List.prefix_append _ _).isInfix

/-- Lines can be joined exactly when there is a first line and a rule starts on it. -/
theorem exists_logicalLines_iff :
    (∃ logical, logicalLines lines = .ok logical) ↔
      ∃ first rest, lines = first :: rest ∧ ruleMark.toList <:+: first.toList := by
  constructor
  · rintro ⟨logical, h⟩
    obtain ⟨later, hne, rfl, hlater, -⟩ := logicalLines_eq_ok_iff_exists_groups.1 h
    obtain ⟨group, more, rfl⟩ := List.exists_cons_of_ne_nil hne
    obtain ⟨start, rest, rfl, hstart, -⟩ := hlater group List.mem_cons_self
    exact ⟨start, rest ++ more.flatten, rfl, hstart⟩
  · rintro ⟨first, rest, rfl, hfirst⟩
    have hgroups := groups_cons_of_startsRule (startsRule_iff.2 hfirst) rest
    refine ⟨_, logicalLines_eq_ok_iff.2 ⟨?_, ?_, rfl⟩⟩
    · rw [hgroups]
    · rw [hgroups]
      exact List.cons_ne_nil _ _

/-- The logical lines of a text are the logical lines of the text in which each stands on a line of
its own. -/
theorem logicalLines_idem (h : logicalLines (physicalLines text) = .ok logical) :
    logicalLines (physicalLines ("\n".intercalate logical)) = .ok logical := by
  obtain ⟨later, hne, -, hlater, hlogical⟩ := logicalLines_eq_ok_iff_exists_groups.1 h
  refine logicalLines_physicalLines_intercalate ?_
    (fun line hline => isPlain_of_mem_logicalLines h hline) ?_
  · rw [hlogical]
    simpa using hne
  · rw [hlogical]
    exact List.forall_mem_map.2 fun group hgroup => (hlater group hgroup).startsRule_intercalate

/-- Lines can be joined exactly when a rule starts on the first of them. They are then cut into
consecutive groups, which cover every line once and in order and of which each has one line with a
mark, its first; what comes out are the groups, joined by single spaces. The lines that a text comes
down to are plain, and with a line for each of them the text comes down to the same lines. -/
theorem logicalLines_normal :
    (∀ lines, (∃ logical, logicalLines lines = .ok logical) ↔
      ∃ first rest, lines = first :: rest ∧ ruleMark.toList <:+: first.toList) ∧
    (∀ lines logical, logicalLines lines = .ok logical ↔
      ∃ later, later ≠ [] ∧ later.flatten = lines ∧ (∀ group ∈ later, IsGroup group) ∧
        logical = later.map fun group => " ".intercalate group) ∧
    ∀ text logical, logicalLines (physicalLines text) = .ok logical →
      (∀ line ∈ logical, IsPlain line) ∧
        logicalLines (physicalLines ("\n".intercalate logical)) = .ok logical := by
  refine ⟨fun _ => exists_logicalLines_iff, fun _ _ => logicalLines_eq_ok_iff_exists_groups,
    fun text logical h => ⟨fun line hline => ?_, logicalLines_idem h⟩⟩
  exact isPlain_of_mem_logicalLines h hline

end Predictive.Layout
