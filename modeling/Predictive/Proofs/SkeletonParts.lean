import Predictive.Proofs.Outcomes
import Predictive.Proofs.Views
import Predictive.Skeleton.Build

/-!
# The parts of a skeleton

What the skeleton of a grammar is made of, once it is built. Main statements: the procedure for a
rule has a branch for each alternative (`outcome_ruleProcedure_eq_ok_iff`); and a skeleton has a
procedure for each symbol with a rule (`exists_find?_of_skeleton`), with the branches for the
alternatives of the symbol's first rule (`forall₂_isBranch_of_skeleton`).
-/

namespace Predictive.Grammar

/-- The branch for an alternative of `s`: it is taken for the members of the alternative's selection
set, and has the steps for its symbols. -/
structure IsBranch (g : Grammar) (s : Symbol) (p : Production) (b : Branch) : Prop where
  /-- The lookahead is the selection set. -/
  selectionSet_eq : (g.selectionSet s p).outcome = .ok b.lookahead
  /-- There is a step for each symbol, in order. -/
  steps_eq : b.steps = p.symbols.map g.step

variable {g : Grammar} {s t : Symbol} {r : Rule} {procedure : Procedure}
  {procedures : List Procedure}

/-- A terminal is expected. -/
theorem step_eq_expect_iff : g.step s = .expect t ↔ g.isTerminal s = true ∧ s = t := by
  rw [step]
  split <;> simp_all

/-- A procedure is called for a non-terminal. -/
theorem step_eq_call_iff : g.step s = .call t ↔ g.isTerminal s = false ∧ s = t := by
  rw [step]
  split <;> simp_all

/-- The branch for an alternative is put together from its selection set and its steps. -/
theorem isBranch_iff {p : Production} {b : Branch} :
    g.IsBranch s p b ↔
      ∃ set, (g.selectionSet s p).outcome = .ok set ∧ b = ⟨set, p.symbols.map g.step⟩ := by
  obtain ⟨lookahead, steps⟩ := b
  constructor
  · rintro ⟨hset, hsteps⟩
    have hsteps : steps = p.symbols.map g.step := hsteps
    exact ⟨lookahead, hset, by rw [hsteps]⟩
  · rintro ⟨set, hset, hb⟩
    rw [hb]
    exact ⟨hset, rfl⟩

/-- The procedure for a rule is that of its non-terminal and has the branches for the alternatives,
in order. -/
theorem outcome_ruleProcedure_eq_ok_iff :
    (g.ruleProcedure r).outcome = .ok procedure ↔
      procedure.nonTerminal = r.nonTerminal ∧
        List.Forall₂ (g.IsBranch r.nonTerminal) r.alternatives procedure.branches := by
  have hbranches : List.Forall₂ (g.IsBranch r.nonTerminal) r.alternatives procedure.branches ↔
      ∃ sets, (g.ruleSelectionSets r).outcome = .ok sets ∧ procedure.branches =
        sets.zipWith (fun set p => ⟨set, p.symbols.map g.step⟩) r.alternatives := by
    simp only [ruleSelectionSets, outcome_mapM_eq_ok_iff, exists_zipWith_iff_forall₂,
      ← isBranch_iff]
  rw [hbranches, ruleProcedure, Traced.outcome_bind, bind_eq_ok_iff]
  simp only [Traced.outcome_pure, Except.ok.injEq]
  obtain ⟨nonTerminal, branches⟩ := procedure
  simp only [Procedure.mk.injEq]
  constructor
  · rintro ⟨sets, hsets, hname, hbranches⟩
    exact ⟨hname.symm, sets, hsets, hbranches.symm⟩
  · rintro ⟨hname, sets, hsets, hbranches⟩
    exact ⟨sets, hsets, hname.symm, hbranches.symm⟩

/-- Procedures built after others are those for the rules, in order. -/
theorem forall₂_ruleProcedure_of_proceduresAfter {earlier : List Symbol} {rules : List Rule}
    (h : (g.proceduresAfter earlier rules).outcome = .ok procedures) :
    List.Forall₂ (fun r p => (g.ruleProcedure r).outcome = .ok p) rules procedures := by
  induction rules generalizing earlier procedures with
  | nil =>
    rw [proceduresAfter, Traced.outcome_pure, Except.ok.injEq] at h
    rw [← h]
    exact .nil
  | cons r rules ih =>
    rw [proceduresAfter, Traced.outcome_bind, bind_eq_ok_iff] at h
    obtain ⟨procedure, hprocedure, h⟩ := h
    split at h
    · cases h
    · rw [Traced.outcome_bind, bind_eq_ok_iff] at h
      obtain ⟨later, hlater, h⟩ := h
      rw [Traced.outcome_pure, Except.ok.injEq] at h
      rw [← h]
      refine .cons ?_ (ih hlater)
      rw [Traced.outcome_adapt] at hprocedure
      cases hr : (g.ruleProcedure r).outcome with
      | error e => simp [hr, Except.mapError] at hprocedure
      | ok p => simpa [hr, Except.mapError] using hprocedure

/-- A skeleton has a procedure for each symbol with a rule. -/
theorem exists_find?_of_skeleton (h : g.skeleton.outcome = .ok procedures)
    (hr : g.rule? s = some r) :
    ∃ procedure, procedures.find? (·.nonTerminal = s) = some procedure := by
  have hmem : r ∈ g.nonTerminals.filterMap g.rule? :=
    List.mem_filterMap.2 ⟨s, mem_nonTerminals_of_rule? hr, hr⟩
  obtain ⟨procedure, hprocedure, hout⟩ :=
    exists_mem_of_forall₂ (forall₂_ruleProcedure_of_proceduresAfter h) hmem
  have hs : procedure.nonTerminal = s :=
    (outcome_ruleProcedure_eq_ok_iff.1 hout).1.trans (of_rule?_eq_some hr).2
  exact Option.isSome_iff_exists.1
    (List.find?_isSome.2 ⟨procedure, hprocedure, decide_eq_true hs⟩)

/-- The rules that a skeleton is built from are the first rules of the non-terminals. -/
theorem rule?_of_mem_filterMap (hr : r ∈ g.nonTerminals.filterMap g.rule?) :
    g.rule? r.nonTerminal = some r := by
  obtain ⟨s, -, hs⟩ := List.mem_filterMap.1 hr
  rw [(of_rule?_eq_some hs).2]
  exact hs

/-- A procedure of a skeleton has the branches for the alternatives of the first rule of its
non-terminal. -/
theorem exists_rule?_of_mem_skeleton (h : g.skeleton.outcome = .ok procedures)
    (hmem : procedure ∈ procedures) : ∃ r, g.rule? procedure.nonTerminal = some r ∧
      List.Forall₂ (g.IsBranch procedure.nonTerminal) r.alternatives procedure.branches := by
  obtain ⟨r, hr, hout⟩ :=
    exists_mem_of_forall₂ (forall₂_ruleProcedure_of_proceduresAfter h).flip hmem
  obtain ⟨hname, hbranches⟩ := outcome_ruleProcedure_eq_ok_iff.1 hout
  rw [hname]
  exact ⟨r, rule?_of_mem_filterMap hr, hbranches⟩

/-- The procedure that a skeleton has for a symbol has the branches for the alternatives of the
symbol's first rule. -/
theorem forall₂_isBranch_of_skeleton (h : g.skeleton.outcome = .ok procedures)
    (hfind : procedures.find? (·.nonTerminal = s) = some procedure) :
    ∃ r, g.rule? s = some r ∧ List.Forall₂ (g.IsBranch s) r.alternatives procedure.branches := by
  have hs : procedure.nonTerminal = s := by simpa using List.find?_some hfind
  rw [← hs]
  exact exists_rule?_of_mem_skeleton h (List.mem_of_find?_eq_some hfind)

end Predictive.Grammar
