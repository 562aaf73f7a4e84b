import Mathlib.Data.List.Pairwise
import Predictive.Analysis.Report
import Predictive.Proofs.FollowEquations

/-!
# What selects an alternative

The selection set of an alternative is computed from FIRST of its leading symbol and, where that is
called for, from FOLLOW of its non-terminal; `Selects` says which symbols it holds. Main statement:
the LL(1) verdict on a grammar is the one on its selection sets, of which no two of one rule have a
common member (`pairwise_not_selects_of_isPredictive`).
-/

namespace Predictive

/-- Sets that are disjoint one after the other are so whichever two are taken. -/
theorem disjointBeyond_eq_true_iff {seen : SymbolSet} {sets : List SymbolSet} :
    disjointBeyond seen sets = true ↔
      (∀ set ∈ sets, ∀ t ∈ set, t ∉ seen) ∧ sets.Pairwise fun a b => ∀ t ∈ a, t ∉ b := by
  induction sets generalizing seen with
  | nil => simp [disjointBeyond]
  | cons set sets ih =>
    rw [disjointBeyond, Bool.and_eq_true, SymbolSet.disjointFrom_iff, ih, List.forall_mem_cons,
      List.pairwise_cons]
    simp only [SymbolSet.mem_union, not_or]
    constructor
    · rintro ⟨hset, hsets, hpairs⟩
      exact ⟨⟨hset, fun b hb t ht => (hsets b hb t ht).1⟩,
        fun b hb t ht htb => (hsets b hb t htb).2 ht, hpairs⟩
    · rintro ⟨⟨hset, hsets⟩, hcross, hpairs⟩
      exact ⟨hset, fun b hb t ht => ⟨hsets b hb t ht, fun hts => hcross b hb t hts ht⟩, hpairs⟩

/-- Disjoint sets are those of which no two have a common member. -/
theorem allDisjoint_eq_true_iff {sets : List SymbolSet} :
    allDisjoint sets = true ↔ sets.Pairwise fun a b => ∀ t ∈ a, t ∉ b := by
  rw [allDisjoint, disjointBeyond_eq_true_iff]
  exact and_iff_right fun _ _ t _ => SymbolSet.not_mem_empty t

namespace Grammar

/-- An alternative of `s` is selected by what may come first in it, and by what follows `s` if the
alternative's leading symbol may be empty. -/
def Selects (g : Grammar) (s : Symbol) (p : Production) (t : Symbol) : Prop :=
  t ∈ g.firstMembers p.lead ∨ epsilon ∈ g.firstMembers p.lead ∧ t ∈ g.followMembers s

/-- The alternatives of the first rule of a symbol, of which a terminal has none. -/
def alternativesOf (g : Grammar) (s : Symbol) : List Production :=
  ((g.rule? s).map Rule.alternatives).getD []

variable {g : Grammar} {s t : Symbol} {p : Production} {r : Rule}

/-- The alternatives of a symbol are those of its first rule. -/
theorem mem_alternativesOf_iff :
    p ∈ g.alternativesOf s ↔ ∃ r, g.rule? s = some r ∧ p ∈ r.alternatives := by
  rw [alternativesOf]
  cases g.rule? s <;> simp

/-- A selection set is there only where FIRST of the leading symbol is. -/
theorem exists_first_of_selectionSet {set : SymbolSet}
    (h : (g.selectionSet s p).outcome = .ok set) : ∃ leadFirst, g.first p.lead = .ok leadFirst := by
  rw [selectionSet, Traced.outcome_bind, bind_eq_ok_iff] at h
  obtain ⟨leadFirst, hf, -⟩ := h
  exact ⟨leadFirst, hf⟩

/-- A selection set holds the symbols that select the alternative. -/
theorem mem_of_selectionSet_eq_ok {set : SymbolSet}
    (h : (g.selectionSet s p).outcome = .ok set) : t ∈ set ↔ g.Selects s p t := by
  rw [selectionSet, Traced.outcome_bind, bind_eq_ok_iff] at h
  obtain ⟨leadFirst, hf, h⟩ := h
  rw [Traced.outcome_ofExcept] at hf
  rw [Selects, mem_firstMembers_of_eq_ok hf, mem_firstMembers_of_eq_ok hf]
  split at h
  · rename_i he
    rw [Traced.outcome_bind, bind_eq_ok_iff] at h
    obtain ⟨follow, hfol, h⟩ := h
    cases h
    rw [SymbolSet.mem_union, mem_followMembers_of_eq_ok hfol]
    simp [he]
  · rename_i he
    cases h
    simp [he]

/-- The symbols of alternatives are symbols of the grammar. -/
theorem mem_symbols_of_hasAlternative {owner : Symbol} (h : g.HasAlternative owner p)
    (hs : s ∈ p.symbols) : s ∈ g.symbols := by
  obtain ⟨r, hr, -, hp⟩ := h
  exact mem_symbols.2 ⟨r, hr, List.mem_cons_of_mem _ (List.mem_flatMap.2 ⟨p, hp, hs⟩)⟩

/-- FIRST of a symbol of the grammar holds symbols of the grammar. -/
theorem mem_symbols_of_mem_firstMembers (hs : s ∈ g.symbols) (h : t ∈ g.firstMembers s) :
    t ∈ g.symbols := by
  obtain ⟨set, hset, -⟩ := id h
  rcases ((mem_firstMembers_iff hset).1 h).1.cases_tail with rfl | ⟨a, -, r, hr, p, hp, rfl⟩
  · exact hs
  · exact mem_symbols_of_hasAlternative (hasAlternative_of_rule? hr hp) List.mem_cons_self

/-- FOLLOW holds symbols of the grammar, and the end marker. -/
theorem mem_symbols_of_mem_followMembers (h : t ∈ g.followMembers s) :
    t = endMarker ∨ t ∈ g.symbols := by
  obtain ⟨set, hset, -⟩ := id h
  obtain ⟨x, -, hx⟩ := (mem_followMembers_iff hset).1 h
  rcases hx with ⟨-, ht⟩ | ⟨owner, before, next, rest, ⟨p, hp, hplace⟩, ht, -⟩
  · exact .inl ht
  · have hnext : next ∈ g.symbols := mem_symbols_of_hasAlternative hp (by simp [hplace])
    exact .inr (mem_symbols_of_mem_firstMembers hnext ht)

/-- What selects an alternative is a symbol of the grammar or the end marker. -/
theorem mem_symbols_of_selects (hp : g.HasAlternative s p) (h : g.Selects s p t) :
    t = endMarker ∨ t ∈ g.symbols := by
  rcases h with ht | ⟨-, ht⟩
  · have hlead : p.lead ∈ g.symbols := mem_symbols_of_hasAlternative hp List.mem_cons_self
    exact .inr (mem_symbols_of_mem_firstMembers hlead ht)
  · exact mem_symbols_of_mem_followMembers ht

/-- The report for a rule holds the selection sets of its non-terminal. -/
theorem outcome_reportRule_eq_ok_iff {report : SelectionReport} :
    (g.reportRule r).outcome = .ok report ↔
      ∃ sets, (g.selectionSets r.nonTerminal).outcome = .ok sets ∧
        report = ⟨r.nonTerminal, sets⟩ := by
  rw [reportRule, Traced.outcome_bind, bind_eq_ok_iff]
  refine exists_congr fun sets => and_congr_right fun _ => ?_
  dsimp only
  split <;> simp [eq_comm]

/-- The report has an entry for each rule, in order, with the selection sets of the rule's
non-terminal. -/
theorem outcome_report_eq_ok_iff {reports : List SelectionReport} :
    g.report.outcome = .ok reports ↔
      List.Forall₂ (fun r report => report.nonTerminal = r.nonTerminal ∧
        (g.selectionSets r.nonTerminal).outcome = .ok report.sets) g.rules reports := by
  have hentry : ∀ r report, (g.reportRule r).outcome = .ok report ↔
      report.nonTerminal = r.nonTerminal ∧
        (g.selectionSets r.nonTerminal).outcome = .ok report.sets := by
    rintro r ⟨nonTerminal, sets⟩
    rw [outcome_reportRule_eq_ok_iff]
    simp [and_comm]
  simp only [report, outcome_mapM_eq_ok_iff, hentry]

/-- The selection sets of a symbol are those of the alternatives of its first rule. -/
theorem outcome_selectionSets_eq_ok_iff {sets : List SymbolSet} (hr : g.rule? s = some r) :
    (g.selectionSets s).outcome = .ok sets ↔
      List.Forall₂ (fun p set => (g.selectionSet s p).outcome = .ok set) r.alternatives sets := by
  rw [selectionSets, hr]
  simp only [ruleSelectionSets, (of_rule?_eq_some hr).2, outcome_mapM_eq_ok_iff]

/-- The selection sets of a symbol are those of the alternatives of its first rule, of which a
terminal has none. -/
theorem outcome_selectionSets_eq_ok_iff_alternativesOf :
    (g.selectionSets s).outcome = .ok sets ↔
      List.Forall₂ (fun p set => (g.selectionSet s p).outcome = .ok set)
        (g.alternativesOf s) sets := by
  cases hr : g.rule? s with
  | none => simp [selectionSets, alternativesOf, hr, eq_comm]
  | some r => simp [outcome_selectionSets_eq_ok_iff hr, alternativesOf, hr]

/-- A grammar with a report has FIRST sets of all symbols. -/
theorem exists_first_eq_ok_of_report {reports : List SelectionReport}
    (h : g.report.outcome = .ok reports) (s : Symbol) : ∃ set, g.first s = .ok set := by
  refine exists_first_eq_ok_of_leads fun t => ?_
  rintro ⟨r, hr, p, hp, rfl⟩
  obtain ⟨hmem, hs⟩ := of_rule?_eq_some hr
  obtain ⟨report, -, -, hsets⟩ := exists_mem_of_forall₂ (outcome_report_eq_ok_iff.1 h) hmem
  rw [hs, outcome_selectionSets_eq_ok_iff hr] at hsets
  obtain ⟨set, -, hset⟩ := exists_mem_of_forall₂ hsets hp
  exact exists_first_of_selectionSet hset

/-- The verdict is there where the report is, and is whether the sets of all entries are
disjoint. -/
theorem outcome_isPredictive_eq_ok_iff {verdict : Bool} :
    g.isPredictive.outcome = .ok verdict ↔
      ∃ reports, g.report.outcome = .ok reports ∧
        reports.all SelectionReport.disjoint = verdict := by
  rw [isPredictive, Traced.outcome_bind, bind_eq_ok_iff]
  simp only [Traced.outcome_pure, Except.ok.injEq]

/-- A grammar that the report calls LL(1) has disjoint selection sets for each of its rules. -/
theorem selectionSets_of_isPredictive (h : g.isPredictive.outcome = .ok true) (hr : r ∈ g.rules) :
    ∃ sets, (g.selectionSets r.nonTerminal).outcome = .ok sets ∧
      sets.Pairwise fun a b => ∀ t ∈ a, t ∉ b := by
  obtain ⟨reports, hreports, h⟩ := outcome_isPredictive_eq_ok_iff.1 h
  rw [List.all_eq_true] at h
  obtain ⟨report, hmem, -, hsets⟩ :=
    exists_mem_of_forall₂ (outcome_report_eq_ok_iff.1 hreports) hr
  exact ⟨report.sets, hsets, allDisjoint_eq_true_iff.1 (h _ hmem)⟩

/-- In a grammar that the report calls LL(1), the alternatives of a symbol have selection sets. -/
theorem forall₂_selectionSet_of_isPredictive (h : g.isPredictive.outcome = .ok true)
    (hr : g.rule? s = some r) :
    ∃ sets, List.Forall₂ (fun p set => (g.selectionSet s p).outcome = .ok set) r.alternatives sets ∧
      sets.Pairwise fun a b => ∀ t ∈ a, t ∉ b := by
  obtain ⟨hmem, hs⟩ := of_rule?_eq_some hr
  obtain ⟨sets, hsets, hpairs⟩ := selectionSets_of_isPredictive h hmem
  rw [hs] at hsets
  exact ⟨sets, (outcome_selectionSets_eq_ok_iff hr).1 hsets, hpairs⟩

/-- No symbol selects two alternatives of one rule in a grammar that the report calls LL(1). -/
theorem pairwise_not_selects_of_isPredictive (h : g.isPredictive.outcome = .ok true)
    (hr : g.rule? s = some r) :
    r.alternatives.Pairwise fun p q => ∀ t, ¬ (g.Selects s p t ∧ g.Selects s q t) := by
  obtain ⟨sets, hsets, hpairs⟩ := forall₂_selectionSet_of_isPredictive h hr
  refine pairwise_of_forall₂ (fun p q a b hp hq hab t ⟨hpt, hqt⟩ => ?_) hsets hpairs
  exact hab t ((mem_of_selectionSet_eq_ok hp).2 hpt) ((mem_of_selectionSet_eq_ok hq).2 hqt)

/-- A grammar that the report calls LL(1) has FIRST sets of all symbols. -/
theorem exists_first_eq_ok_of_isPredictive (h : g.isPredictive.outcome = .ok true) (s : Symbol) :
    ∃ set, g.first s = .ok set := by
  obtain ⟨reports, hreports, -⟩ := outcome_isPredictive_eq_ok_iff.1 h
  exact exists_first_eq_ok_of_report hreports s

/-- A symbol selects one alternative of a non-terminal at most, in a grammar that the report calls
LL(1) and in which each non-terminal has one rule. -/
theorem eq_of_selects (h : g.isPredictive.outcome = .ok true) (hd : g.leftSides.Nodup)
    {q : Production} (hp : g.HasAlternative s p) (hq : g.HasAlternative s q)
    (htp : g.Selects s p t) (htq : g.Selects s q t) : p = q := by
  obtain ⟨r, hr, hpr⟩ := exists_rule?_of_hasAlternative hd hp
  obtain ⟨r', hr', hqr⟩ := exists_rule?_of_hasAlternative hd hq
  rw [hr] at hr'
  cases hr'
  have hsymm : Std.Symm fun p q => ∀ t, ¬ (g.Selects s p t ∧ g.Selects s q t) :=
    ⟨fun _ _ hpq t hqp => hpq t hqp.symm⟩
  refine Classical.byContradiction fun hne => ?_
  exact (pairwise_not_selects_of_isPredictive h hr).forall hpr hqr hne t ⟨htp, htq⟩

end Grammar

end Predictive
