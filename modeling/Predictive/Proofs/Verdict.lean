import Predictive.Proofs.LeftRecursion
import Predictive.Proofs.SelectionSets
import Predictive.Proofs.SkeletonParts

/-!
# The report, the verdict and the procedures

The report goes through the rules, a non-terminal with several rules several times; the skeleton
goes through the non-terminals, each once. Both look at the first rule of a non-terminal only. Main
statement: they never disagree (`report_verdict_procedures`). Report and verdict fail exactly when
leading symbols form a cycle anywhere; else a rule is reported as disjoint exactly when no symbol
selects two alternatives of its non-terminal, and the verdict is that of the procedures' lookahead
sets. With disjoint lookahead sets it does not matter in which order the branches of a procedure are
tried (`find?_eq_of_perm`).
-/

namespace Predictive

/-- No token is in the lookahead sets of two branches of the procedure. -/
def Procedure.IsDeterministic (procedure : Procedure) : Prop :=
  ∀ (i j : Nat) (b c : Branch), i ≠ j → procedure.branches[i]? = some b →
    procedure.branches[j]? = some c → ∀ t, ¬ (t ∈ b.lookahead ∧ t ∈ c.lookahead)

/-- The branches of a procedure have disjoint lookahead sets when it is deterministic. -/
theorem Procedure.isDeterministic_iff {procedure : Procedure} :
    procedure.IsDeterministic ↔
      procedure.branches.Pairwise fun b c => ∀ t, ¬ (t ∈ b.lookahead ∧ t ∈ c.lookahead) :=
  (pairwise_iff_of_ne fun _ _ hbc t hcb => hbc t hcb.symm).symm

/-- A test that no two members of a list pass finds the same member in whatever order the list is
searched. -/
theorem find?_eq_of_perm {α : Type} {test : α → Bool} {l l' : List α} (hperm : l'.Perm l)
    (htest : l.Pairwise fun a b => ¬ (test a = true ∧ test b = true)) :
    l'.find? test = l.find? test := by
  have hfilter : (l'.filter test).Perm (l.filter test) := hperm.filter test
  have hnone : (l.filter test).Pairwise fun _ _ => False := by
    refine (htest.filter test).imp_of_mem fun ha hb hab => hab ?_
    exact ⟨(List.mem_filter.1 ha).2, (List.mem_filter.1 hb).2⟩
  rw [← List.head?_filter, ← List.head?_filter]
  cases hl : l.filter test with
  | nil =>
    rw [hl] at hfilter
    rw [hfilter.eq_nil]
  | cons a rest =>
    rw [hl] at hfilter hnone
    cases rest with
    | nil => rw [List.perm_singleton.1 hfilter]
    | cons b rest => exact absurd ((List.pairwise_cons.1 hnone).1 b List.mem_cons_self) id

namespace Grammar

open Relation (TransGen)

/-- Two alternatives of the first rule of `s`, at different places, are selected by one symbol. -/
def Overlaps (g : Grammar) (s : Symbol) : Prop :=
  ∃ r, g.rule? s = some r ∧ ∃ (i j : Nat) (p q : Production) (t : Symbol), i ≠ j ∧
    r.alternatives[i]? = some p ∧ r.alternatives[j]? = some q ∧ g.Selects s p t ∧ g.Selects s q t

/-- A report and a verdict on a grammar agree with each other and with the procedures for the
grammar's non-terminals. -/
structure Agree (g : Grammar) (reports : List SelectionReport) (verdict : Bool) : Prop where
  /-- There is an entry for each rule, in order, with the selection sets of the rule's non-terminal;
  it is disjoint when no symbol selects two alternatives of the first rule of the non-terminal. -/
  entries : List.Forall₂ (fun r report => report.nonTerminal = r.nonTerminal ∧
    (g.selectionSets r.nonTerminal).outcome = .ok report.sets ∧
    (report.disjoint = true ↔ ¬ g.Overlaps r.nonTerminal)) g.rules reports
  /-- Every non-terminal has a procedure. -/
  procedures : ∀ s ∈ g.nonTerminals,
    ∃ procedure, (g.procedure? s).outcome = .ok (some procedure)
  /-- The verdict is that all procedures are deterministic. -/
  verdict_iff : verdict = true ↔ ∀ s ∈ g.nonTerminals, ∀ procedure,
    (g.procedure? s).outcome = .ok (some procedure) → procedure.IsDeterministic
  /-- If the grammar is accepted, a procedure takes the same branch for a token in whatever order
  its branches are tried. -/
  find?_eq : verdict = true → ∀ s ∈ g.nonTerminals, ∀ procedure,
    (g.procedure? s).outcome = .ok (some procedure) →
      ∀ branches : List Branch, branches.Perm procedure.branches → ∀ token : Symbol,
        branches.find? (token ∈ ·.lookahead) = procedure.branches.find? (token ∈ ·.lookahead)

variable {g : Grammar} {s : Symbol} {r : Rule} {sets : List SymbolSet} {procedure : Procedure}

/-- Where all FIRST sets are there, all selection sets are. -/
theorem exists_selectionSet_eq_ok (h : ∀ s, ∃ set, g.first s = .ok set) (s : Symbol)
    (p : Production) : ∃ set, (g.selectionSet s p).outcome = .ok set := by
  obtain ⟨leadFirst, hlead⟩ := h p.lead
  obtain ⟨follow, hfollow⟩ := exists_follow_eq_ok h s
  simp only [selectionSet, Traced.outcome_bind, bind_eq_ok_iff, Traced.outcome_ofExcept]
  by_cases he : epsilon ∈ leadFirst
  · refine ⟨leadFirst ∪ follow, leadFirst, hlead, ?_⟩
    rw [if_pos he, Traced.outcome_bind, bind_eq_ok_iff]
    exact ⟨follow, hfollow, rfl⟩
  · refine ⟨leadFirst, leadFirst, hlead, ?_⟩
    rw [if_neg he]
    rfl

/-- Where all FIRST sets are there, every symbol has its list of selection sets. -/
theorem exists_selectionSets_eq_ok (h : ∀ s, ∃ set, g.first s = .ok set) (s : Symbol) :
    ∃ sets, (g.selectionSets s).outcome = .ok sets := by
  cases hr : g.rule? s with
  | none =>
    rw [selectionSets, hr]
    exact ⟨[], rfl⟩
  | some r =>
    rw [selectionSets, hr]
    exact exists_outcome_mapM_eq_ok_iff.2 fun p _ => exists_selectionSet_eq_ok h _ p

/-- There is a report exactly when the leading symbols form no cycle. -/
theorem exists_report_eq_ok_iff :
    (∃ reports, g.report.outcome = .ok reports) ↔ ¬ ∃ x, TransGen g.LeadsTo x x := by
  constructor
  · rintro ⟨reports, h⟩ ⟨x, hxx⟩
    have hacc := exists_first_eq_ok_iff_acc.1 (exists_first_eq_ok_of_report h x)
    exact not_transGen_leadsTo_self hacc hxx
  · intro hacyclic
    have hfirst : ∀ s, ∃ set, g.first s = .ok set :=
      exists_first_eq_ok fun x hxx => hacyclic ⟨x, hxx⟩
    refine exists_outcome_mapM_eq_ok_iff.2 fun r hr => ?_
    obtain ⟨sets, hsets⟩ := exists_selectionSets_eq_ok hfirst r.nonTerminal
    exact ⟨⟨r.nonTerminal, sets⟩, outcome_reportRule_eq_ok_iff.2 ⟨sets, hsets, rfl⟩⟩

/-- There is a verdict exactly when there is a report. -/
theorem exists_isPredictive_eq_ok_iff :
    (∃ verdict, g.isPredictive.outcome = .ok verdict) ↔
      ∃ reports, g.report.outcome = .ok reports := by
  simp only [outcome_isPredictive_eq_ok_iff]
  constructor
  · rintro ⟨_, reports, h, -⟩
    exact ⟨reports, h⟩
  · rintro ⟨reports, h⟩
    exact ⟨_, reports, h, rfl⟩

/-- No two alternatives of a symbol overlap when no symbol selects any two of them. -/
theorem not_overlaps_iff_pairwise : ¬ g.Overlaps s ↔
    (g.alternativesOf s).Pairwise fun p q => ∀ t, ¬ (g.Selects s p t ∧ g.Selects s q t) := by
  rw [pairwise_iff_of_ne fun p q hpq t hqp => hpq t hqp.symm, Overlaps, alternativesOf]
  cases hr : g.rule? s with
  | none => simp
  | some r =>
    constructor
    · intro hnot i j p q hij hp hq t hpq
      exact hnot ⟨r, rfl, i, j, p, q, t, hij, hp, hq, hpq.1, hpq.2⟩
    · rintro hne ⟨r', hr', i, j, p, q, t, hij, hp, hq, hpt, hqt⟩
      cases hr'
      exact hne i j p q hij hp hq t ⟨hpt, hqt⟩

/-- The selection sets of a symbol are disjoint exactly when no symbol selects two alternatives of
its first rule. -/
theorem allDisjoint_eq_true_iff_not_overlaps (h : (g.selectionSets s).outcome = .ok sets) :
    allDisjoint sets = true ↔ ¬ g.Overlaps s := by
  have hsets := outcome_selectionSets_eq_ok_iff_alternativesOf.1 h
  rw [allDisjoint_eq_true_iff, not_overlaps_iff_pairwise]
  constructor
  · refine pairwise_of_forall₂ (fun p q a b hp hq hab t hpq => ?_) hsets
    exact hab t ((mem_of_selectionSet_eq_ok hp).2 hpq.1) ((mem_of_selectionSet_eq_ok hq).2 hpq.2)
  · refine pairwise_of_forall₂ (fun a b p q hp hq hpq t hta htb => ?_) hsets.flip
    exact hpq t ⟨(mem_of_selectionSet_eq_ok hp).1 hta, (mem_of_selectionSet_eq_ok hq).1 htb⟩

/-- The procedure for a symbol has the branches for the alternatives of its first rule. -/
theorem outcome_procedure?_eq_ok_iff (hr : g.rule? s = some r) :
    (g.procedure? s).outcome = .ok (some procedure) ↔
      procedure.nonTerminal = s ∧
        List.Forall₂ (g.IsBranch s) r.alternatives procedure.branches := by
  have hs : r.nonTerminal = s := (of_rule?_eq_some hr).2
  rw [← hs, ← outcome_ruleProcedure_eq_ok_iff, hs, procedure?, hr, Traced.outcome_map]
  cases (g.ruleProcedure r).outcome <;> simp [Functor.map, Except.map]

/-- The lookahead sets of the branches of a symbol's procedure are the symbol's selection sets. -/
theorem outcome_selectionSets_of_procedure? (hr : g.rule? s = some r)
    (h : (g.procedure? s).outcome = .ok (some procedure)) :
    (g.selectionSets s).outcome = .ok (procedure.branches.map Branch.lookahead) := by
  rw [outcome_selectionSets_eq_ok_iff hr, List.forall₂_map_right_iff]
  exact ((outcome_procedure?_eq_ok_iff hr).1 h).2.imp fun _ _ hb => hb.selectionSet_eq

/-- A symbol with a rule and with selection sets has a procedure. -/
theorem exists_procedure?_eq_ok (hr : g.rule? s = some r)
    (h : (g.selectionSets s).outcome = .ok sets) :
    ∃ procedure, (g.procedure? s).outcome = .ok (some procedure) := by
  have hsets := (outcome_selectionSets_eq_ok_iff hr).1 h
  have hbranches := exists_zipWith_iff_forall₂.1
    ⟨sets, hsets, Eq.refl (sets.zipWith (fun set p => Branch.mk set (p.symbols.map g.step)) _)⟩
  simp only [← isBranch_iff] at hbranches
  exact ⟨⟨s, _⟩, (outcome_procedure?_eq_ok_iff hr).2 ⟨rfl, hbranches⟩⟩

/-- The procedure for a symbol is deterministic exactly when no symbol selects two alternatives of
the symbol's first rule. -/
theorem isDeterministic_iff_not_overlaps (hr : g.rule? s = some r)
    (h : (g.procedure? s).outcome = .ok (some procedure)) :
    procedure.IsDeterministic ↔ ¬ g.Overlaps s := by
  rw [← allDisjoint_eq_true_iff_not_overlaps (outcome_selectionSets_of_procedure? hr h),
    allDisjoint_eq_true_iff, List.pairwise_map, Procedure.isDeterministic_iff]
  simp only [not_and]

/-- A report has an entry for each rule, with the selection sets of the rule's non-terminal, and
whether they are disjoint. -/
theorem forall₂_of_report {reports : List SelectionReport} (h : g.report.outcome = .ok reports) :
    List.Forall₂ (fun r report => report.nonTerminal = r.nonTerminal ∧
      (g.selectionSets r.nonTerminal).outcome = .ok report.sets ∧
      (report.disjoint = true ↔ ¬ g.Overlaps r.nonTerminal)) g.rules reports :=
  (outcome_report_eq_ok_iff.1 h).imp fun _ _ hentry =>
    ⟨hentry.1, hentry.2, allDisjoint_eq_true_iff_not_overlaps hentry.2⟩

/-- All entries of a report are disjoint exactly when no symbol selects two alternatives of one
non-terminal. -/
theorem all_disjoint_iff {reports : List SelectionReport} (h : g.report.outcome = .ok reports) :
    reports.all SelectionReport.disjoint = true ↔ ∀ s ∈ g.nonTerminals, ¬ g.Overlaps s := by
  have hentries := forall₂_of_report h
  rw [List.all_eq_true]
  constructor
  · intro hall s hs
    obtain ⟨r, hr, rfl⟩ := mem_nonTerminals_iff.1 hs
    obtain ⟨report, hreport, -, -, hdisjoint⟩ := exists_mem_of_forall₂ hentries hr
    exact hdisjoint.1 (hall report hreport)
  · intro hnone report hreport
    obtain ⟨r, hr, -, -, hdisjoint⟩ := exists_mem_of_forall₂ hentries.flip hreport
    exact hdisjoint.2 (hnone r.nonTerminal (mem_nonTerminals_iff.2 ⟨r, hr, rfl⟩))

/-- In a grammar whose leading symbols form no cycle, every non-terminal has a procedure. -/
theorem exists_procedure?_of_mem_nonTerminals (hacyclic : ¬ ∃ x, TransGen g.LeadsTo x x)
    (hs : s ∈ g.nonTerminals) :
    ∃ procedure, (g.procedure? s).outcome = .ok (some procedure) := by
  have hfirst : ∀ x, ∃ set, g.first x = .ok set :=
    exists_first_eq_ok fun x hxx => hacyclic ⟨x, hxx⟩
  obtain ⟨r, hr⟩ := exists_rule?_of_mem_nonTerminals hs
  obtain ⟨sets, hsets⟩ := exists_selectionSets_eq_ok hfirst s
  exact exists_procedure?_eq_ok hr hsets

/-- In a grammar whose leading symbols form no cycle, the report, its verdict and the procedures
agree. -/
theorem agree_of_report (hacyclic : ¬ ∃ x, TransGen g.LeadsTo x x)
    {reports : List SelectionReport} (h : g.report.outcome = .ok reports) :
    g.Agree reports (reports.all SelectionReport.disjoint) := by
  have hprocedures : ∀ s ∈ g.nonTerminals,
      ∃ procedure, (g.procedure? s).outcome = .ok (some procedure) :=
    fun s hs => exists_procedure?_of_mem_nonTerminals hacyclic hs
  have hverdict : reports.all SelectionReport.disjoint = true ↔
      ∀ s ∈ g.nonTerminals, ∀ procedure,
        (g.procedure? s).outcome = .ok (some procedure) → procedure.IsDeterministic := by
    rw [all_disjoint_iff h]
    constructor
    · intro hnone s hs procedure hprocedure
      obtain ⟨r, hr⟩ := exists_rule?_of_mem_nonTerminals hs
      exact (isDeterministic_iff_not_overlaps hr hprocedure).2 (hnone s hs)
    · intro hall s hs
      obtain ⟨r, hr⟩ := exists_rule?_of_mem_nonTerminals hs
      obtain ⟨procedure, hprocedure⟩ := hprocedures s hs
      exact (isDeterministic_iff_not_overlaps hr hprocedure).1 (hall s hs procedure hprocedure)
  refine ⟨forall₂_of_report h, hprocedures, hverdict, ?_⟩
  intro htrue s hs procedure hprocedure branches hperm token
  have hlookahead := Procedure.isDeterministic_iff.1 (hverdict.1 htrue s hs procedure hprocedure)
  refine find?_eq_of_perm hperm (hlookahead.imp fun hbc => ?_)
  simpa using hbc token

/-- Report and verdict fail exactly when leading symbols form a cycle anywhere, whatever overlaps
before; else they agree with each other and with the procedures. -/
theorem report_verdict_procedures (g : Grammar) :
    (g.report.outcome = .error .leftRecursion ↔ ∃ x, TransGen g.LeadsTo x x) ∧
      (g.isPredictive.outcome = .error .leftRecursion ↔ ∃ x, TransGen g.LeadsTo x x) ∧
      ((¬ ∃ x, TransGen g.LeadsTo x x) → ∃ reports verdict, g.report.outcome = .ok reports ∧
        g.isPredictive.outcome = .ok verdict ∧ g.Agree reports verdict) := by
  have hreport : g.report.outcome = .error .leftRecursion ↔ ∃ x, TransGen g.LeadsTo x x := by
    rw [eq_error_iff_not_exists_eq_ok, exists_report_eq_ok_iff, Classical.not_not]
  have hverdict : g.isPredictive.outcome = .error .leftRecursion ↔
      ∃ x, TransGen g.LeadsTo x x := by
    rw [eq_error_iff_not_exists_eq_ok, exists_isPredictive_eq_ok_iff, exists_report_eq_ok_iff,
      Classical.not_not]
  refine ⟨hreport, hverdict, fun hacyclic => ?_⟩
  obtain ⟨reports, hreports⟩ := exists_report_eq_ok_iff.2 hacyclic
  have hok := outcome_isPredictive_eq_ok_iff.2 ⟨reports, hreports, rfl⟩
  exact ⟨reports, _, hreports, hok, agree_of_report hacyclic hreports⟩

/-- A grammar with two rules for one symbol, of which the second, with alternatives that start
alike, counts for nothing. -/
def shadowedOverlap : Grammar :=
  ⟨[⟨"S", [⟨"a", ["S"]⟩, ⟨"b", []⟩], "", by simp⟩, ⟨"S", [⟨"a", []⟩, ⟨"a", ["b"]⟩], "", by simp⟩]⟩

/-- Report, verdict and procedures agree on a grammar with a rule that no look-up finds. -/
theorem report_verdict_procedures_shadowedOverlap :
    (¬ ∃ x, TransGen shadowedOverlap.LeadsTo x x) ∧ ∃ reports verdict,
      shadowedOverlap.report.outcome = .ok reports ∧
      shadowedOverlap.isPredictive.outcome = .ok verdict ∧
      shadowedOverlap.Agree reports verdict :=
  have hacyclic : ¬ ∃ x, TransGen shadowedOverlap.LeadsTo x x := fun ⟨x, hxx⟩ =>
    not_transGen_leadsTo_of_leftSides (by decide +kernel) x hxx
  ⟨hacyclic, (report_verdict_procedures shadowedOverlap).2.2 hacyclic⟩

/-- The grammar is accepted, and both entries of its report are disjoint. -/
example : shadowedOverlap.isPredictive.outcome.toOption = some true := by
  decide +kernel

end Grammar

end Predictive
