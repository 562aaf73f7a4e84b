import Predictive.Proofs.Dependence

/-!
# The order of rules and alternatives

A grammar can be written in several orders: its rules can change places, as long as rules of one
symbol keep their order, and so can the alternatives of each rule. Look-ups then find the same
alternatives and symbols stand at the same places, although the walk through them goes another way.
Main statement: the order does not matter to the analysis (`analysedAlike_of_reordered`): FIRST,
FOLLOW under any stack and the verdict stay the same, or fail as before, and selection sets move
with their alternatives.
-/

namespace Predictive

/-- The other rule has the same non-terminal and the same alternatives, in any order. -/
def Rule.IsRearranged (r r' : Rule) : Prop :=
  r'.nonTerminal = r.nonTerminal ∧ r'.alternatives.Perm r.alternatives

namespace Grammar

/-- The other grammar has the rules of `g`, each with its alternatives in any order, in an order
that is the same for the rules of any one symbol. -/
def Reordered (g g' : Grammar) : Prop :=
  ∃ rules, List.Forall₂ Rule.IsRearranged g.rules rules ∧ g'.rules.Perm rules ∧
    ∀ s, g'.rules.filter (·.nonTerminal = s) = rules.filter (·.nonTerminal = s)

/-- Two grammars are analysed alike, except for the order in which selection sets are listed. -/
structure AnalysedAlike (g g' : Grammar) : Prop where
  /-- FIRST of every symbol is the same, or fails in both. -/
  first_eq : ∀ s, g'.first s = g.first s
  /-- FOLLOW of every symbol is the same under every stack, or fails in both. -/
  followFrom_eq : ∀ stack s, (g'.followFrom stack s).outcome = (g.followFrom stack s).outcome
  /-- The selection sets of every symbol are out of reach in both or in neither. -/
  selectionSets_fails : ∀ s, (g'.selectionSets s).outcome = .error .leftRecursion ↔
    (g.selectionSets s).outcome = .error .leftRecursion
  /-- The selection sets are arranged as their alternatives are: the two go together, and an order
  of indices that makes the one list of alternatives out of the other does so with the sets. -/
  selectionSets_arranged : ∀ s sets sets', (g.selectionSets s).outcome = .ok sets →
    (g'.selectionSets s).outcome = .ok sets' →
      ((g'.alternativesOf s).zip sets').Perm ((g.alternativesOf s).zip sets) ∧
      sets.length = (g.alternativesOf s).length ∧ sets'.length = (g'.alternativesOf s).length ∧
      ∀ order : Nat → Nat, (∀ i, (g'.alternativesOf s)[i]? = (g.alternativesOf s)[order i]?) →
        ∀ i, sets'[i]? = sets[order i]?
  /-- The verdict is the same, or fails for both. -/
  isPredictive_eq : g'.isPredictive.outcome = g.isPredictive.outcome

variable {g g' : Grammar} {s t : Symbol} {p : Production} {sets sets' : List SymbolSet}

/-! ## Places and look-ups -/

/-- A look-up finds rearranged rules in lists of rearranged rules. -/
theorem rel_find?_of_forall₂ {rules rules' : List Rule}
    (h : List.Forall₂ Rule.IsRearranged rules rules') (s : Symbol) :
    Option.Rel Rule.IsRearranged (rules.find? (·.nonTerminal = s))
      (rules'.find? (·.nonTerminal = s)) := by
  induction h with
  | nil => exact .none
  | @cons r r' _ _ hr _ ih =>
    rw [List.find?_cons, List.find?_cons, hr.1]
    split
    · exact .some hr
    · exact ih

/-- A symbol leads to the leading symbols of the alternatives of its first rule. -/
theorem leadsTo_iff_alternativesOf : g.LeadsTo s t ↔ ∃ p ∈ g.alternativesOf s, p.lead = t := by
  simp only [LeadsTo, mem_alternativesOf_iff]
  grind

namespace Reordered

/-- The first rules of a symbol have the same alternatives. -/
theorem perm_alternativesOf (h : g.Reordered g') (s : Symbol) :
    (g'.alternativesOf s).Perm (g.alternativesOf s) := by
  obtain ⟨rules, hrules, -, hfilter⟩ := h
  -- The first rule of a symbol is the first of the symbol's own, and these keep their order.
  have hfind : g'.rule? s = rules.find? (·.nonTerminal = s) := by
    rw [rule?, ← List.head?_filter, ← List.head?_filter, hfilter s]
  have hrel := rel_find?_of_forall₂ hrules s
  rw [alternativesOf, alternativesOf, hfind, rule?]
  generalize g.rules.find? (·.nonTerminal = s) = r at hrel ⊢
  generalize rules.find? (·.nonTerminal = s) = r' at hrel ⊢
  cases hrel with
  | none => exact .refl _
  | some hr => exact hr.2

/-- A symbol leads to the same symbols. -/
theorem leadsTo_iff (h : g.Reordered g') (s t : Symbol) : g'.LeadsTo s t ↔ g.LeadsTo s t := by
  simp only [leadsTo_iff_alternativesOf, (h.perm_alternativesOf s).mem_iff]

/-- All rules of a symbol together have the same alternatives. -/
theorem hasAlternative_iff (h : g.Reordered g') (owner : Symbol) (p : Production) :
    g'.HasAlternative owner p ↔ g.HasAlternative owner p := by
  obtain ⟨rules, hrules, hperm, -⟩ := h
  constructor
  · rintro ⟨r', hr', rfl, hp⟩
    obtain ⟨r, hr, hrel⟩ := exists_mem_of_forall₂ hrules.flip (hperm.mem_iff.1 hr')
    exact ⟨r, hr, hrel.1.symm, hrel.2.mem_iff.1 hp⟩
  · rintro ⟨r, hr, rfl, hp⟩
    obtain ⟨r', hr', hrel⟩ := exists_mem_of_forall₂ hrules hr
    exact ⟨r', hperm.mem_iff.2 hr', hrel.1, hrel.2.mem_iff.2 hp⟩

/-- Symbols stand at the same places. -/
theorem hasPlace_iff (h : g.Reordered g') (owner s : Symbol) (next? : Option Symbol) :
    g'.HasPlace owner s next? ↔ g.HasPlace owner s next? := by
  simp only [HasPlace, Occurs, h.hasAlternative_iff]

/-- FIRST does not depend on the order. -/
theorem first_eq (h : g.Reordered g') (s : Symbol) : g'.first s = g.first s :=
  (LeadsAlike.of_leadsTo_iff h.leadsTo_iff).first_eq trivial

/-- FOLLOW does not depend on the order. -/
theorem outcome_followFrom_eq (h : g.Reordered g') (stack : List Symbol) (s : Symbol) :
    (g'.followFrom stack s).outcome = (g.followFrom stack s).outcome :=
  outcome_followFrom_eq_of_hasPlace_iff h.hasPlace_iff h.first_eq stack s

/-- The selection set of an alternative does not depend on the order. -/
theorem outcome_selectionSet_eq (h : g.Reordered g') (s : Symbol) (p : Production) :
    (g'.selectionSet s p).outcome = (g.selectionSet s p).outcome :=
  Grammar.outcome_selectionSet_eq (h.first_eq p.lead) fun _ => h.outcome_followFrom_eq [] s

end Reordered

/-! ## Selection sets -/

/-- The selection set of an alternative, where it is there. -/
def selected (g : Grammar) (s : Symbol) (p : Production) : SymbolSet :=
  (g.selectionSet s p).outcome.toOption.getD ∅

/-- Each alternative of the first rule has its own selection set. -/
theorem eq_map_selected (h : (g.selectionSets s).outcome = .ok sets) :
    sets = (g.alternativesOf s).map (g.selected s) := by
  rw [outcome_selectionSets_eq_ok_iff_alternativesOf] at h
  rw [← List.forall₂_eq_eq_eq, List.forall₂_map_right_iff]
  refine h.flip.imp fun set p hset => ?_
  rw [selected, hset]
  rfl

/-- There are selection sets of a symbol when there is one for each alternative of its first
rule. -/
theorem exists_selectionSets_eq_ok_iff_alternativesOf :
    (∃ sets, (g.selectionSets s).outcome = .ok sets) ↔
      ∀ p ∈ g.alternativesOf s, ∃ set, (g.selectionSet s p).outcome = .ok set := by
  simp only [outcome_selectionSets_eq_ok_iff_alternativesOf, ← outcome_mapM_eq_ok_iff]
  exact exists_outcome_mapM_eq_ok_iff

namespace Reordered

/-- The selection set of an alternative does not depend on the order. -/
theorem selected_eq (h : g.Reordered g') : g'.selected s = g.selected s := by
  funext p
  rw [selected, selected, h.outcome_selectionSet_eq]

/-- There are selection sets in both grammars or in neither. -/
theorem exists_selectionSets_eq_ok_iff (h : g.Reordered g') (s : Symbol) :
    (∃ sets, (g'.selectionSets s).outcome = .ok sets) ↔
      ∃ sets, (g.selectionSets s).outcome = .ok sets := by
  simp only [exists_selectionSets_eq_ok_iff_alternativesOf, (h.perm_alternativesOf s).mem_iff,
    h.outcome_selectionSet_eq]

/-- What selects an alternative does not depend on the order. -/
theorem selects_iff (h : g.Reordered g') : g'.Selects s p t ↔ g.Selects s p t := by
  simp only [Selects, firstMembers, followMembers, follow, h.first_eq, h.outcome_followFrom_eq]

/-- Alternatives overlap in both grammars or in neither. -/
theorem overlaps_iff (h : g.Reordered g') (s : Symbol) : g'.Overlaps s ↔ g.Overlaps s := by
  rw [← not_iff_not, not_overlaps_iff_pairwise, not_overlaps_iff_pairwise]
  simp only [h.selects_iff]
  exact (h.perm_alternativesOf s).pairwise_iff fun hpq t hqp => hpq t hqp.symm

end Reordered

/-! ## The analysis -/

/-- The analysis of a grammar does not depend on the order in which its rules and their alternatives
are written, as long as rules of one symbol keep their order. -/
theorem analysedAlike_of_reordered (h : g.Reordered g') : g.AnalysedAlike g' where
  first_eq := h.first_eq
  followFrom_eq := h.outcome_followFrom_eq
  selectionSets_fails s := by
    rw [eq_error_iff_not_exists_eq_ok, eq_error_iff_not_exists_eq_ok,
      h.exists_selectionSets_eq_ok_iff]
  selectionSets_arranged s sets sets' hsets hsets' := by
    have hperm := h.perm_alternativesOf s
    rw [eq_map_selected hsets, eq_map_selected hsets', h.selected_eq, ← List.map_prod_left_eq_zip,
      ← List.map_prod_left_eq_zip]
    refine ⟨hperm.map _, List.length_map _, List.length_map _, fun order horder i => ?_⟩
    rw [List.getElem?_map, List.getElem?_map, horder i]
  isPredictive_eq :=
    outcome_isPredictive_eq_of_overlaps_iff h.leadsTo_iff fun s _ => h.overlaps_iff s

/-- A grammar with two rules for `A`, which would lead to itself if look-ups found the second. -/
def twoRules : Grammar :=
  ⟨[⟨"S", [⟨"A", ["b"]⟩, ⟨"c", []⟩], "", by simp⟩, ⟨"A", [⟨"d", []⟩, ⟨epsilon, []⟩], "", by simp⟩,
    ⟨"A", [⟨"S", ["A"]⟩, ⟨"b", []⟩], "", by simp⟩]⟩

/-- The same rules with `S` between those for `A`, and the alternatives of the first two the other
way round. -/
def twoRulesReordered : Grammar :=
  ⟨[⟨"A", [⟨epsilon, []⟩, ⟨"d", []⟩], "", by simp⟩, ⟨"S", [⟨"c", []⟩, ⟨"A", ["b"]⟩], "", by simp⟩,
    ⟨"A", [⟨"S", ["A"]⟩, ⟨"b", []⟩], "", by simp⟩]⟩

/-- The two ways to write the grammar are analysed alike. -/
theorem analysedAlike_of_reordered_twoRules :
    twoRules.Reordered twoRulesReordered ∧ twoRules.AnalysedAlike twoRulesReordered := by
  have h : twoRules.Reordered twoRulesReordered := by
    refine ⟨[⟨"S", [⟨"c", []⟩, ⟨"A", ["b"]⟩], "", by simp⟩,
      ⟨"A", [⟨epsilon, []⟩, ⟨"d", []⟩], "", by simp⟩,
      ⟨"A", [⟨"S", ["A"]⟩, ⟨"b", []⟩], "", by simp⟩], ?_, by decide, fun s => ?_⟩
    · exact .cons ⟨rfl, by decide⟩ (.cons ⟨rfl, by decide⟩ (.cons ⟨rfl, by decide⟩ .nil))
    · simp only [twoRulesReordered, List.filter_cons]
      grind
  exact ⟨h, analysedAlike_of_reordered h⟩

end Grammar

end Predictive
