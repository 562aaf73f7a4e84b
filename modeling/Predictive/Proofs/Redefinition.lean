import Predictive.Proofs.Dependence
import Predictive.Proofs.SkeletonOutcome

/-!
# Symbols with several rules

Of several rules of one symbol a look-up finds the first. FIRST sets and the steps of procedures
come from look-ups, so later rules do not matter to them; but FOLLOW goes through the places in all
rules. Main statements: a later rule can change a lookahead set and the verdict
(`redefinition_changes_verdict`), but only through FOLLOW (`redefinitions_reach_follow`): procedures
keep their branches and steps, and their lookahead sets where no alternative asks for FOLLOW or
FOLLOW is as it was, which it is where later rules bring no places of their own.
-/

namespace Predictive

open Relation (ReflTransGen TransGen)

/-- The rules whose non-terminal has no rule before them, in order. -/
def firstDefinitions : List Rule → List Rule
  | [] => []
  | r :: rest => r :: (firstDefinitions rest).filter (·.nonTerminal ≠ r.nonTerminal)

/-- The other branch has the same steps and holds the token for the empty string if this one does.
It has the same lookahead if not, and else no other tokens but, possibly, the end marker. -/
structure Branch.IsAlikeButForFollow (b b' : Branch) : Prop where
  /-- The steps are the same. -/
  steps_eq : b'.steps = b.steps
  /-- Both or neither ask for FOLLOW. -/
  epsilon_mem_iff : epsilon ∈ b'.lookahead ↔ epsilon ∈ b.lookahead
  /-- A branch that does not ask for FOLLOW keeps its lookahead. -/
  lookahead_eq : epsilon ∉ b.lookahead → b'.lookahead = b.lookahead
  /-- What is left of FOLLOW was there, but for the end marker. -/
  mem_or_eq_endMarker : ∀ t ∈ b'.lookahead, t ∈ b.lookahead ∨ t = endMarker

namespace Grammar

/-- The grammar without the rules of symbols that have an earlier rule. -/
def withoutRedefinitions (g : Grammar) : Grammar := ⟨firstDefinitions g.rules⟩

/-- An alternative of the first rule of the symbol may be empty, so that its selection set has
FOLLOW of the symbol in it. -/
def AsksFollow (g : Grammar) (s : Symbol) : Prop :=
  ∃ p ∈ g.alternativesOf s, epsilon ∈ g.firstMembers p.lead

/-- The rules of symbols that have an earlier rule matter to FOLLOW, and to nothing else. -/
structure RedefinitionsReachFollow (g : Grammar) : Prop where
  /-- FIRST sets are the same without them, or fail as before. -/
  first_eq : ∀ s, g.withoutRedefinitions.first s = g.first s
  /-- Without them FOLLOW is there where it was, with no other members but, possibly, the end
  marker. -/
  exists_follow : ∀ s set, (g.follow s).outcome = .ok set →
    ∃ part, (g.withoutRedefinitions.follow s).outcome = .ok part ∧
      ∀ t ∈ part, t ∈ set ∨ t = endMarker
  /-- FOLLOW is the same if each place in one of them is that of another rule too. -/
  follow_eq : (∀ owner x next?, g.HasPlace owner x next? →
    g.withoutRedefinitions.HasPlace owner x next?) →
      ∀ s, (g.withoutRedefinitions.follow s).outcome = (g.follow s).outcome
  /-- Without them there is a procedure where there was one, with branches that are alike but for
  what FOLLOW puts into their lookahead. -/
  exists_procedure : ∀ s procedure, (g.procedure? s).outcome = .ok (some procedure) →
    ∃ procedure', (g.withoutRedefinitions.procedure? s).outcome = .ok (some procedure') ∧
      procedure'.nonTerminal = procedure.nonTerminal ∧
      List.Forall₂ Branch.IsAlikeButForFollow procedure.branches procedure'.branches
  /-- A procedure is the same, or fails as before, if it does not ask for FOLLOW or that has not
  changed. -/
  procedure_eq : ∀ s, (g.AsksFollow s →
    (g.withoutRedefinitions.follow s).outcome = (g.follow s).outcome) →
      (g.withoutRedefinitions.procedure? s).outcome = (g.procedure? s).outcome
  /-- There is a verdict without them exactly when there is one with them. -/
  isPredictive_fails : g.withoutRedefinitions.isPredictive.outcome = .error .leftRecursion ↔
    g.isPredictive.outcome = .error .leftRecursion
  /-- The verdict is the same unless a symbol asks for FOLLOW and that has changed. -/
  isPredictive_eq : (∀ s, g.AsksFollow s →
    (g.withoutRedefinitions.follow s).outcome = (g.follow s).outcome) →
      g.withoutRedefinitions.isPredictive.outcome = g.isPredictive.outcome

variable {g : Grammar} {s t x owner : Symbol} {p : Production} {next? : Option Symbol}
  {set : SymbolSet}

/-! ## Look-ups and places -/

/-- A look-up finds the same rule among first rules. -/
theorem find?_firstDefinitions (rules : List Rule) (s : Symbol) :
    (firstDefinitions rules).find? (·.nonTerminal = s) =
      rules.find? (·.nonTerminal = s) := by
  induction rules with
  | nil => rfl
  | cons r rules ih =>
    rw [firstDefinitions, List.find?_cons, List.find?_cons]
    split
    · rfl
    next hr =>
      -- No rule of the symbol is left out with those of another one.
      rw [List.find?_filter, ← ih]
      congr 1
      funext r'
      grind

/-- A first rule is one of the rules. -/
theorem mem_of_mem_firstDefinitions {rules : List Rule} {r : Rule}
    (h : r ∈ firstDefinitions rules) : r ∈ rules := by
  induction rules with
  | nil => exact h
  | cons r' rules ih =>
    rw [firstDefinitions, List.mem_cons, List.mem_filter] at h
    exact List.mem_cons.2 (h.imp_right fun hr => ih hr.1)

/-- Look-ups find the same rules. -/
theorem rule?_withoutRedefinitions : g.withoutRedefinitions.rule? s = g.rule? s :=
  find?_firstDefinitions g.rules s

/-- The first rule of a symbol has the same alternatives. -/
theorem alternativesOf_withoutRedefinitions :
    g.withoutRedefinitions.alternativesOf s = g.alternativesOf s := by
  rw [alternativesOf, alternativesOf, rule?_withoutRedefinitions]

/-- Symbols lead to the same symbols. -/
theorem leadsTo_withoutRedefinitions_iff (s t : Symbol) :
    g.withoutRedefinitions.LeadsTo s t ↔ g.LeadsTo s t := by
  rw [LeadsTo, LeadsTo, rule?_withoutRedefinitions]

/-- A place in a first rule is a place. -/
theorem hasPlace_of_withoutRedefinitions (h : g.withoutRedefinitions.HasPlace owner x next?) :
    g.HasPlace owner x next? := by
  obtain ⟨before, after, ⟨p, ⟨r, hr, howner, hp⟩, hplace⟩, hnext⟩ := h
  exact ⟨before, after, ⟨p, ⟨r, mem_of_mem_firstDefinitions hr, howner, hp⟩, hplace⟩, hnext⟩

/-! ## FIRST and FOLLOW -/

/-- FIRST sets are the same. -/
theorem first_withoutRedefinitions (s : Symbol) : g.withoutRedefinitions.first s = g.first s :=
  (LeadsAlike.of_leadsTo_iff leadsTo_withoutRedefinitions_iff).first_eq trivial

/-- FIRST sets have the same members. -/
theorem firstMembers_withoutRedefinitions :
    g.withoutRedefinitions.firstMembers s = g.firstMembers s := by
  rw [firstMembers, firstMembers, first_withoutRedefinitions]

/-- What is inherited is inherited with all rules, too. -/
theorem inherits_of_withoutRedefinitions (h : g.withoutRedefinitions.Inherits x owner) :
    g.Inherits x owner := by
  simp only [inherits_iff_hasPlace, firstMembers_withoutRedefinitions] at h ⊢
  rcases h with ⟨hplace, hne⟩ | ⟨next, hplace, he⟩
  · exact .inl ⟨hasPlace_of_withoutRedefinitions hplace, hne⟩
  · exact .inr ⟨next, hasPlace_of_withoutRedefinitions hplace, he⟩

/-- What is gathered is gathered with all rules, too, but for the end marker. -/
theorem gathers_of_withoutRedefinitions (h : g.withoutRedefinitions.Gathers x t) :
    g.Gathers x t ∨ t = endMarker := by
  simp only [gathers_iff_hasPlace, firstMembers_withoutRedefinitions] at h ⊢
  rcases h with ⟨-, ht⟩ | ⟨owner, next, hplace, ht⟩
  · exact .inr ht
  · exact .inl (.inr ⟨owner, next, hasPlace_of_withoutRedefinitions hplace, ht⟩)

/-- FIRST is there for the symbols next to one in a first rule. -/
theorem nextFirstDefined_withoutRedefinitions (h : g.NextFirstDefined x) :
    g.withoutRedefinitions.NextFirstDefined x := by
  simp only [nextFirstDefined_iff_hasPlace, first_withoutRedefinitions] at h ⊢
  exact fun owner next hplace => h owner next (hasPlace_of_withoutRedefinitions hplace)

/-- Inheritance reaches no more than with all rules. -/
theorem reaches_of_withoutRedefinitions
    (h : ReflTransGen g.withoutRedefinitions.Inherits s x) : ReflTransGen g.Inherits s x :=
  ReflTransGen.mono (fun _ _ => inherits_of_withoutRedefinitions) _ _ h

/-- FOLLOW is there where it was, with no other members but, possibly, the end marker. -/
theorem exists_follow_withoutRedefinitions (h : (g.follow s).outcome = .ok set) :
    ∃ part, (g.withoutRedefinitions.follow s).outcome = .ok part ∧
      ∀ t ∈ part, t ∈ set ∨ t = endMarker := by
  have hdefined := exists_follow_eq_ok_iff.1 ⟨set, h⟩
  obtain ⟨part, hpart⟩ := exists_follow_eq_ok_iff.2 fun x hx =>
    nextFirstDefined_withoutRedefinitions (hdefined x (reaches_of_withoutRedefinitions hx))
  refine ⟨part, hpart, fun t ht => ?_⟩
  -- What is gathered somewhere along the way is gathered there with all rules, too.
  rw [← mem_followMembers_of_eq_ok hpart, mem_followMembers_iff hpart] at ht
  obtain ⟨x, hx, ht⟩ := ht
  rw [← mem_followMembers_of_eq_ok h, mem_followMembers_iff h]
  exact (gathers_of_withoutRedefinitions ht).imp_left
    fun ht => ⟨x, reaches_of_withoutRedefinitions hx, ht⟩

/-! ## Selection sets and procedures -/

/-- The token for the empty string is in the selection sets that have FOLLOW in them. -/
theorem epsilon_mem_selectionSet_iff (h : (g.selectionSet s p).outcome = .ok set) :
    epsilon ∈ set ↔ epsilon ∈ g.firstMembers p.lead := by
  rw [mem_of_selectionSet_eq_ok h, Selects]
  exact or_iff_left fun he => epsilon_notMem_followMembers he.2

/-- A selection set is the same unless it has FOLLOW in it and that has changed. -/
theorem outcome_selectionSet_withoutRedefinitions
    (h : epsilon ∈ g.firstMembers p.lead →
      (g.withoutRedefinitions.follow s).outcome = (g.follow s).outcome) :
    (g.withoutRedefinitions.selectionSet s p).outcome = (g.selectionSet s p).outcome :=
  outcome_selectionSet_eq (first_withoutRedefinitions p.lead) h

/-- A selection set is there where it was, with no other members but, possibly, the end marker. -/
theorem exists_selectionSet_withoutRedefinitions (h : (g.selectionSet s p).outcome = .ok set) :
    ∃ part, (g.withoutRedefinitions.selectionSet s p).outcome = .ok part ∧
      ∀ t ∈ part, t ∈ set ∨ t = endMarker := by
  obtain ⟨leadFirst, hlead, hfollow⟩ := exists_selectionSet_eq_ok_iff.1 ⟨set, h⟩
  obtain ⟨part, hpart⟩ := exists_selectionSet_eq_ok_iff.2
    ⟨leadFirst, (first_withoutRedefinitions p.lead).trans hlead, fun he => by
      obtain ⟨follow, hfollow⟩ := hfollow he
      exact (exists_follow_withoutRedefinitions hfollow).imp fun _ => And.left⟩
  refine ⟨part, hpart, fun t ht => ?_⟩
  rw [mem_of_selectionSet_eq_ok h]
  rcases (mem_of_selectionSet_eq_ok hpart).1 ht with ht | ⟨he, ht⟩
  · exact .inl (.inl (firstMembers_withoutRedefinitions ▸ ht))
  · rw [firstMembers_withoutRedefinitions] at he
    obtain ⟨follow, hset⟩ := hfollow ((mem_firstMembers_of_eq_ok hlead).1 he)
    obtain ⟨rest, hrest, hmem⟩ := exists_follow_withoutRedefinitions hset
    refine (hmem t ((mem_followMembers_of_eq_ok hrest).1 ht)).imp_left fun ht => ?_
    exact .inr ⟨he, (mem_followMembers_of_eq_ok hset).2 ht⟩

/-- Symbols have the same steps. -/
theorem step_withoutRedefinitions : g.withoutRedefinitions.step = g.step := by
  funext s
  rw [step, step, isTerminal_eq_of_leadsTo_iff fun t => leadsTo_withoutRedefinitions_iff s t]

/-- An alternative keeps a branch, which is alike but for FOLLOW. -/
theorem IsBranch.exists_withoutRedefinitions {b : Branch} (h : g.IsBranch s p b) :
    ∃ b', g.withoutRedefinitions.IsBranch s p b' ∧ b.IsAlikeButForFollow b' := by
  obtain ⟨part, hpart, hmem⟩ := exists_selectionSet_withoutRedefinitions h.selectionSet_eq
  refine ⟨⟨part, b.steps⟩, ⟨hpart, ?_⟩, rfl, ?_, fun he => ?_, hmem⟩
  · rw [step_withoutRedefinitions]
    exact h.steps_eq
  · rw [epsilon_mem_selectionSet_iff hpart, epsilon_mem_selectionSet_iff h.selectionSet_eq,
      firstMembers_withoutRedefinitions]
  · rw [epsilon_mem_selectionSet_iff h.selectionSet_eq] at he
    rw [outcome_selectionSet_withoutRedefinitions fun hmem => absurd hmem he,
      h.selectionSet_eq] at hpart
    exact (Except.ok.inj hpart).symm

/-- The procedure for a symbol is the same, or fails as before, unless it asks for FOLLOW and that
has changed. -/
theorem outcome_procedure?_withoutRedefinitions
    (h : g.AsksFollow s → (g.withoutRedefinitions.follow s).outcome = (g.follow s).outcome) :
    (g.withoutRedefinitions.procedure? s).outcome = (g.procedure? s).outcome := by
  rw [procedure?, procedure?, rule?_withoutRedefinitions]
  cases hr : g.rule? s with
  | none => rfl
  | some r =>
    have hs : r.nonTerminal = s := (of_rule?_eq_some hr).2
    have hsets : (g.withoutRedefinitions.ruleSelectionSets r).outcome =
        (g.ruleSelectionSets r).outcome := by
      refine outcome_mapM_congr fun p hp => ?_
      rw [hs]
      exact outcome_selectionSet_withoutRedefinitions fun he =>
        h ⟨p, mem_alternativesOf_iff.2 ⟨r, hr, hp⟩, he⟩
    simp only [ruleProcedure, Traced.outcome_map, Traced.outcome_bind, hsets,
      step_withoutRedefinitions]

/-- A symbol keeps its procedure, with branches that are alike but for FOLLOW. -/
theorem exists_procedure?_withoutRedefinitions {procedure : Procedure}
    (h : (g.procedure? s).outcome = .ok (some procedure)) :
    ∃ procedure', (g.withoutRedefinitions.procedure? s).outcome = .ok (some procedure') ∧
      procedure'.nonTerminal = procedure.nonTerminal ∧
      List.Forall₂ Branch.IsAlikeButForFollow procedure.branches procedure'.branches := by
  cases hr : g.rule? s with
  | none =>
    rw [procedure?, hr] at h
    cases h
  | some r =>
    obtain ⟨hs, hbranches⟩ := (outcome_procedure?_eq_ok_iff hr).1 h
    obtain ⟨branches, halternatives, halike⟩ :=
      exists_forall₂_of_forall₂ (fun _ _ hb => hb.exists_withoutRedefinitions) hbranches
    have hr' : g.withoutRedefinitions.rule? s = some r := rule?_withoutRedefinitions.trans hr
    exact ⟨⟨s, branches⟩, (outcome_procedure?_eq_ok_iff hr').2 ⟨rfl, halternatives⟩, hs.symm,
      halike⟩

/-! ## The verdict -/

/-- Alternatives overlap as before unless the symbol asks for FOLLOW and that has changed. -/
theorem overlaps_withoutRedefinitions_iff
    (h : g.AsksFollow s → (g.withoutRedefinitions.follow s).outcome = (g.follow s).outcome) :
    g.withoutRedefinitions.Overlaps s ↔ g.Overlaps s := by
  have hselects : ∀ p ∈ g.alternativesOf s, ∀ t,
      g.withoutRedefinitions.Selects s p t ↔ g.Selects s p t := by
    intro p hp t
    rw [Selects, Selects, firstMembers_withoutRedefinitions]
    refine or_congr_right (and_congr_right fun he => ?_)
    rw [followMembers, followMembers, h ⟨p, hp, he⟩]
  rw [← not_iff_not, not_overlaps_iff_pairwise, not_overlaps_iff_pairwise,
    alternativesOf_withoutRedefinitions]
  refine List.Pairwise.iff_of_mem fun {p q} hp hq => ?_
  simp only [hselects p hp, hselects q hq]

/-- Leading symbols form a cycle, and the verdict fails, with all rules or without later ones
alike. -/
theorem isPredictive_fails_withoutRedefinitions_iff :
    g.withoutRedefinitions.isPredictive.outcome = .error .leftRecursion ↔
      g.isPredictive.outcome = .error .leftRecursion := by
  have hleads : g.withoutRedefinitions.LeadsTo = g.LeadsTo := by
    funext a b
    exact propext (leadsTo_withoutRedefinitions_iff a b)
  rw [(report_verdict_procedures _).2.1, (report_verdict_procedures _).2.1, hleads]

/-- Rules of a symbol that has an earlier rule matter to the procedures and to the verdict through
FOLLOW only. -/
theorem redefinitions_reach_follow (g : Grammar) : g.RedefinitionsReachFollow where
  first_eq := first_withoutRedefinitions
  exists_follow _ _ := exists_follow_withoutRedefinitions
  follow_eq h := by
    refine outcome_followFrom_eq_of_hasPlace_iff (fun owner x next? => ?_)
      first_withoutRedefinitions []
    exact ⟨hasPlace_of_withoutRedefinitions, h owner x next?⟩
  exists_procedure _ _ := exists_procedure?_withoutRedefinitions
  procedure_eq _ := outcome_procedure?_withoutRedefinitions
  isPredictive_fails := isPredictive_fails_withoutRedefinitions_iff
  isPredictive_eq h := outcome_isPredictive_eq_of_overlaps_iff leadsTo_withoutRedefinitions_iff
    fun s _ => overlaps_withoutRedefinitions_iff (h s)

/-- A grammar whose second rule for `S`, which no look-up finds, puts `A` before its own first
symbol. -/
def redefinedFollow : Grammar :=
  ⟨[⟨"S", [⟨"A", ["b"]⟩], "", by simp⟩, ⟨"A", [⟨"c", []⟩, ⟨epsilon, []⟩], "", by simp⟩,
    ⟨"S", [⟨"A", ["c"]⟩], "", by simp⟩]⟩

/-- A rule that no look-up finds can change a lookahead set and the verdict. -/
theorem redefinition_changes_verdict :
    redefinedFollow.isPredictive.outcome.toOption = some false ∧
      redefinedFollow.withoutRedefinitions.isPredictive.outcome.toOption = some true ∧
      (redefinedFollow.procedure? "A").outcome.toOption =
        some (some ⟨"A", [⟨.ofList ["c"], [.expect "c"]⟩,
          ⟨.ofList ["b", "c", epsilon], [.expect epsilon]⟩]⟩) ∧
      (redefinedFollow.withoutRedefinitions.procedure? "A").outcome.toOption =
        some (some ⟨"A", [⟨.ofList ["c"], [.expect "c"]⟩,
          ⟨.ofList ["b", epsilon], [.expect epsilon]⟩]⟩) := by
  decide +kernel

end Grammar

end Predictive
