import Predictive.Proofs.Verdict

/-!
# What becomes of a skeleton

A skeleton is built non-terminal by non-terminal. The building stops at the first one whose
selection sets are not defined, or whose procedure would have the name of an earlier one. Main
statement: this says how the building ends, and what is built if nothing stops it is a closed
program (`skeleton_outcome`): there is one procedure for each non-terminal, under a name of its own,
and every call is of one of these procedures.
-/

namespace Predictive

/-- The procedures for two symbols of a list would have one name; `j` is the place of the earlier
symbol and `i` that of the later one. -/
def ClashesAt (names : List Symbol) (i j : Nat) : Prop :=
  j < i ∧ ∃ s t, names[i]? = some s ∧ names[j]? = some t ∧ procedureName t = procedureName s

namespace Grammar

open Relation (TransGen)

/-- The selection sets of `s` are out of reach: leading symbols lead from `s` into a cycle, or an
alternative may be empty and FOLLOW of `s` is not defined. -/
def SelectionDiverges (g : Grammar) (s : Symbol) : Prop :=
  g.LeadsIntoCycle s ∨ ∃ r, g.rule? s = some r ∧ ∃ p ∈ r.alternatives,
    epsilon ∈ g.firstMembers p.lead ∧ (g.follow s).outcome = .error .leftRecursion

/-- The selection sets of the symbol at a place of a list are out of reach. -/
def DivergesAt (g : Grammar) (names : List Symbol) (i : Nat) : Prop :=
  ∃ s, names[i]? = some s ∧ g.SelectionDiverges s

/-- The symbol at a place of a list cannot have a procedure of its own after those of the symbols
before it. -/
def ObstructedAt (g : Grammar) (names : List Symbol) (i : Nat) : Prop :=
  g.DivergesAt names i ∨ ∃ j, ClashesAt names i j

/-- The error of a building that stops at the symbol at a place of a list. -/
def StopsWith (g : Grammar) (names : List Symbol) (i : Nat) : SkeletonError → Prop
  | .leftRecursion => g.DivergesAt names i
  | .nameClash e => ¬ g.DivergesAt names i ∧
    ∃ j, ClashesAt names i j ∧ names[j]? = some e.earlier ∧ names[i]? = some e.later

/-- Procedures that make up a whole program for a grammar. -/
structure IsComplete (g : Grammar) (procedures : List Procedure) : Prop where
  /-- There is a procedure for each non-terminal, in order. -/
  nonTerminals_eq : procedures.map Procedure.nonTerminal = g.nonTerminals
  /-- No two procedures have one name. -/
  names_nodup : (procedures.map Procedure.name).Nodup
  /-- There is a branch for each alternative of the first rule of the non-terminal, in order: it is
  taken for the members of the alternative's selection set, of which there is one, and has a step
  for each symbol, of which there is one, too. -/
  branches : ∀ procedure ∈ procedures, ∃ r, g.rule? procedure.nonTerminal = some r ∧
    List.Forall₂ (fun p b => g.IsBranch procedure.nonTerminal p b ∧ (∃ t, t ∈ b.lookahead) ∧
      b.steps ≠ [] ∧ b.steps.map Step.symbol = p.symbols) r.alternatives procedure.branches
  /-- Whatever is called is the non-terminal of exactly one procedure, and no other procedure has
  the name that is called. -/
  calls : ∀ procedure ∈ procedures, ∀ b ∈ procedure.branches, ∀ s, Step.call s ∈ b.steps →
    (procedures.map Procedure.nonTerminal).count s = 1 ∧
      (procedures.map Procedure.name).count (procedureName s) = 1
  /-- Whatever is expected has no procedure. -/
  expects : ∀ procedure ∈ procedures, ∀ b ∈ procedure.branches, ∀ t, Step.expect t ∈ b.steps →
    t ∉ procedures.map Procedure.nonTerminal

variable {g : Grammar} {s t : Symbol} {r : Rule} {p : Production} {procedure : Procedure}
  {procedures : List Procedure} {set : SymbolSet}

/-! ## Selection sets that are out of reach -/

/-- FIRST of a symbol has a member. -/
theorem exists_mem_of_first_eq_ok (h : g.first s = .ok set) : ∃ t, t ∈ set := by
  obtain ⟨t, ht⟩ := exists_leads_isTerminal_of_acc (exists_first_eq_ok_iff_acc.1 ⟨set, h⟩)
  exact ⟨t, (mem_of_firstFrom_eq_ok h).2 ht⟩

/-- FIRST of a symbol with a rule is there exactly when FIRST of the leading symbols of the rule's
alternatives are. -/
theorem exists_first_eq_ok_iff_of_rule? (hr : g.rule? s = some r) :
    (∃ set, g.first s = .ok set) ↔ ∀ p ∈ r.alternatives, ∃ set, g.first p.lead = .ok set := by
  constructor
  · intro h p hp
    exact exists_first_eq_ok_iff_acc.2
      ((exists_first_eq_ok_iff_acc.1 h).inv ⟨r, hr, p, hp, rfl⟩)
  · intro h
    refine exists_first_eq_ok_of_leads ?_
    rintro t ⟨r', hr', p, hp, rfl⟩
    rw [hr] at hr'
    cases hr'
    exact h p hp

/-- A selection set is there exactly when FIRST of the leading symbol is and, if the alternative may
be empty, FOLLOW of the non-terminal. -/
theorem exists_selectionSet_eq_ok_iff :
    (∃ set, (g.selectionSet s p).outcome = .ok set) ↔ ∃ leadFirst, g.first p.lead = .ok leadFirst ∧
      (epsilon ∈ leadFirst → ∃ follow, (g.follow s).outcome = .ok follow) := by
  simp only [selectionSet, Traced.outcome_bind, bind_eq_ok_iff, Traced.outcome_ofExcept]
  rw [exists_comm]
  refine exists_congr fun leadFirst => ?_
  rw [exists_and_left]
  refine and_congr_right fun _ => ?_
  by_cases he : epsilon ∈ leadFirst
  · simp only [he, if_true, Traced.outcome_bind, bind_eq_ok_iff, Traced.outcome_pure,
      Except.ok.injEq, forall_const]
    constructor
    · rintro ⟨_, follow, hfollow, -⟩
      exact ⟨follow, hfollow⟩
    · rintro ⟨follow, hfollow⟩
      exact ⟨_, follow, hfollow, rfl⟩
  · simp [he]

/-- The selection sets of a symbol are there unless they are out of reach. -/
theorem exists_selectionSets_eq_ok_iff :
    (∃ sets, (g.selectionSets s).outcome = .ok sets) ↔ ¬ g.SelectionDiverges s := by
  rw [SelectionDiverges, not_or, ← exists_first_eq_ok_iff]
  cases hr : g.rule? s with
  | none =>
    have hfirst : g.first s = .ok {s} := first_of_isTerminal (rule?_eq_none_iff.1 hr)
    simp [selectionSets, hr, hfirst]
  | some r =>
    have hsets : (∃ sets, (g.selectionSets s).outcome = .ok sets) ↔
        ∀ p ∈ r.alternatives, ∃ set, (g.selectionSet s p).outcome = .ok set := by
      simp only [selectionSets, hr, ruleSelectionSets, (of_rule?_eq_some hr).2]
      exact exists_outcome_mapM_eq_ok_iff
    have hfollow : (g.follow s).outcome = .error .leftRecursion ↔
        ¬ ∃ follow, (g.follow s).outcome = .ok follow := eq_error_iff_not_exists_eq_ok
    rw [hsets, exists_first_eq_ok_iff_of_rule? hr]
    simp only [exists_selectionSet_eq_ok_iff, Option.some.injEq, exists_eq_left']
    constructor
    · intro h
      refine ⟨fun p hp => (h p hp).imp fun _ => And.left, ?_⟩
      rintro ⟨p, hp, he, hfail⟩
      obtain ⟨leadFirst, hlead, hset⟩ := h p hp
      exact hfollow.1 hfail (hset ((mem_firstMembers_of_eq_ok hlead).1 he))
    · rintro ⟨hfirst, hnone⟩ p hp
      obtain ⟨leadFirst, hlead⟩ := hfirst p hp
      refine ⟨leadFirst, hlead, fun he => Classical.byContradiction fun hfail => hnone ?_⟩
      exact ⟨p, hp, (mem_firstMembers_of_eq_ok hlead).2 he, hfollow.2 hfail⟩

/-- There is a procedure for a rule exactly when the selection sets of its non-terminal are
there. -/
theorem exists_ruleProcedure_eq_ok_iff (hr : g.rule? s = some r) :
    (∃ procedure, (g.ruleProcedure r).outcome = .ok procedure) ↔ ¬ g.SelectionDiverges s := by
  rw [← exists_selectionSets_eq_ok_iff, selectionSets, hr, ruleProcedure]
  simp only [Traced.outcome_bind, bind_eq_ok_iff, Traced.outcome_pure, Except.ok.injEq]
  rw [exists_comm]
  exact exists_congr fun sets => by simp

/-! ## The order of the non-terminals -/

/-- Every non-terminal has a first rule, so that a skeleton leaves none of them out. -/
theorem map_nonTerminal_filterMap_rule? (g : Grammar) :
    (g.nonTerminals.filterMap g.rule?).map Rule.nonTerminal = g.nonTerminals := by
  rw [List.map_filterMap]
  have hall : ∀ s ∈ g.nonTerminals, (g.rule? s).map Rule.nonTerminal = some s := by
    intro s hs
    obtain ⟨r, hr⟩ := exists_rule?_of_mem_nonTerminals hs
    rw [hr, Option.map_some, (of_rule?_eq_some hr).2]
  rw [List.filterMap_congr hall, List.filterMap_some]

/-! ## Where the building stops -/

/-- A symbol is obstructed only if it is there. -/
theorem lt_length_of_obstructedAt {names : List Symbol} {i : Nat} (h : g.ObstructedAt names i) :
    i < names.length := by
  rcases h with ⟨s, hs, -⟩ | ⟨j, -, s, t, hs, -, -⟩
  · exact (List.getElem?_eq_some_iff.1 hs).1
  · exact (List.getElem?_eq_some_iff.1 hs).1

/-- One step of the building: it stops where the selection sets are out of reach or the name is
taken, and else it goes on with the symbol among the earlier ones. -/
theorem outcome_proceduresAfter_cons (hr : g.rule? r.nonTerminal = some r)
    (earlier : List Symbol) (rules : List Rule) :
    g.SelectionDiverges r.nonTerminal ∧
        (g.proceduresAfter earlier (r :: rules)).outcome = .error .leftRecursion ∨
      ¬ g.SelectionDiverges r.nonTerminal ∧
        ((∃ t ∈ earlier, procedureName t = procedureName r.nonTerminal ∧
            (g.proceduresAfter earlier (r :: rules)).outcome =
              .error (.nameClash ⟨t, r.nonTerminal⟩)) ∨
          (∀ t ∈ earlier, procedureName t ≠ procedureName r.nonTerminal) ∧
            ∃ procedure, (g.proceduresAfter earlier (r :: rules)).outcome =
              (procedure :: ·) <$>
                (g.proceduresAfter (earlier ++ [r.nonTerminal]) rules).outcome) := by
  have hiff := exists_ruleProcedure_eq_ok_iff hr
  cases hout : (g.ruleProcedure r).outcome with
  | error e =>
    rw [hout] at hiff
    refine .inl ⟨by simpa using hiff, ?_⟩
    rw [proceduresAfter, Traced.outcome_bind, Traced.outcome_adapt, hout]
    rfl
  | ok procedure =>
    rw [hout] at hiff
    have hname : procedure.name = procedureName r.nonTerminal := by
      rw [Procedure.name, (outcome_ruleProcedure_eq_ok_iff.1 hout).1]
    refine .inr ⟨hiff.1 ⟨procedure, rfl⟩, ?_⟩
    simp only [proceduresAfter, Traced.outcome_bind, Traced.outcome_adapt, hout, Except.mapError,
      ok_bind]
    cases hfind : earlier.find? (procedureName · = procedure.name) with
    | some t =>
      have htest : procedureName t = procedure.name := by simpa using List.find?_some hfind
      exact .inl ⟨t, List.mem_of_find?_eq_some hfind, htest.trans hname, rfl⟩
    | none =>
      refine .inr ⟨fun t ht hsame => ?_, procedure, Traced.outcome_bind ..⟩
      exact List.find?_eq_none.1 hfind t ht (decide_eq_true (hsame.trans hname.symm))

/-- The building of procedures after those for earlier symbols, which are not obstructed, stops at
the first obstructed symbol, and goes through if there is none. -/
theorem proceduresAfter_cases {earlier names : List Symbol} {rules : List Rule}
    (hnames : names = earlier ++ rules.map Rule.nonTerminal)
    (hrules : ∀ r ∈ rules, g.rule? r.nonTerminal = some r)
    (hearlier : ∀ k < earlier.length, ¬ g.ObstructedAt names k) :
    ((∃ procedures, (g.proceduresAfter earlier rules).outcome = .ok procedures) ∧
        ∀ k, ¬ g.ObstructedAt names k) ∨
      ∃ i e, (g.proceduresAfter earlier rules).outcome = .error e ∧ g.ObstructedAt names i ∧
        (∀ k < i, ¬ g.ObstructedAt names k) ∧ g.StopsWith names i e := by
  induction rules generalizing earlier with
  | nil =>
    refine .inl ⟨⟨[], rfl⟩, fun k hk => ?_⟩
    have hlt := lt_length_of_obstructedAt hk
    rw [hnames, List.map_nil, List.append_nil] at hlt
    exact hearlier k hlt hk
  | cons r rules ih =>
    obtain ⟨hr, hrules⟩ := List.forall_mem_cons.1 hrules
    -- The symbol stands right after the earlier ones, and these stand before it.
    have hplace : names[earlier.length]? = some r.nonTerminal := by
      rw [hnames]
      simp
    have hbefore : ∀ j < earlier.length, names[j]? = earlier[j]? := by
      intro j hj
      rw [hnames, List.getElem?_append_left hj]
    rcases outcome_proceduresAfter_cons hr earlier rules with ⟨hdiverges, hout⟩ | ⟨hnot, hstep⟩
    · have hat : g.DivergesAt names earlier.length := ⟨r.nonTerminal, hplace, hdiverges⟩
      exact .inr ⟨earlier.length, .leftRecursion, hout, .inl hat, hearlier, hat⟩
    have hnot : ¬ g.DivergesAt names earlier.length := by
      rintro ⟨s, hs, hdiverges⟩
      rw [hplace] at hs
      cases hs
      exact hnot hdiverges
    rcases hstep with ⟨t, ht, hsame, hout⟩ | ⟨hfree, procedure, hout⟩
    · obtain ⟨j, hj⟩ := List.mem_iff_getElem?.1 ht
      have hjlt : j < earlier.length := (List.getElem?_eq_some_iff.1 hj).1
      have hjnames : names[j]? = some t := (hbefore j hjlt).trans hj
      have hclash : ClashesAt names earlier.length j :=
        ⟨hjlt, r.nonTerminal, t, hplace, hjnames, hsame⟩
      exact .inr ⟨earlier.length, .nameClash ⟨t, r.nonTerminal⟩, hout, .inr ⟨j, hclash⟩, hearlier,
        hnot, j, hclash, hjnames, hplace⟩
    · have hfree : ∀ j, ¬ ClashesAt names earlier.length j := by
        rintro j ⟨hjlt, s, t, hs, ht, hsame⟩
        rw [hplace] at hs
        cases hs
        rw [hbefore j hjlt] at ht
        exact hfree t (List.mem_iff_getElem?.2 ⟨j, ht⟩) hsame
      have hearlier' : ∀ k < (earlier ++ [r.nonTerminal]).length, ¬ g.ObstructedAt names k := by
        intro k hk
        rw [List.length_append, List.length_singleton, Nat.lt_succ_iff] at hk
        rcases Nat.lt_or_eq_of_le hk with hlt | rfl
        · exact hearlier k hlt
        · exact not_or.2 ⟨hnot, fun ⟨j, hj⟩ => hfree j hj⟩
      rcases ih (by rw [hnames]; simp) hrules hearlier' with
        ⟨⟨later, hlater⟩, hnone⟩ | ⟨i, e, hlater, hi⟩
      · rw [hlater] at hout
        exact .inl ⟨⟨_, hout⟩, hnone⟩
      · rw [hlater] at hout
        exact .inr ⟨i, e, hout, hi⟩

/-- Where the building stops, the symbol that has the name already is the only one. -/
theorem eq_of_clashesAt {names : List Symbol} {i j k : Nat}
    (hfirst : ∀ l < i, ¬ g.ObstructedAt names l) (hj : ClashesAt names i j)
    (hk : ClashesAt names i k) : j = k := by
  obtain ⟨hji, s, t, hs, ht, hst⟩ := hj
  obtain ⟨hki, s', u, hs', hu, hsu⟩ := hk
  rw [hs] at hs'
  cases hs'
  -- Otherwise the later of the two would be obstructed itself.
  rcases Nat.lt_trichotomy j k with hlt | heq | hgt
  · exact absurd (.inr ⟨j, hlt, u, t, hu, ht, hst.trans hsu.symm⟩) (hfirst k hki)
  · exact heq
  · exact absurd (.inr ⟨k, hgt, t, u, ht, hu, hsu.trans hst.symm⟩) (hfirst j hji)

/-- A skeleton stops at the first obstructed non-terminal, and is built if there is none. -/
theorem skeleton_cases (g : Grammar) :
    ((∃ procedures, g.skeleton.outcome = .ok procedures) ∧
        ∀ k, ¬ g.ObstructedAt g.nonTerminals k) ∨
      ∃ i e, g.skeleton.outcome = .error e ∧ g.ObstructedAt g.nonTerminals i ∧
        (∀ k < i, ¬ g.ObstructedAt g.nonTerminals k) ∧ g.StopsWith g.nonTerminals i e := by
  have hnames : g.nonTerminals = [] ++ (g.nonTerminals.filterMap g.rule?).map Rule.nonTerminal :=
    (map_nonTerminal_filterMap_rule? g).symm
  exact proceduresAfter_cases hnames (fun r hr => rule?_of_mem_filterMap hr)
    fun k hk => absurd hk (Nat.not_lt_zero k)

/-! ## What is built -/

/-- The procedures of a skeleton are those of the non-terminals, in order. -/
theorem map_nonTerminal_of_skeleton (h : g.skeleton.outcome = .ok procedures) :
    procedures.map Procedure.nonTerminal = g.nonTerminals := by
  rw [← map_nonTerminal_filterMap_rule? g, ← List.forall₂_eq_eq_eq, List.forall₂_map_left_iff,
    List.forall₂_map_right_iff]
  exact (forall₂_ruleProcedure_of_proceduresAfter h).flip.imp fun _ _ hout =>
    (outcome_ruleProcedure_eq_ok_iff.1 hout).1

/-- Symbols that do not clash have procedures with names of their own. -/
theorem nodup_map_procedureName {names : List Symbol} (h : ∀ i j, ¬ ClashesAt names i j) :
    (names.map procedureName).Nodup := by
  rw [List.nodup_iff_getElem?_ne_getElem?]
  intro j i hji hi heq
  rw [List.length_map] at hi
  rw [List.getElem?_map, List.getElem?_map, List.getElem?_eq_getElem (hji.trans hi),
    List.getElem?_eq_getElem hi, Option.map_some, Option.map_some, Option.some.injEq] at heq
  exact h i j ⟨hji, names[i], names[j], List.getElem?_eq_getElem hi,
    List.getElem?_eq_getElem (hji.trans hi), heq⟩

/-- A branch for an alternative is taken for some symbol, and its steps are for the symbols of the
alternative. -/
theorem IsBranch.lookahead_and_steps {b : Branch} (h : g.IsBranch s p b) :
    (∃ t, t ∈ b.lookahead) ∧ b.steps ≠ [] ∧ b.steps.map Step.symbol = p.symbols := by
  obtain ⟨leadFirst, hlead⟩ := exists_first_of_selectionSet h.selectionSet_eq
  obtain ⟨t, ht⟩ := exists_mem_of_first_eq_ok hlead
  refine ⟨⟨t, (mem_of_selectionSet_eq_ok h.selectionSet_eq).2 (.inl ?_)⟩, ?_, ?_⟩
  · exact (mem_firstMembers_of_eq_ok hlead).2 ht
  · rw [h.steps_eq]
    exact List.cons_ne_nil _ _
  · have hsymbol : ∀ x, (g.step x).symbol = x := by
      intro x
      rw [step]
      split <;> rfl
    rw [h.steps_eq, List.map_map, show Step.symbol ∘ g.step = id from funext hsymbol, List.map_id]

/-- A skeleton that is built is complete. -/
theorem isComplete_of_skeleton (h : g.skeleton.outcome = .ok procedures)
    (hclear : ∀ k, ¬ g.ObstructedAt g.nonTerminals k) : g.IsComplete procedures := by
  have hnonTerminals := map_nonTerminal_of_skeleton h
  have hnames : procedures.map Procedure.name = g.nonTerminals.map procedureName := by
    rw [← hnonTerminals, List.map_map]
    rfl
  have hnodup : (procedures.map Procedure.name).Nodup := by
    rw [hnames]
    exact nodup_map_procedureName fun i j hclash => hclear i (.inr ⟨j, hclash⟩)
  have hsteps : ∀ procedure ∈ procedures, ∀ b ∈ procedure.branches, ∀ step ∈ b.steps,
      ∃ x, g.step x = step := by
    intro procedure hprocedure b hb step hstep
    obtain ⟨r, -, hparts⟩ := exists_rule?_of_mem_skeleton h hprocedure
    obtain ⟨p, -, hbranch⟩ := exists_mem_of_forall₂ hparts.flip hb
    rw [hbranch.steps_eq] at hstep
    obtain ⟨x, -, hx⟩ := List.mem_map.1 hstep
    exact ⟨x, hx⟩
  refine ⟨hnonTerminals, hnodup, fun procedure hprocedure => ?_, ?_, ?_⟩
  · obtain ⟨r, hr, hparts⟩ := exists_rule?_of_mem_skeleton h hprocedure
    exact ⟨r, hr, hparts.imp fun p b hbranch => ⟨hbranch, hbranch.lookahead_and_steps⟩⟩
  · intro procedure hprocedure b hb s hs
    obtain ⟨x, hx⟩ := hsteps procedure hprocedure b hb _ hs
    obtain ⟨hnonTerminal, rfl⟩ := step_eq_call_iff.1 hx
    have hmem : x ∈ g.nonTerminals :=
      mem_nonTerminals_iff.2 (isTerminal_eq_false_iff.1 hnonTerminal)
    refine ⟨?_, List.count_eq_one_of_mem hnodup ?_⟩
    · rw [hnonTerminals]
      exact List.count_eq_one_of_mem (nodup_nonTerminals g) hmem
    · rw [hnames]
      exact List.mem_map_of_mem hmem
  · intro procedure hprocedure b hb t ht hmem
    obtain ⟨x, hx⟩ := hsteps procedure hprocedure b hb _ ht
    obtain ⟨hterminal, rfl⟩ := step_eq_expect_iff.1 hx
    rw [hnonTerminals, mem_nonTerminals_iff, ← isTerminal_eq_false_iff, hterminal] at hmem
    cases hmem

/-- The selection sets of a symbol are not defined exactly when they are out of reach. A skeleton
cannot be built exactly when some non-terminal is obstructed; the building then stops at the first
that is, with left recursion if its selection sets are out of reach and else with the clash of its
name with that of the one earlier non-terminal that has it. A skeleton that is built is complete. -/
theorem skeleton_outcome (g : Grammar) :
    (∀ s, (g.selectionSets s).outcome = .error .leftRecursion ↔ g.SelectionDiverges s) ∧
      ((∃ e, g.skeleton.outcome = .error e) ↔ ∃ i, g.ObstructedAt g.nonTerminals i) ∧
      (∀ i, g.ObstructedAt g.nonTerminals i → (∀ k < i, ¬ g.ObstructedAt g.nonTerminals k) →
        ∃ e, g.skeleton.outcome = .error e ∧ g.StopsWith g.nonTerminals i e ∧
          ∀ j k, ClashesAt g.nonTerminals i j → ClashesAt g.nonTerminals i k → j = k) ∧
      ∀ procedures, g.skeleton.outcome = .ok procedures → g.IsComplete procedures := by
  refine ⟨fun s => ?_, ?_, fun i hi hfirst => ?_, fun procedures h => ?_⟩
  · rw [eq_error_iff_not_exists_eq_ok, exists_selectionSets_eq_ok_iff, Classical.not_not]
  · rcases skeleton_cases g with ⟨⟨procedures, h⟩, hclear⟩ | ⟨i, e, h, hi, -⟩
    · rw [h]
      simpa using hclear
    · exact ⟨fun _ => ⟨i, hi⟩, fun _ => ⟨e, h⟩⟩
  · rcases skeleton_cases g with ⟨-, hclear⟩ | ⟨i', e, h, hi', hfirst', hstops⟩
    · exact absurd hi (hclear i)
    · -- There is only one first place.
      have heq : i' = i := by
        rcases Nat.lt_trichotomy i' i with hlt | heq | hgt
        · exact absurd hi' (hfirst i' hlt)
        · exact heq
        · exact absurd hi (hfirst' i hgt)
      rw [heq] at hstops
      exact ⟨e, h, hstops, fun j k hj hk => eq_of_clashesAt hfirst hj hk⟩
  · rcases skeleton_cases g with ⟨-, hclear⟩ | ⟨i, e, he, -⟩
    · exact isComplete_of_skeleton h hclear
    · rw [h] at he
      cases he

/-- A grammar with two non-terminals whose procedures would have one name. -/
def primedAlike : Grammar :=
  ⟨[⟨"a'", [⟨"x", ["a_prime"]⟩], "", by simp⟩, ⟨"a_prime", [⟨"y", []⟩], "", by simp⟩]⟩

/-- The procedures for a grammar with a rule that no look-up finds. -/
def shadowedProcedures : List Procedure :=
  [⟨"S", [⟨{"a"}, [.expect "a", .call "S"]⟩, ⟨{"b"}, [.expect "b"]⟩]⟩]

/-- The building stops at the second of two non-terminals that clash; and what is built for a
grammar in which none do is complete. -/
theorem skeleton_outcome_primedAlike :
    (primedAlike.ObstructedAt primedAlike.nonTerminals 1 ∧
      (∀ k < 1, ¬ primedAlike.ObstructedAt primedAlike.nonTerminals k) ∧
      ∃ e, primedAlike.skeleton.outcome = .error e ∧
        primedAlike.StopsWith primedAlike.nonTerminals 1 e ∧
        ∀ j k, ClashesAt primedAlike.nonTerminals 1 j → ClashesAt primedAlike.nonTerminals 1 k →
          j = k) ∧
      shadowedOverlap.skeleton.outcome = .ok shadowedProcedures ∧
        shadowedOverlap.IsComplete shadowedProcedures := by
  have hnames : primedAlike.nonTerminals = ["a'", "a_prime"] := by decide +kernel
  have hsecond : primedAlike.ObstructedAt primedAlike.nonTerminals 1 := by
    rw [hnames]
    exact .inr ⟨0, Nat.zero_lt_one, "a_prime", "a'", rfl, rfl, by decide +kernel⟩
  have hfirst : ∀ k < 1, ¬ primedAlike.ObstructedAt primedAlike.nonTerminals k := by
    intro k hk
    obtain rfl : k = 0 := Nat.lt_one_iff.1 hk
    rintro (⟨s, hs, hdiverges⟩ | ⟨j, hj, -⟩)
    · rw [hnames] at hs
      cases hs
      exact exists_selectionSets_eq_ok_iff.1 ⟨[{"x"}], by decide +kernel⟩ hdiverges
    · exact absurd hj (Nat.not_lt_zero j)
  have hbuilt : shadowedOverlap.skeleton.outcome = .ok shadowedProcedures := by decide +kernel
  exact ⟨⟨hsecond, hfirst, (skeleton_outcome primedAlike).2.2.1 1 hsecond hfirst⟩, hbuilt,
    (skeleton_outcome shadowedOverlap).2.2.2 _ hbuilt⟩

end Grammar

end Predictive
