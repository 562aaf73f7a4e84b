import Predictive.Proofs.LeadExact
import Predictive.Proofs.SkeletonParts

/-!
# Running a skeleton

A skeleton says what its procedures do, and `Runs` does it: a procedure takes the first branch whose
lookahead holds the next token, and no branch is an error; a terminal must be the next token and is
consumed, except for the token for the empty string, for which nothing is consumed. Main statements:
a run leaves one list of tokens at most (`eq_of_runs`), and what a run of the steps for symbols
consumes is derived from the symbols (`exists_spans_of_runs`).
-/

namespace Predictive

/-- The procedures run the steps on the tokens of the first list and leave those of the second. -/
inductive Runs (procedures : List Procedure) : List Step → List Symbol → List Symbol → Prop
  | done (tokens : List Symbol) : Runs procedures [] tokens tokens
  | skip {steps tokens left} (later : Runs procedures steps tokens left) :
    Runs procedures (.expect epsilon :: steps) tokens left
  | expect {terminal steps tokens left} (ne_epsilon : terminal ≠ epsilon)
    (later : Runs procedures steps tokens left) :
    Runs procedures (.expect terminal :: steps) (terminal :: tokens) left
  | call {nonTerminal procedure branch token tokens between steps left}
    (procedure_eq : procedures.find? (·.nonTerminal = nonTerminal) = some procedure)
    (branch_eq : procedure.branches.find? (token ∈ ·.lookahead) = some branch)
    (below : Runs procedures branch.steps (token :: tokens) between)
    (later : Runs procedures steps between left) :
    Runs procedures (.call nonTerminal :: steps) (token :: tokens) left

/-- The procedure of a non-terminal accepts tokens if, with the end marker after them, it consumes
them and leaves the end marker. -/
def Accepts (procedures : List Procedure) (nonTerminal : Symbol) (tokens : List Symbol) : Prop :=
  Runs procedures [.call nonTerminal] (tokens ++ [endMarker]) [endMarker]

variable {procedures : List Procedure} {steps : List Step} {tokens left left' : List Symbol}

/-- A run leaves one list of tokens at most. -/
theorem eq_of_runs (h : Runs procedures steps tokens left)
    (h' : Runs procedures steps tokens left') : left = left' := by
  induction h generalizing left' with
  | done tokens =>
    cases h'
    rfl
  | skip _ ih =>
    cases h' with
    | skip hlater => exact ih hlater
    | expect hne _ => exact absurd rfl hne
  | expect hne _ ih =>
    cases h' with
    | skip _ => exact absurd rfl hne
    | expect _ hlater => exact ih hlater
  | @call _ procedure branch _ _ between _ _ hprocedure hbranch _ _ ihbelow ihlater =>
    cases h' with
    | @call _ procedure' branch' _ _ between' _ _ hprocedure' hbranch' hbelow hlater =>
      obtain rfl : procedure = procedure' := Option.some.inj (hprocedure.symm.trans hprocedure')
      obtain rfl : branch = branch' := Option.some.inj (hbranch.symm.trans hbranch')
      obtain rfl := ihbelow hbelow
      exact ihlater hlater

namespace Grammar

variable {g : Grammar} {s : Symbol} {u : List Symbol}

/-- An alternative puts in its symbols but for the token for the empty string. -/
theorem LeadExact.filter_symbols (hg : g.LeadExact) {p : Production} (hp : g.HasAlternative s p) :
    p.symbols.filter (· ≠ epsilon) = p.body := by
  rcases hg.body_eq hp with ⟨hbody, hnot⟩ | ⟨hnil, halone⟩
  · rw [hbody, List.filter_eq_self]
    intro x hx
    exact decide_eq_true fun he => hnot (he ▸ hx)
  · rw [hnil, halone]
    simp

/-- A branch of a procedure of the skeleton is for an alternative of the procedure's
non-terminal. -/
theorem exists_hasAlternative_of_branch (hskeleton : g.skeleton.outcome = .ok procedures)
    {procedure : Procedure} {branch : Branch} {token : Symbol}
    (hprocedure : procedures.find? (·.nonTerminal = s) = some procedure)
    (hbranch : procedure.branches.find? (token ∈ ·.lookahead) = some branch) :
    ∃ p, g.HasAlternative s p ∧ g.IsBranch s p branch := by
  obtain ⟨r, hr, hbranches⟩ := forall₂_isBranch_of_skeleton hskeleton hprocedure
  have hmem : branch ∈ procedure.branches := List.mem_of_find?_eq_some hbranch
  obtain ⟨p, hp, hb⟩ := exists_mem_of_forall₂ hbranches.flip hmem
  exact ⟨p, hasAlternative_of_rule? hr hp, hb⟩

/-- A run of the steps for symbols consumes tokens that are derived from the symbols, of which the
token for the empty string counts as none. -/
theorem exists_spans_of_runs (hg : g.LeadExact) (hskeleton : g.skeleton.outcome = .ok procedures)
    (h : Runs procedures steps tokens left) (hsteps : steps = u.map g.step) :
    ∃ trees w, tokens = w ++ left ∧ g.Spans (u.filter (· ≠ epsilon)) trees w := by
  induction h generalizing u with
  | done tokens =>
    rw [List.map_eq_nil_iff.1 hsteps.symm]
    exact ⟨[], [], rfl, .nil⟩
  | @skip steps tokens left _ ih =>
    obtain ⟨s, u, rfl, hs, hu⟩ := List.map_eq_cons_iff.1 hsteps.symm
    obtain ⟨-, rfl⟩ := step_eq_expect_iff.1 hs
    obtain ⟨trees, w, rfl, htrees⟩ := ih hu.symm
    exact ⟨trees, w, rfl, by simpa using htrees⟩
  | @expect terminal steps tokens left hne _ ih =>
    obtain ⟨s, u, rfl, hs, hu⟩ := List.map_eq_cons_iff.1 hsteps.symm
    obtain ⟨-, rfl⟩ := step_eq_expect_iff.1 hs
    obtain ⟨trees, w, rfl, htrees⟩ := ih hu.symm
    refine ⟨.leaf s :: trees, s :: w, rfl, ?_⟩
    rw [List.filter_cons_of_pos (by simpa using hne)]
    exact .leaf s htrees
  | @call x procedure branch token tokens between steps left hprocedure hbranch _ _ ihbelow
      ihlater =>
    obtain ⟨s, u, rfl, hs, hu⟩ := List.map_eq_cons_iff.1 hsteps.symm
    obtain ⟨-, rfl⟩ := step_eq_call_iff.1 hs
    obtain ⟨p, hp, hb⟩ := exists_hasAlternative_of_branch hskeleton hprocedure hbranch
    obtain ⟨children, v, hv, hchildren⟩ := ihbelow hb.steps_eq
    obtain ⟨trees, w, rfl, htrees⟩ := ihlater hu.symm
    refine ⟨.node s p children :: trees, v ++ w, by rw [hv, List.append_assoc], ?_⟩
    rw [List.filter_cons_of_pos (by simpa using hg.ne_epsilon hp)]
    rw [hg.filter_symbols hp] at hchildren
    exact .node hp hchildren htrees

end Grammar

end Predictive
