import Predictive.Proofs.Lookahead
import Predictive.Proofs.SkeletonRuns

/-!
# A skeleton accepts what its grammar derives

In a grammar that the report calls LL(1), and in which one leading symbol is enough, the next token
selects one branch of a procedure only, so the run of the skeleton follows a derivation from the
root to its leaves. Main statement: the procedure of a start symbol, which is a non-terminal that
occurs nowhere, accepts exactly the strings of terminals that the symbol derives
(`accepts_iff_derives`).

That what is accepted is derived comes from `exists_spans_of_runs`. The converse is by induction on
the trees over the end of an alternative (`runs_of_spans`); what is left of the input after them may
follow the alternative's non-terminal, with the end marker at the end if nothing else is left.
-/

namespace Predictive.Grammar

variable {g : Grammar} {s owner token : Symbol} {u w tokens left : List Symbol}
  {procedures : List Procedure} {trees : List DerivationTree}

/-- The symbol that selects an alternative selects its branch in the procedure of the skeleton. -/
theorem exists_branch_of_selects (hd : g.leftSides.Nodup)
    (h : g.isPredictive.outcome = .ok true) (hskeleton : g.skeleton.outcome = .ok procedures)
    {p : Production} (hp : g.HasAlternative s p) (hsel : g.Selects s p token) :
    ∃ procedure branch, procedures.find? (·.nonTerminal = s) = some procedure ∧
      procedure.branches.find? (token ∈ ·.lookahead) = some branch ∧
      branch.steps = p.symbols.map g.step := by
  obtain ⟨r, hr, hpr⟩ := exists_rule?_of_hasAlternative hd hp
  obtain ⟨procedure, hprocedure⟩ := exists_find?_of_skeleton hskeleton hr
  obtain ⟨r', hr', hbranches⟩ := forall₂_isBranch_of_skeleton hskeleton hprocedure
  obtain rfl : r = r' := Option.some.inj (hr.symm.trans hr')
  obtain ⟨b, hb, hbp⟩ := exists_mem_of_forall₂ hbranches hpr
  have hmem : token ∈ b.lookahead := (mem_of_selectionSet_eq_ok hbp.selectionSet_eq).2 hsel
  have hsome : (procedure.branches.find? (token ∈ ·.lookahead)).isSome :=
    List.find?_isSome.2 ⟨b, hb, decide_eq_true hmem⟩
  obtain ⟨branch, hbranch⟩ := Option.isSome_iff_exists.1 hsome
  -- The first branch that the token selects is for an alternative that it selects.
  obtain ⟨q, hq, hbq⟩ := exists_hasAlternative_of_branch hskeleton hprocedure hbranch
  have hmem' : token ∈ branch.lookahead := by simpa using List.find?_some hbranch
  have hsel' : g.Selects s q token := (mem_of_selectionSet_eq_ok hbq.selectionSet_eq).1 hmem'
  obtain rfl : p = q := eq_of_selects h hd hp hq hsel hsel'
  exact ⟨procedure, branch, hprocedure, hbranch, hbq.steps_eq⟩

/-- The steps for the body of an alternative do what those for its symbols do. -/
theorem runs_symbols_of_runs_body (hg : g.LeadExact) {p : Production} (hp : g.HasAlternative s p)
    (h : Runs procedures (p.body.map g.step) tokens left) :
    Runs procedures (p.symbols.map g.step) tokens left := by
  rcases hg.body_eq hp with ⟨hbody, -⟩ | ⟨hnil, halone⟩
  · rw [← hbody]
    exact h
  · have hstep : g.step epsilon = .expect epsilon :=
      step_eq_expect_iff.2 ⟨hg.epsilon_isTerminal, rfl⟩
    rw [hnil] at h
    rw [halone, List.map_singleton, hstep]
    exact .skip h

/-- A call goes through the alternative that was taken in the derivation of what comes next. -/
theorem runs_call_of_spans (hg : g.LeadExact) (h : g.isPredictive.outcome = .ok true)
    (hskeleton : g.skeleton.outcome = .ok procedures) {p : Production} (hp : g.HasAlternative s p)
    (hspans : g.Spans p.body trees w) (hw : ∀ c ∈ w, g.isTerminal c = true) {rest : List Symbol}
    (hrest : g.MayFollow s rest) (hne : rest ≠ []) {steps : List Step}
    (hbelow : Runs procedures (p.body.map g.step) (w ++ rest) rest)
    (hlater : Runs procedures steps rest left) :
    Runs procedures (.call s :: steps) (w ++ rest) left := by
  have hfirst := exists_first_eq_ok_of_isPredictive h
  have hrun := runs_symbols_of_runs_body hg hp hbelow
  obtain ⟨c, later, hc⟩ := List.exists_cons_of_ne_nil (List.append_ne_nil_of_right_ne_nil w hne)
  have hsel : g.Selects s p c := selects_of_spans hg hfirst hp hspans hw hrest hc
  obtain ⟨procedure, branch, hprocedure, hbranch, hsteps⟩ :=
    exists_branch_of_selects hg.leftSides_nodup h hskeleton hp hsel
  rw [← hsteps, hc] at hrun
  rw [hc]
  exact .call hprocedure hbranch hrun hlater

/-- The steps for the end of an alternative consume the leaves of trees over it, if what is left of
the input may follow the alternative's non-terminal. -/
theorem runs_of_spans (hg : g.LeadExact) (h : g.isPredictive.outcome = .ok true)
    (hskeleton : g.skeleton.outcome = .ok procedures) (hu : g.IsTail owner u)
    (hspans : g.Spans u trees w) (hw : ∀ c ∈ w, g.isTerminal c = true)
    (hleft : g.MayFollow owner left) (hne : left ≠ []) :
    Runs procedures (u.map g.step) (w ++ left) left := by
  induction hspans generalizing owner left with
  | nil => exact .done left
  | @leaf s u trees w hlater ih =>
    obtain ⟨hs, hw⟩ := List.forall_mem_cons.1 hw
    have hstep : g.step s = .expect s := step_eq_expect_iff.2 ⟨hs, rfl⟩
    have hse : s ≠ epsilon := fun he => hu.epsilon_notMem hg (he ▸ List.mem_cons_self)
    rw [List.map_cons, hstep]
    exact .expect hse (ih hu.tail hw hleft hne)
  | @node s p children v u trees w hp hbelow hlater ihbelow ihlater =>
    have hfirst := exists_first_eq_ok_of_isPredictive h
    obtain ⟨hv, hw⟩ := List.forall_mem_append.1 hw
    have hstep : g.step s = .call s :=
      step_eq_call_iff.2 ⟨isTerminal_eq_false_of_hasAlternative hp, rfl⟩
    have hrest : g.MayFollow s (w ++ left) := mayFollow_append hg hfirst hu hlater hw hleft
    have hne' : w ++ left ≠ [] := List.append_ne_nil_of_right_ne_nil w hne
    have hrun : Runs procedures (p.body.map g.step) (v ++ (w ++ left)) (w ++ left) :=
      ihbelow (isTail_body hp) hv hrest hne'
    have hrun' : Runs procedures (u.map g.step) (w ++ left) left := ihlater hu.tail hw hleft hne
    rw [List.map_cons, hstep, List.append_assoc]
    exact runs_call_of_spans hg h hskeleton hp hbelow hv hrest hne' hrun hrun'

/-- What a procedure accepts is derived from its non-terminal. -/
theorem derives_of_accepts (hg : g.LeadExact) (hskeleton : g.skeleton.outcome = .ok procedures)
    (hs : g.isTerminal s = false) (h : Accepts procedures s w) : g.Derives [s] w := by
  have hstep : [Step.call s] = [s].map g.step := by
    rw [List.map_singleton, step_eq_call_iff.2 ⟨hs, rfl⟩]
  obtain ⟨trees, v, hv, htrees⟩ := exists_spans_of_runs hg hskeleton h hstep
  have hse : s ≠ epsilon := by
    rintro rfl
    rw [hg.epsilon_isTerminal] at hs
    cases hs
  rw [List.filter_cons_of_pos (by simpa using hse), List.filter_nil] at htrees
  obtain rfl : w = v := List.append_cancel_right hv
  exact derives_of_spans htrees

/-- The end marker may follow a symbol that occurs nowhere. -/
theorem mayFollow_endMarker (hfirst : ∀ s, ∃ set, g.first s = .ok set) (hs : g.OccursNowhere s) :
    g.MayFollow s [endMarker] := by
  intro c later hc
  obtain ⟨rfl, -⟩ := List.cons.inj hc
  exact mem_followMembers_of_gathers hfirst (.inl ⟨hs, rfl⟩)

/-- Terminals that are derived from a non-terminal that occurs nowhere are accepted by its
procedure. -/
theorem accepts_of_derives (hg : g.LeadExact) (h : g.isPredictive.outcome = .ok true)
    (hskeleton : g.skeleton.outcome = .ok procedures) (hs : g.isTerminal s = false)
    (hnowhere : g.OccursNowhere s) (hw : ∀ c ∈ w, g.isTerminal c = true)
    (hderives : g.Derives [s] w) : Accepts procedures s w := by
  have hleft := mayFollow_endMarker (exists_first_eq_ok_of_isPredictive h) hnowhere
  have hne : [endMarker] ≠ [] := List.cons_ne_nil endMarker []
  rcases eq_or_exists_spans_body hderives with rfl | ⟨p, trees, hp, hspans⟩
  · rw [hw s List.mem_cons_self] at hs
    cases hs
  · have hrun : Runs procedures (p.body.map g.step) (w ++ [endMarker]) [endMarker] :=
      runs_of_spans hg h hskeleton (isTail_body hp) hspans hw hleft hne
    exact runs_call_of_spans hg h hskeleton hp hspans hw hleft hne hrun (.done [endMarker])

/-- In a grammar that has a skeleton and that the report calls LL(1), and in which one leading
symbol is enough, the procedure of a non-terminal that occurs nowhere accepts a string of terminals
exactly when the non-terminal derives it. -/
theorem accepts_iff_derives (hg : g.LeadExact) (h : g.isPredictive.outcome = .ok true)
    (hskeleton : g.skeleton.outcome = .ok procedures) {a : Symbol} (ha : g.isNonTerminal a = true)
    (hnowhere : g.OccursNowhere a) (hw : ∀ c ∈ w, g.isTerminal c = true) :
    Accepts procedures a w ↔ g.Derives [a] w := by
  have hterminal : g.isTerminal a = false := by simpa [isNonTerminal] using ha
  exact ⟨derives_of_accepts hg hskeleton hterminal,
    accepts_of_derives hg h hskeleton hterminal hnowhere hw⟩

/-- The procedures for sums. -/
def sumsProcedures : List Procedure :=
  [⟨"E", [⟨.ofList ["num"], [.call "T", .call "R"]⟩]⟩,
    ⟨"T", [⟨.ofList ["num"], [.expect "num"]⟩]⟩,
    ⟨"R", [⟨.ofList ["+"], [.expect "+", .call "T", .call "R"]⟩,
      ⟨.ofList ["$", "epsilon"], [.expect "epsilon"]⟩]⟩]

/-- Sums have a skeleton. -/
theorem skeleton_sums : sums.skeleton.outcome = .ok sumsProcedures := by decide +kernel

/-- The procedure for sums accepts a sum of two terms, which is derived. -/
theorem accepts_iff_derives_sums :
    sums.LeadExact ∧ sums.isPredictive.outcome = .ok true ∧
    sums.skeleton.outcome = .ok sumsProcedures ∧ sums.isNonTerminal "E" = true ∧
    sums.OccursNowhere "E" ∧ (∀ c ∈ ["num", "+", "num"], sums.isTerminal c = true) ∧
    sums.Derives ["E"] ["num", "+", "num"] ∧
    Accepts sumsProcedures "E" ["num", "+", "num"] :=
  have hnowhere : sums.OccursNowhere "E" := occurrences_eq_nil_iff.1 (by decide)
  have hterminals : ∀ c ∈ ["num", "+", "num"], sums.isTerminal c = true := by decide
  have hderives : sums.Derives ["E"] ["num", "+", "num"] := derives_of_spans isTree_twoTerms
  have haccepts : Accepts sumsProcedures "E" ["num", "+", "num"] :=
    (accepts_iff_derives leadExact_sums isPredictive_sums skeleton_sums (by decide) hnowhere
      hterminals).2 hderives
  ⟨leadExact_sums, isPredictive_sums, skeleton_sums, by decide, hnowhere, hterminals, hderives,
    haccepts⟩

end Predictive.Grammar
