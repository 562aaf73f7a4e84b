import Predictive.Proofs.Lookahead

/-!
# LL(1) grammars are not ambiguous

Two derivation trees of the same terminals from the same symbol take the same alternative at the
root, because the next token, or the end of the input, selects only one. Main statement: in a
grammar that the report calls LL(1), and in which one leading symbol is enough, the two trees are
equal (`derivationTree_unique`).

The induction is on the trees over the end of an alternative, with what is left of the input after
them: the leaves of the two may differ in length until the trees are known to agree, so it is the
leaves with what is left that are taken to be the same (`spans_unique`).
-/

namespace Predictive.Grammar

variable {g : Grammar} {s owner : Symbol} {u w w' rest rest' : List Symbol}
  {trees trees' : List DerivationTree}

/-- Two alternatives of a symbol that derive the starts of one input are the same, if what is left
of it may follow the symbol. -/
theorem eq_of_spans_body (hg : g.LeadExact) (h : g.isPredictive.outcome = .ok true)
    {p q : Production} (hp : g.HasAlternative s p) (hq : g.HasAlternative s q)
    (hspans : g.Spans p.body trees w) (hspans' : g.Spans q.body trees' w')
    (hw : ∀ c ∈ w, g.isTerminal c = true) (hw' : ∀ c ∈ w', g.isTerminal c = true)
    (hrest : g.MayFollow s rest) (hrest' : g.MayFollow s rest')
    (hinput : w ++ rest = w' ++ rest') : p = q := by
  have hfirst := exists_first_eq_ok_of_isPredictive h
  cases hc : w ++ rest with
  | nil =>
    -- Nothing is derived, and both alternatives are selected by the token for the empty string.
    have hnil := (List.append_eq_nil_iff.1 hc).1
    have hnil' := (List.append_eq_nil_iff.1 (hinput ▸ hc)).1
    have hsel : g.Selects s p epsilon :=
      .inl (epsilon_mem_firstMembers_lead hg hfirst hp (hnil ▸ hspans))
    have hsel' : g.Selects s q epsilon :=
      .inl (epsilon_mem_firstMembers_lead hg hfirst hq (hnil' ▸ hspans'))
    exact eq_of_selects h hg.leftSides_nodup hp hq hsel hsel'
  | cons c later =>
    have hsel : g.Selects s p c := selects_of_spans hg hfirst hp hspans hw hrest hc
    have hsel' : g.Selects s q c :=
      selects_of_spans hg hfirst hq hspans' hw' hrest' (hinput ▸ hc)
    exact eq_of_selects h hg.leftSides_nodup hp hq hsel hsel'

/-- Trees over the end of an alternative are determined by the input that starts with their leaves,
if what is left of it may follow the alternative's non-terminal. -/
theorem spans_unique (hg : g.LeadExact) (h : g.isPredictive.outcome = .ok true)
    (hu : g.IsTail owner u) (hspans : g.Spans u trees w) (hspans' : g.Spans u trees' w')
    (hw : ∀ c ∈ w, g.isTerminal c = true) (hw' : ∀ c ∈ w', g.isTerminal c = true)
    (hrest : g.MayFollow owner rest) (hrest' : g.MayFollow owner rest')
    (hinput : w ++ rest = w' ++ rest') : trees = trees' ∧ w = w' := by
  induction hspans generalizing owner trees' w' rest rest' with
  | nil =>
    cases hspans'
    exact ⟨rfl, rfl⟩
  | @leaf s u trees w hlater ih =>
    obtain ⟨hs, hw⟩ := List.forall_mem_cons.1 hw
    cases hspans' with
    | @leaf _ _ trees' w' hlater' =>
      obtain ⟨-, hw'⟩ := List.forall_mem_cons.1 hw'
      have hinput : w ++ rest = w' ++ rest' := (List.cons.inj hinput).2
      obtain ⟨rfl, rfl⟩ := ih hu.tail hlater' hw hw' hrest hrest' hinput
      exact ⟨rfl, rfl⟩
    | node hp' _ _ =>
      exact absurd hp' (not_hasAlternative_of_isTerminal hs _)
  | @node s p children v u trees w hp hbelow hlater ihbelow ihlater =>
    cases hspans' with
    | leaf _ _ =>
      have hs : g.isTerminal s = true := hw' s List.mem_cons_self
      exact absurd hp (not_hasAlternative_of_isTerminal hs p)
    | @node _ p' children' v' _ trees' w' hp' hbelow' hlater' =>
      have hfirst := exists_first_eq_ok_of_isPredictive h
      obtain ⟨hv, hleft⟩ := List.forall_mem_append.1 hw
      obtain ⟨hv', hleft'⟩ := List.forall_mem_append.1 hw'
      rw [List.append_assoc, List.append_assoc] at hinput
      have hnext : g.MayFollow s (w ++ rest) := mayFollow_append hg hfirst hu hlater hleft hrest
      have hnext' : g.MayFollow s (w' ++ rest') :=
        mayFollow_append hg hfirst hu hlater' hleft' hrest'
      obtain rfl := eq_of_spans_body hg h hp hp' hbelow hbelow' hv hv' hnext hnext' hinput
      obtain ⟨rfl, rfl⟩ := ihbelow (isTail_body hp) hbelow' hv hv' hnext hnext' hinput
      have hinput : w ++ rest = w' ++ rest' := List.append_cancel_left hinput
      obtain ⟨rfl, rfl⟩ := ihlater hu.tail hlater' hleft hleft' hrest hrest' hinput
      exact ⟨rfl, rfl⟩

/-- A tree of terminals from a non-terminal is a node with trees over the body of an alternative. -/
theorem exists_node_of_isTree {a : Symbol} {tree : DerivationTree}
    (ha : g.isNonTerminal a = true) (hw : ∀ c ∈ w, g.isTerminal c = true)
    (h : g.IsTree a tree w) :
    ∃ p children, tree = .node a p children ∧ g.HasAlternative a p ∧ g.Spans p.body children w := by
  rw [IsTree] at h
  cases h with
  | leaf _ _ =>
    have hterminal := hw a List.mem_cons_self
    rw [isNonTerminal, hterminal] at ha
    cases ha
  | @node _ p children v _ _ _ hp hbelow hlater =>
    rw [eq_nil_of_spans_nil hlater, List.append_nil]
    exact ⟨p, children, rfl, hp, hbelow⟩

/-- In a grammar that the report calls LL(1), and in which one leading symbol is enough, a
non-terminal has one derivation tree at most for each string of terminals. -/
theorem derivationTree_unique (hg : g.LeadExact) (h : g.isPredictive.outcome = .ok true)
    {a : Symbol} (ha : g.isNonTerminal a = true) (hw : ∀ c ∈ w, g.isTerminal c = true)
    {tree tree' : DerivationTree} (htree : g.IsTree a tree w) (htree' : g.IsTree a tree' w) :
    tree = tree' := by
  obtain ⟨p, children, rfl, hp, hbelow⟩ := exists_node_of_isTree ha hw htree
  obtain ⟨q, children', rfl, hq, hbelow'⟩ := exists_node_of_isTree ha hw htree'
  obtain rfl := eq_of_spans_body hg h hp hq hbelow hbelow' hw hw (mayFollow_nil g a)
    (mayFollow_nil g a) rfl
  obtain ⟨rfl, -⟩ := spans_unique hg h (isTail_body hp) hbelow hbelow' hw hw (mayFollow_nil g a)
    (mayFollow_nil g a) rfl
  rfl

/-- The tree of a sum of two terms is the only one of its tokens. -/
theorem derivationTree_unique_sums :
    sums.LeadExact ∧ sums.isPredictive.outcome = .ok true ∧ sums.isNonTerminal "E" = true ∧
    (∀ c ∈ ["num", "+", "num"], sums.isTerminal c = true) ∧
    sums.IsTree "E" twoTerms ["num", "+", "num"] ∧
    ∀ tree, sums.IsTree "E" tree ["num", "+", "num"] → tree = twoTerms :=
  have hterminals : ∀ c ∈ ["num", "+", "num"], sums.isTerminal c = true := by decide
  ⟨leadExact_sums, isPredictive_sums, by decide, hterminals, isTree_twoTerms, fun _ h =>
    derivationTree_unique leadExact_sums isPredictive_sums (by decide) hterminals h isTree_twoTerms⟩

end Predictive.Grammar
