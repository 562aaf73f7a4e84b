import Predictive.Proofs.FollowContext
import Predictive.Proofs.SelectionSets

/-!
# Lookahead along a derivation

Input that is derived from the end of an alternative goes on with what is left for the alternative's
non-terminal. `MayFollow` is what is kept from symbol to symbol: the next token, if there is one, is
in FOLLOW of the symbol. Main statements: it passes from a non-terminal to the symbols of its
alternatives (`mayFollow_append`), and under it the next token selects the alternative that the
derivation takes (`selects_of_spans`).
-/

namespace Predictive.Grammar

/-- What is left of the input may stand after `s`: its first token, if it has one, is in FOLLOW
of `s`. -/
def MayFollow (g : Grammar) (s : Symbol) (rest : List Symbol) : Prop :=
  ∀ c later, rest = c :: later → c ∈ g.followMembers s

variable {g : Grammar} {s owner : Symbol} {u w rest : List Symbol} {trees : List DerivationTree}

/-- Nothing may stand after any symbol. -/
theorem mayFollow_nil (g : Grammar) (s : Symbol) : g.MayFollow s [] := by
  intro c later h
  cases h

/-- The token for the empty string is no leaf. -/
theorem epsilon_notMem_of_spans (hg : g.LeadExact) (hu : epsilon ∉ u) (h : g.Spans u trees w) :
    epsilon ∉ w := by
  induction h with
  | nil => exact hu
  | leaf s _ ih =>
    rw [List.mem_cons, not_or] at hu ⊢
    exact ⟨hu.1, ih hu.2⟩
  | node hp _ _ ihbelow ihlater =>
    rw [List.mem_cons, not_or] at hu
    rw [List.mem_append, not_or]
    exact ⟨ihbelow (hg.epsilon_notMem_body hp), ihlater hu.2⟩

/-- The token for the empty string is in no tail. -/
theorem IsTail.epsilon_notMem (h : g.IsTail owner u) (hg : g.LeadExact) : epsilon ∉ u := by
  obtain ⟨p, before, hp, hbody⟩ := h
  have hnot := hg.epsilon_notMem_body hp
  rw [hbody, List.mem_append, not_or] at hnot
  exact hnot.2

/-- What comes after the end of an alternative may stand after its non-terminal; then what is
derived from the end, and it, may stand after the symbol before the end. -/
theorem mayFollow_append (hg : g.LeadExact) (hfirst : ∀ s, ∃ set, g.first s = .ok set)
    (hu : g.IsTail owner (s :: u)) (h : g.Spans u trees w) (hw : ∀ c ∈ w, g.isTerminal c = true)
    (hrest : g.MayFollow owner rest) : g.MayFollow s (w ++ rest) := by
  intro c later hc
  cases w with
  | nil => exact followMembers_subset_of_tail hg hfirst hu h (hrest c later hc)
  | cons d w =>
    obtain ⟨rfl, -⟩ := List.cons.inj hc
    have hd : d ≠ epsilon := by
      rintro rfl
      exact epsilon_notMem_of_spans hg (hu.tail.epsilon_notMem hg) h List.mem_cons_self
    exact mem_followMembers_of_next hg hfirst hu h (hw d List.mem_cons_self) hd

/-- An alternative from which nothing is derived has a leading symbol that may be empty. -/
theorem epsilon_mem_firstMembers_lead (hg : g.LeadExact)
    (hfirst : ∀ s, ∃ set, g.first s = .ok set) {p : Production} (hp : g.HasAlternative s p)
    (h : g.Spans p.body trees []) : epsilon ∈ g.firstMembers p.lead := by
  obtain ⟨set, hset⟩ := hfirst p.lead
  refine (mem_firstMembers_iff hset).2 ⟨?_, hg.epsilon_isTerminal⟩
  rcases hg.leads_epsilon_of_spans (hg.emptyLast_body hp) h with hnil | ⟨y, hy, hlead⟩
  · rw [hg.lead_of_body_eq_nil hp hnil]
  · rw [hg.lead_of_body hp hy]
    exact hlead

/-- The next token selects the alternative that a derivation takes. -/
theorem selects_of_spans (hg : g.LeadExact) (hfirst : ∀ s, ∃ set, g.first s = .ok set)
    {p : Production} (hp : g.HasAlternative s p) (h : g.Spans p.body trees w)
    (hw : ∀ c ∈ w, g.isTerminal c = true) (hrest : g.MayFollow s rest) {c : Symbol}
    {later : List Symbol} (hc : w ++ rest = c :: later) : g.Selects s p c := by
  cases w with
  | nil => exact .inr ⟨epsilon_mem_firstMembers_lead hg hfirst hp h, hrest c later hc⟩
  | cons d w =>
    obtain ⟨rfl, -⟩ := List.cons.inj hc
    obtain ⟨y, u, hbody, hlead⟩ := hg.leads_of_spans_cons (hg.emptyLast_body hp) h
    obtain ⟨set, hset⟩ := hfirst p.lead
    refine .inl ((mem_firstMembers_iff hset).2 ⟨?_, hw d List.mem_cons_self⟩)
    rw [hg.lead_of_body hp hbody]
    exact hlead

/-- The report calls sums LL(1). -/
theorem isPredictive_sums : sums.isPredictive.outcome = .ok true := by decide +kernel

end Predictive.Grammar
