import Predictive.Proofs.FollowEquations
import Predictive.Proofs.LeadExact

/-!
# FOLLOW sets and what stands after a symbol

The FOLLOW equations speak of the symbols next to each other in an alternative. This module carries
them over to the leaves of derivation trees, in the grammars in which one leading symbol is enough.
Trees over symbols that end the body of an alternative (`IsTail`) stand before whatever follows its
non-terminal. Main statements: FOLLOW of the first root holds what comes after it, whether that is
the first leaf of the other trees (`mem_followMembers_of_next`) or, if they have no leaves, what
follows the non-terminal (`followMembers_subset_of_tail`); and the same goes for leaves, of which
FOLLOW of each holds the next one (`mem_followMembers_of_adjacent`).
-/

namespace Predictive.Grammar

/-- Symbols that end the body of an alternative of `owner`. -/
def IsTail (g : Grammar) (owner : Symbol) (u : List Symbol) : Prop :=
  ∃ p before, g.HasAlternative owner p ∧ p.body = before ++ u

variable {g : Grammar} {s t owner : Symbol} {u w : List Symbol} {trees : List DerivationTree}

/-- The body of an alternative ends it. -/
theorem isTail_body {p : Production} (h : g.HasAlternative s p) : g.IsTail s p.body :=
  ⟨p, [], h, rfl⟩

/-- The symbols after the first of a tail are a tail. -/
theorem IsTail.tail (h : g.IsTail owner (s :: u)) : g.IsTail owner u := by
  obtain ⟨p, before, hp, hbody⟩ := h
  exact ⟨p, before ++ [s], hp, by rw [hbody, List.append_assoc, List.singleton_append]⟩

/-- The first symbol of a tail stands before the others. -/
theorem IsTail.occurs (h : g.IsTail owner (s :: u)) : ∃ before, g.Occurs owner before s u := by
  obtain ⟨p, before, hp, hbody⟩ := h
  refine ⟨before, p, hp, ?_⟩
  rw [Production.body] at hbody
  split at hbody
  · simp at hbody
  · exact hbody

/-- In a tail, only the last symbol may be empty. -/
theorem IsTail.emptyLast (h : g.IsTail owner u) (hg : g.LeadExact) : g.EmptyLast u := by
  obtain ⟨p, before, hp, hbody⟩ := h
  exact EmptyLast.of_append (hbody ▸ hg.emptyLast_body hp)

section

variable (hg : g.LeadExact) (hfirst : ∀ s, ∃ set, g.first s = .ok set)

include hg hfirst

/-- What follows a non-terminal follows a symbol in a body after which the trees have no leaves. -/
theorem followMembers_subset_of_tail (hu : g.IsTail owner (s :: u)) (h : g.Spans u trees []) :
    g.followMembers owner ⊆ g.followMembers s := by
  obtain ⟨before, hocc⟩ := hu.occurs
  rcases hg.leads_epsilon_of_spans (hu.tail.emptyLast hg) h with rfl | ⟨y, rfl, hy⟩
  · by_cases hs : owner = s
    · rw [hs]
    · exact followMembers_subset_of_inherits hfirst (.inl ⟨before, hocc, hs⟩)
  · obtain ⟨set, hset⟩ := hfirst y
    have hnullable : epsilon ∈ g.firstMembers y :=
      (mem_firstMembers_iff hset).2 ⟨hy, hg.epsilon_isTerminal⟩
    exact followMembers_subset_of_inherits hfirst (.inr ⟨before, y, [], hocc, hnullable⟩)

/-- The first leaf after a symbol in a body follows the symbol. -/
theorem mem_followMembers_of_next (hu : g.IsTail owner (s :: u)) (h : g.Spans u trees (t :: w))
    (ht : g.isTerminal t = true) (hte : t ≠ epsilon) : t ∈ g.followMembers s := by
  obtain ⟨before, hocc⟩ := hu.occurs
  obtain ⟨y, rest, rfl, hy⟩ := hg.leads_of_spans_cons (hu.tail.emptyLast hg) h
  obtain ⟨set, hset⟩ := hfirst y
  have hmem : t ∈ g.firstMembers y := (mem_firstMembers_iff hset).2 ⟨hy, ht⟩
  exact mem_followMembers_of_gathers hfirst (.inr ⟨owner, before, y, rest, hocc, hmem, hte⟩)

/-- What follows a non-terminal follows the last leaf over the end of a body. -/
theorem followMembers_subset_of_last (hu : g.IsTail owner u) (h : g.Spans u trees (w ++ [s])) :
    g.followMembers owner ⊆ g.followMembers s := by
  generalize hx : w ++ [s] = x at h
  induction h generalizing owner w with
  | nil => simp at hx
  | @leaf y u trees w' hlater ih =>
    cases w with
    | nil =>
      obtain ⟨rfl, rfl⟩ := List.cons.inj hx
      exact followMembers_subset_of_tail hg hfirst hu hlater
    | cons c w =>
      obtain ⟨-, hx⟩ := List.cons.inj hx
      exact ih hu.tail hx
  | @node y p children v u trees w' hp hbelow hlater ihbelow ihlater =>
    rcases List.eq_nil_or_concat w' with rfl | ⟨w', c, rfl⟩
    · rw [List.append_nil] at hx
      exact (followMembers_subset_of_tail hg hfirst hu hlater).trans (ihbelow (isTail_body hp) hx)
    · rw [List.concat_eq_append, ← List.append_assoc] at hx
      obtain ⟨-, hc⟩ := List.append_inj' hx rfl
      exact ihlater hu.tail (w := w') (by rw [hc, List.concat_eq_append])

/-- A leaf over the end of a body is followed by the next leaf. -/
theorem mem_followMembers_of_adjacent {before after : List Symbol} (hu : g.IsTail owner u)
    (h : g.Spans u trees (before ++ s :: t :: after)) (ht : g.isTerminal t = true)
    (hte : t ≠ epsilon) : t ∈ g.followMembers s := by
  generalize hx : before ++ s :: t :: after = x at h
  induction h generalizing owner before after with
  | nil => simp at hx
  | @leaf y u trees w' hlater ih =>
    cases before with
    | nil =>
      obtain ⟨rfl, rfl⟩ := List.cons.inj hx
      exact mem_followMembers_of_next hg hfirst hu hlater ht hte
    | cons c before =>
      obtain ⟨-, hx⟩ := List.cons.inj hx
      exact ih hu.tail hx
  | @node y p children v u trees w' hp hbelow hlater ihbelow ihlater =>
    rcases List.append_eq_append_iff.1 hx with ⟨a, rfl, ha⟩ | ⟨a, rfl, ha⟩
    · rcases a with _ | ⟨c, _ | ⟨d, a⟩⟩
      · have ha : [] ++ s :: t :: after = w' := ha
        exact ihlater hu.tail ha
      · -- The two leaves are the last of one tree and the first of those after it.
        obtain ⟨rfl, rfl⟩ : s = c ∧ t :: after = w' := List.cons.inj ha
        exact followMembers_subset_of_last hg hfirst (isTail_body hp) hbelow
          (mem_followMembers_of_next hg hfirst hu hlater ht hte)
      · obtain ⟨rfl, rfl, -⟩ : s = c ∧ t = d ∧ after = a ++ w' := by simpa using ha
        exact ihbelow (isTail_body hp) rfl
    · exact ihlater hu.tail ha.symm

end

end Predictive.Grammar
