import Predictive.Symbol

/-!
# Symbols still to be visited

A walk over symbols that never visits one twice ends, for the number of symbols that it has not
visited falls at every step. Main statement: visiting a new symbol lowers that number
(`remaining_lt`).
-/

namespace Predictive

/-- The number of entries of a list that have not been visited. -/
def remaining (all visited : List Symbol) : Nat :=
  all.countP (· ∉ visited)

/-- Fewer entries remain when more symbols have been visited. -/
theorem remaining_le {all visited visited' : List Symbol} (h : visited ⊆ visited') :
    remaining all visited' ≤ remaining all visited :=
  List.countP_mono_left fun u _ hu => by
    simp only [decide_eq_true_eq] at hu ⊢
    exact fun hm => hu (h hm)

/-- Visiting a symbol of the list for the first time lowers the number that remains. -/
theorem remaining_lt {all visited visited' : List Symbol} {s : Symbol} (h : visited ⊆ visited')
    (hs : s ∈ all) (hv : s ∉ visited) (hv' : s ∈ visited') :
    remaining all visited' < remaining all visited := by
  induction all with
  | nil => exact absurd hs List.not_mem_nil
  | cons t l ih =>
    simp only [remaining, List.countP_cons] at ih ⊢
    have hle : l.countP (· ∉ visited') ≤ l.countP (· ∉ visited) := remaining_le h
    by_cases hst : t = s
    · subst hst
      simp only [hv, hv', not_true_eq_false, not_false_eq_true, decide_true, decide_false]
      simpa using Nat.lt_succ_of_le hle
    · have hlt := ih ((List.mem_cons.1 hs).resolve_left (Ne.symm hst))
      by_cases ht : t ∈ visited
      · simpa [ht, h ht] using hlt
      · by_cases ht' : t ∈ visited'
        · simp only [ht, ht', not_true_eq_false, not_false_eq_true, decide_true, decide_false]
          simpa using Nat.lt_succ_of_lt hlt
        · simpa [ht, ht'] using hlt

end Predictive
