import Mathlib.Data.List.Nodup
import Predictive.Analysis.Follow

/-!
# Where symbols stand

An alternative of a rule is written as what stands before a symbol, the symbol, and what stands
after it. Main statement: `occurrences` lists exactly these places (`exists_mem_occurrences_iff`,
`forall_mem_occurrences_iff`).
-/

namespace Predictive.Grammar

/-- A production is an alternative of one of the rules of a symbol. -/
def HasAlternative (g : Grammar) (owner : Symbol) (p : Production) : Prop :=
  ∃ r ∈ g.rules, r.nonTerminal = owner ∧ p ∈ r.alternatives

/-- An alternative of `owner` has `s` with `before` on its left and `after` on its right. -/
def Occurs (g : Grammar) (owner : Symbol) (before : List Symbol) (s : Symbol)
    (after : List Symbol) : Prop :=
  ∃ p, g.HasAlternative owner p ∧ p.symbols = before ++ s :: after

/-- A symbol stands in no alternative. -/
def OccursNowhere (g : Grammar) (s : Symbol) : Prop :=
  ∀ owner before after, ¬ g.Occurs owner before s after

variable {g : Grammar} {s : Symbol}

/-- The alternatives of the first rule of a symbol are alternatives of the symbol. -/
theorem hasAlternative_of_rule? {r : Rule} {p : Production} (hr : g.rule? s = some r)
    (hp : p ∈ r.alternatives) : g.HasAlternative s p :=
  ⟨r, (of_rule?_eq_some hr).1, (of_rule?_eq_some hr).2, hp⟩

/-- A symbol with an alternative is no terminal. -/
theorem isTerminal_eq_false_of_hasAlternative {p : Production} (h : g.HasAlternative s p) :
    g.isTerminal s = false := by
  obtain ⟨r, hr, hs, -⟩ := h
  exact isTerminal_eq_false_iff.2 ⟨r, hr, hs⟩

/-- A terminal has no alternative. -/
theorem not_hasAlternative_of_isTerminal (hs : g.isTerminal s = true) (p : Production) :
    ¬ g.HasAlternative s p := by
  intro hp
  rw [isTerminal_eq_false_of_hasAlternative hp] at hs
  cases hs

/-- Where the left-hand sides are distinct, the alternatives of a symbol are those of the first
rule of the symbol. -/
theorem exists_rule?_of_hasAlternative (hd : g.leftSides.Nodup) {p : Production}
    (h : g.HasAlternative s p) : ∃ r, g.rule? s = some r ∧ p ∈ r.alternatives := by
  obtain ⟨r, hr, hs, hp⟩ := h
  refine ⟨r, ?_, hp⟩
  obtain ⟨r', hr'⟩ : ∃ r', g.rule? s = some r' :=
    Option.isSome_iff_exists.1 (List.find?_isSome.2 ⟨r, hr, decide_eq_true hs⟩)
  obtain ⟨hmem, hs'⟩ := of_rule?_eq_some hr'
  rw [hr', List.inj_on_of_nodup_map hd hmem hr (hs'.trans hs.symm)]

/-- The indices of a symbol in a production. -/
theorem mem_positions_iff {p : Production} {i : Nat} :
    i ∈ positions s p ↔ p.symbols[i]? = some s := by
  simp [positions, List.mem_zipIdx_iff_getElem?]

/-- The places that `occurrences` lists. -/
theorem mem_occurrences_iff {o : Occurrence} :
    o ∈ g.occurrences s ↔
      g.HasAlternative o.owner o.production ∧ o.production.symbols[o.position]? = some s := by
  simp only [occurrences, List.mem_flatMap, List.mem_map, mem_positions_iff]
  constructor
  · rintro ⟨r, hr, p, hp, i, hi, rfl⟩
    exact ⟨⟨r, hr, rfl, hp⟩, hi⟩
  · rintro ⟨⟨r, hr, hs, hp⟩, hi⟩
    refine ⟨r, hr, o.production, hp, o.position, hi, ?_⟩
    rw [hs]

/-- What holds of the owner and the next symbol of a listed place holds of a place where the symbol
stands, and conversely. -/
theorem exists_mem_occurrences_iff {P : Symbol → Option Symbol → Prop} :
    (∃ o ∈ g.occurrences s, P o.owner o.next?) ↔
      ∃ owner before after, g.Occurs owner before s after ∧ P owner after.head? := by
  constructor
  · rintro ⟨o, ho, hP⟩
    obtain ⟨hp, hi⟩ := mem_occurrences_iff.1 ho
    obtain ⟨hlt, hget⟩ := List.getElem?_eq_some_iff.1 hi
    refine ⟨o.owner, o.production.symbols.take o.position,
      o.production.symbols.drop (o.position + 1), ⟨o.production, hp, ?_⟩, ?_⟩
    · rw [← hget, ← List.drop_eq_getElem_cons hlt, List.take_append_drop]
    · rw [List.head?_drop]
      exact hP
  · rintro ⟨owner, before, after, ⟨p, hp, hsymbols⟩, hP⟩
    have hnext : Occurrence.next? ⟨owner, p, before.length⟩ = after.head? := by
      rw [Occurrence.next?, List.head?_eq_getElem?, hsymbols]
      simp [List.getElem?_append_right]
    refine ⟨⟨owner, p, before.length⟩, mem_occurrences_iff.2 ⟨hp, ?_⟩, ?_⟩
    · simp [hsymbols]
    · rw [hnext]
      exact hP

/-- What holds of the owner and the next symbol of every listed place holds of every place where
the symbol stands, and conversely. -/
theorem forall_mem_occurrences_iff {P : Symbol → Option Symbol → Prop} :
    (∀ o ∈ g.occurrences s, P o.owner o.next?) ↔
      ∀ owner before after, g.Occurs owner before s after → P owner after.head? := by
  have h := (exists_mem_occurrences_iff (g := g) (s := s) (P := fun a b => ¬ P a b)).not
  simpa using h

/-- No place is listed exactly when the symbol stands in no alternative. -/
theorem occurrences_eq_nil_iff : g.occurrences s = [] ↔ g.OccursNowhere s := by
  rw [List.eq_nil_iff_forall_not_mem]
  exact forall_mem_occurrences_iff (P := fun _ _ => False)

end Predictive.Grammar
