import Predictive.Proofs.FollowStacks
import Predictive.Proofs.Verdict

/-!
# What the analysis depends on

FIRST of a symbol looks at the leading symbols that can be reached from it, and FOLLOW at the places
of the symbols that inheritance reaches, of which only the owner and the next symbol count. So
grammars that agree on these have the same sets. Main statements: FIRST is the same in grammars that
lead alike (`LeadsAlike.first_eq`); FOLLOW is the same, under every stack, in grammars with the same
FIRST sets and the same places (`outcome_followFrom_eq_of_hasPlace_iff`); and so is the verdict in
grammars that lead alike and overlap alike (`outcome_isPredictive_eq_of_overlaps_iff`).
-/

namespace Predictive.Grammar

open Relation (ReflTransGen TransGen)

/-! ## FIRST -/

/-- From the symbols of a set, which leading symbols do not leave, two grammars lead to the same
symbols. -/
structure LeadsAlike (g g' : Grammar) (within : Set Symbol) : Prop where
  /-- Leading symbols do not leave the set. -/
  mem_of_leadsTo : ∀ a ∈ within, ∀ b, g.LeadsTo a b → b ∈ within
  /-- The grammars lead to the same symbols. -/
  leadsTo_iff : ∀ a ∈ within, ∀ b, g'.LeadsTo a b ↔ g.LeadsTo a b

variable {g g' : Grammar} {within : Set Symbol} {s t : Symbol} {set : SymbolSet}

/-- A symbol is a terminal exactly when it leads nowhere, for a rule has an alternative. -/
theorem isTerminal_iff_not_leadsTo : g.isTerminal s = true ↔ ∀ t, ¬ g.LeadsTo s t := by
  constructor
  · exact not_leadsTo_of_isTerminal
  · intro h
    rw [← rule?_eq_none_iff, Option.eq_none_iff_forall_ne_some]
    intro r hr
    obtain ⟨p, hp⟩ := List.exists_mem_of_ne_nil _ r.alternatives_ne_nil
    exact h p.lead ⟨r, hr, p, hp, rfl⟩

/-- Grammars that lead to the same symbols have the same terminals. -/
theorem isTerminal_eq_of_leadsTo_iff (h : ∀ b, g'.LeadsTo s b ↔ g.LeadsTo s b) :
    g'.isTerminal s = g.isTerminal s := by
  rw [Bool.eq_iff_iff, isTerminal_iff_not_leadsTo, isTerminal_iff_not_leadsTo]
  simp only [h]

namespace LeadsAlike

theorem symm (h : LeadsAlike g g' within) : LeadsAlike g' g within where
  mem_of_leadsTo a ha b hab := h.mem_of_leadsTo a ha b ((h.leadsTo_iff a ha b).1 hab)
  leadsTo_iff a ha b := (h.leadsTo_iff a ha b).symm

/-- Grammars lead alike from all symbols if they lead to the same ones. -/
theorem of_leadsTo_iff (h : ∀ a b, g'.LeadsTo a b ↔ g.LeadsTo a b) :
    LeadsAlike g g' Set.univ where
  mem_of_leadsTo _ _ _ _ := trivial
  leadsTo_iff a _ b := h a b

/-- What is reached from a symbol of the set is in the set, and is reached in the other grammar. -/
theorem reaches (h : LeadsAlike g g' within) (hs : s ∈ within)
    (hst : ReflTransGen g.LeadsTo s t) : t ∈ within ∧ ReflTransGen g'.LeadsTo s t := by
  induction hst with
  | refl => exact ⟨hs, .refl⟩
  | @tail a b _ hab ih =>
    exact ⟨h.mem_of_leadsTo a ih.1 b hab, ih.2.tail ((h.leadsTo_iff a ih.1 b).2 hab)⟩

/-- The same terminals are reached from a symbol of the set. -/
theorem reaches_isTerminal_iff (h : LeadsAlike g g' within) (hs : s ∈ within) :
    ReflTransGen g'.LeadsTo s t ∧ g'.isTerminal t = true ↔
      ReflTransGen g.LeadsTo s t ∧ g.isTerminal t = true := by
  constructor
  · rintro ⟨hst, ht⟩
    obtain ⟨hmem, hst'⟩ := h.symm.reaches hs hst
    exact ⟨hst', isTerminal_eq_of_leadsTo_iff (h.leadsTo_iff t hmem) ▸ ht⟩
  · rintro ⟨hst, ht⟩
    obtain ⟨hmem, hst'⟩ := h.reaches hs hst
    exact ⟨hst', isTerminal_eq_of_leadsTo_iff (h.leadsTo_iff t hmem) ▸ ht⟩

/-- Where every walk along leading symbols ends in one grammar, it does in the other. -/
theorem acc (h : LeadsAlike g g' within) (hs : s ∈ within)
    (hacc : Acc (fun b a => g.LeadsTo a b) s) : Acc (fun b a => g'.LeadsTo a b) s := by
  induction hacc with
  | intro s _ ih =>
    refine ⟨s, fun b hsb => ?_⟩
    have hsb : g.LeadsTo s b := (h.leadsTo_iff s hs b).1 hsb
    exact ih b hsb (h.mem_of_leadsTo s hs b hsb)

/-- FIRST of a symbol of the set is there in the other grammar, with the same members. -/
theorem first_eq_ok (h : LeadsAlike g g' within) (hs : s ∈ within) (hset : g.first s = .ok set) :
    g'.first s = .ok set := by
  have hacc := h.acc hs (exists_first_eq_ok_iff_acc.1 ⟨set, hset⟩)
  obtain ⟨set', hset'⟩ := exists_first_eq_ok_iff_acc.2 hacc
  have heq : set' = set := by
    ext t
    rw [mem_of_firstFrom_eq_ok hset', mem_of_firstFrom_eq_ok hset, h.reaches_isTerminal_iff hs]
  rw [← heq]
  exact hset'

/-- FIRST of a symbol of the set is the same in both grammars, or fails in both. -/
theorem first_eq (h : LeadsAlike g g' within) (hs : s ∈ within) : g'.first s = g.first s :=
  eq_of_forall_eq_ok_iff fun _ => ⟨h.symm.first_eq_ok hs, h.first_eq_ok hs⟩

end LeadsAlike

/-! ## FOLLOW -/

/-- An alternative of `owner` has `s`, and right after it `next?`, which is nothing at the end. -/
def HasPlace (g : Grammar) (owner s : Symbol) (next? : Option Symbol) : Prop :=
  ∃ before after, g.Occurs owner before s after ∧ after.head? = next?

variable {owner : Symbol} {stack : List Symbol}

/-- A symbol that stands nowhere has no place. -/
theorem occursNowhere_iff_not_hasPlace :
    g.OccursNowhere s ↔ ∀ owner next?, ¬ g.HasPlace owner s next? := by
  constructor
  · rintro h owner next? ⟨before, after, hocc, -⟩
    exact h owner before after hocc
  · exact fun h owner before after hocc => h owner _ ⟨before, after, hocc, rfl⟩

/-- A place before another symbol. -/
theorem hasPlace_some_iff {next : Symbol} :
    g.HasPlace owner s (some next) ↔
      ∃ before rest, g.Occurs owner before s (next :: rest) := by
  constructor
  · rintro ⟨before, after, hocc, hnext⟩
    obtain ⟨rest, rfl⟩ := List.head?_eq_some_iff.1 hnext
    exact ⟨before, rest, hocc⟩
  · rintro ⟨before, rest, hocc⟩
    exact ⟨before, next :: rest, hocc, rfl⟩

/-- A place at the end of an alternative. -/
theorem hasPlace_none_iff :
    g.HasPlace owner s none ↔ ∃ before, g.Occurs owner before s [] := by
  simp [HasPlace]

/-- A listed place is a place. -/
theorem hasPlace_of_mem_occurrences {o : Occurrence} (ho : o ∈ g.occurrences s) :
    g.HasPlace o.owner s o.next? := by
  obtain ⟨owner, before, after, hocc, rfl, hnext⟩ :=
    (exists_mem_occurrences_iff (P := fun a b => a = o.owner ∧ b = o.next?)).1 ⟨o, ho, rfl, rfl⟩
  exact ⟨before, after, hocc, hnext⟩

/-- Inheritance goes by places. -/
theorem inherits_iff_hasPlace :
    g.Inherits s owner ↔ g.HasPlace owner s none ∧ owner ≠ s ∨
      ∃ next, g.HasPlace owner s (some next) ∧ epsilon ∈ g.firstMembers next := by
  simp only [Inherits, hasPlace_none_iff, hasPlace_some_iff]
  grind

/-- What a symbol gathers goes by places. -/
theorem gathers_iff_hasPlace :
    g.Gathers s t ↔ g.OccursNowhere s ∧ t = endMarker ∨
      ∃ owner next, g.HasPlace owner s (some next) ∧ t ∈ g.firstMembers next ∧ t ≠ epsilon := by
  simp only [Gathers, hasPlace_some_iff]
  grind

/-- Which FIRST sets FOLLOW of a symbol asks for goes by places. -/
theorem nextFirstDefined_iff_hasPlace :
    g.NextFirstDefined s ↔
      ∀ owner next, g.HasPlace owner s (some next) → ∃ set, g.first next = .ok set := by
  simp only [hasPlace_some_iff]
  constructor
  · rintro h owner next ⟨before, rest, hocc⟩
    exact h owner before next rest hocc
  · exact fun h owner before next rest hocc => h owner next ⟨before, rest, hocc⟩

/-- FOLLOW is there, with the same members, in a grammar with the same FIRST sets and the same
places. -/
theorem outcome_followFrom_eq_ok_of_hasPlace_iff
    (hplaces : ∀ owner s next?, g'.HasPlace owner s next? ↔ g.HasPlace owner s next?)
    (hfirst : ∀ s, g'.first s = g.first s) (hset : (g.followFrom stack s).outcome = .ok set) :
    (g'.followFrom stack s).outcome = .ok set := by
  by_cases hs : s ∈ stack
  · rw [outcome_followFrom_of_mem hs] at hset ⊢
    exact hset
  have hmembers : ∀ x, g'.firstMembers x = g.firstMembers x := by
    intro x
    rw [firstMembers, firstMembers, hfirst]
  have hinherits : g'.InheritsOutside stack = g.InheritsOutside stack := by
    funext a b
    simp only [InheritsOutside, inherits_iff_hasPlace, hplaces, hmembers]
  have hgathers : g'.Gathers = g.Gathers := by
    funext a b
    simp only [gathers_iff_hasPlace, occursNowhere_iff_not_hasPlace, hplaces, hmembers]
  have hdefined : g'.NextFirstDefined = g.NextFirstDefined := by
    funext a
    simp only [nextFirstDefined_iff_hasPlace, hplaces, hfirst]
  have hexists := (exists_followFrom_eq_ok_iff hs).1 ⟨set, hset⟩
  rw [← hinherits, ← hdefined] at hexists
  obtain ⟨set', hset'⟩ := (exists_followFrom_eq_ok_iff hs).2 hexists
  have heq : set' = set := by
    ext t
    rw [mem_followFrom_iff hs hset', mem_followFrom_iff hs hset, hinherits, hgathers]
  rw [← heq]
  exact hset'

/-- FOLLOW is the same, or fails, in grammars with the same FIRST sets and the same places. -/
theorem outcome_followFrom_eq_of_hasPlace_iff
    (hplaces : ∀ owner s next?, g'.HasPlace owner s next? ↔ g.HasPlace owner s next?)
    (hfirst : ∀ s, g'.first s = g.first s) (stack : List Symbol) (s : Symbol) :
    (g'.followFrom stack s).outcome = (g.followFrom stack s).outcome := by
  have hplaces' : ∀ owner s next?, g.HasPlace owner s next? ↔ g'.HasPlace owner s next? :=
    fun owner s next? => (hplaces owner s next?).symm
  refine eq_of_forall_eq_ok_iff fun set => ⟨?_, ?_⟩
  · exact outcome_followFrom_eq_ok_of_hasPlace_iff hplaces' fun x => (hfirst x).symm
  · exact outcome_followFrom_eq_ok_of_hasPlace_iff hplaces hfirst

/-! ## Selection sets and the verdict -/

/-- A selection set is the same where FIRST of the leading symbol is and, if the alternative may be
empty, FOLLOW of the non-terminal. -/
theorem outcome_selectionSet_eq {p : Production} (hfirst : g'.first p.lead = g.first p.lead)
    (hfollow : epsilon ∈ g.firstMembers p.lead → (g'.follow s).outcome = (g.follow s).outcome) :
    (g'.selectionSet s p).outcome = (g.selectionSet s p).outcome := by
  simp only [selectionSet, Traced.outcome_bind, Traced.outcome_ofExcept, hfirst]
  cases hlead : g.first p.lead with
  | error e => rfl
  | ok leadFirst =>
    rw [ok_bind, ok_bind]
    split
    next he =>
      rw [Traced.outcome_bind, Traced.outcome_bind,
        hfollow ((mem_firstMembers_of_eq_ok hlead).2 he)]
    next => rfl

/-- There is a verdict when leading symbols form no cycle, and it is whether no non-terminal has
alternatives that overlap. -/
theorem outcome_isPredictive_eq_ok_iff_overlaps {verdict : Bool} :
    g.isPredictive.outcome = .ok verdict ↔ (¬ ∃ x, TransGen g.LeadsTo x x) ∧
      (verdict = true ↔ ∀ s ∈ g.nonTerminals, ¬ g.Overlaps s) := by
  rw [outcome_isPredictive_eq_ok_iff, ← exists_report_eq_ok_iff]
  constructor
  · rintro ⟨reports, hreports, rfl⟩
    exact ⟨⟨reports, hreports⟩, all_disjoint_iff hreports⟩
  · rintro ⟨⟨reports, hreports⟩, hverdict⟩
    exact ⟨reports, hreports, Bool.eq_iff_iff.2 ((all_disjoint_iff hreports).trans hverdict.symm)⟩

/-- Grammars that lead to the same symbols have the same non-terminals. -/
theorem mem_nonTerminals_iff_of_leadsTo_iff (h : ∀ b, g'.LeadsTo s b ↔ g.LeadsTo s b) :
    s ∈ g'.nonTerminals ↔ s ∈ g.nonTerminals := by
  rw [mem_nonTerminals_iff, mem_nonTerminals_iff, ← isTerminal_eq_false_iff,
    ← isTerminal_eq_false_iff, isTerminal_eq_of_leadsTo_iff h]

/-- The verdict is the same, or fails, in grammars that lead alike and overlap alike. -/
theorem outcome_isPredictive_eq_of_overlaps_iff (hleads : ∀ a b, g'.LeadsTo a b ↔ g.LeadsTo a b)
    (hoverlaps : ∀ s ∈ g.nonTerminals, (g'.Overlaps s ↔ g.Overlaps s)) :
    g'.isPredictive.outcome = g.isPredictive.outcome := by
  have heq : g'.LeadsTo = g.LeadsTo := by
    funext a b
    exact propext (hleads a b)
  have hnone : (∀ s ∈ g'.nonTerminals, ¬ g'.Overlaps s) ↔ ∀ s ∈ g.nonTerminals, ¬ g.Overlaps s := by
    refine forall_congr' fun s => ?_
    rw [mem_nonTerminals_iff_of_leadsTo_iff (hleads s)]
    exact forall_congr' fun hs => not_congr (hoverlaps s hs)
  refine eq_of_forall_eq_ok_iff fun verdict => ?_
  rw [outcome_isPredictive_eq_ok_iff_overlaps, outcome_isPredictive_eq_ok_iff_overlaps, heq, hnone]

end Predictive.Grammar
